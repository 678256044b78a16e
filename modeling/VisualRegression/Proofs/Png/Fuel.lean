import VisualRegression.Png.Inflate

/-!
# Compressed data is read to its end

The readers of compressed data count the steps that they may still take.  Reading never puts bits
back (`Shrinks`), and each step takes at least one off the stream, so that a count above the bits
that are left is never used up: any two such counts give the same, whether that is data or nothing.
The lengths of a code are counted by how many of them are still to come instead.  Main statements:
`readLengths?_fuel`, `readSymbols?_fuel` and `readBlocks?_fuel`.
-/

namespace VisualRegression.Png

open BitStream

variable {α β : Type} {s : BitStream}

/-! ## What is left of a stream -/

/-- What was read off the stream leaves no more bits than there were. -/
def Shrinks (s : BitStream) (read : Option (α × BitStream)) : Prop :=
  ∀ a s', read = some (a, s') → s'.size ≤ s.size

theorem shrinks_none : Shrinks s (none : Option (α × BitStream)) := nofun

theorem shrinks_some (a : α) : Shrinks s (some (a, s)) := by
  intro a' s' h
  cases h
  exact Nat.le_refl _

/-- Reading goes on from what is left. -/
theorem Shrinks.bind {read : Option (α × BitStream)} {f : α × BitStream → Option (β × BitStream)}
    (h : Shrinks s read) (hf : ∀ a s', read = some (a, s') → Shrinks s' (f (a, s'))) :
    Shrinks s (read.bind f) := by
  intro b s₂ hb
  obtain ⟨⟨a, s₁⟩, ha, hb⟩ := Option.bind_eq_some_iff.1 hb
  exact Nat.le_trans (hf a s₁ ha b s₂ hb) (h a s₁ ha)

/-- To find something out without reading takes nothing off the stream. -/
theorem Shrinks.bind_found {found : Option α} {f : α → Option (β × BitStream)}
    (h : ∀ a, Shrinks s (f a)) : Shrinks s (found.bind f) := by
  intro b s' hb
  obtain ⟨a, -, hb⟩ := Option.bind_eq_some_iff.1 hb
  exact h a b s' hb

theorem Shrinks.ite {p : Prop} [Decidable p] {read read' : Option (α × BitStream)}
    (h : Shrinks s read) (h' : Shrinks s read') : Shrinks s (if p then read else read') := by
  split
  · exact h
  · exact h'

theorem shrinks_bits? (n : Nat) (s : BitStream) : Shrinks s (s.bits? n) := by
  induction n generalizing s with
  | zero => exact shrinks_some 0
  | succ n ih =>
    have hbit : Shrinks s s.bit? := fun b s' h => by
      have hsize := bit?_size h
      omega
    exact hbit.bind fun b s₁ _ => (ih s₁).bind fun high s₂ _ => shrinks_some _

theorem shrinks_readBase? (bases : List (Nat × Nat)) (symbol : Nat) (s : BitStream) :
    Shrinks s (readBase? bases symbol s) :=
  .bind_found fun _ => (shrinks_bits? _ s).bind fun _ _ _ => shrinks_some _

theorem shrinks_decode? (c : HuffmanCode) (s : BitStream) : Shrinks s (c.decode? s) :=
  fun _ _ h => Nat.le_of_lt (HuffmanCode.decode?_size h)

theorem shrinks_take? (n : Nat) (s : BitStream) : Shrinks s (s.take? n) := by
  intro taken s' h
  obtain ⟨-, hbytes⟩ := take?_length h
  have hleft : s'.left = 0 := by
    unfold take? at h
    dsimp only at h
    split at h <;> cases h
    rfl
  unfold size
  rw [hleft, hbytes, List.length_append]
  omega

theorem shrinks_readStored? (out : Array UInt8) (s : BitStream) :
    Shrinks s (readStored? out s) := by
  have halign : Shrinks s (s.align.take? 4) := by
    intro header s' h
    refine Nat.le_trans (shrinks_take? 4 s.align header s' h) ?_
    unfold align size
    dsimp only
    omega
  refine halign.bind fun header s₁ _ => ?_
  dsimp only
  split
  · exact .ite ((shrinks_take? _ s₁).bind fun _ _ _ => shrinks_some _) shrinks_none
  · exact shrinks_none

/-! ## The lengths of a code -/

theorem shrinks_readLengthCode? (n : Nat) (s : BitStream) : Shrinks s (readLengthCode? n s) := by
  induction n generalizing s with
  | zero => exact shrinks_some []
  | succ n ih =>
    exact (shrinks_bits? 3 s).bind fun _ s₁ _ => (ih s₁).bind fun _ _ _ => shrinks_some _

theorem shrinks_readLengths? (code : HuffmanCode) (count fuel : Nat) (acc : List Nat)
    (s : BitStream) : Shrinks s (readLengths? code count fuel acc s) := by
  induction fuel generalizing acc s with
  | zero => exact shrinks_none
  | succ fuel ih =>
    refine .ite (shrinks_some _) (.ite shrinks_none ((shrinks_decode? code s).bind ?_))
    intro symbol s₁ _
    refine .ite (ih _ s₁) (.ite (.bind_found fun _ => ?_) (.ite ?_ ?_))
    · exact (shrinks_bits? 2 s₁).bind fun _ s₂ _ => ih _ s₂
    · exact (shrinks_bits? 3 s₁).bind fun _ s₂ _ => ih _ s₂
    · exact (shrinks_bits? 7 s₁).bind fun _ s₂ _ => ih _ s₂

/-- There is nothing to be read once there are too many lengths. -/
theorem readLengths?_of_lt (code : HuffmanCode) {count : Nat} {acc : List Nat}
    (h : count < acc.length) (fuel : Nat) (s : BitStream) :
    readLengths? code count fuel acc s = none := by
  cases fuel with
  | zero => rfl
  | succ fuel => rw [readLengths?, if_neg (Nat.ne_of_gt h), if_pos h]

/-- **The lengths of a code are read to their end**: each step adds one to those that there are. -/
theorem readLengths?_fuel (code : HuffmanCode) {count fuel fuel' : Nat} {acc : List Nat}
    (h : count < acc.length + fuel) (h' : count < acc.length + fuel') (s : BitStream) :
    readLengths? code count fuel acc s = readLengths? code count fuel' acc s := by
  induction fuel generalizing fuel' acc s with
  | zero => rw [readLengths?_of_lt code h, readLengths?_of_lt code h]
  | succ fuel ih =>
    rcases fuel' with _ | fuel'
    · rw [readLengths?_of_lt code h', readLengths?_of_lt code h']
    · have hgrown : ∀ (more : List Nat) (s : BitStream), 0 < more.length →
          readLengths? code count fuel (more ++ acc) s =
            readLengths? code count fuel' (more ++ acc) s := by
        intro more s hmore
        refine ih ?_ ?_ s <;> rw [List.length_append] <;> omega
      rw [readLengths?, readLengths?]
      refine ite_congr rfl (fun _ => rfl) fun _ => ite_congr rfl (fun _ => rfl) fun _ => ?_
      refine Option.bind_congr fun read _ => ?_
      refine ite_congr rfl (fun _ => hgrown [read.1] _ Nat.one_pos) fun _ =>
        ite_congr rfl (fun _ => ?_) fun _ => ite_congr rfl (fun _ => ?_) fun _ => ?_
      · refine Option.bind_congr fun previous _ => Option.bind_congr fun _ _ => ?_
        exact hgrown _ _ (by rw [List.length_replicate]; omega)
      · refine Option.bind_congr fun _ _ => hgrown _ _ (by rw [List.length_replicate]; omega)
      · refine Option.bind_congr fun _ _ => hgrown _ _ (by rw [List.length_replicate]; omega)

theorem shrinks_readCodes? (s : BitStream) : Shrinks s (readCodes? s) := by
  refine (shrinks_bits? 5 s).bind fun _ s₁ _ => (shrinks_bits? 5 s₁).bind fun _ s₂ _ => ?_
  refine (shrinks_bits? 4 s₂).bind fun _ s₃ _ => .bind_found fun _ => ?_
  refine (shrinks_readLengthCode? _ s₃).bind fun _ s₄ _ => .bind_found fun _ => ?_
  refine (shrinks_readLengths? _ _ _ _ s₄).bind fun _ s₅ _ => .bind_found fun _ => ?_
  exact .bind_found fun _ => .bind_found fun _ => shrinks_some _

/-! ## Symbols and blocks -/

theorem shrinks_readSymbols? (codes : BlockCodes) (fuel : Nat) (out : Array UInt8)
    (s : BitStream) : Shrinks s (readSymbols? codes fuel out s) := by
  induction fuel generalizing out s with
  | zero => exact shrinks_none
  | succ fuel ih =>
    refine (shrinks_decode? _ s).bind fun symbol s₁ _ =>
      .ite (ih _ s₁) (.ite (shrinks_some _) ?_)
    refine (shrinks_readBase? _ _ s₁).bind fun _ s₂ _ =>
      (shrinks_decode? _ s₂).bind fun _ s₃ _ => ?_
    exact (shrinks_readBase? _ _ s₃).bind fun _ s₄ _ => .ite shrinks_none (ih _ s₄)

/-- **The symbols of a block are read to their end**: each of them takes a bit off the stream. -/
theorem readSymbols?_fuel (codes : BlockCodes) {fuel fuel' : Nat} {s : BitStream}
    (h : s.size < fuel) (h' : s.size < fuel') (out : Array UInt8) :
    readSymbols? codes fuel out s = readSymbols? codes fuel' out s := by
  induction fuel generalizing fuel' out s with
  | zero => cases h
  | succ fuel ih =>
    rcases fuel' with _ | fuel'
    · cases h'
    · rw [readSymbols?, readSymbols?]
      refine Option.bind_congr fun read hread => ?_
      have hfirst := HuffmanCode.decode?_size hread
      refine ite_congr rfl (fun _ => ih ?_ ?_ _) fun _ => ite_congr rfl (fun _ => rfl) fun _ => ?_
      · omega
      · omega
      · refine Option.bind_congr fun length hlength => Option.bind_congr fun symbol hsymbol => ?_
        refine Option.bind_congr fun distance hdistance => ite_congr rfl (fun _ => rfl) fun _ => ?_
        have hlength := shrinks_readBase? _ _ _ _ _ hlength
        have hsymbol := shrinks_decode? _ _ _ _ hsymbol
        have hdistance := shrinks_readBase? _ _ _ _ _ hdistance
        refine ih ?_ ?_ _ <;> omega

/-- **Blocks are read to the last one**: each of them takes a bit off the stream. -/
theorem readBlocks?_fuel {fuel fuel' : Nat} {s : BitStream} (h : s.size < fuel)
    (h' : s.size < fuel') (out : Array UInt8) :
    readBlocks? fuel out s = readBlocks? fuel' out s := by
  induction fuel generalizing fuel' out s with
  | zero => cases h
  | succ fuel ih =>
    rcases fuel' with _ | fuel'
    · cases h'
    · rw [readBlocks?, readBlocks?]
      refine Option.bind_congr fun last hlast => Option.bind_congr fun kind hkind => ?_
      obtain ⟨kind, s₂⟩ := kind
      have hlast := bit?_size hlast
      have hkind := shrinks_bits? _ _ _ _ hkind
      -- whatever its kind, the block leaves fewer bits than there were before it
      have hnext : ∀ block : Array UInt8 × BitStream, block.2.size ≤ s₂.size →
          (if last.1 = 1 then pure block else readBlocks? fuel block.1 block.2) =
            if last.1 = 1 then pure block else readBlocks? fuel' block.1 block.2 := by
        intro block hblock
        refine ite_congr rfl (fun _ => rfl) fun _ => ih ?_ ?_ _ <;> omega
      dsimp only
      split
      · exact Option.bind_congr fun block hblock =>
          hnext block (shrinks_readStored? _ _ _ _ hblock)
      · exact Option.bind_congr fun block hblock =>
          hnext block (shrinks_readSymbols? _ _ _ _ _ _ hblock)
      · refine Option.bind_congr fun codes hcodes => Option.bind_congr fun block hblock => ?_
        exact hnext block (Nat.le_trans (shrinks_readSymbols? _ _ _ _ _ _ hblock)
          (shrinks_readCodes? _ _ _ hcodes))
      · rfl

end VisualRegression.Png
