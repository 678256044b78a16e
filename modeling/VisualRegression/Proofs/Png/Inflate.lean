import VisualRegression.Png.Codec
import VisualRegression.Proofs.Png.Fuel

/-!
# Blocks of bytes as they are

Blocks as they are written hold the bytes that they were made of, and reading them gives these bytes
again: `inflate?_storedBlocks`.
-/

namespace VisualRegression.Png

/-- The number of bytes in a block, twice: as it is and with all bits turned. -/
def storedLength (data : List UInt8) : List UInt8 :=
  [UInt8.ofNat data.length, UInt8.ofNat (data.length / 256),
    UInt8.ofNat (65535 - data.length), UInt8.ofNat ((65535 - data.length) / 256)]

/-- A block of bytes as they are; it says whether it is the last one. -/
def storedBlock (last : UInt8) (data : List UInt8) : List UInt8 :=
  last :: (storedLength data ++ data)

theorem storedBlocks_of_short {bytes : List UInt8} (h : bytes.length ≤ maxStored) :
    storedBlocks bytes = [storedBlock 1 bytes] := by
  have hdrop : bytes.drop maxStored = [] := List.drop_eq_nil_of_le h
  have htake : bytes.take maxStored = bytes := List.take_of_length_le h
  rw [storedBlocks]
  dsimp only
  rw [dif_pos hdrop, htake]
  rfl

theorem storedBlocks_of_long {bytes : List UInt8} (h : maxStored < bytes.length) :
    storedBlocks bytes =
      storedBlock 0 (bytes.take maxStored) :: storedBlocks (bytes.drop maxStored) := by
  have hdrop : bytes.drop maxStored ≠ [] := by
    intro he
    have := List.drop_eq_nil_iff.1 he
    omega
  rw [storedBlocks]
  dsimp only
  rw [dif_neg hdrop]
  rfl

theorem length_take_maxStored (bytes : List UInt8) : (bytes.take maxStored).length ≤ maxStored :=
  List.length_take_le _ _

/-- A property that a block of few bytes has, as last one or before others, is one of all blocks. -/
theorem forall_mem_storedBlocks {P : List UInt8 → Prop}
    (hP : ∀ last data, data.length ≤ maxStored → P (storedBlock last data)) (bytes : List UInt8) :
    ∀ block ∈ storedBlocks bytes, P block := by
  induction hn : bytes.length using Nat.strongRecOn generalizing bytes with
  | ind n ih =>
    rcases Nat.lt_or_ge maxStored bytes.length with hlong | hshort
    · rw [storedBlocks_of_long hlong]
      intro block hblock
      rcases List.mem_cons.1 hblock with rfl | hblock
      · exact hP 0 _ (length_take_maxStored bytes)
      · have hlt : (bytes.drop maxStored).length < n := by
          rw [List.length_drop]
          unfold maxStored at hlong ⊢
          omega
        exact ih _ hlt _ rfl block hblock
    · rw [storedBlocks_of_short hshort]
      intro block hblock
      rw [List.mem_singleton.1 hblock]
      exact hP 1 _ hshort

theorem length_storedLength (data : List UInt8) : (storedLength data).length = 4 := rfl

theorem length_storedBlock (last : UInt8) (data : List UInt8) :
    (storedBlock last data).length = data.length + 5 := by
  unfold storedBlock
  rw [List.length_cons, List.length_append, length_storedLength]
  omega

/-- Bytes at the beginning of an aligned stream are taken. -/
theorem take?_append {bytes : List UInt8} {n : Nat} (h : bytes.length = n) (rest : List UInt8) :
    BitStream.take? n ⟨0, 0, bytes ++ rest⟩ = some (bytes, .ofBytes rest) := by
  unfold BitStream.take?
  dsimp only
  rw [List.take_left' h, List.drop_left' h, if_pos h]
  rfl

/-- What follows the first byte of a block is read as the bytes that it was made of. -/
theorem readStored?_storedBlock {data : List UInt8} (h : data.length ≤ maxStored)
    (out : Array UInt8) (part left : Nat) (rest : List UInt8) :
    readStored? out ⟨part, left, storedLength data ++ (data ++ rest)⟩ =
      some (out ++ data.toArray, .ofBytes rest) := by
  unfold maxStored at h
  have hlength : (UInt8.ofNat data.length).toNat + 256 * (UInt8.ofNat (data.length / 256)).toNat =
      data.length := by
    simp only [UInt8.toNat_ofNat']
    omega
  have hcheck : (UInt8.ofNat (65535 - data.length)).toNat +
      256 * (UInt8.ofNat ((65535 - data.length) / 256)).toNat = 65535 - data.length := by
    simp only [UInt8.toNat_ofNat']
    omega
  unfold readStored? BitStream.align
  dsimp only
  rw [take?_append (length_storedLength data)]
  dsimp only [Option.bind_eq_bind, Option.bind_some, storedLength]
  rw [hlength, hcheck, if_pos rfl]
  unfold BitStream.ofBytes
  rw [take?_append rfl rest]
  rfl

/-- The two bits that name the kind of these blocks. -/
theorem bits?_two_zero (bytes : List UInt8) :
    BitStream.bits? 2 ⟨0, 7, bytes⟩ = some (0, ⟨0, 5, bytes⟩) := by
  simp [BitStream.bits?, BitStream.bit?]

/-- A block is read, and what follows it unless it is the last one. -/
theorem readBlocks?_storedBlock {data : List UInt8} (h : data.length ≤ maxStored) (fuel : Nat)
    (out : Array UInt8) {last : UInt8} (hlast : last = 0 ∨ last = 1) (rest : List UInt8) :
    readBlocks? (fuel + 1) out (.ofBytes (storedBlock last data ++ rest)) =
      if last = 1 then some (out ++ data.toArray, .ofBytes rest)
      else readBlocks? fuel (out ++ data.toArray) (.ofBytes rest) := by
  have hbit : (BitStream.ofBytes (storedBlock last data ++ rest)).bit? =
      some (last.toNat % 2, ⟨last.toNat / 2, 7, storedLength data ++ data ++ rest⟩) := rfl
  -- above the bit that says whether the block is the last one there is nothing in its byte
  have hhalf : last.toNat / 2 = 0 := by
    rcases hlast with rfl | rfl <;> rfl
  rw [readBlocks?, hbit, hhalf]
  dsimp only [Option.bind_eq_bind, Option.bind_some]
  rw [bits?_two_zero, List.append_assoc]
  dsimp only [Option.bind_some]
  rw [readStored?_storedBlock h]
  dsimp only [Option.bind_some]
  rcases hlast with rfl | rfl <;> rfl

/-- **Blocks are read as the bytes that they were made of.** -/
theorem readBlocks?_storedBlocks (bytes rest : List UInt8) (fuel : Nat) (out : Array UInt8)
    (hfuel : (storedBlocks bytes).length ≤ fuel) :
    readBlocks? fuel out (.ofBytes ((storedBlocks bytes).flatten ++ rest)) =
      some (out ++ bytes.toArray, .ofBytes rest) := by
  -- the induction is on the fuel, which covers the blocks; the bytes get fewer with each of them
  induction fuel generalizing bytes out with
  | zero =>
    rcases Nat.lt_or_ge maxStored bytes.length with hlong | hshort
    · rw [storedBlocks_of_long hlong] at hfuel
      cases hfuel
    · rw [storedBlocks_of_short hshort] at hfuel
      cases hfuel
  | succ fuel ih =>
    rcases Nat.lt_or_ge maxStored bytes.length with hlong | hshort
    · rw [storedBlocks_of_long hlong] at hfuel ⊢
      rw [List.flatten_cons, List.append_assoc,
        readBlocks?_storedBlock (length_take_maxStored bytes) fuel out (.inl rfl),
        if_neg (by decide), ih _ _ (Nat.le_of_succ_le_succ hfuel), Array.append_assoc,
        List.append_toArray (bytes.take maxStored),
        List.take_append_drop]
    · rw [storedBlocks_of_short hshort, List.flatten_cons, List.flatten_nil, List.append_nil,
        readBlocks?_storedBlock hshort fuel out (.inr rfl), if_pos rfl]

/-- The two bytes that name the method are those that are read. -/
theorem inflate?_method (rest : List UInt8) :
    inflate? (120 :: 1 :: rest) =
      (readBlocks? ((BitStream.ofBytes rest).size + 1) #[] (.ofBytes rest)).bind fun read =>
        (read.2.align.take? 4).bind fun _ => some read.1 := by
  have hmethod : (guard ((120 : UInt8).toNat % 16 = 8 ∧ (120 : UInt8).toNat / 16 ≤ 7) :
      Option Unit) = some () := rfl
  have hcheck : (guard (((120 : UInt8).toNat * 256 + (1 : UInt8).toNat) % 31 = 0) :
      Option Unit) = some () := if_pos (by decide)
  have hpreset : (guard ((1 : UInt8).toNat / 32 % 2 = 0) : Option Unit) = some () := rfl
  unfold inflate?
  dsimp only
  rw [hmethod, hcheck, hpreset]
  rfl

/-- **What is written as blocks as they are is read back**, whatever sum stands behind it. -/
theorem inflate?_storedBlocks (bytes : List UInt8) (sum : Nat) :
    inflate? (120 :: 1 :: ((storedBlocks bytes).flatten ++ wordBytes sum)) =
      some bytes.toArray := by
  have hfuel : (BitStream.ofBytes ((storedBlocks bytes).flatten ++ wordBytes sum)).size <
      (BitStream.ofBytes ((storedBlocks bytes).flatten ++ wordBytes sum)).size + 1 +
        (storedBlocks bytes).length := by
    omega
  have hsum : (BitStream.ofBytes (wordBytes sum)).align.take? 4 =
      some (wordBytes sum, .ofBytes []) := rfl
  rw [inflate?_method, readBlocks?_fuel (Nat.lt_succ_self _) hfuel,
    readBlocks?_storedBlocks bytes (wordBytes sum) _ #[] (Nat.le_add_left _ _), Option.bind_some,
    hsum, Option.bind_some, Array.empty_append]

end VisualRegression.Png
