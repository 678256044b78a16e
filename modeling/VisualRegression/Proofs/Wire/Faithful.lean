import VisualRegression.Proofs.Json.Integer
import VisualRegression.Proofs.Json.Plain
import VisualRegression.Proofs.Ordered.Set
import VisualRegression.Wire.Rect

/-!
# Writing and reading agree

Values of a type are written as JSON and read out of JSON.  The two agree, `Json.Faithful`, if what
is written of a proper value is plain and is read as that value, and if nothing but proper values is
read out of plain JSON.  There is one lemma for each way to build a codec: optional values, lists,
sets and entries by kind.
-/

namespace VisualRegression

namespace Json

variable {α : Type} {proper : α → Prop} {encode : α → Json} {decode : Json → Option α}
  {field : Option Json} {default a : α} {j : Json}

/-- **Writing and reading agree** on proper values. -/
structure Faithful (proper : α → Prop) (encode : α → Json) (decode : Json → Option α) : Prop where
  /-- What is written can stand in a text. -/
  plain {a : α} : proper a → (encode a).Plain
  /-- What is written is read back. -/
  decode_encode {a : α} : proper a → decode (encode a) = some a
  /-- What is read out of a text is proper, in whatever form it was given. -/
  proper_of_decode {j : Json} {a : α} : j.Plain → decode j = some a → proper a

/-- Writing and reading agree on all values. -/
abbrev FaithfulToAll (encode : α → Json) (decode : Json → Option α) : Prop :=
  Faithful (fun _ => True) encode decode

theorem Faithful.ofAll (hplain : ∀ a, (encode a).Plain)
    (hread : ∀ a, decode (encode a) = some a) : FaithfulToAll encode decode where
  plain _ := hplain _
  decode_encode _ := hread _
  proper_of_decode _ _ := trivial

/-! ## Fields of a structure -/

/-- What is read out of a field that has to be there is proper. -/
theorem Faithful.proper_of_required (hf : Faithful proper encode decode)
    (hplain : ∀ j, field = some j → j.Plain) (h : required? decode field = some a) : proper a := by
  obtain ⟨j, hj, hdecode⟩ := Option.bind_eq_some_iff.1 h
  exact hf.proper_of_decode (hplain j hj) hdecode

/-- What is read out of a field that may be missing is proper, if the default is. -/
theorem Faithful.proper_of_orDefault (hf : Faithful proper encode decode)
    (hdefault : proper default) (hplain : ∀ j, field = some j → j.Plain)
    (h : orDefault? default decode field = some a) : proper a := by
  cases field with
  | none =>
    cases h
    exact hdefault
  | some j => exact hf.proper_of_decode (hplain j rfl) h

/-- A field that may be missing or `null` is one with nothing as its default. -/
theorem optional?_eq_orDefault? (decode : Json → Option α) (field : Option Json) :
    optional? decode field = orDefault? none (toOption? decode) field := by
  cases field <;> rfl

/-! ## Numbers, texts and truth values -/

theorem toUInt8?_ofNat (n : UInt8) : toUInt8? (ofNat n.toNat) = some n := by
  have := n.toNat_lt
  simp only [toUInt8?, toInt?, ofNat]
  rw [if_pos (by omega)]
  simp

/-- A finite double is written and read; read out of a text, be it as an integer, it is finite. -/
theorem faithful_float : Faithful (·.isFinite = true) ofFloat toFloat? where
  plain _ := plain_ofFloat _
  decode_encode {x} h := by
    rw [ofFloat, if_pos h]
    rfl
  proper_of_decode hj h := by
    cases hj with
    | float hx =>
      cases h
      exact hx
    | int hlow hhigh =>
      cases h
      exact Double.isFinite_ofInt hlow hhigh
    | null | bool | string | array | object => cases h

theorem faithful_uint32 : FaithfulToAll (fun n : UInt32 => ofNat n.toNat) toUInt32? :=
  .ofAll plain_ofUInt32 Rect.toUInt32?_ofNat

theorem faithful_string : FaithfulToAll string toString? :=
  .ofAll .string fun _ => rfl

/-! ## Optional values, lists and sets -/

/-- An optional value that is there is read as its value is, but for `null`. -/
theorem toOption?_of_ne_null (h : j ≠ null) : toOption? decode j = (decode j).map some := by
  cases j with
  | null => exact absurd rfl h
  | bool | int | float | string | array | object => rfl

/-- Values that are not written as `null` may be optional. -/
theorem Faithful.option (hf : Faithful proper encode decode)
    (hnull : ∀ a, proper a → encode a ≠ null) :
    Faithful (fun o : Option α => ∀ a, o = some a → proper a) (ofOption encode)
      (toOption? decode) where
  plain {o} h := by
    cases o with
    | none => exact .null
    | some a => exact hf.plain (h a rfl)
  decode_encode {o} h := by
    cases o with
    | none => rfl
    | some a =>
      have ha := h a rfl
      rw [ofOption, toOption?_of_ne_null (hnull a ha), hf.decode_encode ha, Option.map_some]
  proper_of_decode {j o} hj h := by
    rintro a rfl
    by_cases hne : j = null
    · subst hne
      cases h
    · rw [toOption?_of_ne_null hne] at h
      obtain ⟨_, ha, ⟨⟩⟩ := Option.map_eq_some_iff.1 h
      exact hf.proper_of_decode hj ha

theorem FaithfulToAll.option (hf : FaithfulToAll encode decode) (hnull : ∀ a, encode a ≠ null) :
    FaithfulToAll (ofOption encode) (toOption? decode) :=
  have h := Faithful.option hf fun a _ => hnull a
  .ofAll (fun _ => h.plain fun _ _ => trivial) fun _ => h.decode_encode fun _ _ => trivial

theorem mapM_map_encode (h : ∀ a, decode (encode a) = some a) (l : List α) :
    (l.map encode).mapM decode = some l := by
  induction l with
  | nil => rfl
  | cons a l ih => simp [List.mapM_cons, h, ih]

theorem FaithfulToAll.list (hf : FaithfulToAll encode decode) :
    FaithfulToAll (ofList encode) (toList? decode) :=
  .ofAll
    (fun l => plain_array.2 fun j hj => by
      obtain ⟨a, -, rfl⟩ := List.mem_map.1 hj
      exact hf.plain trivial)
    (mapM_map_encode fun _ => hf.decode_encode trivial)

variable [Ord α] [Std.TransOrd α] [Std.LawfulEqOrd α] {s : OrderedSet α} {items : List Json}

theorem FaithfulToAll.set (hf : FaithfulToAll encode decode) :
    FaithfulToAll (fun s : OrderedSet α => ofList encode s.toList) (toSet? decode) :=
  .ofAll (fun _ => hf.list.plain trivial) fun s => by
    rw [toSet?, hf.list.decode_encode trivial, Option.map_some, s.ofList_toList]

/-- **A set is read out of a list of its members**, whatever their order and number there: the set
lists each of them once, one strictly after the other. -/
theorem toSet?_eq_some_iff : toSet? decode j = some s ↔
    ∃ items l, j = array items ∧ items.mapM decode = some l ∧
      s.toList.Pairwise (fun a b => compare a b = .lt) ∧ s.toList.Nodup ∧
        ∀ a, a ∈ s.toList ↔ a ∈ l := by
  constructor
  · intro h
    obtain ⟨l, hl, rfl⟩ := Option.map_eq_some_iff.1 h
    cases j with
    | array items =>
      exact ⟨items, l, rfl, hl, OrderedSet.increasing _, OrderedSet.nodup_toList _,
        fun a => OrderedSet.mem_ofList⟩
    | null | bool | int | float | string | object => cases hl
  · rintro ⟨items, l, rfl, hl, -, -, hmem⟩
    have hset : OrderedSet.ofList l = s :=
      OrderedSet.ext_mem fun a => OrderedSet.mem_ofList.trans (hmem a).symm
    change (items.mapM decode).map OrderedSet.ofList = some s
    rw [hl, Option.map_some, hset]

end Json

/-! ## Entries by kind -/

namespace PerKind

variable {α : Type} {encode : α → Json} {decode : Json → Option α}

/-- Entries by kind are faithful if the entries are. -/
theorem faithful (hf : Json.FaithfulToAll encode decode) :
    Json.FaithfulToAll (toJson encode) (ofJson? decode) :=
  .ofAll
    (fun p => Json.plain_object.2 fun m hm => by
      obtain ⟨e, -, rfl⟩ := List.mem_map.1 hm
      exact hf.plain trivial)
    (fun p => by
      have hread (a : α) : decode (encode a) = some a := hf.decode_encode trivial
      obtain ⟨element, area⟩ := p
      cases element <;> cases area <;>
        simp [toJson, ofJson?, ofMembers?, toList, get?, set, IgnoreKind.ordered,
          IgnoreKind.ofName?_name, hread, EmptyCollection.emptyCollection])

end PerKind

end VisualRegression
