import Mathlib.Algebra.Ring.Int.Defs
import VisualRegression.Json.Decode

/-!
# Plain values

What a text can carry: integers of 64 bits, with or without a sign, and doubles that are finite.
Main statement: `Plain.field` says that a plain value has plain fields, whatever their order and
however many of them are there.
-/

namespace VisualRegression.Json

/-- The value can stand in a text. -/
inductive Plain : Json → Prop where
  | null : Plain null
  | bool (b : Bool) : Plain (bool b)
  | int {n : Int} (hlow : -2 ^ 63 ≤ n) (hhigh : n < 2 ^ 64) : Plain (int n)
  | float {x : Float} (h : x.isFinite = true) : Plain (float x)
  | string (s : String) : Plain (string s)
  | array {items : List Json} (h : ∀ j ∈ items, Plain j) : Plain (array items)
  | object {members : List (String × Json)} (h : ∀ m ∈ members, Plain m.2) : Plain (object members)

attribute [simp] Plain.null Plain.bool Plain.string

variable {j value : Json} {name : String} {names : List String} {items : List Json}
  {members : List (String × Json)} {fields : List (Option Json)} {partialArray : Bool}

@[simp] theorem plain_array : (array items).Plain ↔ ∀ j ∈ items, j.Plain :=
  ⟨fun h => by cases h; assumption, .array⟩

@[simp] theorem plain_object : (object members).Plain ↔ ∀ m ∈ members, m.2.Plain :=
  ⟨fun h => by cases h; assumption, .object⟩

@[simp] theorem plain_ofFloat (x : Float) : (ofFloat x).Plain := by
  unfold ofFloat
  split
  · rename_i h
    exact .float h
  · exact .null

@[simp] theorem plain_ofUInt8 (n : UInt8) : (ofNat n.toNat).Plain := by
  have := n.toNat_lt
  exact .int (by omega) (by omega)

@[simp] theorem plain_ofUInt32 (n : UInt32) : (ofNat n.toNat).Plain := by
  have := n.toNat_lt
  exact .int (by omega) (by omega)

@[simp] theorem plain_ofInt32 (n : Int32) : (int n.toInt).Plain := by
  have := n.le_toInt
  have := n.toInt_lt
  exact .int (by omega) (by omega)

/-- What is found under a name is a member. -/
theorem exists_mem_of_lookup (h : lookup name members = some value) :
    ∃ m ∈ members, m.2 = value := by
  obtain ⟨m, hm, rfl⟩ := Option.map_eq_some_iff.1 h
  exact ⟨m, List.mem_reverse.1 (List.mem_of_find?_eq_some hm), rfl⟩

/-- **The fields of a plain value are plain**, whether it is an object or an array. -/
theorem Plain.field (hj : j.Plain) (h : j.fields? names partialArray = some fields)
    (hvalue : some value ∈ fields) : value.Plain := by
  cases hj with
  | null | bool | int | float | string => cases h
  | object hmembers =>
    cases h
    obtain ⟨name, -, hname⟩ := List.mem_map.1 hvalue
    obtain ⟨m, hm, rfl⟩ := exists_mem_of_lookup hname
    exact hmembers m hm
  | array hitems =>
    obtain ⟨-, hfields⟩ := Option.ite_none_right_eq_some.1 h
    cases hfields
    obtain ⟨i, -, hi⟩ := List.mem_map.1 hvalue
    exact hitems value (List.mem_of_getElem? hi)

end VisualRegression.Json
