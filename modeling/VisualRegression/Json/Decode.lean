import VisualRegression.Json.Value
import VisualRegression.Ordered.Set

/-!
# Reading values out of JSON

The rules by which values of the library are read out of JSON: integers have to be in range and are
not doubles, doubles may be given as integers, an optional value may be `null`, a structure is an
object or an array of its fields in order, and a choice is a name or an object with that name alone
and `null`.
-/

namespace VisualRegression.Json

/-- A truth value. -/
def toBool? : Json → Option Bool
  | bool b => some b
  | _ => none

/-- A text. -/
def toString? : Json → Option String
  | string s => some s
  | _ => none

/-- An integer in a range. -/
def toInt? (low high : Int) : Json → Option Int
  | int n => if low ≤ n ∧ n ≤ high then some n else none
  | _ => none

/-- A number of eight bits. -/
def toUInt8? (j : Json) : Option UInt8 := (j.toInt? 0 255).map fun n => UInt8.ofNat n.toNat

/-- A number of 32 bits. -/
def toUInt32? (j : Json) : Option UInt32 :=
  (j.toInt? 0 4294967295).map fun n => UInt32.ofNat n.toNat

/-- A number of 32 bits with a sign. -/
def toInt32? (j : Json) : Option Int32 := (j.toInt? (-2147483648) 2147483647).map Int32.ofInt

/-- A double, which may be given as an integer. -/
def toFloat? : Json → Option Float
  | float x => some x
  | int n => some (Float.ofInt n)
  | _ => none

/-- A value or `null`. -/
def toOption? {α : Type} (decode : Json → Option α) : Json → Option (Option α)
  | null => some none
  | j => (decode j).map some

/-- A list of values. -/
def toList? {α : Type} (decode : Json → Option α) : Json → Option (List α)
  | array items => items.mapM decode
  | _ => none

/-- A set of values, given as a list in any order. -/
def toSet? {α : Type} [Ord α] [Std.TransOrd α] (decode : Json → Option α) (j : Json) :
    Option (OrderedSet α) :=
  (j.toList? decode).map OrderedSet.ofList

/-- A choice by name. -/
def toChoice? {α : Type} (ofName? : String → Option α) : Json → Option α
  | string s => ofName? s
  | object [(name, null)] => ofName? name
  | _ => none

/-- The fields of a structure, each present or not: the members of an object by name, or the items
of an array by place. With `partialArray`, items may be missing at the end of the array. -/
def fields? (names : List String) (partialArray : Bool) : Json → Option (List (Option Json))
  | object members => some (names.map fun name => lookup name members)
  | array items =>
    if items.length = names.length ∨ (partialArray ∧ items.length < names.length) then
      some ((List.range names.length).map fun i => items[i]?)
    else none
  | _ => none

/-- A field that has to be there. -/
def required? {α : Type} (decode : Json → Option α) (field : Option Json) : Option α :=
  field.bind decode

/-- A field that may be missing or `null`. -/
def optional? {α : Type} (decode : Json → Option α) : Option Json → Option (Option α)
  | some j => j.toOption? decode
  | none => some none

/-- A field that may be missing, with the value that it then has. -/
def orDefault? {α : Type} (default : α) (decode : Json → Option α) : Option Json → Option α
  | some j => decode j
  | none => some default

end VisualRegression.Json
