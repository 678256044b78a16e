import VisualRegression.Ordered.Map

/-!
# JSON values

A value of the JSON data format. Numbers keep apart integers and doubles, and an object keeps its
members in the order in which they came; of two members with one name the later counts. A value that
is built as a whole before it is written has its members in the order of their names.
-/

namespace VisualRegression

/-- A JSON value. -/
inductive Json where
  | null
  | bool (b : Bool)
  | int (n : Int)
  | float (x : Float)
  | string (s : String)
  | array (items : List Json)
  | object (members : List (String × Json))
deriving Inhabited

namespace Json

/-- A double; what is no finite number is written as `null`. -/
def ofFloat (x : Float) : Json := if x.isFinite then float x else null

/-- A natural number. -/
def ofNat (n : Nat) : Json := int n

/-- An optional value; `null` where there is none. -/
def ofOption {α : Type} (encode : α → Json) : Option α → Json
  | some a => encode a
  | none => null

/-- A list of values. -/
def ofList {α : Type} (encode : α → Json) (l : List α) : Json := array (l.map encode)

/-- The last member with a name. -/
def lookup (name : String) (members : List (String × Json)) : Option Json :=
  (members.reverse.find? fun m => m.1 == name).map (·.2)

/-- The member of an object; none of any other value. -/
def get? (j : Json) (name : String) : Option Json :=
  match j with
  | object members => lookup name members
  | _ => none

mutual

/-- The value with the members of every object in the order of their names, and each name once. -/
def sorted : Json → Json
  | null => null
  | bool b => bool b
  | int n => int n
  | float x => float x
  | string s => string s
  | array items => array (sortedItems items)
  | object members => object (OrderedMap.ofList (sortedMembers members)).toList

/-- Values with their members sorted. -/
def sortedItems : List Json → List Json
  | [] => []
  | j :: rest => sorted j :: sortedItems rest

/-- Members with the members of their values sorted. -/
def sortedMembers : List (String × Json) → List (String × Json)
  | [] => []
  | (name, j) :: rest => (name, sorted j) :: sortedMembers rest

end

end Json

end VisualRegression
