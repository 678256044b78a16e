import VisualRegression.Decimal.Literal

/-!
# YAML values

A node of a YAML document, and how texts, numbers and truth values are read out of scalars. A plain
scalar is whatever it is asked for, a block of lines is what its tag says, and any other scalar is a
text and nothing else.
-/

namespace VisualRegression

/-- What a scalar may be taken for. -/
inductive ScalarForm where
  /-- Anything: it is written without quotes. -/
  | plain
  /-- A text, or what the tag in front of its lines says. -/
  | tagged (tag : String)
  /-- A text. -/
  | text
deriving DecidableEq, Inhabited, Repr

/-- The scalar may be taken for what a tag says. -/
def ScalarForm.admits (tag : String) : ScalarForm → Bool
  | plain => true
  | tagged own => own == tag
  | text => false

/-- A node of a document. -/
inductive Yaml where
  | scalar (form : ScalarForm) (text : String)
  | sequence (items : List Yaml)
  | mapping (entries : List (Yaml × Yaml))
deriving Inhabited

namespace Yaml

/-- What stands where nothing is written. -/
def nothing : Yaml := .scalar .plain ""

/-- The start of the tags that the language itself defines. -/
def ownTags : String := "tag:yaml.org,2002:"

/-- The text of a scalar. -/
def toText? : Yaml → Option String
  | scalar _ text => some text
  | _ => none

/-- The text of a scalar that may be taken for what one of the language's own tags says. -/
def textAs? (tag : String) : Yaml → Option (List Char)
  | scalar form text => if form.admits (ownTags ++ tag) then some text.toList else none
  | _ => none

/-- The value of a digit in bases up to sixteen. -/
def digit? (c : Char) : Option Nat :=
  if '0' ≤ c ∧ c ≤ '9' then some (c.toNat - '0'.toNat)
  else if 'a' ≤ c ∧ c ≤ 'f' then some (c.toNat - 'a'.toNat + 10)
  else if 'A' ≤ c ∧ c ≤ 'F' then some (c.toNat - 'A'.toNat + 10)
  else none

/-- The number with these digits. -/
def number? (base : Nat) (ds : List Char) : Option Nat :=
  if ds.isEmpty then none
  else ds.foldlM (fun n c => (digit? c).bind fun d =>
    if d < base then some (base * n + d) else none) 0

/-- The text without one plus sign. -/
def unsigned : List Char → List Char
  | '+' :: rest => rest
  | s => s

/-- Digits that are no number because of the zeros before them. -/
def isZeroPadded (s : List Char) : Bool :=
  match s with
  | '0' :: _ :: _ => s.all Decimal.isDigit
  | _ => false

/-- Reads a natural number: decimal, or after a mark in base 16, 8 or 2. -/
def readNat? (s : List Char) : Option Nat :=
  match unsigned s with
  | '0' :: 'x' :: ds => number? 16 ds
  | '0' :: 'o' :: ds => number? 8 ds
  | '0' :: 'b' :: ds => number? 2 ds
  | ds => if isZeroPadded ds then none else number? 10 ds

/-- A natural number up to a largest one. -/
def toNat? (max : Nat) (y : Yaml) : Option Nat := do
  let n ← readNat? (← y.textAs? "int")
  if n ≤ max then some n else none

/-- A number of eight bits. -/
def toUInt8? (y : Yaml) : Option UInt8 := (y.toNat? 255).map UInt8.ofNat

/-- A number of 32 bits. -/
def toUInt32? (y : Yaml) : Option UInt32 := (y.toNat? (UInt32.size - 1)).map UInt32.ofNat

/-- Reads a double. What is not finite is written with a point in front. -/
def readFloat? (s : List Char) : Option Float :=
  let body := unsigned s
  if String.ofList body ∈ [".inf", ".Inf", ".INF"] then some Decimal.infinity
  else if String.ofList s ∈ ["-.inf", "-.Inf", "-.INF"] then some (-Decimal.infinity)
  else if String.ofList s ∈ [".nan", ".NaN", ".NAN"] then some Decimal.notANumber
  else if body ≠ s ∧ (body.head? = some '+' ∨ body.head? = some '-') then none
  else (Decimal.readFree? body).bind fun x => if x.isFinite then some x else none

/-- A double. -/
def toFloat? (y : Yaml) : Option Float := (y.textAs? "float").bind readFloat?

/-- A truth value. -/
def toBool? (y : Yaml) : Option Bool := do
  let text := String.ofList (← y.textAs? "bool")
  if text ∈ ["true", "True", "TRUE"] then some true
  else if text ∈ ["false", "False", "FALSE"] then some false
  else none

/-- The items of a sequence. Where nothing is written there is no item. -/
def toItems? : Yaml → Option (List Yaml)
  | sequence items => some items
  | scalar .plain "" => some []
  | _ => none

/-- The entries of a mapping. Where nothing is written there is no entry. -/
def toEntries? : Yaml → Option (List (Yaml × Yaml))
  | mapping entries => some entries
  | scalar .plain "" => some []
  | _ => none

end Yaml

end VisualRegression
