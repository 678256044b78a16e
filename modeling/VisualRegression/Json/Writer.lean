import VisualRegression.Decimal.Style
import VisualRegression.Json.Value
import VisualRegression.Text.Quoted

/-!
# Writing JSON

Values as text, on one line or with one item or member a line, indented by two blanks a level. Main
statement: `escapeChar_of_plain` says which characters are written as they are.
-/

namespace VisualRegression.Json

/-- How one character of a string is written. -/
def escapeChar (c : Char) : List Char :=
  if c = '"' then ['\\', '"']
  else if c = '\\' then ['\\', '\\']
  else if c = '\x08' then ['\\', 'b']
  else if c = '\x0c' then ['\\', 'f']
  else if c = '\n' then ['\\', 'n']
  else if c = '\r' then ['\\', 'r']
  else if c = '\t' then ['\\', 't']
  else if c.toNat < 0x20 then ['\\', 'u'] ++ Text.hexField 4 c.toNat
  else [c]

/-- A character other than a quote, a backslash or a control character is written as it is. -/
theorem escapeChar_of_plain {c : Char} (h : 0x20 ≤ c.toNat) (hq : c ≠ '"') (hb : c ≠ '\\') :
    escapeChar c = [c] := by
  have h₁ : c ≠ '\x08' := by rintro rfl; revert h; decide
  have h₂ : c ≠ '\x0c' := by rintro rfl; revert h; decide
  have h₃ : c ≠ '\n' := by rintro rfl; revert h; decide
  have h₄ : c ≠ '\r' := by rintro rfl; revert h; decide
  have h₅ : c ≠ '\t' := by rintro rfl; revert h; decide
  have h₆ : ¬ c.toNat < 0x20 := by omega
  rw [escapeChar, if_neg hq, if_neg hb, if_neg h₁, if_neg h₂, if_neg h₃, if_neg h₄, if_neg h₅,
    if_neg h₆]

/-- A string between double quotes. -/
def quote (s : String) : List Char := '"' :: s.toList.flatMap escapeChar ++ ['"']

/-- A line break and the blanks of a level. -/
def lineBreak (indent : Nat) : List Char := '\n' :: List.replicate (2 * indent) ' '

/-- Texts with separators between them. -/
def joinWith (sep : List Char) (parts : List (List Char)) : List Char := sep.intercalate parts

mutual

/-- A value on one line; `float` writes the doubles. -/
def writeLine (float : Float → List Char) : Json → List Char
  | null => ['n', 'u', 'l', 'l']
  | bool true => ['t', 'r', 'u', 'e']
  | bool false => ['f', 'a', 'l', 's', 'e']
  | int n => (toString n).toList
  | .float x => float x
  | string s => quote s
  | array items => '[' :: joinWith [','] (writeItems float items) ++ [']']
  | object members => '\x7b' :: joinWith [','] (writeMembers float members) ++ ['\x7d']

/-- Each of several values on one line. -/
def writeItems (float : Float → List Char) : List Json → List (List Char)
  | [] => []
  | j :: rest => writeLine float j :: writeItems float rest

/-- Each of several members on one line. -/
def writeMembers (float : Float → List Char) : List (String × Json) → List (List Char)
  | [] => []
  | (name, j) :: rest => (quote name ++ ':' :: writeLine float j) :: writeMembers float rest

end

mutual

/-- A value over several lines, from a level of indentation on. -/
def writeIndented (indent : Nat) : Json → List Char
  | array [] => ['[', ']']
  | object [] => ['\x7b', '\x7d']
  | array items =>
    '[' :: lineBreak (indent + 1) ++
      joinWith (',' :: lineBreak (indent + 1)) (writeItemsIndented (indent + 1) items) ++
      lineBreak indent ++ [']']
  | object members =>
    '\x7b' :: lineBreak (indent + 1) ++
      joinWith (',' :: lineBreak (indent + 1)) (writeMembersIndented (indent + 1) members) ++
      lineBreak indent ++ ['\x7d']
  | j => writeLine (fun x => (Decimal.report.write x).toList) j

/-- Each of several values over several lines. -/
def writeItemsIndented (indent : Nat) : List Json → List (List Char)
  | [] => []
  | j :: rest => writeIndented indent j :: writeItemsIndented indent rest

/-- Each of several members over several lines. -/
def writeMembersIndented (indent : Nat) : List (String × Json) → List (List Char)
  | [] => []
  | (name, j) :: rest =>
    (quote name ++ ':' :: ' ' :: writeIndented indent j) :: writeMembersIndented indent rest

end

/-- The text of a value on one line. -/
def compact (float : Float → List Char) (j : Json) : String := String.ofList (writeLine float j)

/-- The text of a value over several lines. -/
def pretty (j : Json) : String := String.ofList (writeIndented 0 j)

end VisualRegression.Json
