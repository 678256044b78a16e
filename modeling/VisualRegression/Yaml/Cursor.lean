/-!
# Places in a text

The text that is left to read and where it starts. Main statement: `moveTo_self` says that moving
on by nothing changes no place.
-/

namespace VisualRegression.Yaml

/-- A place in a text. -/
structure Cursor where
  /-- The text that is left. -/
  rest : List Char
  /-- The number of characters before it on its line. -/
  column : Nat := 0
  /-- The number of lines before its line. -/
  line : Nat := 0
  /-- The number of characters before it. -/
  index : Nat := 0
deriving DecidableEq, Inhabited

/-- Readers of a text; there is no result where the text is malformed. -/
abbrev Reader := StateT Cursor Option

/-- The character is a blank within a line. -/
def isSpace (c : Char) : Bool := c == ' ' || c == '\t'

/-- The character ends a line. -/
def isBreak (c : Char) : Bool := c == '\n' || c == '\u2028' || c == '\u2029'

/-- The line ends here. -/
def atLineEnd : List Char → Bool
  | [] => true
  | c :: _ => isBreak c

/-- A word ends here: with a blank, with the line, or with the text. -/
def atWordEnd : List Char → Bool
  | [] => true
  | c :: _ => isSpace c || isBreak c

/-- A line that starts so marks the start or the end of a document. -/
def isMark (c : Char) (s : List Char) : Bool :=
  match s with
  | a :: b :: d :: rest => a == c && b == c && d == c && atWordEnd rest
  | _ => false

/-- Starts a document. -/
def isStartMark (s : List Char) : Bool := isMark '-' s

/-- Ends a document. -/
def isEndMark (s : List Char) : Bool := isMark '.' s

/-- Starts or ends a document. -/
def isAnyMark (s : List Char) : Bool := isStartMark s || isEndMark s

namespace Cursor

/-- The place after a text that starts here. -/
def pass (c : Cursor) (text : List Char) : Cursor :=
  text.foldl (fun c d =>
    if isBreak d then ⟨c.rest.drop 1, 0, c.line + 1, c.index + 1⟩
    else ⟨c.rest.drop 1, c.column + 1, c.line, c.index + 1⟩) c

/-- The place where a later part of the text starts. -/
def moveTo (c : Cursor) (rest : List Char) : Cursor :=
  c.pass (c.rest.take (c.rest.length - rest.length))

/-- Moving on by nothing changes no place. -/
theorem moveTo_self (c : Cursor) : c.moveTo c.rest = c := by
  simp [moveTo, pass]

end Cursor

/-- Goes on after `n` characters. -/
def advance (n : Nat) : Reader Unit := modify fun c => c.moveTo (c.rest.drop n)

/-- Takes a part of the text. -/
def take (part : List Char → Option (List Char × List Char)) : Reader (List Char) := fun c =>
  (part c.rest).map fun (text, rest) => (text, c.moveTo rest)

/-- Takes the characters of a kind that come next. -/
def takeAll (kind : Char → Bool) : Reader (List Char) :=
  take fun s => some (s.takeWhile kind, s.dropWhile kind)

end VisualRegression.Yaml
