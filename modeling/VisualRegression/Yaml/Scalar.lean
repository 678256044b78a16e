import VisualRegression.Yaml.Value
import VisualRegression.Yaml.Cursor

/-!
# Scalars

The forms of a text in a document: plain, between single or double quotes, and as a block of
lines. A line break within a text counts as a blank, and further ones as line breaks.
-/

namespace VisualRegression.Yaml

/-- What line breaks within a text stand for. -/
def fold : List Char → List Char
  | ['\n'] => [' ']
  | '\n' :: more => more
  | breaks => breaks

/-- What is between the words of a text. -/
structure Gap where
  /-- The blanks, if there are no line breaks. -/
  blanks : List Char
  breaks : List Char
  /-- The column after it. -/
  column : Nat
  rest : List Char

/-- What a gap stands for. -/
def Gap.text (g : Gap) : List Char := if g.breaks.isEmpty then g.blanks else fold g.breaks

/-- Takes blanks and line breaks; `crossed` says that a line break came before. At the start of a
line no tab may come before the least column. -/
def takeGap? (least : Nat) : (crossed : Bool) → (column : Nat) → List Char → Option Gap
  | _, column, [] => some ⟨[], [], column, []⟩
  | crossed, column, c :: rest =>
    if isBreak c then
      (takeGap? least true 0 rest).map fun g => { g with blanks := [], breaks := c :: g.breaks }
    else if isSpace c then
      if crossed ∧ c = '\t' ∧ column < least then none
      else (takeGap? least crossed (column + 1) rest).map fun g =>
        if crossed then g else { g with blanks := c :: g.blanks }
    else some ⟨[], [], column, c :: rest⟩

/-- The characters that end a plain text between brackets. -/
def flowMarks : List Char := [',', '[', ']', '\x7b', '\x7d']

/-- The characters that no plain text starts with, unless a word goes on after the first three. -/
def marks : List Char :=
  ['-', '?', ':', ',', '[', ']', '\x7b', '\x7d', '#', '&', '*', '!', '|', '>', '\x27', '"', '%',
    '@', '\x60']

/-- A plain text may start here. -/
def startsPlain (flow : Bool) : List Char → Bool
  | [] => false
  | c :: rest =>
    if c = '-' then !(rest.head?.map isSpace).getD false
    else if c = '?' ∨ c = ':' then !flow && !atWordEnd rest
    else !marks.contains c && !atWordEnd [c]

/-- A plain text ends before this. -/
def endsPlain (flow : Bool) : List Char → Bool
  | [] => true
  | c :: rest => (c == ':' && atWordEnd rest) || (flow && flowMarks.contains c)

/-- A colon that may not stand in a plain text between brackets. -/
def isStrayColon (flow : Bool) : List Char → Bool
  | ':' :: d :: _ => flow && (flowMarks.contains d || d == '?')
  | _ => false

/-- Takes a word of a plain text. -/
def takeWord? (flow : Bool) : List Char → Option (List Char × List Char)
  | [] => some ([], [])
  | c :: rest =>
    if isSpace c || isBreak c then some ([], c :: rest)
    else if isStrayColon flow (c :: rest) then none
    else if endsPlain flow (c :: rest) then some ([], c :: rest)
    else (takeWord? flow rest).map fun (word, rest) => (c :: word, rest)

/-- Takes a plain text: its words with what is between them, whether line breaks come after the
last one, and what is left after these. A line that is indented less than the least column does
not belong to it. -/
def takePlain? (flow : Bool) (least : Nat) :
    Nat → (between : List Char) → (crossed : Bool) → (column : Nat) → List Char →
      Option (List Char × Bool × List Char)
  | 0, _, _, _, _ => none
  | fuel + 1, between, crossed, column, s =>
    if (column == 0 && isAnyMark s) || s.head? == some '#' then some ([], crossed, s)
    else do
      let (word, after) ← takeWord? flow s
      let crossed := crossed && word.isEmpty
      let text := if word.isEmpty then [] else between ++ word
      if (after.head?.map fun c => isSpace c || isBreak c).getD false then
        let g ← takeGap? least false (column + word.length) after
        let crossed := !g.breaks.isEmpty
        if !flow && g.column < least then return (text, crossed, g.rest)
        let (more, crossed, rest) ← takePlain? flow least fuel g.text crossed g.column g.rest
        return (text ++ more, crossed, rest)
      else return (text, crossed, after)

/-- No line between quotes may mark a document. -/
def Gap.marksDocument (g : Gap) : Bool := g.column == 0 && isAnyMark g.rest

/-- Takes the text up to the closing single quote; two quotes stand for one. -/
def takeSingle? : Nat → List Char → Option (List Char × List Char)
  | 0, _ => none
  | _ + 1, [] => none
  | fuel + 1, c :: rest =>
    if c = '\x27' then
      match rest with
      | '\x27' :: rest => (takeSingle? fuel rest).map fun (text, rest) => ('\x27' :: text, rest)
      | _ => some ([], rest)
    else if isSpace c || isBreak c then do
      let g ← takeGap? 0 false 1 (c :: rest)
      guard (!g.marksDocument)
      let (text, rest) ← takeSingle? fuel g.rest
      return (g.text ++ text, rest)
    else (takeSingle? fuel rest).map fun (text, rest) => (c :: text, rest)

/-- The character that a letter after a backslash stands for. -/
def simpleEscape? (c : Char) : Option Char :=
  [('0', '\x00'), ('a', '\x07'), ('b', '\x08'), ('t', '\t'), ('\t', '\t'), ('n', '\n'),
    ('v', '\x0b'), ('f', '\x0c'), ('r', '\r'), ('e', '\x1b'), (' ', ' '), ('"', '"'), ('/', '/'),
    ('\\', '\\'), ('N', '\u0085'), ('_', '\u00a0'), ('L', '\u2028'), ('P', '\u2029')].lookup c

/-- The number of digits after a backslash and a letter. -/
def escapeLength? (c : Char) : Option Nat := [('x', 2), ('u', 4), ('U', 8)].lookup c

/-- The character with a code given by digits. -/
def codeEscape? (ds : List Char) (length : Nat) : Option Char := do
  let n ← number? 16 ds
  if ds.length = length ∧ n.isValidChar then some (Char.ofNat n) else none

/-- Takes the text up to the closing double quote. A backslash before a line break leaves it out. -/
def takeDouble? : Nat → List Char → Option (List Char × List Char)
  | 0, _ => none
  | _ + 1, [] => none
  | fuel + 1, c :: rest =>
    if c = '"' then some ([], rest)
    else if c = '\\' then
      match rest with
      | [] => none
      | e :: rest =>
        if isBreak e then do
          let g ← takeGap? 0 true 0 rest
          guard (!g.marksDocument)
          let (text, rest) ← takeDouble? fuel g.rest
          return (g.breaks ++ text, rest)
        else match escapeLength? e with
          | some length => do
            let char ← codeEscape? (rest.take length) length
            let (text, rest) ← takeDouble? fuel (rest.drop length)
            return (char :: text, rest)
          | none => do
            let char ← simpleEscape? e
            let (text, rest) ← takeDouble? fuel rest
            return (char :: text, rest)
    else if isSpace c || isBreak c then do
      let g ← takeGap? 0 false 1 (c :: rest)
      guard (!g.marksDocument)
      let (text, rest) ← takeDouble? fuel g.rest
      return (g.text ++ text, rest)
    else (takeDouble? fuel rest).map fun (text, rest) => (c :: text, rest)

/-- What becomes of the line breaks at the end of a block of lines. -/
inductive Chomping where
  /-- There is none. -/
  | strip
  /-- There is one. -/
  | clip
  /-- All of them stay. -/
  | keep
deriving DecidableEq

/-- How a block of lines is to be read. -/
structure BlockStyle where
  /-- Single line breaks count as blanks. -/
  folded : Bool
  chomping : Chomping := .clip
  /-- The indentation, relative to what is around the block, if it is given. -/
  indent : Option Nat := none

/-- Reads the signs after the mark of a block of lines, each at most once. -/
def readBlockStyle? (style : BlockStyle) : List Char → Option (BlockStyle × List Char)
  | [] => some (style, [])
  | c :: rest =>
    let chomping := if c = '-' then Chomping.strip else .keep
    if c = '-' ∨ c = '+' then
      match style.chomping with
      | .clip => readBlockStyle? { style with chomping } rest
      | _ => none
    else if c.isDigit then
      match style.indent with
      | none =>
        if c = '0' then none
        else readBlockStyle? { style with indent := some (c.toNat - '0'.toNat) } rest
      | some _ => none
    else some (style, c :: rest)

/-- What is before a line of a block that is not blank. -/
structure Margin where
  breaks : List Char
  /-- The widest indentation. -/
  widest : Nat
  /-- The indentation of the line itself. -/
  column : Nat
  rest : List Char

/-- Skips indentation, up to that of the block if it is known, and blank lines. No tab may stand
there. -/
def takeMargin? (indent : Option Nat) : (column : Nat) → List Char → Option Margin
  | column, [] => some ⟨[], column, column, []⟩
  | column, c :: rest =>
    let indenting := indent.all (column < ·)
    if c = ' ' ∧ indenting then takeMargin? indent (column + 1) rest
    else if c = '\t' ∧ indenting then none
    else if isBreak c then
      (takeMargin? indent 0 rest).map fun m =>
        { m with breaks := c :: m.breaks, widest := max column m.widest }
    else some ⟨[], column, column, c :: rest⟩

/-- Takes the lines of a block from a margin on; `last` are the line breaks after the line before,
and `spaced` says whether that line started with a blank. What the block ends with is given apart:
the end of its last line, and the line breaks after it. -/
def takeLines? (folded : Bool) (indent : Nat) : Nat → (last : List Char) → (spaced : Bool) →
    Margin → Option (List Char × List Char × List Char × List Char)
  | 0, _, _, _ => none
  | fuel + 1, last, spaced, m =>
    if m.column = indent ∧ m.rest ≠ [] then do
      let line := m.rest.takeWhile fun c => !isBreak c
      let nowSpaced := (line.head?.map isSpace).getD false
      let before :=
        if folded ∧ last = ['\n'] ∧ ¬spaced ∧ ¬nowSpaced then fold (last ++ m.breaks)
        else last ++ m.breaks
      let after := m.rest.drop line.length
      let next ← takeMargin? (some indent) 0 (after.drop 1)
      let (text, ending) ← takeLines? folded indent fuel (after.take 1) nowSpaced next
      return (before ++ line ++ text, ending)
    else some ([], last, m.breaks, m.rest)

/-- Takes a block of lines, from what follows its mark on. The rest of that line may hold a
comment and nothing else. -/
def takeBlock? (folded : Bool) (least : Nat) (s : List Char) : Option (List Char × List Char) := do
  let (style, rest) ← readBlockStyle? { folded } s
  let rest := rest.dropWhile isSpace
  let rest := if rest.head? = some '#' then rest.dropWhile (!isBreak ·) else rest
  guard (atLineEnd rest)
  let given := style.indent.map (least - 1 + ·)
  let m ← takeMargin? given 0 (rest.drop 1)
  let indent := given.getD (max (max m.widest least) 1)
  let (text, last, breaks, rest) ← takeLines? folded indent (s.length + 1) [] false m
  return (text ++
    (match style.chomping with
      | .strip => []
      | .clip => last
      | .keep => last ++ breaks), rest)

end VisualRegression.Yaml
