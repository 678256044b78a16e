import VisualRegression.Yaml.Token

/-!
# Tokens of a text

A text as its tokens. Blocks start and end with the indentation of their lines, and whether a text
is a key shows only at the colon after it: the token for the key is then put in front of it.
-/

namespace VisualRegression.Yaml

/-- A place where a key without a mark of its own may have started. -/
structure PossibleKey where
  /-- The number of tokens before it. -/
  tokens : Nat
  place : Cursor
  /-- The place calls for a key. -/
  required : Bool
deriving Inhabited

/-- A text as far as it is read. -/
structure Lexer where
  cursor : Cursor
  tokens : Array Token := #[]
  /-- The indentations of the blocks around the place, the innermost first. -/
  indents : List Nat := []
  /-- The possible key of the innermost brackets, or of the block outside of them. -/
  possible : Option PossibleKey := none
  /-- The possible keys further out, one for each pair of brackets. -/
  outer : List (Option PossibleKey) := []
  /-- A key may start here. -/
  keyAllowed : Bool := true
deriving Inhabited

/-- Readers of tokens; there is no result where the text is malformed. -/
abbrev Lexing := StateT Lexer Option

namespace Lexer

/-- The place is between brackets. -/
def inFlow (l : Lexer) : Bool := !l.outer.isEmpty

/-- The least column of a text that belongs to the innermost block. -/
def least (l : Lexer) : Nat := (l.indents.head?.map (· + 1)).getD 0

/-- The lexer with one more token. -/
def push (l : Lexer) (t : Token) : Lexer := { l with tokens := l.tokens.push t }

/-- A possible key has to be on one line with its colon, and not far from it. -/
def isStale (l : Lexer) (k : PossibleKey) : Bool :=
  k.place.line < l.cursor.line || k.place.index + 1024 < l.cursor.index

/-- Ends the blocks that are indented more than a column, or all of them. -/
def closeBlocks (l : Lexer) (column : Option Nat) : Lexer :=
  if l.inFlow then l
  else
    let closed := l.indents.takeWhile fun n => column.all (· < n)
    { l with
      indents := l.indents.drop closed.length
      tokens := l.tokens ++ closed.toArray.map fun _ => .blockEnd }

/-- Starts a block in a column, with its token after so many others, unless it has started
already. -/
def openBlock (l : Lexer) (column tokens : Nat) (start : Token) : Lexer :=
  if l.inFlow || column < l.least then l
  else { l with
    indents := column :: l.indents
    tokens := l.tokens.insertIdxIfInBounds tokens start }

/-- Skips blanks, comments and line breaks. No tab may stand where a key may start. -/
def skipGap (flow : Bool) : (keyAllowed comment : Bool) → Cursor → List Char → Bool × Cursor
  | keyAllowed, _, c, [] => (keyAllowed, c)
  | keyAllowed, comment, c, d :: rest =>
    let next := c.moveTo rest
    if isBreak d then skipGap flow (keyAllowed || !flow) false next rest
    else if comment || d = '#' then skipGap flow keyAllowed true next rest
    else if d = ' ' ∨ (d = '\t' ∧ (flow ∨ !keyAllowed)) then skipGap flow keyAllowed false next rest
    else (keyAllowed, c)

/-- The lexer after blanks, comments and line breaks. -/
def afterGap (l : Lexer) : Lexer :=
  let (keyAllowed, cursor) := skipGap l.inFlow l.keyAllowed false l.cursor l.cursor.rest
  { l with keyAllowed, cursor }

end Lexer

/-- Reads a part of the text. -/
def within {α : Type} (r : Reader α) : Lexing α := fun l =>
  (r.run l.cursor).map fun (a, cursor) => (a, { l with cursor })

/-- Gives up a possible key; a required one has to be there. -/
def forget (k : Option PossibleKey) (gone : PossibleKey → Bool) : Option (Option PossibleKey) :=
  match k with
  | some k => if gone k then (if k.required then none else some none) else some (some k)
  | none => some none

/-- Gives up possible keys that are too far away. -/
def forgetStale : Lexing Unit := fun l => do
  let possible ← forget l.possible l.isStale
  let outer ← l.outer.mapM fun k => forget k l.isStale
  return ((), { l with possible, outer })

/-- Gives up the possible key. -/
def forgetKey : Lexing Unit := fun l => do
  let possible ← forget l.possible fun _ => true
  return ((), { l with possible })

/-- Notes that a key may start here. -/
def noteKey : Lexing Unit := do
  if (← get).keyAllowed then
    forgetKey
    modify fun l =>
      let required := !l.inFlow && l.indents.head? == some l.cursor.column
      { l with possible := some ⟨l.tokens.size, l.cursor, required⟩ }

/-- Says whether a key may start next. -/
def allowKey (allowed : Bool) : Lexing Unit := modify fun l => { l with keyAllowed := allowed }

/-- Takes a sign of `n` characters as a token. -/
def sign (n : Nat) (t : Token) : Lexing Unit := do
  within (advance n)
  modify (·.push t)

/-- Reads a directive, or a mark of the start or the end of a document: all blocks end. -/
def readOutside (part : Lexing Unit) : Lexing Unit := do
  modify (·.closeBlocks none)
  forgetKey
  allowKey false
  part

/-- Reads an opening bracket. -/
def readOpening (t : Token) : Lexing Unit := do
  noteKey
  modify fun l => { l with possible := none, outer := l.possible :: l.outer }
  allowKey true
  sign 1 t

/-- Reads a closing bracket. -/
def readClosing (t : Token) : Lexing Unit := do
  forgetKey
  modify fun l => match l.outer with
    | possible :: outer => { l with possible, outer }
    | [] => l
  allowKey false
  sign 1 t

/-- Reads a dash or a question mark that stands alone; in a block, it starts one. -/
def readMark (t start : Token) (allowed : Bool) : Lexing Unit := do
  let l ← get
  guard (l.inFlow || l.keyAllowed)
  set (l.openBlock l.cursor.column l.tokens.size start)
  forgetKey
  allowKey allowed
  sign 1 t

/-- Reads a colon. What is before it on its line is its key, if that may be one. -/
def readColon : Lexing Unit := do
  let l ← get
  match l.possible with
  | some k =>
    let l := { l with
      tokens := l.tokens.insertIdxIfInBounds k.tokens .key, possible := none, keyAllowed := false }
    set (l.openBlock k.place.column k.tokens .blockMappingStart)
  | none =>
    guard (l.inFlow || l.keyAllowed)
    set { l.openBlock l.cursor.column l.tokens.size .blockMappingStart with
      keyAllowed := !l.inFlow }
  sign 1 .value

/-- Reads a token that may be part of a key. -/
def readKeyPart (part : Reader Token) : Lexing Unit := do
  noteKey
  allowKey false
  let t ← within part
  modify (·.push t)

/-- Reads a quoted text. -/
def readQuoted (part : Nat → List Char → Option (List Char × List Char)) : Reader Token := do
  let s := (← get).rest
  return .scalar .quoted (String.ofList (← take fun _ => part (s.length + 1) (s.drop 1)))

/-- Reads a block of lines. A key may start after it. -/
def readLines (folded : Bool) : Lexing Unit := do
  forgetKey
  allowKey true
  let least := (← get).least
  let text ← within (take fun s => takeBlock? folded least (s.drop 1))
  modify (·.push (.scalar (if folded then .folded else .literal) (String.ofList text)))

/-- Reads a plain text. A key may start after it if a line break comes between. -/
def readPlain : Lexing Unit := do
  noteKey
  let l ← get
  let c := l.cursor
  let some (text, crossed, rest) :=
    takePlain? l.inFlow l.least (c.rest.length + 1) [] false c.column c.rest | failure
  set { l with cursor := c.moveTo rest, keyAllowed := crossed }
  modify (·.push (.scalar .plain (String.ofList text)))

/-- Reads a token that starts with a character. -/
def readToken (c : Char) (rest : List Char) : Lexing Unit := do
  let l ← get
  let flow := l.inFlow
  let s := c :: rest
  let first := l.cursor.column == 0
  if first ∧ c = '%' then readOutside (do
    let t ← within readDirective
    modify (·.push t))
  else if first ∧ isStartMark s then readOutside (sign 3 .documentStart)
  else if first ∧ isEndMark s then readOutside (sign 3 .documentEnd)
  else if c = '[' then readOpening .flowSequenceStart
  else if c = '\x7b' then readOpening .flowMappingStart
  else if c = ']' then readClosing .flowSequenceEnd
  else if c = '\x7d' then readClosing .flowMappingEnd
  else if c = ',' then do
    forgetKey
    allowKey true
    sign 1 .comma
  else if c = '-' ∧ atWordEnd rest then readMark .item .blockSequenceStart true
  else if c = '?' ∧ (flow ∨ atWordEnd rest) then readMark .key .blockMappingStart !flow
  else if c = ':' ∧ (flow ∨ atWordEnd rest) then readColon
  else if c = '*' then readKeyPart (.alias <$> readName)
  else if c = '&' then readKeyPart (.anchor <$> readName)
  else if c = '!' then readKeyPart (.tag <$> readTag flow)
  else if c = '|' ∧ ¬flow then readLines false
  else if c = '>' ∧ ¬flow then readLines true
  else if c = '\x27' then readKeyPart (readQuoted takeSingle?)
  else if c = '"' then readKeyPart (readQuoted takeDouble?)
  else do
    guard (startsPlain flow s)
    readPlain

/-- Reads all tokens that are left. -/
def readTokens : Nat → Lexing Unit
  | 0 => failure
  | fuel + 1 => do
    modify (·.afterGap)
    let c := (← get).cursor
    match c.rest with
    | [] =>
      modify (·.closeBlocks none)
      forgetKey
    | d :: rest =>
      forgetStale
      modify (·.closeBlocks (some c.column))
      readToken d rest
      readTokens fuel

/-- A character that may be in a text. -/
def isAllowed (c : Char) : Bool :=
  c == '\t' || c == '\n' || ('\x20' ≤ c && c ≤ '\x7e') ||
    ('\u00a0' ≤ c && c ≤ '\ufffd') || 0x10000 ≤ c.toNat

/-- The text with one character for each usual line break. -/
def unifyBreaks : List Char → List Char
  | '\r' :: '\n' :: rest => '\n' :: unifyBreaks rest
  | '\r' :: rest => '\n' :: unifyBreaks rest
  | '\u0085' :: rest => '\n' :: unifyBreaks rest
  | c :: rest => c :: unifyBreaks rest
  | [] => []

/-- The place where a text starts. A byte order mark takes up a column. -/
def startOf (text : List Char) : Cursor :=
  let c : Cursor := { rest := text }
  if text.head? = some '\ufeff' then c.moveTo (text.drop 1) else c

/-- The tokens of a text. -/
def tokens? (text : List Char) : Option (List Token) :=
  let text := unifyBreaks text
  if text.all isAllowed then
    let l? := (readTokens (text.length + 1)).run { cursor := startOf text }
    l?.map fun (_, l) => l.tokens.toList
  else none

end VisualRegression.Yaml
