import VisualRegression.Yaml.Scalar

/-!
# Tokens

The signs, names and texts that a document is made of, and how those are read that stand on their
own: names of nodes, tags and directives. Main statement: `admits_quoted` says that a quoted text
is never taken for a number or a truth value.
-/

namespace VisualRegression.Yaml

/-- How a text is written. -/
inductive ScalarStyle where
  | plain
  | quoted
  /-- A block of lines that stays as it is. -/
  | literal
  /-- A block of lines in which line breaks count as blanks. -/
  | folded
deriving DecidableEq, Inhabited, Repr

/-- A tag: a name and the handle of what it belongs to, or a whole tag and no handle. -/
structure Tag where
  handle : String
  name : String
deriving DecidableEq, Inhabited, Repr

/-- A token. -/
inductive Token where
  /-- The version of the language. -/
  | version (major minor : Nat)
  /-- What tags with a handle start with. -/
  | handle (name start : String)
  | documentStart
  | documentEnd
  | blockSequenceStart
  | blockMappingStart
  | blockEnd
  | flowSequenceStart
  | flowSequenceEnd
  | flowMappingStart
  | flowMappingEnd
  /-- A dash before an item. -/
  | item
  /-- A comma between brackets. -/
  | comma
  /-- A key follows. -/
  | key
  /-- A value follows. -/
  | value
  /-- A node that has been given a name before. -/
  | alias (name : String)
  /-- The name of the node that follows. -/
  | anchor (name : String)
  /-- The tag of the node that follows. -/
  | tag (t : Tag)
  | scalar (style : ScalarStyle) (text : String)
deriving DecidableEq, Inhabited, Repr

/-- What a scalar with a style and a tag may be taken for. -/
def ScalarStyle.form (style : ScalarStyle) (tag : Option String) : ScalarForm :=
  match style, tag with
  | plain, _ => .plain
  | literal, some tag => .tagged tag
  | _, _ => .text

/-- A quoted text is never taken for a number or a truth value. -/
theorem admits_quoted (tag : Option String) (kind : String) :
    (ScalarStyle.quoted.form tag).admits kind = false := by
  cases tag <;> rfl

/-- The character may be in a name. -/
def isNameChar (c : Char) : Bool := c.isAlphanum || c == '_' || c == '-'

/-- Reads the name of a node after its mark. -/
def readName : Reader String := do
  advance 1
  let name ← takeAll isNameChar
  guard (!name.isEmpty)
  let rest := (← get).rest
  let closers := ['?', ':', ',', ']', '\x7d', '%', '@', '\x60']
  guard (atWordEnd rest || (rest.head?.map closers.contains).getD false)
  return String.ofList name

/-- The character may be in a tag; `whole` says that the tag is between angle brackets. -/
def isTagChar (whole : Bool) (c : Char) : Bool :=
  isNameChar c || [';', '/', '?', ':', '@', '&', '=', '+', '$', '.', '!', '~', '*', '\x27', '(',
    ')'].contains c || (whole && [',', '[', ']'].contains c)

/-- Takes a byte that is written as a percent sign and two digits. -/
def takeByte? : List Char → Option (UInt8 × List Char)
  | '%' :: a :: b :: rest => do
    let n ← number? 16 [a, b]
    return (UInt8.ofNat n, rest)
  | _ => none

/-- The number of bytes of the character that starts with a byte. -/
def byteLength? (b : UInt8) : Option Nat :=
  if b < 0x80 then some 1
  else if b < 0xC0 then none
  else if b < 0xE0 then some 2
  else if b < 0xF0 then some 3
  else if b < 0xF8 then some 4
  else none

/-- Takes so many bytes that are written as percent signs and digits. -/
def takeBytes? : Nat → List Char → Option (List UInt8 × List Char)
  | 0, s => some ([], s)
  | n + 1, s => do
    let (b, s) ← takeByte? s
    let (bs, s) ← takeBytes? n s
    return (b :: bs, s)

/-- Takes a character that is written by its bytes. -/
def takeEncoded? (s : List Char) : Option (List Char × List Char) := do
  let (b, _) ← takeByte? s
  let (bs, rest) ← takeBytes? (← byteLength? b) s
  let text ← String.fromUTF8? (ByteArray.mk bs.toArray)
  return (text.toList, rest)

/-- Takes the characters of a tag. -/
def takeTag? (whole : Bool) : Nat → List Char → Option (List Char × List Char)
  | 0, _ => none
  | fuel + 1, s =>
    match s with
    | '%' :: _ => do
      let (text, rest) ← takeEncoded? s
      let (more, rest) ← takeTag? whole fuel rest
      return (text ++ more, rest)
    | c :: rest =>
      if isTagChar whole c then (takeTag? whole fuel rest).map fun (text, rest) => (c :: text, rest)
      else some ([], c :: rest)
    | [] => some ([], [])

/-- Reads the characters of a tag; some have to be there. -/
def readTagText (whole : Bool) (start : List Char) : Reader String := do
  let fuel := (← get).rest.length + 1
  let text ← take (takeTag? whole fuel)
  guard (!(start ++ text).isEmpty)
  return String.ofList (start.drop 1 ++ text)

/-- Reads a handle: an exclamation mark, perhaps with a name between it and another one. -/
def readHandle : Reader (List Char) := do
  guard ((← get).rest.head? == some '!')
  advance 1
  let name ← takeAll isNameChar
  if (← get).rest.head? == some '!' then
    advance 1
    return '!' :: name ++ ['!']
  else return '!' :: name

/-- Reads a tag that is not between angle brackets. -/
def readShortTag : Reader Tag := do
  let handle ← readHandle
  if handle.length > 1 ∧ handle.getLast? = some '!' then
    return ⟨String.ofList handle, ← readTagText false []⟩
  else
    let name ← readTagText false handle
    return if name = "" then ⟨"", "!"⟩ else ⟨"!", name⟩

/-- Reads a tag. -/
def readTag (flow : Bool) : Reader Tag := do
  let tag ← match (← get).rest with
    | '!' :: '<' :: _ => do
      advance 2
      let name ← readTagText true []
      guard ((← get).rest.head? == some '>')
      advance 1
      pure ⟨"", name⟩
    | _ => readShortTag
  let rest := (← get).rest
  guard (atWordEnd rest || (flow && rest.head? == some ','))
  return tag

/-- Reads a number of at most nine digits. -/
def readVersionNumber : Reader Nat := do
  let ds ← takeAll Char.isDigit
  guard (!ds.isEmpty && ds.length ≤ 9)
  return Decimal.digitsValue ds

/-- Reads a directive: how the document after it is written. -/
def readDirective : Reader Token := do
  advance 1
  let name ← takeAll isNameChar
  guard (!name.isEmpty && atWordEnd (← get).rest)
  let _ ← takeAll isSpace
  let token ← match String.ofList name with
    | "YAML" => do
      let major ← readVersionNumber
      guard ((← get).rest.head? == some '.')
      advance 1
      pure (.version major (← readVersionNumber))
    | "TAG" => do
      let handle ← readHandle
      guard (handle.length = 1 || handle.getLast? == some '!')
      let blanks ← takeAll isSpace
      guard (!blanks.isEmpty)
      let start ← readTagText true []
      guard (atWordEnd (← get).rest)
      pure (.handle (String.ofList handle) start)
    | _ => failure
  let _ ← takeAll isSpace
  if (← get).rest.head? == some '#' then
    let _ ← takeAll (!isBreak ·)
  guard (atLineEnd (← get).rest)
  return token

end VisualRegression.Yaml
