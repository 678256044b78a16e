import VisualRegression.Decimal.Literal
import VisualRegression.Json.Value

/-!
# Reading JSON

A text is read as one value with blanks around it. Integers below `2 ^ 64` and down to `-2 ^ 63`
stay integers; any other number, and negative zero, is the nearest double.
-/

namespace VisualRegression.Json

/-- The four characters that may stand between the parts of a text. -/
def isSpace (c : Char) : Bool := c == ' ' || c == '\n' || c == '\r' || c == '\t'

/-- The text without the blanks at its start. -/
def skipSpace (s : List Char) : List Char := s.dropWhile isSpace

/-- The value of a hexadecimal digit. -/
def hexDigit? (c : Char) : Option Nat :=
  if '0' ≤ c ∧ c ≤ '9' then some (c.toNat - '0'.toNat)
  else if 'a' ≤ c ∧ c ≤ 'f' then some (c.toNat - 'a'.toNat + 10)
  else if 'A' ≤ c ∧ c ≤ 'F' then some (c.toNat - 'A'.toNat + 10)
  else none

/-- Reads four hexadecimal digits. -/
def readUnit? : List Char → Option (Nat × List Char)
  | a :: b :: c :: d :: rest => do
    let a ← hexDigit? a
    let b ← hexDigit? b
    let c ← hexDigit? c
    let d ← hexDigit? d
    return (((a * 16 + b) * 16 + c) * 16 + d, rest)
  | _ => none

/-- Reads the character given by one unit, or by two where the first is the first half of a pair. -/
def readCodePoint? (s : List Char) : Option (Char × List Char) := do
  let (high, rest) ← readUnit? s
  if 0xD800 ≤ high ∧ high < 0xDC00 then
    match rest with
    | '\\' :: 'u' :: rest =>
      let (low, rest) ← readUnit? rest
      if 0xDC00 ≤ low ∧ low < 0xE000 then
        some (Char.ofNat (0x10000 + (high - 0xD800) * 0x400 + (low - 0xDC00)), rest)
      else none
    | _ => none
  else if 0xDC00 ≤ high ∧ high < 0xE000 then none
  else some (Char.ofNat high, rest)

/-- The character that a letter after a backslash stands for. -/
def escaped? (c : Char) : Option Char :=
  if c = '"' then some '"'
  else if c = '\\' then some '\\'
  else if c = '/' then some '/'
  else if c = 'b' then some '\x08'
  else if c = 'f' then some '\x0c'
  else if c = 'n' then some '\n'
  else if c = 'r' then some '\r'
  else if c = 't' then some '\t'
  else none

/-- Reads the rest of a string, up to its closing quote. -/
def readString? : Nat → List Char → List Char → Option (String × List Char)
  | 0, _, _ => none
  | fuel + 1, acc, s =>
    match s with
    | '"' :: rest => some (String.ofList acc.reverse, rest)
    | '\\' :: 'u' :: rest => do
      let (c, rest) ← readCodePoint? rest
      readString? fuel (c :: acc) rest
    | '\\' :: c :: rest => do
      let c ← escaped? c
      readString? fuel (c :: acc) rest
    | c :: rest => if c.toNat < 0x20 then none else readString? fuel (c :: acc) rest
    | [] => none

/-- The value of a number with these parts. -/
def numberOf (negative : Bool) (whole : List Char) (fraction exponent : Option (List Char)) :
    Json :=
  let n := Decimal.digitsValue whole
  let wide := Decimal.Literal.ofParts negative whole (fraction.getD [])
    ((exponent.bind Decimal.readExponent?).getD 0)
  if fraction.isNone && exponent.isNone then
    if !negative && n < UInt64.size then int n
    else if negative && 0 < n && n ≤ UInt64.size / 2 then int (-n)
    else float wide.toFloat
  else float wide.toFloat

/-- Reads an optional fraction: a point and at least one digit. -/
def readFraction? : List Char → Option (Option (List Char) × List Char)
  | '.' :: rest =>
    let (ds, rest) := Decimal.spanDigits rest
    if ds.isEmpty then none else some (some ds, rest)
  | s => some (none, s)

/-- Reads an optional exponent: its mark, an optional sign and at least one digit. -/
def readExponent? (s : List Char) : Option (Option (List Char) × List Char) :=
  match s with
  | c :: rest =>
    if c = 'e' ∨ c = 'E' then
      let (negative, rest) := Decimal.readSign rest
      let (ds, rest) := Decimal.spanDigits rest
      if ds.isEmpty then none else some (some (if negative then '-' :: ds else ds), rest)
    else some (none, s)
  | [] => some (none, s)

/-- Splits off a minus sign. -/
def readMinus : List Char → Bool × List Char
  | '-' :: rest => (true, rest)
  | s => (false, s)

/-- Splits off the digits at the start; a zero is not followed by further ones. -/
def readWhole : List Char → List Char × List Char
  | '0' :: rest => (['0'], rest)
  | s => Decimal.spanDigits s

/-- Reads a number. -/
def readNumber? (s : List Char) : Option (Json × List Char) := do
  let (negative, s) := readMinus s
  let (whole, s) := readWhole s
  guard !whole.isEmpty
  let (fraction, s) ← readFraction? s
  let (exponent, s) ← readExponent? s
  return (numberOf negative whole fraction exponent, s)

/-- Reads a fixed word. -/
def readWord? (word : List Char) (j : Json) (s : List Char) : Option (Json × List Char) :=
  if word.isPrefixOf s then some (j, s.drop word.length) else none

mutual

/-- Reads a value after blanks. -/
def readValue? : Nat → List Char → Option (Json × List Char)
  | 0, _ => none
  | fuel + 1, s =>
    match skipSpace s with
    | '"' :: rest => do
      let (text, rest) ← readString? (rest.length + 1) [] rest
      return (string text, rest)
    | '[' :: rest =>
      match skipSpace rest with
      | ']' :: rest => some (array [], rest)
      | _ => readItems? fuel [] rest
    | '\x7b' :: rest =>
      match skipSpace rest with
      | '\x7d' :: rest => some (object [], rest)
      | _ => readMembers? fuel [] rest
    | 't' :: rest => readWord? ['r', 'u', 'e'] (bool true) rest
    | 'f' :: rest => readWord? ['a', 'l', 's', 'e'] (bool false) rest
    | 'n' :: rest => readWord? ['u', 'l', 'l'] null rest
    | s => readNumber? s

/-- Reads the items of an array up to its closing bracket. -/
def readItems? : Nat → List Json → List Char → Option (Json × List Char)
  | 0, _, _ => none
  | fuel + 1, acc, s => do
    let (item, s) ← readValue? fuel s
    match skipSpace s with
    | ',' :: rest => readItems? fuel (item :: acc) rest
    | ']' :: rest => some (array (item :: acc).reverse, rest)
    | _ => none

/-- Reads the members of an object up to its closing brace. -/
def readMembers? : Nat → List (String × Json) → List Char → Option (Json × List Char)
  | 0, _, _ => none
  | fuel + 1, acc, s =>
    match skipSpace s with
    | '"' :: rest => do
      let (name, s) ← readString? (rest.length + 1) [] rest
      match skipSpace s with
      | ':' :: rest =>
        let (value, s) ← readValue? fuel rest
        match skipSpace s with
        | ',' :: rest => readMembers? fuel ((name, value) :: acc) rest
        | '\x7d' :: rest => some (object ((name, value) :: acc).reverse, rest)
        | _ => none
      | _ => none
    | _ => none

end

/-- Reads a text that is one value with blanks around it. -/
def read? (text : String) : Option Json := do
  let s := text.toList
  let (j, rest) ← readValue? (2 * s.length + 2) s
  if (skipSpace rest).isEmpty then some j else none

end VisualRegression.Json
