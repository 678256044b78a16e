import VisualRegression.Text.Numeral

/-!
# Decimal literals

From the digits of a decimal literal to the nearest double, and the free form in which a double may
be given on a command line. A literal far outside the range of doubles is settled by its magnitude
alone, so that a long exponent costs nothing.
-/

namespace VisualRegression.Decimal

/-- The number `± digits * 10 ^ exponent`. -/
structure Literal where
  negative : Bool
  digits : Nat
  exponent : Int
deriving DecidableEq, Repr

/-- The infinite double. -/
def infinity : Float := Float.ofBits 0x7FF0000000000000

/-- The double that is no number. -/
def notANumber : Float := Float.ofBits 0x7FF8000000000000

/-- The value of digits, any other character counting as zero. -/
def digitsValue (s : List Char) : Nat :=
  s.foldl (fun n c => 10 * n + (Numeral.digit? c).getD 0) 0

namespace Literal

/-- The literal with these digits before and after the point. -/
def ofParts (negative : Bool) (whole fraction : List Char) (exponent : Int) : Literal :=
  ⟨negative, digitsValue (whole ++ fraction), exponent - fraction.length⟩

/-- The nearest double, the sign left out. -/
def magnitude (l : Literal) : Float :=
  let top := (Nat.toDigits 10 l.digits).length + l.exponent
  if l.digits = 0 ∨ top < -400 then 0
  else if top > 400 then infinity
  else Float.ofScientific l.digits (l.exponent < 0) l.exponent.natAbs

/-- The nearest double; a negative zero keeps its sign. -/
def toFloat (l : Literal) : Float := if l.negative then -l.magnitude else l.magnitude

end Literal

/-- The character is an ASCII decimal digit. -/
def isDigit (c : Char) : Bool := (Numeral.digit? c).isSome

/-- Splits off the digits at the start. -/
def spanDigits (s : List Char) : List Char × List Char := s.span isDigit

/-- An optional sign and what follows it. -/
def readSign : List Char → Bool × List Char
  | '-' :: rest => (true, rest)
  | '+' :: rest => (false, rest)
  | s => (false, s)

/-- A signed exponent that takes up all the text. -/
def readExponent? (s : List Char) : Option Int :=
  let (negative, ds) := readSign s
  if ds.isEmpty || !ds.all isDigit then none
  else some (if negative then -(digitsValue ds : Int) else digitsValue ds)

/-- The part of a literal after its digits: nothing, or an exponent mark and an exponent. -/
def readExponentPart? : List Char → Option Int
  | [] => some 0
  | c :: rest => if c = 'e' ∨ c = 'E' then readExponent? rest else none

/-- Digits with an optional point among or around them, and an optional exponent. -/
def readUnsigned? (negative : Bool) (s : List Char) : Option Literal :=
  let (whole, rest) := spanDigits s
  let (fraction, rest) := match rest with
    | '.' :: rest => spanDigits rest
    | rest => ([], rest)
  if whole.isEmpty && fraction.isEmpty then none
  else (readExponentPart? rest).map (Literal.ofParts negative whole fraction)

/-- The free form of a double: an optional sign, then `inf`, `infinity` or `nan` in any case, or
digits with an optional point and an optional exponent. -/
def readFree? (s : List Char) : Option Float :=
  let (negative, body) := readSign s
  let word := body.map Char.toLower
  if word = ['i', 'n', 'f'] ∨ word = ['i', 'n', 'f', 'i', 'n', 'i', 't', 'y'] then
    some (if negative then -infinity else infinity)
  else if word = ['n', 'a', 'n'] then some notANumber
  else (readUnsigned? negative body).map Literal.toFloat

end VisualRegression.Decimal
