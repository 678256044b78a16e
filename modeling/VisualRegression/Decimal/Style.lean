import VisualRegression.Decimal.Shortest

/-!
# Number styles

How doubles are written: which magnitudes are written positionally, whether a whole number keeps a
fractional digit, and the texts of what is no number. `plain` is the style of messages and
`report` that of report files.
-/

namespace VisualRegression.Decimal

/-- The decisions of a style. -/
structure Style where
  /-- Whether a value with this position of the decimal point, counted from before its first digit,
  is written without an exponent. -/
  positional : Int → Bool
  /-- A whole number is written with `.0`. -/
  wholeWithPoint : Bool
deriving Inhabited

/-- Positional for every magnitude, and a whole number has no point. -/
def plain : Style := ⟨fun _ => true, false⟩

/-- Positional from 1e-5 up to below 1e16, and a whole number written so ends in `.0`. -/
def report : Style := ⟨fun p => -5 < p && p ≤ 16, true⟩

/-- The digits with a point after the first `p` of them, zeros filling up either side. -/
def positionalText (wholeWithPoint : Bool) (ds : List Char) (p : Int) : List Char :=
  if p ≤ 0 then ['0', '.'] ++ List.replicate (-p).toNat '0' ++ ds
  else if ds.length ≤ p.toNat then
    ds ++ List.replicate (p.toNat - ds.length) '0' ++ (if wholeWithPoint then ['.', '0'] else [])
  else ds.take p.toNat ++ '.' :: ds.drop p.toNat

/-- One digit before the point and an exponent without a plus sign. -/
def exponentText (ds : List Char) (p : Int) : List Char :=
  let tail := ds.drop 1
  ds.take 1 ++ (if tail.isEmpty then [] else '.' :: tail) ++ 'e' :: (toString (p - 1)).toList

/-- The text of a double. -/
def Style.write (style : Style) (x : Float) : String :=
  let sign := if x.toBits >>> 63 = 1 then ['-'] else []
  if x.isNaN then "NaN"
  else if x.isInf then String.ofList (sign ++ ['i', 'n', 'f'])
  else if x == 0 then
    String.ofList (sign ++ '0' :: (if style.wholeWithPoint then ['.', '0'] else []))
  else
    let d := ofFloat x
    let ds := Nat.toDigits 10 d.digits
    let p := ds.length + d.exponent
    String.ofList (sign ++
      if style.positional p then positionalText style.wholeWithPoint ds p else exponentText ds p)

end VisualRegression.Decimal
