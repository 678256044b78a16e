/-!
# Rows of bytes

A row is stored as its differences from what is to the left and above; the first byte of a row says
from what. Main statement: `restore_plain` says that a row stored as it is stays as it is.
-/

namespace VisualRegression.Png

/-- From what the bytes of a row are the differences. -/
inductive RowFilter where
  /-- From nothing. -/
  | plain
  /-- From the byte to the left. -/
  | left
  /-- From the byte above. -/
  | above
  /-- From the mean of both. -/
  | mean
  /-- From the one of left, above and above left that is nearest to a linear guess. -/
  | nearest
deriving DecidableEq

namespace RowFilter

/-- The filter with a number. -/
def ofCode? (code : UInt8) : Option RowFilter :=
  match code.toNat with
  | 0 => some .plain
  | 1 => some .left
  | 2 => some .above
  | 3 => some .mean
  | 4 => some .nearest
  | _ => none

/-- The one of three bytes that is nearest to `a + b - c`; the first of them wins. -/
def nearestOf (a b c : UInt8) : UInt8 :=
  let guess : Int := a.toNat + b.toNat - c.toNat
  let da := (guess - a.toNat).natAbs
  let db := (guess - b.toNat).natAbs
  let dc := (guess - c.toNat).natAbs
  if da ≤ db ∧ da ≤ dc then a else if db ≤ dc then b else c

/-- What a byte is the difference from: `a` is to the left, `b` above, `c` above left. -/
def predict (f : RowFilter) (a b c : UInt8) : UInt8 :=
  match f with
  | .plain => 0
  | .left => a
  | .above => b
  | .mean => UInt8.ofNat ((a.toNat + b.toNat) / 2)
  | .nearest => nearestOf a b c

/-- The bytes of a row from their differences. `gap` is the distance between neighbouring pixels,
and outside a row there are zeros. -/
def restore (f : RowFilter) (gap : Nat) (above : Array UInt8) :
    List UInt8 → Array UInt8 → Array UInt8
  | [], row => row
  | d :: rest, row =>
    let i := row.size
    let back (bytes : Array UInt8) : UInt8 := if gap ≤ i then bytes.getD (i - gap) 0 else 0
    restore f gap above rest (row.push (d + f.predict (back row) (above.getD i 0) (back above)))

/-- A row stored as it is stays as it is. -/
theorem restore_plain (gap : Nat) (above : Array UInt8) (bytes : List UInt8)
    (row : Array UInt8) : restore .plain gap above bytes row = row ++ bytes.toArray := by
  induction bytes generalizing row with
  | nil => simp [restore]
  | cons d rest ih => simp [restore, predict, ih]

end RowFilter

/-- Reads `count` rows of `length` bytes each. -/
def readRows? (gap length : Nat) : Nat → Array UInt8 → List UInt8 →
    Option (List (Array UInt8) × List UInt8)
  | 0, _, bytes => some ([], bytes)
  | count + 1, above, bytes =>
    match bytes with
    | [] => none
    | code :: rest => do
      let filter ← RowFilter.ofCode? code
      let differences := rest.take length
      if differences.length = length then
        let row := filter.restore gap above differences #[]
        let (rows, rest) ← readRows? gap length count row (rest.drop length)
        return (row :: rows, rest)
      else none

end VisualRegression.Png
