/-!
# Shortest decimals

The shortest decimal that reads back as a given double, and of several the nearest to it. A finite
magnitude is taken as an exact fraction together with the two points halfway to its neighbours: a
decimal reads back exactly if it lies between them, the ends included when the significand is even.
Main statement: `shortest_mem` says that the decimal chosen by the search reads back.
-/

namespace VisualRegression.Decimal

/-- A positive magnitude and the points halfway to its neighbours, over one denominator. -/
structure Span where
  /-- Numerator of the point halfway to the value below. -/
  below : Nat
  /-- Numerator of the magnitude. -/
  value : Nat
  /-- Numerator of the point halfway to the value above. -/
  above : Nat
  /-- The common denominator. -/
  den : Nat
  /-- The two halfway points read back as the magnitude too. -/
  closed : Bool
deriving DecidableEq, Repr

/-- The decimal `digits * 10 ^ exponent`. -/
structure Digits where
  digits : Nat
  exponent : Int
deriving DecidableEq, Repr

namespace Span

/-- The span of `m * 2 ^ q`; below a power of two the gap is half as wide. -/
def ofBinary (m : Nat) (q : Int) (powerOfTwo : Bool) : Span :=
  let unit := 1 <<< (q - 2).toNat
  { below := (if powerOfTwo then 4 * m - 1 else 4 * m - 2) * unit
    value := 4 * m * unit
    above := (4 * m + 2) * unit
    den := 1 <<< (2 - q).toNat
    closed := m % 2 == 0 }

/-- The span of a finite double other than zero, from its bits without the sign. -/
def ofBits (bits : UInt64) : Span :=
  let e := ((bits >>> 52) &&& 0x7FF).toNat
  let f := (bits &&& 0xFFFFFFFFFFFFF).toNat
  if e = 0 then ofBinary f (-1074) false
  else ofBinary (0x10000000000000 + f) ((e : Int) - 1075) (f == 0 && e > 1)

/-- The decimal lies between the halfway points. -/
def contains (s : Span) (d : Digits) : Bool :=
  let x := d.digits * Nat.pow 10 d.exponent.toNat * s.den
  let k := Nat.pow 10 (-d.exponent).toNat
  if s.closed then s.below * k ≤ x && x ≤ s.above * k else s.below * k < x && x < s.above * k

/-- The magnitude rounded down to a multiple of `10 ^ e`, as the number of such steps. -/
def floorSteps (s : Span) (e : Int) : Nat :=
  s.value * Nat.pow 10 (-e).toNat / (s.den * Nat.pow 10 e.toNat)

/-- Of the multiples `n` and `n + 1` of `10 ^ e`, the one nearer to the magnitude; the upper one if
they are equally near. -/
def nearer (s : Span) (n : Nat) (e : Int) : Nat :=
  let value := 2 * s.value * Nat.pow 10 (-e).toNat
  if value < (2 * n + 1) * s.den * Nat.pow 10 e.toNat then n else n + 1

/-- The decimal on the grid of step `10 ^ e` that reads back and is nearest, if one reads back. -/
def onGrid (s : Span) (e : Int) : Option Digits :=
  let n := s.floorSteps e
  let lower : Digits := ⟨n, e⟩
  let upper : Digits := ⟨n + 1, e⟩
  if s.contains lower then
    if s.contains upper then some ⟨s.nearer n e, e⟩ else some lower
  else if s.contains upper then some upper
  else none

/-- The least `k` with magnitude below `10 ^ k`, from a start that is not above it. -/
def scale (s : Span) : Nat → Int → Int
  | 0, k => k
  | fuel + 1, k =>
    if s.value * Nat.pow 10 (-k).toNat < s.den * Nat.pow 10 k.toNat then k
    else scale s fuel (k + 1)

/-- Tries grids from coarse to fine. -/
def search (s : Span) : Nat → Int → Digits
  | 0, e => ⟨s.floorSteps e, e⟩
  | fuel + 1, e => (s.onGrid e).getD (search s fuel (e - 1))

/-- Every double lies between these two powers of ten. -/
def lowestScale : Int := -330

/-- The shortest decimal that reads back. -/
def shortest (s : Span) : Digits :=
  s.search 18 (s.scale 660 lowestScale - 1)

theorem contains_of_onGrid {s : Span} {e : Int} {d : Digits} (h : s.onGrid e = some d) :
    s.contains d = true := by
  simp only [onGrid] at h
  split at h
  · rename_i hl
    split at h
    · rename_i hu
      simp only [nearer, Option.some.injEq] at h
      subst h
      split <;> assumption
    · cases h; exact hl
  · split at h
    · rename_i hu
      cases h; exact hu
    · cases h

theorem search_mem {s : Span} {fuel : Nat} {e : Int}
    (h : ∃ n < fuel, (s.onGrid (e - n)).isSome) : s.contains (s.search fuel e) = true := by
  induction fuel generalizing e with
  | zero => obtain ⟨n, hn, _⟩ := h; omega
  | succ fuel ih =>
    simp only [search]
    cases hg : s.onGrid e with
    | some d => exact contains_of_onGrid hg
    | none =>
      refine ih ?_
      obtain ⟨n, hn, hs⟩ := h
      cases n with
      | zero => simp [hg] at hs
      | succ n =>
        refine ⟨n, by omega, ?_⟩
        rw [show e - 1 - (n : Int) = e - ((n + 1 : Nat) : Int) by omega]
        exact hs

/-- If some grid of at most eighteen digits holds a decimal that reads back, the shortest decimal
reads back. -/
theorem shortest_mem {s : Span}
    (h : ∃ n : Nat, n < 18 ∧ (s.onGrid (s.scale 660 lowestScale - 1 - n)).isSome) :
    s.contains s.shortest = true :=
  search_mem h

end Span

/-- The decimal without zeros at the end of its digits; zero has no digits to spare. -/
def Digits.stripZeros : Nat → Digits → Digits
  | 0, d => d
  | fuel + 1, d =>
    if d.digits ≠ 0 ∧ d.digits % 10 = 0 then stripZeros fuel ⟨d.digits / 10, d.exponent + 1⟩ else d

/-- The shortest decimal of a finite double other than zero, its sign left out. -/
def ofFloat (x : Float) : Digits :=
  (Span.ofBits (x.toBits &&& 0x7FFFFFFFFFFFFFFF)).shortest.stripZeros 400

end VisualRegression.Decimal
