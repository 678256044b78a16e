/-!
# Decimal numerals

Reading a natural number below a bound from decimal digits with an optional plus sign, with the
reason where a text is no such numeral. Main statement: `read_ok_iff` says which texts are read and
what they stand for.
-/

namespace VisualRegression

/-- Why a text is no numeral below a bound. -/
inductive NumeralFault where
  /-- There is nothing to read. -/
  | empty
  /-- A character is no decimal digit, or a sign stands alone. -/
  | invalidDigit
  /-- The value is not below the bound. -/
  | tooLarge
deriving DecidableEq, Repr

namespace NumeralFault

/-- The fault in words. -/
def message : NumeralFault → String
  | empty => "cannot parse integer from empty string"
  | invalidDigit => "invalid digit found in string"
  | tooLarge => "number too large to fit in target type"

end NumeralFault

namespace Numeral

/-- The value of a decimal digit. -/
def digit? (c : Char) : Option Nat :=
  if '0' ≤ c ∧ c ≤ '9' then some (c.toNat - '0'.toNat) else none

/-- The value of a list of digits after those read so far. -/
def value? (acc : Nat) : List Char → Option Nat
  | [] => some acc
  | c :: rest => (digit? c).bind fun d => value? (10 * acc + d) rest

/-- Reads digits after those read so far, and stops at the first character that is no digit or
whose digit takes the value to the bound. -/
def scan (bound acc : Nat) : List Char → Except NumeralFault Nat
  | [] => .ok acc
  | c :: rest =>
    match digit? c with
    | none => .error .invalidDigit
    | some d => if 10 * acc + d < bound then scan bound (10 * acc + d) rest else .error .tooLarge

/-- The numeral without one leading plus sign. -/
def unsigned : List Char → List Char
  | '+' :: rest => rest
  | s => s

/-- Reads a numeral whose value is below `bound`. -/
def read (bound : Nat) (s : List Char) : Except NumeralFault Nat :=
  if s = [] then .error .empty
  else if unsigned s = [] then .error .invalidDigit
  else scan bound 0 (unsigned s)

theorem le_of_value? {acc n : Nat} {s : List Char} (h : value? acc s = some n) : acc ≤ n := by
  induction s generalizing acc with
  | nil => simp only [value?, Option.some.injEq] at h; omega
  | cons c rest ih =>
    obtain ⟨d, _, hd⟩ := Option.bind_eq_some_iff.1 h
    have := ih hd
    omega

theorem scan_ok_iff {bound acc n : Nat} {s : List Char} (hacc : acc < bound) :
    scan bound acc s = .ok n ↔ value? acc s = some n ∧ n < bound := by
  induction s generalizing acc with
  | nil =>
    simp only [scan, value?, Except.ok.injEq, Option.some.injEq]
    exact ⟨fun h => ⟨h, h ▸ hacc⟩, fun h => h.1⟩
  | cons c rest ih =>
    simp only [scan, value?]
    cases hd : digit? c with
    | none => simp
    | some d =>
      by_cases hlt : 10 * acc + d < bound
      · simp [hlt, ih hlt]
      · simp only [hlt, if_false, reduceCtorEq, Option.bind_some, false_iff, not_and]
        intro h
        have := le_of_value? h
        omega

/-- Exactly the non-empty digit strings, with an optional plus sign, whose value is below the bound
are read, and their value is the answer. -/
theorem read_ok_iff {bound n : Nat} {s : List Char} (hb : 0 < bound) :
    read bound s = .ok n ↔ unsigned s ≠ [] ∧ value? 0 (unsigned s) = some n ∧ n < bound := by
  unfold read
  by_cases hs : s = []
  · subst hs; simp [unsigned]
  · by_cases hu : unsigned s = []
    · simp [hs, hu]
    · simp [hs, hu, scan_ok_iff hb]

end Numeral

end VisualRegression
