import Mathlib.Data.List.Basic
import Mathlib.Data.List.TakeDrop
import VisualRegression.Decimal.Shortest
import VisualRegression.Decimal.Literal
import VisualRegression.Proofs.Text.Grammar

/-!
# Digits

What is written in digits is read back.  The digits of a number stand for it, zeros before them or
not (`digitsValue_toDigits`, `digitsValue_zeros`), and are read up to what follows them
(`spanDigits_append`).  The shortest decimal of a double has no zeros before its digits, unless it
is below one (`exponent_le_of_digits_eq_zero`).
-/

namespace VisualRegression.Decimal

variable {c : Char} {ds rest : List Char} {n : Nat}

/-! ## Characters -/

theorem isDigit_eq (c : Char) : isDigit c = c.isDigit := by
  rw [Bool.eq_iff_iff, isDigit, Option.isSome_iff_exists]
  constructor
  · rintro ⟨d, hd⟩
    exact (Numeral.digit?_eq_some_iff.1 hd).1
  · exact fun h => ⟨_, Numeral.digit?_eq_some_iff.2 ⟨h, rfl⟩⟩

/-- All of a text is digits. -/
def AllDigits (ds : List Char) : Prop := ∀ c ∈ ds, isDigit c = true

theorem allDigits_append {ds' : List Char} (h : AllDigits ds) (h' : AllDigits ds') :
    AllDigits (ds ++ ds') :=
  fun _ hc => (List.mem_append.1 hc).elim (h _) (h' _)

theorem allDigits_toDigits (n : Nat) : AllDigits (Nat.toDigits 10 n) := by
  intro c hc
  rw [isDigit_eq]
  exact Nat.isDigit_of_mem_toDigits (by decide) (by decide) hc

theorem allDigits_zeros (k : Nat) : AllDigits (List.replicate k '0') := by
  intro c hc
  rw [List.eq_of_mem_replicate hc]
  rfl

/-- A text does not go on with a digit. -/
def Stops (rest : List Char) : Prop := ∀ c, rest.head? = some c → isDigit c = false

/-- **Digits are read up to what follows them.** -/
theorem spanDigits_append (hds : AllDigits ds) (hrest : Stops rest) :
    spanDigits (ds ++ rest) = (ds, rest) := by
  rw [spanDigits, List.span_eq_takeWhile_dropWhile, List.takeWhile_append_of_pos hds,
    List.dropWhile_append_of_pos hds]
  cases rest with
  | nil => rw [List.takeWhile_nil, List.dropWhile_nil, List.append_nil]
  | cons c rest =>
    have hc : ¬ isDigit c = true := Bool.eq_false_iff.1 (hrest c rfl)
    rw [List.takeWhile_cons_of_neg hc, List.dropWhile_cons_of_neg hc, List.append_nil]

/-! ## Values -/

theorem digitsValue_eq (hds : AllDigits ds) : digitsValue ds = Nat.ofDigitChars 10 ds 0 := by
  rw [Nat.ofDigitChars_eq_foldl]
  refine List.foldl_ext _ _ _ fun n c hc => ?_
  have hdigit := Numeral.digit?_eq_some_iff.2 ⟨(isDigit_eq c).symm.trans (hds c hc), rfl⟩
  rw [hdigit, Option.getD_some]

/-- The digits of a number stand for it. -/
theorem digitsValue_toDigits (n : Nat) : digitsValue (Nat.toDigits 10 n) = n := by
  rw [digitsValue_eq (allDigits_toDigits n), Nat.ofDigitChars_ten_toDigits]

/-- Zeros before digits do not count. -/
theorem digitsValue_zeros (k : Nat) (ds : List Char) :
    digitsValue (List.replicate k '0' ++ ds) = digitsValue ds := by
  induction k with
  | zero => rfl
  | succ k ih =>
    rw [List.replicate_succ, List.cons_append, ← ih]
    rfl

/-- A number that is not zero does not begin with one. -/
theorem head?_toDigits (h : n ≠ 0) : (Nat.toDigits 10 n).head? ≠ some '0' := by
  induction n using Nat.strongRecOn with
  | ind n ih =>
    rw [Nat.toDigits_eq_if (by decide)]
    split
    · rename_i hlt
      have hall : ∀ d < 10, d ≠ 0 → Nat.digitChar d ≠ '0' := by decide
      exact fun hd => hall n hlt h (Option.some.inj hd)
    · rw [List.head?_append_of_ne_nil _ Nat.toDigits_ne_nil]
      exact ih (n / 10) (by omega) (by omega)

/-! ## The shortest decimal -/

/-- The magnitude is not below a power of ten. -/
def Span.Reaches (s : Span) (e : Int) : Prop :=
  s.den * Nat.pow 10 e.toNat ≤ s.value * Nat.pow 10 (-e).toNat

namespace Span

variable {s : Span} {e : Int}

theorem Reaches.pred (h : s.Reaches e) : s.Reaches (e - 1) := by
  have hten : 1 ≤ 10 := by decide
  unfold Reaches at h ⊢
  refine Nat.le_trans (Nat.mul_le_mul_left _ (Nat.pow_le_pow_right hten ?_))
    (Nat.le_trans h (Nat.mul_le_mul_left _ (Nat.pow_le_pow_right hten ?_))) <;> omega

theorem Reaches.floorSteps_ne_zero (h : s.Reaches e) (hden : 0 < s.den) :
    s.floorSteps e ≠ 0 :=
  Nat.pos_iff_ne_zero.1 (Nat.div_pos h (Nat.mul_pos hden (Nat.pow_pos (by decide))))

/-- A decimal on a grid has digits, if the magnitude reaches its step. -/
theorem digits_of_onGrid {d : Digits} (hden : 0 < s.den) (h : s.Reaches e)
    (hgrid : s.onGrid e = some d) : d.digits ≠ 0 := by
  have hpos := h.floorSteps_ne_zero hden
  simp only [onGrid, nearer] at hgrid
  split at hgrid
  · split at hgrid
    · obtain rfl := Option.some.inj hgrid
      dsimp only
      split <;> omega
    · obtain rfl := Option.some.inj hgrid
      exact hpos
  · split at hgrid
    · obtain rfl := Option.some.inj hgrid
      exact Nat.succ_ne_zero _
    · cases hgrid

theorem exponent_of_onGrid {d : Digits} (hgrid : s.onGrid e = some d) : d.exponent = e := by
  simp only [onGrid] at hgrid
  split at hgrid
  · split at hgrid <;> obtain rfl := Option.some.inj hgrid <;> rfl
  · split at hgrid
    · obtain rfl := Option.some.inj hgrid
      rfl
    · cases hgrid

theorem digits_search (hden : 0 < s.den) (fuel : Nat) (h : s.Reaches e) :
    (s.search fuel e).digits ≠ 0 := by
  induction fuel generalizing e with
  | zero => exact h.floorSteps_ne_zero hden
  | succ fuel ih =>
    rw [search]
    cases hgrid : s.onGrid e with
    | none => exact ih h.pred
    | some d => exact digits_of_onGrid hden h hgrid

theorem exponent_search (fuel : Nat) (e : Int) : (s.search fuel e).exponent ≤ e := by
  induction fuel generalizing e with
  | zero => exact Int.le_refl e
  | succ fuel ih =>
    rw [search]
    cases hgrid : s.onGrid e with
    | none => exact Int.le_trans (ih (e - 1)) (by omega)
    | some d => exact Int.le_of_eq (exponent_of_onGrid hgrid)

/-- The search for the scale stays where it is, or ends above a power of ten that is reached. -/
theorem scale_cases (fuel : Nat) (k : Int) :
    s.scale fuel k = k ∨ s.Reaches (s.scale fuel k - 1) := by
  induction fuel generalizing k with
  | zero => exact .inl rfl
  | succ fuel ih =>
    rw [scale]
    split
    · exact .inl rfl
    · rename_i hreached
      obtain hstays | hreaches := ih (k + 1)
      · rw [hstays, Int.add_sub_cancel]
        exact .inr (Nat.le_of_not_lt hreached)
      · exact .inr hreaches

/-- Without digits there is nothing but a small exponent. -/
theorem exponent_le_of_shortest (hden : 0 < s.den) (h : s.shortest.digits = 0) :
    s.shortest.exponent ≤ 0 := by
  obtain hlowest | hreaches := s.scale_cases 660 lowestScale
  · refine Int.le_trans (exponent_search _ _) ?_
    rw [hlowest]
    decide
  · exact absurd h (digits_search hden _ hreaches)

end Span

/-- Taking zeros away leaves a number that is none with digits. -/
theorem stripZeros_cases (fuel : Nat) (d : Digits) :
    d.stripZeros fuel = d ∨ (d.stripZeros fuel).digits ≠ 0 := by
  induction fuel generalizing d with
  | zero => exact .inl rfl
  | succ fuel ih =>
    rw [Digits.stripZeros]
    split
    · obtain hsame | hdigits := ih ⟨d.digits / 10, d.exponent + 1⟩
      · rw [hsame]
        refine .inr ?_
        dsimp only
        omega
      · exact .inr hdigits
    · exact .inl rfl

theorem den_ofBits (bits : UInt64) : 0 < (Span.ofBits bits).den := by
  have hden (k : Nat) : 0 < 1 <<< k := by
    rw [Nat.one_shiftLeft]
    exact Nat.two_pow_pos k
  unfold Span.ofBits
  dsimp only
  split <;> exact hden _

/-- **A decimal without digits is written below one**, whichever double it is of. -/
theorem exponent_le_of_digits_eq_zero {x : Float} (h : (ofFloat x).digits = 0) :
    (ofFloat x).exponent ≤ 0 := by
  unfold ofFloat at h ⊢
  obtain hsame | hdigits :=
    stripZeros_cases 400 (Span.ofBits (x.toBits &&& 0x7FFFFFFFFFFFFFFF)).shortest
  · rw [hsame] at h ⊢
    exact Span.exponent_le_of_shortest (den_ofBits _) h
  · exact absurd h hdigits

end VisualRegression.Decimal
