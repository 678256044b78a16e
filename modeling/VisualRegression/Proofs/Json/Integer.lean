import Mathlib.Algebra.Order.Ring.Nat
import Mathlib.Algebra.Ring.Int.Defs
import Mathlib.Data.Nat.Log

/-!
# Integers as doubles

A double may be given as an integer.  An integer of 64 bits is nowhere near the largest double, so
that it is a finite one: `isFinite_ofInt`.  What carries the proof is `Below`, a bound on the size
of a number that packing keeps and rounding raises by one at most.
-/

namespace VisualRegression.Double

open Float.Model (Format UnpackedFloat)
open Float.Model.UnpackedFloat

/-- The number is finite, and its size is below `2 ^ (bound + 1)`. -/
inductive Below (bound : Int) : UnpackedFloat → Prop where
  | zero (s : Sign) : Below bound (.zero s)
  | finite {s : Sign} {m : Nat} {e : Int} (hm : 0 < m) (h : m.log2 + e ≤ bound) :
      Below bound (.finite s m e hm)

variable {bound bound' : Int} {f g : UnpackedFloat}

theorem Below.isFinite (h : Below bound f) : f.isFinite = true := by
  cases h <;> rfl

theorem Below.neg (h : Below bound f) : Below bound f.neg := by
  cases h with
  | zero s => exact .zero _
  | finite hm h => exact .finite hm h

theorem Below.mono (h : Below bound f) (hle : bound ≤ bound') : Below bound' f := by
  cases h with
  | zero s => exact .zero s
  | finite hm h => exact .finite hm (Int.le_trans h hle)

/-! ## Logarithms -/

/-- A number of so many digits has a logarithm below their count. -/
theorem log2_lt_of_lt {n digits : Nat} (hdigits : 0 < digits) (h : n < 2 ^ digits) :
    n.log2 < digits := by
  rcases Nat.eq_zero_or_pos n with rfl | hpos
  · exact hdigits
  · exact (Nat.log2_lt (Nat.pos_iff_ne_zero.1 hpos)).2 h

theorem log2_le_log2 {m n : Nat} (h : m ≤ n) : m.log2 ≤ n.log2 := by
  rw [Nat.log2_eq_log_two, Nat.log2_eq_log_two]
  exact Nat.log_mono_right h

theorem log2_div_pow (m n : Nat) : (m / 2 ^ n).log2 = m.log2 - n := by
  rw [Nat.log2_eq_log_two, Nat.log2_eq_log_two, Nat.log_div_base_pow]

theorem log2_succ_le (m : Nat) : (m + 1).log2 ≤ m.log2 + 1 := by
  have hlt : m + 1 < 2 ^ (m.log2 + 2) := by
    have hm : m < 2 ^ (m.log2 + 1) := Nat.lt_log2_self
    rw [Nat.pow_succ]
    omega
  exact Nat.lt_succ_iff.1 (log2_lt_of_lt (Nat.succ_pos _) hlt)

theorem log2_mul_le (m n : Nat) : (m * n).log2 ≤ m.log2 + n.log2 + 1 := by
  have hlt : m * n < 2 ^ (m.log2 + n.log2 + 2) := by
    have hpow : 2 ^ (m.log2 + n.log2 + 2) = 2 ^ (m.log2 + 1) * 2 ^ (n.log2 + 1) := by
      rw [← Nat.pow_add]
      congr 1
      omega
    rw [hpow]
    exact Nat.mul_lt_mul'' Nat.lt_log2_self Nat.lt_log2_self
  exact Nat.lt_succ_iff.1 (log2_lt_of_lt (Nat.succ_pos _) hlt)

theorem log2_shiftLeft_le (m n : Nat) : (m <<< n).log2 ≤ m.log2 + n := by
  have hlt : m <<< n < 2 ^ (m.log2 + n + 1) := by
    rw [Nat.shiftLeft_eq, Nat.add_right_comm, Nat.pow_add]
    exact Nat.mul_lt_mul_of_pos_right Nat.lt_log2_self (Nat.two_pow_pos n)
  exact Nat.lt_succ_iff.1 (log2_lt_of_lt (Nat.succ_pos _) hlt)

/-! ## Packing -/

/-- Bits whose exponent is not the greatest one are those of a finite number, of a size that the
exponent bounds. -/
theorem below_unpack {b : BitVec Format.binary64.numBits}
    (hlow : (unpackExponent b).toNat < 2047)
    (hsize : (unpackExponent b).toNat ≤ bound + 1023) : Below bound (unpack .binary64 b) := by
  have hne : unpackExponent b ≠ (-1#_) := by
    intro heq
    rw [heq] at hlow
    exact absurd hlow (by decide)
  have hmantissa : (unpackMantissa b).toNat < 2 ^ 52 := (unpackMantissa b).isLt
  have hbias : Format.binary64.exponentBias = 1023 := rfl
  unfold unpack
  rw [if_neg hne]
  by_cases hzero : unpackExponent b = 0#_
  · have hexp : (unpackExponent b).toNat = 0 := by
      rw [hzero]
      rfl
    rw [if_pos hzero]
    by_cases hnone : unpackMantissa b = 0#_
    · rw [dif_pos hnone]
      exact .zero _
    · have hlog : (unpackMantissa b).toNat.log2 < 52 := log2_lt_of_lt (by decide) hmantissa
      rw [dif_neg hnone]
      refine .finite _ ?_
      simp only [hbias, hexp]
      omega
  · have hnormal : (1#1 ++ unpackMantissa b).toNat < 2 ^ 53 := (1#1 ++ unpackMantissa b).isLt
    have hlog : (1#1 ++ unpackMantissa b).toNat.log2 < 53 := log2_lt_of_lt (by decide) hnormal
    rw [if_neg hzero]
    refine .finite _ ?_
    simp only [hbias]
    omega

/-- How a finite number is packed: with its exponent, if its mantissa has all bits. -/
theorem pack_finite {s : Sign} {m : Nat} {e : Int} (hm : 0 < m) :
    pack .binary64 (.finite s m e hm) =
      if 2048 ≤ (e + 1023 + 52).toNat + 1 then packedInfinity .binary64 s
      else if m.log2 + 1 = 53 then
        packComponents .binary64 s (BitVec.ofNat 11 (e + 1023 + 52).toNat) (BitVec.ofNat 52 m)
      else packComponents .binary64 s 0#11 (BitVec.ofNat 52 m) := rfl

/-- **A number keeps its bound when it is packed.** -/
theorem Below.unpack_pack (h : Below bound f) (hbound : 0 ≤ bound) (hhigh : bound ≤ 900) :
    Below bound (unpack .binary64 (pack .binary64 f)) := by
  -- where there is no room for an exponent, the number counts as a small one
  have hsmall (s : Sign) (mantissa : BitVec 52) :
      Below bound (unpack .binary64 (packComponents .binary64 s 0#11 mantissa)) := by
    refine below_unpack ?_ ?_ <;> rw [unpackExponent_packComponents]
    · decide
    · have hzero : ((0#11).toNat : Int) = 0 := rfl
      omega
  cases h with
  | zero s => exact hsmall s 0#52
  | @finite s m e hm hlog =>
    rw [pack_finite, if_neg (by omega)]
    split
    · have hexp : (BitVec.ofNat 11 (e + 1023 + 52).toNat).toNat = (e + 1023 + 52).toNat :=
        Nat.mod_eq_of_lt (by omega)
      refine below_unpack ?_ ?_ <;> rw [unpackExponent_packComponents, hexp] <;> omega
    · exact hsmall s _

/-! ## Rounding -/

theorem mantissa_shiftRight (em : ExtendedMantissa) (n : Nat) :
    (em >>> n).mantissa = em.mantissa / 2 ^ n := by
  induction n with
  | zero => exact (Nat.div_one _).symm
  | succ n ih =>
    have hstep : (em >>> (n + 1)).mantissa = (em >>> n).mantissa / 2 := rfl
    rw [hstep, ih, Nat.div_div_eq_div_mul, Nat.pow_succ]

/-- Rounding raises a mantissa by one at most. -/
theorem roundedMantissa_le (em : ExtendedMantissa) : em.roundedMantissa ≤ em.mantissa + 1 := by
  unfold ExtendedMantissa.roundedMantissa Accuracy.roundToNearestEven
  split <;> omega

theorem mantissa_ofMantissaAndAccuracy (m : Nat) (a : Accuracy) :
    (ExtendedMantissa.ofMantissaAndAccuracy m a).mantissa = m := by
  unfold ExtendedMantissa.ofMantissaAndAccuracy
  split <;> rfl

/-- Dropping the bits that there is no room for keeps the size. -/
theorem shiftToTargetExponent_le {m : Nat} {e : Int} {a : Accuracy} (hbound : 0 ≤ bound)
    (h : m.log2 + e ≤ bound) :
    (shiftToTargetExponent .binary64 m e a).1.mantissa.log2 +
      (shiftToTargetExponent .binary64 m e a).2 ≤ bound := by
  have hbits : Format.binary64.mantissaBits = 53 := rfl
  have hmin : Format.binary64.minExponent = -1074 := rfl
  simp only [shiftToTargetExponent, shiftToExponent, mantissa_shiftRight, log2_div_pow,
    mantissa_ofMantissaAndAccuracy, Format.targetExponent, Float.Model.totalExponent, hbits, hmin]
  omega

/-- A number whose size is bounded, be it zero or not. -/
theorem below_dite {s : Sign} {m : Nat} {e : Int} (h : m.log2 + e ≤ bound) :
    Below bound (if hm : m = 0 then .zero s else .finite s m e (Nat.pos_of_ne_zero hm)) := by
  by_cases hm : m = 0
  · rw [dif_pos hm]
    exact .zero s
  · rw [dif_neg hm]
    exact .finite _ h

/-- **Rounding raises the size of a number by one at most.** -/
theorem below_roundWithAccuracy {s : Sign} {m : Nat} {e : Int} {a : Accuracy} (hbound : 1 ≤ bound)
    (h : m.log2 + e + 1 ≤ bound) : Below bound (roundWithAccuracy .binary64 s m e a) := by
  have hfirst := shiftToTargetExponent_le (a := a) (Int.sub_nonneg_of_le hbound)
    (Int.le_sub_right_of_add_le h)
  have hround := log2_le_log2 (roundedMantissa_le (shiftToTargetExponent .binary64 m e a).1)
  have hsucc := log2_succ_le (shiftToTargetExponent .binary64 m e a).1.mantissa
  have hsize : (shiftToTargetExponent .binary64 m e a).1.roundedMantissa.log2 +
      (shiftToTargetExponent .binary64 m e a).2 ≤ bound := by omega
  exact below_dite (shiftToTargetExponent_le (by omega) hsize)

/-- The size of a product is that of its factors together, and two more. -/
theorem Below.mul (h : Below bound f) (h' : Below bound' g) (hbound : 0 ≤ bound)
    (hbound' : 0 ≤ bound') : Below (bound + bound' + 2) (f.mul .binary64 g) := by
  cases h with
  | zero s => cases h' <;> exact .zero _
  | @finite s m e hm h =>
    cases h' with
    | zero s' => exact .zero _
    | @finite s' m' e' hm' h' =>
      have hlog := log2_mul_le m m'
      have hsize : (m * m').log2 + (e + e') + 1 ≤ bound + bound' + 2 := by omega
      exact below_roundWithAccuracy (by omega) hsize

/-! ## Integers -/

/-- A natural number of 64 bits keeps its size when it is rounded. -/
theorem below_normalize {n : Nat} (h : n < 2 ^ 64) :
    Below 64 (UnpackedFloat.normalize .binary64 n 0 .positive) := by
  unfold UnpackedFloat.normalize
  split
  · rename_i hlt
    rw [Int.compare_eq_lt] at hlt
    omega
  · exact .zero _
  · have hlog : n.log2 < 64 := log2_lt_of_lt (by decide) h
    refine below_roundWithAccuracy (by omega) ?_
    have := log2_shiftLeft_le n (0 - Format.binary64.targetExponent
      (Float.Model.totalExponent n 0)).toNat
    simp only [Int.toNat_natCast]
    omega

/-- A natural number of 64 bits keeps its size when it is read as a decimal. -/
theorem below_ofScientific {n : Nat} (h : n < 2 ^ 64) :
    Below 66 (UnpackedFloat.ofScientific .binary64 n 0) := by
  unfold UnpackedFloat.ofScientific
  by_cases hzero : n = 0
  · rw [dif_pos hzero]
    exact .zero _
  · rw [dif_neg hzero]
    have hlog : n.log2 < 64 := log2_lt_of_lt (by decide) h
    have hshift := log2_shiftLeft_le n Format.binary64.mantissaBits
    have hbits : Format.binary64.mantissaBits = 53 := rfl
    have hexp : (2 : Int) ^ Format.binary64.exponentBits = 2048 := rfl
    rw [hexp, if_neg (by decide), if_neg (by omega), if_pos (by decide)]
    have hleft : ∀ hpos, Below 63 (.finite .positive (n <<< Format.binary64.mantissaBits)
        (-(Format.binary64.mantissaBits : Int)) hpos) := fun _ => .finite _ (by omega)
    have hright : ∀ hpos, Below 1 (.finite .positive (10 ^ (0 : Int).toNat) 0 hpos) :=
      fun _ => .finite _ (by decide)
    exact ((hleft _).mul (hright _) (by decide) (by decide)).mono (by decide)

/-- One has the size of one. -/
theorem below_one :
    Below 0 (UnpackedFloat.unpack .binary64 (Float.ofBits 0x3FF0000000000000).toBits.toBitVec) :=
  below_unpack (by decide) (by decide)

/-- A natural number of 64 bits is a finite double. -/
theorem below_ofNat {n : Nat} (h : n < 2 ^ 64) : Below 66 (Float.ofNat n).toModel.unpack := by
  change Below 66 (Float.ofScientific n false 0).toModel.unpack
  unfold Float.ofScientific
  split
  · -- a number that doubles hold exactly, multiplied by one
    have hn : n.toUInt64.toNat = n := Nat.mod_eq_of_lt h
    have hword := (hn.symm ▸ below_normalize h).unpack_pack (by decide) (by decide)
    exact (hword.mul below_one (by decide) (by decide)).unpack_pack (by decide) (by decide)
  · -- any other number is rounded
    exact (below_ofScientific h).unpack_pack (by decide) (by decide)

/-- **An integer of 64 bits is a finite double.** -/
theorem isFinite_ofInt {n : Int} (hlow : -2 ^ 63 ≤ n) (hhigh : n < 2 ^ 64) :
    (Float.ofInt n).isFinite = true := by
  cases n with
  | ofNat n =>
    rw [Int.ofNat_eq_natCast] at hhigh
    exact (below_ofNat (by omega)).isFinite
  | negSucc n =>
    have hn : n + 1 < 2 ^ 64 := by omega
    exact ((below_ofNat hn).neg.unpack_pack (by decide) (by decide)).isFinite

end VisualRegression.Double
