import VisualRegression.Proofs.Difference.Outcome
import VisualRegression.Proofs.Json.Integer

/-!
# The share of differing pixels

The share of differing pixels that a comparison finds is a finite double:
`Comparer.isFinite_percentage`.  It is a quotient, and so its
divisor must not be too small.  `Normal` is a bound from below, which holds of a natural number
other than zero (`normal_ofNat`): it is kept by rounding, where a mantissa has all bits before, and
by packing.
-/

namespace VisualRegression.Double

open Float.Model (Format UnpackedFloat)
open Float.Model.UnpackedFloat

/-- The number has all bits of its mantissa, and the last one counts for `2 ^ low` at least. -/
inductive Normal (low : Int) : UnpackedFloat → Prop where
  | finite {s : Sign} {m : Nat} {e : Int} (hm : 0 < m) (hlog : m.log2 = 52) (h : low ≤ e) :
      Normal low (.finite s m e hm)

variable {low low' bound : Int} {f g : UnpackedFloat} {m n : Nat} {e : Int} {s : Sign}
  {a : Accuracy}

/-! ## Rounding -/

theorem le_roundedMantissa (em : ExtendedMantissa) : em.mantissa ≤ em.roundedMantissa := by
  unfold ExtendedMantissa.roundedMantissa Accuracy.roundToNearestEven
  split <;> omega

/-- Dropping the bits that there is no room for leaves all bits of a mantissa. -/
theorem shiftToTargetExponent_normal (hlog : 52 ≤ m.log2) (hlow : -1074 ≤ (m.log2 : Int) + e - 52) :
    (shiftToTargetExponent .binary64 m e a).1.mantissa.log2 = 52 ∧
      (shiftToTargetExponent .binary64 m e a).2 = (m.log2 : Int) + e - 52 := by
  have hbits : Format.binary64.mantissaBits = 53 := rfl
  have hmin : Format.binary64.minExponent = -1074 := rfl
  simp only [shiftToTargetExponent, shiftToExponent, mantissa_shiftRight, log2_div_pow,
    mantissa_ofMantissaAndAccuracy, Format.targetExponent, Float.Model.totalExponent, hbits, hmin]
  omega

/-- **Rounding keeps a bound from below**, where there are enough bits. -/
theorem normal_roundWithAccuracy (hlog : 52 ≤ m.log2) (hlow : -1074 ≤ low)
    (h : low ≤ (m.log2 : Int) + e - 52) : Normal low (roundWithAccuracy .binary64 s m e a) := by
  obtain ⟨hfirst, hexponent⟩ := shiftToTargetExponent_normal (e := e) (a := a) hlog (by omega)
  have hge := log2_le_log2 (le_roundedMantissa (shiftToTargetExponent .binary64 m e a).1)
  obtain ⟨hsecond, hexponent'⟩ := shiftToTargetExponent_normal (a := .exact)
    (m := (shiftToTargetExponent .binary64 m e a).1.roundedMantissa)
    (e := (shiftToTargetExponent .binary64 m e a).2) (by omega) (by omega)
  unfold roundWithAccuracy
  dsimp only
  rw [dif_neg]
  · exact .finite _ hsecond (by omega)
  · intro hzero
    rw [hzero] at hsecond
    exact absurd hsecond (by decide)

/-- A product with enough bits is normal. -/
theorem normal_mul {m' : Nat} {e' : Int} {s' : Sign} (hm : 0 < m) (hm' : 0 < m')
    (hlog : 52 ≤ (m * m').log2) (hlow : -1074 ≤ low)
    (h : low ≤ ((m * m').log2 : Int) + (e + e') - 52) :
    Normal low (UnpackedFloat.mul .binary64 (.finite s m e hm) (.finite s' m' e' hm')) :=
  normal_roundWithAccuracy hlog hlow h

/-- A product of normal numbers is normal. -/
theorem Normal.mul (h : Normal low f) (h' : Normal low' g) (hlow : -1126 ≤ low + low') :
    Normal (low + low' + 52) (f.mul .binary64 g) := by
  obtain @⟨s, m, e, hm, hlog, h⟩ := h
  obtain @⟨s', m', e', hm', hlog', h'⟩ := h'
  have hproduct : 104 ≤ (m * m').log2 := by
    have hle : 2 ^ 104 ≤ m * m' := by
      have hm : 2 ^ 52 ≤ m := hlog ▸ Nat.log2_self_le (by omega)
      have hm' : 2 ^ 52 ≤ m' := hlog' ▸ Nat.log2_self_le (by omega)
      calc
        2 ^ 104 = 2 ^ 52 * 2 ^ 52 := by decide
        _ ≤ m * m' := Nat.mul_le_mul hm hm'
    have hlog := log2_le_log2 hle
    rwa [Nat.log2_two_pow] at hlog
  exact normal_mul hm hm' (by omega) (by omega) (by omega)

/-! ## Packing -/

theorem normal_unpack {b : BitVec Format.binary64.numBits}
    (hpos : 0 < (unpackExponent b).toNat) (hlow : (unpackExponent b).toNat < 2047)
    (h : low ≤ ((unpackExponent b).toNat : Int) - 1075) : Normal low (unpack .binary64 b) := by
  have hne : unpackExponent b ≠ (-1#_) := by
    intro heq
    rw [heq] at hlow
    exact absurd hlow (by decide)
  have hzero : unpackExponent b ≠ 0#_ := by
    intro heq
    rw [heq] at hpos
    exact absurd hpos (by decide)
  have hbias : Format.binary64.exponentBias = 1023 := rfl
  unfold unpack
  rw [if_neg hne, if_neg hzero]
  refine .finite _ ?_ ?_
  · have hlt : (1#1 ++ unpackMantissa b).toNat < 2 ^ 53 := (1#1 ++ unpackMantissa b).isLt
    have hle : 2 ^ 52 ≤ (1#1 ++ unpackMantissa b).toNat := by
      rw [BitVec.toNat_append]
      exact Nat.left_le_or
    have hlog := log2_lt_of_lt (by decide) hlt
    have hlog' := log2_le_log2 hle
    rw [Nat.log2_two_pow] at hlog'
    omega
  · simp only [hbias]
    omega

theorem Normal.unpack_pack (h : Normal low f) (hlow : -1074 ≤ low) (hf : Below bound f)
    (hhigh : bound ≤ 900) : Normal low (unpack .binary64 (pack .binary64 f)) := by
  obtain @⟨s, m, e, hm, hlog, h⟩ := h
  cases hf with
  | finite _ hsize =>
    have hexp : (BitVec.ofNat 11 (e + 1023 + 52).toNat).toNat = (e + 1023 + 52).toNat :=
      Nat.mod_eq_of_lt (by omega)
    rw [pack_finite, if_neg (by omega), if_pos (by omega)]
    refine normal_unpack ?_ ?_ ?_ <;> rw [unpackExponent_packComponents, hexp] <;> omega

/-! ## Quotients -/

/-- The size of a quotient of natural numbers. -/
theorem log2_div_le (m : Nat) (hn : 0 < n) : (m / n).log2 ≤ m.log2 - n.log2 := by
  have hlt : m / n < 2 ^ (m.log2 - n.log2 + 1) := by
    refine (Nat.div_lt_iff_lt_mul hn).2 ?_
    calc
      m < 2 ^ (m.log2 + 1) := Nat.lt_log2_self
      _ ≤ 2 ^ (m.log2 - n.log2 + 1 + n.log2) := Nat.pow_le_pow_right (by decide) (by omega)
      _ = 2 ^ (m.log2 - n.log2 + 1) * 2 ^ n.log2 := Nat.pow_add _ _ _
      _ ≤ 2 ^ (m.log2 - n.log2 + 1) * n := Nat.mul_le_mul_left _ (Nat.log2_self_le (by omega))
  exact Nat.lt_succ_iff.1 (log2_lt_of_lt (Nat.succ_pos _) hlt)

theorem Below.div (h : Below bound f) (h' : Normal low g) (hbound : 0 ≤ bound) (hlow : low ≤ 0) :
    Below (bound - low + 1) (f.div .binary64 g) := by
  obtain @⟨s', m', e', hm', hlog, h'⟩ := h'
  cases h with
  | zero s => exact .zero _
  | @finite s m e hm h =>
    have hbits : Format.binary64.mantissaBits = 53 := rfl
    have hmin : Format.binary64.minExponent = -1074 := rfl
    have hquotient := log2_div_le (m <<< (e - e' - min (e - e') (Format.binary64.targetExponent
      (Float.Model.totalExponent m e - Float.Model.totalExponent m' e'))).toNat) hm'
    have hshift := log2_shiftLeft_le m (e - e' - min (e - e') (Format.binary64.targetExponent
      (Float.Model.totalExponent m e - Float.Model.totalExponent m' e'))).toNat
    refine below_roundWithAccuracy (by omega) ?_
    simp only [Format.targetExponent, Float.Model.totalExponent, hbits, hmin] at *
    omega

/-! ## Natural numbers -/

theorem normal_one :
    Normal (-52)
      (UnpackedFloat.unpack .binary64 (Float.ofBits 0x3FF0000000000000).toBits.toBitVec) :=
  normal_unpack (by decide) (by decide) (by decide)

theorem le_log2_shiftLeft (hpos : 0 < n) (k : Nat) : n.log2 + k ≤ (n <<< k).log2 := by
  have hle : 2 ^ (n.log2 + k) ≤ n <<< k := by
    rw [Nat.shiftLeft_eq, Nat.pow_add]
    exact Nat.mul_le_mul_right _ (Nat.log2_self_le (by omega))
  have hlog := log2_le_log2 hle
  rwa [Nat.log2_two_pow] at hlog

/-- A natural number other than zero is normal when it is rounded. -/
theorem normal_normalize (hpos : 0 < n) (h : n < 2 ^ 64) :
    Normal (-52) (UnpackedFloat.normalize .binary64 n 0 .positive) := by
  have hlog : n.log2 < 64 := log2_lt_of_lt (by decide) h
  have htarget : Format.binary64.targetExponent (Float.Model.totalExponent n 0) =
      (n.log2 : Int) - 52 := by
    have hbits : Format.binary64.mantissaBits = 53 := rfl
    have hmin : Format.binary64.minExponent = -1074 := rfl
    simp only [Format.targetExponent, Float.Model.totalExponent, hbits, hmin]
    omega
  unfold UnpackedFloat.normalize
  split
  · rename_i hlt
    rw [Int.compare_eq_lt] at hlt
    omega
  · rename_i heq
    rw [Int.compare_eq_eq] at heq
    omega
  · have hshift := le_log2_shiftLeft hpos (0 - ((n.log2 : Int) - 52)).toNat
    simp only [UnpackedFloat.round, decreaseExponent, Int.toNat_natCast, htarget]
    exact normal_roundWithAccuracy (by omega) (by decide) (by omega)

/-- A natural number other than zero is normal when it is read as a decimal. -/
theorem normal_ofScientific (hpos : 0 < n) (h : n < 2 ^ 64) :
    Normal (-52) (UnpackedFloat.ofScientific .binary64 n 0) := by
  have hlog : n.log2 < 64 := log2_lt_of_lt (by decide) h
  have hbits : Format.binary64.mantissaBits = 53 := rfl
  have hexp : (2 : Int) ^ Format.binary64.exponentBits = 2048 := rfl
  have hshift := le_log2_shiftLeft hpos Format.binary64.mantissaBits
  have hone : n <<< Format.binary64.mantissaBits * 10 ^ (0 : Int).toNat =
      n <<< Format.binary64.mantissaBits := Nat.mul_one _
  unfold UnpackedFloat.ofScientific
  rw [dif_neg (by omega), hexp, if_neg (by decide), if_neg (by omega), if_pos (by decide)]
  refine normal_mul _ _ ?_ (by decide) ?_ <;> rw [hone] <;> omega

/-- **A natural number other than zero is normal.** -/
theorem normal_ofNat (hpos : 0 < n) (h : n < 2 ^ 64) :
    Normal (-52) (Float.ofNat n).toModel.unpack := by
  change Normal (-52) (Float.ofScientific n false 0).toModel.unpack
  unfold Float.ofScientific
  split
  · -- a number that doubles hold exactly, multiplied by one
    have hn : n.toUInt64.toNat = n := Nat.mod_eq_of_lt h
    have hword := (hn.symm ▸ normal_normalize hpos h).unpack_pack (by decide)
      (hn.symm ▸ below_normalize h) (by decide)
    have hsize := (hn.symm ▸ below_normalize h).unpack_pack (by decide) (by decide)
    exact (hword.mul normal_one (by decide)).unpack_pack (by decide)
      (hsize.mul below_one (by decide) (by decide)) (by decide)
  · -- any other number is rounded
    exact (normal_ofScientific hpos h).unpack_pack (by decide) (below_ofScientific h) (by decide)

/-! ## Shares -/

/-- **A quotient of natural numbers in percent is finite.** -/
theorem isFinite_percent {part total : Nat} (hpart : part < 2 ^ 64) (hpos : 0 < total)
    (htotal : total < 2 ^ 64) : (Float.ofNat part * 100 / Float.ofNat total).isFinite = true := by
  have hproduct := ((below_ofNat hpart).mul (below_ofNat (n := 100) (by decide)) (by decide)
    (by decide)).unpack_pack (by decide) (by decide)
  exact ((hproduct.div (normal_ofNat hpos htotal) (by decide) (by decide)).unpack_pack (by decide)
    (by decide)).isFinite

end VisualRegression.Double

namespace VisualRegression.Comparer

variable {c : Comparer} {candidate baseline : Image} {percentage : UInt8} {found : Difference}

/-- **The share of differing pixels is a finite number.** -/
theorem isFinite_percentage (h : c.compare candidate baseline percentage = .ok found) :
    found.percentage.isFinite = true := by
  obtain ⟨-, -, -, hshare⟩ := findings_of_compare h
  have hle : (c.differing candidate baseline).length ≤ candidate.pixelCount := by
    rw [length_differing]
    exact differenceCount_le _ _ _
  have hlt : candidate.pixelCount < 2 ^ 64 := by
    have hw := candidate.width.toNat_lt
    have hh := candidate.height.toNat_lt
    calc
      candidate.width.toNat * candidate.height.toNat < 2 ^ 32 * 2 ^ 32 :=
        Nat.mul_lt_mul'' hw hh
      _ = 2 ^ 64 := by decide
  rw [hshare, share]
  split
  · exact (Double.below_ofNat (n := 0) (by decide)).isFinite
  · exact Double.isFinite_percent (by omega) (by omega) hlt

end VisualRegression.Comparer
