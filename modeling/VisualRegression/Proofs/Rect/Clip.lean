import VisualRegression.Rect.Basic

/-!
# What is left of a rectangle inside an image

Clipping is the intersection with the image and nothing else: the clipped rectangle contains exactly
the pixels of the image that the rectangle contained (`contains_clip?`), and it is missing only if
there are none (`not_contains_of_clip?`).  No number is cut short on the way, however far the
rectangle reaches: `clipWords?` clips in words of 64 bits that wrap around and are cut to 32 bits at
the end, and does the same.  Main statement: `clip_intersects`.
-/

namespace VisualRegression.Rect

variable {r c : Rect} {width height : UInt32}

/-- The rectangle has a pixel inside an image of this size. -/
def Meets (r : Rect) (width height : UInt32) : Prop :=
  max r.x.toInt 0 < min r.right width.toNat ∧ max r.y.toInt 0 < min r.bottom height.toNat

/-- A rectangle is clipped to something exactly if it meets the image. -/
theorem clip?_isSome_iff : (r.clip? width height).isSome ↔ r.Meets width height := by
  simp only [clip?, Meets]
  split
  · rename_i h
    simp only [Option.isSome_none, Bool.false_eq_true, false_iff]
    omega
  · rename_i h
    simp only [Option.isSome_some, true_iff]
    omega

theorem meets_of_clip? (h : r.clip? width height = some c) : r.Meets width height :=
  clip?_isSome_iff.1 (Option.isSome_of_mem h)

theorem clip?_eq_none_iff : r.clip? width height = none ↔ ¬ r.Meets width height := by
  rw [← clip?_isSome_iff, Option.not_isSome_iff_eq_none]

/-- The edges of a clipped rectangle are those of the rectangle, moved inside the image. -/
theorem edges_of_clip? (h : r.clip? width height = some c) :
    c.x.toInt = max r.x.toInt 0 ∧ c.y.toInt = max r.y.toInt 0 ∧
      c.right = min r.right width.toNat ∧ c.bottom = min r.bottom height.toNat := by
  obtain ⟨hcolumns, hrows⟩ := meets_of_clip? h
  have hx := r.x.toInt_lt
  have hy := r.y.toInt_lt
  have hw := width.toNat_lt
  have hh := height.toNat_lt
  simp only [clip?] at h
  split at h
  · cases h
  · cases h
    -- an origin inside the image has 31 bits, and a size inside it has 32
    have hleft : (Int32.ofInt (max r.x.toInt 0)).toInt = max r.x.toInt 0 :=
      Int32.toInt_ofInt_of_le (by omega) (by omega)
    have htop : (Int32.ofInt (max r.y.toInt 0)).toInt = max r.y.toInt 0 :=
      Int32.toInt_ofInt_of_le (by omega) (by omega)
    have hwidth := UInt32.toNat_ofNat_of_lt'
      (n := (min r.right width.toNat - max r.x.toInt 0).toNat) (by simp only [UInt32.size]; omega)
    have hheight := UInt32.toNat_ofNat_of_lt'
      (n := (min r.bottom height.toNat - max r.y.toInt 0).toNat) (by simp only [UInt32.size]; omega)
    refine ⟨hleft, htop, ?_, ?_⟩
    · rw [right, hleft, hwidth]
      omega
    · rw [bottom, htop, hheight]
      omega

/-! ## Points -/

/-- The point lies in an image of this size. -/
def Inside (width height : UInt32) (px py : Int) : Prop :=
  0 ≤ px ∧ px < width.toNat ∧ 0 ≤ py ∧ py < height.toNat

theorem inside_natCast {px py : Nat} :
    Inside width height px py ↔ px < width.toNat ∧ py < height.toNat := by
  rw [Inside]
  omega

/-- A rectangle meets the image exactly if they have a point in common. -/
theorem meets_iff :
    r.Meets width height ↔ ∃ px py : Int, r.Contains px py ∧ Inside width height px py := by
  simp only [Meets, Contains, Inside]
  constructor
  · rintro ⟨hcolumns, hrows⟩
    exact ⟨max r.x.toInt 0, max r.y.toInt 0, by omega⟩
  · rintro ⟨px, py, hc⟩
    omega

/-- A clipped rectangle contains the points of the image that the rectangle contained. -/
theorem contains_clip?_iff (h : r.clip? width height = some c) (px py : Int) :
    c.Contains px py ↔ r.Contains px py ∧ Inside width height px py := by
  obtain ⟨hx, hy, hright, hbottom⟩ := edges_of_clip? h
  simp only [Contains, Inside, hx, hy, hright, hbottom]
  omega

/-- **A clipped rectangle contains exactly the pixels inside the image.** -/
theorem contains_clip? (h : r.clip? width height = some c) {px py : Nat} :
    c.Contains px py ↔ r.Contains px py ∧ px < width.toNat ∧ py < height.toNat := by
  rw [contains_clip?_iff h, inside_natCast]

/-- A rectangle that is not clipped to anything contains no pixel of the image. -/
theorem not_contains_of_clip? (h : r.clip? width height = none) {px py : Nat}
    (hx : px < width.toNat) (hy : py < height.toNat) : ¬ r.Contains px py := fun hc =>
  clip?_eq_none_iff.1 h (meets_iff.2 ⟨px, py, hc, inside_natCast.2 ⟨hx, hy⟩⟩)

/-- Rectangles with the same edges are the same. -/
theorem eq_of_edges {a b : Rect} (hx : a.x.toInt = b.x.toInt) (hy : a.y.toInt = b.y.toInt)
    (hright : a.right = b.right) (hbottom : a.bottom = b.bottom) : a = b := by
  simp only [right, bottom] at hright hbottom
  exact ext_values hx hy (by omega) (by omega)

/-- What is left of a rectangle inside an image is not clipped any more. -/
theorem clip?_clip? (h : r.clip? width height = some c) : c.clip? width height = some c := by
  obtain ⟨hx, hy, hright, hbottom⟩ := edges_of_clip? h
  obtain ⟨hcolumns, hrows⟩ := meets_of_clip? h
  have hmeets : c.Meets width height := by
    simp only [Meets, hx, hy, hright, hbottom]
    omega
  obtain ⟨c', hc'⟩ := Option.isSome_iff_exists.1 (clip?_isSome_iff.2 hmeets)
  obtain ⟨hx', hy', hright', hbottom'⟩ := edges_of_clip? hc'
  rw [hc', eq_of_edges (a := c') (b := c) (by omega) (by omega) (by omega) (by omega)]

/-! ## Words -/

/-- The first column or row inside the image, as a word. -/
def firstWord (p : Int32) : Int64 := max p.toInt64 0

/-- The column or row after the last one inside an image of this size, as a word. -/
def endWord (p : Int32) (length size : UInt32) : Int64 :=
  min (p.toInt64 + length.toUInt64.toInt64) size.toUInt64.toInt64

/-- Clipping in words of 64 bits, whose sums wrap around and whose upper halves are dropped at the
end. -/
def clipWords? (r : Rect) (width height : UInt32) : Option Rect :=
  let left := firstWord r.x
  let top := firstWord r.y
  let right := endWord r.x r.width width
  let bottom := endWord r.y r.height height
  if right ≤ left ∨ bottom ≤ top then none
  else some
    { x := left.toInt32
      y := top.toInt32
      width := (right - left).toUInt64.toUInt32
      height := (bottom - top).toUInt64.toUInt32 }

theorem toInt_max (a b : Int64) : (max a b).toInt = max a.toInt b.toInt := by
  have hmax : max a b = if a ≤ b then b else a := rfl
  rw [hmax]
  split <;> rename_i h <;> rw [Int64.le_iff_toInt_le] at h <;> omega

theorem toInt_min (a b : Int64) : (min a b).toInt = min a.toInt b.toInt := by
  have hmin : min a b = if a ≤ b then a else b := rfl
  rw [hmin]
  split <;> rename_i h <;> rw [Int64.le_iff_toInt_le] at h <;> omega

/-- A number of 32 bits without a sign is itself as a word. -/
theorem toInt_wide (n : UInt32) : n.toUInt64.toInt64.toInt = n.toNat := by
  have hn := n.toNat_lt
  have hbits : n.toUInt64.toInt64.toBitVec.toNat = n.toNat := n.toNat_toUInt64
  rw [← Int64.toInt_toBitVec, BitVec.toInt_eq_toNat_of_lt (by omega), hbits]

theorem toInt_firstWord (p : Int32) : (firstWord p).toInt = max p.toInt 0 := by
  rw [firstWord, toInt_max, Int32.toInt_toInt64, Int64.toInt_zero]

theorem toInt_endWord (p : Int32) (length size : UInt32) :
    (endWord p length size).toInt = min (p.toInt + length.toNat) size.toNat := by
  have hp := p.le_toInt
  have hp' := p.toInt_lt
  have hlength := length.toNat_lt
  have hsum : (p.toInt64 + length.toUInt64.toInt64).toInt = p.toInt + length.toNat := by
    rw [Int64.toInt_add, Int32.toInt_toInt64, toInt_wide]
    exact Int.bmod_eq_of_le (by omega) (by omega)
  rw [endWord, toInt_min, hsum, toInt_wide]

/-- A word that 32 bits with a sign can hold keeps its value in them. -/
theorem toInt_toInt32_of_le {x : Int64} (hlow : -2147483648 ≤ x.toInt)
    (hhigh : x.toInt ≤ 2147483647) : x.toInt32.toInt = x.toInt := by
  rw [Int64.toInt_toInt32]
  exact Int.bmod_eq_of_le (by omega) (by omega)

/-- A word that 32 bits without a sign can hold keeps its value in them. -/
theorem toNat_toUInt32_of_le {x : Int64} (hlow : 0 ≤ x.toInt) (hhigh : x.toInt ≤ 4294967295) :
    (x.toUInt64.toUInt32.toNat : Int) = x.toInt := by
  have hnonneg : 0 ≤ x := Int64.le_iff_toInt_le.2 (by rwa [Int64.toInt_zero])
  have hnat : (x.toUInt64.toNat : Int) = x.toInt := by
    rw [Int64.toNat_toUInt64_of_le hnonneg, ← Int64.toInt_eq_toNatClampNeg hnonneg]
  rw [UInt64.toNat_toUInt32]
  omega

/-- The difference of two words inside the image does not wrap around. -/
theorem toInt_sub_firstWord (p : Int32) (length size : UInt32)
    (h : (firstWord p).toInt < (endWord p length size).toInt) :
    (endWord p length size - firstWord p).toInt =
      (endWord p length size).toInt - (firstWord p).toInt := by
  refine Int64.toInt_sub_of_le _ _ (Int64.le_iff_toInt_le.2 ?_) (Int64.le_iff_toInt_le.2 (by omega))
  rw [Int64.toInt_zero, toInt_firstWord]
  omega

/-- **No number is cut short**: the words of a clipped rectangle are the numbers that it is given
by. -/
theorem words_of_clip? (h : r.clip? width height = some c) :
    c.x.toInt = (firstWord r.x).toInt ∧ c.y.toInt = (firstWord r.y).toInt ∧
      (c.width.toNat : Int) = (endWord r.x r.width width - firstWord r.x).toInt ∧
      (c.height.toNat : Int) = (endWord r.y r.height height - firstWord r.y).toInt := by
  obtain ⟨hx, hy, hright, hbottom⟩ := edges_of_clip? h
  obtain ⟨hcolumns, hrows⟩ := meets_of_clip? h
  simp only [right, bottom] at hright hbottom hcolumns hrows
  rw [toInt_sub_firstWord, toInt_sub_firstWord, toInt_firstWord, toInt_firstWord, toInt_endWord,
    toInt_endWord]
  · omega
  · rwa [toInt_firstWord, toInt_endWord]
  · rwa [toInt_firstWord, toInt_endWord]

/-- **Clipping in words is clipping.** -/
theorem clipWords?_eq_clip? (r : Rect) (width height : UInt32) :
    r.clipWords? width height = r.clip? width height := by
  have hcond : (endWord r.x r.width width ≤ firstWord r.x ∨
      endWord r.y r.height height ≤ firstWord r.y) ↔ ¬ r.Meets width height := by
    simp only [Int64.le_iff_toInt_le, toInt_firstWord, toInt_endWord, Meets, right, bottom]
    omega
  unfold clipWords?
  rcases hclip : r.clip? width height with _ | c
  · exact if_pos (hcond.2 (clip?_eq_none_iff.1 hclip))
  · have hxlow := c.x.le_toInt
    have hxhigh := c.x.toInt_lt
    have hylow := c.y.le_toInt
    have hyhigh := c.y.toInt_lt
    have hwidth := c.width.toNat_lt
    have hheight := c.height.toNat_lt
    obtain ⟨hx, hy, hw, hh⟩ := words_of_clip? hclip
    refine (if_neg fun hnot => hcond.1 hnot (meets_of_clip? hclip)).trans (congrArg some ?_)
    -- each word is one of the numbers of the clipped rectangle, and these have 32 bits
    have hw' := toNat_toUInt32_of_le (x := endWord r.x r.width width - firstWord r.x)
      (by omega) (by omega)
    have hh' := toNat_toUInt32_of_le (x := endWord r.y r.height height - firstWord r.y)
      (by omega) (by omega)
    refine ext_values ?_ ?_ ?_ ?_
    · exact (toInt_toInt32_of_le (by omega) (by omega)).trans hx.symm
    · exact (toInt_toInt32_of_le (by omega) (by omega)).trans hy.symm
    · exact Int.natCast_inj.1 (hw'.trans hw.symm)
    · exact Int.natCast_inj.1 (hh'.trans hh.symm)

/-! ## The law of clipping -/

/-- **What a rectangle clipped to an image of some size is**: it has pixels, all of them in the
image, contains the points of the image that the rectangle contained, and stays as it is when it is
clipped again.  Each of its numbers is the word of 64 bits that it was cut from. -/
structure IsClip (r : Rect) (width height : UInt32) (c : Rect) : Prop where
  contains_iff : ∀ px py : Int, c.Contains px py ↔ r.Contains px py ∧ Inside width height px py
  not_isEmpty : c.isEmpty = false
  left : 0 ≤ c.x.toInt
  top : 0 ≤ c.y.toInt
  right : c.x.toInt + c.width.toNat ≤ width.toNat
  bottom : c.y.toInt + c.height.toNat ≤ height.toNat
  x_eq : c.x.toInt = (firstWord r.x).toInt
  y_eq : c.y.toInt = (firstWord r.y).toInt
  width_eq : (c.width.toNat : Int) = (endWord r.x r.width width - firstWord r.x).toInt
  height_eq : (c.height.toNat : Int) = (endWord r.y r.height height - firstWord r.y).toInt
  again : c.clip? width height = some c

theorem isClip_of_clip? (h : r.clip? width height = some c) : IsClip r width height c := by
  obtain ⟨hx, hy, hright, hbottom⟩ := edges_of_clip? h
  obtain ⟨hcolumns, hrows⟩ := meets_of_clip? h
  obtain ⟨hwordx, hwordy, hwordw, hwordh⟩ := words_of_clip? h
  have hr : c.right = c.x.toInt + c.width.toNat := rfl
  have hb : c.bottom = c.y.toInt + c.height.toNat := rfl
  refine ⟨contains_clip?_iff h, ?_, by omega, by omega, by omega, by omega, hwordx, hwordy, hwordw,
    hwordh, clip?_clip? h⟩
  have hwidth : c.width ≠ 0 := fun hzero => by
    rw [hzero, UInt32.toNat_zero] at hr
    omega
  have hheight : c.height ≠ 0 := fun hzero => by
    rw [hzero, UInt32.toNat_zero] at hb
    omega
  simp [isEmpty, hwidth, hheight]

/-- **Clipping is intersection.**  Nothing is left of a rectangle exactly if it has no point in
common with the image; otherwise what is left is the intersection of the two, with no number cut
short, and in words of 64 bits it comes to the same. -/
theorem clip_intersects (r : Rect) (width height : UInt32) :
    (r.clip? width height = none ↔
      ¬ ∃ px py : Int, r.Contains px py ∧ Inside width height px py) ∧
    (∀ c, r.clip? width height = some c → IsClip r width height c) ∧
    r.clipWords? width height = r.clip? width height := by
  refine ⟨?_, fun c h => isClip_of_clip? h, clipWords?_eq_clip? r width height⟩
  rw [← meets_iff, clip?_eq_none_iff]

/-- A rectangle that begins at the last column and far above the image, as large as can be, in an
image as large as can be. -/
theorem clip_intersects_largest :
    IsClip ⟨2147483647, -2147483648, 4294967295, 4294967295⟩ 4294967295 4294967295
        ⟨2147483647, 0, 2147483648, 2147483647⟩ ∧
      ¬ ∃ px py : Int, Contains ⟨0, -2147483648, 4294967295, 2147483648⟩ px py ∧
        Inside 4294967295 4294967295 px py := by
  obtain ⟨-, hclip, -⟩ := clip_intersects ⟨2147483647, -2147483648, 4294967295, 4294967295⟩
    4294967295 4294967295
  obtain ⟨habove, -⟩ := clip_intersects ⟨0, -2147483648, 4294967295, 2147483648⟩
    4294967295 4294967295
  exact ⟨hclip _ (by decide), habove.1 (by decide)⟩

end VisualRegression.Rect
