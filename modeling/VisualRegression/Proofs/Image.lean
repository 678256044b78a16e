import VisualRegression.Image.Basic

/-!
# Images from their pixels

An image is built from its own pixels (`ofFn_eq`), so that images of one size with the same pixels
are the same (`ext_get?`), and one that has pixels has both of its sides (`sides_ne_zero`).
-/

namespace VisualRegression.Image

theorem get?_eq_some (img : Image) {x y : Nat} (hx : x < img.width.toNat)
    (hy : y < img.height.toNat) : img.get? x y = some (img.get x y hx hy) :=
  dif_pos ⟨hx, hy⟩

/-- There is a pixel at each position inside, and nowhere else. -/
theorem get?_eq_none_iff {img : Image} {x y : Nat} :
    img.get? x y = none ↔ ¬ (x < img.width.toNat ∧ y < img.height.toNat) := by
  unfold get?
  split
  · rename_i h
    exact ⟨fun hn => (by cases hn), fun hn => absurd h hn⟩
  · rename_i h
    exact ⟨fun _ => h, fun _ => rfl⟩

theorem get?_mapPixels (img : Image) (f : Nat → Nat → Pixel → Pixel) (x y : Nat) :
    (img.mapPixels f).get? x y = (img.get? x y).map (f x y) := by
  by_cases h : x < img.width.toNat ∧ y < img.height.toNat
  · rw [get?_eq_some img h.1 h.2, get?_eq_some (img.mapPixels f) h.1 h.2, get_mapPixels]
    rfl
  · have hmap : (img.mapPixels f).get? x y = none := get?_eq_none_iff.2 h
    rw [hmap, get?_eq_none_iff.2 h]
    rfl

/-- An image is built from its own pixels. -/
theorem ofFn_eq {img : Image} {f : Nat → Nat → Pixel} (h : ∀ x y hx hy, f x y = img.get x y hx hy) :
    ofFn img.width img.height f = img := by
  refine ext_pixels rfl (Array.ext ?_ fun i hi hi' => ?_)
  · rw [img.size_eq]
    exact Array.size_ofFn
  · rw [img.size_eq] at hi'
    have hx : i % img.width.toNat < img.width.toNat :=
      Nat.mod_lt _ (Nat.pos_of_mul_pos_right (Nat.zero_lt_of_lt hi'))
    have hy : i / img.width.toNat < img.height.toNat := Nat.div_lt_of_lt_mul hi'
    have hbuilt : (ofFn img.width img.height f).pixels[i] =
        f (i % img.width.toNat) (i / img.width.toNat) := Array.getElem_ofFn _
    rw [hbuilt, h _ _ hx hy]
    unfold get
    simp only [Nat.div_add_mod']

/-- **Images of one size with the same pixels are the same.** -/
theorem ext_get? {a b : Image} (hd : a.dimensions = b.dimensions)
    (h : ∀ x y, x < a.width.toNat → y < a.height.toNat → a.get? x y = b.get? x y) : a = b := by
  obtain ⟨hw, hh⟩ := Prod.mk.inj hd
  -- both are built from the pixels of the second one
  have ha : ofFn a.width a.height (fun x y => (b.get? x y).getD .transparent) = a := by
    refine ofFn_eq fun x y hx hy => ?_
    rw [← h x y hx hy, get?_eq_some a hx hy]
    rfl
  have hb : ofFn b.width b.height (fun x y => (b.get? x y).getD .transparent) = b := by
    refine ofFn_eq fun x y hx hy => ?_
    rw [get?_eq_some b hx hy]
    rfl
  rw [hw, hh] at ha
  exact ha.symm.trans hb

/-- The sides of an image with pixels are not zero. -/
theorem sides_ne_zero {img : Image} (h : img.isEmpty = false) : img.width ≠ 0 ∧ img.height ≠ 0 := by
  have hcount : img.pixelCount ≠ 0 := bne_iff_ne.1 (congrArg not h)
  obtain ⟨hw, hh⟩ := Nat.mul_ne_zero_iff.1 hcount
  exact ⟨fun hz => hw (congrArg UInt32.toNat hz), fun hz => hh (congrArg UInt32.toNat hz)⟩

end VisualRegression.Image
