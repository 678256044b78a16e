import VisualRegression.Mask
import VisualRegression.Proofs.Image

/-!
# Images filled at some positions

`Image.Fills` relates an image to the one that has one colour at the positions of a set and is the
same everywhere else.  There is exactly one such image, to fill two sets one after the other is to
fill their union, and to fill a set twice is to fill it once.
-/

namespace VisualRegression.Image

variable {color : Pixel} {P Q : Nat → Nat → Prop} {img mid out out' : Image}

/-- Two images of one size look the same outside a set of positions. -/
structure SameOutside (P : Nat → Nat → Prop) (img img' : Image) : Prop where
  dimensions_eq : img.dimensions = img'.dimensions
  get?_eq : ∀ x y, x < img.width.toNat → y < img.height.toNat → ¬ P x y →
    img.get? x y = img'.get? x y

/-- One image is the other one with a colour at the positions of a set. -/
structure Fills (color : Pixel) (P : Nat → Nat → Prop) (img out : Image) : Prop where
  dimensions_eq : out.dimensions = img.dimensions
  filled : ∀ x y, x < img.width.toNat → y < img.height.toNat → P x y → out.get? x y = some color
  kept : ∀ x y, x < img.width.toNat → y < img.height.toNat → ¬ P x y → out.get? x y = img.get? x y

namespace Fills

theorem width_eq (h : Fills color P img out) : out.width = img.width :=
  congrArg Prod.fst h.dimensions_eq

theorem height_eq (h : Fills color P img out) : out.height = img.height :=
  congrArg Prod.snd h.dimensions_eq

/-- To fill nothing changes nothing. -/
theorem none (color : Pixel) (img : Image) : Fills color (fun _ _ => False) img img where
  dimensions_eq := rfl
  filled _ _ _ _ h := h.elim
  kept _ _ _ _ _ := rfl

/-- Only the positions inside the image matter. -/
theorem congr (h : Fills color P img out)
    (hPQ : ∀ x y, x < img.width.toNat → y < img.height.toNat → (P x y ↔ Q x y)) :
    Fills color Q img out where
  dimensions_eq := h.dimensions_eq
  filled x y hx hy hq := h.filled x y hx hy ((hPQ x y hx hy).2 hq)
  kept x y hx hy hq := h.kept x y hx hy fun hp => hq ((hPQ x y hx hy).1 hp)

/-- **To fill two sets one after the other is to fill their union.** -/
theorem trans (h : Fills color P img mid) (h' : Fills color Q mid out) :
    Fills color (fun x y => P x y ∨ Q x y) img out where
  dimensions_eq := h'.dimensions_eq.trans h.dimensions_eq
  filled x y hx hy hpq := by
    have hx' : x < mid.width.toNat := h.width_eq ▸ hx
    have hy' : y < mid.height.toNat := h.height_eq ▸ hy
    by_cases hq : Q x y
    · exact h'.filled x y hx' hy' hq
    · rw [h'.kept x y hx' hy' hq]
      exact h.filled x y hx hy (hpq.resolve_right hq)
  kept x y hx hy hpq := by
    have hx' : x < mid.width.toNat := h.width_eq ▸ hx
    have hy' : y < mid.height.toNat := h.height_eq ▸ hy
    rw [h'.kept x y hx' hy' fun hq => hpq (.inr hq)]
    exact h.kept x y hx hy fun hp => hpq (.inl hp)

/-- **What is filled leaves no trace**: images that look the same everywhere else become the
same. -/
theorem eq_of_sameOutside {img' : Image} (h : Fills color P img out) (h' : Fills color P img' out')
    (hsame : SameOutside P img img') : out = out' := by
  have hd := hsame.dimensions_eq
  obtain ⟨hw, hh⟩ := Prod.mk.inj hd
  refine ext_get? (h.dimensions_eq.trans (hd.trans h'.dimensions_eq.symm)) fun x y hx hy => ?_
  rw [h.width_eq] at hx
  rw [h.height_eq] at hy
  have hx' : x < img'.width.toNat := hw ▸ hx
  have hy' : y < img'.height.toNat := hh ▸ hy
  by_cases hp : P x y
  · rw [h.filled x y hx hy hp, h'.filled x y hx' hy' hp]
  · rw [h.kept x y hx hy hp, h'.kept x y hx' hy' hp, hsame.get?_eq x y hx hy hp]

/-- **There is one image with a set filled.** -/
theorem unique (h : Fills color P img out) (h' : Fills color P img out') : out = out' :=
  h.eq_of_sameOutside h' ⟨rfl, fun _ _ _ _ _ => rfl⟩

/-- **To fill a set again changes nothing.** -/
theorem again (h : Fills color P img out) (h' : Fills color P out out') : out' = out :=
  unique ((h.trans h').congr fun _ _ _ _ => or_self_iff) h

end Fills

/-- A filled rectangle fills its own pixels. -/
theorem fills_paint (img : Image) (r : Rect) (color : Pixel) :
    Fills color (fun x y => r.Contains x y) img (img.paint r color) where
  dimensions_eq := rfl
  filled x y hx hy hr := by
    rw [paint, get?_mapPixels, get?_eq_some img hx hy, Option.map_some, if_pos hr]
  kept x y hx hy hr := by
    rw [paint, get?_mapPixels, get?_eq_some img hx hy, Option.map_some, if_neg hr]

end VisualRegression.Image
