import Mathlib.Algebra.Order.Ring.Nat
import VisualRegression.Difference

/-!
# The extent of positions

The box around positions begins with the first one and is stretched by each of the others.  All the
way it holds the positions seen so far and touches one of them with each of its edges
(`Box.Frames`), which makes its rectangle the smallest one around them (`Rect.Bounds`).
-/

namespace VisualRegression

/-- The smallest rectangle around a set of positions: it contains them all and lies in any other
rectangle that does, and each of its four edges touches one of them. -/
structure Rect.Bounds (r : Rect) (P : Nat × Nat → Prop) : Prop where
  contains : ∀ p, P p → r.Contains p.1 p.2
  least : ∀ r' : Rect, (∀ p, P p → r'.Contains p.1 p.2) →
    ∀ px py, r.Contains px py → r'.Contains px py
  left_touched : ∃ p, P p ∧ r.x.toInt = p.1
  right_touched : ∃ p, P p ∧ r.right = p.1 + 1
  top_touched : ∃ p, P p ∧ r.y.toInt = p.2
  bottom_touched : ∃ p, P p ∧ r.bottom = p.2 + 1

theorem Rect.Bounds.congr {r : Rect} {P Q : Nat × Nat → Prop} (h : r.Bounds P)
    (hPQ : ∀ p, P p ↔ Q p) : r.Bounds Q := by
  obtain rfl : P = Q := funext fun p => propext (hPQ p)
  exact h

namespace Box

variable {b : Box} {P Q : Nat × Nat → Prop} {ps : List (Nat × Nat)}

/-- The box holds the positions of a set, and each of its four edges touches one of them. -/
structure Frames (b : Box) (P : Nat × Nat → Prop) : Prop where
  holds : ∀ p, P p → b.left ≤ p.1 ∧ p.1 ≤ b.right ∧ b.top ≤ p.2 ∧ p.2 ≤ b.bottom
  left_touched : ∃ p, P p ∧ p.1 = b.left
  right_touched : ∃ p, P p ∧ p.1 = b.right
  top_touched : ∃ p, P p ∧ p.2 = b.top
  bottom_touched : ∃ p, P p ∧ p.2 = b.bottom

theorem Frames.congr (h : b.Frames P) (hPQ : ∀ p, P p ↔ Q p) : b.Frames Q := by
  obtain rfl : P = Q := funext fun p => propext (hPQ p)
  exact h

/-- A box of one position. -/
theorem frames_single (p : Nat × Nat) : (single p).Frames (· = p) where
  holds q hq := by
    subst hq
    exact ⟨Nat.le_refl _, Nat.le_refl _, Nat.le_refl _, Nat.le_refl _⟩
  left_touched := ⟨p, rfl, rfl⟩
  right_touched := ⟨p, rfl, rfl⟩
  top_touched := ⟨p, rfl, rfl⟩
  bottom_touched := ⟨p, rfl, rfl⟩

/-- **A stretched box** touches with each edge what it touched before or the new position. -/
theorem Frames.extend (h : b.Frames P) (p : Nat × Nat) :
    (b.extend p).Frames (fun q => P q ∨ q = p) where
  holds q hq := by
    simp only [Box.extend]
    rcases hq with hq | rfl
    · have := h.holds q hq
      omega
    · omega
  left_touched := by
    obtain ⟨q, hq, he⟩ := h.left_touched
    simp only [Box.extend]
    rcases Nat.le_total b.left p.1 with hle | hle
    · exact ⟨q, .inl hq, by omega⟩
    · exact ⟨p, .inr rfl, by omega⟩
  right_touched := by
    obtain ⟨q, hq, he⟩ := h.right_touched
    simp only [Box.extend]
    rcases Nat.le_total b.right p.1 with hle | hle
    · exact ⟨p, .inr rfl, by omega⟩
    · exact ⟨q, .inl hq, by omega⟩
  top_touched := by
    obtain ⟨q, hq, he⟩ := h.top_touched
    simp only [Box.extend]
    rcases Nat.le_total b.top p.2 with hle | hle
    · exact ⟨q, .inl hq, by omega⟩
    · exact ⟨p, .inr rfl, by omega⟩
  bottom_touched := by
    obtain ⟨q, hq, he⟩ := h.bottom_touched
    simp only [Box.extend]
    rcases Nat.le_total b.bottom p.2 with hle | hle
    · exact ⟨p, .inr rfl, by omega⟩
    · exact ⟨q, .inl hq, by omega⟩

theorem Frames.foldl_extend (h : b.Frames P) (ps : List (Nat × Nat)) :
    (ps.foldl Box.extend b).Frames (fun q => P q ∨ q ∈ ps) := by
  induction ps generalizing b P with
  | nil => exact h.congr fun q => by simp
  | cons p rest ih => exact (ih (h.extend p)).congr fun q => by rw [List.mem_cons, or_assoc]

/-- **The box around positions holds them and touches them on all sides.** -/
theorem frames_around (h : around ps = some b) : b.Frames (· ∈ ps) := by
  cases ps with
  | nil => cases h
  | cons p rest =>
    cases h
    exact ((frames_single p).foldl_extend rest).congr fun q => List.mem_cons.symm

/-- There is a box around positions exactly if there are any. -/
theorem around_eq_none_iff : around ps = none ↔ ps = [] := by
  cases ps with
  | nil => exact ⟨fun _ => rfl, fun _ => rfl⟩
  | cons p rest => exact ⟨fun h => (by cases h), fun h => (by cases h)⟩

/-- The sides of the rectangle of a box whose positions have 31 bits. -/
theorem Frames.sides_toRect (h : b.Frames P) (hP : ∀ p, P p → p.1 < 2 ^ 31 ∧ p.2 < 2 ^ 31) :
    b.toRect.x.toInt = b.left ∧ b.toRect.right = b.right + 1 ∧
      b.toRect.y.toInt = b.top ∧ b.toRect.bottom = b.bottom + 1 := by
  obtain ⟨right, hright, hr⟩ := h.right_touched
  obtain ⟨bottom, hbottom, hb⟩ := h.bottom_touched
  have hcols := h.holds right hright
  have hrows := h.holds bottom hbottom
  have hx := (hP right hright).1
  have hy := (hP bottom hbottom).2
  have hleft : b.toRect.x.toInt = b.left := Int32.toInt_ofNat_of_lt (by omega)
  have htop : b.toRect.y.toInt = b.top := Int32.toInt_ofNat_of_lt (by omega)
  have hwidth : b.toRect.width.toNat = b.right - b.left + 1 :=
    UInt32.toNat_ofNat_of_lt' (by simp only [UInt32.size]; omega)
  have hheight : b.toRect.height.toNat = b.bottom - b.top + 1 :=
    UInt32.toNat_ofNat_of_lt' (by simp only [UInt32.size]; omega)
  refine ⟨hleft, ?_, htop, ?_⟩
  · rw [Rect.right, hleft, hwidth]
    omega
  · rw [Rect.bottom, htop, hheight]
    omega

/-- **The rectangle of a box around positions is the smallest one around them.** -/
theorem Frames.bounds_toRect (h : b.Frames P) (hP : ∀ p, P p → p.1 < 2 ^ 31 ∧ p.2 < 2 ^ 31) :
    b.toRect.Bounds P := by
  obtain ⟨hx, hright, hy, hbottom⟩ := h.sides_toRect hP
  obtain ⟨left, hleft, hl⟩ := h.left_touched
  obtain ⟨right, hr', hr⟩ := h.right_touched
  obtain ⟨top, htop, ht⟩ := h.top_touched
  obtain ⟨bottom, hb', hb⟩ := h.bottom_touched
  refine ⟨fun p hp => ?_, fun r' h' px py hc => ?_, ⟨left, hleft, by omega⟩, ⟨right, hr', by omega⟩,
    ⟨top, htop, by omega⟩, ⟨bottom, hb', by omega⟩⟩
  · have := h.holds p hp
    simp only [Rect.Contains, hx, hright, hy, hbottom]
    omega
  · -- another rectangle reaches as far as each of the four positions that are touched
    have h₁ := (h' left hleft).1
    have h₂ := (h' right hr').2.1
    have h₃ := (h' top htop).2.2.1
    have h₄ := (h' bottom hb').2.2.2
    simp only [Rect.Contains, hx, hright, hy, hbottom] at hc ⊢
    omega

end Box

end VisualRegression
