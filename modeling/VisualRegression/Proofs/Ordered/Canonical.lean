import Mathlib.Data.Prod.Lex
import Mathlib.Order.Compare
import VisualRegression.Check.Locator
import VisualRegression.Proofs.Ordered.Set

/-!
# The order of a set's members

Rectangles are compared by row, column, width and height, in this order and not in that of their
fields, and locators by their form and then by what they hold.  Both comparisons belong to a strict
order that is told here on its own, `Rect.sortKey` and `Locator.Before`, and find nothing alike but
what is the same.  It follows that the set of a list depends on its members alone, lists each of
them once, and lists them in order: `OrderedSet.canonical_ofList`.  Main statement:
`canonical_orders`.
-/

namespace VisualRegression

/-! ## Comparisons -/

/-- **The comparison is that of a strict order**: the smaller one is before the other, and two are
found alike only if they are the same. -/
structure Compares {α : Type} [Ord α] (before : α → α → Prop) : Prop where
  lt_iff : ∀ a b : α, compare a b = .lt ↔ before a b
  gt_iff : ∀ a b : α, compare a b = .gt ↔ before b a
  eq_iff : ∀ a b : α, compare a b = .eq ↔ a = b
  swap : ∀ a b : α, compare b a = (compare a b).swap
  antisymm : ∀ a b : α, compare a b ≠ .gt → compare b a ≠ .gt → a = b
  trans : ∀ a b c : α, compare a b ≠ .gt → compare b c ≠ .gt → compare a c ≠ .gt

theorem Compares.of_lt_iff {α : Type} [Ord α] [Std.TransOrd α] [Std.LawfulEqOrd α]
    {before : α → α → Prop} (h : ∀ a b : α, compare a b = .lt ↔ before a b) :
    Compares before where
  lt_iff := h
  gt_iff a b := by rw [Std.OrientedCmp.gt_iff_lt, h]
  eq_iff _ _ := Std.compare_eq_iff_eq
  swap _ _ := Std.OrientedCmp.eq_swap
  antisymm a b hab hba := by
    rw [ne_eq, ← Ordering.isLE_iff_ne_gt] at *
    exact Std.LawfulEqCmp.eq_of_compare (Std.OrientedCmp.isLE_antisymm hab hba)
  trans a b c hab hbc := by
    rw [ne_eq, ← Ordering.isLE_iff_ne_gt] at *
    exact Std.TransCmp.isLE_trans hab hbc

/-- The numbers of a rectangle, in the order in which they count. -/
def Rect.sortKey (r : Rect) : ℤ ×ₗ ℤ ×ₗ ℕ ×ₗ ℕ :=
  toLex (r.y.toInt, toLex (r.x.toInt, toLex (r.width.toNat, r.height.toNat)))

theorem Rect.compare_eq_lt_iff (a b : Rect) : compare a b = .lt ↔ a.sortKey < b.sortKey := by
  change order a b = .lt ↔ _
  simp only [order, sortKey, compareLex, compareOn, Ordering.then_eq_lt, Std.compare_eq_lt,
    Std.compare_eq_iff_eq, Prod.Lex.toLex_lt_toLex, Int32.lt_iff_toInt_lt,
    UInt32.lt_iff_toNat_lt, Int32.toInt_inj, UInt32.toNat_inj]

namespace Locator

/-- **One locator comes before another**: the forms one after the other, selectors of one form in
the order of texts, and rectangles in theirs. -/
def Before : Locator → Locator → Prop
  | css s, css t => s < t
  | css _, xpath _ => True
  | css _, area _ => True
  | xpath s, xpath t => s < t
  | xpath _, area _ => True
  | area r, area r' => r.sortKey < r'.sortKey
  | _, _ => False

theorem compare_string_eq_lt_iff (s t : String) : compare s t = .lt ↔ s < t :=
  compareOfLessAndEq_eq_lt

theorem compare_eq_lt_iff (a b : Locator) : compare a b = .lt ↔ Before a b := by
  have hparts : compare a b = .lt ↔ a.rank < b.rank ∨ a.rank = b.rank ∧
      (a.selector < b.selector ∨ a.selector = b.selector ∧
        a.rect.sortKey < b.rect.sortKey) := by
    change order a b = .lt ↔ _
    simp only [order, compareLex, compareOn, Ordering.then_eq_lt, Nat.compare_eq_lt,
      compare_string_eq_lt_iff, Rect.compare_eq_lt_iff, Std.compare_eq_iff_eq]
  rw [hparts]
  cases a <;> cases b <;> simp [rank, selector, rect, Before]

end Locator

/-! ## Sets -/

namespace OrderedSet

variable {α : Type} [Ord α] [Std.TransOrd α] [DecidableEq α]

/-- **The set of a list is the list in order and without repetitions**: the members come one before
the other, each member of the list is there once and nothing else is, nothing is dropped from a list
without repetitions, and any list with the same members makes the same set, however they are
arranged and repeated. -/
structure Canonical (before : α → α → Prop) (l : List α) : Prop where
  sorted : (ofList l).toList.Pairwise before
  count_eq : ∀ a, (ofList l).toList.count a = if a ∈ l then 1 else 0
  perm : l.Nodup → (ofList l).toList.Perm l
  same : ∀ m : List α, (∀ a, a ∈ m ↔ a ∈ l) → ofList m = ofList l

theorem canonical_ofList [Std.LawfulEqOrd α] {before : α → α → Prop} (h : Compares before)
    (l : List α) : Canonical before l where
  sorted := (ofList l).increasing.imp fun {a b} hab => (h.lt_iff a b).1 hab
  count_eq a := by
    rw [(nodup_toList (ofList l)).count]
    simp only [← mem_def, mem_ofList]
  perm hnodup := (List.perm_ext_iff_of_nodup (nodup_toList _) hnodup).2 fun _ => mem_ofList
  same m hm := ext_mem fun a => by rw [mem_ofList, mem_ofList, hm]

end OrderedSet

/-! ## The law of the two orders -/

/-- **Rectangles and locators are in a total order that agrees with equality.**  Rectangles are
found alike if all four of their numbers are the same and otherwise compared by row, column, width
and height; selectors of elements come before those by path, and both before rectangles.  The set of
a list lists each of its members once and in this order, and depends on nothing but what the members
are. -/
theorem canonical_orders :
    (∀ a b : Rect, compare a b = .eq ↔
      a.x = b.x ∧ a.y = b.y ∧ a.width = b.width ∧ a.height = b.height) ∧
    Compares (fun a b : Rect => a.sortKey < b.sortKey) ∧
    Compares Locator.Before ∧
    (∀ l : List Rect, OrderedSet.Canonical (fun a b => a.sortKey < b.sortKey) l) ∧
    ∀ l : List Locator, OrderedSet.Canonical Locator.Before l := by
  have hrect : Compares fun a b : Rect => a.sortKey < b.sortKey :=
    .of_lt_iff Rect.compare_eq_lt_iff
  have hlocator : Compares Locator.Before := .of_lt_iff Locator.compare_eq_lt_iff
  refine ⟨fun a b => ?_, hrect, hlocator, OrderedSet.canonical_ofList hrect,
    OrderedSet.canonical_ofList hlocator⟩
  rw [hrect.eq_iff]
  constructor
  · rintro rfl
    exact ⟨rfl, rfl, rfl, rfl⟩
  · rintro ⟨hx, hy, hwidth, hheight⟩
    exact Rect.ext_values (congrArg _ hx) (congrArg _ hy) (congrArg _ hwidth) (congrArg _ hheight)

/-- Five rectangles, each of which differs from the first one in one number at most, stay five. -/
example :
    (OrderedSet.ofList
      [⟨5, 10, 1, 1⟩, ⟨5, 20, 1, 1⟩, ⟨5, 10, 1, 2⟩, ⟨50, 10, 1, 1⟩, ⟨5, 10, 2, 1⟩,
        (⟨5, 10, 1, 1⟩ : Rect)]).toList =
      [⟨5, 10, 1, 1⟩, ⟨5, 10, 1, 2⟩, ⟨5, 10, 2, 1⟩, ⟨50, 10, 1, 1⟩, ⟨5, 20, 1, 1⟩] := by
  decide

end VisualRegression
