import VisualRegression.Ordered.Set

/-!
# Ordered sets are told apart by their members

A set lists its members strictly increasing, and none of them twice, so that two sets with the same
members are the same set: `ext_mem`.
-/

namespace VisualRegression.OrderedSet

variable {α : Type} [Ord α] [Std.TransOrd α] [Std.LawfulEqOrd α]

/-- Increasing lists with the same members are the same. -/
theorem eq_of_mem_iff {l m : List α} (hl : l.Pairwise (fun a b => compare a b = .lt))
    (hm : m.Pairwise (fun a b => compare a b = .lt)) (h : ∀ a, a ∈ l ↔ a ∈ m) : l = m := by
  have hne : ∀ {a b : α}, compare a b = .lt → a ≠ b := by
    rintro a _ ha rfl
    have hself : compare a a = .eq := Std.ReflCmp.compare_self
    rw [hself] at ha
    cases ha
  have hperm : l.Perm m := (List.perm_ext_iff_of_nodup (hl.imp hne) (hm.imp hne)).2 h
  refine hperm.eq_of_pairwise (fun a b _ _ hab hba => ?_) hl hm
  exact absurd rfl (hne (Std.TransCmp.lt_trans hab hba))

/-- **Sets with the same members are the same.** -/
theorem ext_mem {s t : OrderedSet α} (h : ∀ a, a ∈ s ↔ a ∈ t) : s = t := by
  obtain ⟨l, hl⟩ := s
  obtain ⟨m, hm⟩ := t
  obtain rfl : l = m := eq_of_mem_iff hl hm h
  rfl

/-- The members of a set make up that set. -/
theorem ofList_toList (s : OrderedSet α) : ofList s.toList = s := ext_mem fun _ => mem_ofList

omit [Std.LawfulEqOrd α] in
/-- A set lists no member twice. -/
theorem nodup_toList (s : OrderedSet α) : s.toList.Nodup := by
  refine s.increasing.imp fun {a b} hab heq => ?_
  have hself : compare b b = .eq := Std.ReflCmp.compare_self
  rw [heq, hself] at hab
  cases hab

/-! ## The set without members -/

omit [Std.TransOrd α] [Std.LawfulEqOrd α] in
theorem isEmpty_iff {s : OrderedSet α} : s.isEmpty = true ↔ s = ∅ := by
  constructor
  · intro h
    obtain ⟨l, hl⟩ := s
    obtain rfl : l = [] := List.isEmpty_iff.1 h
    rfl
  · rintro rfl
    rfl

omit [Std.LawfulEqOrd α] in
theorem union_empty (s : OrderedSet α) : s.union ∅ = s := rfl

theorem empty_union (s : OrderedSet α) : (∅ : OrderedSet α).union s = s := by
  refine ext_mem fun a => ?_
  rw [mem_union]
  exact or_iff_right (not_mem_empty a)

end VisualRegression.OrderedSet
