import VisualRegression.Ordered.Map

/-!
# Ordered maps are told apart by their entries

A map lists its entries by strictly increasing keys, so that two maps that answer alike for each key
are the same map: `ext_get?`.  The keys are those under which there is an entry (`mem_keys_iff`).
-/

namespace VisualRegression.OrderedMap

variable {κ β : Type} [Ord κ]

/-- A key before all others is not found. -/
theorem find_eq_none_of_lt {k : κ} {l : List (κ × β)} (h : ∀ e ∈ l, compare k e.1 = .lt) :
    find k l = none := by
  induction l with
  | nil => rfl
  | cons e rest ih =>
    have he : compare k e.1 ≠ .eq := by
      rw [h e List.mem_cons_self]
      exact fun hx => nomatch hx
    rw [find, if_neg he]
    exact ih fun e' he' => h e' (List.mem_cons_of_mem _ he')

variable [Std.TransOrd κ]

/-- An entry of a list is found, or one before it under the same key. -/
theorem find_ne_none_of_mem {e : κ × β} {l : List (κ × β)} (h : e ∈ l) : find e.1 l ≠ none := by
  induction l with
  | nil => cases h
  | cons e' rest ih =>
    rw [find]
    split
    · exact Option.some_ne_none _
    · rename_i hne
      rcases List.mem_cons.1 h with rfl | h
      · exact absurd Std.ReflCmp.compare_self hne
      · exact ih h

theorem find_cons_self (e : κ × β) (rest : List (κ × β)) : find e.1 (e :: rest) = some e.2 := by
  rw [find, if_pos Std.ReflCmp.compare_self]

/-- A key before the first one of an increasing list is not found in it. -/
theorem find_cons_of_lt {k : κ} {e : κ × β} {rest : List (κ × β)}
    (hl : (e :: rest).Pairwise (fun a b => compare a.1 b.1 = .lt)) (hk : compare k e.1 = .lt) :
    find k (e :: rest) = none := by
  refine find_eq_none_of_lt fun e' he' => ?_
  rcases List.mem_cons.1 he' with rfl | he'
  · exact hk
  · exact Std.TransCmp.lt_trans hk ((List.pairwise_cons.1 hl).1 e' he')

/-- What is in the map of a list of entries is one of them. -/
theorem mem_of_mem_ofList {e : κ × β} {l : List (κ × β)} (h : e ∈ (ofList l).toList) : e ∈ l := by
  have aux (l : List (κ × β)) (m : OrderedMap κ β)
      (h : e ∈ (l.foldl (fun m e => m.insert e.1 e.2) m).toList) : e ∈ l ∨ e ∈ m.toList := by
    induction l generalizing m with
    | nil => exact .inr h
    | cons e' rest ih =>
      obtain h | h := ih (m.insert e'.1 e'.2) h
      · exact .inl (List.mem_cons_of_mem _ h)
      · obtain rfl | h := mem_of_mem_insertInto h
        · exact .inl List.mem_cons_self
        · exact .inr h
  obtain h | h := aux l ∅ h
  · exact h
  · cases h

variable [Std.LawfulEqOrd κ]

/-- Increasing lists that answer alike for each key are the same. -/
theorem eq_of_find_eq {l m : List (κ × β)}
    (hl : l.Pairwise (fun a b => compare a.1 b.1 = .lt))
    (hm : m.Pairwise (fun a b => compare a.1 b.1 = .lt)) (h : ∀ k, find k l = find k m) :
    l = m := by
  induction l generalizing m with
  | nil =>
    cases m with
    | nil => rfl
    | cons e rest =>
      have he := h e.1
      rw [find_cons_self] at he
      cases he
  | cons a l ih =>
    cases m with
    | nil =>
      have ha := h a.1
      rw [find_cons_self] at ha
      cases ha
    | cons b m =>
      -- the first keys agree, or the smaller one would be found on one side only
      have hab : compare a.1 b.1 = .eq := by
        cases hc : compare a.1 b.1 with
        | eq => rfl
        | lt =>
          have ha := h a.1
          rw [find_cons_self, find_cons_of_lt hm hc] at ha
          cases ha
        | gt =>
          have hb := h b.1
          rw [find_cons_self, find_cons_of_lt hl (Std.OrientedCmp.lt_of_gt hc)] at hb
          cases hb
      have hkey : a.1 = b.1 := Std.LawfulEqCmp.eq_of_compare hab
      have hval : a.2 = b.2 := by
        have ha := h a.1
        rw [find_cons_self, hkey, find_cons_self] at ha
        exact Option.some.inj ha
      have hrest : ∀ k, find k l = find k m := by
        intro k
        by_cases hk : compare k a.1 = .eq
        · have hka : k = a.1 := Std.LawfulEqCmp.eq_of_compare hk
          rw [find_eq_none_of_lt (hka ▸ (List.pairwise_cons.1 hl).1),
            find_eq_none_of_lt (hka ▸ hkey ▸ (List.pairwise_cons.1 hm).1)]
        · have hx := h k
          rw [find, find, if_neg hk, if_neg (hkey ▸ hk)] at hx
          exact hx
      rw [Prod.ext hkey hval,
        ih (List.pairwise_cons.1 hl).2 (List.pairwise_cons.1 hm).2 hrest]

/-- **Maps that answer alike for each key are the same.** -/
theorem ext_get? {m n : OrderedMap κ β} (h : ∀ k, m.get? k = n.get? k) : m = n := by
  obtain ⟨l, hl⟩ := m
  obtain ⟨l', hl'⟩ := n
  obtain rfl : l = l' := eq_of_find_eq hl hl' h
  rfl

/-! ## Keys -/

/-- A key is listed exactly if there is an entry under it. -/
theorem mem_keys_iff {m : OrderedMap κ β} {k : κ} : k ∈ m.keys ↔ ∃ v, m.get? k = some v := by
  constructor
  · intro h
    obtain ⟨e, he, rfl⟩ := List.mem_map.1 h
    exact Option.ne_none_iff_exists'.1 (find_ne_none_of_mem he)
  · rintro ⟨v, hv⟩
    exact List.mem_map.2 ⟨(k, v), mem_of_get? hv, rfl⟩

omit [Std.TransOrd κ] [Std.LawfulEqOrd κ] in
/-- The keys are listed strictly increasing. -/
theorem increasing_keys (m : OrderedMap κ β) : m.keys.Pairwise (fun a b => compare a b = .lt) :=
  List.pairwise_map.2 m.increasing

omit [Std.LawfulEqOrd κ] in
theorem nodup_keys (m : OrderedMap κ β) : m.keys.Nodup := by
  refine m.increasing_keys.imp fun {a b} hab heq => ?_
  have hself : compare b b = .eq := Std.ReflCmp.compare_self
  rw [heq, hself] at hab
  cases hab

end VisualRegression.OrderedMap
