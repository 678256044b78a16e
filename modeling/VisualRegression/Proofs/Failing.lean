import Mathlib.Data.List.Forall2

/-!
# Computations that may fail

What a computation with faults did that came to an end: each of its parts did.
-/

namespace VisualRegression

variable {ε ε' α β : Type}

@[simp] theorem ok_bind (a : α) (f : α → Except ε β) : (Except.ok a >>= f) = f a := rfl

/-- A computation that ended well did so in both of its parts. -/
theorem bind_eq_ok {x : Except ε α} {f : α → Except ε β} {b : β} :
    (x >>= f) = .ok b ↔ ∃ a, x = .ok a ∧ f a = .ok b := by
  rcases x with fault | a
  · exact ⟨fun h => (by cases h), fun ⟨_, h, _⟩ => (by cases h)⟩
  · exact ⟨fun h => ⟨a, rfl, h⟩, fun ⟨_, h, h'⟩ => (by cases h; exact h')⟩

/-- A computation that failed did so in its first part, or else in its second. -/
theorem bind_eq_error {x : Except ε α} {f : α → Except ε β} {fault : ε} :
    (x >>= f) = .error fault ↔
      x = .error fault ∨ ∃ a, x = .ok a ∧ f a = .error fault := by
  rcases x with cause | a
  · exact ⟨fun h => .inl (by cases h; rfl),
      fun h => (by rcases h with h | ⟨_, h, _⟩ <;> cases h; rfl)⟩
  · exact ⟨fun h => .inr ⟨a, rfl, h⟩,
      fun h => (by rcases h with h | ⟨_, h, h'⟩ <;> cases h; exact h')⟩

/-- A computation over a list ended well exactly if it did so for each member. -/
theorem mapM_eq_ok {f : α → Except ε β} {l : List α} {m : List β} :
    l.mapM f = .ok m ↔ List.Forall₂ (fun a b => f a = .ok b) l m := by
  induction l generalizing m with
  | nil =>
    rw [List.mapM_nil, List.forall₂_nil_left_iff]
    exact ⟨fun h => (by cases h; rfl), fun h => (by rw [h]; rfl)⟩
  | cons a l ih =>
    rw [List.mapM_cons, List.forall₂_cons_left_iff, bind_eq_ok]
    constructor
    · rintro ⟨b, hb, h⟩
      obtain ⟨m', hm', h⟩ := bind_eq_ok.1 h
      cases h
      exact ⟨b, m', hb, ih.1 hm', rfl⟩
    · rintro ⟨b, m', hb, hm', rfl⟩
      exact ⟨b, hb, bind_eq_ok.2 ⟨m', ih.2 hm', rfl⟩⟩

/-- A computation over a list that ended well did so for every member. -/
theorem exists_of_mapM_eq_ok {f : α → Except ε β} {l : List α} {m : List β} (h : l.mapM f = .ok m)
    {a : α} (ha : a ∈ l) : ∃ b, f a = .ok b := by
  have hall := mapM_eq_ok.1 h
  induction hall with
  | nil => cases ha
  | cons hb hrest ih =>
    rcases List.mem_cons.1 ha with rfl | ha
    · exact ⟨_, hb⟩
    · exact ih (mapM_eq_ok.2 hrest) ha

/-- What comes of a computation over a list comes of a member. -/
theorem exists_mem_of_mapM_eq_ok {f : α → Except ε β} {l : List α} {m : List β}
    (h : l.mapM f = .ok m) {b : β} (hb : b ∈ m) : ∃ a ∈ l, f a = .ok b := by
  have hall := mapM_eq_ok.1 h
  clear h
  induction hall with
  | nil => cases hb
  | cons hfirst _ ih =>
    rcases List.mem_cons.1 hb with rfl | hb
    · exact ⟨_, List.mem_cons_self, hfirst⟩
    · obtain ⟨a, ha, hfa⟩ := ih hb
      exact ⟨a, List.mem_cons_of_mem _ ha, hfa⟩

/-- A computation over a list whose members all end well ends well. -/
theorem exists_mapM_eq_ok {f : α → Except ε β} {l : List α} (h : ∀ a ∈ l, ∃ b, f a = .ok b) :
    ∃ m, l.mapM f = .ok m := by
  induction l with
  | nil => exact ⟨[], rfl⟩
  | cons a l ih =>
    obtain ⟨b, hb⟩ := h a List.mem_cons_self
    obtain ⟨m, hm⟩ := ih fun a' ha' => h a' (List.mem_cons_of_mem _ ha')
    exact ⟨b :: m, by rw [List.mapM_cons, hb, hm]; rfl⟩

/-- **A computation over a list fails as the first member does that fails.** -/
theorem mapM_eq_error_of_first {f : α → Except ε β} {before after : List α} {a : α} {fault : ε}
    (hbefore : ∀ x ∈ before, ∃ b, f x = .ok b) (ha : f a = .error fault) :
    (before ++ a :: after).mapM f = .error fault := by
  induction before with
  | nil => rw [List.nil_append, List.mapM_cons, ha]; rfl
  | cons x before ih =>
    obtain ⟨b, hb⟩ := hbefore x List.mem_cons_self
    rw [List.cons_append, List.mapM_cons, hb, ok_bind,
      ih fun x' hx' => hbefore x' (List.mem_cons_of_mem _ hx')]
    rfl

/-- **A computation over a list failed exactly as the first member did that fails.** -/
theorem mapM_eq_error {f : α → Except ε β} {l : List α} {fault : ε} :
    l.mapM f = .error fault ↔ ∃ before a after, l = before ++ a :: after ∧
      (∀ x ∈ before, ∃ b, f x = .ok b) ∧ f a = .error fault := by
  constructor
  · intro h
    induction l with
    | nil => cases h
    | cons a l ih =>
      rw [List.mapM_cons] at h
      rcases bind_eq_error.1 h with ha | ⟨b, hb, h⟩
      · exact ⟨[], a, l, rfl, fun x hx => absurd hx List.not_mem_nil, ha⟩
      · rcases bind_eq_error.1 h with hl | ⟨m, -, hdone⟩
        · obtain ⟨before, a', after, rfl, hbefore, ha'⟩ := ih hl
          exact ⟨a :: before, a', after, rfl, List.forall_mem_cons.2 ⟨⟨b, hb⟩, hbefore⟩, ha'⟩
        · cases hdone
  · rintro ⟨before, a, after, rfl, hbefore, ha⟩
    exact mapM_eq_error_of_first hbefore ha

/-- A computation over a list that failed did so for some member. -/
theorem exists_of_mapM_eq_error {f : α → Except ε β} {l : List α} {fault : ε}
    (h : l.mapM f = .error fault) : ∃ a ∈ l, f a = .error fault := by
  obtain ⟨before, a, after, rfl, -, ha⟩ := mapM_eq_error.1 h
  exact ⟨a, List.mem_append_right _ List.mem_cons_self, ha⟩

theorem mapError_eq_ok {g : ε → ε'} {x : Except ε α} {a : α} :
    x.mapError g = .ok a ↔ x = .ok a := by
  rcases x with fault | b
  · exact ⟨fun h => (by cases h), fun h => (by cases h)⟩
  · exact ⟨fun h => (by cases h; rfl), fun h => (by cases h; rfl)⟩

theorem mapError_eq_error {g : ε → ε'} {x : Except ε α} {fault : ε'} :
    x.mapError g = .error fault ↔ ∃ cause, x = .error cause ∧ g cause = fault := by
  rcases x with cause | b
  · exact ⟨fun h => (by cases h; exact ⟨cause, rfl, rfl⟩),
      fun ⟨_, h, hg⟩ => (by cases h; exact congrArg Except.error hg)⟩
  · exact ⟨fun h => (by cases h), fun ⟨_, h, _⟩ => (by cases h)⟩

theorem map_eq_ok {g : α → β} {x : Except ε α} {b : β} :
    x.map g = .ok b ↔ ∃ a, x = .ok a ∧ g a = b := by
  rcases x with fault | a
  · exact ⟨fun h => (by cases h), fun ⟨_, h, _⟩ => (by cases h)⟩
  · exact ⟨fun h => (by cases h; exact ⟨a, rfl, rfl⟩),
      fun ⟨_, h, hg⟩ => (by cases h; exact congrArg Except.ok hg)⟩

theorem map_eq_error {g : α → β} {x : Except ε α} {fault : ε} :
    x.map g = .error fault ↔ x = .error fault := by
  rcases x with cause | a
  · exact ⟨fun h => (by cases h; rfl), fun h => (by cases h; rfl)⟩
  · exact ⟨fun h => (by cases h), fun h => (by cases h)⟩

end VisualRegression
