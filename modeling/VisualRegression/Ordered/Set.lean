/-!
# Ordered sets

A finite set kept as a strictly increasing list, so that a set has one representation and lists
its members in the order of their type. Main statements: `mem_insert`, `mem_ofList` and `mem_union`
say what the members of a built set are.
-/

namespace VisualRegression

/-- A finite set of `α`, listed strictly increasing. -/
structure OrderedSet (α : Type) [Ord α] where
  /-- The members, in increasing order. -/
  toList : List α
  /-- Each member comes strictly before the later ones. -/
  increasing : toList.Pairwise (fun a b => compare a b = .lt)

namespace OrderedSet

variable {α : Type} [Ord α]

instance : EmptyCollection (OrderedSet α) := ⟨⟨[], .nil⟩⟩

instance : Inhabited (OrderedSet α) := ⟨∅⟩

instance [DecidableEq α] : DecidableEq (OrderedSet α) := fun s t =>
  decidable_of_iff (s.toList = t.toList) (by cases s; cases t; simp)

/-- Puts `a` in its place in an increasing list; a member equal to it stays as it was. -/
def insertInto (a : α) : List α → List α
  | [] => [a]
  | b :: rest =>
    match compare a b with
    | .lt => a :: b :: rest
    | .eq => b :: rest
    | .gt => b :: insertInto a rest

theorem mem_of_mem_insertInto {a c : α} {l : List α} (h : c ∈ insertInto a l) : c = a ∨ c ∈ l := by
  induction l with
  | nil => simpa [insertInto] using h
  | cons b rest ih =>
    simp only [insertInto] at h
    split at h
    · simpa using h
    · exact .inr h
    · rcases List.mem_cons.1 h with rfl | h
      · simp
      · rcases ih h with h | h <;> simp [h]

theorem increasing_insertInto [Std.TransOrd α] (a : α) {l : List α}
    (h : l.Pairwise (fun a b => compare a b = .lt)) :
    (insertInto a l).Pairwise (fun a b => compare a b = .lt) := by
  induction l with
  | nil => simp [insertInto]
  | cons b rest ih =>
    rw [List.pairwise_cons] at h
    simp only [insertInto]
    split
    · rename_i hab
      refine List.pairwise_cons.2 ⟨fun c hc => ?_, List.pairwise_cons.2 h⟩
      rcases List.mem_cons.1 hc with rfl | hc
      · exact hab
      · exact Std.TransCmp.lt_trans hab (h.1 c hc)
    · exact List.pairwise_cons.2 h
    · rename_i hab
      refine List.pairwise_cons.2 ⟨fun c hc => ?_, ih h.2⟩
      rcases mem_of_mem_insertInto hc with rfl | hc
      · exact Std.OrientedCmp.lt_of_gt hab
      · exact h.1 c hc

/-- The set with `a` added. -/
def insert [Std.TransOrd α] (s : OrderedSet α) (a : α) : OrderedSet α :=
  ⟨insertInto a s.toList, increasing_insertInto a s.increasing⟩

/-- The set of the members of a list, whatever their order and number. -/
def ofList [Std.TransOrd α] (l : List α) : OrderedSet α := l.foldl insert ∅

/-- The members of two sets together. -/
def union [Std.TransOrd α] (s t : OrderedSet α) : OrderedSet α := t.toList.foldl insert s

/-- The set has no member. -/
def isEmpty (s : OrderedSet α) : Bool := s.toList.isEmpty

instance : Membership α (OrderedSet α) := ⟨fun s a => a ∈ s.toList⟩

theorem mem_def {s : OrderedSet α} {a : α} : a ∈ s ↔ a ∈ s.toList := Iff.rfl

@[simp] theorem not_mem_empty (a : α) : ¬ a ∈ (∅ : OrderedSet α) := by
  simp [mem_def, EmptyCollection.emptyCollection]

theorem mem_insertInto [Std.LawfulEqOrd α] {a c : α} {l : List α} :
    c ∈ insertInto a l ↔ c = a ∨ c ∈ l := by
  refine ⟨mem_of_mem_insertInto, fun h => ?_⟩
  induction l with
  | nil => simpa [insertInto] using h
  | cons b rest ih =>
    simp only [insertInto]
    split
    · simpa using h
    · rename_i hab
      rcases h with rfl | h
      · simp [Std.LawfulEqCmp.eq_of_compare hab]
      · exact h
    · rcases h with rfl | h
      · exact List.mem_cons_of_mem _ (ih (.inl rfl))
      · rcases List.mem_cons.1 h with rfl | h
        · simp
        · exact List.mem_cons_of_mem _ (ih (.inr h))

@[simp] theorem mem_insert [Std.TransOrd α] [Std.LawfulEqOrd α] {s : OrderedSet α} {a c : α} :
    c ∈ s.insert a ↔ c = a ∨ c ∈ s :=
  mem_insertInto

theorem mem_foldl_insert [Std.TransOrd α] [Std.LawfulEqOrd α] {l : List α} {s : OrderedSet α}
    {c : α} : c ∈ l.foldl insert s ↔ c ∈ s ∨ c ∈ l := by
  induction l generalizing s with
  | nil => simp
  | cons a l ih =>
    rw [List.foldl_cons, ih, mem_insert, List.mem_cons]
    constructor
    · rintro ((h | h) | h) <;> simp [h]
    · rintro (h | h | h) <;> simp [h]

@[simp] theorem mem_ofList [Std.TransOrd α] [Std.LawfulEqOrd α] {l : List α} {c : α} :
    c ∈ ofList l ↔ c ∈ l := by
  simp [ofList, mem_foldl_insert]

@[simp] theorem mem_union [Std.TransOrd α] [Std.LawfulEqOrd α] {s t : OrderedSet α} {c : α} :
    c ∈ s.union t ↔ c ∈ s ∨ c ∈ t := by
  exact mem_foldl_insert

end OrderedSet

end VisualRegression
