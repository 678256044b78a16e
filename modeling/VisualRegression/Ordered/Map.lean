/-!
# Ordered maps

A finite map kept as a list of entries with strictly increasing keys. Main statements:
`get?_insert_self` and `get?_insert_of_ne` give the entry found after a write, and `get?_erase_self`
and `get?_erase_of_ne` the one found after a removal.
-/

namespace VisualRegression

/-- A finite map from `κ` to `β`, its entries listed by strictly increasing key. -/
structure OrderedMap (κ β : Type) [Ord κ] where
  /-- The entries, in the order of their keys. -/
  toList : List (κ × β)
  /-- Each key comes strictly before the later ones. -/
  increasing : toList.Pairwise (fun a b => compare a.1 b.1 = .lt)

namespace OrderedMap

variable {κ β : Type} [Ord κ]

instance : EmptyCollection (OrderedMap κ β) := ⟨⟨[], .nil⟩⟩

instance : Inhabited (OrderedMap κ β) := ⟨∅⟩

/-- Writes an entry in its place; an entry with the same key gives way to it. -/
def insertInto (k : κ) (v : β) : List (κ × β) → List (κ × β)
  | [] => [(k, v)]
  | e :: rest =>
    match compare k e.1 with
    | .lt => (k, v) :: e :: rest
    | .eq => (k, v) :: rest
    | .gt => e :: insertInto k v rest

/-- The first entry under a key. -/
def find (k : κ) : List (κ × β) → Option β
  | [] => none
  | e :: rest => if compare k e.1 = .eq then some e.2 else find k rest

theorem mem_of_mem_insertInto {k : κ} {v : β} {c : κ × β} {l : List (κ × β)}
    (h : c ∈ insertInto k v l) : c = (k, v) ∨ c ∈ l := by
  induction l with
  | nil => simpa [insertInto] using h
  | cons e rest ih =>
    simp only [insertInto] at h
    split at h
    · simpa using h
    · rcases List.mem_cons.1 h with h | h <;> simp [h]
    · rcases List.mem_cons.1 h with rfl | h
      · simp
      · rcases ih h with h | h <;> simp [h]

theorem increasing_insertInto [Std.TransOrd κ] (k : κ) (v : β) {l : List (κ × β)}
    (h : l.Pairwise (fun a b => compare a.1 b.1 = .lt)) :
    (insertInto k v l).Pairwise (fun a b => compare a.1 b.1 = .lt) := by
  induction l with
  | nil => simp [insertInto]
  | cons e rest ih =>
    rw [List.pairwise_cons] at h
    simp only [insertInto]
    split
    · rename_i hk
      refine List.pairwise_cons.2 ⟨fun c hc => ?_, List.pairwise_cons.2 h⟩
      rcases List.mem_cons.1 hc with rfl | hc
      · exact hk
      · exact Std.TransCmp.lt_trans hk (h.1 c hc)
    · rename_i hk
      exact List.pairwise_cons.2
        ⟨fun c hc => Std.TransCmp.lt_of_eq_of_lt hk (h.1 c hc), h.2⟩
    · rename_i hk
      refine List.pairwise_cons.2 ⟨fun c hc => ?_, ih h.2⟩
      rcases mem_of_mem_insertInto hc with rfl | hc
      · exact Std.OrientedCmp.lt_of_gt hk
      · exact h.1 c hc

/-- The entry under `k`, if there is one. -/
def get? (m : OrderedMap κ β) (k : κ) : Option β := find k m.toList

/-- The map with `v` under `k`. -/
def insert [Std.TransOrd κ] (m : OrderedMap κ β) (k : κ) (v : β) : OrderedMap κ β :=
  ⟨insertInto k v m.toList, increasing_insertInto k v m.increasing⟩

/-- The map without an entry under `k`. -/
def erase (m : OrderedMap κ β) (k : κ) : OrderedMap κ β :=
  ⟨m.toList.filter (fun e => compare k e.1 != .eq), m.increasing.filter _⟩

/-- The map of a list of entries; of two with one key the later stays. -/
def ofList [Std.TransOrd κ] (l : List (κ × β)) : OrderedMap κ β :=
  l.foldl (fun m e => m.insert e.1 e.2) ∅

/-- There is an entry under `k`. -/
def contains (m : OrderedMap κ β) (k : κ) : Bool := (m.get? k).isSome

/-- The keys, in order. -/
def keys (m : OrderedMap κ β) : List κ := m.toList.map (·.1)

/-- The number of entries. -/
def size (m : OrderedMap κ β) : Nat := m.toList.length

/-- There is no entry. -/
def isEmpty (m : OrderedMap κ β) : Bool := m.toList.isEmpty

@[simp] theorem get?_empty (k : κ) : (∅ : OrderedMap κ β).get? k = none := rfl

theorem find_insertInto_self [Std.TransOrd κ] (k : κ) (v : β) (l : List (κ × β)) :
    find k (insertInto k v l) = some v := by
  induction l with
  | nil => simp [insertInto, find, Std.ReflCmp.compare_self]
  | cons e rest ih =>
    simp only [insertInto]
    split <;> rename_i hk <;> simp [find, Std.ReflCmp.compare_self, hk, ih]

theorem find_insertInto_of_ne [Std.TransOrd κ] {k k' : κ} (v : β) (l : List (κ × β))
    (h : compare k' k ≠ .eq) : find k' (insertInto k v l) = find k' l := by
  induction l with
  | nil => simp [insertInto, find, h]
  | cons e rest ih =>
    simp only [insertInto]
    split
    · simp [find, h]
    · rename_i hk
      have : compare k' e.1 ≠ .eq := fun he =>
        h (Std.TransCmp.eq_trans he (Std.OrientedCmp.eq_symm hk))
      simp [find, h, this]
    · simp [find, ih]

/-- What was written is found. -/
@[simp] theorem get?_insert_self [Std.TransOrd κ] (m : OrderedMap κ β) (k : κ) (v : β) :
    (m.insert k v).get? k = some v :=
  find_insertInto_self k v m.toList

/-- A write leaves the other keys alone. -/
theorem get?_insert_of_ne [Std.TransOrd κ] [Std.LawfulEqOrd κ] (m : OrderedMap κ β) {k k' : κ}
    (v : β) (h : k' ≠ k) : (m.insert k v).get? k' = m.get? k' :=
  find_insertInto_of_ne v m.toList (fun he => h (Std.LawfulEqCmp.eq_of_compare he))

theorem find_filter_self (k : κ) (l : List (κ × β)) :
    find k (l.filter (fun e => compare k e.1 != .eq)) = none := by
  induction l with
  | nil => rfl
  | cons e rest ih =>
    by_cases h : compare k e.1 = .eq <;> simp [h, find, ih]

theorem find_filter_of_ne [Std.TransOrd κ] {k k' : κ} (l : List (κ × β))
    (h : compare k k' ≠ .eq) :
    find k' (l.filter (fun e => compare k e.1 != .eq)) = find k' l := by
  induction l with
  | nil => rfl
  | cons e rest ih =>
    by_cases hk : compare k e.1 = .eq
    · have : compare k' e.1 ≠ .eq := fun he =>
        h (Std.TransCmp.eq_trans hk (Std.OrientedCmp.eq_symm he))
      simp [hk, find, this, ih]
    · simp [hk, find, ih]

/-- What is found is an entry. -/
theorem mem_of_get? [Std.LawfulEqOrd κ] {m : OrderedMap κ β} {k : κ} {v : β}
    (h : m.get? k = some v) : (k, v) ∈ m.toList := by
  have aux (l : List (κ × β)) (h : find k l = some v) : (k, v) ∈ l := by
    induction l with
    | nil => cases h
    | cons e rest ih =>
      simp only [find] at h
      split at h
      · rename_i he
        cases h
        rw [Std.LawfulEqCmp.eq_of_compare he]
        exact List.mem_cons_self
      · exact List.mem_cons_of_mem _ (ih h)
  exact aux m.toList h

/-- A removed key is not found. -/
@[simp] theorem get?_erase_self (m : OrderedMap κ β) (k : κ) : (m.erase k).get? k = none :=
  find_filter_self k m.toList

/-- A removal leaves the other keys alone. -/
theorem get?_erase_of_ne [Std.TransOrd κ] [Std.LawfulEqOrd κ] (m : OrderedMap κ β) {k k' : κ}
    (h : k' ≠ k) : (m.erase k).get? k' = m.get? k' :=
  find_filter_of_ne m.toList (fun he => h (Std.LawfulEqCmp.eq_of_compare he).symm)

end OrderedMap

end VisualRegression
