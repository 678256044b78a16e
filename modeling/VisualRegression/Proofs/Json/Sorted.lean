import VisualRegression.Proofs.Json.Text
import VisualRegression.Proofs.Ordered.Map

/-!
# Values with sorted members

A value with its members in the order of their names has the members that it had before:
`lookup_sorted`.  It is plain if it was (`Plain.sorted`), and is so read back from its text, member
by member (`fields?_asRead`).
-/

namespace VisualRegression.Json

variable {name : String} {members : List (String × Json)} {items : List Json} {j : Json}
  {f : Float → Float}

/-! ## Members by name -/

/-- A member counts where no later one has its name. -/
theorem lookup_cons (m : String × Json) (members : List (String × Json)) :
    lookup name (m :: members) =
      (lookup name members).or (if m.1 == name then some m.2 else none) := by
  unfold lookup
  rw [List.reverse_cons, List.find?_append, Option.map_or]
  congr 1
  cases h : m.1 == name <;> simp [h]

/-- Where each name comes once, in order, the member with a name is the first one. -/
theorem lookup_of_increasing (h : members.Pairwise fun a b => compare a.1 b.1 = .lt) :
    lookup name members = OrderedMap.find name members := by
  induction members with
  | nil => rfl
  | cons m rest ih =>
    obtain ⟨hfirst, hrest⟩ := List.pairwise_cons.1 h
    rw [lookup_cons, ih hrest, OrderedMap.find]
    by_cases hname : m.1 = name
    · subst hname
      rw [OrderedMap.find_eq_none_of_lt hfirst]
      simp
    · have hne : ¬ compare name m.1 = .eq :=
        fun heq => hname (Std.LawfulEqCmp.eq_of_compare heq).symm
      rw [if_neg hne]
      simp [hname]

/-- The last member that is written under a name is found there, and else what was there before. -/
theorem get?_foldl_insert (name : String) (members : List (String × Json))
    (m : OrderedMap String Json) :
    (members.foldl (fun m e => m.insert e.1 e.2) m).get? name =
      (lookup name members).or (m.get? name) := by
  induction members generalizing m with
  | nil => rfl
  | cons e rest ih =>
    rw [List.foldl_cons, ih, lookup_cons, Option.or_assoc]
    congr 1
    by_cases hname : e.1 = name
    · subst hname
      simp
    · rw [OrderedMap.get?_insert_of_ne _ _ (Ne.symm hname)]
      simp [hname]

/-- **The members in order are those that there were.** -/
theorem lookup_ofList (members : List (String × Json)) :
    lookup name (OrderedMap.ofList members).toList = lookup name members := by
  rw [lookup_of_increasing (OrderedMap.ofList members).increasing]
  have hget := get?_foldl_insert name members ∅
  rwa [OrderedMap.get?_empty, Option.or_none] at hget

theorem lookup_sortedMembers (members : List (String × Json)) :
    lookup name (sortedMembers members) = (lookup name members).map sorted := by
  induction members with
  | nil => rfl
  | cons m rest ih =>
    obtain ⟨name', j⟩ := m
    rw [sortedMembers, lookup_cons, lookup_cons, ih, Option.map_or]
    congr 1
    cases name' == name <;> rfl

theorem lookup_mapMembers (members : List (String × Json)) :
    lookup name (mapMembers f members) = (lookup name members).map (mapDoubles f) := by
  induction members with
  | nil => rfl
  | cons m rest ih =>
    obtain ⟨name', j⟩ := m
    rw [mapMembers, lookup_cons, lookup_cons, ih, Option.map_or]
    congr 1
    cases name' == name <;> rfl

/-! ## Reading a sorted value -/

mutual

/-- A sorted value can stand in a text. -/
theorem Plain.sorted : (j : Json) → j.Plain → j.sorted.Plain
  | null, h | bool _, h | int _, h | float _, h | string _, h => h
  | array items, h => plain_array.2 (plain_sortedItems items (plain_array.1 h))
  | object members, h => by
    refine plain_object.2 fun m hm => ?_
    exact plain_sortedMembers members (plain_object.1 h) m (OrderedMap.mem_of_mem_ofList hm)

theorem plain_sortedItems : (items : List Json) → (∀ j ∈ items, j.Plain) →
    ∀ j ∈ sortedItems items, j.Plain
  | [], _ => nofun
  | j :: rest, h => by
    obtain ⟨hj, hrest⟩ := List.forall_mem_cons.1 h
    exact List.forall_mem_cons.2 ⟨Plain.sorted j hj, plain_sortedItems rest hrest⟩

theorem plain_sortedMembers : (members : List (String × Json)) → (∀ m ∈ members, m.2.Plain) →
    ∀ m ∈ sortedMembers members, m.2.Plain
  | [], _ => nofun
  | (name, j) :: rest, h => by
    obtain ⟨hj, hrest⟩ := List.forall_mem_cons.1 h
    exact List.forall_mem_cons.2 ⟨Plain.sorted j hj, plain_sortedMembers rest hrest⟩

end

/-- The value that is read of the text of a sorted value. -/
def asRead (j : Json) : Json := j.sorted.mapDoubles reread

/-- **A sorted value is read back from its text.** -/
theorem read?_pretty_sorted (h : j.Plain) : read? j.sorted.pretty = some j.asRead :=
  read?_pretty (Plain.sorted j h)

/-- **A member is read as it was written**, wherever it stands. -/
theorem get?_asRead : (object members).asRead.get? name = (lookup name members).map asRead := by
  rw [asRead, sorted, mapDoubles, get?, lookup_mapMembers, lookup_ofList, lookup_sortedMembers,
    Option.map_map]
  rfl

/-- **The fields of an object are read as they were written**, in whatever order. -/
theorem fields?_asRead (names : List String) (partialArray : Bool) :
    (object members).asRead.fields? names partialArray =
      some (names.map fun name => (lookup name members).map asRead) := by
  have hlookup (name : String) : lookup name (mapMembers reread
      (OrderedMap.ofList (sortedMembers members)).toList) = (lookup name members).map asRead :=
    get?_asRead
  rw [asRead, sorted, mapDoubles, fields?]
  simp only [hlookup]

end VisualRegression.Json
