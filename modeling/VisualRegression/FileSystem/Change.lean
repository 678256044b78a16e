import VisualRegression.FileSystem.Basic

/-!
# Changes of files

What has to be done to get from one state of the files to another: some entries are removed and some
are put in their places. Main statement: `node?_eq_of_unchanged` says that all other places are as
before.
-/

namespace VisualRegression.FileSystem

variable [WorkingDirectory]

/-- The places that are no longer taken. -/
def removed (before after : FileSystem) : List Place :=
  before.entries.keys.filter fun place => (after.node? place).isNone

/-- What is new or different, directories ahead of what is in them. -/
def added (before after : FileSystem) : List (Place × Node) :=
  after.entries.toList.filter fun (place, node) => before.node? place != some node

/-- A place that is neither removed nor added is as before. -/
theorem node?_eq_of_unchanged {before after : FileSystem} {place : Place}
    (hr : place ∉ removed before after) (ha : ∀ node, (place, node) ∉ added before after) :
    after.node? place = before.node? place := by
  simp only [removed, List.mem_filter, Option.isNone_iff_eq_none, not_and] at hr
  simp only [added, List.mem_filter, bne_iff_ne, not_and, Decidable.not_not] at ha
  by_cases hg : isGiven place
  · simp [node?, hg]
  · cases h : after.entries.get? place with
    | some node =>
      rw [ha node (OrderedMap.mem_of_get? h)]
      simp [node?, hg, h]
    | none =>
      cases hb : before.entries.get? place with
      | none => simp [node?, hg, h, hb]
      | some node =>
        have hk : place ∈ before.entries.keys :=
          List.mem_map_of_mem (f := Prod.fst) (OrderedMap.mem_of_get? hb)
        exact absurd (by simp [node?, hg, h]) (hr hk)

end VisualRegression.FileSystem
