import VisualRegression.Proofs.Check.Alike
import VisualRegression.Proofs.Mask.Covered

/-!
# Images on the way to a masked one

Masking handles one kind of region after the other and keeps a snapshot after each kind that lists
a region.  A snapshot is what masking would come to with the kinds up to its own and no other
(`handled_eq_apply_keep`, `snapshots_handled`), and the last one is what masking comes to
(`last_handled`).  `applyInto` is masking with a sink that is handed each snapshot as soon as it is
there; whatever the sink does, it is handed the same snapshots and the image is the same
(`applyInto_eq`).  Main statement: `snapshots_of_submaps`.
-/

namespace VisualRegression

/-- The entries for some kinds only. -/
def PerKind.keep {α : Type} (p : PerKind α) (kinds : List IgnoreKind) : PerKind α :=
  ⟨if .element ∈ kinds then p.element else none, if .area ∈ kinds then p.area else none⟩

theorem PerKind.get?_keep {α : Type} (p : PerKind α) (kinds : List IgnoreKind) (k : IgnoreKind) :
    (p.keep kinds).get? k = if k ∈ kinds then p.get? k else none := by
  cases k <;> rfl

/-- The kinds up to one, that one included, in the order in which they are handled. -/
def IgnoreKind.upTo (k : IgnoreKind) : List IgnoreKind := ordered.take (ordered.idxOf k + 1)

namespace IgnoreMap

variable {ignores : IgnoreMap} {k : IgnoreKind} {kinds : List IgnoreKind} {r : Rect}

/-- The regions to ignore of the kinds up to one, that one included. -/
def upTo (ignores : IgnoreMap) (k : IgnoreKind) : IgnoreMap := ignores.keep k.upTo

/-- There is an entry for the kind, and it is not empty. -/
def listsAny (ignores : IgnoreMap) (k : IgnoreKind) : Bool :=
  (ignores.get? k).any fun s => !s.isEmpty

theorem lists_keep : IgnoreMap.Lists (ignores.keep kinds) k r ↔ k ∈ kinds ∧ ignores.Lists k r := by
  unfold Lists
  rw [PerKind.get?_keep]
  split
  · rename_i hk
    rw [and_iff_right hk]
  · rename_i hk
    exact iff_of_false (fun ⟨_, h, _⟩ => nomatch h) fun h => hk h.1

end IgnoreMap

namespace Mask

variable {color : Pixel} {ignores : IgnoreMap} {topAdjustment : Int32} {img : Image}
  {sofar : Image × List Snapshot} {k : IgnoreKind} {kinds : List IgnoreKind}

/-! ## One kind after the other -/

/-- The image once some kinds of region were handled, and the snapshots on the way. -/
def handled (color : Pixel) (img : Image) (ignores : IgnoreMap) (topAdjustment : Int32)
    (kinds : List IgnoreKind) : Image × List Snapshot :=
  kinds.foldl (step color ignores topAdjustment) (img, [])

theorem handled_append_singleton :
    handled color img ignores topAdjustment (kinds ++ [k]) =
      step color ignores topAdjustment (handled color img ignores topAdjustment kinds) k :=
  List.foldl_append

/-- **What was handled so far is what masking comes to with these kinds and no other.** -/
theorem handled_eq_apply_keep :
    (handled color img ignores topAdjustment kinds).1 =
      (apply color img (PerKind.keep ignores kinds) topAdjustment).1 := by
  refine (fills_foldl_step color ignores topAdjustment kinds (img, [])).unique
    ((fills_apply color img _ topAdjustment).congr fun x y _ _ => ?_)
  constructor
  · rintro ⟨r, ⟨k, hr⟩, hc⟩
    obtain ⟨hk, hr⟩ := IgnoreMap.lists_keep.1 hr
    exact ⟨k, hk, r, hr, hc⟩
  · rintro ⟨k, hk, r, hr, hc⟩
    exact ⟨r, ⟨k, IgnoreMap.lists_keep.2 ⟨hk, hr⟩⟩, hc⟩

theorem regions?_eq_none_iff : regions? ignores k = none ↔ ignores.listsAny k = false := by
  unfold regions? IgnoreMap.listsAny
  rcases ignores.get? k with _ | s
  · simp
  · cases hs : s.isEmpty <;> simp [hs]

/-- A kind that lists nothing is passed over. -/
theorem step_of_not_listsAny (h : ignores.listsAny k = false) :
    step color ignores topAdjustment sofar k = sofar := by
  rw [step, regions?_eq_none_iff.2 h]

/-- A kind that lists a region leaves the image that it comes to as a snapshot, seen or not. -/
theorem snapshots_step (h : ignores.listsAny k = true) :
    (step color ignores topAdjustment sofar k).2 =
      sofar.2 ++ [⟨label k, (step color ignores topAdjustment sofar k).1⟩] := by
  unfold step
  split
  · rename_i hnone
    rw [regions?_eq_none_iff, h] at hnone
    cases hnone
  · rfl

/-- **Each snapshot is the image once its kind was handled.** -/
theorem snapshots_handled (hnodup : kinds.Nodup) :
    (handled color img ignores topAdjustment kinds).2 =
      (kinds.filter ignores.listsAny).map fun k =>
        ⟨label k,
          (handled color img ignores topAdjustment (kinds.take (kinds.idxOf k + 1))).1⟩ := by
  induction kinds using List.reverseRecOn with
  | nil => rfl
  | append_singleton kinds k ih =>
    obtain ⟨hkinds, -, hnew⟩ := List.nodup_append.1 hnodup
    have hk : k ∉ kinds := fun hmem => hnew k hmem k (List.mem_singleton.2 rfl) rfl
    -- the kinds up to an earlier one are the same without the last one
    have hearlier : ∀ k' ∈ kinds.filter ignores.listsAny,
        (kinds ++ [k]).take ((kinds ++ [k]).idxOf k' + 1) = kinds.take (kinds.idxOf k' + 1) := by
      intro k' hk'
      have hmem := (List.mem_filter.1 hk').1
      rw [List.idxOf_append_of_mem hmem,
        List.take_append_of_le_length (List.idxOf_lt_length_iff.2 hmem)]
    have hlast : (kinds ++ [k]).take ((kinds ++ [k]).idxOf k + 1) = kinds ++ [k] := by
      rw [List.idxOf_append_of_notMem hk, List.idxOf_cons_self, Nat.add_zero]
      exact List.take_of_length_le (by simp)
    rw [List.filter_append, List.map_append, handled_append_singleton]
    cases hany : ignores.listsAny k with
    | false =>
      rw [step_of_not_listsAny hany, ih hkinds, List.filter_cons_of_neg (by simp [hany])]
      simp only [List.filter_nil, List.map_nil, List.append_nil]
      exact List.map_congr_left fun k' hk' => by rw [hearlier k' hk']
    | true =>
      rw [snapshots_step hany, ih hkinds, List.filter_cons_of_pos hany]
      refine congrArg₂ (· ++ ·) (List.map_congr_left fun k' hk' => by rw [hearlier k' hk']) ?_
      simp only [List.filter_nil, List.map_cons, List.map_nil, hlast, handled_append_singleton]

/-- **The last snapshot is the image itself**, which is the one at the start if there is none. -/
theorem last_handled :
    (handled color img ignores topAdjustment kinds).1 =
      ((handled color img ignores topAdjustment kinds).2.getLast?.map Snapshot.image).getD img := by
  induction kinds using List.reverseRecOn with
  | nil => rfl
  | append_singleton kinds k ih =>
    rw [handled_append_singleton]
    cases hany : ignores.listsAny k with
    | false => rw [step_of_not_listsAny hany, ← ih]
    | true =>
      rw [snapshots_step hany, List.getLast?_concat]
      rfl

/-! ## Masking with a sink -/

section Sink

variable {m : Type → Type} [Monad m] (sink : Snapshot → m Unit)

/-- One kind of region filled; the sink is handed the image, unless the kind lists nothing. -/
def stepInto (color : Pixel) (ignores : IgnoreMap) (topAdjustment : Int32) (img : Image)
    (k : IgnoreKind) : m Image :=
  match regions? ignores k with
  | none => pure img
  | some regions => do
    let filled := fill color topAdjustment img regions
    sink ⟨label k, filled⟩
    return filled

/-- The image with all ignored regions filled; the sink is handed the snapshots on the way. -/
def applyInto (color : Pixel) (img : Image) (ignores : IgnoreMap) (topAdjustment : Int32) :
    m Image :=
  IgnoreKind.ordered.foldlM (stepInto sink color ignores topAdjustment) img

variable [LawfulMonad m]

/-- Snapshots that are there already may be handed over before the kinds that are left. -/
theorem foldlM_stepInto (color : Pixel) (ignores : IgnoreMap) (topAdjustment : Int32)
    (kinds : List IgnoreKind) (sofar : Image × List Snapshot) :
    (do sofar.2.forM sink; kinds.foldlM (stepInto sink color ignores topAdjustment) sofar.1) =
      (do (kinds.foldl (step color ignores topAdjustment) sofar).2.forM sink
          return (kinds.foldl (step color ignores topAdjustment) sofar).1) := by
  induction kinds generalizing sofar with
  | nil => rfl
  | cons k rest ih =>
    rw [List.foldl_cons, ← ih, List.foldlM_cons, stepInto, step]
    rcases regions? ignores k with _ | regions
    · simp only [pure_bind]
    · simp [List.forM_append]

/-- **A sink is handed the snapshots and changes nothing.** -/
theorem applyInto_eq :
    applyInto sink color img ignores topAdjustment =
      (do (apply color img ignores topAdjustment).2.forM sink
          return (apply color img ignores topAdjustment).1) := by
  have hall := foldlM_stepInto sink color ignores topAdjustment IgnoreKind.ordered (img, [])
  simp only [List.forM_eq_forM, List.forM_nil, pure_bind] at hall
  exact hall

end Sink

end Mask

/-! ## The sink of an engine -/

namespace Engine

theorem presentAll_eq_forM (snapshots : List Snapshot) :
    presentAll snapshots = snapshots.forM CheckProgram.present := by
  induction snapshots with
  | nil => rfl
  | cons snapshot rest ih => exact bind_congr fun _ => ih

/-- **An engine masks an image with its observer as the sink.** -/
theorem maskImage_eq_applyInto (e : Engine) (context : SearchContext) (locators : LocatorMap)
    (topAdjustment : Int32) (img : Image) :
    e.maskImage context locators topAdjustment img = (do
      let ignores ← resolveIgnores context locators
      Mask.applyInto CheckProgram.present e.policy.maskColor img ignores topAdjustment) := by
  refine bind_congr fun ignores => ?_
  rw [Mask.applyInto_eq, ← presentAll_eq_forM]

end Engine

/-! ## The law of snapshots -/

namespace Mask

/-- **What is seen of masking on the way.**  There is one snapshot for each kind with an entry that
is not empty, whether or not a region of it shows in the image, those of elements first.  It has the
name of its kind and the image that masking comes to with the regions of the kinds up to its own.
The last snapshot is the masked image; if there is none, the image is as it was.  Any sink is handed
these snapshots one after the other, and has no influence on the image. -/
theorem snapshots_of_submaps (color : Pixel) (img : Image) (ignores : IgnoreMap)
    (topAdjustment : Int32) :
    (apply color img ignores topAdjustment).2 =
      ([IgnoreKind.element, IgnoreKind.area].filter ignores.listsAny).map (fun k =>
        ⟨"cropped_by_" ++ k.name, (apply color img (ignores.upTo k) topAdjustment).1⟩) ∧
    (apply color img ignores topAdjustment).1 =
      ((apply color img ignores topAdjustment).2.getLast?.map Snapshot.image).getD img ∧
    ∀ (m : Type → Type) [Monad m] [LawfulMonad m] (sink : Snapshot → m Unit),
      applyInto sink color img ignores topAdjustment =
        (do (apply color img ignores topAdjustment).2.forM sink
            return (apply color img ignores topAdjustment).1) := by
  refine ⟨?_, last_handled, fun m _ _ sink => applyInto_eq sink⟩
  have hsnapshots : (handled color img ignores topAdjustment IgnoreKind.ordered).2 = _ :=
    snapshots_handled (by decide)
  refine hsnapshots.trans (List.map_congr_left fun k _ => ?_)
  rw [handled_eq_apply_keep]
  rfl

namespace Unseen

/-- A region far from the image. -/
def region : Rect := ⟨100, 100, 10, 10⟩

/-- An element is ignored that does not show in the image, and a place that does. -/
def ignores : IgnoreMap := ⟨some (.ofList [region]), some (.ofList [LeftColumn.region])⟩

/-- A sink that takes down the names of the snapshots. -/
def record (s : Snapshot) : StateM (List String) Unit := modify (· ++ [s.label])

end Unseen

open Unseen in
/-- An element that does not show leaves a snapshot all the same, which looks like the image; an
empty set leaves none. -/
theorem snapshots_of_submaps_unseen :
    ((applyInto record ⟨0, 0, 0, 255⟩ LeftColumn.image ignores 1).run []).2 =
        ["cropped_by_ELEMENT", "cropped_by_AREA"] ∧
      ((apply ⟨0, 0, 0, 255⟩ LeftColumn.image ignores 1).2.map
        fun s => s.image.get? 0 1) =
        [some ⟨255, 255, 255, 255⟩, some ⟨0, 0, 0, 255⟩] ∧
      ((apply ⟨0, 0, 0, 255⟩ LeftColumn.image ⟨some ∅, ignores.area⟩ 1).2.map Snapshot.label) =
        ["cropped_by_AREA"] := by
  obtain ⟨hsnapshots, -, hsink⟩ := snapshots_of_submaps ⟨0, 0, 0, 255⟩ LeftColumn.image ignores 1
  obtain ⟨hskipped, -⟩ :=
    snapshots_of_submaps ⟨0, 0, 0, 255⟩ LeftColumn.image ⟨some ∅, ignores.area⟩ 1
  refine ⟨?_, ?_, ?_⟩
  · rw [hsink (StateM (List String)) record, hsnapshots]
    rfl
  · rw [hsnapshots]
    rfl
  · rw [hskipped]
    rfl

end Mask

end VisualRegression
