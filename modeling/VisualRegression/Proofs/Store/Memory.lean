import VisualRegression.Proofs.Check.StoreUse
import VisualRegression.Proofs.Ordered.Map
import VisualRegression.Store.Basic

/-!
# Checks over a store in memory

The parties of a check that keep no baselines, put next to a store in memory.  They act on a state
of their own and may look at the baselines.  A program leaves the baselines alone that it may not
keep (`get?_run_withMemory`), so that taking an image leaves all of them alone and a check changes
none but its own.  Loading and keeping never fail, so that `perform_establish_withMemory` can say
what establishing comes to in every case.
-/

namespace VisualRegression

variable {α σ : Type}

/-- The parties that a check relies on besides its store.  One that breaks off gives no answer; each
may answer as it likes, from its own state and the baselines that there are. -/
structure PageParties (σ : Type) where
  /-- Delivers the tiles of a page. -/
  capture : SearchContext → CapturePlan → σ × Baselines →
    Option (Except CheckFault (List Image)) × σ
  /-- Finds the places of elements. -/
  resolve : SearchContext → Locator → σ × Baselines →
    Option (Except CheckFault (OrderedSet Rect)) × σ
  /-- Takes note of an image on the way. -/
  present : Snapshot → σ × Baselines → σ
  /-- Who takes note of an image breaks off at it. -/
  breaksOff : Snapshot → σ × Baselines → Bool := fun _ _ => false

namespace PageParties

/-- The parties next to a store in memory. -/
def withMemory (page : PageParties σ) : Collaborators (σ × Baselines) where
  capture context plan w :=
    ((page.capture context plan w).1, (page.capture context plan w).2, w.2)
  resolve context locator w :=
    ((page.resolve context locator w).1, (page.resolve context locator w).2, w.2)
  present snapshot w := (page.present snapshot w, w.2)
  breaksOff snapshot w := page.breaksOff snapshot w
  load key w := (BaselineStore.memory.load key w.2, w)
  save key img w :=
    ((BaselineStore.memory.save key img w.2).1, w.1, (BaselineStore.memory.save key img w.2).2)

variable (page : PageParties σ)

@[simp] theorem withMemory_load (key : BaselineKey) (w : σ × Baselines) :
    page.withMemory.load key w = (.ok (w.2.get? key), w) := rfl

@[simp] theorem withMemory_save (key : BaselineKey) (img : Image) (w : σ × Baselines) :
    page.withMemory.save key img w = (.ok (), w.1, w.2.insert key img) := rfl

end PageParties

variable {page : PageParties σ} {loads keeps : BaselineKey → Prop}

/-- **A program leaves a baseline alone that it may not keep.** -/
theorem Program.get?_run_withMemory {p : Program α} (hp : p.StoreWithin loads keeps)
    {k : BaselineKey} (hk : ¬ keeps k) (s : Shared (σ × Baselines)) :
    (p.run page.withMemory s).2.world.2.get? k = s.world.2.get? k := by
  have hpreserve : page.withMemory.Preserve keeps
      fun s' => s'.world.2.get? k = s.world.2.get? k := by
    refine ⟨fun _ _ h => h, fun _ _ _ h => h, fun _ _ _ h => h, fun _ _ h => h, fun _ _ h => h, ?_⟩
    intro key img s' hkeeps h
    have hne : k ≠ key := fun he => hk (he ▸ hkeeps)
    exact (OrderedMap.get?_insert_of_ne _ _ hne).trans h
  exact p.run_preserves hpreserve hp rfl

/-- A course that keeps nothing leaves all baselines alone. -/
theorem CheckProgram.baselines_perform_withMemory {x : CheckProgram α}
    (hx : StoreWithin loads (fun _ => False) x) (s : Shared (σ × Baselines)) :
    (perform page.withMemory x s).2.world.2 = s.world.2 :=
  OrderedMap.ext_get? fun _ => Program.get?_run_withMemory hx (fun h => h) s

namespace Engine

open CheckProgram

variable {e : Engine} {now : Instant} {c : Check} {s : Shared (σ × Baselines)}

/-- Taking an image leaves the baselines alone. -/
theorem baselines_takeImage (page : PageParties σ) (e : Engine) (c : Check)
    (s : Shared (σ × Baselines)) :
    (perform page.withMemory (e.takeImage c) s).2.world.2 = s.world.2 := by
  have hx : StoreWithin (fun _ => False) (fun _ => False) (e.takeImage c) :=
    takeImage_storeWithin e c
  exact baselines_perform_withMemory hx s

/-- A comparison leaves the baselines alone. -/
theorem baselines_compareWithBaseline :
    (perform page.withMemory (e.compareWithBaseline now c) s).2.world.2 = s.world.2 := by
  have hx : StoreWithin (fun _ => True) (fun _ => False) (e.compareWithBaseline now c) :=
    compareWithBaseline_storeWithin e now c trivial
  exact baselines_perform_withMemory hx s

/-- **Establishing a baseline, whole**: a check that is not valid does nothing, and one whose image
cannot be taken keeps nothing. -/
theorem perform_establish_withMemory :
    perform page.withMemory (e.establish now c) s =
      match c.validate with
      | .error fault => (some (.error fault), s)
      | .ok () =>
        match perform page.withMemory (e.takeImage c) s with
        | (none, s₁) => (none, s₁)
        | (some (.error fault), s₁) => (some (.error fault), s₁)
        | (some (.ok checkpoint), s₁) =>
          (some (.ok (.established c now checkpoint (s.world.2.get? c.baseline))),
            { s₁ with world := (s₁.world.1, s.world.2.insert c.baseline checkpoint) }) := by
  have hb := baselines_takeImage page e c s
  rw [perform_establish]
  rcases c.validate with fault | ⟨⟩
  · rfl
  · dsimp only
    rcases hi : perform page.withMemory (e.takeImage c) s with ⟨_ | fault | checkpoint, s₁⟩
    · rfl
    · rfl
    · rw [hi] at hb
      simp only [PageParties.withMemory_load, PageParties.withMemory_save, Except.map,
        Except.toOption, Option.getD_some, ← hb]

end Engine

end VisualRegression
