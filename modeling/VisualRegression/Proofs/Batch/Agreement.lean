import VisualRegression.Proofs.Capture.Composer
import VisualRegression.Proofs.Check.Labels
import VisualRegression.Proofs.Store.Memory

/-!
# What a check can tell of the state

Over a page that answers by what it is asked alone, all that a check learns of a shared state is
which plans there are for parameters and what is kept under its own name.  Two states that agree on
that (`Shared.AgreeOn`) look the same to it at each step (`step_of_agreeOn`), and so for a whole run
(`run_agreeOn`).  One step of a check for another baseline leads to such a state (`agreeOn_step`).
-/

namespace VisualRegression

variable {α σ : Type}

/-- The page answers by what it is asked alone: not by its own state, nor by the baselines. -/
structure PageParties.Stateless (page : PageParties σ) : Prop where
  capture : ∀ context plan w w', (page.capture context plan w).1 = (page.capture context plan w').1
  resolve : ∀ context locator w w',
    (page.resolve context locator w).1 = (page.resolve context locator w').1
  breaksOff : ∀ snapshot w w', page.breaksOff snapshot w = page.breaksOff snapshot w'

/-- **Two states look the same to a check for a baseline**: they have the same plans, and the same
image under its name. -/
structure Shared.AgreeOn (k : BaselineKey) (s s' : Shared (σ × Baselines)) : Prop where
  plans : ∀ q, s.composer.planFor q = s'.composer.planFor q
  baseline : s.world.2.get? k = s'.world.2.get? k

namespace Program

variable {page : PageParties σ} {loads keeps : BaselineKey → Prop} {k : BaselineKey}

/-- What is left of a program asks for no more baselines than all of it. -/
theorem StoreWithin.step {p p' : Program α} (hp : p.StoreWithin loads keeps)
    {parties : Collaborators σ} {s : Shared σ} (h : (p.step parties s).1 = some p') :
    p'.StoreWithin loads keeps := by
  cases p with
  | done a =>
    cases h
    trivial
  | plan q next =>
    cases h
    exact hp _
  | capture context q next =>
    obtain ⟨answer, -, rfl⟩ := Option.map_eq_some_iff.1 h
    exact hp answer
  | resolve context locator next =>
    obtain ⟨answer, -, rfl⟩ := Option.map_eq_some_iff.1 h
    exact hp answer
  | present snapshot next =>
    obtain ⟨⟨⟩, -, rfl⟩ := Option.map_eq_some_iff.1 h
    exact hp
  | load key next =>
    cases h
    exact hp.2 _
  | save key img next =>
    cases h
    exact hp.2 _

/-- **A step changes nothing that a check for another baseline can tell.** -/
theorem agreeOn_step {p : Program α} (hp : p.StoreWithin loads keeps) (hk : ¬ keeps k)
    (s : Shared (σ × Baselines)) : s.AgreeOn k (p.step page.withMemory s).2 := by
  cases p with
  | plan q next => exact ⟨fun q' => (Composer.planFor_build _ q q').symm, rfl⟩
  | save key img next =>
    have hne : k ≠ key := fun he => hk (he ▸ hp.1)
    exact ⟨fun _ => rfl, (OrderedMap.get?_insert_of_ne _ img hne).symm⟩
  | done a => exact ⟨fun _ => rfl, rfl⟩
  | capture context q next => exact ⟨fun _ => rfl, rfl⟩
  | resolve context locator next => exact ⟨fun _ => rfl, rfl⟩
  | present snapshot next => exact ⟨fun _ => rfl, rfl⟩
  | load key next => exact ⟨fun _ => rfl, rfl⟩

/-- **A step comes to the same in states that look the same to a check**, and leads to states that
do: what is left of the program does not depend on which of the two it began in. -/
theorem step_of_agreeOn (hpage : page.Stateless) {p : Program α}
    (hp : p.StoreWithin (· = k) (· = k)) {s s' : Shared (σ × Baselines)} (h : s.AgreeOn k s') :
    (p.step page.withMemory s).1 = (p.step page.withMemory s').1 ∧
      (p.step page.withMemory s).2.AgreeOn k (p.step page.withMemory s').2 := by
  cases p with
  | done a => exact ⟨rfl, h⟩
  | plan q next =>
    refine ⟨congrArg (fun answer => some (next answer)) (h.plans q), fun q' => ?_, h.baseline⟩
    -- the caches may differ, but not in the plans that can be had from them
    change (s.composer.build q).2.planFor q' = (s'.composer.build q).2.planFor q'
    rw [Composer.planFor_build, Composer.planFor_build, h.plans]
  | capture context q next =>
    exact ⟨congrArg (Option.map next) (hpage.capture context q _ _), h.plans, h.baseline⟩
  | resolve context locator next =>
    exact ⟨congrArg (Option.map next) (hpage.resolve context locator _ _), h.plans, h.baseline⟩
  | present snapshot next =>
    refine ⟨congrArg (Option.map fun _ => next) ?_, h.plans, h.baseline⟩
    exact congrArg (fun breaks : Bool => if breaks then none else some ())
      (hpage.breaksOff snapshot s.world s'.world)
  | load key next =>
    -- the check may ask for its own baseline only, which is the same in both states
    obtain ⟨rfl, -⟩ := hp
    exact ⟨congrArg (fun answer => some (next (.ok answer))) h.baseline, h.plans, h.baseline⟩
  | save key img next =>
    obtain ⟨rfl, -⟩ := hp
    refine ⟨rfl, h.plans, ?_⟩
    change (s.world.2.insert key img).get? key = (s'.world.2.insert key img).get? key
    rw [OrderedMap.get?_insert_self, OrderedMap.get?_insert_self]

/-- Two runs come to the same if a step does, and all that is left after it. -/
theorem run_agreeOn_of_rest {parties : Collaborators (σ × Baselines)} {p : Program α}
    {s s' : Shared (σ × Baselines)}
    (hstep : (p.step parties s).1 = (p.step parties s').1 ∧
      (p.step parties s).2.AgreeOn k (p.step parties s').2)
    (hrest : ∀ rest, (p.step parties s).1 = some rest → ∀ t t', t.AgreeOn k t' →
      (rest.run parties t).1 = (rest.run parties t').1 ∧
        (rest.run parties t).2.AgreeOn k (rest.run parties t').2) :
    (p.run parties s).1 = (p.run parties s').1 ∧
      (p.run parties s).2.AgreeOn k (p.run parties s').2 := by
  rw [run_eq_run_step parties p s, run_eq_run_step parties p s']
  rcases hs : p.step parties s with ⟨left, t⟩
  rcases hs' : p.step parties s' with ⟨left', t'⟩
  rw [hs, hs'] at hstep
  obtain ⟨rfl, ht⟩ : left = left' ∧ t.AgreeOn k t' := hstep
  cases left with
  | none => exact ⟨rfl, ht⟩
  | some rest => exact hrest rest (by rw [hs]) t t' ht

/-- **A check comes to the same in states that look the same to it**, and leaves states that do. -/
theorem run_agreeOn (hpage : page.Stateless) {p : Program α}
    (hp : p.StoreWithin (· = k) (· = k)) {s s' : Shared (σ × Baselines)} (h : s.AgreeOn k s') :
    (p.run page.withMemory s).1 = (p.run page.withMemory s').1 ∧
      (p.run page.withMemory s).2.AgreeOn k (p.run page.withMemory s').2 := by
  induction p generalizing s s' with
  | done a => exact ⟨rfl, h⟩
  | plan q next ih | load key next ih | save key img next ih =>
    refine run_agreeOn_of_rest (step_of_agreeOn hpage hp h) fun rest hrest t t' ht => ?_
    have hkept := hp.step hrest
    cases hrest
    exact ih _ hkept ht
  | capture context q next ih | resolve context locator next ih =>
    refine run_agreeOn_of_rest (step_of_agreeOn hpage hp h) fun rest hrest t t' ht => ?_
    have hkept := hp.step hrest
    obtain ⟨answer, -, rfl⟩ := Option.map_eq_some_iff.1 hrest
    exact ih answer hkept ht
  | present snapshot next ih =>
    refine run_agreeOn_of_rest (step_of_agreeOn hpage hp h) fun rest hrest t t' ht => ?_
    have hkept := hp.step hrest
    obtain ⟨⟨⟩, -, rfl⟩ := Option.map_eq_some_iff.1 hrest
    exact ih hkept ht

end Program

end VisualRegression
