import VisualRegression.Check.Engine

/-!
# Courses of requests

What a course of a check comes to is put together from what its parts come to: `run_bind` says it of
programs, and `perform_bind` of programs that may end with a fault.  `perform_bind_ok` takes apart a
course that ended well, so that no later proof looks into a program.  `perform_establish_ok` and
`perform_compareWithBaseline_ok` say what a check did that ended with a result.
-/

namespace VisualRegression

variable {α β σ : Type}

/-- A course runs its first part and, unless a party broke off there, the second one on the state
that the first one left. -/
theorem Program.run_bind (parties : Collaborators σ) (p : Program α) (f : α → Program β)
    (s : Shared σ) :
    (p >>= f).run parties s =
      match p.run parties s with
      | (some a, s') => (f a).run parties s'
      | (none, s') => (none, s') := by
  change (p.bind f).run parties s = _
  induction p generalizing s with
  | done a => rfl
  | plan q next ih => exact ih _ _
  | capture context q next ih =>
    simp only [bind, run]
    rcases parties.capture context q s.world with ⟨_ | answer, world⟩
    · rfl
    · exact ih _ _
  | resolve context locator next ih =>
    simp only [bind, run]
    rcases parties.resolve context locator s.world with ⟨_ | answer, world⟩
    · rfl
    · exact ih _ _
  | present snapshot next ih =>
    simp only [bind, run]
    rcases parties.observe snapshot s.world with ⟨_ | ⟨⟩, world⟩
    · rfl
    · exact ih _
  | load key next ih => exact ih _ _
  | save key img next ih => exact ih _ _

namespace CheckProgram

/-- What a course comes to, unless a party breaks off, and the state that it leaves. -/
def perform (parties : Collaborators σ) (p : CheckProgram α) (s : Shared σ) :
    Option (Except CheckFault α) × Shared σ :=
  Program.run parties p.run s

variable (parties : Collaborators σ) (s : Shared σ)

@[simp] theorem perform_pure (a : α) :
    perform parties (pure a : CheckProgram α) s = (some (.ok a), s) := rfl

@[simp] theorem perform_throw (fault : CheckFault) :
    perform parties (throw fault : CheckProgram α) s = (some (.error fault), s) := rfl

/-- A computation that asks nobody leaves the state alone. -/
@[simp] theorem perform_mk_pure (r : Except CheckFault α) :
    perform parties (ExceptT.mk (pure r)) s = (some r, s) := rfl

/-- A course ends where its first part breaks off or fails, and else as its second part does. -/
theorem perform_bind (x : CheckProgram α) (f : α → CheckProgram β) :
    perform parties (x >>= f) s =
      match perform parties x s with
      | (some (.ok a), s') => perform parties (f a) s'
      | (some (.error fault), s') => (some (.error fault), s')
      | (none, s') => (none, s') := by
  change Program.run parties (x.run >>= ExceptT.bindCont f) s = _
  rw [Program.run_bind]
  unfold perform
  rcases Program.run parties x.run s with ⟨_ | _ | a, s'⟩ <;> rfl

variable {parties s}

/-- A course that ended well went well in both of its parts. -/
theorem perform_bind_ok {x : CheckProgram α} {f : α → CheckProgram β} {b : β} {s'' : Shared σ} :
    perform parties (x >>= f) s = (some (.ok b), s'') ↔
      ∃ a s', perform parties x s = (some (.ok a), s') ∧
        perform parties (f a) s' = (some (.ok b), s'') := by
  rw [perform_bind]
  constructor
  · intro h
    rcases hx : perform parties x s with ⟨_ | _ | a, s'⟩ <;> rw [hx] at h
    · cases h
    · cases h
    · exact ⟨a, s', rfl, h⟩
  · rintro ⟨a, s', hx, hf⟩
    rw [hx]
    exact hf

theorem perform_plan (q : CaptureParameters) :
    perform parties (plan q) s =
      (some (((s.composer.build q).1.map CachedPlan.plan).mapError .capture),
        { s with composer := (s.composer.build q).2 }) := rfl

theorem perform_capture (context : SearchContext) (p : CapturePlan) :
    perform parties (capture context p) s =
      ((parties.capture context p s.world).1,
        { s with world := (parties.capture context p s.world).2 }) := by
  unfold perform
  change Program.run parties (.capture context p .done) s = _
  rw [Program.run]
  rcases parties.capture context p s.world with ⟨_ | answer, world⟩ <;> rfl

theorem perform_resolve (context : SearchContext) (locator : Locator) :
    perform parties (resolve context locator) s =
      ((parties.resolve context locator s.world).1,
        { s with world := (parties.resolve context locator s.world).2 }) := by
  unfold perform
  change Program.run parties (.resolve context locator .done) s = _
  rw [Program.run]
  rcases parties.resolve context locator s.world with ⟨_ | answer, world⟩ <;> rfl

theorem perform_present (snapshot : Snapshot) :
    perform parties (present snapshot) s =
      ((parties.observe snapshot s.world).1.map .ok,
        { s with world := parties.present snapshot s.world }) := by
  unfold perform
  change Program.run parties (.present snapshot (.done (Except.ok ()))) s = _
  rw [Program.run, Collaborators.observe]
  cases parties.breaksOff snapshot s.world <;> rfl

theorem perform_load (key : BaselineKey) :
    perform parties (load key) s =
      (some (parties.load key s.world).1, { s with world := (parties.load key s.world).2 }) := rfl

theorem perform_loadIfReadable (key : BaselineKey) :
    perform parties (loadIfReadable key) s =
      (some (.ok ((parties.load key s.world).1.toOption.getD none)),
        { s with world := (parties.load key s.world).2 }) := rfl

theorem perform_save (key : BaselineKey) (img : Image) :
    perform parties (save key img) s =
      (some (parties.save key img s.world).1,
        { s with world := (parties.save key img s.world).2 }) := rfl

end CheckProgram

namespace Check

/-- Exactly the checks whose percentages are percentages are valid. -/
theorem validate_eq_ok_iff {c : Check} :
    c.validate = .ok () ↔
      (∀ v, c.acceptable = some v → v ≤ 100) ∧ ∀ v, c.required = some v → v ≤ 100 := by
  have one (role : PercentageRole) (p : Option UInt8) :
      checkPercentage role p = .ok () ↔ ∀ v, p = some v → v ≤ 100 := by
    rcases p with _ | v
    · simp [checkPercentage]
    · by_cases hv : v > 100
      · simp [checkPercentage, hv, UInt8.not_le.2 hv]
      · simp [checkPercentage, hv, UInt8.not_lt.1 hv]
  rw [← one .acceptable, ← one .required, validate]
  rcases checkPercentage .acceptable c.acceptable with _ | _
  · exact ⟨fun h => (by cases h), fun h => (by cases h.1)⟩
  · exact ⟨fun h => ⟨rfl, h⟩, fun h => h.2⟩

end Check

namespace Engine

open CheckProgram

variable {parties : Collaborators σ} {s s' : Shared σ} {e : Engine} {now : Instant} {c : Check}
  {r : CheckResult}

theorem takeImage_of_none (h : c.context = none) :
    e.takeImage c = throw (.request .noContext) := by
  unfold takeImage
  rw [h]
  rfl

theorem takeImage_of_some {context : SearchContext} (h : c.context = some context) :
    e.takeImage c = do
      let plan ← CheckProgram.plan (e.parameters c)
      let tiles ← CheckProgram.capture context plan
      let img ← ExceptT.mk (pure ((plan.assemble tiles).mapError .capture))
      let ignores ← resolveIgnores context c.ignores
      let masked := Mask.apply e.policy.maskColor img ignores plan.topAdjustment
      presentAll masked.2
      return masked.1 := by
  unfold takeImage
  rw [h]
  rfl

theorem compareWithBaseline_of_none (h : c.threshold? = none) :
    e.compareWithBaseline now c = (do
      ExceptT.mk (pure c.validate)
      throw (.request (.notComparing c.action))) := by
  unfold compareWithBaseline
  rw [h]
  rfl

theorem compareWithBaseline_of_some {percentage : UInt8} (h : c.threshold? = some percentage) :
    e.compareWithBaseline now c = (do
      ExceptT.mk (pure c.validate)
      let checkpoint ← e.takeImage c
      match ← CheckProgram.load c.baseline with
      | none => return .baselineMissing c now checkpoint
      | some baseline => ExceptT.mk (pure (e.judge now c checkpoint baseline percentage))) := by
  unfold compareWithBaseline
  rw [h]
  rfl

theorem execute_of_establish (hc : c.action = .establish) :
    e.execute now c = e.establish now c := by
  unfold execute
  rw [hc]

theorem execute_of_ne_establish (hc : c.action ≠ .establish) :
    e.execute now c = e.compareWithBaseline now c := by
  unfold execute
  cases ha : c.action with
  | establish => exact absurd ha hc
  | compare | checkInequality => rfl

/-- **Establishing a baseline, whole**: a check that is not valid asks nobody, one whose image
cannot be taken asks for no baseline, and any other loads what the store has and then has the image
kept. -/
theorem perform_establish :
    perform parties (e.establish now c) s =
      match c.validate with
      | .error fault => (some (.error fault), s)
      | .ok () =>
        match perform parties (e.takeImage c) s with
        | (none, s₁) => (none, s₁)
        | (some (.error fault), s₁) => (some (.error fault), s₁)
        | (some (.ok checkpoint), s₁) =>
          let loaded := parties.load c.baseline s₁.world
          let kept := parties.save c.baseline checkpoint loaded.2
          (some (kept.1.map fun _ =>
              .established c now checkpoint (loaded.1.toOption.getD none)),
            { s₁ with world := kept.2 }) := by
  unfold establish
  rw [perform_bind, perform_mk_pure]
  rcases c.validate with fault | ⟨⟩
  · rfl
  · simp only [perform_bind]
    rcases perform parties (e.takeImage c) s with ⟨_ | fault | checkpoint, s₁⟩
    · rfl
    · rfl
    · simp only [perform_loadIfReadable, perform_save, perform_pure]
      rcases (parties.save c.baseline checkpoint (parties.load c.baseline s₁.world).2).1 with
        fault | ⟨⟩ <;> rfl

/-- **A baseline was established**: the check was valid, an image was taken, what the store had was
loaded, and then the image was kept. -/
theorem perform_establish_ok :
    perform parties (e.establish now c) s = (some (.ok r), s') ↔
      c.validate = .ok () ∧ ∃ checkpoint s₁,
        perform parties (e.takeImage c) s = (some (.ok checkpoint), s₁) ∧
        (parties.save c.baseline checkpoint (parties.load c.baseline s₁.world).2).1 = .ok () ∧
        r = .established c now checkpoint
          ((parties.load c.baseline s₁.world).1.toOption.getD none) ∧
        s' = { s₁ with world :=
          (parties.save c.baseline checkpoint (parties.load c.baseline s₁.world).2).2 } := by
  unfold establish
  simp only [perform_bind_ok, perform_mk_pure, perform_loadIfReadable, perform_save, perform_pure,
    Prod.mk.injEq, Option.some.injEq, Except.ok.injEq]
  constructor
  · rintro ⟨⟨⟩, _, ⟨hv, rfl⟩, checkpoint, s₁, hi, _, _, ⟨rfl, rfl⟩, ⟨⟩, _, ⟨hs, rfl⟩, rfl, rfl⟩
    exact ⟨hv, checkpoint, s₁, hi, hs, rfl, rfl⟩
  · rintro ⟨hv, checkpoint, s₁, hi, hs, rfl, rfl⟩
    exact ⟨(), s, ⟨hv, rfl⟩, checkpoint, s₁, hi, _, _, ⟨rfl, rfl⟩, (), _, ⟨hs, rfl⟩, rfl, rfl⟩

/-- **A comparison ended with a result**: the check was valid and compares, an image was taken, the
store answered, and where it had a baseline the image was judged. -/
theorem perform_compareWithBaseline_ok :
    perform parties (e.compareWithBaseline now c) s = (some (.ok r), s') ↔
      c.validate = .ok () ∧ ∃ percentage, c.threshold? = some percentage ∧ ∃ checkpoint s₁,
        perform parties (e.takeImage c) s = (some (.ok checkpoint), s₁) ∧
        s' = { s₁ with world := (parties.load c.baseline s₁.world).2 } ∧
        ((parties.load c.baseline s₁.world).1 = .ok none ∧
            r = .baselineMissing c now checkpoint ∨
          ∃ baseline, (parties.load c.baseline s₁.world).1 = .ok (some baseline) ∧
            e.judge now c checkpoint baseline percentage = .ok r) := by
  cases ht : c.threshold? with
  | none =>
    rw [compareWithBaseline_of_none ht]
    simp only [perform_bind_ok, perform_throw, Prod.mk.injEq, Option.some.injEq, reduceCtorEq,
      false_and, and_false, exists_false]
  | some percentage =>
    rw [compareWithBaseline_of_some ht]
    simp only [perform_bind_ok, perform_mk_pure, perform_load, Prod.mk.injEq, Option.some.injEq,
      exists_eq_left']
    constructor
    · rintro ⟨⟨⟩, _, ⟨hv, rfl⟩, checkpoint, s₁, hi, found, _, ⟨hl, rfl⟩, hr⟩
      refine ⟨hv, checkpoint, s₁, hi, ?_⟩
      rcases found with _ | baseline
      · simp only [perform_pure, Prod.mk.injEq, Option.some.injEq, Except.ok.injEq] at hr
        exact ⟨hr.2.symm, .inl ⟨hl, hr.1.symm⟩⟩
      · simp only [perform_mk_pure, Prod.mk.injEq, Option.some.injEq] at hr
        exact ⟨hr.2.symm, .inr ⟨baseline, hl, hr.1⟩⟩
    · rintro ⟨hv, checkpoint, s₁, hi, rfl, ⟨hl, rfl⟩ | ⟨baseline, hl, hr⟩⟩
      · exact ⟨(), s, ⟨hv, rfl⟩, checkpoint, s₁, hi, none, _, ⟨hl, rfl⟩, rfl⟩
      · refine ⟨(), s, ⟨hv, rfl⟩, checkpoint, s₁, hi, some baseline, _, ⟨hl, rfl⟩, ?_⟩
        rw [perform_mk_pure, hr]

end Engine

end VisualRegression
