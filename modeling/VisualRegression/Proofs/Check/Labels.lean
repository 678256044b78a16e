import VisualRegression.Proofs.Check.Alike
import VisualRegression.Proofs.Check.Ending

/-!
# What is written on a result

A result bears the identity of its check and the time.  A check under another identity and at
another time takes the same course, and its result is the same but for these two labels:
`execute_relabel`.  So does a step, with the results that it publishes: `program_relabel`.
-/

namespace VisualRegression

variable {α β σ : Type}

/-- What becomes of the end of a program has no influence on its run. -/
theorem Program.run_map (parties : Collaborators σ) (g : α → β) (p : Program α) (s : Shared σ) :
    (g <$> p).run parties s = ((p.run parties s).1.map g, (p.run parties s).2) := by
  change (p >>= fun a => done (g a)).run parties s = _
  rw [run_bind]
  rcases p.run parties s with ⟨_ | a, s'⟩ <;> rfl

theorem CheckProgram.map_mk_pure (g : α → β) (r : Except CheckFault α) :
    g <$> (ExceptT.mk (pure r) : CheckProgram α) = ExceptT.mk (pure (r.map g)) := by
  rcases r with fault | a <;> rfl

theorem CheckProgram.perform_map (parties : Collaborators σ) (g : α → β) (x : CheckProgram α)
    (s : Shared σ) :
    perform parties (g <$> x) s =
      ((perform parties x s).1.map (Except.map g), (perform parties x s).2) := by
  unfold perform
  rw [ExceptT.run_map, Program.run_map]

/-- The result with another time on it. -/
def CheckResult.at (now : Instant) (r : CheckResult) : CheckResult := { r with checkedAt := now }

/-- The result with another time and another identity on it. -/
def CheckResult.relabel (now : Instant) (rename : CheckId → CheckId) (r : CheckResult) :
    CheckResult :=
  { r with checkId := rename r.checkId, checkedAt := now }

/-! ## Checks -/

namespace Engine

open CheckProgram

variable {e : Engine} {c : Check}

theorem judge_relabel (now now' : Instant) (rename : CheckId → CheckId)
    (checkpoint baseline : Image) (percentage : UInt8) :
    e.judge now' { c with id := rename c.id } checkpoint baseline percentage =
      (e.judge now c checkpoint baseline percentage).map (CheckResult.relabel now' rename) := by
  unfold judge
  split <;> rfl

theorem finish_relabel (now now' : Instant) (rename : CheckId → CheckId) (img : Image) :
    e.finish now' { c with id := rename c.id } img =
      CheckResult.relabel now' rename <$> e.finish now c img := by
  unfold finish
  dsimp only
  split
  · rw [map_bind]
    refine bind_congr fun previous => ?_
    rw [map_bind]
    rfl
  · rw [map_bind]
    refine bind_congr fun found => ?_
    rcases found with _ | baseline
    · rfl
    · dsimp only
      rw [judge_relabel now, map_mk_pure]
      rfl

/-- **Neither the identity of a check nor the clock decides anything** but what is written on the
result. -/
theorem execute_relabel (now now' : Instant) (rename : CheckId → CheckId) :
    e.execute now' { c with id := rename c.id } =
      CheckResult.relabel now' rename <$> e.execute now c := by
  rw [execute_eq_finish, execute_eq_finish, map_bind]
  refine bind_congr fun _ => ?_
  rw [map_bind]
  exact bind_congr fun img => finish_relabel now now' rename img

/-- **The clock decides nothing but the time on the result.** -/
theorem perform_execute_at (parties : Collaborators σ) (now now' : Instant) (s : Shared σ) :
    perform parties (e.execute now' c) s =
      ((perform parties (e.execute now c) s).1.map (Except.map (CheckResult.at now')),
        (perform parties (e.execute now c) s).2) := by
  have hsame : e.execute now' c = CheckResult.at now' <$> e.execute now c :=
    execute_relabel now now' id
  rw [hsame, perform_map]

end Engine

/-! ## Steps -/

/-- What a step lets others see, with another time and another identity on its results. -/
def StepEvent.relabel (now : Instant) (rename : CheckId → CheckId) : StepEvent → StepEvent
  | .published r => .published (r.relabel now rename)
  | .asserted description condition => .asserted description condition
  | .failed message => .failed message

/-- The end of a step, with another time and another identity on its results. -/
def StepOutcome.relabel (now : Instant) (rename : CheckId → CheckId) (outcome : StepOutcome) :
    StepOutcome :=
  ⟨outcome.returned, outcome.events.map (StepEvent.relabel now rename)⟩

namespace Step

/-- What is asserted of a result says nothing about its labels. -/
theorem map_relabel_assertions (now : Instant) (rename : CheckId → CheckId) (r : CheckResult) :
    (assertions r).map (StepEvent.relabel now rename) = assertions (r.relabel now rename) := by
  change _ = assertions r
  unfold assertions
  split
  · rfl
  · split
    · rfl
    · split <;> rfl

theorem conclude_map_relabel (now : Instant) (rename : CheckId → CheckId)
    (ended : Except CheckFault CheckResult) :
    conclude (ended.map (CheckResult.relabel now rename)) =
      (conclude ended).relabel now rename := by
  rcases ended with fault | r
  · unfold conclude Except.map
    dsimp only
    split <;> rfl
  · unfold conclude StepOutcome.relabel
    rw [List.map_cons, map_relabel_assertions]
    rfl

end Step

namespace StepRequest

variable {q : StepRequest} {e : Engine} {f : CheckFactory}

/-- The check of a step bears the identity that it is given. -/
theorem check_relabel (id : CheckId) (rename : CheckId → CheckId) (context : SearchContext) :
    q.check f (rename id) context =
      (q.check f id context).map fun c => { c with id := rename c.id } := by
  unfold check Step.prepare CheckFactory.create
  cases BaselineKey.parse q.name with
  | error fault => rfl
  | ok key =>
    simp only [ok_bind]
    cases q.parameters with
    | none => rfl
    | some p =>
      unfold Step.amend
      dsimp only
      rcases Step.mergeKind _ p.ignores.element with fault | element
      · rfl
      · rcases Step.mergeKind _ p.ignores.area with fault | area <;> rfl

/-- **A step under another identity and at another time takes the same course**, and what it lets
others see is the same but for these labels. -/
theorem program_relabel (now now' : Instant) (id : CheckId) (rename : CheckId → CheckId) :
    q.program e f now' (rename id) =
      StepOutcome.relabel now' rename <$> q.program e f now id := by
  cases hvalid : q.validate with
  | error fault =>
    rw [program_of_not_valid e f now id hvalid, program_of_not_valid e f now' _ hvalid]
    rfl
  | ok =>
    cases hcontext : q.context with
    | none =>
      rw [program_of_no_context e f now id hvalid hcontext,
        program_of_no_context e f now' _ hvalid hcontext]
      rfl
    | some context =>
      rw [program_of_context e f now id hvalid hcontext,
        program_of_context e f now' _ hvalid hcontext, check_relabel id rename]
      rcases q.check f id context with fault | c
      · rfl
      · simp only [Except.map]
        rw [Engine.execute_relabel now now', ExceptT.run_map, bind_map_left, map_bind]
        refine bind_congr fun ended => ?_
        rw [Step.conclude_map_relabel]
        rfl

end StepRequest

end VisualRegression
