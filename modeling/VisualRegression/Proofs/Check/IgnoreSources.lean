import VisualRegression.Proofs.Check.Alike
import VisualRegression.Proofs.Check.Ending
import VisualRegression.Proofs.Ordered.Set

/-!
# Two ways to say what to ignore

What a step is to ignore is said by its configuration (`StepRequest.configured`) or given with the
step (`StepRequest.given`).  A kind of which both say something is a clash, and a step with a clash
is refused before anybody is asked for anything.  Without one it makes no difference which of the
two ways was taken: the check ignores what either of them says, and the step takes the same course
as the one that says all of it by its configuration (`StepRequest.gathered`).  Main statement:
`ignores_from_either`.
-/

namespace VisualRegression

namespace CaptureConfiguration

/-- What the configuration says is to be ignored of a kind. -/
def ignored (c : CaptureConfiguration) : IgnoreKind → OrderedSet Locator
  | .element => c.elementIgnores
  | .area => c.areaIgnores

/-- The configuration that says something else about what to ignore. -/
def ignoring (c : CaptureConfiguration) (sets : IgnoreKind → OrderedSet Locator) :
    CaptureConfiguration :=
  { c with elementIgnores := sets .element, areaIgnores := sets .area }

end CaptureConfiguration

/-- What is given with a step is to be ignored of a kind. -/
def StepParameters.ignored (p : StepParameters) (k : IgnoreKind) : OrderedSet Locator :=
  (p.ignores.get? k).getD ∅

/-! ## One kind at a time -/

namespace Step

open CaptureConfiguration

/-- **What both sides say of a kind is refused, and else it is taken together.** -/
theorem mergeKind_eq (configured : OrderedSet Locator) (given : Option (OrderedSet Locator)) :
    mergeKind (nonEmpty? configured) given =
      if configured.isEmpty = false ∧ (given.getD ∅).isEmpty = false then
        .error (.request .ignoresTwice)
      else .ok (nonEmpty? (configured.union (given.getD ∅))) := by
  have hgiven : given.bind nonEmpty? = nonEmpty? (given.getD ∅) := by
    cases given <;> rfl
  simp only [mergeKind, hgiven]
  by_cases hc : configured.isEmpty = true
  · obtain rfl := OrderedSet.isEmpty_iff.1 hc
    by_cases hg : (given.getD ∅).isEmpty = true
    · rw [OrderedSet.isEmpty_iff.1 hg]
      rfl
    · have hg := Bool.eq_false_iff.2 hg
      rw [nonEmpty?_of_not_isEmpty hg, OrderedSet.empty_union, nonEmpty?_of_not_isEmpty hg]
      rfl
  · have hc := Bool.eq_false_iff.2 hc
    rw [bind_nonEmpty?, nonEmpty?_of_not_isEmpty hc]
    by_cases hg : (given.getD ∅).isEmpty = true
    · rw [OrderedSet.isEmpty_iff.1 hg, OrderedSet.union_empty, nonEmpty?_of_not_isEmpty hc]
      simp [OrderedSet.isEmpty_iff.2 rfl, nonEmpty?_empty]
    · have hg := Bool.eq_false_iff.2 hg
      rw [nonEmpty?_of_not_isEmpty hg, if_pos ⟨hc, hg⟩]

end Step

namespace Engine

/-- **A check depends on the parameters that it asks for, however they are given.** -/
theorem execute_congr_parameters {e : Engine} {now : Instant} {c : Check}
    {parameters : Option CaptureParameters}
    (h : e.parameters { c with parameters } = e.parameters c) :
    e.execute now { c with parameters } = e.execute now c := by
  have himage : e.takeImage { c with parameters } = e.takeImage c := by
    rcases Option.eq_none_or_eq_some c.context with hcontext | ⟨context, hcontext⟩
    · rw [takeImage_of_none hcontext]
      exact takeImage_of_none (c := { c with parameters }) hcontext
    · rw [takeImage_eq_maskImage hcontext,
        takeImage_eq_maskImage (c := { c with parameters }) hcontext, h]
  rw [execute_eq_finish, execute_eq_finish, himage]
  rfl

end Engine

/-! ## A whole step -/

namespace StepRequest

open CaptureConfiguration

/-- What the configuration of a step says is to be ignored of a kind. -/
def configured (q : StepRequest) (k : IgnoreKind) : OrderedSet Locator :=
  (q.configuration.map fun c => c.ignored k).getD ∅

/-- What is given with a step is to be ignored of a kind. -/
def given (q : StepRequest) (k : IgnoreKind) : OrderedSet Locator :=
  (q.parameters.map fun p => p.ignored k).getD ∅

/-- What either side says is to be ignored of a kind. -/
def ignored (q : StepRequest) (k : IgnoreKind) : OrderedSet Locator :=
  (q.configured k).union (q.given k)

/-- Of a kind both sides say something. -/
def ClashesAt (q : StepRequest) (k : IgnoreKind) : Prop :=
  (q.configured k).isEmpty = false ∧ (q.given k).isEmpty = false

instance (q : StepRequest) (k : IgnoreKind) : Decidable (q.ClashesAt k) :=
  inferInstanceAs (Decidable (_ ∧ _))

/-- Of some kind both sides say something. -/
def Clashes (q : StepRequest) : Prop := ∃ k, q.ClashesAt k

/-- The step that says by its configuration what to ignore, and gives nothing but percentages. -/
def gathered (q : StepRequest) : StepRequest :=
  { q with
    parameters := q.parameters.map fun p => { p with ignores := ∅ }
    configuration := some ((q.configuration.getD {}).ignoring q.ignored) }

variable {q : StepRequest} {e : Engine} {f : CheckFactory} {now : Instant} {id : CheckId}
  {context : SearchContext} {key : BaselineKey}

/-- The check that a step without a clash comes to, for a baseline. -/
def checkOf (q : StepRequest) (f : CheckFactory) (id : CheckId) (context : SearchContext)
    (key : BaselineKey) : Check where
  id
  baseline := key
  action := q.action
  acceptable := q.parameters.bind StepParameters.acceptable
  required := q.parameters.bind StepParameters.required
  ignores := ⟨nonEmpty? (q.ignored .element), nonEmpty? (q.ignored .area)⟩
  parameters := q.configuration.map fun c => c.parameters f.policy
  context := some context

theorem given_gathered (q : StepRequest) (k : IgnoreKind) : q.gathered.given k = ∅ := by
  cases hp : q.parameters with
  | none => simp [given, gathered, hp]
  | some p => cases k <;> simp [given, gathered, hp, StepParameters.ignored]

/-- Gathering what is to be ignored changes nothing about it. -/
theorem ignored_gathered (q : StepRequest) (k : IgnoreKind) :
    q.gathered.ignored k = q.ignored k := by
  have hconfigured : q.gathered.configured k = q.ignored k := by
    cases k <;> rfl
  show (q.gathered.configured k).union (q.gathered.given k) = q.ignored k
  rw [given_gathered, hconfigured, OrderedSet.union_empty]

/-- Where all is said by the configuration, both sides never say something. -/
theorem not_clashes_gathered (q : StepRequest) : ¬ q.gathered.Clashes := by
  rintro ⟨k, -, hgiven⟩
  rw [given_gathered] at hgiven
  cases hgiven

theorem configured_eq (q : StepRequest) :
    ((q.configuration.map CaptureConfiguration.ignores).getD ∅ : LocatorMap) =
      ⟨nonEmpty? (q.configured .element), nonEmpty? (q.configured .area)⟩ := by
  cases hc : q.configuration <;> simp [configured, hc] <;> rfl

/-- The check that a step begins with ignores what is configured. -/
theorem create_eq (hname : BaselineKey.parse q.name = .ok key) :
    f.create id q.name q.action q.configuration = .ok
      { id
        baseline := key
        action := q.action
        ignores := ⟨nonEmpty? (q.configured .element), nonEmpty? (q.configured .area)⟩
        parameters := q.configuration.map fun c => c.parameters f.policy } := by
  simp only [CheckFactory.create, hname, configured_eq]

/-- **The check of a step**: what is said of elements is put together first, then what is said of
areas, and a clash of either kind is the end of it. -/
theorem check_eq {p : StepParameters} (hname : BaselineKey.parse q.name = .ok key)
    (hp : q.parameters = some p) :
    q.check f id context =
      if q.ClashesAt .element ∨ q.ClashesAt .area then .error (.request .ignoresTwice)
      else .ok (q.checkOf f id context key) := by
  have hgiven : ∀ k, (p.ignores.get? k).getD ∅ = q.given k := by
    intro k
    simp [given, hp, StepParameters.ignored]
  have hmerge : ∀ k, Step.mergeKind (nonEmpty? (q.configured k)) (p.ignores.get? k) =
      if q.ClashesAt k then .error (.request .ignoresTwice)
      else .ok (nonEmpty? (q.ignored k)) := by
    intro k
    rw [Step.mergeKind_eq, hgiven]
    rfl
  have helement := hmerge .element
  have harea := hmerge .area
  have hnone : ∀ v : Option UInt8, (v <|> none) = v := by
    intro v
    cases v <;> rfl
  show Step.prepare f id context q.action q.name q.parameters q.configuration = _
  simp only [PerKind.get?] at helement harea
  simp only [Step.prepare, create_eq hname, hp, ok_bind, Step.amend, helement, harea, hnone]
  by_cases he : q.ClashesAt .element
  · have hany : q.ClashesAt .element ∨ q.ClashesAt .area := .inl he
    rw [if_pos hany, if_pos he]
    rfl
  · rw [if_neg he, ok_bind]
    by_cases ha : q.ClashesAt .area
    · have hany : q.ClashesAt .element ∨ q.ClashesAt .area := .inr ha
      rw [if_pos hany, if_pos ha]
      rfl
    · have hnone : ¬ (q.ClashesAt .element ∨ q.ClashesAt .area) := not_or.2 ⟨he, ha⟩
      rw [if_neg hnone, if_neg ha]
      simp only [checkOf, hp, Option.bind_some]
      rfl

/-- A step with a clash has no check. -/
theorem check_of_clashes (hname : BaselineKey.parse q.name = .ok key) (h : q.Clashes) :
    q.check f id context = .error (.request .ignoresTwice) := by
  obtain ⟨k, hk⟩ := h
  cases hp : q.parameters with
  | none => simp [ClashesAt, given, hp, OrderedSet.isEmpty_iff.2 rfl] at hk
  | some p =>
    rw [check_eq hname hp, if_pos]
    cases k with
    | element => exact .inl hk
    | area => exact .inr hk

/-- **A step without a clash has a check**, which ignores what either side says. -/
theorem check_of_not_clashes (hname : BaselineKey.parse q.name = .ok key) (h : ¬ q.Clashes) :
    q.check f id context = .ok (q.checkOf f id context key) := by
  cases hp : q.parameters with
  | none =>
    have hignored : ∀ k, q.ignored k = q.configured k := by
      intro k
      simp [ignored, given, hp, OrderedSet.union_empty]
    show Step.prepare f id context q.action q.name q.parameters q.configuration = _
    simp only [Step.prepare, create_eq hname, hp, ok_bind, checkOf, hignored, Option.bind_none]
    rfl
  | some p =>
    rw [check_eq hname hp, if_neg]
    rintro (he | ha)
    · exact h ⟨_, he⟩
    · exact h ⟨_, ha⟩

/-- The course of a step that has its check. -/
theorem program_of_not_clashes (e : Engine) (f : CheckFactory) (now : Instant) (id : CheckId)
    (hvalid : q.validate = .ok ()) (hcontext : q.context = some context)
    (hname : BaselineKey.parse q.name = .ok key) (h : ¬ q.Clashes) :
    q.program e f now id = do
      return Step.conclude (← (e.execute now (q.checkOf f id context key)).run) := by
  rw [program_of_context e f now id hvalid hcontext, check_of_not_clashes hname h]

/-- The gathered step comes to a check that differs in nothing but how its parameters are given. -/
theorem checkOf_gathered (q : StepRequest) :
    q.gathered.checkOf f id context key =
      { q.checkOf f id context key with
        parameters := some ((q.configuration.getD {}).parameters f.policy) } := by
  have hacceptable : q.gathered.parameters.bind StepParameters.acceptable =
      q.parameters.bind StepParameters.acceptable := by
    cases hp : q.parameters <;> simp [gathered, hp]
  have hrequired : q.gathered.parameters.bind StepParameters.required =
      q.parameters.bind StepParameters.required := by
    cases hp : q.parameters <;> simp [gathered, hp]
  simp only [checkOf, hacceptable, hrequired, ignored_gathered]
  rfl

/-- What the parameters are is the same for the gathered step, if a step without a configuration
finds the policy of its engine where its check was made. -/
theorem parameters_checkOf (hpolicy : q.configuration = none → f.policy = e.policy) :
    (q.configuration.getD {}).parameters f.policy = e.parameters (q.checkOf f id context key) := by
  cases hc : q.configuration with
  | some c => simp [Engine.parameters, checkOf, hc]
  | none =>
    rw [hpolicy hc]
    simp only [Engine.parameters, checkOf, hc, Option.map_none, Option.getD_none]
    exact parameters_of_unset e.policy rfl rfl rfl rfl

theorem validate_gathered (q : StepRequest) : q.gathered.validate = q.validate := by
  cases hp : q.parameters with
  | none => simp [validate, gathered, hp]
  | some p =>
    simp only [validate, gathered, hp]
    rfl

/-- **A step without a clash takes the course of the gathered step.** -/
theorem program_gathered (hvalid : q.validate = .ok ()) (hcontext : q.context = some context)
    (hname : BaselineKey.parse q.name = .ok key) (hclash : ¬ q.Clashes)
    (hpolicy : q.configuration = none → f.policy = e.policy) :
    q.gathered.program e f now id = q.program e f now id := by
  have hexecute : e.execute now (q.gathered.checkOf f id context key) =
      e.execute now (q.checkOf f id context key) := by
    rw [checkOf_gathered]
    exact Engine.execute_congr_parameters (parameters_checkOf hpolicy)
  rw [program_of_not_clashes e f now id hvalid hcontext hname hclash,
    program_of_not_clashes (q := q.gathered) e f now id ((validate_gathered q).trans hvalid)
      hcontext hname (not_clashes_gathered q), hexecute]

/-- **It makes no difference which way is taken to say what to ignore, and both ways are too many.**
If the configuration and what is given with the step both say something of one kind, the step hands
this back as a wrong request and asks nobody for anything.  Else its check ignores of each kind what
either of them says, with no entry for a kind of which neither does, and the step takes the same
course as the one that says all of it by its configuration. -/
theorem ignores_from_either (q : StepRequest) (e : Engine) (f : CheckFactory) (now : Instant)
    (id : CheckId) {context : SearchContext} {key : BaselineKey} (hvalid : q.validate = .ok ())
    (hcontext : q.context = some context) (hname : BaselineKey.parse q.name = .ok key)
    (hpolicy : q.configuration = none → f.policy = e.policy) :
    (q.Clashes →
      (CheckFault.request .ignoresTwice).isConfiguration = true ∧
      q.program e f now id = .done ⟨.error (.request .ignoresTwice), []⟩) ∧
    (¬ q.Clashes →
      (∃ check : Check,
        (∀ k, check.ignores.get? k = nonEmpty? ((q.configured k).union (q.given k))) ∧
        q.program e f now id = do return Step.conclude (← (e.execute now check).run)) ∧
      q.gathered.program e f now id = q.program e f now id) := by
  constructor
  · intro hclash
    refine ⟨rfl, ?_⟩
    rw [program_of_context e f now id hvalid hcontext, check_of_clashes hname hclash]
  · intro hclash
    refine ⟨⟨q.checkOf f id context key, ?_, ?_⟩,
      program_gathered hvalid hcontext hname hclash hpolicy⟩
    · intro k
      cases k <;> rfl
    · rw [program_of_context e f now id hvalid hcontext, check_of_not_clashes hname hclash]

end StepRequest

namespace BothWays

/-- A page is compared whose configuration leaves out the upper pixel, and with the step an element
is given, too. -/
def apart : StepRequest where
  context := some ⟨"page"⟩
  action := .compare
  name := "home"
  parameters := some { ignores := ⟨some (OrderedSet.ofList [.css "#clock"]), none⟩ }
  configuration := some { areaIgnores := OrderedSet.ofList [.area ⟨0, 0, 1, 1⟩] }

/-- The configuration names an element as well. -/
def twice : StepRequest :=
  { apart with configuration := some { elementIgnores := OrderedSet.ofList [.css "#menu"] } }

theorem not_clashes_apart : ¬ apart.Clashes := by
  rintro ⟨_ | _, hconfigured, hgiven⟩
  · cases hconfigured
  · cases hgiven

end BothWays

open BothWays StepRequest in
/-- What is said of areas and of elements goes together, and what is said twice of elements does
not. -/
theorem StepRequest.ignores_from_either_apart_and_twice :
    apart.gathered.program {} {} ⟨0, 0⟩ ⟨"1"⟩ = apart.program {} {} ⟨0, 0⟩ ⟨"1"⟩ ∧
    twice.program {} {} ⟨0, 0⟩ ⟨"1"⟩ = .done ⟨.error (.request .ignoresTwice), []⟩ := by
  obtain ⟨key, hname⟩ : ∃ key, BaselineKey.parse "home" = .ok key := ⟨_, rfl⟩
  obtain ⟨-, hapart⟩ := ignores_from_either apart {} {} ⟨0, 0⟩ ⟨"1"⟩ rfl rfl hname (fun _ => rfl)
  obtain ⟨htwice, -⟩ := ignores_from_either twice {} {} ⟨0, 0⟩ ⟨"1"⟩ rfl rfl hname (fun _ => rfl)
  exact ⟨(hapart not_clashes_apart).2, (htwice ⟨.element, rfl, rfl⟩).2⟩

end VisualRegression
