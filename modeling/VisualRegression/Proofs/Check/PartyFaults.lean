import VisualRegression.Proofs.Check.IgnoreSources
import VisualRegression.Proofs.Check.Stability

/-!
# Parties that answer with a fault

A step relies on the party that captures pages and on the one that finds elements, and either may
answer with a fault of whatever kind (`Engine.PartyFails`).  No course goes on after such an answer
(`CheckProgram.EndsWithFault`), and the store of baselines has not been asked for anything by then.
What comes of it is decided by the fault alone: one that blames the request is handed back, and any
other is recorded as a failed assertion, so that the test goes on.  A fault that blames a value is
the party's own, and still goes the way of the first (`StepRequest.party_fault_handed_back`): a
party has to put it in words of its own for it to be recorded.  A stitcher has no answer but a fault
of the capture or an image; one that breaks off instead is a party that breaks off
(`Collaborators.breakingOver`, `Engine.execute_of_breaksOver`).  Main statement:
`StepRequest.ends_with_party_fault`.
-/

namespace VisualRegression

variable {α β σ τ : Type}

namespace CheckProgram

/-- **The course ends with a fault that a look-up is answered with.** -/
def EndsWithFault (parties : Collaborators σ) (x : CheckProgram α) : Prop :=
  ∀ s locator fault, (locator, some (.error fault)) ∈ lookups parties x s →
    (perform parties x s).1 = some (.error fault)

variable {parties : Collaborators σ}

/-- A course that looks up nothing is never answered with a fault. -/
theorem endsWithFault_of_nil {x : CheckProgram α} (h : ∀ s, lookups parties x s = []) :
    EndsWithFault parties x := by
  intro s locator fault hmem
  rw [h s] at hmem
  cases hmem

theorem endsWithFault_resolve (context : SearchContext) (locator : Locator) :
    EndsWithFault parties (CheckProgram.resolve context locator) := by
  intro s asked fault hmem
  rw [Engine.lookups_resolve, List.mem_singleton, Prod.mk.injEq] at hmem
  rw [perform_resolve]
  exact hmem.2.symm

/-- **The first fault ends a course**, in whichever of its parts it is met. -/
theorem EndsWithFault.bind {x : CheckProgram α} {f : α → CheckProgram β}
    (hx : EndsWithFault parties x) (hf : ∀ a, EndsWithFault parties (f a)) :
    EndsWithFault parties (x >>= f) := by
  intro s locator fault hmem
  rw [lookups_bind] at hmem
  rw [perform_bind]
  rcases List.mem_append.1 hmem with hfirst | hthen
  · have hends := hx s locator fault hfirst
    rcases hperform : perform parties x s with ⟨answer, s'⟩
    rw [hperform] at hends
    obtain rfl : answer = some (.error fault) := hends
    rfl
  · rcases hperform : perform parties x s with ⟨_ | _ | a, s'⟩ <;> rw [hperform] at hthen
    · cases hthen
    · cases hthen
    · exact hf a s' locator fault hthen

theorem endsWithFault_foldlM {f : β → α → CheckProgram β}
    (hf : ∀ b a, EndsWithFault parties (f b a)) (l : List α) (b : β) :
    EndsWithFault parties (l.foldlM f b) := by
  induction l generalizing b with
  | nil => exact endsWithFault_of_nil fun _ => rfl
  | cons a l ih =>
    rw [List.foldlM_cons]
    exact (hf b a).bind fun b' => ih b'

end CheckProgram

/-- **The parties with a stitcher that breaks off over some tiles.**  It is handed the tiles as soon
as they are captured, so that the capture breaks off in its place. -/
def Collaborators.breakingOver (parties : Collaborators σ)
    (breaks : Stitcher → List Image → Bool) : Collaborators σ :=
  { parties with
    capture := fun context plan w =>
      match parties.capture context plan w with
      | (some (.ok tiles), w) =>
        match tiles.mapM plan.prepare with
        | .ok prepared => (if breaks plan.stitcher prepared then none else some (.ok tiles), w)
        | .error _ => (some (.ok tiles), w)
      | (answer, w) => (answer, w) }

namespace Engine

open CheckProgram

variable {parties : Collaborators σ} {s : Shared σ} {e : Engine} {now : Instant} {c : Check}
  {context : SearchContext} {fault : CheckFault}

/-! ## Where a course meets with a fault -/

theorem endsWithFault_resolveIgnores (context : SearchContext) (locators : LocatorMap) :
    EndsWithFault parties (resolveIgnores context locators) := by
  have hone : ∀ found locator, EndsWithFault parties (resolveOne context found locator) := by
    intro found locator
    cases locator with
    | area r => exact endsWithFault_of_nil fun _ => rfl
    | css _ | xpath _ =>
      exact (endsWithFault_resolve context _).bind fun _ => endsWithFault_of_nil fun _ => rfl
  have hkind : ∀ set, EndsWithFault parties (resolveKind context set) := by
    intro set
    cases set with
    | none => exact endsWithFault_of_nil fun _ => rfl
    | some locators =>
      exact (endsWithFault_foldlM hone _ _).bind fun _ => endsWithFault_of_nil fun _ => rfl
  exact (hkind _).bind fun _ => (hkind _).bind fun _ => endsWithFault_of_nil fun _ => rfl

/-- To take an image is over once an element is looked up in vain. -/
theorem endsWithFault_takeImage (e : Engine) (c : Check) :
    EndsWithFault parties (e.takeImage c) := by
  rcases Option.eq_none_or_eq_some c.context with hcontext | ⟨context, hcontext⟩
  · rw [takeImage_of_none hcontext]
    exact endsWithFault_of_nil fun _ => rfl
  · rw [takeImage_eq_maskImage hcontext]
    have hplan : EndsWithFault parties (CheckProgram.plan (e.parameters c)) :=
      endsWithFault_of_nil fun _ => rfl
    have hcapture : ∀ plan, EndsWithFault parties (CheckProgram.capture context plan) :=
      fun plan => endsWithFault_of_nil fun _ => lookups_capture plan
    refine hplan.bind fun plan => (hcapture plan).bind fun tiles =>
      (endsWithFault_of_nil fun _ => rfl).bind fun img => ?_
    exact (endsWithFault_resolveIgnores context c.ignores).bind fun _ =>
      endsWithFault_of_nil fun _ =>
        (lookups_bind_of_nil fun _ _ => rfl).trans (lookups_presentAll _ _)

/-- **A party fails a check**: once there is a plan the page is captured, and this is answered with
a fault, or in the course of the check an element is looked up, and that is. -/
inductive PartyFails (e : Engine) (now : Instant) (parties : Collaborators σ) (s : Shared σ)
    (c : Check) : CheckFault → Prop
  | capture {context : SearchContext} {plan : CapturePlan} {fault : CheckFault}
      (hcontext : c.context = some context)
      (hplan : s.composer.planFor (e.parameters c) = .ok plan)
      (hanswer : (parties.capture context plan s.world).1 = some (.error fault)) :
      PartyFails e now parties s c fault
  | resolve {locator : Locator} {fault : CheckFault}
      (hlookup : (locator, some (.error fault)) ∈ lookups parties (e.execute now c) s) :
      PartyFails e now parties s c fault

/-- No image is taken where a party fails. -/
theorem takeImage_of_partyFails (hvalid : c.validate = .ok ())
    (h : e.PartyFails now parties s c fault) :
    (perform parties (e.takeImage c) s).1 = some (.error fault) := by
  cases h with
  | @capture context plan _ hcontext hplan hanswer =>
    rw [takeImage_eq_maskImage hcontext, perform_bind, perform_plan_planFor,
      mapError_eq_ok.2 hplan]
    dsimp only
    rw [perform_bind, perform_capture]
    dsimp only
    rw [hanswer]
  | @resolve locator _ hlookup =>
    rw [lookups_execute hvalid] at hlookup
    exact endsWithFault_takeImage e c s locator fault hlookup

/-- **A check in which a party fails ends with its fault**, and what is not changed by those who
capture pages and find elements is as before. -/
theorem execute_of_partyFails {P : Shared σ → Prop}
    (hpreserve : parties.Preserve (fun _ => False) P) (hvalid : c.validate = .ok ())
    (h : e.PartyFails now parties s c fault) (hs : P s) :
    ∃ s', perform parties (e.execute now c) s = (some (.error fault), s') ∧ P s' := by
  have hends := takeImage_of_partyFails hvalid h
  have himage : StoreWithin (fun _ => False) (fun _ => False) (e.takeImage c) :=
    takeImage_storeWithin e c
  have hafter : P (perform parties (e.takeImage c) s).2 :=
    Program.run_preserves hpreserve himage hs
  rcases hperform : perform parties (e.takeImage c) s with ⟨answer, s'⟩
  rw [hperform] at hends hafter
  obtain rfl : answer = some (.error fault) := hends
  refine ⟨s', ?_, hafter⟩
  rw [execute_eq_finish, hvalid, perform_bind, perform_mk_pure]
  dsimp only
  rw [perform_bind, hperform]

/-- **A stitcher that breaks off ends the check there**: the tiles were captured, and nothing is
asked of anybody after that. -/
theorem execute_of_breaksOver {breaks : Stitcher → List Image → Bool} {plan : CapturePlan}
    {tiles prepared : List Image} {w : σ} (hvalid : c.validate = .ok ())
    (hcontext : c.context = some context) (hplan : s.composer.planFor (e.parameters c) = .ok plan)
    (hcapture : parties.capture context plan s.world = (some (.ok tiles), w))
    (hprepared : tiles.mapM plan.prepare = .ok prepared)
    (hbreaks : breaks plan.stitcher prepared = true) :
    perform (parties.breakingOver breaks) (e.execute now c) s =
      (none, ⟨(s.composer.build (e.parameters c)).2, w⟩) := by
  have hbroken : (parties.breakingOver breaks).capture context plan s.world = (none, w) := by
    unfold Collaborators.breakingOver
    dsimp only
    rw [hcapture]
    dsimp only
    rw [hprepared]
    exact congrArg (·, w) (if_pos hbreaks)
  have himage : perform (parties.breakingOver breaks) (e.takeImage c) s =
      (none, ⟨(s.composer.build (e.parameters c)).2, w⟩) := by
    rw [takeImage_eq_maskImage hcontext, perform_bind, perform_plan_planFor, mapError_eq_ok.2 hplan]
    dsimp only
    rw [perform_bind, perform_capture, hbroken]
  rw [execute_eq_finish, hvalid, perform_bind, perform_mk_pure]
  dsimp only
  rw [perform_bind, himage]

end Engine

/-- **Where nothing is to be kept the store stays as it is**, if it is left alone by those who
capture pages, find elements and take note of images. -/
theorem Collaborators.Over.preserve_store {parties : Collaborators σ} {store : BaselineStore τ}
    {view : σ → τ} (hover : parties.Over store view (· = ·)) (t : τ) :
    parties.Preserve (fun _ => False) fun s => view s.world = t where
  plan _ _ h := h
  capture context plan s h := (hover.capture context plan s.world).symm.trans h
  resolve context locator s h := (hover.resolve context locator s.world).symm.trans h
  present snapshot s h := (hover.present snapshot s.world).symm.trans h
  load key s h := (hover.load key s.world).2.trans h
  save _ _ _ hkeeps _ := hkeeps.elim

/-! ## What the step makes of it -/

namespace StepRequest

open CheckProgram

variable {q : StepRequest} {f : CheckFactory} {id : CheckId} {context : SearchContext}
  {key : BaselineKey}

/-- A step whose percentages are accepted has a check that is valid. -/
theorem validate_checkOf (hvalid : q.validate = .ok ()) :
    (q.checkOf f id context key).validate = .ok () := by
  rw [Check.validate_eq_ok_iff]
  have hgiven := validate_eq_ok_iff.1 hvalid
  cases hp : q.parameters with
  | none => simp [checkOf, hp]
  | some p =>
    show (∀ v, q.parameters.bind StepParameters.acceptable = some v → v ≤ 100) ∧
      ∀ v, q.parameters.bind StepParameters.required = some v → v ≤ 100
    rw [hp]
    exact hgiven p hp

/-- **A fault of a party ends a step**: nothing is published and the store of baselines is as
before. For a fault that does not blame what was asked for the step ends well and records it in its
own words, as the only assertion.  One that blames the request is handed back with nothing recorded;
nothing is said here of a fault that blames a value. -/
theorem ends_with_party_fault (q : StepRequest) (e : Engine) (f : CheckFactory) (now : Instant)
    (id : CheckId) {context : SearchContext} {key : BaselineKey} {parties : Collaborators σ}
    {store : BaselineStore τ} {view : σ → τ} {s : Shared σ} {fault : CheckFault}
    (hover : parties.Over store view (· = ·)) (hvalid : q.validate = .ok ())
    (hcontext : q.context = some context) (hname : BaselineKey.parse q.name = .ok key)
    (hclash : ¬ q.Clashes)
    (hfails : e.PartyFails now parties s (q.checkOf f id context key) fault) :
    ∃ outcome s', (q.program e f now id).run parties s = (some outcome, s') ∧
      view s'.world = view s.world ∧ (∀ r, .published r ∉ outcome.events) ∧
      (fault.isConfiguration = false → outcome = ⟨.ok (), [.failed fault.message]⟩) ∧
      (fault.isConfiguration = true → (∀ v, fault ≠ .value v) → outcome = ⟨.error fault, []⟩) := by
  obtain ⟨s', hperform, hstore⟩ := Engine.execute_of_partyFails
    (hover.preserve_store (view s.world)) (validate_checkOf hvalid) hfails rfl
  refine ⟨Step.conclude (.error fault), s', ?_, hstore, ?_⟩
  · rw [program_of_context e f now id hvalid hcontext, check_of_not_clashes hname hclash]
    dsimp only
    rw [Step.run_conclude, hperform]
    rfl
  · by_cases hfault : fault.isConfiguration = true
    · have hback : Step.conclude (.error fault) = ⟨.error fault, []⟩ := if_pos hfault
      rw [hback]
      refine ⟨fun r => List.not_mem_nil, fun hno => ?_, fun _ _ => rfl⟩
      rw [hfault] at hno
      cases hno
    · have hrecorded : Step.conclude (.error fault) = ⟨.ok (), [.failed fault.message]⟩ :=
        if_neg hfault
      rw [hrecorded]
      refine ⟨fun r hr => ?_, fun _ => rfl, fun hyes => absurd hyes hfault⟩
      cases List.mem_singleton.1 hr

namespace PageOutOfReach

/-- A page that is captured so, or not at all, and on which no element can be found. -/
def parties (page : Except CheckFault (List Image)) (element : CheckFault) :
    Collaborators Baselines :=
  .ofStore (fun _ _ _ => page) (fun _ _ => .error element) .memory

/-- A page that is compared, with its clock left out. -/
def request : StepRequest where
  context := some ⟨"page"⟩
  action := .compare
  name := "home"
  parameters := some { acceptable := some 49 }
  configuration := some { elementIgnores := OrderedSet.ofList [.css "#clock"] }

/-- There is no baseline yet. -/
def shared : Shared Baselines := ⟨.standard, ∅⟩

/-- The page is not there any more. -/
def closed : CheckFault := .collaborator "capture provider" "page closed"

/-- What was captured is no image. -/
def unreadable : CheckFault := .value (.codec .unreadable)

/-- A page of one pixel. -/
def dot : List Image := [⟨1, 1, #[⟨1, 2, 3, 4⟩], rfl⟩]

theorem not_clashes_request : ¬ request.Clashes := by
  rintro ⟨_ | _, hconfigured, hgiven⟩
  · cases hgiven
  · cases hgiven

end PageOutOfReach

open PageOutOfReach in
/-- That the page is closed is recorded. -/
theorem ends_with_party_fault_page_closed :
    ∃ s', (request.program {} {} ⟨0, 0⟩ ⟨"1"⟩).run (parties (.error closed) unreadable) shared =
        (some ⟨.ok (), [.failed "capture provider failed: page closed"]⟩, s') ∧ s'.world = ∅ := by
  have hover : (parties (.error closed) unreadable).Over .memory id (· = ·) :=
    Collaborators.over_ofStore fun _ => rfl
  obtain ⟨plan, hplan⟩ : ∃ plan, shared.composer.planFor
      (({} : Engine).parameters (request.checkOf {} ⟨"1"⟩ ⟨"page"⟩ ⟨"home"⟩)) = .ok plan :=
    ⟨_, rfl⟩
  obtain ⟨outcome, s', hrun, hstore, -, hrecorded, -⟩ :=
    ends_with_party_fault request {} {} ⟨0, 0⟩ ⟨"1"⟩ hover rfl rfl rfl not_clashes_request
      (.capture rfl hplan rfl)
  rw [hrecorded rfl] at hrun
  exact ⟨s', hrun, hstore⟩

open PageOutOfReach in
/-- **Not every fault of a party is recorded**: that what was captured is no image, or what was
found is none of its kind, is handed back as if the request were wrong. -/
theorem party_fault_handed_back :
    ∃ captured found,
      ((request.program {} {} ⟨0, 0⟩ ⟨"1"⟩).run (parties (.error unreadable) closed) shared).1 =
        some captured ∧
      ((request.program {} {} ⟨0, 0⟩ ⟨"1"⟩).run (parties (.ok dot) unreadable) shared).1 =
        some found ∧
      captured = ⟨.error unreadable, []⟩ ∧ captured ≠ ⟨.ok (), [.failed unreadable.message]⟩ ∧
      found = ⟨.error unreadable, []⟩ ∧ found ≠ ⟨.ok (), [.failed unreadable.message]⟩ := by
  have hne : (⟨.error unreadable, []⟩ : StepOutcome) ≠ ⟨.ok (), [.failed unreadable.message]⟩ := by
    intro h
    cases congrArg StepOutcome.events h
  exact ⟨_, _, rfl, rfl, rfl, hne, rfl, hne⟩

end StepRequest

end VisualRegression
