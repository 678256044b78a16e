import VisualRegression.Proofs.Check.IgnoreSources
import VisualRegression.Proofs.Check.Labels
import VisualRegression.Proofs.Check.PartyFaults
import VisualRegression.Proofs.Check.Requests

/-!
# What a configuration leaves open

The parameters of a capture that a configuration leaves open come from the policy, and they do so in
two places: where a check is made of a configuration, and where a check without parameters is run.
With one policy in both places, a step is told by the parameters that it comes to and by what its
configuration says is to be ignored (`program_congr_configuration`), so that it may as well have no
configuration as one that repeats the policy.  Whom a check has capture the page gets the plan that
these parameters ask for (`requests_execute`).  Main statement: `defaults_agree`.
-/

namespace VisualRegression

variable {α β σ : Type}

/-- What becomes of the end of a program has no influence on what it asks. -/
theorem Program.requests_map (parties : Collaborators σ) (g : α → β) (p : Program α)
    (s : Shared σ) : (g <$> p).requests parties s = p.requests parties s := by
  change (p >>= fun a => done (g a)).requests parties s = _
  rw [requests_bind]
  rcases p.run parties s with ⟨_ | a, s'⟩ <;> exact List.append_nil _

/-- The configuration that says of a capture what the policy says. -/
def CaptureConfiguration.ofPolicy (policy : Policy) : CaptureConfiguration where
  ratio := some policy.ratio
  headerCut := some policy.headerCut
  footerCut := some policy.footerCut
  strategy := some policy.strategy

/-! ## What a check asks for -/

namespace Engine

open CheckProgram

/-- **A check that is valid asks for the plan of its parameters.**  It has the page captured by this
plan, if the ratio is valid and there is a stitcher of the name, and else asks for nothing more; and
after the capture it asks for neither a plan nor a capture again. -/
theorem requests_execute (parties : Collaborators σ) {s : Shared σ} (hc : s.composer.Coherent)
    (e : Engine) (now : Instant) {c : Check} {context : SearchContext}
    (hvalid : c.validate = .ok ()) (hcontext : c.context = some context) :
    ∃ rest, requests parties (e.execute now c) s = .plan (e.parameters c) :: rest ∧
      (¬ ((e.parameters c).ratio.isFinite = true ∧ 0 < (e.parameters c).ratio) ∨
        s.composer.stitchers.get? (e.parameters c).strategy = none → rest = []) ∧
      ∀ stitcher, (e.parameters c).ratio.isFinite = true ∧ 0 < (e.parameters c).ratio →
        s.composer.stitchers.get? (e.parameters c).strategy = some stitcher →
        ∃ plan more, Composer.ComposedOf stitcher (e.parameters c) plan ∧
          rest = .capture context plan :: more ∧
          ∀ request ∈ more, request.party ≠ .composer ∧ request.party ≠ .captureProvider := by
  rw [execute_eq_finish, hvalid, requests_bind_ok (perform_mk_pure parties s (.ok ())),
    requests_mk_pure, List.nil_append, requests_bind]
  rcases hplan : s.composer.planFor (e.parameters c) with fault | plan
  · have hplanned : perform parties (CheckProgram.plan (e.parameters c)) s =
        (some (.error (.capture fault)),
          { s with composer := (s.composer.build (e.parameters c)).2 }) := by
      rw [perform_plan_planFor, hplan]
      rfl
    rw [takeImage_eq_maskImage hcontext, perform_bind, requests_bind, hplanned]
    refine ⟨[], rfl, fun _ => rfl, fun stitcher hratio hstitcher => ?_⟩
    obtain ⟨plan, hplan', -⟩ := hc.exists_planFor hratio hstitcher
    cases hplan.symm.trans hplan'
  · obtain ⟨masking, hmasking, hparty, -⟩ := requests_takeImage parties hcontext hplan
    rw [hmasking]
    refine ⟨_, rfl, fun hnone => ?_, fun stitcher hratio hstitcher => ?_⟩
    · obtain ⟨fault, hplan', -⟩ := hc.planFor_eq_error hnone
      cases hplan.symm.trans hplan'
    · obtain ⟨plan', hplan', hcomposed⟩ := hc.exists_planFor hratio hstitcher
      cases hplan.symm.trans hplan'
      refine ⟨plan, _, hcomposed, rfl, fun request h => ?_⟩
      rcases List.mem_append.1 h with h | h
      · rcases hparty request h with h | h <;> rw [h] <;> decide
      · rcases himage : perform parties (e.takeImage c) s with ⟨_ | fault | img, s'⟩ <;>
          rw [himage] at h
        · cases h
        · cases h
        · rw [party_of_mem_requests_finish h]
          decide

end Engine

/-! ## What a step asks for -/

namespace StepRequest

variable {q : StepRequest} {e : Engine} {f : CheckFactory} {policy : Policy} {now : Instant}
  {id : CheckId} {context : SearchContext} {key : BaselineKey}

theorem check_of_not_parsed {fault : BaselineKeyFault}
    (hname : BaselineKey.parse q.name = .error fault) :
    q.check f id context = .error (.value (.baselineKey fault)) := by
  unfold check Step.prepare CheckFactory.create
  rw [hname]
  rfl

/-- Two steps take the same course if both are refused, or if their checks take the same course. -/
theorem program_congr {q' : StepRequest} (hvalid : q'.validate = q.validate)
    (hcontext : q'.context = q.context)
    (hcheck : ∀ context,
      (∃ fault, q'.check f id context = .error fault ∧ q.check f id context = .error fault) ∨
        ∃ c' c, q'.check f id context = .ok c' ∧ q.check f id context = .ok c ∧
          e.execute now c' = e.execute now c) :
    q'.program e f now id = q.program e f now id := by
  cases hv : q.validate with
  | error fault =>
    rw [program_of_not_valid e f now id hv, program_of_not_valid e f now id (hvalid.trans hv)]
  | ok =>
    cases hc : q.context with
    | none =>
      rw [program_of_no_context e f now id hv hc,
        program_of_no_context e f now id (hvalid.trans hv) (hcontext.trans hc)]
    | some context =>
      rw [program_of_context e f now id hv hc,
        program_of_context e f now id (hvalid.trans hv) (hcontext.trans hc)]
      obtain ⟨fault, hfault', hfault⟩ | ⟨c', c, hc', hc, hexecute⟩ := hcheck context
      · rw [hfault', hfault]
      · rw [hc', hc]
        dsimp only
        rw [hexecute]

section OtherConfiguration

variable {configuration : Option CaptureConfiguration}

theorem clashes_iff_of_configured
    (hignored : ∀ k, ({ q with configuration } : StepRequest).configured k = q.configured k) :
    ({ q with configuration } : StepRequest).Clashes ↔ q.Clashes := by
  refine exists_congr fun k => ?_
  unfold ClashesAt
  rw [hignored]
  rfl

/-- The check of another configuration differs in nothing but how its parameters are given. -/
theorem checkOf_of_configured
    (hignored : ∀ k, ({ q with configuration } : StepRequest).configured k = q.configured k) :
    ({ q with configuration } : StepRequest).checkOf f id context key =
      { q.checkOf f id context key with
        parameters := configuration.map fun c => c.parameters f.policy } := by
  simp only [checkOf, ignored, hignored]
  rfl

/-- **One configuration is as good as another** that ignores the same and comes to the same
parameters. -/
theorem program_congr_configuration
    (hignored : ∀ k, ({ q with configuration } : StepRequest).configured k = q.configured k)
    (hparameters : (configuration.getD {}).parameters policy =
      (q.configuration.getD {}).parameters policy) (now : Instant) (id : CheckId) :
    ({ q with configuration } : StepRequest).program ⟨policy⟩ ⟨policy⟩ now id =
      q.program ⟨policy⟩ ⟨policy⟩ now id := by
  refine program_congr rfl rfl fun context => ?_
  cases hname : BaselineKey.parse q.name with
  | error fault => exact .inl ⟨_, check_of_not_parsed hname, check_of_not_parsed hname⟩
  | ok key =>
    have hclashes := clashes_iff_of_configured hignored
    by_cases hclash : q.Clashes
    · exact .inl ⟨_, check_of_clashes hname (hclashes.2 hclash), check_of_clashes hname hclash⟩
    · refine .inr ⟨_, _, check_of_not_clashes hname (mt hclashes.1 hclash),
        check_of_not_clashes hname hclash, ?_⟩
      have hsame : (⟨policy⟩ : Engine).parameters
            (({ q with configuration } : StepRequest).checkOf ⟨policy⟩ id context key) =
          (⟨policy⟩ : Engine).parameters (q.checkOf ⟨policy⟩ id context key) := by
        rw [← parameters_checkOf fun _ => rfl, ← parameters_checkOf fun _ => rfl]
        exact hparameters
      rw [checkOf_of_configured hignored] at hsame ⊢
      exact Engine.execute_congr_parameters hsame

end OtherConfiguration

/-- A step that has its check asks what the check asks. -/
theorem requests_program (parties : Collaborators σ) (s : Shared σ)
    (hvalid : q.validate = .ok ()) (hcontext : q.context = some context)
    (hname : BaselineKey.parse q.name = .ok key) (hclash : ¬ q.Clashes) :
    (q.program e f now id).requests parties s =
      CheckProgram.requests parties (e.execute now (q.checkOf f id context key)) s := by
  rw [program_of_not_clashes e f now id hvalid hcontext hname hclash]
  exact Program.requests_map parties Step.conclude _ s

/-- A configuration that says what to ignore of nothing, and of a capture nothing or what the policy
says, comes to the parameters of the policy. -/
theorem parameters_of_default {configuration : Option CaptureConfiguration}
    (h : configuration ∈ [none, some {}, some (.ofPolicy policy)]) :
    (∀ k, (configuration.map fun c => c.ignored k).getD ∅ = ∅) ∧
      (configuration.getD {}).parameters policy = policy.parameters := by
  simp only [List.mem_cons, List.not_mem_nil, or_false] at h
  rcases h with rfl | rfl | rfl
  all_goals exact ⟨fun k => by cases k <;> rfl, rfl⟩

/-- **Where a policy fills in what is left open, and where a check falls back on it, they agree.**
Whatever the composer was asked for before, a step asks the same of everybody, comes to the same and
leaves the same state, but for the labels of its result, without a configuration, with one that sets
nothing and with one that repeats the policy.  With any other configuration each of the four
parameters is what the configuration sets, or else what the policy does, whatever becomes of the
others: this is the plan that a step asks for, and no other, and the one by which the page is
captured. -/
theorem defaults_agree (q : StepRequest) (policy : Policy) (parties : Collaborators σ)
    (calls : List ComposerCall) (w : σ) (now now' : Instant) (id id' : CheckId) :
    let s : Shared σ := ⟨Composer.standard.afterAll calls, w⟩
    (∀ configuration ∈ [none, some {}, some (CaptureConfiguration.ofPolicy policy)],
      let unset := ({ q with configuration := none } : StepRequest).program ⟨policy⟩ ⟨policy⟩ now id
      let stated := ({ q with configuration } : StepRequest).program ⟨policy⟩ ⟨policy⟩ now' id'
      stated.requests parties s = unset.requests parties s ∧
      stated.run parties s =
        ((unset.run parties s).1.map (StepOutcome.relabel now' fun _ => id'),
          (unset.run parties s).2)) ∧
    ∀ c context key, q.configuration = some c → q.validate = .ok () → q.context = some context →
      BaselineKey.parse q.name = .ok key → ¬ q.Clashes →
      ∃ p rest, (q.program ⟨policy⟩ ⟨policy⟩ now id).requests parties s = .plan p :: rest ∧
        p.ratio = c.ratio.getD policy.ratio ∧
        p.headerCut = c.headerCut.getD policy.headerCut ∧
        p.footerCut = c.footerCut.getD policy.footerCut ∧
        p.strategy = c.strategy.getD policy.strategy ∧
        (¬ (p.ratio.isFinite = true ∧ 0 < p.ratio) ∨
          s.composer.stitchers.get? p.strategy = none → rest = []) ∧
        ∀ stitcher, p.ratio.isFinite = true ∧ 0 < p.ratio →
          s.composer.stitchers.get? p.strategy = some stitcher →
          ∃ plan more, Composer.ComposedOf stitcher p plan ∧ rest = .capture context plan :: more ∧
            ∀ request ∈ more, request.party ≠ .composer ∧ request.party ≠ .captureProvider := by
  intro s
  constructor
  · intro configuration hconfiguration
    obtain ⟨hignored, hparameters⟩ := parameters_of_default hconfiguration
    have hsame : ∀ now id,
        ({ q with configuration } : StepRequest).program ⟨policy⟩ ⟨policy⟩ now id =
          ({ q with configuration := none } : StepRequest).program ⟨policy⟩ ⟨policy⟩ now id :=
      program_congr_configuration (q := { q with configuration := none }) hignored hparameters
    dsimp only
    rw [hsame, program_relabel now now' id fun _ => id']
    exact ⟨Program.requests_map parties _ _ s, Program.run_map parties _ _ s⟩
  · intro c context key hconfiguration hvalid hcontext hname hclash
    have hcoherent : s.composer.Coherent := Composer.coherent_standard.afterAll calls
    let check := q.checkOf ⟨policy⟩ id context key
    have hparameters : (⟨policy⟩ : Engine).parameters check = c.parameters policy := by
      rw [← parameters_checkOf fun _ => rfl, hconfiguration]
      rfl
    have hrequests := Engine.requests_execute parties hcoherent ⟨policy⟩ now (c := check)
      (validate_checkOf hvalid) rfl
    rw [hparameters, ← requests_program parties s hvalid hcontext hname hclash] at hrequests
    obtain ⟨rest, hplanned, hcaptured⟩ := hrequests
    exact ⟨c.parameters policy, rest, hplanned, rfl, rfl, rfl, rfl, hcaptured⟩

end StepRequest

namespace HalfSet

/-- A policy with a ratio and a cut. -/
def policy : Policy := { ratio := 2, footerCut := 5 }

/-- A step with a configuration that asks for the whole page and says no more. -/
def request : StepRequest :=
  { OneOfTwo.request with configuration := some { strategy := some fullPageName } }

theorem not_clashes_request : ¬ request.Clashes := by
  rintro ⟨_ | _, hconfigured, -⟩ <;> cases hconfigured

end HalfSet

open HalfSet Engine.HalfDiffers in
/-- Without its configuration the step ends as with an empty one.  With it, the whole page is
captured, and the ratio and the cut are those of the policy. -/
theorem StepRequest.defaults_agree_half_set :
    ((({ request with configuration := some {} } : StepRequest).program ⟨policy⟩ ⟨policy⟩ ⟨9, 0⟩
        ⟨"2"⟩).run parties shared).1 =
      ((({ request with configuration := none } : StepRequest).program ⟨policy⟩ ⟨policy⟩ ⟨0, 0⟩
        ⟨"1"⟩).run parties shared).1.map (StepOutcome.relabel ⟨9, 0⟩ fun _ => ⟨"2"⟩) ∧
    ∃ p plan more, (request.program ⟨policy⟩ ⟨policy⟩ ⟨0, 0⟩ ⟨"1"⟩).requests parties shared =
        .plan p :: .capture ⟨"page"⟩ plan :: more ∧
      plan.stitcher = .fullPage ∧ plan.ratio = 2 ∧ plan.cut = ⟨0, 5⟩ := by
  obtain ⟨hdefault, hset⟩ := defaults_agree request policy parties [] shared.world ⟨0, 0⟩ ⟨9, 0⟩
    ⟨"1"⟩ ⟨"2"⟩
  obtain ⟨key, hname⟩ : ∃ key, BaselineKey.parse request.name = .ok key := ⟨_, rfl⟩
  obtain ⟨p, rest, hrequests, hratio, hheader, hfooter, hstrategy, -, hcaptured⟩ :=
    hset _ ⟨"page"⟩ key rfl rfl rfl hname not_clashes_request
  have hvalid : p.ratio.isFinite = true ∧ 0 < p.ratio := by
    rw [hratio]
    decide
  obtain ⟨plan, more, hcomposed, rfl, -⟩ := hcaptured .fullPage hvalid (by rw [hstrategy]; rfl)
  refine ⟨congrArg Prod.fst (hdefault (some {}) (by simp)).2, p, plan, more, hrequests,
    hcomposed.stitcher, hcomposed.ratio.trans hratio, ?_⟩
  rw [hcomposed.cut, hheader, hfooter]
  rfl

end VisualRegression
