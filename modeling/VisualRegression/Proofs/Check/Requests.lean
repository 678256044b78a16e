import VisualRegression.Proofs.Capture.Coherence
import VisualRegression.Proofs.Check.Lookups

/-!
# Whom a check asks, and when

`Program.requests` lists what a run asks of others, in order.  A check that is misconfigured
(`Engine.Misconfigured`) comes to its fault before anything is asked but for the plan.  Any other
check asks for a plan, has the page captured, looks up what it is to ignore and shows its image on
the way, and only then turns to the store (`requests_takeImage`, `party_of_mem_requests_finish`).
Main statement: `execute_in_order`.
-/

namespace VisualRegression

variable {α β σ : Type}

/-- Whom a check may ask. -/
inductive Party where
  | composer
  | captureProvider
  | resolver
  /-- Takes note of images on the way. -/
  | observer
  | store
deriving DecidableEq, Repr

/-- What a check asks of others. -/
inductive Request where
  | plan (p : CaptureParameters)
  | capture (context : SearchContext) (plan : CapturePlan)
  | resolve (context : SearchContext) (locator : Locator)
  | present (s : Snapshot)
  | load (key : BaselineKey)
  | save (key : BaselineKey) (img : Image)

/-- Who is asked. -/
def Request.party : Request → Party
  | plan _ => .composer
  | capture _ _ => .captureProvider
  | resolve _ _ => .resolver
  | present _ => .observer
  | load _ | save _ _ => .store

/-! ## The requests of a course -/

namespace Program

/-- The requests of a run, in their order; one that a party breaks off at is the last. -/
def requests (parties : Collaborators σ) : Program α → Shared σ → List Request
  | done _, _ => []
  | plan q next, s =>
    .plan q :: (next (s.composer.planFor q)).requests parties
      { s with composer := (s.composer.build q).2 }
  | capture context q next, s =>
    .capture context q :: match parties.capture context q s.world with
      | (some answer, world) => (next answer).requests parties { s with world }
      | (none, _) => []
  | resolve context locator next, s =>
    .resolve context locator :: match parties.resolve context locator s.world with
      | (some answer, world) => (next answer).requests parties { s with world }
      | (none, _) => []
  | present snapshot next, s =>
    .present snapshot :: match parties.observe snapshot s.world with
      | (some (), world) => next.requests parties { s with world }
      | (none, _) => []
  | load key next, s =>
    .load key :: (next (parties.load key s.world).1).requests parties
      { s with world := (parties.load key s.world).2 }
  | save key img next, s =>
    .save key img :: (next (parties.save key img s.world).1).requests parties
      { s with world := (parties.save key img s.world).2 }

/-- A course asks what its first part does and then, unless a party broke off there, what its second
part does. -/
theorem requests_bind (parties : Collaborators σ) (p : Program α) (f : α → Program β)
    (s : Shared σ) :
    (p >>= f).requests parties s = p.requests parties s ++
      match p.run parties s with
      | (some a, s') => (f a).requests parties s'
      | (none, _) => [] := by
  change (p.bind f).requests parties s = _
  induction p generalizing s with
  | done a => rfl
  | plan q next ih => exact congrArg (_ :: ·) (ih _ _)
  | capture context q next ih =>
    simp only [bind, requests, run]
    rcases parties.capture context q s.world with ⟨_ | answer, world⟩
    · rfl
    · exact congrArg (_ :: ·) (ih _ _)
  | resolve context locator next ih =>
    simp only [bind, requests, run]
    rcases parties.resolve context locator s.world with ⟨_ | answer, world⟩
    · rfl
    · exact congrArg (_ :: ·) (ih _ _)
  | present snapshot next ih =>
    simp only [bind, requests, run]
    rcases parties.observe snapshot s.world with ⟨_ | ⟨⟩, world⟩
    · rfl
    · exact congrArg (_ :: ·) (ih _)
  | load key next ih => exact congrArg (_ :: ·) (ih _ _)
  | save key img next ih => exact congrArg (_ :: ·) (ih _ _)

end Program

namespace CheckProgram

/-- The requests of a course. -/
def requests (parties : Collaborators σ) (x : CheckProgram α) (s : Shared σ) : List Request :=
  Program.requests parties x.run s

variable {parties : Collaborators σ} {s s' : Shared σ} {a : α} {request : Request}

theorem requests_bind (x : CheckProgram α) (f : α → CheckProgram β) :
    requests parties (x >>= f) s = requests parties x s ++
      match perform parties x s with
      | (some (.ok a), s') => requests parties (f a) s'
      | _ => [] := by
  change Program.requests parties (x.run >>= ExceptT.bindCont f) s = _
  rw [Program.requests_bind]
  unfold perform requests
  rcases Program.run parties x.run s with ⟨_ | _ | a, s'⟩ <;> rfl

theorem requests_bind_ok {x : CheckProgram α} {f : α → CheckProgram β}
    (h : perform parties x s = (some (.ok a), s')) :
    requests parties (x >>= f) s = requests parties x s ++ requests parties (f a) s' := by
  rw [requests_bind, h]

/-- What is asked in a course is asked in one of its parts. -/
theorem mem_requests_bind {x : CheckProgram α} {f : α → CheckProgram β}
    (h : request ∈ requests parties (x >>= f) s) :
    request ∈ requests parties x s ∨ ∃ a s', request ∈ requests parties (f a) s' := by
  rw [requests_bind] at h
  rcases List.mem_append.1 h with h | h
  · exact .inl h
  · rcases hx : perform parties x s with ⟨_ | _ | a, s'⟩ <;> rw [hx] at h
    · cases h
    · cases h
    · exact .inr ⟨a, s', h⟩

theorem mem_requests_foldlM {f : β → α → CheckProgram β} {l : List α} {b : β}
    (h : request ∈ requests parties (l.foldlM f b) s) :
    ∃ b a s, request ∈ requests parties (f b a) s := by
  induction l generalizing b s with
  | nil => cases h
  | cons a l ih =>
    rw [List.foldlM_cons] at h
    rcases mem_requests_bind h with h | ⟨b', s', h⟩
    · exact ⟨b, a, s, h⟩
    · exact ih h

@[simp]
theorem requests_mk_pure (outcome : Except CheckFault α) :
    requests parties (ExceptT.mk (pure outcome)) s = [] :=
  rfl

theorem requests_capture (context : SearchContext) (plan : CapturePlan) :
    requests parties (capture context plan) s = [.capture context plan] := by
  unfold requests
  change Program.requests parties (.capture context plan .done) s = _
  rw [Program.requests]
  rcases parties.capture context plan s.world with ⟨_ | answer, world⟩ <;> rfl

theorem requests_resolve (context : SearchContext) (locator : Locator) :
    requests parties (resolve context locator) s = [.resolve context locator] := by
  unfold requests
  change Program.requests parties (.resolve context locator .done) s = _
  rw [Program.requests]
  rcases parties.resolve context locator s.world with ⟨_ | answer, world⟩ <;> rfl

theorem requests_present (snapshot : Snapshot) :
    requests parties (present snapshot) s = [.present snapshot] := by
  unfold requests
  change Program.requests parties (.present snapshot (.done (Except.ok ()))) s = _
  rw [Program.requests]
  rcases parties.observe snapshot s.world with ⟨_ | ⟨⟩, world⟩ <;> rfl

end CheckProgram

/-! ## The requests of a check -/

namespace Engine

open CheckProgram

variable {parties : Collaborators σ} {s s' : Shared σ} {context : SearchContext}
  {locators : LocatorMap} {request : Request} {e : Engine} {now : Instant} {c : Check}

/-- To find what is to be ignored, only the resolver is asked. -/
theorem party_of_mem_requests_resolveIgnores
    (h : request ∈ requests parties (resolveIgnores context locators) s) :
    request.party = .resolver := by
  have one : ∀ found locator s, request ∈ requests parties (resolveOne context found locator) s →
      request.party = .resolver := by
    intro found locator s h
    cases locator with
    | area r => cases h
    | css _ | xpath _ =>
      rcases mem_requests_bind h with h | ⟨_, _, h⟩
      · rw [requests_resolve, List.mem_singleton] at h
        rw [h]
        rfl
      · cases h
  have kind : ∀ set s, request ∈ requests parties (resolveKind context set) s →
      request.party = .resolver := by
    intro set s h
    cases set with
    | none => cases h
    | some locators =>
      rcases mem_requests_bind h with h | ⟨_, _, h⟩
      · obtain ⟨found, locator, s, h⟩ := mem_requests_foldlM h
        exact one found locator s h
      · cases h
  rcases mem_requests_bind h with h | ⟨_, _, h⟩
  · exact kind _ _ h
  · rcases mem_requests_bind h with h | ⟨_, _, h⟩
    · exact kind _ _ h
    · cases h

theorem party_of_mem_requests_presentAll {snapshots : List Snapshot}
    (h : request ∈ requests parties (presentAll snapshots) s) : request.party = .observer := by
  induction snapshots generalizing s with
  | nil => cases h
  | cons snapshot rest ih =>
    rcases mem_requests_bind h with h | ⟨_, _, h⟩
    · rw [requests_present, List.mem_singleton] at h
      rw [h]
      rfl
    · exact ih h

/-- Once the tiles are put together, the resolver is asked and images are shown. -/
theorem party_of_mem_requests_maskImage {topAdjustment : Int32} {img : Image}
    (h : request ∈ requests parties (e.maskImage context locators topAdjustment img) s) :
    request.party = .resolver ∨ request.party = .observer := by
  rcases mem_requests_bind h with h | ⟨_, _, h⟩
  · exact .inl (party_of_mem_requests_resolveIgnores h)
  · rcases mem_requests_bind h with h | ⟨_, _, h⟩
    · exact .inr (party_of_mem_requests_presentAll h)
    · cases h

/-- **Once the image is taken, only the store is asked.** -/
theorem party_of_mem_requests_finish {img : Image}
    (h : request ∈ requests parties (e.finish now c img) s) : request.party = .store := by
  unfold finish at h
  split at h
  · rcases mem_requests_bind h with h | ⟨_, _, h⟩
    · rw [List.mem_singleton.1 h]
      rfl
    · rcases mem_requests_bind h with h | ⟨_, _, h⟩
      · rw [List.mem_singleton.1 h]
        rfl
      · cases h
  · rcases mem_requests_bind h with h | ⟨found, _, h⟩
    · rw [List.mem_singleton.1 h]
      rfl
    · rcases found with _ | baseline <;> cases h

variable (parties) in
/-- **To take an image**, a plan is asked for and then the page captured; what is asked after that
comes once the tiles are put together, and is to find what is ignored or to show images. -/
theorem requests_takeImage {plan : CapturePlan} (hcontext : c.context = some context)
    (hplan : s.composer.planFor (e.parameters c) = .ok plan) :
    ∃ masking, requests parties (e.takeImage c) s =
        .plan (e.parameters c) :: .capture context plan :: masking ∧
      (∀ request ∈ masking, request.party = .resolver ∨ request.party = .observer) ∧
      (masking ≠ [] → ∃ img, parties.Captures context plan s.world img) := by
  have hplanned : perform parties (CheckProgram.plan (e.parameters c)) s =
      (some (.ok plan), { s with composer := (s.composer.build (e.parameters c)).2 }) := by
    rw [perform_plan_planFor, mapError_eq_ok.2 hplan]
  rw [takeImage_eq_maskImage hcontext, requests_bind_ok hplanned, requests_bind, requests_capture,
    perform_capture]
  refine ⟨_, rfl, ?_, ?_⟩
  all_goals
    rcases hcapture : parties.capture context plan s.world with ⟨_ | fault | tiles, world⟩
  · exact fun _ h => (by cases h)
  · exact fun _ h => (by cases h)
  · intro request h
    rcases mem_requests_bind h with h | ⟨_, _, h⟩
    · cases h
    · exact party_of_mem_requests_maskImage h
  · exact fun h => absurd rfl h
  · exact fun h => absurd rfl h
  · intro h
    dsimp only at h
    rw [requests_bind, perform_mk_pure] at h
    rcases himg : plan.assemble tiles with fault | img
    · rw [himg] at h
      exact absurd rfl h
    · exact ⟨img, tiles, congrArg Prod.fst hcapture, himg⟩

end Engine

/-! ## Misconfigured checks -/

/-- Whatever is wrong with the percentages of a check lies in the request. -/
theorem Check.isConfiguration_of_validate {c : Check} {fault : CheckFault}
    (h : c.validate = .error fault) : fault.isConfiguration = true := by
  have one : ∀ {role : PercentageRole} {p : Option UInt8}, checkPercentage role p = .error fault →
      fault.isConfiguration = true := by
    intro role p hp
    unfold checkPercentage at hp
    split at hp
    · split at hp
      · cases hp
        rfl
      · cases hp
    · cases hp
  rcases bind_eq_error.1 h with ha | ⟨_, -, hr⟩
  · exact one ha
  · exact one hr

namespace Engine

open CheckProgram

section Order

variable {parties : Collaborators σ} {s s' : Shared σ} {context : SearchContext}
  {request : Request} {e : Engine} {now : Instant} {c : Check}

/-- **A check is misconfigured**, given the stitchers that there are: a percentage is above one
hundred, there is no page to look at, or the capture has a ratio that is not finite and positive or
asks for a strategy that nobody registered. -/
inductive Misconfigured (e : Engine) (c : Check) (composer : Composer) : Prop
  | percentage {value : UInt8} (hgiven : c.acceptable = some value ∨ c.required = some value)
      (hvalue : 100 < value) : Misconfigured e c composer
  | context (hnone : c.context = none) : Misconfigured e c composer
  | ratio (hratio : ¬ ((e.parameters c).ratio.isFinite = true ∧ 0 < (e.parameters c).ratio)) :
      Misconfigured e c composer
  | strategy (hnone : composer.stitchers.get? (e.parameters c).strategy = none) :
      Misconfigured e c composer

theorem validate_of_not_misconfigured {composer : Composer}
    (h : ¬ e.Misconfigured c composer) : c.validate = .ok () := by
  refine Check.validate_eq_ok_iff.2 ⟨fun v hv => ?_, fun v hv => ?_⟩
  · exact UInt8.not_lt.1 fun hlt => h (.percentage (.inl hv) hlt)
  · exact UInt8.not_lt.1 fun hlt => h (.percentage (.inr hv) hlt)

/-- A check that is not misconfigured has a page and gets a plan. -/
theorem exists_plan_of_not_misconfigured {composer : Composer} (hc : composer.Coherent)
    (h : ¬ e.Misconfigured c composer) :
    ∃ context plan, c.context = some context ∧
      composer.planFor (e.parameters c) = .ok plan := by
  obtain ⟨context, hcontext⟩ := Option.ne_none_iff_exists'.1 fun hnone => h (.context hnone)
  obtain ⟨stitcher, hstitcher⟩ :=
    Option.ne_none_iff_exists'.1 fun hnone => h (.strategy hnone)
  obtain ⟨plan, hplan, -⟩ := hc.exists_planFor
    (Classical.not_not.1 fun hratio => h (.ratio hratio)) hstitcher
  exact ⟨context, plan, hcontext, hplan⟩

/-- A check that is misconfigured though its percentages are not gets no plan, if it has a page. -/
theorem planFor_of_misconfigured {composer : Composer} (hc : composer.Coherent)
    (h : e.Misconfigured c composer) (hvalid : c.validate = .ok ())
    (hcontext : c.context = some context) :
    ∃ fault, composer.planFor (e.parameters c) = .error fault ∧ fault.isConfiguration = true := by
  cases h with
  | percentage hgiven hvalue =>
    obtain ⟨ha, hr⟩ := Check.validate_eq_ok_iff.1 hvalid
    rcases hgiven with hgiven | hgiven
    · exact absurd hvalue (UInt8.not_lt.2 (ha _ hgiven))
    · exact absurd hvalue (UInt8.not_lt.2 (hr _ hgiven))
  | context hnone =>
    rw [hnone] at hcontext
    cases hcontext
  | ratio hnot => exact hc.planFor_eq_error (.inl hnot)
  | strategy hnone => exact hc.planFor_eq_error (.inr hnone)

/-- **A misconfigured check is refused** before anybody but the composer is asked. -/
theorem refused_of_misconfigured (hc : s.composer.Coherent)
    (h : e.Misconfigured c s.composer) :
    ∃ fault s', perform parties (e.execute now c) s = (some (.error fault), s') ∧
      fault.isConfiguration = true ∧ s'.world = s.world ∧
      ∀ request ∈ requests parties (e.execute now c) s, request.party = .composer := by
  rw [execute_eq_finish, perform_bind, requests_bind, perform_mk_pure]
  rcases hvalid : c.validate with fault | ⟨⟩
  · exact ⟨fault, s, rfl, Check.isConfiguration_of_validate hvalid, rfl, fun _ h => (by cases h)⟩
  · dsimp only
    rw [perform_bind, requests_bind]
    rcases hcontext : c.context with _ | context
    · rw [takeImage_of_none hcontext]
      exact ⟨_, s, rfl, rfl, rfl, fun _ h => (by cases h)⟩
    · obtain ⟨fault, hplan, hfault⟩ := planFor_of_misconfigured hc h hvalid hcontext
      have hplanned : perform parties (CheckProgram.plan (e.parameters c)) s =
          (some (.error (.capture fault)),
            { s with composer := (s.composer.build (e.parameters c)).2 }) := by
        rw [perform_plan_planFor, hplan]
        rfl
      rw [takeImage_eq_maskImage hcontext, perform_bind, requests_bind, hplanned]
      refine ⟨_, _, rfl, hfault, rfl, fun request h => ?_⟩
      rw [List.mem_singleton.1 h]
      rfl

/-- **What is wrong with a check is found before anything else happens.**  Whatever the composer was
asked for before, a misconfigured check ends with a fault of its configuration, and neither who
captures nor the resolver nor the store is asked.  Any other check has its page captured once, right
after its plan is known; then the resolver is asked, if the tiles go together, and the store is
asked last. -/
theorem execute_in_order (e : Engine) (now : Instant) (c : Check) (parties : Collaborators σ)
    (calls : List ComposerCall) (w : σ) :
    let s : Shared σ := ⟨Composer.standard.afterAll calls, w⟩
    (e.Misconfigured c s.composer →
      ∃ fault s', perform parties (e.execute now c) s = (some (.error fault), s') ∧
        fault.isConfiguration = true ∧ s'.world = w ∧
        ∀ request ∈ requests parties (e.execute now c) s, request.party = .composer) ∧
    (¬ e.Misconfigured c s.composer →
      ∃ context plan masking accesses, c.context = some context ∧
        s.composer.buildAnew (e.parameters c) = .ok plan ∧
        requests parties (e.execute now c) s =
          .plan (e.parameters c) :: .capture context plan :: (masking ++ accesses) ∧
        (∀ request ∈ masking, request.party = .resolver ∨ request.party = .observer) ∧
        (∀ request ∈ accesses, request.party = .store) ∧
        (masking ++ accesses ≠ [] → ∃ img, parties.Captures context plan w img)) := by
  intro s
  have hc : s.composer.Coherent := Composer.coherent_standard.afterAll calls
  refine ⟨refused_of_misconfigured hc, fun h => ?_⟩
  obtain ⟨context, plan, hcontext, hplan⟩ := exists_plan_of_not_misconfigured hc h
  obtain ⟨masking, hmasking, hparty, hassembled⟩ :=
    requests_takeImage parties hcontext hplan
  rw [execute_eq_finish, validate_of_not_misconfigured h,
    requests_bind_ok (perform_mk_pure parties s (.ok ())), requests_mk_pure, List.nil_append,
    requests_bind, hmasking]
  refine ⟨context, plan, masking, _, hcontext, (hc.plan_build _).symm.trans hplan, rfl, hparty,
    ?_, ?_⟩
  all_goals
    rcases himage : perform parties (e.takeImage c) s with ⟨_ | fault | img, s'⟩
  · exact fun _ h => (by cases h)
  · exact fun _ h => (by cases h)
  · exact fun _ h => party_of_mem_requests_finish h
  · rw [List.append_nil]
    exact hassembled
  · rw [List.append_nil]
    exact hassembled
  · -- an image that was taken was put together
    intro _
    obtain ⟨context', plan', img', hcontext', hplan', hcaptures⟩ := captures_of_takeImage himage
    cases hcontext.symm.trans hcontext'
    cases hplan.symm.trans hplan'
    exact ⟨img', hcaptures⟩

end Order

namespace Accepted

/-- A page of one pixel on which no element can be looked up, next to a store in memory. -/
def parties : Collaborators Baselines :=
  .ofStore (fun _ _ _ => .ok [⟨1, 1, #[⟨7, 7, 7, 255⟩], rfl⟩])
    (fun _ locator => locator.resolveAsArea) .memory

/-- A stitcher takes the place of the one that the check names, after that one was asked for. -/
def calls : List ComposerCall :=
  [.build {}, .register ⟨viewportName, false, fun tiles => Stitcher.firstTile tiles.reverse⟩]

def check : Check where
  id := ⟨"1"⟩
  baseline := ⟨"home"⟩
  action := .compare
  acceptable := some 100
  ignores := ⟨some (.ofList [.css "#clock"]), none⟩
  context := some ⟨"page"⟩

theorem not_misconfigured_check :
    ¬ ({} : Engine).Misconfigured check (Composer.standard.afterAll calls) := by
  rintro (⟨h | h, hvalue⟩ | h | h | h)
  · cases h
    exact absurd hvalue (by decide)
  · cases h
  · cases h
  · exact h (by decide)
  · cases h

end Accepted

open Accepted in
/-- With one percent more the check is refused, and so is one for a stitcher that is not there.  As
it stands, the page is captured and no image is loaded before that. -/
theorem execute_in_order_accepted :
    (∃ fault s', perform parties (({} : Engine).execute ⟨0, 0⟩
        { check with acceptable := some 101 }) ⟨Composer.standard.afterAll calls, ∅⟩ =
          (some (.error fault), s') ∧ fault.isConfiguration = true ∧ s'.world = ∅) ∧
    (∀ request ∈ requests parties (({} : Engine).execute ⟨0, 0⟩
        { check with parameters := some { strategy := "mosaic" } })
          ⟨Composer.standard.afterAll calls, ∅⟩, request.party = .composer) ∧
    ∃ plan rest, requests parties (({} : Engine).execute ⟨0, 0⟩ check)
        ⟨Composer.standard.afterAll calls, ∅⟩ =
          .plan (({} : Engine).parameters check) :: .capture ⟨"page"⟩ plan :: rest := by
  obtain ⟨fault, s', hrefused, hfault, hworld, -⟩ := (execute_in_order {} ⟨0, 0⟩
    { check with acceptable := some 101 } parties calls ∅).1 (.percentage (.inl rfl) (by decide))
  obtain ⟨-, -, -, -, -, hmosaic⟩ := (execute_in_order {} ⟨0, 0⟩
    { check with parameters := some { strategy := "mosaic" } } parties calls ∅).1 (.strategy rfl)
  obtain ⟨context, plan, masking, accesses, hcontext, -, hrequests, -⟩ :=
    (execute_in_order {} ⟨0, 0⟩ check parties calls ∅).2 not_misconfigured_check
  cases hcontext
  exact ⟨⟨fault, s', hrefused, hfault, hworld⟩, hmosaic, plan, _, hrequests⟩

end Engine

end VisualRegression
