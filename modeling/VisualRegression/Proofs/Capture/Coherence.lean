import VisualRegression.Proofs.Capture.Composer
import VisualRegression.Proofs.Failing

/-!
# Plans from a cache are plans composed anew

A composer is asked to register stitchers, to build plans and to clear its cache, in any order.
What one build can do is said once, by `Composer.Builds`.  Each call keeps the cache coherent
(`Coherent.after`): an entry is the plan that its parameters get when it is composed anew, and no
two entries come from one build.  A plan that was answered is `Cached` until the cache is emptied,
and from then on it is `Retired`.  What all this comes to for every build after any calls is
`build_after_calls`.
-/

namespace VisualRegression

/-- What a composer is asked to do. -/
inductive ComposerCall where
  | register (s : Stitcher)
  | build (p : CaptureParameters)
  | clearCache

namespace ComposerCall

/-- The call builds a plan, so that it neither registers a stitcher nor clears the cache. -/
def IsBuild : ComposerCall → Prop
  | build _ => True
  | _ => False

/-- The stitcher that a call registers under a name. -/
def registered? (name : String) : ComposerCall → Option Stitcher
  | register s => if s.name = name then some s else none
  | _ => none

/-- The stitcher that the latest of some calls registers under a name. -/
def latest? (name : String) (calls : List ComposerCall) : Option Stitcher :=
  calls.reverse.findSome? (registered? name)

theorem latest?_cons (name : String) (call : ComposerCall) (calls : List ComposerCall) :
    latest? name (call :: calls) = (latest? name calls).or (call.registered? name) := by
  unfold latest?
  rw [List.reverse_cons, List.findSome?_append, List.findSome?_singleton]

end ComposerCall

/-- The stitcher that is there from the beginning under a name. -/
def Stitcher.builtIn? (name : String) : Option Stitcher :=
  if name = fullPageName then some fullPage
  else if name = viewportName then some viewport
  else none

namespace Composer

variable {c : Composer} {p q : CaptureParameters} {key other : PlanKey} {plan : CachedPlan}
  {answer : Except CaptureFault CachedPlan} {c' : Composer} {call : ComposerCall}

/-- The composer after a call. -/
def after (c : Composer) : ComposerCall → Composer
  | .register s => c.register s
  | .build p => (c.build p).2
  | .clearCache => c.clearCache

/-- The composer after calls made one after the other. -/
def afterAll (c : Composer) (calls : List ComposerCall) : Composer := calls.foldl after c

/-- The plan that parameters ask for, without a cache: the ratio is checked and then the plan is
composed of the stitcher that is registered now. -/
def buildAnew (c : Composer) (p : CaptureParameters) : Except CaptureFault CapturePlan := do
  p.validate
  c.compose p

/-! ## One build -/

/-- **What a build can do**: it answers, and leaves a composer. -/
inductive Builds (c : Composer) (p : CaptureParameters) :
    Except CaptureFault CachedPlan → Composer → Prop
  /-- The ratio is not valid, and nothing is touched. -/
  | refused {fault : CaptureFault} (hvalid : p.validate = .error fault) :
      Builds c p (.error fault) c
  /-- The plan is there. -/
  | found {plan : CachedPlan} (hvalid : p.validate = .ok ())
      (hfound : c.cache.entries.get? (.ofParameters p) = some plan) :
      Builds c p (.ok plan) { c with cache := { c.cache with hits := c.cache.hits + 1 } }
  /-- The plan is not there and cannot be composed. -/
  | failed {fault : CaptureFault} (hvalid : p.validate = .ok ())
      (hnone : c.cache.entries.get? (.ofParameters p) = none)
      (hcompose : c.compose p = .error fault) :
      Builds c p (.error fault) { c with cache := { c.cache with misses := c.cache.misses + 1 } }
  /-- The plan is not there; it is composed, numbered and kept. -/
  | made {plan : CapturePlan} (hvalid : p.validate = .ok ())
      (hnone : c.cache.entries.get? (.ofParameters p) = none) (hcompose : c.compose p = .ok plan) :
      Builds c p (.ok ⟨c.cache.misses + 1, plan⟩)
        { c with cache := { c.cache with
          misses := c.cache.misses + 1
          entries := c.cache.entries.insert (.ofParameters p) ⟨c.cache.misses + 1, plan⟩ } }

theorem builds_build (c : Composer) (p : CaptureParameters) :
    c.Builds p (c.build p).1 (c.build p).2 := by
  unfold build
  cases hvalid : p.validate with
  | error fault => exact .refused hvalid
  | ok =>
    unfold PlanCache.lookup
    cases hentry : c.cache.entries.get? (.ofParameters p) with
    | some found => exact .found hvalid hentry
    | none =>
      cases hcompose : c.compose p with
      | error fault => exact .failed hvalid hentry hcompose
      | ok plan => exact .made hvalid hentry hcompose

/-- A build registers nothing. -/
theorem Builds.stitchers_eq (h : c.Builds p answer c') : c'.stitchers = c.stitchers := by
  cases h <;> rfl

/-- A plan that is in the cache stays there. -/
theorem Builds.get?_of_some (h : c.Builds p answer c')
    (hcached : c.cache.entries.get? key = some plan) : c'.cache.entries.get? key = some plan := by
  cases h with
  | refused | found | failed => exact hcached
  | made hvalid hnone hcompose =>
    have hne : key ≠ .ofParameters p := by
      rintro rfl
      rw [hnone] at hcached
      cases hcached
    exact (OrderedMap.get?_insert_of_ne _ _ hne).trans hcached

/-- A plan that is in the cache after a build was there before, or this build made it. -/
theorem Builds.get?_eq_some (h : c.Builds p answer c')
    (hcached : c'.cache.entries.get? key = some plan) :
    c.cache.entries.get? key = some plan ∨
      key = .ofParameters p ∧ c.compose p = .ok plan.plan ∧ plan.serial = c.cache.misses + 1 ∧
        c'.cache.misses = c.cache.misses + 1 := by
  cases h with
  | refused | found | failed => exact .inl hcached
  | made hvalid hnone hcompose =>
    by_cases hkey : key = .ofParameters p
    · rw [hkey, OrderedMap.get?_insert_self] at hcached
      cases hcached
      exact .inr ⟨hkey, hcompose, rfl, rfl⟩
    · exact .inl ((OrderedMap.get?_insert_of_ne _ _ hkey).symm.trans hcached)

/-- Builds that come to nothing are counted too, so that no number is given twice. -/
theorem Builds.misses_le (h : c.Builds p answer c') : c.cache.misses ≤ c'.cache.misses := by
  cases h with
  | refused | found => exact Nat.le_refl _
  | failed | made => exact Nat.le_succ _

/-! ## The stitchers that are registered -/

theorem get?_stitchers_after (name : String) (c : Composer) (call : ComposerCall) :
    (c.after call).stitchers.get? name = (call.registered? name).or (c.stitchers.get? name) := by
  cases call with
  | register s =>
    change (c.stitchers.insert s.name s).get? name =
      (if s.name = name then some s else none).or (c.stitchers.get? name)
    by_cases hname : s.name = name
    · rw [if_pos hname, ← hname, OrderedMap.get?_insert_self]
      rfl
    · rw [if_neg hname, OrderedMap.get?_insert_of_ne _ _ (Ne.symm hname)]
      rfl
  | build p => exact congrArg (·.get? name) (c.builds_build p).stitchers_eq
  | clearCache => rfl

/-- **Under each name there is the stitcher that was registered last.** -/
theorem get?_stitchers_afterAll (name : String) (c : Composer) (calls : List ComposerCall) :
    (c.afterAll calls).stitchers.get? name =
      (ComposerCall.latest? name calls).or (c.stitchers.get? name) := by
  induction calls generalizing c with
  | nil => rfl
  | cons call rest ih =>
    change ((c.after call).afterAll rest).stitchers.get? name = _
    rw [ih, get?_stitchers_after, ComposerCall.latest?_cons, Option.or_assoc]

theorem get?_stitchers_standard (name : String) :
    standard.stitchers.get? name = Stitcher.builtIn? name := by
  change (((∅ : OrderedMap String Stitcher).insert viewportName .viewport).insert fullPageName
    .fullPage).get? name = _
  unfold Stitcher.builtIn?
  by_cases hfull : name = fullPageName
  · rw [if_pos hfull, hfull, OrderedMap.get?_insert_self]
  · rw [if_neg hfull, OrderedMap.get?_insert_of_ne _ _ hfull]
    by_cases hview : name = viewportName
    · rw [if_pos hview, hview, OrderedMap.get?_insert_self]
    · rw [if_neg hview, OrderedMap.get?_insert_of_ne _ _ hview]
      rfl

/-! ## Coherent caches -/

/-- **The cache is coherent**: what is in it is what would be composed anew, and comes from builds
that were counted, each entry from one of its own. -/
structure Coherent (c : Composer) : Prop where
  composed : ∀ {p plan}, c.cache.entries.get? (.ofParameters p) = some plan →
    c.compose p = .ok plan.plan
  counted : ∀ {key plan}, c.cache.entries.get? key = some plan → plan.serial ≤ c.cache.misses
  single : ∀ {key other plan found}, c.cache.entries.get? key = some plan →
    c.cache.entries.get? other = some found → found.serial = plan.serial → other = key

/-- An empty cache is coherent. -/
theorem coherent_of_empty (h : c.cache.entries = ∅) : c.Coherent where
  composed hp := by
    rw [h] at hp
    cases hp
  counted hp := by
    rw [h] at hp
    cases hp
  single hp := by
    rw [h] at hp
    cases hp

/-- What is composed anew depends on the stitchers alone. -/
theorem compose_congr (h : c'.stitchers = c.stitchers) : c'.compose p = c.compose p := by
  unfold compose find
  rw [h]

theorem Coherent.builds (hc : c.Coherent) (h : c.Builds p answer c') : c'.Coherent where
  composed hp := by
    rw [compose_congr h.stitchers_eq]
    rcases h.get?_eq_some hp with hold | ⟨hkey, hcompose, -, -⟩
    · exact hc.composed hold
    · rw [PlanKey.eq_of_ofParameters_eq hkey]
      exact hcompose
  counted hp := by
    rcases h.get?_eq_some hp with hold | ⟨-, -, hserial, hmisses⟩
    · exact Nat.le_trans (hc.counted hold) h.misses_le
    · omega
  single hp hfound hserial := by
    -- an entry that was there before cannot have the number that this build gives
    rcases h.get?_eq_some hp with hold | ⟨hkey, -, hnew, -⟩
    · rcases h.get?_eq_some hfound with hold' | ⟨-, -, hnew', -⟩
      · exact hc.single hold hold' hserial
      · have := hc.counted hold
        omega
    · rcases h.get?_eq_some hfound with hold' | ⟨hkey', -, -, -⟩
      · have := hc.counted hold'
        omega
      · rw [hkey, hkey']

/-- **Each call keeps the cache coherent**: those that might make an entry stale empty it. -/
theorem Coherent.after (hc : c.Coherent) (call : ComposerCall) : (c.after call).Coherent := by
  cases call with
  | register s => exact coherent_of_empty rfl
  | build p => exact hc.builds (c.builds_build p)
  | clearCache => exact coherent_of_empty rfl

theorem Coherent.afterAll (hc : c.Coherent) (calls : List ComposerCall) :
    (c.afterAll calls).Coherent := by
  induction calls generalizing c with
  | nil => exact hc
  | cons call rest ih => exact ih (hc.after call)

theorem coherent_standard : standard.Coherent := coherent_of_empty rfl

/-- **A coherent cache never shows in which plan is answered.** -/
theorem Coherent.plan_build (hc : c.Coherent) (p : CaptureParameters) :
    (c.build p).1.map CachedPlan.plan = c.buildAnew p := by
  have hbuilds := c.builds_build p
  generalize (c.build p).1 = answer at hbuilds
  generalize (c.build p).2 = c' at hbuilds
  unfold buildAnew
  cases hbuilds with
  | refused hvalid =>
    rw [hvalid]
    rfl
  | found hvalid hfound =>
    rw [hvalid, ok_bind, hc.composed hfound]
    rfl
  | failed hvalid hnone hcompose | made hvalid hnone hcompose =>
    rw [hvalid, ok_bind, hcompose]
    rfl

/-! ## One plan in the course of time -/

/-- A plan was built for a key: its number is taken, and no other key has an entry with it. -/
structure Issued (c : Composer) (key : PlanKey) (plan : CachedPlan) : Prop where
  counted : plan.serial ≤ c.cache.misses
  single : ∀ {other found}, c.cache.entries.get? other = some found →
    found.serial = plan.serial → other = key

/-- The plan is in the cache. -/
def Cached (c : Composer) (key : PlanKey) (plan : CachedPlan) : Prop :=
  c.cache.entries.get? key = some plan

/-- The plan is not in the cache any more and will not come back. -/
structure Retired (c : Composer) (plan : CachedPlan) : Prop where
  counted : plan.serial ≤ c.cache.misses
  gone : ∀ {other found}, c.cache.entries.get? other = some found → found.serial ≠ plan.serial

/-- An answered plan is in the cache under the key of its parameters, and under no other one. -/
theorem Builds.issued_cached (hc : c.Coherent) (h : c.Builds p (.ok plan) c') :
    c'.Issued (.ofParameters p) plan ∧ c'.Cached (.ofParameters p) plan := by
  have hcoherent := hc.builds h
  have hcached : c'.Cached (.ofParameters p) plan := by
    cases h with
    | found hvalid hfound => exact hfound
    | made => exact OrderedMap.get?_insert_self _ _ _
  exact ⟨⟨hcoherent.counted hcached, hcoherent.single hcached⟩, hcached⟩

/-- A call that is no build empties the cache and leaves the count. -/
theorem emptied_after (h : ¬ call.IsBuild) :
    (c.after call).cache.entries = ∅ ∧ (c.after call).cache.misses = c.cache.misses := by
  cases call with
  | build p => exact absurd trivial h
  | register s | clearCache => exact ⟨rfl, rfl⟩

theorem misses_le_after (c : Composer) (call : ComposerCall) :
    c.cache.misses ≤ (c.after call).cache.misses := by
  cases call with
  | build p => exact (c.builds_build p).misses_le
  | register s | clearCache => exact Nat.le_refl _

theorem retired_of_emptied (hcounted : plan.serial ≤ c.cache.misses) (h : ¬ call.IsBuild) :
    (c.after call).Retired plan where
  counted := Nat.le_trans hcounted (c.misses_le_after call)
  gone hfound := by
    rw [(emptied_after h).1] at hfound
    cases hfound

theorem Retired.after (h : c.Retired plan) (call : ComposerCall) : (c.after call).Retired plan := by
  by_cases hbuild : call.IsBuild
  · refine ⟨Nat.le_trans h.counted (c.misses_le_after call), fun hfound => ?_⟩
    cases call with
    | build p =>
      rcases (c.builds_build p).get?_eq_some hfound with hold | ⟨-, -, hnew, -⟩
      · exact h.gone hold
      · have := h.counted
        omega
    | register s | clearCache => exact absurd hbuild id
  · exact retired_of_emptied h.counted hbuild

theorem Retired.afterAll (h : c.Retired plan) (calls : List ComposerCall) :
    (c.afterAll calls).Retired plan := by
  induction calls generalizing c with
  | nil => exact h
  | cons call rest ih => exact ih (h.after call)

theorem Issued.builds (h : c.Issued key plan) (hb : c.Builds p answer c') : c'.Issued key plan where
  counted := Nat.le_trans h.counted hb.misses_le
  single hfound hserial := by
    rcases hb.get?_eq_some hfound with hold | ⟨-, -, hnew, -⟩
    · exact h.single hold hserial
    · have := h.counted
      omega

/-- **As long as there are only builds, a plan stays in the cache.** -/
theorem cached_afterAll (hissued : c.Issued key plan) (hcached : c.Cached key plan)
    {calls : List ComposerCall} (hcalls : ∀ call ∈ calls, call.IsBuild) :
    (c.afterAll calls).Issued key plan ∧ (c.afterAll calls).Cached key plan := by
  induction calls generalizing c with
  | nil => exact ⟨hissued, hcached⟩
  | cons call rest ih =>
    obtain ⟨hcall, hrest⟩ := List.forall_mem_cons.1 hcalls
    cases call with
    | build p =>
      have hb := c.builds_build p
      exact ih (hissued.builds hb) (hb.get?_of_some hcached) hrest
    | register s | clearCache => exact absurd hcall id

/-- **Once a stitcher is registered or the cache cleared, the plan is gone for good.** -/
theorem retired_afterAll (hcounted : plan.serial ≤ c.cache.misses) {calls : List ComposerCall}
    (hcalls : ¬ ∀ call ∈ calls, call.IsBuild) : (c.afterAll calls).Retired plan := by
  induction calls generalizing c with
  | nil => exact absurd (fun _ h => by cases h) hcalls
  | cons call rest ih =>
    by_cases hcall : call.IsBuild
    · refine ih (Nat.le_trans hcounted (c.misses_le_after call)) fun hrest => hcalls ?_
      exact List.forall_mem_cons.2 ⟨hcall, hrest⟩
    · exact (retired_of_emptied hcounted hcall).afterAll rest

/-- A build that answers a plan in the cache answers it again for the same parameters alone. -/
theorem Builds.eq_iff_of_cached {found : CachedPlan} (hissued : c.Issued key plan)
    (hcached : c.Cached key plan) (h : c.Builds q (.ok found) c') :
    (found.serial = plan.serial ↔ .ofParameters q = key) ∧
      (.ofParameters q = key → found = plan) := by
  unfold Cached at hcached
  cases h with
  | found hvalid hfound =>
    have hsame : .ofParameters q = key → found = plan := by
      intro hkey
      rw [hkey, hcached] at hfound
      exact (Option.some.inj hfound).symm
    exact ⟨⟨hissued.single hfound, fun hkey => congrArg CachedPlan.serial (hsame hkey)⟩, hsame⟩
  | made hvalid hnone hcompose =>
    have hne : .ofParameters q ≠ key := by
      rintro rfl
      rw [hnone] at hcached
      cases hcached
    have hserial : c.cache.misses + 1 ≠ plan.serial := by
      have := hissued.counted
      omega
    exact ⟨⟨fun h => absurd h hserial, fun hkey => absurd hkey hne⟩, fun hkey => absurd hkey hne⟩

/-- A plan that is gone is never answered again. -/
theorem Builds.ne_of_retired {found : CachedPlan} (hretired : c.Retired plan)
    (h : c.Builds q (.ok found) c') : found.serial ≠ plan.serial := by
  cases h with
  | found hvalid hfound => exact hretired.gone hfound
  | made hvalid hnone hcompose =>
    have hserial : c.cache.misses + 1 ≠ plan.serial := by
      have := hretired.counted
      omega
    exact hserial

/-! ## Every build -/

theorem isValidRatio_iff {ratio : Float} :
    isValidRatio ratio = true ↔ ratio.isFinite = true ∧ 0 < ratio := by
  simp only [isValidRatio, Bool.and_eq_true, decide_eq_true_eq, gt_iff_lt]

theorem validate_of_not_positive (h : ¬ (p.ratio.isFinite = true ∧ 0 < p.ratio)) :
    p.validate = .error (.setting (.ratioNotPositive p.ratio)) :=
  if_neg (mt isValidRatio_iff.1 h)

/-- A ratio that is not valid is refused before anything is looked up. -/
theorem build_of_not_positive (c : Composer) (h : ¬ (p.ratio.isFinite = true ∧ 0 < p.ratio)) :
    c.build p = (.error (.setting (.ratioNotPositive p.ratio)), c) := by
  unfold build
  rw [validate_of_not_positive h]

/-- A plan is composed of a stitcher as parameters ask for it. -/
structure ComposedOf (s : Stitcher) (p : CaptureParameters) (plan : CapturePlan) : Prop where
  stitcher : plan.stitcher = s
  ratio : plan.ratio = p.ratio
  cut : plan.cut = ⟨p.headerCut, p.footerCut⟩
  stages : plan.stages.map Stage.name =
    if p.headerCut.toNat + p.footerCut.toNat = 0 then ["scaling"] else ["scaling", "cutting"]

/-- With a valid ratio, a plan can be composed of every stitcher. -/
theorem exists_compose (s : Stitcher) (h : isValidRatio p.ratio = true) :
    ∃ plan, CapturePlan.compose s p.ratio ⟨p.headerCut, p.footerCut⟩ = .ok plan ∧
      ComposedOf s p plan := by
  refine ⟨⟨⟨p.ratio, h⟩, ⟨p.headerCut, p.footerCut⟩, s⟩, ?_, rfl, rfl, rfl, ?_⟩
  · unfold CapturePlan.compose Scaling.ofRatio
    rw [dif_pos h]
    rfl
  · dsimp only [CapturePlan.stages]
    by_cases hcut : p.headerCut.toNat + p.footerCut.toNat = 0
    · rw [if_pos hcut, if_neg (by omega)]
      rfl
    · rw [if_neg hcut, if_pos (by omega)]
      rfl

/-- The name is looked up once the ratio is known to be valid. -/
theorem buildAnew_of_positive (c : Composer) (h : p.ratio.isFinite = true ∧ 0 < p.ratio) :
    match c.stitchers.get? p.strategy with
    | none => c.buildAnew p = .error (.unknownStrategy p.strategy)
    | some s => ∃ plan, c.buildAnew p = .ok plan ∧ ComposedOf s p plan := by
  have hratio : isValidRatio p.ratio = true := isValidRatio_iff.2 h
  have hvalid : p.validate = .ok () := if_pos hratio
  unfold buildAnew compose find
  rw [hvalid, ok_bind]
  cases hfind : c.stitchers.get? p.strategy with
  | none => rfl
  | some s => exact exists_compose s hratio

/-- **Which parameters get a plan**: those with a valid ratio for whose name there is a stitcher. -/
theorem Coherent.exists_planFor (hc : c.Coherent) (hratio : p.ratio.isFinite = true ∧ 0 < p.ratio)
    {s : Stitcher} (hs : c.stitchers.get? p.strategy = some s) :
    ∃ plan, c.planFor p = .ok plan ∧ ComposedOf s p plan := by
  have hanew := c.buildAnew_of_positive hratio
  rw [hs] at hanew
  obtain ⟨plan, hplan, hcomposed⟩ := hanew
  exact ⟨plan, (hc.plan_build p).trans hplan, hcomposed⟩

/-- Any other parameters get a fault that lies in the request. -/
theorem Coherent.planFor_eq_error (hc : c.Coherent)
    (h : ¬ (p.ratio.isFinite = true ∧ 0 < p.ratio) ∨ c.stitchers.get? p.strategy = none) :
    ∃ fault, c.planFor p = .error fault ∧ fault.isConfiguration = true := by
  by_cases hratio : p.ratio.isFinite = true ∧ 0 < p.ratio
  · have hanew := c.buildAnew_of_positive hratio
    rw [h.resolve_left (not_not_intro hratio)] at hanew
    exact ⟨_, (hc.plan_build p).trans hanew, rfl⟩
  · exact ⟨_, planFor_of_invalid (validate_of_not_positive hratio), rfl⟩

/-- The plan for a name has the stitcher of that name. -/
theorem Coherent.get?_of_planFor (hc : c.Coherent) {plan : CapturePlan}
    (hplan : c.planFor p = .ok plan) : c.stitchers.get? p.strategy = some plan.stitcher := by
  by_cases hratio : p.ratio.isFinite = true ∧ 0 < p.ratio
  · rcases hfind : c.stitchers.get? p.strategy with _ | s
    · obtain ⟨fault, hfault, -⟩ := hc.planFor_eq_error (.inr hfind)
      rw [hplan] at hfault
      cases hfault
    · obtain ⟨plan', hplan', hcomposed⟩ := hc.exists_planFor hratio hfind
      rw [hplan] at hplan'
      obtain rfl := Except.ok.inj hplan'
      rw [hcomposed.stitcher]
  · obtain ⟨fault, hfault, -⟩ := hc.planFor_eq_error (.inl hratio)
    rw [hplan] at hfault
    cases hfault

/-- A plan scrolls as the built-in stitcher of its name does. -/
theorem scrolls_of_planFor {plan : CapturePlan} {s : Stitcher}
    (hplan : standard.planFor p = .ok plan) (hs : Stitcher.builtIn? p.strategy = some s) :
    plan.scrolls = s.scrolls := by
  have hfind := coherent_standard.get?_of_planFor hplan
  rw [get?_stitchers_standard, hs] at hfind
  rw [Option.some.inj hfind]
  rfl

/-- **A plan answered once is answered to the same parameters, and to no others, for as long as
there are only builds.** -/
theorem serial_eq_iff (hc : c.Coherent) (hfirst : (c.build p).1 = .ok plan)
    (between : List ComposerCall) {found : CachedPlan}
    (hlater : (((c.after (.build p)).afterAll between).build q).1 = .ok found) :
    (found.serial = plan.serial ↔
        PlanKey.ofParameters q = .ofParameters p ∧ ∀ call ∈ between, call.IsBuild) ∧
      (found.serial = plan.serial → found = plan) := by
  have hbuilds := c.builds_build p
  rw [hfirst] at hbuilds
  obtain ⟨hissued, hcached⟩ := hbuilds.issued_cached hc
  have hlast := ((c.after (.build p)).afterAll between).builds_build q
  rw [hlater] at hlast
  by_cases hcalls : ∀ call ∈ between, call.IsBuild
  · obtain ⟨hissued', hcached'⟩ := cached_afterAll hissued hcached hcalls
    obtain ⟨hiff, hsame⟩ := hlast.eq_iff_of_cached hissued' hcached'
    exact ⟨hiff.trans (and_iff_left hcalls).symm, fun hserial => hsame (hiff.1 hserial)⟩
  · have hne := hlast.ne_of_retired (retired_afterAll hissued.counted hcalls)
    exact ⟨iff_of_false hne fun h => hcalls h.2, fun hserial => absurd hserial hne⟩

/-- **Whatever a composer was asked for before, a build answers the plan composed anew.**  A ratio
that is not valid is refused first, and nothing is touched; then a name is refused under which
nothing is registered; else the plan is composed of the stitcher registered last.  Two builds answer
the very same plan exactly if their parameters agree and there are only builds between them. -/
theorem build_after_calls (before : List ComposerCall) (p : CaptureParameters) :
    let c := standard.afterAll before
    (c.build p).1.map CachedPlan.plan = c.buildAnew p ∧
    (¬ (p.ratio.isFinite = true ∧ 0 < p.ratio) →
      c.build p = (.error (.setting (.ratioNotPositive p.ratio)), c)) ∧
    (p.ratio.isFinite = true ∧ 0 < p.ratio →
      match (ComposerCall.latest? p.strategy before).or (Stitcher.builtIn? p.strategy) with
      | none => (c.build p).1 = .error (.unknownStrategy p.strategy)
      | some s => ∃ cached, (c.build p).1 = .ok cached ∧ ComposedOf s p cached.plan) ∧
    ∀ plan, (c.build p).1 = .ok plan → ∀ between q found,
      (((c.after (.build p)).afterAll between).build q).1 = .ok found →
      (found.serial = plan.serial ↔
          (q.strategy = p.strategy ∧ q.ratio.toBits = p.ratio.toBits ∧
            q.headerCut = p.headerCut ∧ q.footerCut = p.footerCut) ∧
          ∀ call ∈ between, call.IsBuild) ∧
        (found.serial = plan.serial → found = plan) := by
  intro c
  have hc : c.Coherent := coherent_standard.afterAll before
  have hanew := hc.plan_build p
  refine ⟨hanew, build_of_not_positive c, fun hratio => ?_, ?_⟩
  · have hplan := c.buildAnew_of_positive hratio
    have hlatest : c.stitchers.get? p.strategy =
        (ComposerCall.latest? p.strategy before).or (Stitcher.builtIn? p.strategy) := by
      rw [get?_stitchers_afterAll, get?_stitchers_standard]
    rw [hlatest, ← hanew] at hplan
    cases hfind : (ComposerCall.latest? p.strategy before).or (Stitcher.builtIn? p.strategy) with
    | none =>
      rw [hfind] at hplan
      exact map_eq_error.1 hplan
    | some s =>
      rw [hfind] at hplan
      obtain ⟨plan, hplan, hcomposed⟩ := hplan
      obtain ⟨cached, hcached, rfl⟩ := map_eq_ok.1 hplan
      exact ⟨cached, hcached, hcomposed⟩
  · intro plan hfirst between q found hlater
    obtain ⟨hiff, hsame⟩ := serial_eq_iff hc hfirst between hlater
    rw [← PlanKey.mk.injEq]
    exact ⟨hiff, hsame⟩

namespace Replaced

/-- A stitcher that takes the place of the built-in one of its name. -/
def lastTile : Stitcher := ⟨viewportName, false, fun tiles => Stitcher.firstTile tiles.reverse⟩

def twice : CaptureParameters := { ratio := 2, headerCut := 8 }

def page : CaptureParameters := { strategy := fullPageName }

/-- A plan is composed of a stitcher that is replaced then, and one of a stitcher that is
missing. -/
def calls : List ComposerCall := [.build twice, .register lastTile, .build { strategy := "mosaic" }]

end Replaced

open Replaced in
/-- The plan is composed of the new stitcher.  It is found after another plan was built, and not
after the cache was cleared. -/
theorem build_after_calls_replaced :
    ∃ plan, ((standard.afterAll calls).build twice).1 = .ok plan ∧
      ComposedOf lastTile twice plan.plan ∧
      (((((standard.afterAll calls).after (.build twice)).afterAll [.build page]).build twice).1 =
        .ok plan) ∧
      (∃ found, (((((standard.afterAll calls).after (.build twice)).afterAll
          [.build page, .clearCache]).build twice).1 = .ok found) ∧ found.serial ≠ plan.serial) ∧
      (standard.afterAll calls).build { ratio := 0 } =
        (.error (.setting (.ratioNotPositive 0)), standard.afterAll calls) := by
  obtain ⟨-, -, hcomposed, hagain⟩ := build_after_calls calls twice
  obtain ⟨plan, hplan, hcomposed⟩ := hcomposed (by decide)
  obtain ⟨found, hfound⟩ : ∃ found, ((((standard.afterAll calls).after (.build twice)).afterAll
      [.build page]).build twice).1 = .ok found := ⟨_, rfl⟩
  obtain ⟨other, hother⟩ : ∃ other, ((((standard.afterAll calls).after (.build twice)).afterAll
      [.build page, .clearCache]).build twice).1 = .ok other := ⟨_, rfl⟩
  have hserial := (hagain plan hplan _ _ _ hfound).1.2
    ⟨⟨rfl, rfl, rfl, rfl⟩, by simp [ComposerCall.IsBuild]⟩
  have hcleared : ¬ other.serial = plan.serial := by
    intro hserial
    have hbuilds := ((hagain plan hplan _ _ _ hother).1.1 hserial).2
    simp [ComposerCall.IsBuild] at hbuilds
  refine ⟨plan, hplan, hcomposed, ?_, ⟨other, hother, hcleared⟩,
    (build_after_calls calls { ratio := 0 }).2.1 (by decide)⟩
  rw [hfound, (hagain plan hplan _ _ _ hfound).2 hserial]

end Composer

end VisualRegression
