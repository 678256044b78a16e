import VisualRegression.Proofs.Batch.Agreement
import VisualRegression.Proofs.Check.Lookups

/-!
# What is ignored has no influence

Two runs of a check, from states in which the page may look different, come to the same if the page
differs only where the check ignores it.  The regions that it ignores (`Engine.Ignores`) are the
areas among its locators and the places that it looked up, and for these it does not matter in which
order locators were given (`execute_congr_ignores`).  The parties may remember what they like, as
long as what they answer to a check does not depend on it (`Collaborators.Blind`).  Main statement:
`ignored_without_influence`.
-/

namespace VisualRegression

variable {σ : Type}

/-- **The parties do not see what tells alike worlds apart**, but for the tiles that they capture:
they answer alike and stay alike, whatever images they are shown. -/
structure Collaborators.Blind (parties : Collaborators σ) (alike : σ → σ → Prop) : Prop where
  capture : ∀ context plan w w', alike w w' →
    alike (parties.capture context plan w).2 (parties.capture context plan w').2
  resolve : ∀ context locator w w', alike w w' →
    (parties.resolve context locator w).1 = (parties.resolve context locator w').1 ∧
      alike (parties.resolve context locator w).2 (parties.resolve context locator w').2
  present : ∀ w w' snapshot snapshot', alike w w' →
    alike (parties.present snapshot w) (parties.present snapshot' w')
  breaksOff : ∀ w w' snapshot snapshot', alike w w' →
    parties.breaksOff snapshot w = parties.breaksOff snapshot' w'
  load : ∀ key w w', alike w w' → (parties.load key w).1 = (parties.load key w').1 ∧
    alike (parties.load key w).2 (parties.load key w').2
  save : ∀ key img w w', alike w w' → (parties.save key img w).1 = (parties.save key img w').1 ∧
    alike (parties.save key img w).2 (parties.save key img w').2

namespace Collaborators.Blind

open CheckProgram

variable {parties : Collaborators σ} {alike : σ → σ → Prop} (h : parties.Blind alike)

include h

theorem agree_resolve (context : SearchContext) (locator : Locator) :
    Agree parties alike (CheckProgram.resolve context locator)
      (CheckProgram.resolve context locator) := by
  intro s s' halike
  unfold AgreeFrom
  rw [perform_resolve, perform_resolve]
  exact h.resolve context locator _ _ halike

theorem shownAlike (snapshot snapshot' : Snapshot) :
    Engine.ShownAlike parties alike snapshot snapshot' := by
  intro w w' halike
  refine ⟨?_, h.present w w' snapshot snapshot' halike⟩
  rw [Collaborators.observe, Collaborators.observe, h.breaksOff w w' snapshot snapshot' halike]

theorem agree_load (key : BaselineKey) :
    Agree parties alike (CheckProgram.load key) (CheckProgram.load key) := by
  intro s s' halike
  obtain ⟨hanswer, hafter⟩ := h.load key _ _ halike
  exact ⟨congrArg some hanswer, hafter⟩

theorem agree_loadIfReadable (key : BaselineKey) :
    Agree parties alike (CheckProgram.loadIfReadable key) (CheckProgram.loadIfReadable key) := by
  intro s s' halike
  obtain ⟨hanswer, hafter⟩ := h.load key _ _ halike
  unfold AgreeFrom
  rw [perform_loadIfReadable, perform_loadIfReadable, hanswer]
  exact ⟨rfl, hafter⟩

theorem agree_save (key : BaselineKey) (img : Image) :
    Agree parties alike (CheckProgram.save key img) (CheckProgram.save key img) := by
  intro s s' halike
  obtain ⟨hanswer, hafter⟩ := h.save key img _ _ halike
  exact ⟨congrArg some hanswer, hafter⟩

end Collaborators.Blind

namespace Engine

open CheckProgram

variable {parties : Collaborators σ} {alike : σ → σ → Prop} {s s' : Shared σ} {e : Engine}
  {now : Instant} {c : Check} {context : SearchContext} {locators : LocatorMap}

/-! ## The order of locators -/

/-- A kind without locators is as good as none. -/
theorem maskImage_filter (topAdjustment : Int32) (img : Image) :
    e.maskImage context (locators.filter fun set => !set.isEmpty) topAdjustment img =
      e.maskImage context locators topAdjustment img := by
  unfold maskImage resolveIgnores
  simp only [bind_assoc, pure_bind]
  rcases locators with ⟨_ | ⟨⟨_ | ⟨l, ls⟩, hl⟩⟩, _ | ⟨⟨_ | ⟨m, ms⟩, hm⟩⟩⟩
  all_goals rfl

/-- A kind that has locators has the same ones in every family that lists the same. -/
theorem get?_of_lists {locators' : LocatorMap} {k : IgnoreKind} {set : OrderedSet Locator}
    (h : ∀ locator, locators.Lists k locator ↔ LocatorMap.Lists locators' k locator)
    (hset : locators.get? k = some set) (hne : set.isEmpty = false) :
    locators'.get? k = some set := by
  have hlists : ∀ locator, LocatorMap.Lists locators' k locator ↔ locator ∈ set := by
    intro locator
    rw [← h]
    unfold LocatorMap.Lists
    rw [hset]
    simp
  obtain ⟨locator, hlocator⟩ : ∃ locator, locator ∈ set := by
    rcases set with ⟨_ | ⟨l, ls⟩, hl⟩
    · cases hne
    · exact ⟨l, List.mem_cons_self⟩
  obtain ⟨set', hset', -⟩ := (hlists locator).2 hlocator
  have hsame : set' = set := by
    refine OrderedSet.ext_mem fun locator => ?_
    rw [← hlists]
    unfold LocatorMap.Lists
    rw [hset']
    simp
  rw [hset', hsame]

/-- Families that list the same locators are the same, but for kinds without any. -/
theorem filter_eq_of_lists {locators' : LocatorMap}
    (h : ∀ k locator, LocatorMap.Lists locators' k locator ↔ locators.Lists k locator) :
    (locators'.filter fun set => !set.isEmpty) = locators.filter fun set => !set.isEmpty := by
  refine PerKind.ext_get? fun k => Option.ext fun set => ?_
  rw [PerKind.get?_filter, PerKind.get?_filter, Option.filter_eq_some_iff,
    Option.filter_eq_some_iff]
  constructor
  · rintro ⟨hset, hne⟩
    exact ⟨get?_of_lists (h k) hset (by simpa using hne), hne⟩
  · rintro ⟨hset, hne⟩
    exact ⟨get?_of_lists (fun locator => (h k locator).symm) hset (by simpa using hne), hne⟩

/-- **A check depends on which locators it has for each kind, and on nothing else about them.** -/
theorem execute_congr_ignores {locators' : LocatorMap}
    (h : ∀ k locator, LocatorMap.Lists locators' k locator ↔ c.ignores.Lists k locator) :
    e.execute now { c with ignores := locators' } = e.execute now c := by
  have hmask : ∀ context topAdjustment img,
      e.maskImage context locators' topAdjustment img =
        e.maskImage context c.ignores topAdjustment img := by
    intro context topAdjustment img
    rw [← maskImage_filter, filter_eq_of_lists h, maskImage_filter]
  have himage : e.takeImage { c with ignores := locators' } = e.takeImage c := by
    rcases Option.eq_none_or_eq_some c.context with hcontext | ⟨context, hcontext⟩
    · rw [takeImage_of_none hcontext]
      exact takeImage_of_none (c := { c with ignores := locators' }) hcontext
    · rw [takeImage_eq_maskImage hcontext,
        takeImage_eq_maskImage (c := { c with ignores := locators' }) hcontext]
      simp only [hmask]
      rfl
  unfold execute establish compareWithBaseline
  rw [himage]
  rfl

/-! ## The pixels that are ignored -/

/-- **A region that the check ignores**: an area among its locators, of whatever kind, or a place
that it was told for an element among them. -/
def Ignores (e : Engine) (parties : Collaborators σ) (now : Instant) (c : Check) (s : Shared σ)
    (r : Rect) : Prop :=
  (∃ k, c.ignores.Lists k (.area r)) ∨ Finds (lookups parties (e.execute now c) s) r

/-- The check ignores the pixel of an image that starts `topAdjustment` rows below the top of the
page. -/
def IgnoresPixel (e : Engine) (parties : Collaborators σ) (now : Instant) (c : Check) (s : Shared σ)
    (topAdjustment : Int32) (x y : Nat) : Prop :=
  ∃ r, e.Ignores parties now c s r ∧ Mask.Covers topAdjustment r x y

/-- To mask an image by the places that a valid check was told is to fill what the check ignores. -/
theorem fills_of_resolved {topAdjustment : Int32} {ignores : IgnoreMap} {s₁ s₂ : Shared σ}
    (hvalid : c.validate = .ok ())
    (htaken : lookups parties (e.takeImage c) s =
      lookups parties (resolveIgnores context c.ignores) s₁)
    (h : perform parties (resolveIgnores context c.ignores) s₁ = (some (.ok ignores), s₂))
    (color : Pixel) (img : Image) :
    img.Fills color (e.IgnoresPixel parties now c s topAdjustment)
      (Mask.apply color img ignores topAdjustment).1 := by
  refine (Mask.fills_apply color img ignores topAdjustment).congr fun x y _ _ => ?_
  unfold Mask.Masked IgnoresPixel Ignores
  rw [lookups_execute hvalid, htaken]
  exact exists_congr fun r => and_congr_left fun _ => has_resolveIgnores h

/-- **The image that a valid check takes** is the captured one with what the check ignores filled,
and every element that it is to ignore was looked up for it and answered. -/
theorem fills_takeImage {masked : Image} {s₂ : Shared σ} (hvalid : c.validate = .ok ())
    (h : perform parties (e.takeImage c) s = (some (.ok masked), s₂)) :
    (∀ k locator, c.ignores.Lists k locator → (∀ r, locator ≠ .area r) →
      ∃ places, (locator, some (.ok places)) ∈ lookups parties (e.execute now c) s) ∧
    ∃ context plan img, c.context = some context ∧
      s.composer.planFor (e.parameters c) = .ok plan ∧
      parties.Captures context plan s.world img ∧
      img.Fills e.policy.maskColor (e.IgnoresPixel parties now c s plan.topAdjustment) masked := by
  obtain ⟨context, plan, img, hcontext, hplan, hcaptures⟩ := captures_of_takeImage h
  obtain ⟨s₁, -, hperform, htaken⟩ := takeImage_of_captured hcontext hplan hcaptures
  rw [hperform] at h
  obtain ⟨ignores, s₃, hignores, h⟩ := perform_bind_ok.1 h
  obtain ⟨⟨⟩, s₄, -, h⟩ := perform_bind_ok.1 h
  cases h
  refine ⟨fun k locator hlists hne => ?_, context, plan, img, hcontext, hplan, hcaptures,
    fills_of_resolved hvalid htaken hignores e.policy.maskColor img⟩
  rw [lookups_execute hvalid, htaken]
  exact answered_resolveIgnores hignores hlists hne

/-- A check that ends with a result was valid and took the image that the result shows. -/
theorem takeImage_of_execute {r : CheckResult} {s₂ : Shared σ}
    (h : perform parties (e.execute now c) s = (some (.ok r), s₂)) :
    c.validate = .ok () ∧
      ∃ s₁, perform parties (e.takeImage c) s = (some (.ok r.checkpoint), s₁) := by
  by_cases hc : c.action = .establish
  · rw [execute_of_establish hc] at h
    obtain ⟨hvalid, checkpoint, s₁, himage, -, rfl, -⟩ := perform_establish_ok.1 h
    exact ⟨hvalid, s₁, himage⟩
  · rw [execute_of_ne_establish hc] at h
    obtain ⟨hvalid, _, -, checkpoint, s₁, himage, -, hr⟩ := perform_compareWithBaseline_ok.1 h
    refine ⟨hvalid, s₁, ?_⟩
    rcases hr with ⟨-, rfl⟩ | ⟨baseline, -, hjudge⟩
    · exact himage
    · rw [(judge_ok hc hjudge).1]
      exact himage

/-! ## Two runs -/

/-- **The page looks the same but for what the check ignores**: in both states an image can be put
together, of one size, and the two agree at every pixel that is not ignored. -/
def SameBesidesIgnored (e : Engine) (parties : Collaborators σ) (now : Instant) (c : Check)
    (s s' : Shared σ) : Prop :=
  ∀ context plan, c.context = some context → s.composer.planFor (e.parameters c) = .ok plan →
    ∃ img img', parties.Captures context plan s.world img ∧
      parties.Captures context plan s'.world img' ∧
      img.SameOutside (e.IgnoresPixel parties now c s plan.topAdjustment) img'

/-- **Pages that differ in what is ignored give one image**, and the same faults. -/
theorem agreeFrom_takeImage (hblind : parties.Blind alike) (hvalid : c.validate = .ok ())
    (hworlds : alike s.world s'.world)
    (hplans : s.composer.planFor (e.parameters c) = s'.composer.planFor (e.parameters c))
    (hpage : e.SameBesidesIgnored parties now c s s') :
    AgreeFrom parties alike (e.takeImage c) (e.takeImage c) s s' := by
  rcases Option.eq_none_or_eq_some c.context with hcontext | ⟨context, hcontext⟩
  · rw [takeImage_of_none hcontext]
    exact ⟨rfl, hworlds⟩
  · cases hplan : s.composer.planFor (e.parameters c) with
    | error fault =>
      have hplanned : AgreeFrom parties alike (CheckProgram.plan (e.parameters c))
          (CheckProgram.plan (e.parameters c)) s s' := by
        unfold AgreeFrom
        rw [perform_plan_planFor, perform_plan_planFor, hplans]
        exact ⟨rfl, hworlds⟩
      rw [takeImage_eq_maskImage hcontext]
      refine hplanned.bind fun plan s₁ s₁' h => ?_
      rw [perform_plan_planFor, hplan] at h
      cases h
    | ok plan =>
      obtain ⟨img, img', hcaptures, hcaptures', hsame⟩ := hpage context plan hcontext hplan
      obtain ⟨s₁, hs₁, hperform, htaken⟩ := takeImage_of_captured hcontext hplan hcaptures
      obtain ⟨s₁', hs₁', hperform', -⟩ :=
        takeImage_of_captured hcontext (hplans ▸ hplan) hcaptures'
      have hresolve : Agree parties alike (resolveIgnores context c.ignores)
          (resolveIgnores context c.ignores) :=
        agree_resolveIgnores fun k locator _ _ => hblind.agree_resolve context locator
      have hrest : AgreeFrom parties alike (e.maskImage context c.ignores plan.topAdjustment img)
          (e.maskImage context c.ignores plan.topAdjustment img') s₁ s₁' := by
        refine agreeFrom_maskImage ?_ hresolve (fun ignores => ?_) fun ignores s₂ hignores => ?_
        · rw [hs₁, hs₁']
          exact hblind.capture context plan _ _ hworlds
        · exact List.forall₂_iff_get.2 ⟨Mask.length_snapshots _ ignores _ img img',
            fun _ _ _ => hblind.shownAlike _ _⟩
        · -- both images are filled where the check ignores them, and agree everywhere else
          exact (fills_of_resolved hvalid htaken hignores _ img).eq_of_sameOutside
            (fills_of_resolved hvalid htaken hignores _ img') hsame
      unfold AgreeFrom
      rw [hperform, hperform']
      exact hrest

/-- With the same image, the rest of a check comes to the same. -/
theorem agree_finish (hblind : parties.Blind alike) (img : Image) :
    Agree parties alike (e.finish now c img) (e.finish now c img) := by
  unfold finish
  split
  · exact (hblind.agree_loadIfReadable _).bind fun _ =>
      (hblind.agree_save _ _).bind fun _ => agree_pure _
  · refine (hblind.agree_load _).bind fun found => ?_
    rcases found with _ | baseline
    · exact agree_pure _
    · exact agree_mk_pure _

/-- **Checks of pages that differ in what is ignored end alike.** -/
theorem agreeFrom_execute (hblind : parties.Blind alike) (hworlds : alike s.world s'.world)
    (hplans : s.composer.planFor (e.parameters c) = s'.composer.planFor (e.parameters c))
    (hpage : e.SameBesidesIgnored parties now c s s') :
    AgreeFrom parties alike (e.execute now c) (e.execute now c) s s' := by
  have hbegin : AgreeFrom parties alike (ExceptT.mk (pure c.validate))
      (ExceptT.mk (pure c.validate)) s s' := agree_mk_pure c.validate s s' hworlds
  rw [execute_eq_finish]
  refine hbegin.bind fun _ s₁ s₁' hvalid hvalid' _ => ?_
  rw [perform_mk_pure, Prod.mk.injEq, Option.some.injEq] at hvalid hvalid'
  obtain ⟨hvalid, rfl⟩ := hvalid
  obtain ⟨-, rfl⟩ := hvalid'
  have himage := agreeFrom_takeImage hblind hvalid hworlds hplans hpage
  exact himage.bind fun img s₂ s₂' _ _ halike => agree_finish hblind img s₂ s₂' halike

/-- **What is ignored has no influence.**  A check looks up only elements that it is to ignore, and
never an area.  For a result it looked up all of them, and the image of the result is the captured
one with the ignored pixels filled: those that the areas among the locators cover, of whatever kind,
and the places of the elements.  For these it matters which locators there are for each kind, and
not how they came there.  And from two states in which the page looks the same but for what the
check ignores, the check comes to the same result, but for the time on it, or to the same fault, and
leaves the same baselines. -/
theorem ignored_without_influence (parties : Collaborators σ) (e : Engine) (now : Instant)
    (c : Check) (s : Shared σ) :
    (∀ lookup ∈ lookups parties (e.execute now c) s,
      (∀ r, lookup.1 ≠ .area r) ∧ ∃ k, c.ignores.Lists k lookup.1) ∧
    (∀ r s₁, perform parties (e.execute now c) s = (some (.ok r), s₁) →
      (∀ k locator, c.ignores.Lists k locator → (∀ r, locator ≠ .area r) →
        ∃ places, (locator, some (.ok places)) ∈ lookups parties (e.execute now c) s) ∧
      ∃ context plan img, c.context = some context ∧
        s.composer.planFor (e.parameters c) = .ok plan ∧
        parties.Captures context plan s.world img ∧
        img.Fills e.policy.maskColor (e.IgnoresPixel parties now c s plan.topAdjustment)
          r.checkpoint) ∧
    (∀ locators : LocatorMap,
      (∀ k locator, locators.Lists k locator ↔ c.ignores.Lists k locator) →
      e.execute now { c with ignores := locators } = e.execute now c) ∧
    ∀ (alike : σ → σ → Prop) (s' : Shared σ) (now' : Instant), parties.Blind alike →
      alike s.world s'.world →
      s.composer.planFor (e.parameters c) = s'.composer.planFor (e.parameters c) →
      e.SameBesidesIgnored parties now c s s' →
      (perform parties (e.execute now' c) s').1 =
        ((perform parties (e.execute now c) s).1.map (Except.map (CheckResult.at now'))) ∧
      ∀ key, (parties.load key (perform parties (e.execute now' c) s').2.world).1 =
        (parties.load key (perform parties (e.execute now c) s).2.world).1 := by
  refine ⟨fun lookup h => mem_lookups_execute h, fun r s₁ h => ?_,
    fun locators h => execute_congr_ignores h, fun alike s' now' hblind hworlds hplans hpage => ?_⟩
  · obtain ⟨hvalid, s₂, himage⟩ := takeImage_of_execute h
    exact fills_takeImage hvalid himage
  · obtain ⟨hanswer, halike⟩ := agreeFrom_execute hblind hworlds hplans hpage
    rw [perform_execute_at parties now now' s', ← hanswer]
    exact ⟨rfl, fun key => ((hblind.load key _ _ halike).1).symm⟩

namespace ClockAndDate

/-- A page with a clock in its first pixel, which looks as the state says.  Images that are shown
are noted in the state. -/
def page : PageParties (Image × List Snapshot) where
  capture _ _ w := (some (.ok [w.1.1]), w.1)
  resolve _ _ w := (some (.ok (.ofList [⟨0, 0, 1, 1⟩])), w.1)
  present snapshot w := (w.1.1, snapshot :: w.1.2)

/-- The clock is ignored, and the third pixel for its place. -/
def check : Check where
  id := ⟨"1"⟩
  baseline := ⟨"home"⟩
  action := .establish
  ignores := ⟨some (.ofList [.css "#clock"]), some (.ofList [.area ⟨2, 0, 1, 1⟩])⟩
  context := some ⟨"page"⟩

def morning : Image := ⟨3, 1, #[⟨1, 1, 1, 255⟩, ⟨7, 7, 7, 255⟩, ⟨2, 2, 2, 255⟩], rfl⟩

def evening : Image := ⟨3, 1, #[⟨9, 9, 9, 255⟩, ⟨7, 7, 7, 255⟩, ⟨8, 8, 8, 255⟩], rfl⟩

/-- Nothing was shown yet, and no baseline kept. -/
def shared (img : Image) : Shared ((Image × List Snapshot) × Baselines) :=
  ⟨.standard, (img, []), ∅⟩

/-- The page answers by what is kept alone. -/
theorem blind_page : page.withMemory.Blind (fun w w' => w.2 = w'.2) where
  capture _ _ _ _ h := h
  resolve _ _ _ _ h := ⟨rfl, h⟩
  present _ _ _ _ h := h
  breaksOff _ _ _ _ _ := rfl
  load key _ _ h := ⟨congrArg (BaselineStore.memory.load key) h, h⟩
  save key img _ _ h := ⟨rfl, congrArg (fun baselines => OrderedMap.insert baselines key img) h⟩

/-- The clock and the date differ, and the check ignores both. -/
theorem same_besides_ignored :
    SameBesidesIgnored {} page.withMemory ⟨0, 0⟩ check (shared morning) (shared evening) := by
  intro context plan _ hplan
  cases hplan
  refine ⟨morning, evening, ⟨[morning], rfl, rfl⟩, ⟨[evening], rfl, rfl⟩, rfl, ?_⟩
  intro x y hx hy h
  change x < 3 at hx
  obtain rfl : y = 0 := Nat.lt_one_iff.1 hy
  obtain rfl | rfl | rfl : x = 0 ∨ x = 1 ∨ x = 2 := by omega
  · refine absurd ⟨⟨0, 0, 1, 1⟩, .inr ⟨.css "#clock", .ofList [⟨0, 0, 1, 1⟩], ?_, ?_⟩, ?_⟩ h
    · exact List.mem_singleton_self _
    · exact List.mem_singleton_self _
    · decide
  · rfl
  · refine absurd ⟨⟨2, 0, 1, 1⟩, .inl ⟨.area, .ofList [.area ⟨2, 0, 1, 1⟩], rfl, ?_⟩, ?_⟩ h
    · exact List.mem_singleton_self _
    · decide

end ClockAndDate

open ClockAndDate in
/-- Of a page that changes with the time, the same baseline is established in the morning and in
the evening. -/
theorem ignored_without_influence_clock_and_date :
    (perform page.withMemory (({} : Engine).execute ⟨9, 0⟩ check) (shared evening)).1 =
        (perform page.withMemory (({} : Engine).execute ⟨0, 0⟩ check) (shared morning)).1.map
          (Except.map (CheckResult.at ⟨9, 0⟩)) ∧
      ∃ r s₁, perform page.withMemory (({} : Engine).execute ⟨0, 0⟩ check) (shared morning) =
          (some (.ok r), s₁) ∧
        r.checkpoint.get? 0 0 = some ({} : Engine).policy.maskColor := by
  obtain ⟨-, -, -, hruns⟩ :=
    ignored_without_influence page.withMemory {} ⟨0, 0⟩ check (shared morning)
  have hsame := hruns _ (shared evening) ⟨9, 0⟩ blind_page rfl rfl same_besides_ignored
  exact ⟨hsame.1, _, _, rfl, rfl⟩

end Engine

end VisualRegression
