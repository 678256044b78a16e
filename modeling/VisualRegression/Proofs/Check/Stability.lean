import Mathlib.Logic.Relation
import VisualRegression.Proofs.Check.Lookups
import VisualRegression.Proofs.Check.StoreUse
import VisualRegression.Proofs.Check.Verdict
import VisualRegression.Proofs.Difference.Outcome
import VisualRegression.Proofs.Store.Lasting

/-!
# A baseline that was established is found again

A check establishes a baseline, and later another one compares with it what is still the same page.
In between there may be any other checks, as long as none of them establishes the same baseline with
a result, and changes that leave the baselines alone (`Engine.Meanwhile`).  The baseline lasts
(`load_meanwhile`), the later check takes the same image (`takeImage_again`), and an image has no
difference from itself (`judge_self`).  Main statement: `established_then_unchanged`.
-/

namespace VisualRegression

variable {σ τ : Type}

/-- **The parties keep their baselines in a store**, which is a part of their state.  What else they
do changes it only in ways that are `quiet`. -/
structure Collaborators.Over (parties : Collaborators σ) (store : BaselineStore τ) (view : σ → τ)
    (quiet : τ → τ → Prop) : Prop where
  capture : ∀ context plan w, quiet (view w) (view (parties.capture context plan w).2)
  resolve : ∀ context locator w, quiet (view w) (view (parties.resolve context locator w).2)
  present : ∀ snapshot w, quiet (view w) (view (parties.present snapshot w))
  load : ∀ key w, (parties.load key w).1 = store.load key (view w) ∧
    view (parties.load key w).2 = view w
  save : ∀ key img w, (parties.save key img w).1 = (store.save key img (view w)).1 ∧
    view (parties.save key img w).2 = (store.save key img (view w)).2

/-- Parties made of parts keep their baselines in the store that is one of them. -/
theorem Collaborators.over_ofStore
    {capture : SearchContext → CapturePlan → τ → Except CheckFault (List Image)}
    {resolve : SearchContext → Locator → Except CheckFault (OrderedSet Rect)}
    {store : BaselineStore τ} {quiet : τ → τ → Prop} (hrefl : ∀ t, quiet t t) :
    (Collaborators.ofStore capture resolve store).Over store id quiet where
  capture _ _ w := hrefl w
  resolve _ _ w := hrefl w
  present _ w := hrefl w
  load _ _ := ⟨rfl, rfl⟩
  save _ _ _ := ⟨rfl, rfl⟩

/-- **Two pages look the same**, in whatever states the parties are: by a plan they are captured
alike, and the elements to ignore are found at the same places.  Who takes note of an image breaks
off at it in every state or in none. -/
structure Collaborators.LookAlike (parties : Collaborators σ) (plan : CapturePlan)
    (locators : LocatorMap) (context context' : SearchContext) : Prop where
  capture : ∀ w w', (parties.capture context plan w).1 = (parties.capture context' plan w').1
  resolve : ∀ k locator, locators.Lists k locator → (∀ r, locator ≠ .area r) → ∀ w w',
    (parties.resolve context locator w).1 = (parties.resolve context' locator w').1
  breaksOff : ∀ snapshot w w', parties.breaksOff snapshot w = parties.breaksOff snapshot w'

/-- **The result finds an image unchanged**: it was compared with itself, and no pixel differs. -/
structure CheckResult.FindsUnchanged (r : CheckResult) (tolerance : UInt8) (img : Image) :
    Prop where
  baselineFound : r.baselineFound = true
  passed : r.passed = some true
  failure : r.failure = none
  checkpoint : r.checkpoint = img
  baseline : r.baseline = some img
  diff : r.diff = some img
  changedRegion : r.changedRegion = none
  differing : differenceCount tolerance r.checkpoint img = 0
  diffPercentage : r.diffPercentage = Comparer.share 0 img.pixelCount

section Stability

variable {parties : Collaborators σ} {store : BaselineStore τ} {view : σ → τ}
  {quiet : τ → τ → Prop} {key : BaselineKey} {img : Image} {s s₁ s' : Shared σ}

/-! ## What a program leaves alone -/

/-- No request changes a plan. -/
theorem Collaborators.preserve_planFor (parties : Collaborators σ) (keeps : BaselineKey → Prop)
    (q : CaptureParameters) (r : Except CaptureFault CapturePlan) :
    parties.Preserve keeps fun s => s.composer.planFor q = r where
  plan q' s h := (Composer.planFor_build s.composer q' q).trans h
  capture _ _ _ h := h
  resolve _ _ _ h := h
  present _ _ h := h
  load _ _ h := h
  save _ _ _ _ h := h

/-- **A baseline is left alone** as long as none is kept under its name. -/
theorem Collaborators.Over.preserve_load (hover : parties.Over store view quiet)
    (hlasting : store.Lasting quiet) {keeps : BaselineKey → Prop} (hkey : ¬ keeps key) :
    parties.Preserve keeps fun s => store.load key (view s.world) = .ok (some img) where
  plan _ _ h := h
  capture context q s h :=
    hlasting.undisturbed key img _ _ (hover.capture context q s.world) h
  resolve context locator s h :=
    hlasting.undisturbed key img _ _ (hover.resolve context locator s.world) h
  present snapshot s h := hlasting.undisturbed key img _ _ (hover.present snapshot s.world) h
  load other s h := by
    rw [(hover.load other s.world).2, h]
  save other img' s hkeeps h := by
    rw [(hover.save other img' s.world).2]
    exact hlasting.kept key img other img' _ (fun heq => absurd (heq ▸ hkeeps) hkey) h

namespace Engine

open CheckProgram

variable {e : Engine} {now : Instant} {c c' : Check}

/-! ## What happens in between -/

/-- To take an image leaves the baselines as they are. -/
theorem load_takeImage (hover : parties.Over store view quiet) (hlasting : store.Lasting quiet)
    (h : store.load key (view s.world) = .ok (some img)) :
    store.load key (view (perform parties (e.takeImage c) s).2.world) = .ok (some img) := by
  have hx : StoreWithin (fun _ => False) (fun _ => False) (e.takeImage c) :=
    takeImage_storeWithin e c
  exact Program.run_preserves (hover.preserve_load hlasting fun hkeeps => hkeeps) hx h

/-- A check changes no plan. -/
theorem planFor_execute (e : Engine) (now : Instant) (c : Check) (s : Shared σ)
    (q : CaptureParameters) :
    (perform parties (e.execute now c) s).2.composer.planFor q = s.composer.planFor q :=
  Program.run_preserves (parties.preserve_planFor (· = c.baseline) q _)
    (execute_storeWithin e now c) rfl

/-- An attempt to establish a baseline that ends without a result leaves all of them as they are. -/
theorem load_establish (hover : parties.Over store view quiet) (hlasting : store.Lasting quiet)
    (hnot : ∀ r, (perform parties (e.establish now c) s).1 ≠ some (.ok r))
    (h : store.load key (view s.world) = .ok (some img)) :
    store.load key (view (perform parties (e.establish now c) s).2.world) = .ok (some img) := by
  have himage := load_takeImage (e := e) (c := c) hover hlasting h
  rw [perform_establish] at hnot ⊢
  cases hvalid : c.validate with
  | error fault => exact h
  | ok =>
    dsimp only
    rcases hi : perform parties (e.takeImage c) s with ⟨_ | fault | checkpoint, s₁⟩
    all_goals rw [hi] at himage
    · exact himage
    · exact himage
    · -- an image was taken, so that it is the save that failed
      rw [hvalid, hi] at hnot
      dsimp only at hnot himage ⊢
      rw [← (hover.load c.baseline s₁.world).2] at himage
      obtain ⟨hsaved, hafter⟩ :=
        hover.save c.baseline checkpoint (parties.load c.baseline s₁.world).2
      rw [hafter]
      refine hlasting.kept _ _ _ _ _ (fun _ hok => ?_) himage
      rw [← hsaved] at hok
      rw [hok] at hnot
      exact hnot _ rfl

/-- **A baseline outlasts a check that does not establish it with a result.** -/
theorem load_execute (hover : parties.Over store view quiet) (hlasting : store.Lasting quiet)
    (hnot : c.action = .establish → c.baseline = key →
      ∀ r, (perform parties (e.execute now c) s).1 ≠ some (.ok r))
    (h : store.load key (view s.world) = .ok (some img)) :
    store.load key (view (perform parties (e.execute now c) s).2.world) = .ok (some img) := by
  by_cases hkey : c.baseline = key
  · by_cases hc : c.action = .establish
    · rw [execute_of_establish hc] at hnot ⊢
      exact load_establish hover hlasting (hnot hc hkey) h
    · have hx : StoreWithin (fun _ => True) (fun _ => False) (e.compareWithBaseline now c) :=
        compareWithBaseline_storeWithin e now c trivial
      rw [execute_of_ne_establish hc]
      exact Program.run_preserves (hover.preserve_load hlasting fun hkeeps => hkeeps) hx h
  · have hpreserve : parties.Preserve (· = c.baseline)
        fun s => store.load key (view s.world) = .ok (some img) :=
      hover.preserve_load hlasting (Ne.symm hkey)
    exact Program.run_preserves hpreserve (execute_storeWithin e now c) h

/-- **What may happen between two checks of a baseline**: another check, but none that establishes
it with a result, and changes from outside that are `quiet`. -/
inductive Meanwhile (e : Engine) (parties : Collaborators σ) (view : σ → τ) (quiet : τ → τ → Prop)
    (key : BaselineKey) : Shared σ → Shared σ → Prop
  | call (now : Instant) (c : Check) (s : Shared σ)
    (h : c.action = .establish → c.baseline = key →
      ∀ r, (perform parties (e.execute now c) s).1 ≠ some (.ok r)) :
    Meanwhile e parties view quiet key s (perform parties (e.execute now c) s).2
  | outside (s : Shared σ) (w : σ) (h : quiet (view s.world) (view w)) :
    Meanwhile e parties view quiet key s { s with world := w }

/-- **Whatever happens meanwhile, the baseline lasts**, and the plans stay the same. -/
theorem load_meanwhile (hover : parties.Over store view quiet) (hlasting : store.Lasting quiet)
    (hmeanwhile : Relation.ReflTransGen (e.Meanwhile parties view quiet key) s s')
    (h : store.load key (view s.world) = .ok (some img)) :
    store.load key (view s'.world) = .ok (some img) ∧
      ∀ q, s'.composer.planFor q = s.composer.planFor q := by
  induction hmeanwhile with
  | refl => exact ⟨h, fun _ => rfl⟩
  | tail _ hstep ih =>
    obtain ⟨hload, hplans⟩ := ih
    cases hstep with
    | call now c _ hnot =>
      exact ⟨load_execute hover hlasting hnot hload, fun q =>
        (planFor_execute e now c _ q).trans (hplans q)⟩
    | outside _ w hquiet => exact ⟨hlasting.undisturbed key img _ _ hquiet hload, hplans⟩

/-! ## The later check -/

/-- **A page that looks the same gives the same image again.** -/
theorem takeImage_again (h : perform parties (e.takeImage c) s = (some (.ok img), s₁))
    (hplans : ∀ q, s'.composer.planFor q = s.composer.planFor q)
    (hparameters : e.parameters c' = e.parameters c) (hignores : c'.ignores = c.ignores)
    (hpage : ∀ context plan, c.context = some context →
      s.composer.planFor (e.parameters c) = .ok plan →
      ∃ context', c'.context = some context' ∧ parties.LookAlike plan c.ignores context context') :
    (perform parties (e.takeImage c') s').1 = some (.ok img) := by
  obtain ⟨context, plan, taken, hcontext, hplan, tiles, htiles, htaken⟩ := captures_of_takeImage h
  obtain ⟨context', hcontext', hlook⟩ := hpage context plan hcontext hplan
  have hplan' : s'.composer.planFor (e.parameters c') = .ok plan := by
    rw [hparameters, hplans, hplan]
  have htiles' : (parties.capture context' plan s'.world).1 = some (.ok tiles) := by
    rw [← hlook.capture s.world s'.world, htiles]
  obtain ⟨s₂, -, hperform, -⟩ := takeImage_of_captured hcontext hplan ⟨tiles, htiles, htaken⟩
  obtain ⟨s₂', -, hperform', -⟩ := takeImage_of_captured hcontext' hplan' ⟨tiles, htiles', htaken⟩
  -- the answers do not depend on the states, so that it does not matter how these are related
  have hresolve : Agree parties (fun _ _ => True) (resolveIgnores context c.ignores)
      (resolveIgnores context' c.ignores) := by
    refine agree_resolveIgnores fun k locator hlists hne t t' _ => ⟨?_, trivial⟩
    rw [perform_resolve, perform_resolve]
    exact hlook.resolve k locator hlists hne t.world t'.world
  have hshown : ∀ snapshot, ShownAlike parties (fun _ _ => True) snapshot snapshot := by
    intro snapshot w w' _
    refine ⟨?_, trivial⟩
    rw [Collaborators.observe, Collaborators.observe, hlook.breaksOff snapshot w w']
  have hmask : AgreeFrom parties (fun _ _ => True)
      (e.maskImage context c.ignores plan.topAdjustment taken)
      (e.maskImage context' c.ignores plan.topAdjustment taken) s₂ s₂' :=
    agreeFrom_maskImage trivial hresolve (fun _ => List.forall₂_same.2 fun _ _ => hshown _)
      fun _ _ _ => rfl
  rw [hperform', hignores, ← hmask.1, ← hperform, h]

/-- **An image has no difference from itself**: it passes where no difference is hoped for, and only
there. -/
theorem judge_self (e : Engine) (now : Instant) (c : Check) (img : Image) {percentage : UInt8}
    (hp : percentage ≤ 100) :
    ∃ r, e.judge now c img img percentage = .ok r ∧ r.verdict = c.action.verdict true ∧
      r.FindsUnchanged e.policy.tolerance img := by
  obtain ⟨found, hfound, hpassed, hshare, hmarkup, hregion⟩ :=
    e.comparer.compare_self img (UInt8.le_iff_toNat_le.1 hp)
  refine ⟨.compared c now img img found, ?_, ?_, ?_⟩
  · unfold judge
    rw [hfound]
  · rw [CheckResult.verdict_compared, hpassed]
  · constructor
    case passed => exact congrArg some hpassed
    case diff => exact congrArg some hmarkup
    case changedRegion => exact hregion
    case differing => exact differenceCount_self e.policy.tolerance img
    case diffPercentage => exact hshare
    all_goals rfl

/-- A valid comparison that takes an image and finds the same one as its baseline ends with a
judgement of the image against itself. -/
theorem execute_of_unchanged (now : Instant) (hc : c.action ≠ .establish)
    (hvalid : c.validate = .ok ())
    (himage : perform parties (e.takeImage c) s = (some (.ok img), s₁))
    (hload : (parties.load c.baseline s₁.world).1 = .ok (some img)) :
    ∃ r s₂, perform parties (e.execute now c) s = (some (.ok r), s₂) ∧
      r.verdict = c.action.verdict true ∧ r.FindsUnchanged e.policy.tolerance img := by
  obtain ⟨r, hjudge, hverdict, hfinds⟩ :=
    judge_self e now c img (Check.ownPercentage_le hvalid)
  refine ⟨r, { s₁ with world := (parties.load c.baseline s₁.world).2 }, ?_, hverdict, hfinds⟩
  rw [execute_of_ne_establish hc]
  exact perform_compareWithBaseline_ok.2 ⟨hvalid, c.ownPercentage, Check.threshold?_eq hc, img, s₁,
    himage, rfl, .inr ⟨img, hload, hjudge⟩⟩

/-- **What was established is found unchanged.**  A baseline is established with a result, in memory
or in a directory of files.  Then there are any number of checks, none of which establishes the same
baseline with a result, and changes that leave the baselines alone.  A comparison with the baseline
that follows, with the same parameters and the same locators and on a page that looks the same, ends
with a result: there is no difference between the image that was established and the one that was
taken, whatever the percentages, so that the check passes if it hopes for none and fails if it hopes
for one. -/
theorem established_then_unchanged [WorkingDirectory] {codec : ImageCodec}
    (hcodec : codec.Lossless)
    (hstore : BaselineStore.Standard codec τ store quiet) (hover : parties.Over store view quiet)
    {now₁ now₂ : Instant} {c₁ c₂ : Check} {s s₁ s₂ : Shared σ} {r₁ : CheckResult}
    (hestablish : c₁.action = .establish)
    (hestablished : perform parties (e.execute now₁ c₁) s = (some (.ok r₁), s₁))
    (hmeanwhile : Relation.ReflTransGen (e.Meanwhile parties view quiet c₁.baseline) s₁ s₂)
    (haction : c₂.action ≠ .establish) (hbaseline : c₂.baseline = c₁.baseline)
    (hacceptable : ∀ v, c₂.acceptable = some v → v ≤ 100)
    (hrequired : ∀ v, c₂.required = some v → v ≤ 100)
    (hparameters : e.parameters c₂ = e.parameters c₁) (hignores : c₂.ignores = c₁.ignores)
    (hpage : ∀ context plan, c₁.context = some context →
      s.composer.planFor (e.parameters c₁) = .ok plan →
      ∃ context', c₂.context = some context' ∧
        parties.LookAlike plan c₁.ignores context context') :
    ∃ r s₃, perform parties (e.execute now₂ c₂) s₂ = (some (.ok r), s₃) ∧
      (c₂.action = .compare → r.verdict = some true) ∧
      (c₂.action = .checkInequality → r.verdict = some false) ∧
      r.FindsUnchanged e.policy.tolerance r₁.checkpoint := by
  have hlasting := hstore.lasting hcodec
  have hplans₁ : ∀ q, s₁.composer.planFor q = s.composer.planFor q := by
    intro q
    rw [← planFor_execute e now₁ c₁ s q, hestablished]
  rw [execute_of_establish hestablish] at hestablished
  obtain ⟨-, img, s', himage, hsave, rfl, rfl⟩ := perform_establish_ok.1 hestablished
  -- what was kept is the image that was taken, and it is there until the later check loads it
  have hkept := hover.save c₁.baseline img (parties.load c₁.baseline s'.world).2
  rw [hsave] at hkept
  obtain ⟨hload, hplans₂⟩ := load_meanwhile hover hlasting hmeanwhile
    (hkept.2 ▸ hlasting.saved c₁.baseline img _ hkept.1.symm)
  have hagain := takeImage_again himage (fun q => (hplans₂ q).trans (hplans₁ q)) hparameters
    hignores hpage
  have hfound := (hover.load c₂.baseline (perform parties (e.takeImage c₂) s₂).2.world).1
  rw [hbaseline, load_takeImage hover hlasting hload, ← hbaseline] at hfound
  obtain ⟨r, s₃, hperform, hverdict, hfinds⟩ := execute_of_unchanged now₂ haction
    (Check.validate_eq_ok_iff.2 ⟨hacceptable, hrequired⟩) (Prod.ext hagain rfl) hfound
  refine ⟨r, s₃, hperform, fun hcompare => ?_, fun hinequality => ?_, hfinds⟩
  · rw [hverdict, hcompare]
    rfl
  · rw [hverdict, hinequality]
    rfl

end Engine

end Stability

namespace Engine

open CheckProgram

namespace FoundAgain

open BaselineDirectory.SevenCalls

/-- A page of two pixels, next to a directory that is missing at first. -/
def parties : Collaborators FileSystem :=
  .ofStore (fun _ _ _ => .ok [⟨2, 1, #[⟨1, 2, 3, 4⟩, ⟨8, 7, 6, 5⟩], rfl⟩])
    (fun _ locator => locator.resolveAsArea) (shots.store Png.codec)

def shared : Shared FileSystem := ⟨.standard, .empty⟩

/-- A check of the page that ignores its first pixel. -/
def check (baseline : BaselineKey) (action : Action) : Check where
  id := ⟨"1"⟩
  baseline
  action
  ignores := ⟨none, some (.ofList [.area ⟨0, 0, 1, 1⟩])⟩
  context := some ⟨"page"⟩

/-- The first check makes the directory and keeps its image there. -/
theorem exists_established : ∃ r s, perform parties
    (({} : Engine).execute ⟨0, 0⟩ (check home .establish)) shared = (some (.ok r), s) := by
  obtain ⟨img, s₁, himage, hpixels, hworld⟩ : ∃ img s₁,
      perform parties (({} : Engine).takeImage (check home .establish)) shared =
        (some (.ok img), s₁) ∧ img.isEmpty = false ∧ s₁.world = .empty :=
    ⟨_, _, rfl, rfl, rfl⟩
  have hsave := (fresh_shots.mirrors.save Png.codec_lossless storable_home hpixels).1
  rw [← hworld] at hsave
  exact ⟨_, _, perform_establish_ok.2 ⟨rfl, img, s₁, himage, hsave, rfl, rfl⟩⟩

end FoundAgain

open FoundAgain BaselineDirectory.SevenCalls in
/-- Another baseline is established, and the same one is not for want of a page.  Then the check
that hopes for a difference fails, although it would be content with the smallest one. -/
theorem established_then_unchanged_in_files : ∃ r₁ s₁ s₂ r s₃,
    perform parties (({} : Engine).execute ⟨0, 0⟩ (check home .establish)) shared =
        (some (.ok r₁), s₁) ∧
      Relation.ReflTransGen (Meanwhile {} parties id shots.Undisturbed home) s₁ s₂ ∧
      perform parties (({} : Engine).execute ⟨3, 0⟩
          { check home .checkInequality with required := some 0 }) s₂ = (some (.ok r), s₃) ∧
      r.verdict = some false ∧ r.baseline = some r₁.checkpoint := by
  obtain ⟨r₁, s₁, hestablished⟩ := exists_established
  have hother : ∀ s, Meanwhile {} parties id shots.Undisturbed home s _ := fun s =>
    .call ⟨1, 0⟩ (check homeTmp .establish) s fun _ hkey => absurd hkey (by decide)
  have hpageless : ∀ s, Meanwhile {} parties id shots.Undisturbed home s _ := fun s =>
    .call ⟨2, 0⟩ { check home .establish with context := none } s fun _ _ _ h => by cases h
  have hmeanwhile := Relation.ReflTransGen.tail (.single (hother s₁)) (hpageless _)
  obtain ⟨r, s₃, hperform, -, hverdict, hfinds⟩ : ∃ r s₃, perform parties
      (({} : Engine).execute ⟨3, 0⟩ { check home .checkInequality with required := some 0 }) _ =
        (some (.ok r), s₃) ∧ _ :=
    established_then_unchanged Png.codec_lossless (.directory shots)
      (Collaborators.over_ofStore (BaselineDirectory.Undisturbed.refl shots)) rfl hestablished
      hmeanwhile (by decide) rfl (fun _ h => by cases h) (fun _ h => by cases h; decide) rfl rfl
      fun context plan hcontext _ =>
        ⟨context, hcontext, fun _ _ => rfl, fun _ _ _ _ _ _ => rfl, fun _ _ _ => rfl⟩
  exact ⟨r₁, s₁, _, r, s₃, hestablished, hmeanwhile, hperform, hverdict rfl, hfinds.baseline⟩

end Engine

end VisualRegression
