import Mathlib.Data.List.Forall2
import VisualRegression.Proofs.Capture.Composer
import VisualRegression.Proofs.Check.Verdict
import VisualRegression.Proofs.Ordered.Set

/-!
# Two runs side by side

Two courses are run, each from a state of its own, and compared.  `AgreeFrom` says that they come to
the same and leave worlds that are alike, in a sense that is a parameter, and `Agree` that they do
so from any two states whose worlds are alike.  Both are put together as the courses are
(`AgreeFrom.bind`, `Agree.foldlM`).  A check takes an image and then does what is left of it
(`execute_eq_finish`).  The image is the end of a course that comes after the capture (`maskImage`),
and two runs of it agree if masking makes the two images the same (`agreeFrom_maskImage`).
-/

namespace VisualRegression

variable {α β γ σ : Type}

/-! ## Programs put together in another way -/

namespace Program

theorem bind_done (p : Program α) : p.bind done = p := by
  induction p with
  | done a => rfl
  | plan q next ih => exact congrArg (plan q) (funext ih)
  | capture context q next ih => exact congrArg (capture context q) (funext ih)
  | resolve context locator next ih => exact congrArg (resolve context locator) (funext ih)
  | present snapshot next ih => exact congrArg (present snapshot) ih
  | load key next ih => exact congrArg (load key) (funext ih)
  | save key img next ih => exact congrArg (save key img) (funext ih)

theorem bind_assoc (p : Program α) (f : α → Program β) (g : β → Program γ) :
    (p.bind f).bind g = p.bind fun a => (f a).bind g := by
  induction p with
  | done a => rfl
  | plan q next ih => exact congrArg (plan q) (funext ih)
  | capture context q next ih => exact congrArg (capture context q) (funext ih)
  | resolve context locator next ih => exact congrArg (resolve context locator) (funext ih)
  | present snapshot next ih => exact congrArg (present snapshot) ih
  | load key next ih => exact congrArg (load key) (funext ih)
  | save key img next ih => exact congrArg (save key img) (funext ih)

instance : LawfulMonad Program := .mk' Program bind_done (fun _ _ => rfl) bind_assoc

end Program

/-! ## Agreement -/

namespace CheckProgram

/-- Two courses come to the same, each from its own state, and leave worlds that are alike. -/
def AgreeFrom (parties : Collaborators σ) (alike : σ → σ → Prop) (x x' : CheckProgram α)
    (s s' : Shared σ) : Prop :=
  (perform parties x s).1 = (perform parties x' s').1 ∧
    alike (perform parties x s).2.world (perform parties x' s').2.world

/-- Two courses come to the same from any two states whose worlds are alike. -/
def Agree (parties : Collaborators σ) (alike : σ → σ → Prop) (x x' : CheckProgram α) : Prop :=
  ∀ s s', alike s.world s'.world → AgreeFrom parties alike x x' s s'

variable {parties : Collaborators σ} {alike : σ → σ → Prop} {s s' : Shared σ}

theorem perform_plan_planFor (q : CaptureParameters) :
    perform parties (plan q) s =
      (some ((s.composer.planFor q).mapError .capture),
        { s with composer := (s.composer.build q).2 }) :=
  perform_plan q

theorem agree_pure (a : α) : Agree parties alike (pure a) (pure a) := fun _ _ h => ⟨rfl, h⟩

theorem agree_mk_pure (r : Except CheckFault α) :
    Agree parties alike (ExceptT.mk (pure r)) (ExceptT.mk (pure r)) := fun _ _ h => ⟨rfl, h⟩

/-- **Courses that begin in agreement agree if they go on so.** -/
theorem AgreeFrom.bind {x x' : CheckProgram α} {f f' : α → CheckProgram β}
    (hx : AgreeFrom parties alike x x' s s')
    (hf : ∀ a s₁ s₁', perform parties x s = (some (.ok a), s₁) →
      perform parties x' s' = (some (.ok a), s₁') → alike s₁.world s₁'.world →
      AgreeFrom parties alike (f a) (f' a) s₁ s₁') :
    AgreeFrom parties alike (x >>= f) (x' >>= f') s s' := by
  obtain ⟨hanswer, halike⟩ := hx
  unfold AgreeFrom
  rw [perform_bind, perform_bind]
  rcases h : perform parties x s with ⟨answer, s₁⟩
  rcases h' : perform parties x' s' with ⟨answer', s₁'⟩
  rw [h, h'] at hanswer halike
  obtain rfl : answer = answer' := hanswer
  rcases answer with _ | fault | a
  · exact ⟨rfl, halike⟩
  · exact ⟨rfl, halike⟩
  · exact hf a s₁ s₁' h h' halike

theorem Agree.bind {x x' : CheckProgram α} {f f' : α → CheckProgram β}
    (hx : Agree parties alike x x') (hf : ∀ a, Agree parties alike (f a) (f' a)) :
    Agree parties alike (x >>= f) (x' >>= f') :=
  fun s s' h => (hx s s' h).bind fun a s₁ s₁' _ _ halike => hf a s₁ s₁' halike

theorem Agree.foldlM {f f' : β → α → CheckProgram β} {l : List α}
    (h : ∀ b, ∀ a ∈ l, Agree parties alike (f b a) (f' b a)) (b : β) :
    Agree parties alike (l.foldlM f b) (l.foldlM f' b) := by
  induction l generalizing b with
  | nil => exact agree_pure b
  | cons a l ih =>
    rw [List.foldlM_cons, List.foldlM_cons]
    exact (h b a List.mem_cons_self).bind fun b' =>
      ih (fun b a ha => h b a (List.mem_cons_of_mem _ ha)) b'

end CheckProgram

/-- The locator is to be ignored, for a reason of this kind. -/
def LocatorMap.Lists (locators : LocatorMap) (k : IgnoreKind) (locator : Locator) : Prop :=
  ∃ set, locators.get? k = some set ∧ locator ∈ set

/-- To mask an image leaves as many snapshots, whatever the image. -/
theorem Mask.length_snapshots (color : Pixel) (ignores : IgnoreMap) (topAdjustment : Int32)
    (img img' : Image) :
    (apply color img ignores topAdjustment).2.length =
      (apply color img' ignores topAdjustment).2.length := by
  have hfold : ∀ (kinds : List IgnoreKind) (sofar sofar' : Image × List Snapshot),
      sofar.2.length = sofar'.2.length →
      (kinds.foldl (step color ignores topAdjustment) sofar).2.length =
        (kinds.foldl (step color ignores topAdjustment) sofar').2.length := by
    intro kinds
    induction kinds with
    | nil => exact fun _ _ h => h
    | cons k rest ih =>
      intro sofar sofar' h
      refine ih _ _ ?_
      unfold step
      rcases regions? ignores k with _ | regions
      · exact h
      · show (sofar.2 ++ [_]).length = (sofar'.2 ++ [_]).length
        rw [List.length_append, List.length_append, h]
        rfl
  exact hfold IgnoreKind.ordered (img, []) (img', []) rfl

namespace Engine

open CheckProgram

variable {parties : Collaborators σ} {alike : σ → σ → Prop} {context context' : SearchContext}
  {locators : LocatorMap}

/-- What is left of a check to be done once its image was taken. -/
def finish (e : Engine) (now : Instant) (c : Check) (img : Image) : CheckProgram CheckResult :=
  if c.action = .establish then do
    let previous ← loadIfReadable c.baseline
    CheckProgram.save c.baseline img
    return .established c now img previous
  else do
    match ← CheckProgram.load c.baseline with
    | none => return .baselineMissing c now img
    | some baseline => ExceptT.mk (pure (e.judge now c img baseline c.ownPercentage))

/-- **A check is validated, takes its image and does the rest.** -/
theorem execute_eq_finish (e : Engine) (now : Instant) (c : Check) :
    e.execute now c = (do
      ExceptT.mk (pure c.validate)
      let img ← e.takeImage c
      e.finish now c img) := by
  by_cases hc : c.action = .establish
  · rw [execute_of_establish hc]
    exact bind_congr fun _ => bind_congr fun img => (if_pos hc).symm
  · rw [execute_of_ne_establish hc, compareWithBaseline_of_some (Check.threshold?_eq hc)]
    exact bind_congr fun _ => bind_congr fun img => (if_neg hc).symm

/-- What is left of a check's image to be taken once the tiles are put together. -/
def maskImage (e : Engine) (context : SearchContext) (locators : LocatorMap)
    (topAdjustment : Int32) (img : Image) : CheckProgram Image := do
  let ignores ← resolveIgnores context locators
  let masked := Mask.apply e.policy.maskColor img ignores topAdjustment
  presentAll masked.2
  return masked.1

theorem takeImage_eq_maskImage {e : Engine} {c : Check} (h : c.context = some context) :
    e.takeImage c = (do
      let plan ← CheckProgram.plan (e.parameters c)
      let tiles ← CheckProgram.capture context plan
      let img ← ExceptT.mk (pure ((plan.assemble tiles).mapError .capture))
      e.maskImage context c.ignores plan.topAdjustment img) :=
  takeImage_of_some h

/-- **Places are resolved alike** if those of each element are. -/
theorem agree_resolveIgnores
    (h : ∀ k locator, locators.Lists k locator → (∀ r, locator ≠ .area r) →
      Agree parties alike (CheckProgram.resolve context locator)
        (CheckProgram.resolve context' locator)) :
    Agree parties alike (resolveIgnores context locators) (resolveIgnores context' locators) := by
  have one : ∀ k locator, locators.Lists k locator → ∀ found,
      Agree parties alike (resolveOne context found locator)
        (resolveOne context' found locator) := by
    intro k locator hlists found
    cases locator with
    | area r => exact agree_pure _
    | css _ | xpath _ => exact (h k _ hlists fun r hr => by cases hr).bind fun _ => agree_pure _
  have kind : ∀ k, Agree parties alike (resolveKind context (locators.get? k))
      (resolveKind context' (locators.get? k)) := by
    intro k
    cases hset : locators.get? k with
    | none => exact agree_pure _
    | some set =>
      refine Agree.bind (Agree.foldlM (fun found locator hmem => ?_) ∅) fun _ => agree_pure _
      exact one k locator ⟨set, hset, hmem⟩ found
  exact (kind .element).bind fun _ => (kind .area).bind fun _ => agree_pure _

/-- Two images are shown alike: the same comes of it, and the worlds stay alike. -/
def ShownAlike (parties : Collaborators σ) (alike : σ → σ → Prop) (snapshot snapshot' : Snapshot) :
    Prop :=
  ∀ w w', alike w w' → (parties.observe snapshot w).1 = (parties.observe snapshot' w').1 ∧
    alike (parties.present snapshot w) (parties.present snapshot' w')

/-- Images are shown alike if each of them is. -/
theorem agree_presentAll {snapshots snapshots' : List Snapshot}
    (h : List.Forall₂ (ShownAlike parties alike) snapshots snapshots') :
    Agree parties alike (presentAll snapshots) (presentAll snapshots') := by
  induction h with
  | nil => exact agree_pure ()
  | @cons snapshot snapshot' rest rest' hone _ ih =>
    have hfirst : Agree parties alike (CheckProgram.present snapshot)
        (CheckProgram.present snapshot') := by
      intro s s' halike
      obtain ⟨hanswer, hafter⟩ := hone _ _ halike
      unfold AgreeFrom
      rw [perform_present, perform_present, hanswer]
      exact ⟨rfl, hafter⟩
    exact hfirst.bind fun _ => ih

/-- **Two images are finished alike** if masking makes them the same. -/
theorem agreeFrom_maskImage {e : Engine} {topAdjustment : Int32} {img img' : Image}
    {s s' : Shared σ} (hworlds : alike s.world s'.world)
    (hresolve : Agree parties alike (resolveIgnores context locators)
      (resolveIgnores context' locators))
    (hshown : ∀ ignores, List.Forall₂ (ShownAlike parties alike)
      (Mask.apply e.policy.maskColor img ignores topAdjustment).2
      (Mask.apply e.policy.maskColor img' ignores topAdjustment).2)
    (hmasked : ∀ ignores s₁,
      perform parties (resolveIgnores context locators) s = (some (.ok ignores), s₁) →
      (Mask.apply e.policy.maskColor img ignores topAdjustment).1 =
        (Mask.apply e.policy.maskColor img' ignores topAdjustment).1) :
    AgreeFrom parties alike (e.maskImage context locators topAdjustment img)
      (e.maskImage context' locators topAdjustment img') s s' := by
  refine (hresolve s s' hworlds).bind fun ignores s₁ s₁' hignores _ halike => ?_
  dsimp only
  rw [hmasked ignores s₁ hignores]
  have hshow := agree_presentAll (hshown ignores)
  exact (hshow s₁ s₁' halike).bind fun _ s₂ s₂' _ _ halike => agree_pure _ s₂ s₂' halike

end Engine

end VisualRegression
