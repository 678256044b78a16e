import VisualRegression.Proofs.Check.Course

/-!
# Which baselines a check asks for

`StoreWithin` bounds the baselines that a program loads and those that it keeps, whatever the
answers on the way.  Taking an image asks for none (`takeImage_storeWithin`), a comparison keeps
none (`compareWithBaseline_storeWithin`), and a whole check asks for its own alone
(`execute_storeWithin`).  What each request leaves alone a whole program does
(`Program.run_preserves`), where it matters only which baselines it may keep.
-/

namespace VisualRegression

variable {α β σ : Type}

/-- The program loads and keeps only the baselines that it may load and may keep. -/
def Program.StoreWithin (loads keeps : BaselineKey → Prop) : Program α → Prop
  | done _ => True
  | plan _ next => ∀ r, (next r).StoreWithin loads keeps
  | capture _ _ next => ∀ r, (next r).StoreWithin loads keeps
  | resolve _ _ next => ∀ r, (next r).StoreWithin loads keeps
  | present _ next => next.StoreWithin loads keeps
  | load key next => loads key ∧ ∀ r, (next r).StoreWithin loads keeps
  | save key _ next => keeps key ∧ ∀ r, (next r).StoreWithin loads keeps

variable {loads keeps : BaselineKey → Prop}

theorem Program.StoreWithin.bind {p : Program α} {f : α → Program β}
    (hp : p.StoreWithin loads keeps) (hf : ∀ a, (f a).StoreWithin loads keeps) :
    (p.bind f).StoreWithin loads keeps := by
  induction p with
  | done a => exact hf a
  | plan q next ih => exact fun r => ih r (hp r)
  | capture context q next ih => exact fun r => ih r (hp r)
  | resolve context locator next ih => exact fun r => ih r (hp r)
  | present s next ih => exact ih hp
  | load key next ih => exact ⟨hp.1, fun r => ih r (hp.2 r)⟩
  | save key img next ih => exact ⟨hp.1, fun r => ih r (hp.2 r)⟩

/-- **Each request preserves a property of states**, whatever is answered, as long as none but
certain baselines are kept. -/
structure Collaborators.Preserve (parties : Collaborators σ) (keeps : BaselineKey → Prop)
    (P : Shared σ → Prop) : Prop where
  plan : ∀ q s, P s → P { s with composer := (s.composer.build q).2 }
  capture : ∀ context q s, P s → P { s with world := (parties.capture context q s.world).2 }
  resolve : ∀ context locator s, P s →
    P { s with world := (parties.resolve context locator s.world).2 }
  present : ∀ snapshot s, P s → P { s with world := parties.present snapshot s.world }
  load : ∀ key s, P s → P { s with world := (parties.load key s.world).2 }
  save : ∀ key img s, keeps key → P s → P { s with world := (parties.save key img s.world).2 }

/-- **What each request preserves a program preserves**, also where a party breaks off. -/
theorem Program.run_preserves {parties : Collaborators σ} {P : Shared σ → Prop} {s : Shared σ}
    (h : parties.Preserve keeps P) {p : Program α} (hp : p.StoreWithin loads keeps) (hs : P s) :
    P (p.run parties s).2 := by
  induction p generalizing s with
  | done a => exact hs
  | plan q next ih => exact ih _ (hp _) (h.plan q s hs)
  | capture context q next ih =>
    have hafter := h.capture context q s hs
    rw [run]
    rcases hc : parties.capture context q s.world with ⟨_ | answer, world⟩
    all_goals rw [hc] at hafter
    · exact hafter
    · exact ih _ (hp _) hafter
  | resolve context locator next ih =>
    have hafter := h.resolve context locator s hs
    rw [run]
    rcases hc : parties.resolve context locator s.world with ⟨_ | answer, world⟩
    all_goals rw [hc] at hafter
    · exact hafter
    · exact ih _ (hp _) hafter
  | present snapshot next ih =>
    have hafter := h.present snapshot s hs
    rw [run]
    rcases hc : parties.observe snapshot s.world with ⟨_ | ⟨⟩, world⟩
    all_goals obtain ⟨-, rfl⟩ := Prod.mk.inj hc
    · exact hafter
    · exact ih hp hafter
  | load key next ih => exact ih _ (hp.2 _) (h.load key s hs)
  | save key img next ih => exact ih _ (hp.2 _) (h.save key img s hp.1 hs)

namespace CheckProgram

/-- The course loads and keeps only the baselines that it may load and may keep. -/
def StoreWithin (loads keeps : BaselineKey → Prop) (x : CheckProgram α) : Prop :=
  Program.StoreWithin loads keeps x.run

theorem storeWithin_pure (a : α) : StoreWithin loads keeps (pure a : CheckProgram α) := trivial

theorem storeWithin_throw (fault : CheckFault) :
    StoreWithin loads keeps (throw fault : CheckProgram α) := trivial

theorem storeWithin_mk_pure (r : Except CheckFault α) :
    StoreWithin loads keeps (ExceptT.mk (pure r) : CheckProgram α) := trivial

theorem StoreWithin.bind {x : CheckProgram α} {f : α → CheckProgram β}
    (hx : StoreWithin loads keeps x) (hf : ∀ a, StoreWithin loads keeps (f a)) :
    StoreWithin loads keeps (x >>= f) := by
  refine Program.StoreWithin.bind hx fun r => ?_
  rcases r with fault | a
  · exact trivial
  · exact hf a

theorem storeWithin_foldlM {f : β → α → CheckProgram β}
    (hf : ∀ b a, StoreWithin loads keeps (f b a)) (l : List α) (b : β) :
    StoreWithin loads keeps (l.foldlM f b) := by
  induction l generalizing b with
  | nil => exact storeWithin_pure b
  | cons a l ih =>
    rw [List.foldlM_cons]
    exact (hf b a).bind ih

end CheckProgram

namespace Engine

open CheckProgram

theorem resolveIgnores_storeWithin (context : SearchContext) (locators : LocatorMap) :
    StoreWithin loads keeps (resolveIgnores context locators) := by
  have one : ∀ found locator, StoreWithin loads keeps (resolveOne context found locator) := by
    intro found locator
    cases locator with
    | area r => exact storeWithin_pure _
    | css _ | xpath _ =>
      have hr : ∀ l, StoreWithin loads keeps (CheckProgram.resolve context l) :=
        fun _ _ => trivial
      exact (hr _).bind fun _ => storeWithin_pure _
  have kind : ∀ set, StoreWithin loads keeps (resolveKind context set) := by
    intro set
    rcases set with _ | set
    · exact storeWithin_pure _
    · exact (storeWithin_foldlM one _ _).bind fun _ => storeWithin_pure _
  exact (kind _).bind fun _ => (kind _).bind fun _ => storeWithin_pure _

theorem presentAll_storeWithin (snapshots : List Snapshot) :
    StoreWithin loads keeps (presentAll snapshots) := by
  induction snapshots with
  | nil => exact storeWithin_pure _
  | cons s rest ih =>
    have hs : StoreWithin loads keeps (present s) := trivial
    exact hs.bind fun _ => ih

variable (e : Engine) (now : Instant) (c : Check)

/-- **Taking an image asks for no baseline.** -/
theorem takeImage_storeWithin : StoreWithin loads keeps (e.takeImage c) := by
  cases hc : c.context with
  | none =>
    rw [takeImage_of_none hc]
    exact storeWithin_throw _
  | some context =>
    rw [takeImage_of_some hc]
    have hplan : StoreWithin loads keeps (CheckProgram.plan (e.parameters c)) := fun _ => trivial
    refine hplan.bind fun plan => ?_
    have hcapture : StoreWithin loads keeps (CheckProgram.capture context plan) := fun _ => trivial
    refine hcapture.bind fun tiles => (storeWithin_mk_pure _).bind fun img => ?_
    exact (resolveIgnores_storeWithin _ _).bind fun _ =>
      (presentAll_storeWithin _).bind fun _ => storeWithin_pure _

/-- **A comparison keeps no baseline**, and loads that of its check alone. -/
theorem compareWithBaseline_storeWithin (hl : loads c.baseline) :
    StoreWithin loads keeps (e.compareWithBaseline now c) := by
  have hload : StoreWithin loads keeps (CheckProgram.load c.baseline) := ⟨hl, fun _ => trivial⟩
  cases ht : c.threshold? with
  | none =>
    rw [compareWithBaseline_of_none ht]
    exact (storeWithin_mk_pure _).bind fun _ => storeWithin_throw _
  | some percentage =>
    rw [compareWithBaseline_of_some ht]
    refine (storeWithin_mk_pure _).bind fun _ => (takeImage_storeWithin e c).bind fun img =>
      hload.bind fun found => ?_
    rcases found with _ | baseline
    · exact storeWithin_pure _
    · exact storeWithin_mk_pure _

/-- **A check asks for its own baseline alone.** -/
theorem execute_storeWithin :
    StoreWithin (· = c.baseline) (· = c.baseline) (e.execute now c) := by
  have hload : StoreWithin (· = c.baseline) (· = c.baseline) (loadIfReadable c.baseline) :=
    ⟨rfl, fun _ => trivial⟩
  have hsave : ∀ img, StoreWithin (· = c.baseline) (· = c.baseline)
      (CheckProgram.save c.baseline img) := fun _ => ⟨rfl, fun _ => trivial⟩
  unfold execute
  cases c.action with
  | establish =>
    exact (storeWithin_mk_pure _).bind fun _ => (takeImage_storeWithin e c).bind fun img =>
      hload.bind fun _ => (hsave img).bind fun _ => storeWithin_pure _
  | compare | checkInequality => exact compareWithBaseline_storeWithin e now c rfl

end Engine

end VisualRegression
