import VisualRegression.Proofs.Capture.Composer
import VisualRegression.Proofs.Check.Alike
import VisualRegression.Proofs.Failing
import VisualRegression.Proofs.Mask.Covered

/-!
# Which places are looked up

`Program.lookups` lists what a run asks the resolver for and what it is answered.  A check asks for
nothing but the elements that it is to ignore, an area being its own place
(`mem_lookups_resolveIgnores`), and for all of these (`answered_resolveIgnores`).  The regions that
come of it are the areas and the places that were answered (`has_resolveIgnores`).  All look-ups of
a check are made where its ignored regions are resolved (`lookups_execute`).
-/

namespace VisualRegression

variable {α β σ : Type}

/-- A locator that was looked up, and its places, unless the resolver broke off. -/
abbrev Lookup := Locator × Option (Except CheckFault (OrderedSet Rect))

namespace Program

/-- The look-ups of a run, in their order. -/
def lookups (parties : Collaborators σ) : Program α → Shared σ → List Lookup
  | done _, _ => []
  | plan q next, s =>
    (next (s.composer.planFor q)).lookups parties { s with composer := (s.composer.build q).2 }
  | capture context q next, s =>
    match parties.capture context q s.world with
    | (some answer, world) => (next answer).lookups parties { s with world }
    | (none, _) => []
  | resolve context locator next, s =>
    match parties.resolve context locator s.world with
    | (some answer, world) =>
      (locator, some answer) :: (next answer).lookups parties { s with world }
    | (none, _) => [(locator, none)]
  | present snapshot next, s =>
    match parties.observe snapshot s.world with
    | (some (), world) => next.lookups parties { s with world }
    | (none, _) => []
  | load key next, s =>
    (next (parties.load key s.world).1).lookups parties
      { s with world := (parties.load key s.world).2 }
  | save key img next, s =>
    (next (parties.save key img s.world).1).lookups parties
      { s with world := (parties.save key img s.world).2 }

/-- A course looks up what its first part does and then, unless a party broke off there, what its
second part does. -/
theorem lookups_bind (parties : Collaborators σ) (p : Program α) (f : α → Program β)
    (s : Shared σ) :
    (p >>= f).lookups parties s = p.lookups parties s ++
      match p.run parties s with
      | (some a, s') => (f a).lookups parties s'
      | (none, _) => [] := by
  change (p.bind f).lookups parties s = _
  induction p generalizing s with
  | done a => rfl
  | plan q next ih => exact ih _ _
  | capture context q next ih =>
    simp only [bind, lookups, run]
    rcases parties.capture context q s.world with ⟨_ | answer, world⟩
    · rfl
    · exact ih _ _
  | resolve context locator next ih =>
    simp only [bind, lookups, run]
    rcases parties.resolve context locator s.world with ⟨_ | answer, world⟩
    · rfl
    · exact congrArg (_ :: ·) (ih _ _)
  | present snapshot next ih =>
    simp only [bind, lookups, run]
    rcases parties.observe snapshot s.world with ⟨_ | ⟨⟩, world⟩
    · rfl
    · exact ih _
  | load key next ih => exact ih _ _
  | save key img next ih => exact ih _ _

end Program

namespace CheckProgram

/-- The look-ups of a course. -/
def lookups (parties : Collaborators σ) (x : CheckProgram α) (s : Shared σ) : List Lookup :=
  Program.lookups parties x.run s

variable {parties : Collaborators σ} {s s' : Shared σ} {a : α}

@[simp] theorem lookups_pure (a : α) : lookups parties (pure a : CheckProgram α) s = [] := rfl

theorem lookups_bind (x : CheckProgram α) (f : α → CheckProgram β) :
    lookups parties (x >>= f) s = lookups parties x s ++
      match perform parties x s with
      | (some (.ok a), s') => lookups parties (f a) s'
      | _ => [] := by
  change Program.lookups parties (x.run >>= ExceptT.bindCont f) s = _
  rw [Program.lookups_bind]
  unfold perform lookups
  rcases Program.run parties x.run s with ⟨_ | _ | a, s'⟩ <;> rfl

theorem lookups_bind_ok {x : CheckProgram α} {f : α → CheckProgram β}
    (h : perform parties x s = (some (.ok a), s')) :
    lookups parties (x >>= f) s = lookups parties x s ++ lookups parties (f a) s' := by
  rw [lookups_bind, h]

/-- What is done after a course adds no look-up if it never makes any. -/
theorem lookups_bind_of_nil {x : CheckProgram α} {f : α → CheckProgram β}
    (h : ∀ a s', lookups parties (f a) s' = []) :
    lookups parties (x >>= f) s = lookups parties x s := by
  rw [lookups_bind]
  rcases perform parties x s with ⟨_ | _ | a, s'⟩
  · exact List.append_nil _
  · exact List.append_nil _
  · exact (congrArg (_ ++ ·) (h a s')).trans (List.append_nil _)

/-- What is looked up in a course is looked up in one of its parts. -/
theorem mem_lookups_bind {x : CheckProgram α} {f : α → CheckProgram β} {lookup : Lookup}
    (h : lookup ∈ lookups parties (x >>= f) s) :
    lookup ∈ lookups parties x s ∨ ∃ a s', lookup ∈ lookups parties (f a) s' := by
  rw [lookups_bind] at h
  rcases List.mem_append.1 h with h | h
  · exact .inl h
  · rcases hx : perform parties x s with ⟨_ | _ | a, s'⟩ <;> rw [hx] at h
    · cases h
    · cases h
    · exact .inr ⟨a, s', h⟩

theorem mem_lookups_foldlM {f : β → α → CheckProgram β} {l : List α} {lookup : Lookup} {b : β}
    (h : lookup ∈ lookups parties (l.foldlM f b) s) :
    ∃ b, ∃ a ∈ l, ∃ s, lookup ∈ lookups parties (f b a) s := by
  induction l generalizing b s with
  | nil => cases h
  | cons a l ih =>
    rw [List.foldlM_cons] at h
    rcases mem_lookups_bind h with h | ⟨b', s', h⟩
    · exact ⟨b, a, List.mem_cons_self, s, h⟩
    · obtain ⟨b, a', ha', s, hlookup⟩ := ih h
      exact ⟨b, a', List.mem_cons_of_mem _ ha', s, hlookup⟩

end CheckProgram

/-- A rectangle is among the places that look-ups were answered with. -/
def Finds (lookups : List Lookup) (r : Rect) : Prop :=
  ∃ locator places, (locator, some (.ok places)) ∈ lookups ∧ r ∈ places

@[simp] theorem not_finds_nil (r : Rect) : ¬ Finds [] r := by
  rintro ⟨locator, places, hmem, -⟩
  cases hmem

theorem finds_append {l m : List Lookup} {r : Rect} :
    Finds (l ++ m) r ↔ Finds l r ∨ Finds m r := by
  simp only [Finds, List.mem_append, or_and_right, exists_or]

theorem finds_singleton {locator : Locator} {places : OrderedSet Rect} {r : Rect} :
    Finds [(locator, some (.ok places))] r ↔ r ∈ places := by
  constructor
  · rintro ⟨_, _, hmem, hr⟩
    cases List.mem_singleton.1 hmem
    exact hr
  · exact fun hr => ⟨locator, places, List.mem_singleton_self _, hr⟩

/-- A page can be captured, and this image is put together from its tiles. -/
def Collaborators.Captures (parties : Collaborators σ) (context : SearchContext)
    (plan : CapturePlan) (w : σ) (img : Image) : Prop :=
  ∃ tiles, (parties.capture context plan w).1 = some (.ok tiles) ∧ plan.assemble tiles = .ok img

namespace Engine

open CheckProgram

variable {parties : Collaborators σ} {s s' : Shared σ} {context : SearchContext}
  {locators : LocatorMap} {lookup : Lookup} {r : Rect}

/-! ## What is looked up -/

theorem lookups_resolve (context : SearchContext) (locator : Locator) :
    lookups parties (CheckProgram.resolve context locator) s =
      [(locator, (parties.resolve context locator s.world).1)] := by
  unfold lookups
  change Program.lookups parties (.resolve context locator .done) s = _
  rw [Program.lookups]
  rcases parties.resolve context locator s.world with ⟨_ | answer, world⟩ <;> rfl

theorem lookups_resolveOne {locator : Locator} (h : ∀ r, locator ≠ .area r)
    (found : OrderedSet Rect) :
    lookups parties (resolveOne context found locator) s =
      [(locator, (parties.resolve context locator s.world).1)] := by
  cases locator with
  | area r => exact absurd rfl (h r)
  | css _ | xpath _ =>
    exact (lookups_bind_of_nil fun _ _ => rfl).trans (lookups_resolve context _)

theorem lookups_resolveKind (set : OrderedSet Locator) :
    lookups parties (resolveKind context (some set)) s =
      lookups parties (set.toList.foldlM (resolveOne context) ∅) s :=
  lookups_bind_of_nil fun _ _ => rfl

theorem mem_lookups_resolveKind {set : Option (OrderedSet Locator)}
    (h : lookup ∈ lookups parties (resolveKind context set) s) :
    (∀ r, lookup.1 ≠ .area r) ∧ ∃ locators, set = some locators ∧ lookup.1 ∈ locators := by
  cases set with
  | none => cases h
  | some locators =>
    rw [lookups_resolveKind] at h
    obtain ⟨found, locator, hmem, s', h⟩ := mem_lookups_foldlM h
    have harea : ∀ r, locator ≠ .area r := by
      rintro r rfl
      cases h
    rw [lookups_resolveOne harea] at h
    cases List.mem_singleton.1 h
    exact ⟨harea, locators, rfl, hmem⟩

/-- **Only elements that are to be ignored are looked up**, and never an area. -/
theorem mem_lookups_resolveIgnores
    (h : lookup ∈ lookups parties (resolveIgnores context locators) s) :
    (∀ r, lookup.1 ≠ .area r) ∧ ∃ k, locators.Lists k lookup.1 := by
  have kind : ∀ k s, lookup ∈ lookups parties (resolveKind context (locators.get? k)) s →
      (∀ r, lookup.1 ≠ .area r) ∧ ∃ k, locators.Lists k lookup.1 := by
    intro k s h
    obtain ⟨harea, set, hset, hmem⟩ := mem_lookups_resolveKind h
    exact ⟨harea, k, set, hset, hmem⟩
  rcases mem_lookups_bind h with h | ⟨element, s', h⟩
  · exact kind .element s h
  · rcases mem_lookups_bind h with h | ⟨area, s'', h⟩
    · exact kind .area s' h
    · cases h

/-! ## Nothing that is listed is left out -/

/-- An element that was resolved was looked up and answered, and its places were added. -/
theorem places_of_resolveOne {locator : Locator} {found found' : OrderedSet Rect}
    (hne : ∀ area, locator ≠ .area area)
    (h : perform parties (resolveOne context found locator) s = (some (.ok found'), s')) :
    ∃ places, found' = found.union places ∧
      lookups parties (resolveOne context found locator) s = [(locator, some (.ok places))] := by
  have hresolve : perform parties (CheckProgram.resolve context locator >>= fun places =>
      pure (found.union places)) s = (some (.ok found'), s') := by
    cases locator with
    | area area => exact absurd rfl (hne area)
    | css _ | xpath _ => exact h
  obtain ⟨places, s₁, hplaces, hunion⟩ := perform_bind_ok.1 hresolve
  rw [perform_resolve] at hplaces
  cases hunion
  refine ⟨places, rfl, ?_⟩
  rw [lookups_resolveOne hne, congrArg Prod.fst hplaces]

theorem answered_foldlM {l : List Locator} {found found' : OrderedSet Rect} {locator : Locator}
    (h : perform parties (l.foldlM (resolveOne context) found) s = (some (.ok found'), s'))
    (hmem : locator ∈ l) (hne : ∀ area, locator ≠ .area area) :
    ∃ places, (locator, some (.ok places)) ∈
      lookups parties (l.foldlM (resolveOne context) found) s := by
  induction l generalizing found s with
  | nil => cases hmem
  | cons first rest ih =>
    rw [List.foldlM_cons] at h ⊢
    obtain ⟨next, s₁, hnext, hrest⟩ := perform_bind_ok.1 h
    rw [lookups_bind_ok hnext]
    rcases List.mem_cons.1 hmem with rfl | hmem
    · obtain ⟨places, -, hlookups⟩ := places_of_resolveOne hne hnext
      rw [hlookups]
      exact ⟨places, List.mem_cons_self⟩
    · obtain ⟨places, hplaces⟩ := ih hrest hmem
      exact ⟨places, List.mem_append_right _ hplaces⟩

theorem answered_resolveKind {set : OrderedSet Locator} {found : Option (OrderedSet Rect)}
    {locator : Locator}
    (h : perform parties (resolveKind context (some set)) s = (some (.ok found), s'))
    (hmem : locator ∈ set) (hne : ∀ area, locator ≠ .area area) :
    ∃ places, (locator, some (.ok places)) ∈
      lookups parties (resolveKind context (some set)) s := by
  obtain ⟨places, s₁, hplaces, -⟩ := perform_bind_ok.1 h
  rw [lookups_resolveKind]
  exact answered_foldlM hplaces hmem hne

/-- **Every element that is to be ignored is looked up and answered**, whatever its kind, where the
regions to ignore are found. -/
theorem answered_resolveIgnores {ignores : IgnoreMap} {k : IgnoreKind} {locator : Locator}
    (h : perform parties (resolveIgnores context locators) s = (some (.ok ignores), s'))
    (hlists : locators.Lists k locator) (hne : ∀ area, locator ≠ .area area) :
    ∃ places, (locator, some (.ok places)) ∈
      lookups parties (resolveIgnores context locators) s := by
  obtain ⟨set, hset, hmem⟩ := hlists
  obtain ⟨element, s₁, helement, h⟩ := perform_bind_ok.1 h
  obtain ⟨area, s₂, harea, -⟩ := perform_bind_ok.1 h
  unfold resolveIgnores
  rw [lookups_bind_ok helement, lookups_bind_ok harea]
  cases k with
  | element =>
    rw [show locators.element = some set from hset] at helement ⊢
    obtain ⟨places, hplaces⟩ := answered_resolveKind helement hmem hne
    exact ⟨places, List.mem_append_left _ hplaces⟩
  | area =>
    rw [show locators.area = some set from hset] at harea ⊢
    obtain ⟨places, hplaces⟩ := answered_resolveKind harea hmem hne
    exact ⟨places, List.mem_append_right _ (List.mem_append_left _ hplaces)⟩

/-! ## The regions that come of it -/

/-- One locator adds itself, if it is an area, and else its places. -/
theorem mem_resolveOne {locator : Locator} {found found' : OrderedSet Rect}
    (h : perform parties (resolveOne context found locator) s = (some (.ok found'), s')) :
    r ∈ found' ↔ r ∈ found ∨ locator = .area r ∨
      Finds (lookups parties (resolveOne context found locator) s) r := by
  by_cases harea : ∃ area, locator = .area area
  · obtain ⟨area, rfl⟩ := harea
    cases h
    rw [OrderedSet.mem_insert]
    constructor
    · rintro (rfl | hr)
      · exact .inr (.inl rfl)
      · exact .inl hr
    · rintro (hr | harea | hfinds)
      · exact .inr hr
      · exact .inl (Locator.area.inj harea).symm
      · exact absurd hfinds (not_finds_nil r)
  · have hne : ∀ area, locator ≠ .area area := fun area heq => harea ⟨area, heq⟩
    obtain ⟨places, rfl, hlookups⟩ := places_of_resolveOne hne h
    rw [hlookups, finds_singleton, OrderedSet.mem_union]
    simp only [hne r, false_or]

/-- Locators one after the other add what each of them does. -/
theorem mem_foldlM_resolveOne {l : List Locator} {found found' : OrderedSet Rect}
    (h : perform parties (l.foldlM (resolveOne context) found) s = (some (.ok found'), s')) :
    r ∈ found' ↔ r ∈ found ∨ .area r ∈ l ∨
      Finds (lookups parties (l.foldlM (resolveOne context) found) s) r := by
  induction l generalizing found s with
  | nil =>
    cases h
    rw [List.foldlM_nil, lookups_pure]
    simp
  | cons locator rest ih =>
    rw [List.foldlM_cons] at h ⊢
    obtain ⟨next, s₁, hnext, hrest⟩ := perform_bind_ok.1 h
    rw [lookups_bind_ok hnext, finds_append, ih hrest, mem_resolveOne hnext, List.mem_cons,
      eq_comm (a := locator)]
    grind

/-- The places of a kind are those of its locators. -/
theorem lists_resolveKind {set : Option (OrderedSet Locator)} {found : Option (OrderedSet Rect)}
    (h : perform parties (resolveKind context set) s = (some (.ok found), s')) :
    (∃ places, found = some places ∧ r ∈ places) ↔
      (∃ locators, set = some locators ∧ .area r ∈ locators) ∨
        Finds (lookups parties (resolveKind context set) s) r := by
  cases set with
  | none =>
    cases h
    rw [show lookups parties (resolveKind context none) s = [] from rfl]
    simp
  | some locators =>
    obtain ⟨places, s₁, hplaces, hsome⟩ := perform_bind_ok.1 h
    cases hsome
    rw [lookups_resolveKind]
    simp only [Option.some.injEq, exists_eq_left']
    exact (mem_foldlM_resolveOne hplaces).trans (or_iff_right (OrderedSet.not_mem_empty r))

/-- **The regions to ignore** are the areas among the locators, of whatever kind, and the places
that were looked up. -/
theorem has_resolveIgnores {ignores : IgnoreMap}
    (h : perform parties (resolveIgnores context locators) s = (some (.ok ignores), s')) :
    ignores.Has r ↔ (∃ k, locators.Lists k (.area r)) ∨
      Finds (lookups parties (resolveIgnores context locators) s) r := by
  obtain ⟨element, s₁, helement, harea⟩ := perform_bind_ok.1 h
  obtain ⟨area, s₂, harea, hignores⟩ := perform_bind_ok.1 harea
  cases hignores
  have hlookups : lookups parties (resolveIgnores context locators) s =
      lookups parties (resolveKind context locators.element) s ++
        lookups parties (resolveKind context locators.area) s₁ :=
    (lookups_bind_ok helement).trans (congrArg (_ ++ ·) (lookups_bind_of_nil fun _ _ => rfl))
  have hkinds : ∀ p : IgnoreKind → Prop, (∃ k, p k) ↔ p .element ∨ p .area := fun p =>
    ⟨fun ⟨k, hk⟩ => (by cases k with
      | element => exact .inl hk
      | area => exact .inr hk), fun hp => hp.elim (⟨_, ·⟩) (⟨_, ·⟩)⟩
  rw [hlookups, finds_append, IgnoreMap.Has, hkinds, hkinds]
  unfold IgnoreMap.Lists LocatorMap.Lists
  simp only [PerKind.get?, lists_resolveKind helement, lists_resolveKind harea]
  grind

/-! ## The look-ups of a check -/

variable {e : Engine} {now : Instant} {c : Check}

theorem lookups_present (snapshot : Snapshot) :
    lookups parties (CheckProgram.present snapshot) s = [] := by
  unfold lookups
  change Program.lookups parties (.present snapshot (.done (Except.ok ()))) s = []
  rw [Program.lookups]
  rcases parties.observe snapshot s.world with ⟨_ | ⟨⟩, world⟩ <;> rfl

theorem lookups_presentAll (snapshots : List Snapshot) (s : Shared σ) :
    lookups parties (presentAll snapshots) s = [] := by
  induction snapshots generalizing s with
  | nil => rfl
  | cons snapshot rest ih =>
    exact (lookups_bind_of_nil fun _ s' => ih s').trans (lookups_present snapshot)

theorem lookups_maskImage (topAdjustment : Int32) (img : Image) :
    lookups parties (e.maskImage context locators topAdjustment img) s =
      lookups parties (resolveIgnores context locators) s :=
  lookups_bind_of_nil fun _ _ => (lookups_bind_of_nil fun _ _ => rfl).trans (lookups_presentAll _ _)

theorem lookups_capture (plan : CapturePlan) :
    lookups parties (CheckProgram.capture context plan) s = [] := by
  unfold lookups
  change Program.lookups parties (.capture context plan .done) s = []
  rw [Program.lookups]
  rcases parties.capture context plan s.world with ⟨_ | answer, world⟩ <;> rfl

/-- **An image that was taken was captured**: there was a page, a plan and the tiles of an image. -/
theorem captures_of_takeImage {masked : Image}
    (h : perform parties (e.takeImage c) s = (some (.ok masked), s')) :
    ∃ context plan img, c.context = some context ∧
      s.composer.planFor (e.parameters c) = .ok plan ∧
      parties.Captures context plan s.world img := by
  rcases Option.eq_none_or_eq_some c.context with hcontext | ⟨context, hcontext⟩
  · rw [takeImage_of_none hcontext] at h
    cases h
  · rw [takeImage_eq_maskImage hcontext] at h
    obtain ⟨plan, s₁, hplan, h⟩ := perform_bind_ok.1 h
    rw [perform_plan_planFor, Prod.mk.injEq, Option.some.injEq, mapError_eq_ok] at hplan
    obtain ⟨hplan, rfl⟩ := hplan
    obtain ⟨tiles, s₁, htiles, h⟩ := perform_bind_ok.1 h
    rw [perform_capture] at htiles
    obtain ⟨img, s₂, himg, -⟩ := perform_bind_ok.1 h
    rw [perform_mk_pure, Prod.mk.injEq, Option.some.injEq, mapError_eq_ok] at himg
    exact ⟨context, plan, img, hcontext, hplan, tiles, congrArg Prod.fst htiles, himg.1⟩

/-- **Of a check's image that was captured, only the masking is left**, which makes all the
look-ups. -/
theorem takeImage_of_captured {plan : CapturePlan} {img : Image}
    (hcontext : c.context = some context)
    (hplan : s.composer.planFor (e.parameters c) = .ok plan)
    (hcaptures : parties.Captures context plan s.world img) :
    ∃ s₁ : Shared σ, s₁.world = (parties.capture context plan s.world).2 ∧
      perform parties (e.takeImage c) s =
        perform parties (e.maskImage context c.ignores plan.topAdjustment img) s₁ ∧
      lookups parties (e.takeImage c) s =
        lookups parties (resolveIgnores context c.ignores) s₁ := by
  obtain ⟨tiles, hcapture, himg⟩ := hcaptures
  have hplanned : perform parties (CheckProgram.plan (e.parameters c)) s =
      (some (.ok plan), { s with composer := (s.composer.build (e.parameters c)).2 }) := by
    rw [perform_plan_planFor, mapError_eq_ok.2 hplan]
  have hcaptured : perform parties (CheckProgram.capture context plan)
      { s with composer := (s.composer.build (e.parameters c)).2 } =
      (some (.ok tiles), ⟨(s.composer.build (e.parameters c)).2,
        (parties.capture context plan s.world).2⟩) := by
    rw [perform_capture]
    exact Prod.ext hcapture rfl
  refine ⟨⟨(s.composer.build (e.parameters c)).2, (parties.capture context plan s.world).2⟩, rfl,
    ?_, ?_⟩
  · rw [takeImage_eq_maskImage hcontext, perform_bind, hplanned]
    dsimp only
    rw [perform_bind, hcaptured]
    dsimp only
    rw [perform_bind, mapError_eq_ok.2 himg]
    rfl
  · rw [takeImage_eq_maskImage hcontext, lookups_bind_ok hplanned, lookups_bind_ok hcaptured,
      lookups_capture, mapError_eq_ok.2 himg, lookups_bind_ok (perform_mk_pure parties _ (.ok img)),
      lookups_maskImage]
    rfl

/-- To take an image, only elements that are to be ignored are looked up. -/
theorem mem_lookups_takeImage (h : lookup ∈ lookups parties (e.takeImage c) s) :
    (∀ r, lookup.1 ≠ .area r) ∧ ∃ k, c.ignores.Lists k lookup.1 := by
  cases hcontext : c.context with
  | none =>
    rw [takeImage_of_none hcontext] at h
    cases h
  | some context =>
    rw [takeImage_eq_maskImage hcontext] at h
    rcases mem_lookups_bind h with h | ⟨plan, s₁, h⟩
    · cases h
    · rcases mem_lookups_bind h with h | ⟨tiles, s₂, h⟩
      · rw [lookups_capture] at h
        cases h
      · rcases mem_lookups_bind h with h | ⟨img, s₃, h⟩
        · cases h
        · rw [lookups_maskImage] at h
          exact mem_lookups_resolveIgnores h

theorem lookups_finish (img : Image) (s : Shared σ) :
    lookups parties (e.finish now c img) s = [] := by
  unfold finish
  split
  · exact lookups_bind_of_nil fun _ _ => lookups_bind_of_nil fun _ _ => rfl
  · refine lookups_bind_of_nil fun found _ => ?_
    rcases found with _ | baseline <;> rfl

/-- What a valid check looks up it looks up to take its image. -/
theorem lookups_execute (h : c.validate = .ok ()) :
    lookups parties (e.execute now c) s = lookups parties (e.takeImage c) s := by
  rw [execute_eq_finish, h, lookups_bind_ok (perform_mk_pure parties s (.ok ()))]
  exact lookups_bind_of_nil lookups_finish

/-- A check that is not valid looks up nothing. -/
theorem lookups_execute_of_error {fault : CheckFault} (h : c.validate = .error fault) :
    lookups parties (e.execute now c) s = [] := by
  rw [execute_eq_finish, h]
  rfl

/-- **A check looks up only elements that it is to ignore**, and never an area. -/
theorem mem_lookups_execute (h : lookup ∈ lookups parties (e.execute now c) s) :
    (∀ r, lookup.1 ≠ .area r) ∧ ∃ k, c.ignores.Lists k lookup.1 := by
  cases hvalid : c.validate with
  | error fault =>
    rw [lookups_execute_of_error hvalid] at h
    cases h
  | ok =>
    rw [lookups_execute hvalid] at h
    exact mem_lookups_takeImage h

end Engine

end VisualRegression
