import VisualRegression.Capture.Composer
import VisualRegression.Check.Result
import VisualRegression.Mask

/-!
# Programs of checks

What a check asks of others, one request after the other: a plan, captured tiles, the places of
elements, and baselines loaded and saved. A program says what to ask next given the answers so far,
and how it ends. It can be run at one go (`run`) or one request at a time (`step`), so that several
programs may take turns; main statement: `run_eq_run_step` says that a run is a step and then a run
of what is left.
-/

namespace VisualRegression

/-- A course of requests that ends with an `α`. -/
inductive Program (α : Type) where
  /-- The end. -/
  | done (a : α)
  /-- Asks for the plan of a capture. -/
  | plan (p : CaptureParameters) (next : Except CaptureFault CapturePlan → Program α)
  /-- Asks for the tiles of a page. -/
  | capture (context : SearchContext) (plan : CapturePlan)
      (next : Except CheckFault (List Image) → Program α)
  /-- Asks where on the page the elements of a locator are. -/
  | resolve (context : SearchContext) (locator : Locator)
      (next : Except CheckFault (OrderedSet Rect) → Program α)
  /-- Shows an image on the way. -/
  | present (s : Snapshot) (next : Program α)
  /-- Asks for a baseline. -/
  | load (key : BaselineKey) (next : Except CheckFault (Option Image) → Program α)
  /-- Has a baseline kept. -/
  | save (key : BaselineKey) (img : Image) (next : Except CheckFault Unit → Program α)

namespace Program

variable {α β σ : Type}

/-- The first program and then, given its end, the second. -/
def bind (p : Program α) (f : α → Program β) : Program β :=
  match p with
  | done a => f a
  | plan q next => plan q fun r => (next r).bind f
  | capture context q next => capture context q fun r => (next r).bind f
  | resolve context locator next => resolve context locator fun r => (next r).bind f
  | present s next => present s (next.bind f)
  | load key next => load key fun r => (next r).bind f
  | save key img next => save key img fun r => (next r).bind f

instance : Monad Program where
  pure := done
  bind := bind

end Program

/-- The parties that a check relies on, acting on a common state. One that breaks off gives no
answer. -/
structure Collaborators (σ : Type) where
  /-- Delivers the tiles of a page. Nobody is asked for anything between this and the assembly of
  the tiles, so that a stitcher that breaks off over them is one more way to break off here. -/
  capture : SearchContext → CapturePlan → σ → Option (Except CheckFault (List Image)) × σ
  /-- Finds the places of elements. -/
  resolve : SearchContext → Locator → σ → Option (Except CheckFault (OrderedSet Rect)) × σ
  /-- Takes note of an image on the way. -/
  present : Snapshot → σ → σ
  /-- Who takes note of an image breaks off at it. -/
  breaksOff : Snapshot → σ → Bool := fun _ _ => false
  /-- Loads a baseline. -/
  load : BaselineKey → σ → Except CheckFault (Option Image) × σ
  /-- Keeps a baseline. -/
  save : BaselineKey → Image → σ → Except CheckFault Unit × σ

/-- What comes of showing an image to the one who takes note of it. -/
def Collaborators.observe {σ : Type} (c : Collaborators σ) (snapshot : Snapshot) (w : σ) :
    Option Unit × σ :=
  (if c.breaksOff snapshot w then none else some (), c.present snapshot w)

/-- What checks of one engine share: the composer of plans and the state of the collaborators. -/
structure Shared (σ : Type) where
  composer : Composer
  world : σ

namespace Program

variable {α β σ : Type}

/-- One request: the program that is left, unless a party broke off, and the state afterwards. A
program at its end stays there. -/
def step (c : Collaborators σ) (p : Program α) (s : Shared σ) : Option (Program α) × Shared σ :=
  match p with
  | done a => (some (done a), s)
  | plan q next =>
    let (answer, composer) := s.composer.build q
    (some (next (answer.map CachedPlan.plan)), { s with composer })
  | capture context q next =>
    let (answer, world) := c.capture context q s.world
    (answer.map next, { s with world })
  | resolve context locator next =>
    let (answer, world) := c.resolve context locator s.world
    (answer.map next, { s with world })
  | present snapshot next =>
    let (answer, world) := c.observe snapshot s.world
    (answer.map fun _ => next, { s with world })
  | load key next =>
    let (answer, world) := c.load key s.world
    (some (next answer), { s with world })
  | save key img next =>
    let (answer, world) := c.save key img s.world
    (some (next answer), { s with world })

/-- The whole program: its end, unless a party broke off, and the state afterwards. -/
def run (c : Collaborators σ) (p : Program α) (s : Shared σ) : Option α × Shared σ :=
  match p with
  | done a => (some a, s)
  | plan q next =>
    let (answer, composer) := s.composer.build q
    (next (answer.map CachedPlan.plan)).run c { s with composer }
  | capture context q next =>
    match c.capture context q s.world with
    | (some answer, world) => (next answer).run c { s with world }
    | (none, world) => (none, { s with world })
  | resolve context locator next =>
    match c.resolve context locator s.world with
    | (some answer, world) => (next answer).run c { s with world }
    | (none, world) => (none, { s with world })
  | present snapshot next =>
    match c.observe snapshot s.world with
    | (some (), world) => next.run c { s with world }
    | (none, world) => (none, { s with world })
  | load key next =>
    let (answer, world) := c.load key s.world
    (next answer).run c { s with world }
  | save key img next =>
    let (answer, world) := c.save key img s.world
    (next answer).run c { s with world }

/-- A run is a step and then a run of what is left. -/
theorem run_eq_run_step (c : Collaborators σ) (p : Program α) (s : Shared σ) :
    p.run c s =
      match p.step c s with
      | (some rest, s') => rest.run c s'
      | (none, s') => (none, s') := by
  cases p with
  | capture context q next =>
    simp only [run, step]
    split <;> rename_i h <;> simp [h]
  | resolve context locator next =>
    simp only [run, step]
    split <;> rename_i h <;> simp [h]
  | present snapshot next =>
    simp only [run, step]
    split <;> rename_i h <;> simp [h]
  | _ => rfl

end Program

/-- A program that ends with an answer or a fault. -/
abbrev CheckProgram (α : Type) := ExceptT CheckFault Program α

namespace CheckProgram

/-- Asks for the plan of a capture. -/
def plan (p : CaptureParameters) : CheckProgram CapturePlan :=
  ExceptT.mk (.plan p fun r => .done (r.mapError .capture))

/-- Asks for the tiles of a page. -/
def capture (context : SearchContext) (p : CapturePlan) : CheckProgram (List Image) :=
  ExceptT.mk (.capture context p .done)

/-- Asks where on the page the elements of a locator are. -/
def resolve (context : SearchContext) (locator : Locator) : CheckProgram (OrderedSet Rect) :=
  ExceptT.mk (.resolve context locator .done)

/-- Shows an image on the way. -/
def present (s : Snapshot) : CheckProgram Unit :=
  ExceptT.mk (.present s (.done (.ok ())))

/-- Asks for a baseline. -/
def load (key : BaselineKey) : CheckProgram (Option Image) :=
  ExceptT.mk (.load key .done)

/-- Asks for a baseline; one that cannot be loaded counts as none. -/
def loadIfReadable (key : BaselineKey) : CheckProgram (Option Image) :=
  ExceptT.mk (.load key fun r => .done (.ok (r.toOption.getD none)))

/-- Has a baseline kept. -/
def save (key : BaselineKey) (img : Image) : CheckProgram Unit :=
  ExceptT.mk (.save key img .done)

end CheckProgram

end VisualRegression
