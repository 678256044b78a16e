import VisualRegression.Check.Resolver
import VisualRegression.Run.Attachment
import VisualRegression.Run.FileCapture
import VisualRegression.Run.Request
import VisualRegression.Run.SoftAssert
import VisualRegression.Store.Directory

/-!
# Runs

One check on files: the images are read from files, the baselines are kept in a directory, the
result is published in files, and the run passes if no assertion failed.
-/

namespace VisualRegression.RunRequest

variable [WorkingDirectory]

/-- The parties of a run. -/
def collaborators (r : RunRequest) (codec : ImageCodec) (p : Policy) : Collaborators FileSystem :=
  .ofStore (fun _ plan fs => FileCapture.capture codec r.images plan fs)
    (fun _ locator => locator.resolveAsArea)
    ((BaselineDirectory.mk (r.policy p).baselineDir).store codec)

/-- The step of a run. -/
def step (r : RunRequest) (p : Policy) (now : Instant) (id : CheckId) (action : Action) :
    Program StepOutcome :=
  let policy := r.policy p
  Step.program ⟨policy⟩ ⟨policy⟩ now id r.context action r.baseline (some (r.parameters action))
    (some r.configuration)

/-- What a run does after its step: results are published and assertions noted, in order. -/
def settle (r : RunRequest) (codec : ImageCodec) (events : List StepEvent) (fs : FileSystem) :
    SoftAssert × FileSystem :=
  events.foldl (fun (a, fs) e =>
    (a.note e, match e with
      | .published result => AttachmentFiles.publish ⟨r.diffOut, r.reportOut⟩ codec result fs
      | _ => fs)) ({}, fs)

/-- Runs one check: whether it passed, or why the request was wrong, and the files afterwards. -/
def run (r : RunRequest) (codec : ImageCodec) (p : Policy) (now : Instant) (id : CheckId)
    (action : Action) (fs : FileSystem) : Except CheckFault Bool × FileSystem :=
  match (r.step p now id action).run (r.collaborators codec p) ⟨.standard, fs⟩ with
  | (some outcome, shared) =>
    let (asserts, fs) := r.settle codec outcome.events shared.world
    match outcome.returned with
    | .error fault => (.error fault, fs)
    | .ok () => (.ok asserts.allPassed, fs)
  | (none, shared) => (.error .brokenOff, shared.world)

end VisualRegression.RunRequest
