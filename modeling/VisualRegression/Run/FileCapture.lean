import VisualRegression.Check.Program
import VisualRegression.FileSystem.Basic

/-!
# Captures from files

The tiles of a page as image files that were made before. A capture that does not scroll reads the
first one alone. Main statement: `capture_eq_of_head?` says that the others then do not matter.
-/

namespace VisualRegression.FileCapture

/-- Why a tile could not be read, in the words of the capture. -/
def fault (path message : String) : CheckFault :=
  .collaborator "file capture" (path ++ ": " ++ message)

variable [WorkingDirectory]

/-- Reads one tile. -/
def readTile (codec : ImageCodec) (fs : FileSystem) (path : String) : Except CheckFault Image :=
  match fs.readFile (FilePath.ofText path) with
  | .error f => .error (fault path f.message)
  | .ok bytes => (codec.decode bytes).mapError fun f => fault path (ValueFault.codec f).message

/-- The files that a capture reads. -/
def selected (images : List String) (scrolls : Bool) : List String :=
  if scrolls then images else images.take 1

/-- Reads the tiles of a capture, up to the first one that cannot be read. -/
def capture (codec : ImageCodec) (images : List String) (plan : CapturePlan) (fs : FileSystem) :
    Except CheckFault (List Image) :=
  (selected images plan.scrolls).mapM (readTile codec fs)

/-- Without scrolling, only the first image matters. -/
theorem capture_eq_of_head? {images others : List String} (h : images.head? = others.head?)
    (codec : ImageCodec) {plan : CapturePlan} (hp : plan.scrolls = false) (fs : FileSystem) :
    capture codec images plan fs = capture codec others plan fs := by
  have : images.take 1 = others.take 1 := by
    cases images <;> cases others <;> simp_all
  simp [capture, selected, hp, this]

end VisualRegression.FileCapture
