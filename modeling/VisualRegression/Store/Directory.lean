import VisualRegression.FileSystem.Basic
import VisualRegression.Store.Basic

/-!
# Stores in a directory

Baselines as image files in a directory, each named for its baseline. A file is first written under
another name and then moved to its place, so that no half-written file is ever found there.
-/

namespace VisualRegression

/-- A directory of baseline files. -/
structure BaselineDirectory where
  /-- The directory as it was given. -/
  root : String
deriving DecidableEq, Inhabited, Repr

/-- The files that a baseline has: the one that is kept, and the one that is written first. -/
inductive BaselineFile where
  | kept
  | temporary
deriving DecidableEq, Repr

namespace BaselineFile

/-- What the name of the file ends in. -/
def extension : BaselineFile → String
  | kept => ".png"
  | temporary => ".tmp"

/-- The name of the file. -/
def name (file : BaselineFile) (key : BaselineKey) : String := key.text ++ file.extension

end BaselineFile

namespace BaselineDirectory

/-- A file of a baseline. -/
def path (d : BaselineDirectory) (file : BaselineFile) (key : BaselineKey) : FilePath :=
  (FilePath.ofText d.root).join (file.name key)

/-- The file of a baseline. -/
abbrev filePath (d : BaselineDirectory) (key : BaselineKey) : FilePath := d.path .kept key

/-- The file of a baseline while it is written. -/
abbrev temporaryPath (d : BaselineDirectory) (key : BaselineKey) : FilePath :=
  d.path .temporary key

/-- The file of a baseline in words. -/
def fileText (d : BaselineDirectory) (key : BaselineKey) : String :=
  FilePath.joinText d.root (BaselineFile.kept.name key)

variable [WorkingDirectory]

/-- Loads a baseline; where there is no file there is no baseline. -/
def load (d : BaselineDirectory) (codec : ImageCodec) (key : BaselineKey) (fs : FileSystem) :
    Except CheckFault (Option Image) :=
  match fs.readFile (d.filePath key) with
  | .error .notFound => .ok none
  | .error fault => .error (.store (.unreadable (d.fileText key) fault))
  | .ok bytes =>
    match codec.decode bytes with
    | .error fault => .error (.store (.undecodable (d.fileText key) (.codec fault)))
    | .ok img => .ok (some img)

/-- Writes the file of a baseline by way of another one. -/
def write (d : BaselineDirectory) (key : BaselineKey) (bytes : List UInt8) (fs : FileSystem) :
    Except FileFault Unit × FileSystem :=
  match fs.makeDirectories (d.filePath key).parent with
  | (.error fault, fs) => (.error fault, fs)
  | (.ok (), fs) =>
    match fs.writeFile (d.temporaryPath key) bytes with
    | .error fault => (.error fault, fs)
    | .ok fs =>
      match fs.moveFile (d.temporaryPath key) (d.filePath key) with
      | .error fault => (.error fault, fs)
      | .ok fs => (.ok (), fs)

/-- Keeps a baseline in its file. -/
def save (d : BaselineDirectory) (codec : ImageCodec) (key : BaselineKey) (img : Image)
    (fs : FileSystem) : Except CheckFault Unit × FileSystem :=
  match codec.encode img with
  | .error fault => (.error (.store (.unencodable (.codec fault))), fs)
  | .ok bytes =>
    let (written, fs) := d.write key bytes fs
    (written.mapError fun fault => .store (.unwritable (d.fileText key) fault), fs)

/-- The store in a directory. -/
def store (d : BaselineDirectory) (codec : ImageCodec) : BaselineStore FileSystem :=
  ⟨d.load codec, d.save codec⟩

end BaselineDirectory

end VisualRegression
