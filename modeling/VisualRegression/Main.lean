import Std.Time.DateTime
import VisualRegression.CommandLine.Footprint
import VisualRegression.FileSystem.Change
import VisualRegression.Png.Codec

/-!
# The program at work

Brings in what is at the places that a command line touches, runs the command line on it, and
carries out what has changed.
-/

namespace VisualRegression.CommandLine

/-- The path that leads to a place. -/
def pathText (place : Place) : String := "/" ++ "/".intercalate place

/-- What is at a place. -/
def lookUp (place : Place) : IO (Option Node) := do
  try
    let path ← IO.FS.realPath (pathText place)
    if ← path.isDir then return some .directory
    else return some (.file (← IO.FS.readBinFile path).toList)
  catch _ => return none

section Survey

variable [WorkingDirectory]

/-- Brings in what is at the places along paths. -/
def survey (paths : List FilePath) (fs : FileSystem) : IO FileSystem :=
  (paths.flatMap FileSystem.placesAlong).foldlM (fun fs place => do
    match ← lookUp place with
    | some node => return fs.put place node
    | none => return fs) fs

/-- Brings in what is at the places that a command line touches. -/
def surveyFor (configHome : Option String) (args : List String) : IO FileSystem := do
  match parse args with
  | .error _ => return .empty
  | .ok i =>
    let fs ← survey (policyPaths configHome i) .empty
    match PolicyFile.load configHome i.config fs with
    | .error _ => return fs
    | .ok (_, policy) => survey (runPaths policy i.request) fs

/-- Carries out what has changed. -/
def carryOut (before after : FileSystem) : IO Unit := do
  for place in FileSystem.removed before after do
    IO.FS.removeFile (pathText place)
  for (place, node) in FileSystem.added before after do
    match node with
    | .directory => IO.FS.createDir (pathText place)
    | .file bytes => IO.FS.writeBinFile (pathText place) ⟨bytes.toArray⟩

end Survey

/-- The directory that the program runs in. -/
def workingDirectory : IO WorkingDirectory := do
  let text ← IO.FS.realPath (← IO.currentDir)
  return ⟨(FilePath.ofText text.toString).parts.map FilePath.Segment.name⟩

/-- The directory of a user's configuration files. -/
def configHome : IO (Option String) := do
  match ← IO.getEnv "XDG_CONFIG_HOME" with
  | some home => if home.startsWith "/" then return some home else ofHome
  | none => ofHome
where
  /-- The directory below a user's own directory. -/
  ofHome : IO (Option String) := do
    return (← IO.getEnv "HOME").map fun home => FilePath.joinText home ".config"

/-- The point in time of the run. -/
def currentInstant : IO Instant := do
  let elapsed := (← Std.Time.Timestamp.now).toNanosecondsSinceUnixEpoch.toInt
  return ⟨Int.fdiv elapsed 1000000000, (Int.fmod elapsed 1000000000).toNat⟩

/-- An identity that no other check has. -/
def newCheckId : IO CheckId := do
  let number (bytes : List UInt8) : UInt64 := bytes.foldl (fun n b => n * 256 + b.toUInt64) 0
  let bytes := (← IO.getRandomBytes 16).toList
  return .ofRandom (number (bytes.take 8)) (number (bytes.drop 8))

end VisualRegression.CommandLine

open VisualRegression CommandLine in
/-- Runs a command line. -/
def main (args : List String) : IO UInt32 := do
  let _here ← workingDirectory
  let around : Surroundings := ⟨Png.codec, ← configHome, ← currentInstant, ← newCheckId⟩
  let before ← surveyFor around.configHome args
  let (outcome, after) := program around args before
  carryOut before after
  IO.print outcome.output
  IO.eprint outcome.errors
  return outcome.exitCode.toUInt32
