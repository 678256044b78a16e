import VisualRegression.Check.Step
import VisualRegression.FileSystem.Basic
import VisualRegression.Json.Writer
import VisualRegression.Wire.Report

/-!
# Attachments in files

A result is published as two files: the painted differences and the report. A file that cannot be
written is left out; nothing comes back to the run.
-/

namespace VisualRegression

/-- Where a result is published. -/
structure AttachmentFiles where
  diffOut : Option String
  reportOut : Option String
deriving DecidableEq, Inhabited, Repr

namespace AttachmentFiles

variable [WorkingDirectory]

/-- Writes a file, whose directory is made if need be, and tells whether it was written. -/
def writeFile (path : String) (bytes : List UInt8) (fs : FileSystem) : Bool × FileSystem :=
  let path := FilePath.ofText path
  match fs.makeDirectories path.parent with
  | (.error _, fs) => (false, fs)
  | (.ok (), fs) =>
    match fs.writeFile path bytes with
    | .error _ => (false, fs)
    | .ok fs => (true, fs)

/-- What is published of a report. -/
def reportValue (report : Report) : Json :=
  .object [("template", .string publicationTemplate), ("title", .string publicationTitle),
    ("result", report.toJson)]

/-- The text of a published report. -/
def reportText (report : Report) : String := (reportValue report).sorted.pretty

/-- Writes the painted differences, if they are asked for and there are some, and tells whether
publication goes on. -/
def publishDiff (files : AttachmentFiles) (codec : ImageCodec) (r : CheckResult)
    (fs : FileSystem) : Bool × FileSystem :=
  match files.diffOut, r.diff with
  | some path, some diff =>
    match codec.encode diff with
    | .error _ => (false, fs)
    | .ok bytes => writeFile path bytes fs
  | _, _ => (true, fs)

/-- Writes the report, if it is asked for. -/
def publishReport (files : AttachmentFiles) (codec : ImageCodec) (r : CheckResult)
    (fs : FileSystem) : FileSystem :=
  match files.reportOut with
  | none => fs
  | some path =>
    match r.toReport codec with
    | .error _ => fs
    | .ok report => (writeFile path (reportText report).toUTF8.toList fs).2

/-- Publishes a result: the painted differences, and then the report unless they could not be
written. -/
def publish (files : AttachmentFiles) (codec : ImageCodec) (r : CheckResult) (fs : FileSystem) :
    FileSystem :=
  match files.publishDiff codec r fs with
  | (true, fs) => files.publishReport codec r fs
  | (false, fs) => fs

end AttachmentFiles

end VisualRegression
