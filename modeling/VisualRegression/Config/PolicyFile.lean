import VisualRegression.FileSystem.Basic
import VisualRegression.Policy
import VisualRegression.Yaml.Document

/-!
# Policy files

A policy as a YAML file. Any setting may be missing and then has its default; no setting may be
given twice, and what is no setting does not count. A file that is not there is a policy of
defaults.
-/

namespace VisualRegression

namespace Policy

/-- The colour in a sequence of channels. -/
def rgbOfYaml? (y : Yaml) : Option Rgb := do
  match ← (← y.toItems?).mapM Yaml.toUInt8? with
  | [red, green, blue] => some ⟨red, green, blue⟩
  | _ => none

/-- The colour with its opacity in a sequence of channels. -/
def pixelOfYaml? (y : Yaml) : Option Pixel := do
  match ← (← y.toItems?).mapM Yaml.toUInt8? with
  | [red, green, blue, alpha] => some ⟨red, green, blue, alpha⟩
  | _ => none

/-- The policy with one more setting. -/
def set? (p : Policy) (name : String) (y : Yaml) : Option Policy :=
  match name with
  | "device_pixel_ratio" => y.toFloat?.map fun v => { p with ratio := v }
  | "header_cut" => y.toUInt32?.map fun v => { p with headerCut := v }
  | "footer_cut" => y.toUInt32?.map fun v => { p with footerCut := v }
  | "strategy" => y.toText?.map fun v => { p with strategy := v }
  | "pixel_tolerance" => y.toUInt8?.map fun v => { p with tolerance := v }
  | "diff_color" => (rgbOfYaml? y).map fun v => { p with diffColor := v }
  | "mask_color" => (pixelOfYaml? y).map fun v => { p with maskColor := v }
  | "debug_snapshots" => y.toBool?.map fun v => { p with debugSnapshots := v }
  | "baseline_dir" => y.toText?.map fun v => { p with baselineDir := v }
  | _ => some p

/-- The names of the settings. -/
def settingNames : List String :=
  ["device_pixel_ratio", "header_cut", "footer_cut", "strategy", "pixel_tolerance", "diff_color",
    "mask_color", "debug_snapshots", "baseline_dir"]

/-- The policy with further settings; `given` are the names of those that it has already. -/
def setAll? (p : Policy) (given : List String) : List (Yaml × Yaml) → Option Policy
  | [] => some p
  | (key, y) :: rest => do
    let name ← key.toText?
    guard (name ∉ given)
    let p ← p.set? name y
    setAll? p (if name ∈ settingNames then name :: given else given) rest

/-- The policy in a document. -/
def ofYaml? (y : Yaml) : Option Policy := y.toEntries?.bind (setAll? {} [])

end Policy

/-- Why there is no policy. -/
inductive PolicyFileFault where
  /-- No file is asked for, and there is no directory to look in. -/
  | noDirectory
  /-- The file cannot be read as text. -/
  | unreadable
  /-- The text is no policy. -/
  | malformed
  /-- The policy asks for an impossible ratio. -/
  | invalid (path : String)
deriving DecidableEq, Repr

/-- The fault in words. -/
def PolicyFileFault.message : PolicyFileFault → String
  | noDirectory => "Failed to get config directory"
  | unreadable => "Failed to read config file"
  | malformed => "Failed to parse config file"
  | invalid path => s!"Invalid visual policy in {path}"

namespace PolicyFile

/-- The policy file of the working directory. -/
def localPath : String := "config/visualcheck.yaml"

/-- The policy file of a user whose configuration files are in a directory. -/
def userPath (configHome : String) : String :=
  FilePath.joinText (FilePath.joinText configHome "visualcheck") "config.yaml"

variable [WorkingDirectory]

/-- The file to read: the one asked for, else that of the working directory if it is there, else
that of the user. -/
def choose (configHome asked : Option String) (fs : FileSystem) : Except PolicyFileFault String :=
  match asked with
  | some path => .ok path
  | none =>
    if fs.exists? (FilePath.ofText localPath) then .ok localPath
    else match configHome with
      | some home => .ok (userPath home)
      | none => .error .noDirectory

/-- The text of a file. -/
def readText (fs : FileSystem) (path : String) : Option String :=
  (fs.readFile (FilePath.ofText path)).toOption.bind fun bytes =>
    String.fromUTF8? (ByteArray.mk bytes.toArray)

/-- The policy in a file. -/
def read (fs : FileSystem) (path : String) : Except PolicyFileFault Policy :=
  if fs.exists? (FilePath.ofText path) then
    match readText fs path with
    | none => .error .unreadable
    | some text =>
      match (Yaml.read? text.toList).bind Policy.ofYaml? with
      | none => .error .malformed
      | some p => if isValidRatio p.ratio then .ok p else .error (.invalid path)
  else .ok {}

/-- The chosen file and its policy. -/
def load (configHome asked : Option String) (fs : FileSystem) :
    Except PolicyFileFault (String × Policy) := do
  let path ← choose configHome asked fs
  return (path, ← read fs path)

end PolicyFile

end VisualRegression
