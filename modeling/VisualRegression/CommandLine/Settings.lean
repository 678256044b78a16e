import VisualRegression.Decimal.Literal
import VisualRegression.Rect.Text
import VisualRegression.Run.Request

/-!
# Command line options

The options of the command line, how they are written, and the settings that they make. An option
with one value may be given once on each level of the command line; images and areas may be given
several times.
-/

namespace VisualRegression.CommandLine

/-- Why a command line does not ask for a run. -/
inductive UsageFault where
  /-- There is nothing on the command line. -/
  | nothingGiven
  /-- There is no command. -/
  | noCommand
  /-- There is no such command. -/
  | unknownCommand
  /-- There is no such option, or no place for such a value. -/
  | unknownArgument
  /-- An option lacks its value. -/
  | missingValue
  /-- A value is none that the option takes. -/
  | badValue
  /-- An option that takes no value has one. -/
  | unneededValue
  /-- An option that may be given once is given twice. -/
  | givenTwice
  /-- An option that is needed is not there. -/
  | missingOption
  /-- Help is asked for, perhaps on a command. -/
  | helpAsked (command : Option Action)
  /-- The version is asked for, perhaps of a command. -/
  | versionAsked (command : Option Action)
deriving DecidableEq, Repr

/-- What can be given by name. -/
inductive CommandOption where
  | config
  | logLevel
  | debug
  | help
  | version
  | baseline
  | image
  | area
  | percentage
  | ratio
  | headerCut
  | footerCut
  | strategy
  | baselineDir
  | diffOut
  | reportOut
deriving DecidableEq, Repr

namespace CommandOption

/-- The name of the option, written after two dashes. -/
def longName : CommandOption → String
  | config => "config"
  | logLevel => "log-level"
  | debug => "debug"
  | help => "help"
  | version => "version"
  | baseline => "baseline"
  | image => "image"
  | area => "area"
  | percentage => "diff-percentage"
  | ratio => "dpr"
  | headerCut => "header-cut"
  | footerCut => "footer-cut"
  | strategy => "strategy"
  | baselineDir => "baseline-dir"
  | diffOut => "diff-out"
  | reportOut => "report-out"

/-- The letter of the option, written after one dash. -/
def letter? : CommandOption → Option Char
  | config => some 'c'
  | logLevel => some 'l'
  | debug => some 'd'
  | help => some 'h'
  | version => some 'V'
  | _ => none

/-- The option has a value. -/
def takesValue : CommandOption → Bool
  | debug | help | version => false
  | _ => true

/-- The options that can be given anywhere. -/
def general : List CommandOption := [config, logLevel, debug, help, version]

/-- The options that can be given after a command. -/
def ofCommands : List CommandOption :=
  [baseline, image, area, percentage, ratio, headerCut, footerCut, strategy, baselineDir, diffOut,
    reportOut]

/-- The options that can be given before a command, or after it. -/
def available (command : Option Action) : List CommandOption :=
  if command.isSome then general ++ ofCommands else general

end CommandOption

/-- What is set on one level of a command line. -/
structure Settings where
  config : Option String := none
  logLevel : Option String := none
  debug : Bool := false
  baseline : Option String := none
  images : List String := []
  areas : List Rect := []
  percentage : Option UInt8 := none
  ratio : Option Float := none
  headerCut : Option UInt32 := none
  footerCut : Option UInt32 := none
  strategy : Option String := none
  baselineDir : Option String := none
  diffOut : Option String := none
  reportOut : Option String := none
deriving Inhabited

/-- Any text. -/
def readText (s : String) : Except UsageFault String := .ok s

/-- A path, which is never empty. -/
def readPath (s : String) : Except UsageFault String :=
  if s = "" then .error .missingValue else .ok s

/-- The integer that a text stands for: digits with an optional sign. -/
def integer? (s : List Char) : Option Int :=
  let (negative, ds) := Decimal.readSign s
  if ds.isEmpty || !ds.all Decimal.isDigit then none
  else some (if negative then -(Decimal.digitsValue ds : Int) else Decimal.digitsValue ds)

/-- An integer from zero to a largest one. -/
def readNat (max : Nat) (s : String) : Except UsageFault Nat :=
  match integer? s.toList with
  | some n => if 0 ≤ n ∧ n ≤ max then .ok n.toNat else .error .badValue
  | none => .error .badValue

/-- A percentage. -/
def readPercentage (s : String) : Except UsageFault UInt8 := (readNat 100 s).map UInt8.ofNat

/-- A number of rows. -/
def readRows (s : String) : Except UsageFault UInt32 :=
  (readNat (UInt32.size - 1) s).map UInt32.ofNat

/-- A double. -/
def readFloat (s : String) : Except UsageFault Float :=
  (Decimal.readFree? s.toList).elim (.error .badValue) .ok

/-- A rectangle. -/
def readRect (s : String) : Except UsageFault Rect := (Rect.read s).mapError fun _ => .badValue

/-- Reads the value of an option that may be given once. -/
def once {α : Type} (current : Option α) (read : String → Except UsageFault α) (value : String) :
    Except UsageFault (Option α) :=
  if current.isSome then .error .givenTwice else (read value).map some

namespace Settings

/-- Sets an option that has a value. -/
def setValue (s : Settings) (o : CommandOption) (value : String) : Except UsageFault Settings := do
  match o with
  | .config => return { s with config := ← once s.config readPath value }
  | .logLevel => return { s with logLevel := ← once s.logLevel readText value }
  | .baseline => return { s with baseline := ← once s.baseline readText value }
  | .image => return { s with images := s.images ++ [← readPath value] }
  | .area => return { s with areas := s.areas ++ [← readRect value] }
  | .percentage => return { s with percentage := ← once s.percentage readPercentage value }
  | .ratio => return { s with ratio := ← once s.ratio readFloat value }
  | .headerCut => return { s with headerCut := ← once s.headerCut readRows value }
  | .footerCut => return { s with footerCut := ← once s.footerCut readRows value }
  | .strategy => return { s with strategy := ← once s.strategy readText value }
  | .baselineDir => return { s with baselineDir := ← once s.baselineDir readPath value }
  | .diffOut => return { s with diffOut := ← once s.diffOut readPath value }
  | .reportOut => return { s with reportOut := ← once s.reportOut readPath value }
  | .debug | .help | .version => .error .unneededValue

/-- Sets an option after a command or before it. -/
def set (s : Settings) (command : Option Action) (o : CommandOption) (value : Option String) :
    Except UsageFault Settings :=
  match o, value with
  | .help, _ => .error (.helpAsked command)
  | .version, _ => .error (.versionAsked command)
  | .debug, _ => if s.debug then .error .givenTwice else .ok { s with debug := true }
  | _, none => .error .missingValue
  | o, some value => s.setValue o value

/-- Something is set that can be set before a command. -/
def isAnythingSet (s : Settings) : Bool := s.config.isSome || s.logLevel.isSome || s.debug

/-- The request that the settings of a command make, if all that is needed is there. -/
def request (s : Settings) : Except UsageFault RunRequest :=
  match s.baseline, s.images with
  | none, _ | _, [] => .error .missingOption
  | some baseline, images => .ok
    { baseline, images
      areas := s.areas
      percentage := s.percentage
      ratio := s.ratio
      headerCut := s.headerCut
      footerCut := s.footerCut
      strategy := s.strategy
      baselineDir := s.baselineDir
      diffOut := s.diffOut
      reportOut := s.reportOut }

end Settings

end VisualRegression.CommandLine
