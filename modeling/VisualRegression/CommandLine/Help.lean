import VisualRegression.CommandLine.Invocation

/-!
# Help and version

What the program says about itself and about a command line that it cannot follow. Main statement:
`exitCode_eq_zero_iff` says that only a question for help or for the version ends well.
-/

namespace VisualRegression.CommandLine

/-- The name of the program. -/
def programName : String := "visualcheck-cli"

/-- The version of the program. -/
def programVersion : String := "0.1.0"

/-- The version, perhaps of a command. -/
def versionText (command : Option Action) : String :=
  let name := match command with
    | some command => programName ++ "-" ++ commandName command
    | none => programName
  name ++ " " ++ programVersion ++ "\n"

/-- What a command does. -/
def commandHelp : Action → String
  | .establish => "Store the image as the new baseline"
  | .compare => "Pass when the image matches the baseline"
  | .checkInequality => "Pass when the image differs from the baseline"

namespace CommandOption

/-- What the value of an option is called. -/
def valueName : CommandOption → String
  | config | reportOut => "FILE"
  | image | diffOut => "PNG"
  | area => "RECT"
  | baselineDir => "DIR"
  | logLevel => "LOG_LEVEL"
  | baseline => "BASELINE"
  | percentage => "DIFF_PERCENTAGE"
  | ratio => "DPR"
  | headerCut => "HEADER_CUT"
  | footerCut => "FOOTER_CUT"
  | strategy => "STRATEGY"
  | debug | help | version => ""

/-- What an option is for. -/
def describe : CommandOption → String
  | config => "Configuration file path"
  | logLevel => "Log level [default: info]"
  | debug => "Enable debug mode"
  | help => "Print help"
  | version => "Print version"
  | baseline => "Baseline name"
  | image => "Captured PNG; repeat for full-page tiles, top to bottom"
  | area => "Area to ignore as x,y,width,height (page coordinates)"
  | percentage => "Acceptable (compare) or required (check-inequality) diff percentage"
  | ratio => "Device pixel ratio of the captured images"
  | headerCut => "Rows cut off at the top of each tile"
  | footerCut => "Rows cut off at the bottom of each tile"
  | strategy => "Capture strategy name (viewport, full_page)"
  | baselineDir => "Baseline directory, overrides the configuration"
  | diffOut => "Write the diff markup PNG here"
  | reportOut => "Write the JSON report here"

/-- The line about an option. -/
def helpLine (o : CommandOption) : String :=
  let letter := match o.letter? with
    | some c => "-" ++ String.singleton c ++ ", "
    | none => "    "
  let value := if o.takesValue then " <" ++ o.valueName ++ ">" else ""
  "  " ++ letter ++ "--" ++ o.longName ++ value ++ "  " ++ o.describe ++ "\n"

end CommandOption

/-- What can be said about the program or a command. -/
def helpText (command : Option Action) : String :=
  let options := "Options:\n" ++
    String.join ((CommandOption.available command).map CommandOption.helpLine)
  match command with
  | some command =>
    commandHelp command ++ "\n\nUsage: visualcheck " ++ commandName command ++
      " [OPTIONS] --baseline <BASELINE> --image <PNG>\n\n" ++ options
  | none =>
    "Visual regression checks against stored baselines - CLI application\n\n" ++
      "Usage: visualcheck [OPTIONS] <COMMAND>\n\nCommands:\n" ++
      String.join (commands.map fun c => "  " ++ commandName c ++ "  " ++ commandHelp c ++ "\n") ++
      "  help  Print this message or the help of the given command\n\n" ++ options

namespace UsageFault

/-- The fault in words. -/
def message : UsageFault → String
  | nothingGiven => helpText none
  | noCommand => "error: a command is needed\n"
  | unknownCommand => "error: there is no such command\n"
  | unknownArgument => "error: unexpected argument\n"
  | missingValue => "error: an option lacks its value\n"
  | badValue => "error: invalid value\n"
  | unneededValue => "error: unexpected value\n"
  | givenTwice => "error: an option is given more than once\n"
  | missingOption => "error: a baseline name and an image are needed\n"
  | helpAsked command => helpText command
  | versionAsked command => versionText command

/-- How the program ends. -/
def exitCode : UsageFault → UInt8
  | helpAsked _ | versionAsked _ => 0
  | _ => 2

/-- Only a question for help or for the version ends well. -/
theorem exitCode_eq_zero_iff (f : UsageFault) :
    f.exitCode = 0 ↔ ∃ c, f = .helpAsked c ∨ f = .versionAsked c := by
  cases f <;> simp [exitCode]

end UsageFault

end VisualRegression.CommandLine
