import VisualRegression.CommandLine.Help
import VisualRegression.Config.PolicyFile
import VisualRegression.Run.Basic

/-!
# The program

What a command line does to files, what it writes and how it ends: with zero if a check passed,
with one if it did not or could not be run, and with two if the command line asks for nothing that
could be run. Main statement: `exitCode_of_usageFault` is the rule for the last.
-/

namespace VisualRegression.CommandLine

/-- What the program does not find but is given. -/
structure Surroundings where
  /-- The file form of images. -/
  codec : ImageCodec
  /-- The directory of a user's configuration files, if the user has one. -/
  configHome : Option String
  now : Instant
  checkId : CheckId

/-- How the program ends. -/
structure Outcome where
  exitCode : UInt8
  /-- What is written to the standard output. -/
  output : String := ""
  /-- What is written to the standard error. -/
  errors : String := ""
deriving DecidableEq, Repr

namespace Outcome

/-- The program could not do what was asked. -/
def failed (message : String) : Outcome := ⟨1, "", "Error: " ++ message ++ "\n"⟩

/-- The command line asks for no run. -/
def ofUsageFault (fault : UsageFault) : Outcome :=
  if fault.exitCode = 0 then ⟨0, fault.message, ""⟩ else ⟨fault.exitCode, "", fault.message⟩

/-- The check was run. -/
def ofVerdict : Except CheckFault Bool → Outcome
  | .ok true => ⟨0, "", ""⟩
  | .ok false => ⟨1, "", ""⟩
  | .error fault => failed fault.message

end Outcome

/-- The words for levels of detail. -/
def logLevels : List String := ["error", "warn", "info", "debug", "trace"]

/-- The text is a level of detail: a word in any case, or a number from one to five. -/
def isLogLevel (text : String) : Bool :=
  match Numeral.read UInt64.size text.toList with
  | .ok n => 1 ≤ n && n ≤ 5
  | .error _ => logLevels.contains (String.ofList (text.toList.map Char.toLower))

/-- What is wrong with the level of detail, if anything is. Debugging sets it whatever was given. -/
def logFault? (level : String) (debug : Bool) : Option String :=
  if debug || isLogLevel level then none else some "Invalid log level"

/-- A program that is given no other directory runs at the top. -/
instance (priority := low) atTop : WorkingDirectory := ⟨[]⟩

variable [WorkingDirectory]

/-- Does what a command line asks for. -/
def execute (around : Surroundings) (i : Invocation) (fs : FileSystem) : Outcome × FileSystem :=
  match logFault? i.logLevel i.debug with
  | some message => (.failed message, fs)
  | none =>
    match PolicyFile.load around.configHome i.config fs with
    | .error fault => (.failed fault.message, fs)
    | .ok (_, policy) =>
      let (verdict, fs) :=
        i.request.run around.codec policy around.now around.checkId i.action fs
      (.ofVerdict verdict, fs)

/-- The program. -/
def program (around : Surroundings) (args : List String) (fs : FileSystem) :
    Outcome × FileSystem :=
  match parse args with
  | .error fault => (.ofUsageFault fault, fs)
  | .ok i => execute around i fs

/-- A command line that asks for no run ends the program with the code of its fault, and leaves all
files as they are. -/
theorem exitCode_of_usageFault {around : Surroundings} {args : List String} {fs : FileSystem}
    {fault : UsageFault} (h : parse args = .error fault) :
    (program around args fs).1.exitCode = fault.exitCode ∧ (program around args fs).2 = fs := by
  simp only [program, h, Outcome.ofUsageFault, and_true]
  split
  · rename_i h0; exact h0.symm
  · rfl

end VisualRegression.CommandLine
