import VisualRegression.CommandLine.Settings

/-!
# Reading a command line

General options may stand before and after the command; after it, they win. The value of an option
is checked only when the next option comes, or at the end.
-/

namespace VisualRegression.CommandLine

/-- A level of a command line as far as it is read: what is set, and the option given last, whose
value may be missing yet. -/
structure Level where
  settings : Settings := {}
  pending : Option (CommandOption × Option String) := none

namespace Level

/-- The next argument is the value of an option. -/
def awaited? (l : Level) : Option CommandOption :=
  match l.pending with
  | some (o, none) => some o
  | _ => none

/-- Sets the option given last. -/
def settle (l : Level) (command : Option Action) : Except UsageFault Level :=
  match l.pending with
  | none => .ok l
  | some (o, value) => do return { settings := ← l.settings.set command o value, pending := none }

/-- Takes in an option that is complete. -/
def give (l : Level) (command : Option Action) (o : CommandOption) (value : Option String) :
    Except UsageFault Level := do
  let l ← l.settle command
  return { l with settings := ← l.settings.set command o value }

/-- Takes in an option whose value is to follow. -/
def await (l : Level) (command : Option Action) (o : CommandOption) : Except UsageFault Level := do
  return { ← l.settle command with pending := some (o, none) }

/-- Takes in an option by its name, perhaps with a value after an equals sign. -/
def readLong (l : Level) (command : Option Action) (text : List Char) :
    Except UsageFault Level :=
  let name := text.takeWhile (· != '=')
  let value := match text.drop name.length with
    | _ :: value => some (String.ofList value)
    | [] => none
  match (CommandOption.available command).find? (·.longName == String.ofList name) with
  | none => .error .unknownArgument
  | some o =>
    if o.takesValue then
      match value with
      | some value => l.give command o (some value)
      | none => l.await command o
    else if value.isSome then .error .unneededValue
    else l.give command o none

/-- Takes in options by their letters. What follows the letter of an option with a value is the
value, perhaps after an equals sign. -/
def readLetters (command : Option Action) : List Char → Level → Except UsageFault Level
  | [], l => .ok l
  | c :: rest, l =>
    match (CommandOption.available command).find? (·.letter? == some c) with
    | none => .error .unknownArgument
    | some o =>
      if o.takesValue then
        match rest with
        | [] => l.await command o
        | '=' :: value => l.give command o (some (String.ofList value))
        | value => l.give command o (some (String.ofList value))
      else do readLetters command rest (← l.give command o none)

end Level

/-- The name of a command. -/
def commandName : Action → String
  | .establish => "establish"
  | .compare => "compare"
  | .checkInequality => "check-inequality"

/-- The commands. -/
def commands : List Action := [.establish, .compare, .checkInequality]

/-- The command with a name. -/
def findCommand? (name : String) : Option Action := commands.find? (commandName · == name)

/-- The name of the command that gives help. -/
def helpName : String := "help"

/-- What the command that gives help is asked. -/
def helpFor : List String → UsageFault
  | [] => .helpAsked none
  | [name] =>
    match findCommand? name with
    | some command => .helpAsked (some command)
    | none => if name = helpName then .helpAsked none else .unknownCommand
  | _ => .unknownCommand

/-- Why an argument that is neither an option nor its value has no place. Before a command it
would have to be one, but not after two dashes. -/
def misplaced (command : Option Action) (trailing : Bool) (arg : String) : UsageFault :=
  if command.isSome then .unknownArgument
  else if trailing && ((findCommand? arg).isSome || arg == helpName) then .unknownArgument
  else .unknownCommand

/-- Reads the arguments of a level, up to a command if there is none yet. -/
def readLevel (command : Option Action) : (trailing : Bool) → List String → Level →
    Except UsageFault (Level × Option (Action × List String))
  | _, [], l => .ok (l, none)
  | trailing, arg :: rest, l =>
    let named := if command.isNone && !trailing && l.awaited?.isNone then findCommand? arg else none
    match named, trailing, arg.toList with
    | some found, _, _ => .ok (l, some (found, rest))
    | none, true, _ => .error (misplaced command true arg)
    | none, false, ['-', '-'] => readLevel command true rest l
    | none, false, '-' :: '-' :: text => do
      readLevel command false rest (← l.readLong command text)
    | none, false, '-' :: c :: text => do
      readLevel command false rest (← Level.readLetters command (c :: text) l)
    | none, false, _ =>
      match l.awaited? with
      | some o => readLevel command false rest { l with pending := some (o, some arg) }
      | none =>
        if command.isNone && arg == helpName then .error (helpFor rest)
        else .error (misplaced command false arg)

/-- What a command line asks for. -/
structure Invocation where
  /-- The policy file. -/
  config : Option String
  logLevel : String
  debug : Bool
  action : Action
  request : RunRequest

/-- The level of detail of messages where none is given. -/
def defaultLogLevel : String := "info"

/-- Reads a command line. -/
def parse (args : List String) : Except UsageFault Invocation := do
  let (outer, found) ← readLevel none false args {}
  match found with
  | none =>
    let outer ← outer.settle none
    .error (if outer.settings.isAnythingSet then .noCommand else .nothingGiven)
  | some (action, rest) =>
    let (inner, _) ← readLevel (some action) false rest {}
    let inner ← inner.settle (some action)
    let request ← inner.settings.request
    let outer ← outer.settle none
    let (inner, outer) := (inner.settings, outer.settings)
    return {
      config := inner.config <|> outer.config
      logLevel := (inner.logLevel <|> outer.logLevel).getD defaultLogLevel
      debug := inner.debug || outer.debug
      action
      request }

end VisualRegression.CommandLine
