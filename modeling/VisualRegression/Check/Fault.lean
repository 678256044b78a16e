import VisualRegression.Capture.Fault
import VisualRegression.Check.Action
import VisualRegression.FileSystem.Fault

/-!
# What can go wrong in a check

The faults of a request, of the store of baselines and of a whole check. A fault is one of
configuration if the request itself is wrong; such a fault is handed back to whoever asked, while
any other is a failed check.
-/

namespace VisualRegression

/-- The two percentages that a check may carry. -/
inductive PercentageRole where
  /-- How much may differ. -/
  | acceptable
  /-- How much has to differ. -/
  | required
deriving DecidableEq, Repr

/-- The name of the role. -/
def PercentageRole.name : PercentageRole → String
  | acceptable => "acceptable"
  | required => "required"

/-- Why a request cannot be honoured. -/
inductive RequestFault where
  /-- A percentage of a check is above one hundred. -/
  | percentageTooLarge (role : PercentageRole) (value : UInt8)
  /-- A percentage given with a step is above one hundred. -/
  | stepPercentageTooLarge (value : UInt8)
  /-- There is no page to look at. -/
  | noContext
  /-- The action does not compare. -/
  | notComparing (action : Action)
  /-- No action has this name. -/
  | unknownAction (normalized : String)
  /-- What to ignore is given both in the configuration and with the step. -/
  | ignoresTwice
  /-- Two checks of a batch are for one baseline. -/
  | duplicateBaseline (key : BaselineKey)
deriving DecidableEq, Repr

namespace RequestFault

/-- The fault in words. -/
def message : RequestFault → String
  | percentageTooLarge role value =>
    role.name ++ " diff percentage must be within 0..=100, got " ++ toString value.toNat
  | stepPercentageTooLarge value =>
    "diff percentage must be within 0..=100, got " ++ toString value.toNat
  | noContext => "no search context attached to the check"
  | notComparing action => action.name ++ " does not compare against a baseline"
  | unknownAction normalized => s!"unknown visual action: {normalized}"
  | ignoresTwice =>
    "The elements and areas to ignore must be passed either through screenshot configuration " ++
      "or step parameters"
  | duplicateBaseline key => "baseline " ++ key.text ++ " appears more than once in the batch"

end RequestFault

/-- Why a baseline could not be loaded or saved. -/
inductive StoreFault where
  /-- The file cannot be read. -/
  | unreadable (path : String) (fault : FileFault)
  /-- The file is no image. -/
  | undecodable (path : String) (fault : ValueFault)
  /-- The image has no file form. -/
  | unencodable (fault : ValueFault)
  /-- The file cannot be written. -/
  | unwritable (path : String) (fault : FileFault)
deriving DecidableEq, Repr

namespace StoreFault

/-- The fault in words. -/
def message : StoreFault → String
  | unreadable path fault => s!"failed to read {path}: " ++ fault.message
  | undecodable path fault => s!"{path}: " ++ fault.message
  | unencodable fault => fault.message
  | unwritable path fault => s!"failed to write {path}: " ++ fault.message

end StoreFault

/-- Why a check yields no result. -/
inductive CheckFault where
  /-- The request cannot be honoured. -/
  | request (fault : RequestFault)
  /-- A party that the check relies on failed. -/
  | collaborator (source message : String)
  /-- The store of baselines failed. -/
  | store (fault : StoreFault)
  /-- The capture or the comparison failed. -/
  | capture (fault : CaptureFault)
  /-- A value is none of its kind. -/
  | value (fault : ValueFault)
  /-- A check broke off. -/
  | brokenOff
deriving Inhabited

namespace CheckFault

/-- The fault in words. -/
def message : CheckFault → String
  | request fault => "Invalid configuration: " ++ fault.message
  | collaborator source message => s!"{source} failed: {message}"
  | store fault => "Baseline store failure: " ++ fault.message
  | capture fault => fault.message
  | value fault => fault.message
  | brokenOff => "Internal error: Task join error"

/-- The fault lies in what was asked for, not in what was found. -/
def isConfiguration : CheckFault → Bool
  | request _ | value _ => true
  | capture fault => fault.isConfiguration
  | _ => false

end CheckFault

/-- The action that a text names. -/
def Action.parse (text : String) : Except CheckFault Action :=
  match Action.ofName? (Action.normalize text) with
  | some action => .ok action
  | none => .error (.request (.unknownAction (Action.normalize text)))

end VisualRegression
