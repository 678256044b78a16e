import VisualRegression.Check.Fault
import VisualRegression.Check.Locator
import VisualRegression.Policy

/-!
# Checks

A check takes an image of a page, without the regions to ignore, and keeps it as a baseline or
compares it with one.
-/

namespace VisualRegression

/-- The identity of a check. -/
structure CheckId where
  text : String
deriving DecidableEq, Inhabited, Repr

namespace CheckId

/-- The identity made of 128 random bits, of which six are overwritten by the version (4) and the
variant of the form. -/
def ofRandom (high low : UInt64) : CheckId :=
  let high := (high &&& 0xFFFFFFFFFFFF0FFF) ||| 0x4000
  let low := (low &&& 0x3FFFFFFFFFFFFFFF) ||| 0x8000000000000000
  let field (width : Nat) (n : UInt64) := Text.hexField width n.toNat
  ⟨String.ofList (field 8 (high >>> 32) ++ '-' :: field 4 ((high >>> 16) &&& 0xFFFF) ++
    '-' :: field 4 (high &&& 0xFFFF) ++ '-' :: field 4 (low >>> 48) ++
    '-' :: field 12 (low &&& 0xFFFFFFFFFFFF))⟩

end CheckId

/-- A visual check. -/
structure Check where
  id : CheckId
  /-- The baseline to keep or to compare with. -/
  baseline : BaselineKey
  action : Action
  /-- The largest share of differing pixels that still counts as the same, in percent. -/
  acceptable : Option UInt8 := none
  /-- The share of pixels beyond which images count as different, in percent. -/
  required : Option UInt8 := none
  /-- What to ignore. -/
  ignores : LocatorMap := ∅
  /-- How to take the image, where that differs from the policy. -/
  parameters : Option CaptureParameters := none
  /-- The page to look at. -/
  context : Option SearchContext := none

namespace Check

/-- Refuses a percentage above one hundred. -/
def checkPercentage (role : PercentageRole) : Option UInt8 → Except CheckFault Unit
  | some value =>
    if value > 100 then .error (.request (.percentageTooLarge role value)) else .ok ()
  | none => .ok ()

/-- Refuses a check with a percentage above one hundred, the acceptable one first. -/
def validate (c : Check) : Except CheckFault Unit := do
  checkPercentage .acceptable c.acceptable
  checkPercentage .required c.required

/-- The percentage that counts for the action: none for keeping a baseline, zero where none is
given. -/
def threshold? (c : Check) : Option UInt8 :=
  match c.action with
  | .establish => none
  | .compare => some (c.acceptable.getD 0)
  | .checkInequality => some (c.required.getD 0)

end Check

end VisualRegression
