import VisualRegression.Check.Basic

/-!
# Configurations of checks

A configuration says how to take an image and what to ignore; what it leaves open is taken from
the policy. Main statement: `parameters_of_unset` says that a configuration that sets nothing asks
for the parameters of the policy.
-/

namespace VisualRegression

/-- How to take an image, as far as it is said, and what to ignore. -/
structure CaptureConfiguration where
  ratio : Option Float := none
  headerCut : Option UInt32 := none
  footerCut : Option UInt32 := none
  strategy : Option String := none
  elementIgnores : OrderedSet Locator := ∅
  areaIgnores : OrderedSet Locator := ∅
deriving Inhabited

namespace CaptureConfiguration

/-- The set, unless it has no member. -/
def nonEmpty? (s : OrderedSet Locator) : Option (OrderedSet Locator) :=
  if s.isEmpty then none else some s

theorem nonEmpty?_empty : nonEmpty? ∅ = none := rfl

theorem nonEmpty?_of_not_isEmpty {s : OrderedSet Locator} (h : s.isEmpty = false) :
    nonEmpty? s = some s := by
  simp [nonEmpty?, h]

/-- What is left of a set is left of it again. -/
theorem bind_nonEmpty? (s : OrderedSet Locator) :
    (nonEmpty? s).bind nonEmpty? = nonEmpty? s := by
  by_cases h : s.isEmpty = true
  · have hs : nonEmpty? s = none := if_pos h
    rw [hs, Option.bind_none]
  · have hs := nonEmpty?_of_not_isEmpty (Bool.eq_false_iff.2 h)
    rw [hs, Option.bind_some, hs]

/-- What to ignore; a kind with nothing to ignore has no entry. -/
def ignores (c : CaptureConfiguration) : LocatorMap :=
  ⟨nonEmpty? c.elementIgnores, nonEmpty? c.areaIgnores⟩

/-- The capture parameters: the configuration's where set, the policy's elsewhere. -/
def parameters (c : CaptureConfiguration) (p : Policy) : CaptureParameters where
  ratio := c.ratio.getD p.ratio
  headerCut := c.headerCut.getD p.headerCut
  footerCut := c.footerCut.getD p.footerCut
  strategy := c.strategy.getD p.strategy

/-- A configuration that sets nothing asks for the parameters of the policy. -/
theorem parameters_of_unset {c : CaptureConfiguration} (p : Policy) (hr : c.ratio = none)
    (hh : c.headerCut = none) (hf : c.footerCut = none) (hs : c.strategy = none) :
    c.parameters p = p.parameters := by
  simp [parameters, Policy.parameters, hr, hh, hf, hs]

end CaptureConfiguration

/-- Where checks come from: the policy that fills in what a configuration leaves open. -/
structure CheckFactory where
  policy : Policy := {}
deriving Inhabited

/-- The check for a baseline name and an action. Without a configuration the check leaves its
capture parameters to the engine. -/
def CheckFactory.create (f : CheckFactory) (id : CheckId) (name : String) (action : Action)
    (configuration : Option CaptureConfiguration) : Except CheckFault Check :=
  match BaselineKey.parse name with
  | .error fault => .error (.value (.baselineKey fault))
  | .ok baseline => .ok
    { id, baseline, action
      parameters := configuration.map fun c => c.parameters f.policy
      ignores := (configuration.map CaptureConfiguration.ignores).getD ∅ }

end VisualRegression
