import VisualRegression.Capture.PlanCache

/-!
# The composer of plans

Stitchers registered by name, and the plans composed of them so far. Registering a stitcher clears
the plans, so that no plan outlives the stitcher that it was composed of.
-/

namespace VisualRegression

/-- The registered stitchers and the plans composed of them. -/
structure Composer where
  stitchers : OrderedMap String Stitcher
  cache : PlanCache

namespace Composer

/-- The composer with one more stitcher; it replaces one of the same name. -/
def register (c : Composer) (s : Stitcher) : Composer :=
  ⟨c.stitchers.insert s.name s, c.cache.clear⟩

/-- The composer with the two built-in stitchers. -/
def standard : Composer := ((⟨∅, ∅⟩ : Composer).register .viewport).register .fullPage

instance : Inhabited Composer := ⟨standard⟩

/-- The stitcher of a name. -/
def find (c : Composer) (name : String) : Except CaptureFault Stitcher :=
  match c.stitchers.get? name with
  | some s => .ok s
  | none => .error (.unknownStrategy name)

/-- The names of the registered stitchers, in order. -/
def names (c : Composer) : List String := c.stitchers.keys

/-- The composer with an empty cache. -/
def clearCache (c : Composer) : Composer := { c with cache := c.cache.clear }

/-- The plan that parameters ask for, composed anew. -/
def compose (c : Composer) (p : CaptureParameters) : Except CaptureFault CapturePlan := do
  let stitcher ← c.find p.strategy
  CapturePlan.compose stitcher p.ratio ⟨p.headerCut, p.footerCut⟩

/-- The plan that parameters ask for, from the cache if it is there. The ratio is checked first, and
a ratio that is not valid leaves the cache alone. -/
def build (c : Composer) (p : CaptureParameters) :
    Except CaptureFault CachedPlan × Composer :=
  match p.validate with
  | .error fault => (.error fault, c)
  | .ok () =>
    let found := c.cache.lookup (.ofParameters p) fun _ => c.compose p
    (found.answer, { c with cache := found.cache })

end Composer

end VisualRegression
