import VisualRegression.Capture.Plan
import VisualRegression.Ordered.Map

/-!
# The cache of plans

Plans are kept by the parameters that they were composed for. A plan is built once: what is found
later is the very plan built first, which is told by the number of its build. Main statement:
`lookup_hit` says that nothing is built where a plan is found.
-/

namespace VisualRegression

/-- What a plan is kept under. The ratio counts by its bits. -/
structure PlanKey where
  strategy : String
  ratioBits : UInt64
  headerCut : UInt32
  footerCut : UInt32
deriving DecidableEq, Inhabited, Repr

namespace PlanKey

/-- The key of capture parameters. -/
def ofParameters (p : CaptureParameters) : PlanKey :=
  ⟨p.strategy, p.ratio.toBits, p.headerCut, p.footerCut⟩

/-- By strategy, then by the bits of the ratio, then by the cuts. -/
def order : PlanKey → PlanKey → Ordering :=
  compareLex (compareOn PlanKey.strategy) (compareLex (compareOn PlanKey.ratioBits)
    (compareLex (compareOn PlanKey.headerCut) (compareOn PlanKey.footerCut)))

instance : Ord PlanKey := ⟨order⟩

instance : Std.TransOrd PlanKey :=
  inferInstanceAs (Std.TransCmp (compareLex (compareOn PlanKey.strategy)
    (compareLex (compareOn PlanKey.ratioBits)
      (compareLex (compareOn PlanKey.headerCut) (compareOn PlanKey.footerCut)))))

instance : Std.LawfulEqOrd PlanKey where
  compare_self {a} := by
    change order a a = .eq
    simp [order, compareLex, compareOn]
  eq_of_compare {a b} h := by
    change order a b = .eq at h
    simp only [order, compareLex, compareOn, Ordering.then_eq_eq, Std.compare_eq_iff_eq] at h
    cases a; cases b; simp_all

end PlanKey

/-- A plan in the cache. -/
structure CachedPlan where
  /-- The number of the build that made the plan, counted from one. -/
  serial : Nat
  plan : CapturePlan

/-- The plans kept, and how often a plan was found and was not. -/
structure PlanCache where
  entries : OrderedMap PlanKey CachedPlan
  hits : Nat
  misses : Nat

/-- What a look-up answers and leaves behind. -/
structure PlanLookup where
  answer : Except CaptureFault CachedPlan
  /-- The plan was not there, and the builder ran. -/
  built : Bool
  cache : PlanCache

namespace PlanCache

instance : EmptyCollection PlanCache := ⟨⟨∅, 0, 0⟩⟩

instance : Inhabited PlanCache := ⟨∅⟩

/-- The plan under a key; where there is none, the one that the builder makes, which is kept unless
the builder fails. -/
def lookup (c : PlanCache) (key : PlanKey) (build : Unit → Except CaptureFault CapturePlan) :
    PlanLookup :=
  match c.entries.get? key with
  | some found => ⟨.ok found, false, { c with hits := c.hits + 1 }⟩
  | none =>
    let misses := c.misses + 1
    match build () with
    | .error fault => ⟨.error fault, true, { c with misses := misses }⟩
    | .ok plan =>
      let cached := ⟨misses, plan⟩
      ⟨.ok cached, true, { c with misses := misses, entries := c.entries.insert key cached }⟩

/-- The cache without its plans; the counts stay. -/
def clear (c : PlanCache) : PlanCache := { c with entries := ∅ }

/-- A plan that is there is found as it is, and nothing is built. -/
theorem lookup_hit {c : PlanCache} {key : PlanKey} {found : CachedPlan}
    (h : c.entries.get? key = some found) (build : Unit → Except CaptureFault CapturePlan) :
    c.lookup key build = ⟨.ok found, false, { c with hits := c.hits + 1 }⟩ := by
  simp [lookup, h]

end PlanCache

end VisualRegression
