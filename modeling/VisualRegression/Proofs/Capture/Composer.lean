import VisualRegression.Capture.Composer

/-!
# What a composer answers

The cache of a composer saves work and decides nothing: `planFor_build` says that no request changes
which plan, or which fault, any other parameters get.  Only the counts and the numbers of the builds
tell who asked first.
-/

namespace VisualRegression

/-- Numbers with the same bits are the same. -/
theorem eq_of_toBits_eq {x y : Float} (h : x.toBits = y.toBits) : x = y := by
  rcases x with ⟨bits, hx⟩
  rcases y with ⟨bits', hy⟩
  obtain rfl : bits = bits' := h
  rfl

/-- Parameters are told apart by their keys. -/
theorem PlanKey.eq_of_ofParameters_eq {p q : CaptureParameters}
    (h : ofParameters p = ofParameters q) : p = q := by
  obtain ⟨hs, hr, hh, hf⟩ := PlanKey.mk.inj h
  rcases p with ⟨r, hc, fc, st⟩
  rcases q with ⟨r', hc', fc', st'⟩
  obtain rfl : r = r' := eq_of_toBits_eq hr
  cases hs
  cases hh
  cases hf
  rfl

namespace PlanCache

/-- The plan that a look-up comes to, whoever builds it. -/
theorem plan_lookup (c : PlanCache) (key : PlanKey)
    (build : Unit → Except CaptureFault CapturePlan) :
    (c.lookup key build).answer.map CachedPlan.plan =
      match c.entries.get? key with
      | some found => .ok found.plan
      | none => build () := by
  unfold lookup
  rcases c.entries.get? key with _ | found
  · rcases build () with fault | plan <;> rfl
  · rfl

/-- A look-up leaves the plans under other keys alone. -/
theorem get?_lookup_of_ne (c : PlanCache) {key other : PlanKey} (h : other ≠ key)
    (build : Unit → Except CaptureFault CapturePlan) :
    (c.lookup key build).cache.entries.get? other = c.entries.get? other := by
  unfold lookup
  rcases c.entries.get? key with _ | found
  · rcases build () with fault | plan
    · rfl
    · exact OrderedMap.get?_insert_of_ne _ _ h
  · rfl

/-- Looked up again, a plan is what it was the first time. -/
theorem plan_lookup_again (c : PlanCache) (key : PlanKey)
    (build : Unit → Except CaptureFault CapturePlan) :
    ((c.lookup key build).cache.lookup key build).answer.map CachedPlan.plan =
      (c.lookup key build).answer.map CachedPlan.plan := by
  rw [plan_lookup, plan_lookup]
  unfold lookup
  rcases hf : c.entries.get? key with _ | found
  · rcases hb : build () with fault | plan
    · simp only [hf]
    · simp only [OrderedMap.get?_insert_self]
  · simp only [hf]

end PlanCache

namespace Composer

/-- The plan that parameters get. -/
def planFor (c : Composer) (q : CaptureParameters) : Except CaptureFault CapturePlan :=
  (c.build q).1.map CachedPlan.plan

/-- The plan of valid parameters is that of their key. -/
theorem planFor_of_valid {c : Composer} {q : CaptureParameters} (hq : q.validate = .ok ()) :
    c.planFor q =
      (c.cache.lookup (.ofParameters q) fun _ => c.compose q).answer.map CachedPlan.plan := by
  unfold planFor build
  rw [hq]

/-- Parameters that are not valid get no plan. -/
theorem planFor_of_invalid {c : Composer} {q : CaptureParameters} {fault : CaptureFault}
    (hq : q.validate = .error fault) : c.planFor q = .error fault := by
  unfold planFor build
  rw [hq]
  rfl

/-- A request looks in the cache if its parameters are valid. -/
theorem build_of_valid {c : Composer} {p : CaptureParameters} (hp : p.validate = .ok ()) :
    (c.build p).2 =
      { c with cache := (c.cache.lookup (.ofParameters p) fun _ => c.compose p).cache } := by
  unfold build
  rw [hp]

/-- **A request changes no plan**, its own included: others get what they would have got before it.
-/
theorem planFor_build (c : Composer) (p q : CaptureParameters) :
    (c.build p).2.planFor q = c.planFor q := by
  rcases hp : p.validate with fault | ⟨⟩
  · rw [build, hp]
  · rw [build_of_valid hp]
    rcases hq : q.validate with fault | ⟨⟩
    · rw [planFor_of_invalid hq, planFor_of_invalid hq]
    · rw [planFor_of_valid hq, planFor_of_valid hq]
      -- either the entry that the request may have made is asked for, or another one
      by_cases hkey : PlanKey.ofParameters q = PlanKey.ofParameters p
      · obtain rfl := PlanKey.eq_of_ofParameters_eq hkey
        exact PlanCache.plan_lookup_again _ _ _
      · rw [PlanCache.plan_lookup, PlanCache.plan_lookup, PlanCache.get?_lookup_of_ne _ hkey]
        rfl

end Composer

end VisualRegression
