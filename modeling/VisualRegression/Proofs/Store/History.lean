import VisualRegression.Proofs.Store.Memory

/-!
# Histories of a store in memory

The calls of one engine over one store, one after the other, each on what the calls before it left.
`Engine.history` records of each call its check, how it ended and the baselines around it; the page
may answer as it likes, fail or break off.  `history_baselines` says what the store has at each
moment of such a history: under each name the image that the latest call kept there which
established that baseline with a result, and else what was there at first.
-/

namespace VisualRegression

/-- A call of an engine: the check, how it ended, unless a party broke off, and the baselines just
before and just after it. -/
structure CallRecord where
  check : Check
  outcome : Option (Except CheckFault CheckResult)
  before : Baselines
  after : Baselines

/-- The image that the call kept under a name: only one that established this baseline with a result
kept any. -/
def CallRecord.kept? (k : BaselineKey) (call : CallRecord) : Option Image :=
  match call.outcome with
  | some (.ok r) =>
    if call.check.action = .establish ∧ call.check.baseline = k then some r.checkpoint else none
  | _ => none

/-- A call that ended without a result kept nothing. -/
theorem CallRecord.kept?_of_not_ok {call : CallRecord} (h : ∀ r, call.outcome ≠ some (.ok r))
    (k : BaselineKey) : call.kept? k = none := by
  unfold kept?
  rcases ho : call.outcome with _ | _ | r
  · rfl
  · rfl
  · exact absurd ho (h r)

/-- A call that was not for establishing a baseline kept nothing. -/
theorem CallRecord.kept?_of_ne {call : CallRecord} (h : call.check.action ≠ .establish)
    (k : BaselineKey) : call.kept? k = none := by
  unfold kept?
  rcases call.outcome with _ | _ | r
  · rfl
  · rfl
  · exact if_neg fun hx => h hx.1

/-- The image that the latest of some calls kept under a name. -/
def CallRecord.latest? (k : BaselineKey) (calls : List CallRecord) : Option Image :=
  (calls.filterMap (kept? k)).getLast?

theorem CallRecord.latest?_cons (k : BaselineKey) (call : CallRecord) (calls : List CallRecord)
    (first : Option Image) :
    (latest? k (call :: calls)).or first = (latest? k calls).or ((call.kept? k).or first) := by
  unfold latest?
  rw [List.filterMap_cons]
  rcases call.kept? k with _ | img
  · rfl
  · rw [List.getLast?_cons]
    rcases (calls.filterMap (kept? k)).getLast? with _ | img' <;> rfl

theorem CallRecord.latest?_append (k : BaselineKey) (calls : List CallRecord) (call : CallRecord) :
    latest? k (calls ++ [call]) = (call.kept? k).or (latest? k calls) := by
  unfold latest?
  rw [List.filterMap_append, List.getLast?_append, List.filterMap_cons]
  rcases call.kept? k with _ | img <;> rfl

namespace Engine

open CheckProgram

section History

variable {σ : Type} (e : Engine) (page : PageParties σ)

/-- The record of one call. -/
def record (now : Instant) (c : Check) (s : Shared (σ × Baselines)) : CallRecord :=
  let (outcome, s') := perform page.withMemory (e.execute now c) s
  ⟨c, outcome, s.world.2, s'.world.2⟩

/-- The records of calls made one after the other. -/
def history : List (Instant × Check) → Shared (σ × Baselines) → List CallRecord
  | [], _ => []
  | (now, c) :: rest, s =>
    e.record page now c s :: history rest (perform page.withMemory (e.execute now c) s).2

variable {e page} {now : Instant} {c : Check} {s : Shared (σ × Baselines)} {r : CheckResult}

/-- A call that does not establish a baseline leaves the baselines alone. -/
theorem record_after_of_ne (hc : c.action ≠ .establish) :
    (e.record page now c s).after = s.world.2 := by
  change (perform page.withMemory (e.execute now c) s).2.world.2 = _
  rw [execute_of_ne_establish hc]
  exact baselines_compareWithBaseline

/-- **What one call does to the baselines**: under each name there is what the call kept, and else
what was there before. -/
theorem record_after (k : BaselineKey) :
    (e.record page now c s).after.get? k =
      ((e.record page now c s).kept? k).or (s.world.2.get? k) := by
  by_cases hc : c.action = .establish
  · have hb := baselines_takeImage page e c s
    simp only [record, execute_of_establish hc, perform_establish_withMemory, CallRecord.kept?, hc]
    rcases c.validate with fault | ⟨⟩
    · rfl
    · rcases hi : perform page.withMemory (e.takeImage c) s with ⟨_ | fault | checkpoint, s₁⟩
      · rw [hi] at hb
        exact congrArg (·.get? k) hb
      · rw [hi] at hb
        exact congrArg (·.get? k) hb
      -- the one ending that keeps something, under the name of the check
      · simp only [true_and]
        by_cases hk : c.baseline = k
        · rw [if_pos hk, ← hk, OrderedMap.get?_insert_self]
          rfl
        · rw [if_neg hk, OrderedMap.get?_insert_of_ne _ _ (Ne.symm hk)]
          rfl
  · rw [record_after_of_ne hc, CallRecord.kept?_of_ne hc, Option.none_or]

/-- A call leaves the baselines alone unless it established one with a result. -/
theorem record_after_eq_before
    (h : c.action = .establish → ∀ r, (e.record page now c s).outcome ≠ some (.ok r)) :
    (e.record page now c s).after = (e.record page now c s).before := by
  refine OrderedMap.ext_get? fun k => ?_
  rw [record_after]
  by_cases hc : c.action = .establish
  · rw [CallRecord.kept?_of_not_ok (h hc)]
    rfl
  · rw [CallRecord.kept?_of_ne hc]
    rfl

/-- A comparison's result shows the baseline that it was judged by. -/
theorem baseline_of_judge {checkpoint baseline : Image} {percentage : UInt8}
    (h : e.judge now c checkpoint baseline percentage = .ok r) :
    r.baselineFound = true ∧ r.baseline = some baseline := by
  unfold judge at h
  split at h
  · cases h
    exact ⟨rfl, rfl⟩
  · cases h
    exact ⟨rfl, rfl⟩
  · cases h

/-- **What a result tells of the store**: whether there was a baseline just before the call, and
which one. -/
theorem record_result (h : (e.record page now c s).outcome = some (.ok r)) :
    r.baselineFound = s.world.2.contains c.baseline ∧ r.baseline = s.world.2.get? c.baseline := by
  have hp : perform page.withMemory (e.execute now c) s =
      (some (.ok r), (perform page.withMemory (e.execute now c) s).2) := Prod.ext h rfl
  have hb := baselines_takeImage page e c s
  by_cases hc : c.action = .establish
  · rw [execute_of_establish hc] at hp
    obtain ⟨-, checkpoint, s₁, hi, -, rfl, -⟩ := perform_establish_ok.1 hp
    rw [hi] at hb
    rw [PageParties.withMemory_load, hb]
    exact ⟨rfl, rfl⟩
  · rw [execute_of_ne_establish hc] at hp
    obtain ⟨-, percentage, -, checkpoint, s₁, hi, -, hr⟩ := perform_compareWithBaseline_ok.1 hp
    rw [hi] at hb
    rw [PageParties.withMemory_load, hb] at hr
    unfold OrderedMap.contains
    rcases hr with ⟨hl, rfl⟩ | ⟨baseline, hl, hj⟩
    · rw [Except.ok.inj hl]
      exact ⟨rfl, rfl⟩
    · rw [Except.ok.inj hl]
      exact baseline_of_judge hj

/-- The records of a history are those of its checks, in their order. -/
theorem history_checks (calls : List (Instant × Check)) (s : Shared (σ × Baselines)) :
    (history e page calls s).map CallRecord.check = calls.map Prod.snd := by
  induction calls generalizing s with
  | nil => rfl
  | cons call rest ih => exact congrArg (call.2 :: ·) (ih _)

/-- Each call of a history is made on a state that has under each name what the latest of the
earlier calls kept there, and else what was there at first. -/
theorem exists_state_of_history {calls : List (Instant × Check)} {earlier later : List CallRecord}
    {call : CallRecord} (h : history e page calls s = earlier ++ call :: later) :
    ∃ now s', call = e.record page now call.check s' ∧ ∀ k,
      s'.world.2.get? k = (CallRecord.latest? k earlier).or (s.world.2.get? k) := by
  -- the first call leaves the state on which the rest of the history is one of its own
  induction earlier generalizing calls s with
  | nil =>
    rcases calls with _ | ⟨⟨now, c⟩, rest⟩
    · cases h
    · obtain ⟨rfl, -⟩ := List.cons.inj h
      exact ⟨now, s, rfl, fun _ => rfl⟩
  | cons first earlier ih =>
    rcases calls with _ | ⟨⟨now, c⟩, rest⟩
    · cases h
    · obtain ⟨rfl, hrest⟩ := List.cons.inj h
      obtain ⟨now', s', hcall, hs'⟩ := ih hrest
      refine ⟨now', s', hcall, fun k => ?_⟩
      rw [CallRecord.latest?_cons, ← record_after, hs']
      rfl

/-- **The store throughout a history.**  The calls made so far decide what a store in memory has:
under each name the image of the latest one that established this baseline with a result, and where
there is none what was there at first.  A comparison changes nothing, and neither does a call that
ended with a fault or broke off.  Each result tells truly whether there was a baseline just before
its call, and which one. -/
theorem history_baselines (calls : List (Instant × Check)) (s : Shared (σ × Baselines)) :
    (e.history page calls s).map CallRecord.check = calls.map Prod.snd ∧
      ∀ earlier call later, e.history page calls s = earlier ++ call :: later →
        (∀ k, call.before.get? k = (CallRecord.latest? k earlier).or (s.world.2.get? k)) ∧
        (∀ k, call.after.get? k =
          (CallRecord.latest? k (earlier ++ [call])).or (s.world.2.get? k)) ∧
        ((call.check.action = .establish → ∀ r, call.outcome ≠ some (.ok r)) →
          call.after = call.before) ∧
        ∀ r, call.outcome = some (.ok r) →
          r.baselineFound = call.before.contains call.check.baseline ∧
          r.baseline = call.before.get? call.check.baseline := by
  refine ⟨history_checks calls s, fun earlier call later h => ?_⟩
  obtain ⟨now, s', hcall, hs'⟩ := exists_state_of_history h
  rw [hcall]
  refine ⟨hs', fun k => ?_, record_after_eq_before, fun r hr => record_result hr⟩
  rw [record_after, hs', CallRecord.latest?_append, Option.or_assoc]

end History

namespace FourCalls

/-- A page of one pixel that looks different each time, and has no elements to be found. -/
def page : PageParties UInt8 where
  capture _ _ w := (some (.ok [⟨1, 1, #[⟨w.1, 0, 0, 255⟩], rfl⟩]), w.1 + 1)
  resolve _ _ w := (none, w.1)
  present _ w := w.1

/-- A check that establishes the baseline. -/
def check : Check where
  id := ⟨"1"⟩
  baseline := ⟨"home"⟩
  action := .establish
  context := some ⟨"page"⟩

/-- The first call establishes the baseline.  The second one is refused, the third one breaks off
looking for an element, and the last one compares. -/
def calls : List (Instant × Check) :=
  [(⟨0, 0⟩, check), (⟨1, 0⟩, { check with acceptable := some 101 }),
    (⟨2, 0⟩, { check with ignores := ⟨some (OrderedSet.ofList [.css "p"]), none⟩ }),
    (⟨3, 0⟩, { check with action := .compare })]

/-- The records of the four calls, on a store without baselines. -/
def records : List CallRecord := ({} : Engine).history page calls ⟨.standard, 0, ∅⟩

/-- The page as it looks the first time. -/
def firstLook : Image := ⟨1, 1, #[⟨0, 0, 0, 255⟩], rfl⟩

end FourCalls

open FourCalls in
/-- The last of the calls compares with what the first one kept, and leaves it there. -/
theorem history_baselines_four_calls :
    ∃ call r, records = records.take 3 ++ [call] ∧ call.outcome = some (.ok r) ∧
      call.after.get? ⟨"home"⟩ = some firstLook ∧ r.baseline = some firstLook := by
  obtain ⟨call, r, hcall, hcheck, hr⟩ : ∃ call r, records = records.take 3 ++ [call] ∧
      call.check.baseline = ⟨"home"⟩ ∧ call.outcome = some (.ok r) := ⟨_, _, rfl, rfl, rfl⟩
  obtain ⟨hbefore, hafter, -, hresult⟩ :=
    (history_baselines calls ⟨.standard, 0, ∅⟩).2 _ call [] hcall
  rw [← hcall] at hafter
  refine ⟨call, r, hcall, hr, (hafter _).trans rfl, ?_⟩
  rw [(hresult r hr).2, hcheck, hbefore]
  rfl

end Engine

end VisualRegression
