import VisualRegression.Proofs.Batch.Agreement
import VisualRegression.Proofs.Batch.Interleaving

/-!
# What a batch comes to

Over a store in memory and a page that answers by what it is asked alone, the order of turns decides
nothing.  The invariant `Pool.OnTrack` says of every pool that an interleaving reaches that the rest
of each check comes to what the whole check comes to alone.  A turn keeps it: the check that moved
is on its own course, and to the others the state looks as it did before.  `runs_agree` is the
conclusion.
-/

namespace VisualRegression.Batch

open Relation CheckProgram

section Invariant

variable {σ : Type} (e : Engine) (page : PageParties σ) (s₀ : Shared (σ × Baselines))

/-- What a check comes to alone. -/
def alone (job : Instant × Check) :
    Option (Except CheckFault CheckResult) × Shared (σ × Baselines) :=
  perform page.withMemory (e.execute job.1 job.2) s₀

/-- The rest of a check comes to what the whole check comes to alone, and leaves its baseline as
that does. -/
structure Task.OnTrack (job : Instant × Check) (t : Task) (s : Shared (σ × Baselines)) : Prop where
  within : ∀ p, t = some p → p.StoreWithin (· = job.2.baseline) (· = job.2.baseline)
  outcome : (t.rest page.withMemory s).1 = (alone e page s₀ job).1
  kept : (t.rest page.withMemory s).2.world.2.get? job.2.baseline =
    (alone e page s₀ job).2.world.2.get? job.2.baseline

/-- **What every interleaving keeps**: each check is on track, and the baselines of no check are as
they were at first. -/
structure Pool.OnTrack (jobs : List (Instant × Check)) (pool : Pool (σ × Baselines)) : Prop where
  length : pool.tasks.length = jobs.length
  tasks : ∀ (i : Nat) job t, jobs[i]? = some job → pool.tasks[i]? = some t →
    Task.OnTrack e page s₀ job t pool.shared
  others : ∀ k, (∀ job ∈ jobs, job.2.baseline ≠ k) →
    pool.shared.world.2.get? k = s₀.world.2.get? k

variable {e page s₀} {job : Instant × Check} {s s' : Shared (σ × Baselines)}

theorem Task.OnTrack.start :
    Task.OnTrack e page s₀ job (some (e.execute job.1 job.2).run) s₀ where
  within := by
    intro p hp
    cases hp
    exact Engine.execute_storeWithin e job.1 job.2
  outcome := rfl
  kept := rfl

/-- The check that takes a step stays on track. -/
theorem Task.OnTrack.step {p : Program (Except CheckFault CheckResult)}
    (h : Task.OnTrack e page s₀ job (some p) s) :
    Task.OnTrack e page s₀ job (p.step page.withMemory s).1 (p.step page.withMemory s).2 where
  within _ hp := (h.within p rfl).step hp
  outcome := by
    rw [Task.rest_step]
    exact h.outcome
  kept := by
    rw [Task.rest_step]
    exact h.kept

/-- A check stays on track in a state that looks the same to it. -/
theorem Task.OnTrack.agreeOn (hpage : page.Stateless) {t : Task}
    (h : Task.OnTrack e page s₀ job t s) (hs : s.AgreeOn job.2.baseline s') :
    Task.OnTrack e page s₀ job t s' := by
  rcases t with _ | p
  · exact ⟨h.within, h.outcome, hs.baseline.symm.trans h.kept⟩
  · obtain ⟨houtcome, hleft⟩ := Program.run_agreeOn hpage (h.within p rfl) hs
    exact ⟨h.within, houtcome.symm.trans h.outcome, hleft.baseline.symm.trans h.kept⟩

theorem Pool.OnTrack.start (jobs : List (Instant × Check)) :
    Pool.OnTrack e page s₀ jobs (.start e jobs s₀) where
  length := List.length_map _
  tasks i job t hjob ht := by
    change (jobs.map _)[i]? = some t at ht
    rw [List.getElem?_map, hjob] at ht
    cases ht
    exact Task.OnTrack.start
  others _ _ := rfl

/-- Two checks of a batch that is accepted are for different baselines. -/
theorem baseline_ne_of_nodup {jobs : List (Instant × Check)}
    (hkeys : (jobs.map (·.2.baseline)).Nodup) {i j : Nat} {job job' : Instant × Check}
    (hi : jobs[i]? = some job) (hj : jobs[j]? = some job') (hij : i ≠ j) :
    job.2.baseline ≠ job'.2.baseline := by
  intro he
  obtain ⟨hlt, -⟩ := List.getElem?_eq_some_iff.1 hi
  refine hij ((List.getElem?_inj (by rwa [List.length_map]) hkeys).1 ?_)
  rw [List.getElem?_map, List.getElem?_map, hi, hj]
  exact congrArg some he

/-- **A turn keeps all checks on track.** -/
theorem Pool.OnTrack.turn (hpage : page.Stateless) {jobs : List (Instant × Check)}
    (hkeys : (jobs.map (·.2.baseline)).Nodup) {pool pool' : Pool (σ × Baselines)}
    (h : pool.OnTrack e page s₀ jobs) (hturn : Turn page.withMemory pool pool') :
    pool'.OnTrack e page s₀ jobs := by
  cases hturn with
  | step i p hi hp =>
    obtain ⟨hlt, -⟩ := List.getElem?_eq_some_iff.1 hi
    obtain ⟨mover, hmover⟩ : ∃ job, jobs[i]? = some job :=
      ⟨_, List.getElem?_eq_getElem (h.length ▸ hlt)⟩
    have hmoved := h.tasks i mover _ hmover hi
    -- under any other name the baselines look the same after the turn
    have hlook : ∀ k, mover.2.baseline ≠ k →
        pool.shared.AgreeOn k (p.step page.withMemory pool.shared).2 := fun k hk =>
      Program.agreeOn_step (hmoved.within p rfl) (Ne.symm hk) pool.shared
    refine ⟨(List.length_set).trans h.length, fun j job t hjob ht => ?_, fun k hk => ?_⟩
    · by_cases hij : i = j
      -- the check whose turn it is goes on, and all others have not been touched
      · subst hij
        rw [hmover] at hjob
        cases hjob
        rw [List.getElem?_set_self hlt] at ht
        cases ht
        exact hmoved.step
      · rw [List.getElem?_set_ne hij] at ht
        exact (h.tasks j job t hjob ht).agreeOn hpage
          (hlook _ (baseline_ne_of_nodup hkeys hmover hjob hij))
    · rw [← h.others k hk]
      exact (hlook k (hk mover (List.mem_of_getElem? hmover))).baseline.symm

theorem Pool.OnTrack.run (hpage : page.Stateless) {jobs : List (Instant × Check)}
    (hkeys : (jobs.map (·.2.baseline)).Nodup) {pool : Pool (σ × Baselines)}
    (hrun : ReflTransGen (Turn page.withMemory) (.start e jobs s₀) pool) :
    pool.OnTrack e page s₀ jobs := by
  induction hrun with
  | refl => exact .start jobs
  | tail _ hturn ih => exact ih.turn hpage hkeys hturn

/-- What is under each name once all checks of a batch have ended: under that of a check what it
leaves alone, and else what was there at first. -/
structure Settled (e : Engine) (page : PageParties σ) (s₀ : Shared (σ × Baselines))
    (jobs : List (Instant × Check)) (baselines : Baselines) : Prop where
  own : ∀ job ∈ jobs, baselines.get? job.2.baseline =
    (alone e page s₀ job).2.world.2.get? job.2.baseline
  others : ∀ k, (∀ job ∈ jobs, job.2.baseline ≠ k) → baselines.get? k = s₀.world.2.get? k

/-- The same checks, in whatever order and at whatever instants, settle the same baselines. -/
theorem Settled.unique {jobs jobs' : List (Instant × Check)} {baselines baselines' : Baselines}
    (h : Settled e page s₀ jobs baselines) (h' : Settled e page s₀ jobs' baselines')
    (hjobs : (jobs'.map Prod.snd).Perm (jobs.map Prod.snd)) : baselines = baselines' := by
  refine OrderedMap.ext_get? fun k => ?_
  -- a name belongs to a check in both orders or in neither
  by_cases hk : ∃ job ∈ jobs, job.2.baseline = k
  · obtain ⟨job, hjob, rfl⟩ := hk
    obtain ⟨job', hjob', hcheck⟩ := List.mem_map.1 (hjobs.mem_iff.2 (List.mem_map_of_mem hjob))
    have hsame : (alone e page s₀ job').2 = (alone e page s₀ job).2 := by
      unfold alone
      rw [hcheck, Engine.perform_execute_at page.withMemory job.1 job'.1 s₀]
    rw [h.own job hjob, ← hsame, ← hcheck, h'.own job' hjob']
  · have hnone : ∀ job ∈ jobs, job.2.baseline ≠ k := fun job hjob he => hk ⟨job, hjob, he⟩
    rw [h.others k hnone, h'.others k fun job' hjob' => ?_]
    obtain ⟨job, hjob, hcheck⟩ := List.mem_map.1 (hjobs.mem_iff.1 (List.mem_map_of_mem hjob'))
    rw [← hcheck]
    exact hnone job hjob

/-- **An entry of a batch is that of the check alone**, up to the time on it; a check that breaks
off has the fault of that in its place. -/
def AsAlone (e : Engine) (page : PageParties σ) (s₀ : Shared (σ × Baselines))
    (job : Instant × Check) (r : Except CheckFault CheckResult) : Prop :=
  (∀ now, r.map (CheckResult.at now) =
      ending (perform page.withMemory (e.execute now job.2) s₀).1) ∧
    ((perform page.withMemory (e.execute job.1 job.2) s₀).1 = none → r = .error .brokenOff)

theorem asAlone_ending : AsAlone e page s₀ job (ending (alone e page s₀ job).1) := by
  refine ⟨fun now => ?_, fun hnone => ?_⟩
  · rw [Engine.perform_execute_at page.withMemory job.1 now s₀, alone]
    rcases (perform page.withMemory (e.execute job.1 job.2) s₀).1 with _ | _ | r <;> rfl
  · rw [alone, hnone]
    rfl

/-- Once all checks have ended, each has the entry that it has alone, and the baselines are settled.
-/
theorem Pool.OnTrack.joined {jobs : List (Instant × Check)} {pool : Pool (σ × Baselines)}
    (h : pool.OnTrack e page s₀ jobs) {results : List (Except CheckFault CheckResult)}
    (hresults : Joined pool.tasks results) :
    List.Forall₂ (AsAlone e page s₀) jobs results ∧
      Settled e page s₀ jobs pool.shared.world.2 := by
  obtain ⟨hlength, hends⟩ := List.forall₂_iff_get.1 hresults
  refine ⟨List.forall₂_iff_get.2 ⟨h.length.symm.trans hlength, fun i hi hr => ?_⟩, ?_, h.others⟩
  · have ht : i < pool.tasks.length := h.length ▸ hi
    have htrack := h.tasks i _ _ (List.getElem?_eq_getElem hi) (List.getElem?_eq_getElem ht)
    obtain ⟨hend, -⟩ := Task.rest_of_result? page.withMemory pool.shared (hends i ht hr)
    rw [← hend]
    change AsAlone e page s₀ _ (ending (Task.rest _ pool.tasks[i] _).1)
    rw [htrack.outcome]
    exact asAlone_ending
  · intro job hjob
    obtain ⟨i, hi⟩ := List.mem_iff_getElem?.1 hjob
    obtain ⟨hlt, -⟩ := List.getElem?_eq_some_iff.1 hi
    have ht : i < pool.tasks.length := h.length ▸ hlt
    have htrack := h.tasks i _ _ hi (List.getElem?_eq_getElem ht)
    obtain ⟨-, hs⟩ := Task.rest_of_result? page.withMemory pool.shared
      (hends i ht (hlength ▸ ht))
    rw [← htrack.kept]
    exact congrArg (fun s => s.world.2.get? job.2.baseline) hs.symm

/-- What the checks leave that run one after the other is settled too. -/
theorem settled_runAll (hpage : page.Stateless) (now : Instant) {order : List Check}
    (hkeys : (order.map Check.baseline).Nodup) :
    Settled e page s₀ (order.map fun c => (now, c))
      (runAll e page.withMemory now order s₀).2.world.2 := by
  obtain ⟨tasks, hjoined, hrun⟩ := exists_joined_runAll e page.withMemory now order s₀
  have htrack : Pool.OnTrack e page s₀ (order.map fun c => (now, c))
      ⟨tasks, (runAll e page.withMemory now order s₀).2⟩ := by
    refine .run hpage ?_ hrun
    rw [map_baseline_map_mk]
    exact hkeys
  exact (htrack.joined hjoined).2

/-- A batch is rejected exactly if two of its checks are for one baseline, and then it comes to that
alone: nothing is asked of anybody. -/
theorem runs_iff_of_not_nodup {τ : Type} (e : Engine) (parties : Collaborators τ) (s : Shared τ)
    {jobs : List (Instant × Check)} (hkeys : ¬ (jobs.map (·.2.baseline)).Nodup) :
    ∃ key, ∀ outcome s', Runs e parties jobs s outcome s' ↔
      outcome = .error (.request (.duplicateBaseline key)) ∧ s' = s := by
  cases hkey : duplicate? [] (jobs.map (·.2.baseline)) with
  | none => exact absurd (duplicate?_eq_none_iff.1 hkey).1 hkeys
  | some key =>
    refine ⟨key, fun outcome s' => ⟨fun h => ?_, ?_⟩⟩
    · cases h with
      | rejected hkey' =>
        rw [hkey] at hkey'
        cases hkey'
        exact ⟨rfl, rfl⟩
      | joined hkey' _ _ =>
        rw [hkey] at hkey'
        cases hkey'
    · rintro ⟨rfl, rfl⟩
      exact .rejected hkey

/-- **A batch comes to the same in every order of turns.**  Running it with the checks one after the
other is one of the orders.  Over any parties, a batch is rejected as a whole if two of its checks
are for one baseline: with a fault of configuration, and without any request.  Else, over a page
that answers by what it is asked alone and a store in memory, no interleaving goes on for ever, one
that cannot go on has ended all checks, and every batch comes to one entry for each check, in the
order in which the checks were given.  Each entry is that of the check alone on the state at first,
up to the time on it, so that a check that breaks off changes no entry but its own; and the
baselines are those that the checks leave when they run one after the other, in any order. -/
theorem runs_agree (e : Engine) (jobs : List (Instant × Check)) :
    (∀ {τ : Type} (parties : Collaborators τ) now checks s,
      Runs e parties (checks.map fun c => (now, c)) s (run e parties now checks s).1
        (run e parties now checks s).2) ∧
    (¬ (jobs.map (·.2.baseline)).Nodup → ∀ {τ : Type} (parties : Collaborators τ) s,
      ∃ fault : CheckFault, fault.isConfiguration = true ∧
        ∀ outcome s', Runs e parties jobs s outcome s' ↔ outcome = .error fault ∧ s' = s) ∧
    ((jobs.map (·.2.baseline)).Nodup → ∀ {σ : Type} (page : PageParties σ), page.Stateless →
      (WellFounded fun pool' pool => Turn page.withMemory pool pool') ∧
      (∀ pool, (∀ pool', ¬ Turn page.withMemory pool pool') →
        ∃ results, Joined pool.tasks results) ∧
      ∀ s : Shared (σ × Baselines),
        (∃ outcome s', Runs e page.withMemory jobs s outcome s') ∧
        ∀ outcome s', Runs e page.withMemory jobs s outcome s' →
          ∃ results, outcome = .ok results ∧ List.Forall₂ (AsAlone e page s) jobs results ∧
            ∀ now order, order.Perm (jobs.map Prod.snd) →
              s'.world.2 = (runAll e page.withMemory now order s).2.world.2) := by
  refine ⟨runs_run e, fun hkeys τ parties s => ?_, fun hkeys σ page hpage => ?_⟩
  · obtain ⟨key, hruns⟩ := runs_iff_of_not_nodup e parties s hkeys
    exact ⟨_, rfl, hruns⟩
  · refine ⟨wellFounded_turn _, fun pool hstuck => ?_, fun s => ⟨exists_runs e _ jobs s, ?_⟩⟩
    · exact (exists_turn_or_joined page.withMemory pool).resolve_left fun ⟨pool', h⟩ =>
        hstuck pool' h
    · intro outcome s' h
      cases h with
      | rejected hkey =>
        rw [duplicate?_eq_none_iff.2 ⟨hkeys, fun _ _ => List.not_mem_nil⟩] at hkey
        cases hkey
      | joined _ hrun hresults =>
        obtain ⟨hentries, hsettled⟩ := (Pool.OnTrack.run hpage hkeys hrun).joined hresults
        refine ⟨_, rfl, hentries, fun now order horder => ?_⟩
        have hnodup : (order.map Check.baseline).Nodup := by
          refine (horder.map Check.baseline).nodup_iff.2 ?_
          rw [List.map_map]
          exact hkeys
        refine hsettled.unique (settled_runAll hpage now hnodup) ?_
        rw [List.map_map]
        exact (List.map_id order).symm ▸ horder

end Invariant

namespace TwoPages

/-- A page of one pixel that has no elements to be found. -/
def page : PageParties Unit where
  capture _ _ _ := (some (.ok [⟨1, 1, #[⟨1, 2, 3, 255⟩], rfl⟩]), ())
  resolve _ _ _ := (none, ())
  present _ _ := ()

/-- A check that establishes a baseline. -/
def home : Check where
  id := ⟨"1"⟩
  baseline := ⟨"home"⟩
  action := .establish
  context := some ⟨"page"⟩

/-- A check for another baseline, which breaks off looking for an element. -/
def menu : Check :=
  { home with
    baseline := ⟨"menu"⟩
    ignores := ⟨some (OrderedSet.ofList [.css "p"]), none⟩ }

/-- No baselines to begin with. -/
def start : Shared (Unit × Baselines) := ⟨.standard, (), ∅⟩

end TwoPages

open TwoPages in
/-- The check that breaks off leaves the other one its result, and a batch with one check twice is
rejected. -/
theorem runs_agree_two_pages :
    (∃ r s', Runs {} page.withMemory [(⟨0, 0⟩, home), (⟨1, 0⟩, menu)] start
      (.ok [.ok r, .error .brokenOff]) s') ∧
    ∃ fault : CheckFault, fault.isConfiguration = true ∧
      Runs {} page.withMemory [(⟨0, 0⟩, home), (⟨1, 0⟩, home)] start (.error fault) start := by
  constructor
  · obtain ⟨-, -, h⟩ := runs_agree {} [(⟨0, 0⟩, home), (⟨1, 0⟩, menu)]
    obtain ⟨-, -, h⟩ :=
      h (by decide) page ⟨fun _ _ _ _ => rfl, fun _ _ _ _ => rfl, fun _ _ _ => rfl⟩
    obtain ⟨⟨outcome, s', hruns⟩, hentries⟩ := h start
    obtain ⟨results, rfl, hresults, -⟩ := hentries _ _ hruns
    rcases hresults with _ | ⟨hfirst, _ | ⟨hsecond, ⟨⟩⟩⟩
    obtain rfl := hsecond.2 rfl
    have hr := hfirst.1 ⟨0, 0⟩
    rename_i first
    rcases first with fault | r
    · cases hr
    · exact ⟨r, s', hruns⟩
  · obtain ⟨-, h, -⟩ := runs_agree {} [(⟨0, 0⟩, home), (⟨1, 0⟩, home)]
    obtain ⟨fault, hfault, hruns⟩ := h (by decide) page.withMemory start
    exact ⟨fault, hfault, (hruns _ _).2 ⟨rfl, rfl⟩⟩

end VisualRegression.Batch
