import Mathlib.Data.List.Forall2
import Mathlib.Logic.Relation
import VisualRegression.Check.Batch
import VisualRegression.Proofs.Check.Course

/-!
# Interleavings of a batch

The checks of a batch take turns on the state that they share, one request at a time and in any
order. A `Pool` holds what is left of each check, `Turn` is one request of one of them, and `Runs`
says what a whole batch may come to.  No interleaving goes on for ever (`wellFounded_turn`), and one
that cannot go on has a result for each check (`exists_turn_or_joined`), so that a batch always
comes to something (`exists_runs`).  Running the checks one after the other is one of the
interleavings (`runs_run`).
-/

namespace VisualRegression.Batch

open Relation

variable {σ : Type}

/-- What is left of a check under way; nothing once a party broke off. -/
abbrev Task := Option (Program (Except CheckFault CheckResult))

namespace Task

/-- How the check ended, if it did. -/
def result? : Task → Option (Except CheckFault CheckResult)
  | none => some (ending none)
  | some (.done r) => some (ending (some r))
  | some _ => none

/-- What the rest of the check comes to from a state on, and the state that it leaves. -/
def rest (parties : Collaborators σ) (t : Task) (s : Shared σ) :
    Option (Except CheckFault CheckResult) × Shared σ :=
  match t with
  | none => (none, s)
  | some p => p.run parties s

variable {parties : Collaborators σ} {s : Shared σ}

/-- A step leaves the rest of what there was. -/
theorem rest_step (p : Program (Except CheckFault CheckResult)) :
    rest parties (p.step parties s).1 (p.step parties s).2 = rest parties (some p) s := by
  change rest _ _ _ = p.run parties s
  rw [Program.run_eq_run_step parties p s]
  rcases p.step parties s with ⟨_ | _, s'⟩ <;> rfl

/-- Of a check that has ended, its end is all that is left. -/
theorem rest_of_result? (parties : Collaborators σ) (s : Shared σ) {t : Task}
    {r : Except CheckFault CheckResult} (h : t.result? = some r) :
    ending (t.rest parties s).1 = r ∧ (t.rest parties s).2 = s := by
  rcases t with _ | p
  · exact ⟨Option.some.inj h, rfl⟩
  · cases p with
    | done a => exact ⟨Option.some.inj h, rfl⟩
    | _ => cases h

end Task

/-- A batch under way: what is left of its checks, and the state that they share. -/
structure Pool (σ : Type) where
  tasks : List Task
  shared : Shared σ

/-- The batch before its first request. -/
def Pool.start (e : Engine) (jobs : List (Instant × Check)) (s : Shared σ) : Pool σ :=
  ⟨jobs.map fun job => some (e.execute job.1 job.2).run, s⟩

/-- **One request of one check**, whichever has not ended; the others wait. -/
inductive Turn (parties : Collaborators σ) (pool : Pool σ) : Pool σ → Prop
  | step (i : Nat) (p : Program (Except CheckFault CheckResult))
      (hi : pool.tasks[i]? = some (some p)) (hp : Task.result? (some p) = none) :
      Turn parties pool
        ⟨pool.tasks.set i (p.step parties pool.shared).1, (p.step parties pool.shared).2⟩

/-- All checks have ended, and these are their results in their order. -/
def Joined (tasks : List Task) (results : List (Except CheckFault CheckResult)) : Prop :=
  List.Forall₂ (fun t r => t.result? = some r) tasks results

/-- **What a batch may come to**, with each check started at an instant of its own.  It is rejected
before any request if two of its checks are for one baseline, and else its checks take turns until
all have ended. -/
inductive Runs (e : Engine) (parties : Collaborators σ) (jobs : List (Instant × Check))
    (s : Shared σ) :
    Except CheckFault (List (Except CheckFault CheckResult)) → Shared σ → Prop
  | rejected {key : BaselineKey} (hkey : duplicate? [] (jobs.map (·.2.baseline)) = some key) :
      Runs e parties jobs s (.error (.request (.duplicateBaseline key))) s
  | joined {pool : Pool σ} {results : List (Except CheckFault CheckResult)}
      (hkey : duplicate? [] (jobs.map (·.2.baseline)) = none)
      (hrun : ReflTransGen (Turn parties) (.start e jobs s) pool)
      (hresults : Joined pool.tasks results) :
      Runs e parties jobs s (.ok results) pool.shared

/-! ## Every interleaving comes to an end -/

/-- A check under way and what one step leaves of it. -/
inductive Next (parties : Collaborators σ) : Task → Task → Prop
  | step (p : Program (Except CheckFault CheckResult)) (s : Shared σ)
      (hp : Task.result? (some p) = none) : Next parties (p.step parties s).1 (some p)

/-- The checks of a pool and what one turn leaves of them. -/
inductive Advance (parties : Collaborators σ) (tasks : List Task) : List Task → Prop
  | step (i : Nat) (t t' : Task) (hi : tasks[i]? = some t) (ht : Next parties t' t) :
      Advance parties tasks (tasks.set i t')

variable (parties : Collaborators σ)

theorem acc_next_none : Acc (Next parties) none := .intro _ fun _ h => nomatch h

/-- No check goes on for ever: each step leads to a part of its program. -/
theorem acc_next (t : Task) : Acc (Next parties) t := by
  rcases t with _ | p
  · exact acc_next_none parties
  -- each step of a program leads to one that it continues with, so the induction is on the program
  · induction p with
    | done a => exact .intro _ fun _ h => (by cases h with | step _ s hp => cases hp)
    | plan q next ih =>
      refine .intro _ fun t h => ?_
      cases h with
      | step _ s hp => exact ih _
    | capture context q next ih =>
      refine .intro _ fun t h => ?_
      cases h with
      | step _ s hp =>
        simp only [Program.step]
        rcases (parties.capture context q s.world).1 with _ | answer
        · exact acc_next_none parties
        · exact ih answer
    | resolve context locator next ih =>
      refine .intro _ fun t h => ?_
      cases h with
      | step _ s hp =>
        simp only [Program.step]
        rcases (parties.resolve context locator s.world).1 with _ | answer
        · exact acc_next_none parties
        · exact ih answer
    | present snapshot next ih =>
      refine .intro _ fun t h => ?_
      cases h with
      | step _ s hp =>
        simp only [Program.step]
        rcases (parties.observe snapshot s.world).1 with _ | ⟨⟩
        · exact acc_next_none parties
        · exact ih
    | load key next ih =>
      refine .intro _ fun t h => ?_
      cases h with
      | step _ s hp => exact ih _
    | save key img next ih =>
      refine .intro _ fun t h => ?_
      cases h with
      | step _ s hp => exact ih _

variable {parties}

/-- A check that ends may be added to checks that end. -/
theorem acc_advance_cons {t : Task} {tasks : List Task} (ht : Acc (Next parties) t)
    (htasks : Acc (fun ts' ts => Advance parties ts ts') tasks) :
    Acc (fun ts' ts => Advance parties ts ts') (t :: tasks) := by
  -- whichever of the two goes on, the other one stays where it was
  induction ht generalizing tasks with
  | intro t _ iht =>
    induction htasks with
    | intro tasks hrest ihtasks =>
      refine .intro _ fun tasks' h => ?_
      cases h with
      | step i u u' hi hu =>
        rcases i with _ | i
        · cases hi
          exact iht _ hu (.intro _ hrest)
        · exact ihtasks _ (.step i u u' hi hu)

theorem acc_advance (parties : Collaborators σ) (tasks : List Task) :
    Acc (fun ts' ts => Advance parties ts ts') tasks := by
  induction tasks with
  | nil =>
    refine .intro _ fun _ h => ?_
    cases h with
    | step i t t' hi _ => cases hi
  | cons t tasks ih => exact acc_advance_cons (acc_next parties t) ih

/-- **No interleaving goes on for ever.** -/
theorem wellFounded_turn (parties : Collaborators σ) :
    WellFounded fun pool' pool : Pool σ => Turn parties pool pool' := by
  have hwf : WellFounded fun ts' ts => Advance parties ts ts' := ⟨acc_advance parties⟩
  refine Subrelation.wf (fun {pool' pool} h => ?_) (InvImage.wf Pool.tasks hwf)
  cases h with
  | step i p hi hp => exact .step i _ _ hi (.step p _ hp)

/-- **An interleaving that cannot go on has ended**, with a result for each check. -/
theorem exists_turn_or_joined (parties : Collaborators σ) (pool : Pool σ) :
    (∃ pool', Turn parties pool pool') ∨ ∃ results, Joined pool.tasks results := by
  -- a check that has no result yet has a step to take
  by_cases hall : ∀ t ∈ pool.tasks, ∃ r, t.result? = some r
  · refine .inr ?_
    obtain ⟨tasks, s⟩ := pool
    induction tasks with
    | nil => exact ⟨[], .nil⟩
    | cons t tasks ih =>
      obtain ⟨r, hr⟩ := hall t List.mem_cons_self
      obtain ⟨results, hresults⟩ := ih fun u hu => hall u (List.mem_cons_of_mem _ hu)
      exact ⟨r :: results, .cons hr hresults⟩
  · simp only [not_forall, not_exists, exists_prop] at hall
    obtain ⟨t, ht, hr⟩ := hall
    obtain ⟨i, hi⟩ := List.mem_iff_getElem?.1 ht
    rcases t with _ | p
    · exact absurd rfl (hr _)
    · exact .inl ⟨_, .step i p hi (Option.eq_none_iff_forall_ne_some.2 hr)⟩

theorem exists_joined (parties : Collaborators σ) (pool : Pool σ) :
    ∃ pool' results, ReflTransGen (Turn parties) pool pool' ∧ Joined pool'.tasks results := by
  induction pool using (wellFounded_turn parties).induction with
  | _ pool ih =>
    rcases exists_turn_or_joined parties pool with ⟨pool₁, h⟩ | ⟨results, h⟩
    · obtain ⟨pool', results, hrun, hresults⟩ := ih pool₁ h
      exact ⟨pool', results, .head h hrun, hresults⟩
    · exact ⟨pool, results, .refl, h⟩

/-- **A batch always comes to something.** -/
theorem exists_runs (e : Engine) (parties : Collaborators σ) (jobs : List (Instant × Check))
    (s : Shared σ) : ∃ outcome s', Runs e parties jobs s outcome s' := by
  cases hkey : duplicate? [] (jobs.map (·.2.baseline)) with
  | some key => exact ⟨_, _, .rejected hkey⟩
  | none =>
    obtain ⟨pool, results, hrun, hresults⟩ := exists_joined parties (.start e jobs s)
    exact ⟨_, _, .joined hkey hrun hresults⟩

/-! ## One after the other -/

/-- A check may go on alone until it has ended. -/
theorem rest_to_end (parties : Collaborators σ) (t : Task) (pool : Pool σ) {i : Nat}
    (hi : pool.tasks[i]? = some t) :
    ∃ t' : Task, t'.result? = some (ending (t.rest parties pool.shared).1) ∧
      ReflTransGen (Turn parties) pool
        ⟨pool.tasks.set i t', (t.rest parties pool.shared).2⟩ := by
  -- the induction is on what the check has still to do; nobody else takes a turn meanwhile
  induction acc_next parties t generalizing pool with
  | intro t _ ih =>
    cases hr : t.result? with
    | some r =>
      obtain ⟨hend, hs⟩ := Task.rest_of_result? parties pool.shared hr
      obtain ⟨hlt, ht⟩ := List.getElem?_eq_some_iff.1 hi
      refine ⟨t, hr.trans (congrArg some hend.symm), ?_⟩
      rw [hs, ← ht, List.set_getElem_self]
    | none =>
      obtain ⟨p, rfl⟩ : ∃ p, t = some p := by
        rcases t with _ | p
        · cases hr
        · exact ⟨p, rfl⟩
      obtain ⟨hlt, -⟩ := List.getElem?_eq_some_iff.1 hi
      obtain ⟨t', hend, hrun⟩ := ih _ (.step p pool.shared hr)
        ⟨pool.tasks.set i (p.step parties pool.shared).1, (p.step parties pool.shared).2⟩
        (List.getElem?_set_self hlt)
      rw [Task.rest_step] at hend hrun
      rw [List.set_set] at hrun
      exact ⟨t', hend, .head (.step i p hi hr) hrun⟩

theorem runAll_turns (e : Engine) (parties : Collaborators σ) (now : Instant)
    (checks : List Check) (ended : List Task) (s : Shared σ) :
    ∃ tasks, Joined tasks (runAll e parties now checks s).1 ∧
      ReflTransGen (Turn parties) ⟨ended ++ checks.map fun c => some (e.execute now c).run, s⟩
        ⟨ended ++ tasks, (runAll e parties now checks s).2⟩ := by
  -- the checks that have ended stay in front of those that have not begun
  induction checks generalizing ended s with
  | nil => exact ⟨[], .nil, .refl⟩
  | cons c rest ih =>
    have hi : (ended ++ (c :: rest).map fun c => some (e.execute now c).run)[ended.length]? =
        some (some (e.execute now c).run) := by
      rw [List.getElem?_append_right (Nat.le_refl _), Nat.sub_self]
      rfl
    obtain ⟨t, hend, hrun⟩ := rest_to_end parties _ ⟨_, s⟩ hi
    obtain ⟨tasks, hjoined, hrest⟩ :=
      ih (ended ++ [t]) (Program.run parties (e.execute now c).run s).2
    rw [List.set_append_right _ _ (Nat.le_refl _), Nat.sub_self] at hrun
    rw [List.append_assoc, List.append_assoc] at hrest
    exact ⟨t :: tasks, .cons hend hjoined, hrun.trans hrest⟩

/-- Run one after the other, the checks of a batch take turns of many requests each. -/
theorem exists_joined_runAll (e : Engine) (parties : Collaborators σ) (now : Instant)
    (checks : List Check) (s : Shared σ) :
    ∃ tasks, Joined tasks (runAll e parties now checks s).1 ∧
      ReflTransGen (Turn parties) (.start e (checks.map fun c => (now, c)) s)
        ⟨tasks, (runAll e parties now checks s).2⟩ := by
  rw [Pool.start, List.map_map]
  exact runAll_turns e parties now checks [] s

theorem map_baseline_map_mk (now : Instant) (checks : List Check) :
    (checks.map fun c => (now, c)).map (·.2.baseline) = checks.map Check.baseline := by
  rw [List.map_map]
  rfl

/-- **Running the checks one after the other is one of the interleavings.** -/
theorem runs_run (e : Engine) (parties : Collaborators σ) (now : Instant) (checks : List Check)
    (s : Shared σ) :
    Runs e parties (checks.map fun c => (now, c)) s (run e parties now checks s).1
      (run e parties now checks s).2 := by
  have hkeys := map_baseline_map_mk now checks
  unfold run
  cases hkey : duplicate? [] (checks.map Check.baseline) with
  | some key => exact .rejected (hkeys ▸ hkey)
  | none =>
    obtain ⟨tasks, hjoined, hrun⟩ := exists_joined_runAll e parties now checks s
    exact Runs.joined (hkeys ▸ hkey) hrun hjoined

end VisualRegression.Batch
