import VisualRegression.Check.Engine

/-!
# Batches of checks

Several checks of one engine. No two of them may be for one baseline. Each has its own result or
fault; one that breaks off does not touch the others. Main statement: `duplicate?_eq_none_iff` says
when a batch is accepted.
-/

namespace VisualRegression.Batch

/-- The first key that was there before. -/
def duplicate? : List BaselineKey → List BaselineKey → Option BaselineKey
  | _, [] => none
  | seen, key :: rest => if key ∈ seen then some key else duplicate? (key :: seen) rest

/-- A batch is accepted exactly if its keys are all different. -/
theorem duplicate?_eq_none_iff {seen keys : List BaselineKey} :
    duplicate? seen keys = none ↔ keys.Nodup ∧ ∀ k ∈ keys, k ∉ seen := by
  induction keys generalizing seen with
  | nil => simp [duplicate?]
  | cons key rest ih =>
    simp only [duplicate?]
    split
    · rename_i h
      simp only [reduceCtorEq, List.nodup_cons, List.mem_cons, forall_eq_or_imp, false_iff]
      exact fun hn => hn.2.1 h
    · rename_i h
      rw [ih]
      simp only [List.mem_cons, not_or, List.nodup_cons, forall_eq_or_imp]
      constructor
      · rintro ⟨hn, hk⟩
        exact ⟨⟨fun hm => (hk key hm).1 rfl, hn⟩, h, fun k hm => (hk k hm).2⟩
      · rintro ⟨⟨hk, hn⟩, _, hs⟩
        exact ⟨hn, fun k hm => ⟨fun he => hk (he ▸ hm), hs k hm⟩⟩

variable {σ : Type}

/-- The end of a check's program: its own, or the fault of breaking off. -/
def ending : Option (Except CheckFault CheckResult) → Except CheckFault CheckResult
  | some r => r
  | none => .error .brokenOff

/-- Runs checks one after the other. -/
def runAll (e : Engine) (collaborators : Collaborators σ) (now : Instant) :
    List Check → Shared σ → List (Except CheckFault CheckResult) × Shared σ
  | [], s => ([], s)
  | c :: rest, s =>
    let (r, s) := Program.run collaborators (e.execute now c).run s
    let (rs, s) := runAll e collaborators now rest s
    (ending r :: rs, s)

/-- Runs a batch, unless two of its checks are for one baseline. -/
def run (e : Engine) (collaborators : Collaborators σ) (now : Instant) (checks : List Check)
    (s : Shared σ) : Except CheckFault (List (Except CheckFault CheckResult)) × Shared σ :=
  match duplicate? [] (checks.map Check.baseline) with
  | some key => (.error (.request (.duplicateBaseline key)), s)
  | none =>
    let (rs, s) := runAll e collaborators now checks s
    (.ok rs, s)

end VisualRegression.Batch
