import Mathlib.Logic.Basic
import VisualRegression.Check.Resolver
import VisualRegression.Proofs.Check.Course
import VisualRegression.Proofs.Difference.Count

/-!
# The verdict of a check

A check that ends with a result has a verdict exactly if it compares, and the verdict depends on
nothing but the baseline that the store had, the sizes of the two images, the number of positions at
which they differ and the percentage that the check gives for its own action.  A baseline that is
missing or of another size is never turned into a pass, not even by a check that hopes for a
difference.  Main statement: `execute_verdict`.
-/

namespace VisualRegression

namespace Check

/-- The percentage that a check gives for its own action, zero if it gives none. -/
def ownPercentage (c : Check) : UInt8 :=
  (if c.action = .checkInequality then c.required else c.acceptable).getD 0

/-- The check with another value for the percentage that its action does not ask for. -/
def withOtherPercentage (c : Check) (p : Option UInt8) : Check :=
  if c.action = .checkInequality then { c with acceptable := p } else { c with required := p }

theorem threshold?_eq {c : Check} (h : c.action ≠ .establish) :
    c.threshold? = some c.ownPercentage := by
  unfold threshold? ownPercentage
  cases ha : c.action with
  | establish => exact absurd ha h
  | compare => rfl
  | checkInequality => rfl

/-- A valid check's own percentage is one. -/
theorem ownPercentage_le {c : Check} (h : c.validate = .ok ()) : c.ownPercentage ≤ 100 := by
  obtain ⟨ha, hr⟩ := validate_eq_ok_iff.1 h
  unfold ownPercentage
  split
  · cases hp : c.required with
    | none => decide
    | some v => exact hr v hp
  · cases hp : c.acceptable with
    | none => decide
    | some v => exact ha v hp

theorem validate_withOtherPercentage {c : Check} (h : c.validate = .ok ()) {p : Option UInt8}
    (hp : ∀ v, p = some v → v ≤ 100) : (c.withOtherPercentage p).validate = .ok () := by
  obtain ⟨ha, hr⟩ := validate_eq_ok_iff.1 h
  unfold withOtherPercentage
  split
  · exact validate_eq_ok_iff.2 ⟨hp, hr⟩
  · exact validate_eq_ok_iff.2 ⟨ha, hp⟩

end Check

namespace Engine

open CheckProgram

section Verdict

variable {σ : Type} {parties : Collaborators σ} {s s' : Shared σ} {e : Engine} {now : Instant}
  {c : Check} {r : CheckResult}

/-- **Two images that were judged** were compared, or they are of two sizes and nothing but this was
found. -/
theorem judge_cases {checkpoint baseline : Image} {percentage : UInt8}
    (h : e.judge now c checkpoint baseline percentage = .ok r) :
    (∃ found, e.comparer.compare checkpoint baseline percentage = .ok found ∧
        r = .compared c now checkpoint baseline found) ∨
      checkpoint.dimensions ≠ baseline.dimensions ∧
        r = .invalidBaseline c now checkpoint baseline
          (CaptureFault.sizeMismatch baseline.dimensions checkpoint.dimensions).message := by
  unfold judge at h
  split at h
  · rename_i found hfound
    obtain rfl := Except.ok.inj h
    exact .inl ⟨found, hfound, rfl⟩
  · rename_i hsizes
    obtain ⟨hd, rfl, rfl⟩ := Comparer.sizes_of_compare hsizes
    obtain rfl := Except.ok.inj h
    exact .inr ⟨hd, rfl⟩
  · cases h

/-- A judgement is of the action of its check. -/
theorem action_of_judge {checkpoint baseline : Image} {percentage : UInt8}
    (h : e.judge now c checkpoint baseline percentage = .ok r) : r.action = c.action := by
  obtain ⟨found, -, rfl⟩ | ⟨-, rfl⟩ := judge_cases h <;> rfl

/-- **What the judgement of a checkpoint against a baseline says**: images of one size pass as the
exclusive or of their likeness and the hope for a difference, and images of two sizes fail. -/
theorem judge_ok {checkpoint baseline : Image} {percentage : UInt8} (hc : c.action ≠ .establish)
    (h : e.judge now c checkpoint baseline percentage = .ok r) :
    r.checkpoint = checkpoint ∧ ∃ v, r.verdict = some v ∧
      (v = true ↔ baseline.dimensions = checkpoint.dimensions ∧
        Xor (100 * differenceCount e.policy.tolerance checkpoint baseline ≤
            percentage.toNat * (checkpoint.width.toNat * checkpoint.height.toNat))
          (c.action = .checkInequality)) := by
  obtain ⟨found, hfound, rfl⟩ | ⟨hd, rfl⟩ := judge_cases h
  · obtain ⟨hd, -, hp⟩ := Comparer.compare_ok hfound
    refine ⟨rfl, found.passed ^^ c.action.requiresInequality, ?_, ?_⟩
    · rw [CheckResult.verdict_compared, Action.verdict_eq hc]
    · have hq : c.action.requiresInequality = true ↔ c.action = .checkInequality := by
        cases c.action <;> simp [Action.requiresInequality]
      change _ ↔ _ ∧ Xor (100 * differenceCount e.comparer.tolerance checkpoint baseline ≤ _) _
      rw [Bool.xor_iff_ne, Ne, Bool.eq_iff_iff, hp, hq, xor_iff_not_iff]
      exact ⟨fun hx => ⟨hd.symm, hx⟩, fun hx => hx.2⟩
  · refine ⟨rfl, false, ?_, ?_⟩
    · simp [CheckResult.verdict, CheckResult.invalidBaseline, CheckResult.established, hc]
    · exact ⟨fun hf => (by cases hf), fun hx => absurd hx.1.symm hd⟩

/-- The percentage that the action does not ask for has no influence, as long as it is one. -/
theorem perform_withOtherPercentage (hv : c.validate = .ok ()) {p : Option UInt8}
    (hp : ∀ v, p = some v → v ≤ 100) (hc : c.action ≠ .establish) (s : Shared σ) :
    perform parties (e.execute now (c.withOtherPercentage p)) s =
      perform parties (e.execute now c) s := by
  have hv' := Check.validate_withOtherPercentage hv hp
  obtain ⟨id, baseline, action, acceptable, required, ignores, parameters, context⟩ := c
  -- once the check is valid, nothing asks for the other percentage any more
  cases action with
  | establish => exact absurd rfl hc
  | compare | checkInequality =>
    change perform parties (e.compareWithBaseline now _) s =
      perform parties (e.compareWithBaseline now _) s
    unfold compareWithBaseline
    rw [perform_bind, perform_bind, perform_mk_pure, perform_mk_pure, hv, hv']
    rfl

/-- **The verdict of every check that ends with a result.**  A check that establishes has none.  A
check that compares passes exactly if the store had a baseline of the checkpoint's size and the
likeness of the two, exclusive or the hope for a difference, holds; likeness means that the share of
differing positions is within the percentage that the check gives for its own action.  Without a
baseline, or with one of another size, both kinds of comparison fail, and the percentage for the
other action changes nothing. -/
theorem execute_verdict (h : perform parties (e.execute now c) s = (some (.ok r), s')) :
    (c.action = .establish → r.verdict = none) ∧
      (c.action ≠ .establish → ∃ atLoad : Shared σ,
        perform parties (e.takeImage c) s = (some (.ok r.checkpoint), atLoad) ∧
        ∃ v, r.verdict = some v ∧
          (v = true ↔ ∃ b, (parties.load c.baseline atLoad.world).1 = .ok (some b) ∧
            b.dimensions = r.checkpoint.dimensions ∧
            Xor (100 * differenceCount e.policy.tolerance r.checkpoint b ≤
                c.ownPercentage.toNat *
                  (r.checkpoint.width.toNat * r.checkpoint.height.toNat))
              (c.action = .checkInequality)) ∧
          ((parties.load c.baseline atLoad.world).1 = .ok none → v = false) ∧
          (∀ b, (parties.load c.baseline atLoad.world).1 = .ok (some b) →
            b.dimensions ≠ r.checkpoint.dimensions → v = false) ∧
          ∀ p, (∀ q, p = some q → q ≤ 100) →
            perform parties (e.execute now (c.withOtherPercentage p)) s = (some (.ok r), s')) := by
  constructor
  · intro hc
    rw [execute_of_establish hc] at h
    obtain ⟨-, checkpoint, s₁, -, -, rfl, -⟩ := perform_establish_ok.1 h
    simp [CheckResult.verdict, CheckResult.established, hc]
  · intro hc
    obtain ⟨hv, percentage, ht, checkpoint, s₁, hi, rfl, hr⟩ :=
      perform_compareWithBaseline_ok.1 (execute_of_ne_establish hc ▸ h)
    rw [Check.threshold?_eq hc, Option.some.injEq] at ht
    subst ht
    have hother := fun p hp => (perform_withOtherPercentage hv (p := p) hp hc s).trans h
    rcases hr with ⟨hl, rfl⟩ | ⟨baseline, hl, hj⟩
    · refine ⟨s₁, hi, false, ?_, ?_, fun _ => rfl, fun _ _ _ => rfl, hother⟩
      · rw [CheckResult.verdict_baselineMissing, if_neg hc]
      · refine ⟨fun hf => (by cases hf), ?_⟩
        rintro ⟨b, hb, -⟩
        rw [hl] at hb
        cases hb
    · obtain ⟨hck, v, hver, hiff⟩ := judge_ok hc hj
      subst hck
      refine ⟨s₁, hi, v, hver, ?_, ?_, ?_, hother⟩
      · rw [hiff]
        refine ⟨fun hx => ⟨baseline, hl, hx⟩, ?_⟩
        rintro ⟨b, hb, hx⟩
        rw [hl] at hb
        cases hb
        exact hx
      · intro hn
        rw [hl] at hn
        cases hn
      · intro b hb hne
        rw [hl] at hb
        cases hb
        exact Bool.eq_false_iff.2 fun hvt => hne (hiff.1 hvt).1

end Verdict

namespace HalfDiffers

/-- A page of two pixels, next to a store in memory. -/
def parties : Collaborators Baselines :=
  .ofStore (fun _ _ _ => .ok [⟨2, 1, #[⟨1, 2, 3, 4⟩, ⟨5, 6, 7, 8⟩], rfl⟩])
    (fun _ locator => locator.resolveAsArea) .memory

/-- The baseline differs from the page in one pixel. -/
def shared : Shared Baselines :=
  ⟨.standard, (∅ : Baselines).insert ⟨"home"⟩ ⟨2, 1, #[⟨1, 2, 3, 4⟩, ⟨5, 9, 7, 8⟩], rfl⟩⟩

/-- More than 49 percent of the pixels have to differ. -/
def check : Check where
  id := ⟨"1"⟩
  baseline := ⟨"home"⟩
  action := .checkInequality
  acceptable := some 3
  required := some 49
  context := some ⟨"page"⟩

end HalfDiffers

open HalfDiffers in
/-- One of two pixels differs, which is what the check hopes for. -/
theorem execute_verdict_half_differs :
    ∃ r s', perform parties (({} : Engine).execute ⟨0, 0⟩ check) shared = (some (.ok r), s') ∧
      r.verdict = some true := by
  obtain ⟨r, s', h⟩ : ∃ r s',
      perform parties (({} : Engine).execute ⟨0, 0⟩ check) shared = (some (.ok r), s') :=
    ⟨_, _, rfl⟩
  obtain ⟨atLoad, hi, v, hv, hiff, -⟩ := (execute_verdict h).2 (by decide)
  refine ⟨r, s', h, ?_⟩
  rw [hv, hiff.2]
  cases h
  obtain rfl := congrArg Prod.snd hi
  exact ⟨_, rfl, rfl, .inr ⟨rfl, by decide⟩⟩

end Engine

end VisualRegression
