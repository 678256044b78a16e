import Mathlib.Data.List.DropRight
import VisualRegression.Capture.PlanCache
import VisualRegression.Proofs.Ordered.Map
import VisualRegression.Proofs.Ordered.Set

/-!
# Histories of a cache of plans

A cache is asked for plans, with builders that may fail, and now and then it is cleared.
`PlanCache.history` records of each call what came of it, and `PlanCache.Reflects` says how a cache
can be told from such records: its plans are those made since it was cleared last, the first one
under each key, and its counts are those of all look-ups.  What one look-up can do is said once, by
`PlanCache.Looks`; each call keeps the cache a reflection of its records (`Reflects.after`), so that
it is one after any calls (`reflects_history`).  Main statement: `answers_from_history`.
-/

namespace VisualRegression

/-! ## The order of keys -/

namespace PlanKey

/-- One key comes before another: by the strategy, then by the bits of the ratio, then by the cut of
the header, then by that of the footer. -/
def Before (a b : PlanKey) : Prop :=
  a.strategy < b.strategy ∨ a.strategy = b.strategy ∧
    (a.ratioBits < b.ratioBits ∨ a.ratioBits = b.ratioBits ∧
      (a.headerCut < b.headerCut ∨ a.headerCut = b.headerCut ∧ a.footerCut < b.footerCut))

theorem compare_eq_lt {a b : PlanKey} : compare a b = .lt ↔ a.Before b := by
  have htext : compare a.strategy b.strategy = .lt ↔ a.strategy < b.strategy :=
    compareOfLessAndEq_eq_lt
  change order a b = .lt ↔ _
  simp only [order, compareLex, compareOn, Ordering.then_eq_lt, Std.compare_eq_iff_eq, htext,
    Std.compare_eq_lt, Before]

end PlanKey

/-! ## Calls and what comes of them -/

/-- What a cache of plans is asked for. -/
inductive PlanCacheCall where
  | lookup (key : PlanKey) (build : Unit → Except CaptureFault CapturePlan)
  | clear

/-- The call looks up a plan. -/
def PlanCacheCall.isLookup : PlanCacheCall → Bool
  | lookup _ _ => true
  | clear => false

/-- What came of a call of a cache. -/
inductive CacheRecord where
  /-- A plan was looked up; the builder ran, or it did not. -/
  | lookedUp (key : PlanKey) (answer : Except CaptureFault CachedPlan) (built : Bool)
  | cleared

namespace CacheRecord

/-- A plan was looked up. -/
def isLookup : CacheRecord → Bool
  | lookedUp _ _ _ => true
  | cleared => false

/-- The builder ran. -/
def isBuild : CacheRecord → Bool
  | lookedUp _ _ built => built
  | cleared => false

/-- The plan that the call made, and its key: the builder ran and did not fail. -/
def made? : CacheRecord → Option (PlanKey × CachedPlan)
  | lookedUp key (.ok plan) true => some (key, plan)
  | _ => none

/-- The plans made since the cache was cleared last, in the order of their making. -/
def madeSinceClear (records : List CacheRecord) : List (PlanKey × CachedPlan) :=
  (records.rtakeWhile isLookup).filterMap made?

variable (records : List CacheRecord)

theorem madeSinceClear_concat_cleared : madeSinceClear (records ++ [cleared]) = [] := by
  unfold madeSinceClear
  rw [List.rtakeWhile_concat_neg _ _ _ Bool.false_ne_true]
  rfl

theorem madeSinceClear_concat {record : CacheRecord} (h : record.isLookup = true) :
    madeSinceClear (records ++ [record]) = madeSinceClear records ++ record.made?.toList := by
  unfold madeSinceClear
  rw [List.rtakeWhile_concat_pos _ _ _ h, List.filterMap_append]
  cases hmade : record.made? <;> simp [hmade]

theorem filterMap_made?_concat (record : CacheRecord) :
    (records ++ [record]).filterMap made? = records.filterMap made? ++ record.made?.toList := by
  rw [List.filterMap_append]
  cases hmade : record.made? <;> simp [hmade]

end CacheRecord

namespace PlanCache

/-- What comes of a call. -/
def record (c : PlanCache) : PlanCacheCall → CacheRecord
  | .lookup key build => .lookedUp key (c.lookup key build).answer (c.lookup key build).built
  | .clear => .cleared

/-- The cache after a call. -/
def after (c : PlanCache) : PlanCacheCall → PlanCache
  | .lookup key build => (c.lookup key build).cache
  | .clear => c.clear

/-- The cache after calls made one after the other. -/
def afterAll (c : PlanCache) (calls : List PlanCacheCall) : PlanCache := calls.foldl after c

/-- What comes of calls made one after the other. -/
def history (c : PlanCache) : List PlanCacheCall → List CacheRecord
  | [] => []
  | call :: rest => c.record call :: history (c.after call) rest

theorem afterAll_concat (c : PlanCache) (calls : List PlanCacheCall) (call : PlanCacheCall) :
    c.afterAll (calls ++ [call]) = (c.afterAll calls).after call := by
  unfold afterAll
  rw [List.foldl_append]
  rfl

theorem history_concat (c : PlanCache) (calls : List PlanCacheCall) (call : PlanCacheCall) :
    c.history (calls ++ [call]) = c.history calls ++ [(c.afterAll calls).record call] := by
  induction calls generalizing c with
  | nil => rfl
  | cons first rest ih => exact congrArg (c.record first :: ·) (ih (c.after first))

/-- A history has a record of each call. -/
theorem countP_isLookup_history (c : PlanCache) (calls : List PlanCacheCall) :
    (c.history calls).countP CacheRecord.isLookup = calls.countP PlanCacheCall.isLookup := by
  induction calls generalizing c with
  | nil => rfl
  | cons call rest ih =>
    unfold history
    rw [List.countP_cons, List.countP_cons, ih]
    cases call <;> rfl

/-! ## One call -/

variable {c c' : PlanCache} {key : PlanKey} {build : Unit → Except CaptureFault CapturePlan}
  {record : CacheRecord} {records : List CacheRecord}

/-- **What a look-up can do**: what comes of it, and the cache that it leaves. -/
inductive Looks (c : PlanCache) (key : PlanKey) (build : Unit → Except CaptureFault CapturePlan) :
    CacheRecord → PlanCache → Prop
  /-- The plan is there. -/
  | found {plan : CachedPlan} (hfound : c.entries.get? key = some plan) :
      Looks c key build (.lookedUp key (.ok plan) false) { c with hits := c.hits + 1 }
  /-- The plan is not there and cannot be built. -/
  | failed {fault : CaptureFault} (hnone : c.entries.get? key = none)
      (hbuild : build () = .error fault) :
      Looks c key build (.lookedUp key (.error fault) true) { c with misses := c.misses + 1 }
  /-- The plan is not there; it is built, numbered and kept. -/
  | made {plan : CapturePlan} (hnone : c.entries.get? key = none) (hbuild : build () = .ok plan) :
      Looks c key build (.lookedUp key (.ok ⟨c.misses + 1, plan⟩) true)
        { c with
          misses := c.misses + 1
          entries := c.entries.insert key ⟨c.misses + 1, plan⟩ }

theorem looks_lookup (c : PlanCache) (key : PlanKey)
    (build : Unit → Except CaptureFault CapturePlan) :
    c.Looks key build (c.record (.lookup key build)) (c.after (.lookup key build)) := by
  change c.Looks key build (.lookedUp key (c.lookup key build).answer (c.lookup key build).built)
    (c.lookup key build).cache
  unfold lookup
  cases hentry : c.entries.get? key with
  | some plan => exact .found hentry
  | none =>
    cases hbuild : build () with
    | error fault => exact .failed hentry hbuild
    | ok plan => exact .made hentry hbuild

theorem Looks.isLookup (h : c.Looks key build record c') : record.isLookup = true := by
  cases h <;> rfl

/-- Each look-up is counted once: as a miss if the builder ran, and else as a hit. -/
theorem Looks.counts (h : c.Looks key build record c') :
    c'.misses = c.misses + record.isBuild.toNat ∧
      c'.hits + c'.misses = c.hits + c.misses + 1 := by
  cases h with
  | found => exact ⟨rfl, Nat.add_right_comm _ _ _⟩
  | failed | made => exact ⟨rfl, rfl⟩

/-- **A look-up makes at most one plan**, which is a new one for a key without any, and only the
entry of this plan is written. -/
theorem Looks.made_cases (h : c.Looks key build record c') :
    record.made? = none ∧ c'.entries = c.entries ∨
      ∃ plan, record.made? = some (key, plan) ∧ c.entries.get? key = none ∧
        c'.entries = c.entries.insert key plan ∧ plan.serial = c'.misses ∧
        c.misses < plan.serial := by
  cases h with
  | found | failed => exact .inl ⟨rfl, rfl⟩
  | made hnone => exact .inr ⟨_, rfl, hnone, rfl, rfl, Nat.lt_succ_self _⟩

/-! ## Caches and records -/

/-- **A cache reflects the records of its calls.** -/
structure Reflects (c : PlanCache) (records : List CacheRecord) : Prop where
  /-- Each look-up was a hit or a miss. -/
  lookups : c.hits + c.misses = records.countP CacheRecord.isLookup
  /-- Those at which the builder ran were the misses. -/
  builds : c.misses = records.countP CacheRecord.isBuild
  /-- Under each key there is the first plan that was made for it since the cache was cleared. -/
  entries : ∀ key, c.entries.get? key = (CacheRecord.madeSinceClear records).lookup key
  /-- No other one was made for it since. -/
  once : ((CacheRecord.madeSinceClear records).map Prod.fst).Nodup
  /-- Plans that were ever made have numbers that were given. -/
  numbered : ∀ e ∈ records.filterMap CacheRecord.made?, e.2.serial ≤ c.misses
  /-- No two plans that were ever made have one number. -/
  distinct : (records.filterMap CacheRecord.made?).Pairwise fun e e' => e.2.serial < e'.2.serial

theorem reflects_empty : (∅ : PlanCache).Reflects [] where
  lookups := rfl
  builds := rfl
  entries _ := rfl
  once := List.nodup_nil
  numbered _ h := absurd h List.not_mem_nil
  distinct := List.Pairwise.nil

/-- Clearing leaves no plan and all counts. -/
theorem Reflects.clear (h : c.Reflects records) : c.clear.Reflects (records ++ [.cleared]) where
  lookups := by
    rw [List.countP_append]
    exact h.lookups
  builds := by
    rw [List.countP_append]
    exact h.builds
  entries key := by
    rw [CacheRecord.madeSinceClear_concat_cleared]
    rfl
  once := by
    rw [CacheRecord.madeSinceClear_concat_cleared]
    exact List.nodup_nil
  numbered := by
    rw [CacheRecord.filterMap_made?_concat]
    exact fun e he => h.numbered e ((List.mem_append.1 he).resolve_right List.not_mem_nil)
  distinct := by
    rw [CacheRecord.filterMap_made?_concat]
    exact (List.append_nil _).symm ▸ h.distinct

/-- A look-up is counted as what it was. -/
theorem Reflects.counts (h : c.Reflects records) (hl : c.Looks key build record c') :
    c'.hits + c'.misses = (records ++ [record]).countP CacheRecord.isLookup ∧
      c'.misses = (records ++ [record]).countP CacheRecord.isBuild := by
  obtain ⟨hmisses, hcounts⟩ := hl.counts
  rw [List.countP_append, List.countP_append, List.countP_singleton, List.countP_singleton,
    ← h.lookups, ← h.builds, if_pos hl.isLookup]
  refine ⟨hcounts, hmisses.trans ?_⟩
  cases record.isBuild <;> rfl

/-- A look-up that makes no plan leaves the plans as they are. -/
theorem Reflects.looks_of_none (h : c.Reflects records) (hl : c.Looks key build record c')
    (hnone : record.made? = none) (hentries : c'.entries = c.entries) :
    c'.Reflects (records ++ [record]) := by
  obtain ⟨hlookups, hbuilds⟩ := h.counts hl
  have hmade := CacheRecord.madeSinceClear_concat records hl.isLookup
  have hever := CacheRecord.filterMap_made?_concat records record
  rw [hnone, Option.toList_none, List.append_nil] at hmade hever
  refine ⟨hlookups, hbuilds, ?_, ?_, ?_, ?_⟩
  · rw [hmade, hentries]
    exact h.entries
  · rw [hmade]
    exact h.once
  · rw [hever]
    intro e he
    have := h.numbered e he
    have := hl.counts.1
    omega
  · rw [hever]
    exact h.distinct

/-- A plan that is made is the first one under its key, and its number comes after all others. -/
theorem Reflects.looks_of_made {plan : CachedPlan} (h : c.Reflects records)
    (hl : c.Looks key build record c') (hplan : record.made? = some (key, plan))
    (hnone : c.entries.get? key = none) (hentries : c'.entries = c.entries.insert key plan)
    (hserial : plan.serial = c'.misses) (hlt : c.misses < plan.serial) :
    c'.Reflects (records ++ [record]) := by
  obtain ⟨hlookups, hbuilds⟩ := h.counts hl
  have hmade := CacheRecord.madeSinceClear_concat records hl.isLookup
  have hever := CacheRecord.filterMap_made?_concat records record
  rw [hplan, Option.toList_some] at hmade hever
  have hnew : (CacheRecord.madeSinceClear records).lookup key = none := by
    rw [← h.entries, hnone]
  refine ⟨hlookups, hbuilds, fun other => ?_, ?_, ?_, ?_⟩
  · rw [hmade, hentries, List.lookup_append]
    by_cases hkey : other = key
    · rw [hkey, OrderedMap.get?_insert_self, hnew, List.lookup_cons_self]
      rfl
    · have hother : [(key, plan)].lookup other = none := by
        rw [List.lookup_cons, beq_false_of_ne hkey]
        rfl
      rw [OrderedMap.get?_insert_of_ne _ _ hkey, hother, Option.or_none, h.entries]
  · rw [hmade, List.map_append]
    refine List.nodup_append.2 ⟨h.once, List.nodup_cons.2 ⟨List.not_mem_nil, List.nodup_nil⟩, ?_⟩
    rintro a ha b hb rfl
    obtain rfl := List.mem_singleton.1 hb
    obtain ⟨e, he, hkey⟩ := List.mem_map.1 ha
    have hne := List.lookup_eq_none_iff.1 hnew e he
    exact absurd hkey.symm (bne_iff_ne.1 hne)
  · rw [hever]
    intro e he
    obtain he | he := List.mem_append.1 he
    · have := h.numbered e he
      omega
    · obtain rfl := List.mem_singleton.1 he
      exact Nat.le_of_eq hserial
  · rw [hever]
    refine List.pairwise_append.2 ⟨h.distinct, List.pairwise_singleton _ _, fun e he e' he' => ?_⟩
    obtain rfl := List.mem_singleton.1 he'
    exact Nat.lt_of_le_of_lt (h.numbered e he) hlt

/-- **Each call keeps the cache a reflection of its records.** -/
theorem Reflects.after (h : c.Reflects records) (call : PlanCacheCall) :
    (c.after call).Reflects (records ++ [c.record call]) := by
  cases call with
  | lookup key build =>
    have hl := c.looks_lookup key build
    obtain ⟨hnone, hentries⟩ | ⟨plan, hplan, hnone, hentries, hserial, hlt⟩ := hl.made_cases
    · exact h.looks_of_none hl hnone hentries
    · exact h.looks_of_made hl hplan hnone hentries hserial hlt
  | clear => exact h.clear

/-- **Whatever a cache was asked for, it reflects the records.** -/
theorem reflects_history (calls : List PlanCacheCall) :
    ((∅ : PlanCache).afterAll calls).Reflects (history ∅ calls) := by
  induction calls using List.reverseRecOn with
  | nil => exact reflects_empty
  | append_singleton calls call ih =>
    rw [afterAll_concat, history_concat]
    exact ih.after call

/-! ## What the records tell -/

/-- There is a plan under a key exactly if one was made for it since the cache was cleared. -/
theorem Reflects.mem_keys (h : c.Reflects records) :
    key ∈ c.entries.keys ↔ key ∈ (CacheRecord.madeSinceClear records).map Prod.fst := by
  rw [OrderedMap.mem_keys_iff, h.entries, ← Option.isSome_iff_exists, List.lookup_isSome_iff,
    List.mem_map]
  refine ⟨fun ⟨e, he, hkey⟩ => ⟨e, he, (eq_of_beq hkey).symm⟩, fun ⟨e, he, hkey⟩ => ?_⟩
  exact ⟨e, he, beq_iff_eq.2 hkey.symm⟩

/-- There are as many plans as were made since the cache was cleared. -/
theorem Reflects.size_eq (h : c.Reflects records) :
    c.entries.size = (CacheRecord.madeSinceClear records).length := by
  have hkeys : c.entries.keys.Perm ((CacheRecord.madeSinceClear records).map Prod.fst) :=
    (List.perm_ext_iff_of_nodup c.entries.nodup_keys h.once).2 fun _ => h.mem_keys
  have hlength := hkeys.length_eq
  rw [List.length_map] at hlength
  rw [← hlength]
  exact (List.length_map _).symm

/-- **The keys are listed by their order**, whenever the plans under them were made. -/
theorem Reflects.keys_eq {records' : List CacheRecord} (h : c.Reflects records)
    (h' : c'.Reflects records')
    (hsame : ∀ key, key ∈ (CacheRecord.madeSinceClear records).map Prod.fst ↔
      key ∈ (CacheRecord.madeSinceClear records').map Prod.fst) :
    c.entries.keys = c'.entries.keys := by
  refine OrderedSet.eq_of_mem_iff c.entries.increasing_keys c'.entries.increasing_keys fun key => ?_
  rw [h.mem_keys, h'.mem_keys]
  exact hsame key

/-- A number that is given to a plan was given to no other. -/
theorem Reflects.serial_ne (h : c.Reflects records) {e : PlanKey × CachedPlan}
    (he : e ∈ records.filterMap CacheRecord.made?) : e.2.serial ≠ c.misses + 1 := by
  have := h.numbered e he
  omega

theorem keys_before (c : PlanCache) : c.entries.keys.Pairwise PlanKey.Before :=
  c.entries.increasing_keys.imp PlanKey.compare_eq_lt.1

/-- **What a cache answers depends on what came of the calls before**, whatever they were.  Each
look-up was counted once, and as a miss exactly if the builder ran.  The keys are those with a plan
that was made since the cache was cleared, in their own order, and two histories with plans for the
same keys list them alike.  The first plan made for a key since then is found, the very one and
whatever builder is given; where there is none the builder runs: its fault is handed on and no entry
changes, and its plan is a new one, with a number that no plan had before, and is kept.  Clearing
leaves the counts. -/
theorem answers_from_history (calls : List PlanCacheCall) :
    let c := (∅ : PlanCache).afterAll calls
    let records := history ∅ calls
    let made := CacheRecord.madeSinceClear records
    (c.hits + c.misses = calls.countP PlanCacheCall.isLookup ∧
      c.misses = records.countP CacheRecord.isBuild) ∧
    ((∀ key, key ∈ c.entries.keys ↔ key ∈ made.map Prod.fst) ∧
      c.entries.keys.Pairwise PlanKey.Before ∧ c.entries.size = made.length ∧
      ∀ calls', (∀ key, key ∈ made.map Prod.fst ↔
          key ∈ (CacheRecord.madeSinceClear (history ∅ calls')).map Prod.fst) →
        c.entries.keys = ((∅ : PlanCache).afterAll calls').entries.keys) ∧
    (∀ key build,
      match made.lookup key with
      | some plan => c.lookup key build = ⟨.ok plan, false, { c with hits := c.hits + 1 }⟩
      | none =>
        match build () with
        | .error fault =>
          c.lookup key build = ⟨.error fault, true, { c with misses := c.misses + 1 }⟩
        | .ok plan =>
          ∃ serial, c.lookup key build =
              ⟨.ok ⟨serial, plan⟩, true,
                { c with
                  misses := c.misses + 1
                  entries := c.entries.insert key ⟨serial, plan⟩ }⟩ ∧
            ∀ e ∈ records.filterMap CacheRecord.made?, e.2.serial ≠ serial) ∧
    c.clear.entries.keys = [] ∧ c.clear.entries.size = 0 ∧
      c.clear.hits = c.hits ∧ c.clear.misses = c.misses := by
  intro c records made
  have hc : c.Reflects records := reflects_history calls
  refine ⟨⟨?_, hc.builds⟩, ⟨fun _ => hc.mem_keys, c.keys_before, hc.size_eq, ?_⟩,
    fun key build => ?_, rfl, rfl, rfl, rfl⟩
  · rw [hc.lookups]
    exact countP_isLookup_history ∅ calls
  · intro calls' hsame
    exact hc.keys_eq (reflects_history calls') hsame
  · have hentry : c.entries.get? key = made.lookup key := hc.entries key
    cases hmade : made.lookup key with
    | some plan => exact lookup_hit (hentry.trans hmade) build
    | none =>
      have hnone := hentry.trans hmade
      unfold lookup
      rw [hnone]
      cases build () with
      | error fault => rfl
      | ok plan => exact ⟨c.misses + 1, rfl, fun e => hc.serial_ne⟩

namespace Cleared

def view : PlanKey := { strategy := viewportName, ratioBits := 0, headerCut := 8, footerCut := 0 }

def page : PlanKey := { view with strategy := fullPageName }

def compose (_ : Unit) : Except CaptureFault CapturePlan := CapturePlan.compose .viewport 2 ⟨8, 0⟩

def fail (_ : Unit) : Except CaptureFault CapturePlan := .error (.unknownStrategy "mosaic")

/-- Plans are made, found and not made, before the cache is cleared and after. -/
def calls : List PlanCacheCall :=
  [.lookup view compose, .lookup page fail, .lookup view fail, .clear, .lookup view compose,
    .lookup page fail, .lookup page compose, .lookup page fail]

end Cleared

open Cleared in
/-- The fifth call made the plan that is found, as the third miss, and no builder runs for it.  The
keys are listed as if their plans had been made the other way round. -/
theorem answers_from_history_cleared :
    let c := (∅ : PlanCache).afterAll calls
    (∃ plan, c.lookup view fail = ⟨.ok plan, false, { c with hits := c.hits + 1 }⟩ ∧
      plan.serial = 3) ∧
    c.hits + c.misses = 7 ∧ c.entries.size = 2 ∧
    c.entries.keys =
      ((∅ : PlanCache).afterAll [.lookup page compose, .lookup view compose]).entries.keys ∧
    c.clear.hits = c.hits := by
  intro c
  obtain ⟨⟨hcount, -⟩, ⟨-, -, hsize, hkeys⟩, hnext, -, -, hhits, -⟩ := answers_from_history calls
  refine ⟨⟨_, hnext view fail, rfl⟩, hcount, hsize, hkeys _ fun key => ?_, hhits⟩
  change key ∈ [view, page] ↔ key ∈ [page, view]
  rw [List.mem_pair, List.mem_pair, or_comm]

end PlanCache

end VisualRegression
