import VisualRegression.Store.Basic

/-!
# Calls of a store

A store is asked to load and to save, one call after the other, and `BaselineStore.serve` collects
its answers.  One store simulates another one if related states answer alike and stay related
(`BaselineStore.Simulates`); then the answers agree throughout (`Simulates.serve`).  A store in
memory has what the latest call saved (`get?_serve_memory`).
-/

namespace VisualRegression

/-- What a store is asked to do. -/
inductive StoreCall where
  | load (key : BaselineKey)
  | save (key : BaselineKey) (img : Image)

/-- What a store answers. -/
inductive StoreAnswer where
  | loaded (answer : Except CheckFault (Option Image))
  | saved (answer : Except CheckFault Unit)

namespace StoreCall

/-- The image that a call saves under a name. -/
def saved? (k : BaselineKey) : StoreCall → Option Image
  | load _ => none
  | save key img => if key = k then some img else none

/-- The image that the latest of some calls saves under a name. -/
def latest? (k : BaselineKey) (calls : List StoreCall) : Option Image :=
  calls.reverse.findSome? (saved? k)

theorem latest?_cons (k : BaselineKey) (call : StoreCall) (calls : List StoreCall) :
    latest? k (call :: calls) = (latest? k calls).or (call.saved? k) := by
  unfold latest?
  rw [List.reverse_cons, List.findSome?_append, List.findSome?_singleton]

end StoreCall

namespace BaselineStore

variable {σ τ : Type}

/-- The answer to a call and the state after it. -/
def answer (store : BaselineStore σ) : StoreCall → σ → StoreAnswer × σ
  | .load key, s => (.loaded (store.load key s), s)
  | .save key img, s => (.saved (store.save key img s).1, (store.save key img s).2)

/-- The answers to calls made one after the other, and the state after them. -/
def serve (store : BaselineStore σ) : List StoreCall → σ → List StoreAnswer × σ
  | [], s => ([], s)
  | call :: rest, s =>
    let (first, s) := store.answer call s
    let (later, s) := serve store rest s
    (first :: later, s)

/-- **One store simulates another one** on some calls: in related states it gives the same answers,
and the states after them are related. -/
structure Simulates (store : BaselineStore σ) (other : BaselineStore τ) (proper : StoreCall → Prop)
    (related : σ → τ → Prop) : Prop where
  answers : ∀ {call s t}, proper call → related s t →
    (store.answer call s).1 = (other.answer call t).1
  states : ∀ {call s t}, proper call → related s t →
    related (store.answer call s).2 (other.answer call t).2

variable {store : BaselineStore σ} {other : BaselineStore τ} {proper : StoreCall → Prop}
  {related : σ → τ → Prop} {calls : List StoreCall} {s : σ} {t : τ}

/-- **A store answers throughout as the one that it simulates.** -/
theorem Simulates.serve (h : store.Simulates other proper related)
    (hcalls : ∀ call ∈ calls, proper call) (hst : related s t) :
    (store.serve calls s).1 = (other.serve calls t).1 ∧
      related (store.serve calls s).2 (other.serve calls t).2 := by
  induction calls generalizing s t with
  | nil => exact ⟨rfl, hst⟩
  | cons call rest ih =>
    obtain ⟨hproper, hrest⟩ := List.forall_mem_cons.1 hcalls
    obtain ⟨hanswers, hstates⟩ := ih hrest (h.states hproper hst)
    exact ⟨congr (congrArg List.cons (h.answers hproper hst)) hanswers, hstates⟩

/-- What one call leaves in memory. -/
theorem get?_answer_memory (k : BaselineKey) (call : StoreCall) (s : Baselines) :
    (memory.answer call s).2.get? k = (call.saved? k).or (s.get? k) := by
  cases call with
  | load key => rfl
  | save key img =>
    change (s.insert key img).get? k = (if key = k then some img else none).or (s.get? k)
    by_cases hk : key = k
    · rw [if_pos hk, ← hk, OrderedMap.get?_insert_self]
      rfl
    · rw [if_neg hk, OrderedMap.get?_insert_of_ne _ _ (Ne.symm hk)]
      rfl

/-- **In memory there is what the latest call saved**, and else what was there at first. -/
theorem get?_serve_memory (k : BaselineKey) (calls : List StoreCall) (s : Baselines) :
    (memory.serve calls s).2.get? k = (StoreCall.latest? k calls).or (s.get? k) := by
  induction calls generalizing s with
  | nil => rfl
  | cons call rest ih =>
    change (memory.serve rest (memory.answer call s).2).2.get? k = _
    rw [ih, get?_answer_memory, StoreCall.latest?_cons, Option.or_assoc]

end BaselineStore

end VisualRegression
