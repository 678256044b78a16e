import VisualRegression.Check.Fault
import VisualRegression.Ordered.Map

/-!
# Stores of baselines

Where baselines are kept, acting on a state of some type, and the store that keeps them in memory.
Main statements: `load_save_memory_self` and `load_save_memory_of_ne` say that a store in memory
answers with what was last kept under a name.
-/

namespace VisualRegression

/-- A place to keep baselines in. -/
structure BaselineStore (σ : Type) where
  /-- The baseline under a name, if there is one. -/
  load : BaselineKey → σ → Except CheckFault (Option Image)
  /-- Keeps an image under a name; one that is there gives way to it. -/
  save : BaselineKey → Image → σ → Except CheckFault Unit × σ

/-- Baselines by their names. -/
abbrev Baselines := OrderedMap BaselineKey Image

namespace BaselineStore

/-- The store that keeps baselines in memory. -/
def memory : BaselineStore Baselines where
  load key baselines := .ok (baselines.get? key)
  save key img baselines := (.ok (), baselines.insert key img)

/-- What was kept is found. -/
theorem load_save_memory_self (key : BaselineKey) (img : Image) (s : Baselines) :
    memory.load key (memory.save key img s).2 = .ok (some img) := by
  simp [memory]

/-- Other names are left alone. -/
theorem load_save_memory_of_ne {key other : BaselineKey} (h : other ≠ key) (img : Image)
    (s : Baselines) : memory.load other (memory.save key img s).2 = memory.load other s := by
  simp [memory, OrderedMap.get?_insert_of_ne _ _ h]

end BaselineStore

end VisualRegression
