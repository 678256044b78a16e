import VisualRegression.Text.Blank

/-!
# Baseline names

The name under which a baseline image is kept. A name that could lead out of the directory of
baselines is refused. Main statement: `parse_ok_iff` says which texts are names, and which name they
are.
-/

namespace VisualRegression

/-- The name of a baseline. -/
structure BaselineKey where
  text : String
deriving DecidableEq, Inhabited, Repr

/-- Why a text is no baseline name. -/
inductive BaselineKeyFault where
  /-- Nothing is left without the blanks around it. -/
  | empty
  /-- The trimmed text separates path components or stands for a directory. -/
  | pathLike (trimmed : String)
deriving DecidableEq, Repr

namespace BaselineKeyFault

/-- The fault in words. -/
def message : BaselineKeyFault → String
  | empty => "name is empty"
  | pathLike trimmed => s!"'{trimmed}' must not contain path components"

end BaselineKeyFault

namespace BaselineKey

/-- The text separates path components or stands for a directory. -/
def IsPathLike (s : List Char) : Prop := '/' ∈ s ∨ '\\' ∈ s ∨ s = ['.'] ∨ s = ['.', '.']

instance (s : List Char) : Decidable (IsPathLike s) := by unfold IsPathLike; infer_instance

/-- The baseline name that a text stands for: the text without the blanks around it. -/
def parse (text : String) : Except BaselineKeyFault BaselineKey :=
  let trimmed := Text.trim text.toList
  if trimmed = [] then .error .empty
  else if IsPathLike trimmed then .error (.pathLike (String.ofList trimmed))
  else .ok ⟨String.ofList trimmed⟩

/-- Names are ordered as their texts. -/
def order : BaselineKey → BaselineKey → Ordering := compareOn BaselineKey.text

instance : Ord BaselineKey := ⟨order⟩

instance : Std.TransOrd BaselineKey :=
  inferInstanceAs (Std.TransCmp (compareOn BaselineKey.text))

instance : Std.LawfulEqOrd BaselineKey where
  compare_self {a} := by
    change order a a = .eq
    simp [order, compareOn]
  eq_of_compare {a b} h := by
    change order a b = .eq at h
    simp only [order, compareOn, Std.compare_eq_iff_eq] at h
    cases a; cases b; simp_all

/-- Exactly the texts that are not blank and, trimmed, not path-like are names. -/
theorem parse_ok_iff {text : String} {key : BaselineKey} :
    parse text = .ok key ↔
      Text.trim text.toList ≠ [] ∧ ¬ IsPathLike (Text.trim text.toList) ∧
        key = ⟨String.ofList (Text.trim text.toList)⟩ := by
  simp only [parse]
  split
  · rename_i h; simp [h]
  · split
    · rename_i h; simp [h]
    · rename_i h₁ h₂
      simp only [Except.ok.injEq, ne_eq, h₁, not_false_eq_true, h₂, true_and]
      exact eq_comm

end BaselineKey

end VisualRegression
