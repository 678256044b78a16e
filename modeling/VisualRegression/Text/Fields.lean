/-!
# Fields of a text

A text taken apart at a separator. Main statements: `length_fields` counts the fields, and
`intercalate_fields` puts them together again.
-/

namespace VisualRegression

namespace Text

/-- The parts of a text between separators. -/
def fields (sep : Char) : List Char → List (List Char)
  | [] => [[]]
  | c :: rest =>
    if c = sep then [] :: fields sep rest
    else match fields sep rest with
      | [] => [[c]]
      | f :: fs => (c :: f) :: fs

theorem fields_ne_nil (sep : Char) (s : List Char) : fields sep s ≠ [] := by
  cases s with
  | nil => simp [fields]
  | cons c rest =>
    simp only [fields]
    split
    · simp
    · split <;> simp

/-- There is one field more than there are separators. -/
theorem length_fields (sep : Char) (s : List Char) :
    (fields sep s).length = s.count sep + 1 := by
  induction s with
  | nil => rfl
  | cons c rest ih =>
    by_cases h : c = sep
    · subst h; simp [fields, ih]
    · simp only [fields, h, if_false, List.count_cons_of_ne (by simpa using h)]
      rw [← ih]
      cases hf : fields sep rest with
      | nil => exact absurd hf (fields_ne_nil sep rest)
      | cons f fs => rfl

/-- The fields with the separator between them are the text. -/
theorem intercalate_fields (sep : Char) (s : List Char) :
    [sep].intercalate (fields sep s) = s := by
  induction s with
  | nil => rfl
  | cons c rest ih =>
    by_cases h : c = sep
    · subst h
      simp only [fields, if_true]
      cases hf : fields c rest with
      | nil => exact absurd hf (fields_ne_nil c rest)
      | cons f fs => rw [hf] at ih; simp [List.intercalate_cons_cons, ih]
    · simp only [fields, h, if_false]
      cases hf : fields sep rest with
      | nil => exact absurd hf (fields_ne_nil sep rest)
      | cons f fs =>
        rw [hf] at ih
        cases fs with
        | nil => simpa using ih
        | cons g gs => simpa [List.intercalate_cons_cons] using ih

/-- Before and after a separator there are fields of their own. -/
theorem fields_append_cons (sep : Char) (s t : List Char) :
    fields sep (s ++ sep :: t) = fields sep s ++ fields sep t := by
  induction s with
  | nil => simp [fields]
  | cons c rest ih =>
    by_cases hc : c = sep
    · simp only [List.cons_append, fields, if_pos hc, ih]
    · simp only [List.cons_append, fields, if_neg hc, ih]
      rcases hf : fields sep rest with _ | ⟨first, later⟩
      · exact absurd hf (fields_ne_nil sep rest)
      · rfl

/-- A text without separators is its only field. -/
theorem fields_of_not_mem {sep : Char} {s : List Char} (h : sep ∉ s) : fields sep s = [s] := by
  induction s with
  | nil => rfl
  | cons c rest ih =>
    obtain ⟨hc, hrest⟩ := not_or.1 (mt List.mem_cons.2 h)
    simp only [fields, if_neg (Ne.symm hc), ih hrest]

end Text

end VisualRegression
