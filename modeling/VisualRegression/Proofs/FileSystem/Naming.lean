import VisualRegression.FileSystem.Path

/-!
# Paths of texts

A text leads to a file in a directory just as the path of the directory and the name of the file do
(`FilePath.ofText_joinText`), as long as the name is a single one.
-/

namespace VisualRegression

namespace FilePath

variable {root name : String} {p : FilePath} {before last : List Char}

/-! ## One field more -/

theorem ofFields_append_singleton {absolute : Bool} {fields : List (List Char)} (h : fields ≠ [])
    (last : List Char) :
    ofFields absolute (fields ++ [last]) = (ofFields absolute fields).extend ['/'] last := by
  obtain ⟨first, more, rfl⟩ := List.exists_cons_of_ne_nil h
  rw [List.cons_append, ofFields, ofFields, List.foldl_append, List.foldl_cons, List.foldl_nil]

/-- A text with one more field stands for a path with one more name. -/
theorem ofText_of_append {text : String} {s : List Char} (htext : text.toList = s ++ '/' :: last)
    (hlast : '/' ∉ last) :
    ofText text =
      (ofFields (text.toList.head? == some '/') (Text.fields '/' s)).extend ['/'] last := by
  have hfields : Text.fields '/' text.toList = Text.fields '/' s ++ [last] := by
    rw [htext, Text.fields_append_cons, Text.fields_of_not_mem hlast]
  rw [ofText, hfields, ofFields_append_singleton (Text.fields_ne_nil _ _)]

/-- A name is joined to a path like one more field. -/
theorem extend_separator (hidle : isIdle name.toList = false) :
    p.extend p.separator name.toList = p.join name := by
  simp [extend, hidle, join, entry]

/-- Nothing between two separators makes no difference to what comes next. -/
theorem extend_extend_nil (hidle : isIdle last = false) :
    (p.extend before []).extend [] last = p.extend before last := by
  have hnil : p.extend before [] = { p with rest := p.rest ++ before } := by
    simp [extend, isIdle]
  rw [hnil]
  simp [extend, hidle]

/-- Behind a field with something in it a separator has to come. -/
theorem separator_extend (h : last ≠ []) : (p.extend before last).separator = ['/'] := by
  unfold extend
  dsimp only
  split
  · rename_i hidle
    obtain rfl : last = ['.'] := by simpa [isIdle, h] using hidle
    simp [separator]
  · simp [separator]

/-- Behind a separator there is no need for another one. -/
theorem separator_extend_nil : (p.extend ['/'] []).separator = [] := by
  simp [extend, isIdle, separator]

/-! ## A file in a directory -/

/-- A text that is not empty and does not end in a separator stands for a path that a separator has
to follow. -/
theorem separator_ofText (hne : root ≠ "") (hend : root.toList.getLast? ≠ some '/') :
    (ofText root).separator = ['/'] := by
  have hne' : root.toList ≠ [] := by simpa using hne
  by_cases hmem : '/' ∈ root.toList
  · -- the last field is what follows the last separator
    obtain ⟨after, init, hreverse, hafter⟩ :=
      List.eq_append_cons_of_mem (List.mem_reverse.2 hmem)
    have hroot : root.toList = init.reverse ++ '/' :: after.reverse := by
      rw [← List.reverse_reverse root.toList, hreverse]
      simp
    have hlast : after.reverse ≠ [] := by
      intro hnil
      rw [hroot, hnil, List.getLast?_concat] at hend
      exact hend rfl
    rw [ofText_of_append hroot (by simpa using hafter)]
    exact separator_extend hlast
  · rw [ofText, Text.fields_of_not_mem hmem]
    exact separator_extend hne'

/-- **The text of a file leads to the file.** -/
theorem ofText_joinText (hsep : '/' ∉ name.toList) (hidle : isIdle name.toList = false) :
    ofText (joinText root name) = (ofText root).join name := by
  by_cases hempty : root = ""
  · have hhead : (name.toList.head? == some '/') = false :=
      beq_eq_false_iff_ne.2 fun h => hsep (List.mem_of_head? h)
    have htext : joinText root name = name := by simp [joinText, hempty]
    rw [htext, hempty, ← extend_separator hidle, ofText, Text.fields_of_not_mem hsep, hhead]
    rfl
  · by_cases hlast : root.toList.getLast? = some '/'
    · obtain ⟨init, hinit⟩ := List.getLast?_eq_some_iff.1 hlast
      have htext : (joinText root name).toList = init ++ '/' :: name.toList := by
        simp [joinText, hinit]
      have hhead : (joinText root name).toList.head? = root.toList.head? := by
        rw [htext, hinit]
        cases init <;> rfl
      rw [ofText_of_append htext hsep, hhead, ofText_of_append hinit List.not_mem_nil,
        ← extend_separator hidle, separator_extend_nil, extend_extend_nil hidle]
    · have htext : (joinText root name).toList = root.toList ++ '/' :: name.toList := by
        simp [joinText, hempty, hlast]
      have hhead : (joinText root name).toList.head? = root.toList.head? := by
        obtain ⟨first, rest, hroot⟩ := List.exists_cons_of_ne_nil
          (show root.toList ≠ [] by simpa using hempty)
        rw [htext, hroot]
        rfl
      rw [ofText_of_append htext hsep, hhead, ← extend_separator hidle,
        separator_ofText hempty hlast, ofText]

end FilePath

end VisualRegression
