import VisualRegression.FileSystem.Path

/-!
# Extensions of file names

What stands behind the last dot of a name is its extension, unless this is the dot that the name
begins with.  A file gets another extension by its name; where a path does not end in a name, there
is none to change.  Main statements: `stem_append` takes an extension away, and
`withExtension_join` gives a file in a directory another one.
-/

namespace VisualRegression.FilePath

/-- A name without its extension. -/
def stem (name : String) : String :=
  match name.toList.reverse.dropWhile (· != '.') with
  | [] => name
  | _ :: before => if before = [] then name else String.ofList before.reverse

/-- A name with an extension; an empty one comes without a dot. -/
def named (stem extension : String) : String :=
  if extension = "" then stem else stem ++ "." ++ extension

/-- The path with another extension of its last name. -/
def withExtension (p : FilePath) (extension : String) : FilePath :=
  match p.parts.getLast? with
  | none => p
  | some last =>
    if last.name = ".." then p
    else
      let name := named (stem last.name) extension
      let bytes := last.bytes - last.name.utf8ByteSize + name.utf8ByteSize
      ⟨p.absolute, p.parts.dropLast ++ [⟨name, bytes⟩], []⟩

/-- **What stands before the last dot is all but the extension**, however many dots come before. -/
theorem stem_append {before extension : String} (hbefore : before ≠ "")
    (hextension : '.' ∉ extension.toList) : stem (before ++ "." ++ extension) = before := by
  have hne : before.toList.reverse ≠ [] := by simpa using hbefore
  have hdrop : (before ++ "." ++ extension).toList.reverse.dropWhile (· != '.') =
      '.' :: before.toList.reverse := by
    have hall : ∀ c ∈ extension.toList.reverse, (c != '.') = true := by
      intro c hc
      refine bne_iff_ne.2 ?_
      rintro rfl
      exact hextension (List.mem_reverse.1 hc)
    rw [String.toList_append, String.toList_append, List.reverse_append, List.reverse_append,
      List.dropWhile_append_of_pos hall]
    rfl
  unfold stem
  rw [hdrop]
  show (if before.toList.reverse = [] then _ else _) = _
  rw [if_neg hne, List.reverse_reverse, String.ofList_toList]

/-- A file in a directory is there under a name with the other extension. -/
theorem withExtension_join {dir : FilePath} {name extension : String} (h : name ≠ "..") :
    (dir.join name).withExtension extension = dir.join (named (stem name) extension) := by
  have hsize : ∀ name : String, size name.toList = name.utf8ByteSize := fun name => by
    rw [size, String.ofList_toList]
  have hbytes : size (dir.rest ++ dir.separator ++ name.toList) - name.utf8ByteSize +
      (named (stem name) extension).utf8ByteSize =
      size (dir.rest ++ dir.separator ++ (named (stem name) extension).toList) := by
    simp only [size_append, hsize]
    omega
  unfold withExtension join entry
  rw [List.getLast?_concat]
  show (if name = ".." then _ else _) = _
  rw [if_neg h, List.dropLast_concat, ← hbytes]

end VisualRegression.FilePath
