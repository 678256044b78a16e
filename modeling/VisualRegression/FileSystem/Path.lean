import VisualRegression.FileSystem.Fault
import VisualRegression.Text.Fields

/-!
# File paths

A path as the names that it goes through, with the bytes that each of them takes. Empty names and
single dots count for nothing but their bytes, except that one at the end asks for a directory. Main
statements: `length_ofText` says that a path is as long as its text, and `parent_join` that a file's
parent is the directory that it was put in.
-/

namespace VisualRegression

/-- A place: the names from the top of the file system on. -/
abbrev Place := List String

/-- The directory in which relative paths begin. All of a program runs in one. -/
class WorkingDirectory where
  place : Place

namespace FilePath

/-- A name on the way, and how many bytes of the path there are from the name before it up to the
end of this one. -/
structure Segment where
  name : String
  bytes : Nat
deriving DecidableEq, Inhabited, Repr

end FilePath

/-- The way to a file or a directory. -/
structure FilePath where
  /-- The way starts at the top of the file system and not in the working directory. -/
  absolute : Bool
  /-- The names that the way goes through. -/
  parts : List FilePath.Segment
  /-- What follows the last name. -/
  rest : List Char
deriving DecidableEq, Inhabited, Repr

namespace FilePath

/-- The name counts for nothing. -/
def isIdle (name : List Char) : Bool := name == [] || name == ['.']

/-- The bytes of a text. -/
def size (text : List Char) : Nat := (String.ofList text).utf8ByteSize

/-- The path with one more field of its text, and what stands before it. -/
def extend (p : FilePath) (before field : List Char) : FilePath :=
  let rest := p.rest ++ before ++ field
  if isIdle field then { p with rest }
  else { p with parts := p.parts ++ [⟨String.ofList field, size rest⟩], rest := [] }

/-- The path with the fields of its text. -/
def ofFields (absolute : Bool) : List (List Char) → FilePath
  | [] => ⟨absolute, [], []⟩
  | first :: more =>
    more.foldl (fun p field => p.extend ['/'] field) (extend ⟨absolute, [], []⟩ [] first)

/-- The path that a text stands for. -/
def ofText (text : String) : FilePath :=
  ofFields (text.toList.head? == some '/') (Text.fields '/' text.toList)

/-- The path has to end at a directory. -/
def asDirectory (p : FilePath) : Bool := !p.rest.isEmpty

/-- The path is empty and leads nowhere. -/
def isNowhere (p : FilePath) : Bool := !p.absolute && p.parts.isEmpty && !p.asDirectory

/-- The most bytes in a path. -/
def maxLength : Nat := 4095

/-- The most bytes in a name. -/
def maxNameLength : Nat := 255

/-- The bytes of a path. -/
def length (p : FilePath) : Nat := p.parts.foldr (fun part n => part.bytes + n) (size p.rest)

/-- Why the path is none that could be looked up. -/
def fault? (p : FilePath) : Option FileFault :=
  if p.parts.any fun part => part.name.toList.contains '\x00' then some .nullCharacter
  else if p.isNowhere then some .notFound
  else if p.length > maxLength then some .nameTooLong
  else none

/-- The path with one name less. -/
def parent (p : FilePath) : FilePath := ⟨p.absolute, p.parts.dropLast, []⟩

/-- What stands between a directory and a name in it: a separator, unless there is one already. -/
def separator (dir : FilePath) : List Char :=
  if (dir.parts = [] ∧ dir.rest = []) ∨ dir.rest.getLast? = some '/' then [] else ['/']

/-- A name in a directory, as the way goes on to it. -/
def entry (dir : FilePath) (name : String) : Segment :=
  ⟨name, size (dir.rest ++ dir.separator ++ name.toList)⟩

@[simp] theorem name_entry (dir : FilePath) (name : String) : (dir.entry name).name = name := rfl

/-- The path of a name in a directory. -/
def join (dir : FilePath) (name : String) : FilePath :=
  ⟨dir.absolute, dir.parts ++ [dir.entry name], []⟩

/-- A file's parent is the directory that it was put in. -/
theorem parent_join (dir : FilePath) (name : String) :
    (dir.join name).parent = ⟨dir.absolute, dir.parts, []⟩ := by
  simp [parent, join]

/-- The text of a name in a directory that is given by its text. -/
def joinText (dir name : String) : String :=
  if dir = "" ∨ dir.toList.getLast? = some '/' then dir ++ name else dir ++ "/" ++ name

/-! ## Lengths -/

@[simp] theorem size_nil : size [] = 0 := rfl

@[simp] theorem size_append (s t : List Char) : size (s ++ t) = size s + size t := by
  simp [size, String.ofList_append, String.utf8ByteSize_append]

/-- Bytes more at the end of a path are bytes more of it. -/
theorem foldr_bytes_add (parts : List Segment) (n k : Nat) :
    parts.foldr (fun part n => part.bytes + n) (n + k) =
      parts.foldr (fun part n => part.bytes + n) n + k := by
  induction parts with
  | nil => rfl
  | cons part rest ih => rw [List.foldr_cons, List.foldr_cons, ih, Nat.add_assoc]

/-- A field makes a path longer by its bytes and those before it. -/
theorem length_extend (p : FilePath) (before field : List Char) :
    (p.extend before field).length = p.length + size (before ++ field) := by
  have hsize : size (p.rest ++ before ++ field) = size p.rest + size (before ++ field) := by
    rw [List.append_assoc, size_append]
  unfold extend
  dsimp only
  split
  · rw [length, hsize, foldr_bytes_add, length]
  · rw [length, List.foldr_append, List.foldr_cons, List.foldr_nil, size_nil, Nat.add_zero, hsize,
      foldr_bytes_add, length]

theorem length_foldl_extend (p : FilePath) (fields : List (List Char)) :
    (fields.foldl (fun p field => p.extend ['/'] field) p).length =
      p.length + size (fields.flatMap fun field => ['/'] ++ field) := by
  induction fields generalizing p with
  | nil => simp
  | cons field rest ih =>
    rw [List.foldl_cons, ih, length_extend, List.flatMap_cons, size_append _ (rest.flatMap _),
      Nat.add_assoc]

/-- A path has the bytes of its fields and of the separators between them. -/
theorem length_ofFields (absolute : Bool) (fields : List (List Char)) :
    (ofFields absolute fields).length = size (['/'].intercalate fields) := by
  cases fields with
  | nil => rfl
  | cons first more =>
    have hjoined : ['/'].intercalate (first :: more) =
        first ++ more.flatMap fun field => ['/'] ++ field := by
      induction more generalizing first with
      | nil => simp
      | cons second more ih => rw [List.intercalate_cons_cons, ih]; simp
    have hstart : length ⟨absolute, [], []⟩ = 0 := rfl
    rw [ofFields, length_foldl_extend, length_extend, hstart, Nat.zero_add, List.nil_append,
      ← size_append, hjoined]

/-- **A path is as long as its text.** -/
theorem length_ofText (text : String) : (ofText text).length = text.utf8ByteSize := by
  rw [ofText, length_ofFields, Text.intercalate_fields, size, String.ofList_toList]

/-- The way to a directory is no longer than a way through it. -/
theorem length_le_length_append (absolute : Bool) (parts more : List Segment) (rest : List Char) :
    length ⟨absolute, parts, []⟩ ≤ length ⟨absolute, parts ++ more, rest⟩ := by
  rw [length, length, List.foldr_append, ← Nat.zero_add (more.foldr _ _), foldr_bytes_add]
  exact Nat.le_add_right _ _

/-- A name makes a path longer by its bytes and a separator at most. -/
theorem length_join_le (dir : FilePath) (name : String) :
    (dir.join name).length ≤ dir.length + 1 + name.utf8ByteSize := by
  have hname : size name.toList = name.utf8ByteSize := by rw [size, String.ofList_toList]
  have hseparator : size dir.separator ≤ 1 := by
    unfold separator
    split
    · exact Nat.zero_le _
    · exact Nat.le_refl _
  have hentry : (dir.join name).length = dir.length + (size dir.separator + name.utf8ByteSize) := by
    rw [length, join, List.foldr_append, List.foldr_cons, List.foldr_nil, size_nil, Nat.add_zero,
      entry, size_append, size_append, hname, Nat.add_assoc, foldr_bytes_add, length]
  omega

end FilePath

end VisualRegression
