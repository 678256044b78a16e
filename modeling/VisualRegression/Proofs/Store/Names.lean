import VisualRegression.FileSystem.Extension
import VisualRegression.Proofs.Store.Refinement

/-!
# Names of baselines and of their files

A text is the name of a baseline if nothing in it, once the blanks around it are gone, could lead
out of a directory, and this name is what the text says without those blanks
(`BaselineKey.parse_eq_parse_iff`, `BaselineKey.parse_text`).  The files of a baseline are right in
the directory, and each baseline has its own two: the one that is written first has the same name as
the other but for its extension, and no dot in the name of a baseline can change that
(`BaselineDirectory.temporaryPath_eq_withExtension`).  Main statement:
`BaselineDirectory.own_names`.
-/

namespace VisualRegression

/-! ## Texts and the names that they stand for -/

namespace Text

/-- Where the blanks are gone there are none to remove. -/
theorem trim_trim (s : List Char) : trim (trim s) = trim s :=
  trim_eq_self (fun _ h => head?_trim_not_blank h) (fun _ h => getLast?_trim_not_blank h)

end Text

namespace BaselineKey

variable {text other : String} {key : BaselineKey}

/-- The key is the name that some text stands for. -/
def Accepted (key : BaselineKey) : Prop := ∃ text, parse text = .ok key

theorem text_of_parse (h : parse text = .ok key) : key.text = trimBlanks text := by
  obtain ⟨-, -, rfl⟩ := parse_ok_iff.1 h
  rfl

/-- **Which texts are names**, and that it takes no more to be one. -/
theorem exists_parse_iff :
    (∃ key, parse text = .ok key) ↔
      trimBlanks text ≠ "" ∧ '/' ∉ (trimBlanks text).toList ∧ '\\' ∉ (trimBlanks text).toList ∧
        trimBlanks text ≠ "." ∧ trimBlanks text ≠ ".." := by
  have hsame : ∀ s : String, trimBlanks text = s ↔ Text.trim text.toList = s.toList := by
    intro s
    rw [trimBlanks, ← String.toList_inj, String.toList_ofList]
  have hpath : IsPathLike (Text.trim text.toList) ↔
      '/' ∈ (trimBlanks text).toList ∨ '\\' ∈ (trimBlanks text).toList ∨
        trimBlanks text = "." ∨ trimBlanks text = ".." := by
    rw [hsame, hsame, trimBlanks, String.toList_ofList]
    rfl
  have hempty : trimBlanks text = "" ↔ Text.trim text.toList = [] := hsame ""
  constructor
  · rintro ⟨key, hkey⟩
    obtain ⟨hne, hnot, -⟩ := parse_ok_iff.1 hkey
    rw [hpath] at hnot
    simp only [not_or] at hnot
    exact ⟨mt hempty.1 hne, hnot⟩
  · rintro ⟨hne, hnot⟩
    refine ⟨_, parse_ok_iff.2 ⟨mt hempty.2 hne, ?_, rfl⟩⟩
    rw [hpath]
    simp only [not_or]
    exact hnot

/-- What becomes of a text depends on what it is without the blanks around it. -/
theorem parse_eq_of_trim (h : Text.trim text.toList = Text.trim other.toList) :
    parse text = parse other := by
  unfold parse
  rw [h]

/-- **The name of a text stands for itself.** -/
theorem parse_text (h : parse text = .ok key) : parse key.text = .ok key := by
  obtain ⟨-, -, hkey⟩ := parse_ok_iff.1 h
  rw [← h]
  refine parse_eq_of_trim ?_
  rw [hkey, String.toList_ofList, Text.trim_trim]

/-- **Texts stand for the same name, or are refused alike, exactly if they are the same without the
blanks around them.** -/
theorem parse_eq_parse_iff : parse text = parse other ↔ trimBlanks text = trimBlanks other := by
  constructor
  · intro h
    unfold parse at h
    dsimp only at h
    unfold trimBlanks
    -- a text is refused as empty, or refused with what it is without blanks, or is a name
    by_cases hempty : Text.trim text.toList = []
    · by_cases hempty' : Text.trim other.toList = []
      · rw [hempty, hempty']
      · rw [if_pos hempty, if_neg hempty'] at h
        split at h <;> cases h
    · rw [if_neg hempty] at h
      by_cases hempty' : Text.trim other.toList = []
      · rw [if_pos hempty'] at h
        split at h <;> cases h
      · rw [if_neg hempty'] at h
        split at h <;> split at h
        · exact (BaselineKeyFault.pathLike.inj (Except.error.inj h))
        · cases h
        · cases h
        · exact (BaselineKey.mk.inj (Except.ok.inj h))
  · intro h
    refine parse_eq_of_trim ?_
    exact String.ofList_injective h

/-- A name is never empty. -/
theorem Accepted.ne_empty (h : key.Accepted) : key.text ≠ "" := by
  obtain ⟨text, hparse⟩ := h
  rw [text_of_parse hparse]
  exact (exists_parse_iff.1 ⟨key, hparse⟩).1

/-- A name never goes further down. -/
theorem Accepted.no_separator (h : key.Accepted) : '/' ∉ key.text.toList := by
  obtain ⟨text, hparse⟩ := h
  rw [text_of_parse hparse]
  exact (exists_parse_iff.1 ⟨key, hparse⟩).2.1

end BaselineKey

/-! ## One step down -/

namespace FilePath

/-- The name takes a path one step down: it says something, and goes neither up nor any further. -/
structure IsSingle (name : String) : Prop where
  ne_empty : name ≠ ""
  ne_here : name ≠ "."
  ne_up : name ≠ ".."
  no_separator : '/' ∉ name.toList

/-- The path leads right into a directory, wherever this is. -/
def IsChildOf [WorkingDirectory] (p dir : FilePath) : Prop :=
  ∃ name, IsSingle name ∧ p = dir.join name ∧ p.place = dir.place ++ [name]

/-- A file is right in the directory that its name is joined to. -/
theorem isChildOf_join [WorkingDirectory] {dir : FilePath} {name : String} (h : IsSingle name) :
    (dir.join name).IsChildOf dir :=
  ⟨name, h, rfl, FileSystem.place_join_of_ne_up dir h.ne_up⟩

end FilePath

/-! ## The files of a baseline -/

namespace BaselineFile

variable {key : BaselineKey}

/-- **Each name of a file is one step down**: there is an extension behind the name of the baseline,
and nothing in either of them separates names. -/
theorem isSingle_name (h : key.Accepted) (file : BaselineFile) :
    FilePath.IsSingle (file.name key) := by
  have hlast := getLast?_name file key
  have hend : ∀ name : String, name.toList.getLast? = none ∨ name.toList.getLast? = some '.' →
      file.name key ≠ name := by
    rintro name hname rfl
    rw [hlast] at hname
    cases file <;> simp at hname
  refine ⟨hend "" (.inl rfl), hend "." (.inr rfl), hend ".." (.inr rfl), ?_⟩
  rw [name, String.toList_append, List.mem_append, not_or]
  exact ⟨h.no_separator, by cases file <;> decide⟩

end BaselineFile

namespace BaselineDirectory

variable {d : BaselineDirectory} {key other : BaselineKey}

/-- **A file has another extension while it is written**, and else the same name: whatever dots are
in the name of the baseline, the extension that is exchanged is that of an image. -/
theorem temporaryPath_eq_withExtension (h : key.Accepted) :
    d.temporaryPath key = (d.filePath key).withExtension "tmp" := by
  have hfile : BaselineFile.kept.name key = key.text ++ "." ++ "png" := by
    rw [String.append_assoc]
    rfl
  have hstem : FilePath.stem (BaselineFile.kept.name key) = key.text := by
    rw [hfile]
    exact FilePath.stem_append h.ne_empty (by decide)
  show _ = ((FilePath.ofText d.root).join (BaselineFile.kept.name key)).withExtension "tmp"
  rw [FilePath.withExtension_join (BaselineFile.name_ne_up .kept key), hstem]
  show (FilePath.ofText d.root).join (key.text ++ ".tmp") =
    (FilePath.ofText d.root).join (key.text ++ "." ++ "tmp")
  rw [String.append_assoc]
  rfl

section

variable [WorkingDirectory]

theorem path_isChildOf (h : key.Accepted) (file : BaselineFile) :
    (d.path file key).IsChildOf d.directory :=
  FilePath.isChildOf_join (BaselineFile.isSingle_name h file)

theorem eq_of_path_eq {file : BaselineFile} (h : d.path file key = d.path file other) :
    key = other :=
  (place_path_inj.1 (congrArg FilePath.place h)).2

/-- **The names of baselines lead nowhere else and to no other baseline.**  A text is the name of a
baseline exactly if, without the blanks around it, something is left of it that neither separates
names in a path nor stands for a directory; this is then the name, it stands for itself, and two
texts have one name exactly if the same is left of both.  In every directory the file of a baseline
and the one that is written first, which has the extension `tmp` for its own, are one step down;
two baselines share neither, and what is written first for one of them is never the file of
another. -/
theorem own_names (d : BaselineDirectory) :
    (∀ text, (∃ key, BaselineKey.parse text = .ok key) ↔
      trimBlanks text ≠ "" ∧ '/' ∉ (trimBlanks text).toList ∧ '\\' ∉ (trimBlanks text).toList ∧
        trimBlanks text ≠ "." ∧ trimBlanks text ≠ "..") ∧
    (∀ text key, BaselineKey.parse text = .ok key →
      key.text = trimBlanks text ∧ BaselineKey.parse key.text = .ok key) ∧
    (∀ text other,
      BaselineKey.parse text = BaselineKey.parse other ↔ trimBlanks text = trimBlanks other) ∧
    ∀ key : BaselineKey, key.Accepted →
      FilePath.ofText (d.fileText key) = d.filePath key ∧
      d.temporaryPath key = (d.filePath key).withExtension "tmp" ∧
      (d.filePath key).IsChildOf d.directory ∧ (d.temporaryPath key).IsChildOf d.directory ∧
      ∀ other : BaselineKey, other.Accepted →
        (d.filePath key = d.filePath other → key = other) ∧
        (d.temporaryPath key = d.temporaryPath other → key = other) ∧
        (d.temporaryPath key).place ≠ (d.filePath other).place := by
  refine ⟨fun _ => BaselineKey.exists_parse_iff, ?_, fun _ _ => BaselineKey.parse_eq_parse_iff, ?_⟩
  · intro text key hparse
    exact ⟨BaselineKey.text_of_parse hparse, BaselineKey.parse_text hparse⟩
  · intro key hkey
    have htext : FilePath.ofText (d.fileText key) = d.filePath key := by
      obtain ⟨text, hparse⟩ := hkey
      exact ofText_fileText hparse
    refine ⟨htext, temporaryPath_eq_withExtension hkey, path_isChildOf hkey .kept,
      path_isChildOf hkey .temporary, ?_⟩
    intro other hother
    exact ⟨eq_of_path_eq, eq_of_path_eq, by simp [place_path_inj]⟩

end

open SevenCalls in
/-- Three dots are a name as any other, also next to the name that the first file of it has. -/
theorem own_names_three_dots :
    BaselineKey.parse "..." = .ok ⟨"..."⟩ ∧
    temporaryPath ⟨"shots"⟩ ⟨"..."⟩ = ⟨false, [⟨"shots", 5⟩, ⟨"....tmp", 8⟩], []⟩ ∧
    (filePath ⟨"shots"⟩ ⟨"..."⟩).withExtension "tmp" = temporaryPath ⟨"shots"⟩ ⟨"..."⟩ ∧
    (temporaryPath ⟨"shots"⟩ ⟨"..."⟩).place ≠ (filePath ⟨"shots"⟩ ⟨"....tmp"⟩).place := by
  obtain ⟨-, hnames, -, hfiles⟩ := own_names ⟨"shots"⟩
  have hdots : BaselineKey.parse " ... " = .ok ⟨"..."⟩ := rfl
  have htaken : BaselineKey.Accepted ⟨"....tmp"⟩ := ⟨"....tmp", rfl⟩
  obtain ⟨-, hextension, -, -, hother⟩ := hfiles ⟨"..."⟩ ⟨" ... ", hdots⟩
  exact ⟨(hnames _ _ hdots).2, rfl, hextension.symm, (hother _ htaken).2.2⟩

end BaselineDirectory

end VisualRegression
