import VisualRegression.FileSystem.Basic
import VisualRegression.Proofs.Failing

/-!
# Where paths lead

A path that leads somewhere leads to one place, which can be read off its names alone:
`FilePath.place`.  All spellings of a path have one place, whether they begin in the working
directory or go through it (`FilePath.place_of_relative`), and whatever ways down and up again they
take (`walk_up`).  What stands on the way matters only in that each name but the last has to be a
directory, so that a path still leads to its place in any file system that has all these directories
(`locate_mono`).  `readFile_congr` is the form in which other modules use this.
-/

namespace VisualRegression

namespace FileSystem

/-- The place that names lead to from another one, if there are directories on the way. -/
def walk (place : Place) : List FilePath.Segment → Place
  | [] => place
  | part :: rest => walk (if part.name = ".." then above place else place ++ [part.name]) rest

theorem walk_append (place : Place) (parts more : List FilePath.Segment) :
    walk place (parts ++ more) = walk (walk place parts) more := by
  induction parts generalizing place with
  | nil => rfl
  | cons first rest ih => exact ih _

/-- A name and the way up from it lead back. -/
theorem walk_up {part up : FilePath.Segment} (place : Place) (hpart : part.name ≠ "..")
    (hup : up.name = "..") (parts : List FilePath.Segment) :
    walk place (part :: up :: parts) = walk place parts := by
  rw [walk, if_neg hpart, walk, if_pos hup, above, List.dropLast_concat]

/-- Names that never lead up lead down one by one. -/
theorem walk_down (place : Place) {parts : List FilePath.Segment}
    (h : ∀ part ∈ parts, part.name ≠ "..") :
    walk place parts = place ++ parts.map FilePath.Segment.name := by
  induction parts generalizing place with
  | nil => exact (List.append_nil place).symm
  | cons part rest ih =>
    obtain ⟨hname, hrest⟩ := List.forall_mem_cons.1 h
    rw [walk, if_neg hname, ih _ hrest, List.append_assoc]
    rfl

section Along

variable {place : Place} {parts : List FilePath.Segment}

/-- Names that lead on lead through the places that they led through. -/
theorem go_append (place : Place) (parts more : List FilePath.Segment) :
    placesAlong.go place (parts ++ more) =
      placesAlong.go place parts ++ placesAlong.go (walk place parts) more := by
  induction parts generalizing place with
  | nil => rfl
  | cons first rest ih => exact congrArg (_ :: ·) (ih _)

/-- The place that names lead to is among those that they lead through. -/
theorem walk_mem_go (h : parts ≠ []) : walk place parts ∈ placesAlong.go place parts := by
  induction parts generalizing place with
  | nil => exact absurd rfl h
  | cons first rest ih =>
    by_cases hrest : rest = []
    · rw [hrest]
      exact List.mem_cons_self
    · exact List.mem_cons_of_mem _ (ih hrest)

theorem length_walk (place : Place) (h : ∀ part ∈ parts, part.name ≠ "..") :
    (walk place parts).length = place.length + parts.length := by
  rw [walk_down place h, List.length_append, List.length_map]

/-- A path that never goes up leads through no place that is further down than its end. -/
theorem length_le_of_mem_go {other : Place} (h : ∀ part ∈ parts, part.name ≠ "..")
    (hmem : other ∈ placesAlong.go place parts) : other.length ≤ (walk place parts).length := by
  induction parts generalizing place with
  | nil => cases hmem
  | cons part rest ih =>
    obtain ⟨-, hrest⟩ := List.forall_mem_cons.1 h
    rcases List.mem_cons.1 hmem with rfl | hmem
    · exact Nat.le.intro (length_walk _ hrest).symm
    · exact ih hrest hmem

end Along

end FileSystem

variable [WorkingDirectory]

/-- **The place of a path**, whether or not something is there. -/
def FilePath.place (p : FilePath) : Place := FileSystem.walk (FileSystem.start p) p.parts

/-- **A relative path has the place of the absolute one through the working directory.** -/
theorem FilePath.place_of_relative {down : List FilePath.Segment}
    (hdown : down.map Segment.name = WorkingDirectory.place)
    (hup : ∀ part ∈ down, part.name ≠ "..") (parts : List FilePath.Segment) (rest : List Char) :
    FilePath.place ⟨false, parts, rest⟩ = FilePath.place ⟨true, down ++ parts, rest⟩ := by
  have hstart : FileSystem.walk [] down = WorkingDirectory.place := by
    rw [FileSystem.walk_down [] hup, List.nil_append, hdown]
  show FileSystem.walk WorkingDirectory.place parts = FileSystem.walk [] (down ++ parts)
  rw [FileSystem.walk_append, hstart]

example : @FilePath.place ⟨["w"]⟩ (.ofText "home.png") =
    @FilePath.place ⟨["w"]⟩ (.ofText "/w/../w/./home.png") := by
  decide

namespace FileSystem

variable {fs fs' : FileSystem} {place target : Place} {name : String} {part : FilePath.Segment}
  {parts : List FilePath.Segment} {p : FilePath}

/-- The directories that are always there are the working directory and those above it. -/
theorem isGiven_iff : isGiven place = true ↔ place <+: WorkingDirectory.place :=
  List.isPrefixOf_iff_prefix

theorem node?_of_isGiven (fs : FileSystem) (h : isGiven place = true) :
    fs.node? place = some .directory := by
  unfold node?
  rw [if_pos h]

/-- A path begins in a directory that is always there. -/
theorem isGiven_start (p : FilePath) : isGiven (start p) = true := by
  refine isGiven_iff.2 ?_
  unfold start
  split
  · exact List.nil_prefix
  · exact List.prefix_rfl

/-- Entering a name starts from a directory. -/
theorem enter_eq_ok (h : fs.enter place name = .ok target) :
    fs.node? place = some .directory ∧
      target = if name = ".." then above place else place ++ [name] := by
  unfold enter at h
  split at h
  · cases h
  · cases h
  · rename_i hd
    refine ⟨hd, ?_⟩
    split at h
    · rename_i hn
      cases h
      rw [if_pos hn]
    · rename_i hn
      split at h
      · cases h
      · cases h
        rw [if_neg hn]

/-- What a name leads to does not change as long as the directory is there. -/
theorem enter_congr (hd : fs.node? place = some .directory)
    (hd' : fs'.node? place = some .directory) : fs'.enter place name = fs.enter place name := by
  unfold enter
  rw [hd, hd']

theorem follow_cons_eq_ok {rest : List FilePath.Segment} :
    fs.follow place (part :: rest) = .ok target ↔
      ∃ next, fs.enter place part.name = .ok next ∧ fs.follow next rest = .ok target :=
  bind_eq_ok

/-- Names that lead somewhere lead to the place that can be read off them. -/
theorem eq_walk_of_follow (h : fs.follow place parts = .ok target) :
    target = walk place parts := by
  induction parts generalizing place with
  | nil =>
    cases h
    rfl
  | cons part rest ih =>
    obtain ⟨next, hn, hr⟩ := follow_cons_eq_ok.1 h
    rw [ih hr, (enter_eq_ok hn).2]
    rfl

/-- A file system that has the directories of another one. -/
def DirectoriesIn (fs fs' : FileSystem) : Prop :=
  ∀ place, fs.node? place = some .directory → fs'.node? place = some .directory

theorem DirectoriesIn.trans {fs'' : FileSystem} (h : DirectoriesIn fs fs')
    (h' : DirectoriesIn fs' fs'') : DirectoriesIn fs fs'' :=
  fun place hd => h' place (h place hd)

/-- **Names lead where they led as long as the directories are there.** -/
theorem follow_mono (hd : DirectoriesIn fs fs') (h : fs.follow place parts = .ok target) :
    fs'.follow place parts = .ok target := by
  induction parts generalizing place with
  | nil => exact h
  | cons part rest ih =>
    obtain ⟨next, hn, hr⟩ := follow_cons_eq_ok.1 h
    -- a name is entered from a directory, and that is still there
    have hdir := (enter_eq_ok hn).1
    refine follow_cons_eq_ok.2 ⟨next, ?_, ih hr⟩
    rw [enter_congr hdir (hd _ hdir), hn]

/-- Names lead on from where those before them lead. -/
theorem follow_append {next : Place} (h : fs.follow place parts = .ok next)
    (more : List FilePath.Segment) :
    fs.follow place (parts ++ more) = fs.follow next more := by
  induction parts generalizing place with
  | nil =>
    cases h
    rfl
  | cons first rest ih =>
    obtain ⟨second, hf, hr⟩ := follow_cons_eq_ok.1 h
    rw [List.cons_append, follow, hf, ok_bind, ih hr]

/-- Names that lead to a directory and one more that leads on from there lead on. -/
theorem follow_append_singleton {next : Place} (h : fs.follow place parts = .ok next)
    (hn : fs.enter next part.name = .ok target) :
    fs.follow place (parts ++ [part]) = .ok target := by
  rw [follow_append h]
  exact follow_cons_eq_ok.2 ⟨target, hn, rfl⟩

/-- **A last name leads where it led as long as the directories on the way to it are there.** -/
theorem follow_concat_of_way
    (hway : ∀ other ∈ place :: placesAlong.go place parts,
      fs.node? other = some .directory → fs'.node? other = some .directory)
    (h : fs.follow place (parts ++ [part]) = .ok target) :
    fs'.follow place (parts ++ [part]) = .ok target := by
  induction parts generalizing place with
  | nil =>
    obtain ⟨next, hn, hr⟩ := follow_cons_eq_ok.1 h
    have hdir := (enter_eq_ok hn).1
    refine follow_cons_eq_ok.2 ⟨next, ?_, hr⟩
    rw [enter_congr hdir (hway _ List.mem_cons_self hdir), hn]
  | cons first rest ih =>
    obtain ⟨next, hn, hr⟩ := follow_cons_eq_ok.1 h
    obtain ⟨hdir, rfl⟩ := enter_eq_ok hn
    have hrest := ih (fun other hmem => hway other (List.mem_cons_of_mem _ hmem)) hr
    refine follow_cons_eq_ok.2 ⟨_, ?_, hrest⟩
    rw [enter_congr hdir (hway _ List.mem_cons_self hdir), hn]

theorem locate_eq_ok :
    fs.locate p = .ok target ↔ p.fault? = none ∧ fs.follow (start p) p.parts = .ok target := by
  unfold locate
  rcases p.fault? with _ | fault
  · exact ⟨fun h => ⟨rfl, h⟩, fun h => h.2⟩
  · exact ⟨fun h => (by cases h), fun h => (by cases h.1)⟩

/-- A path that leads somewhere leads to its place. -/
theorem eq_place_of_locate (h : fs.locate p = .ok target) : target = p.place :=
  eq_walk_of_follow (locate_eq_ok.1 h).2

theorem locate_mono (hd : DirectoriesIn fs fs') (h : fs.locate p = .ok target) :
    fs'.locate p = .ok target :=
  locate_eq_ok.2 ⟨(locate_eq_ok.1 h).1, follow_mono hd (locate_eq_ok.1 h).2⟩

/-- A file is found where a path leads to its place. -/
theorem find_eq_file {bytes : List UInt8} :
    fs.find p = .ok (.file bytes) ↔
      fs.locate p = .ok p.place ∧ fs.node? p.place = some (.file bytes) ∧
        p.asDirectory = false := by
  unfold find
  rcases hl : fs.locate p with fault | target
  · exact ⟨fun h => (by cases h), fun h => (by cases h.1)⟩
  · obtain rfl := eq_place_of_locate hl
    simp only [bind, Except.bind]
    rcases fs.node? p.place with _ | found | _
    · simp
    · cases p.asDirectory <;> simp
    · simp

/-- Where nothing is there is no directory. -/
theorem ne_directory_of_none (h : fs.node? place = none) : fs.node? place ≠ some .directory := by
  rw [h]
  exact nofun

/-- Where a file is found there is no directory. -/
theorem ne_directory_of_find {bytes : List UInt8} (h : fs.find p = .ok (.file bytes)) :
    fs.node? p.place ≠ some .directory := by
  rw [(find_eq_file.1 h).2.1]
  exact nofun

/-- The bytes of a file are those of what the path leads to. -/
theorem readFile_eq_ok {bytes : List UInt8} :
    fs.readFile p = .ok bytes ↔ fs.find p = .ok (.file bytes) := by
  unfold readFile
  rcases fs.find p with fault | found | _
  · exact ⟨fun h => (by cases h), fun h => (by cases h)⟩
  · exact ⟨fun h => (by cases h; rfl), fun h => (by cases h; rfl)⟩
  · exact ⟨fun h => (by cases h), fun h => (by cases h)⟩

/-- **A file reads the same as long as it and all directories are there.** -/
theorem readFile_congr {bytes : List UInt8} (h : fs.readFile p = .ok bytes)
    (hd : DirectoriesIn fs fs') (hp : fs'.node? p.place = fs.node? p.place) :
    fs'.readFile p = .ok bytes := by
  obtain ⟨hl, hn, ha⟩ := find_eq_file.1 (readFile_eq_ok.1 h)
  exact readFile_eq_ok.2 (find_eq_file.2 ⟨locate_mono hd hl, hp.trans hn, ha⟩)

end FileSystem

end VisualRegression
