import VisualRegression.Proofs.FileSystem.Growth

/-!
# Changes that are confined to files

What becomes of files is confined to some of them (`ChangesOnly`) if no other place is written to,
no directory goes away, and all that is new besides are directories on the way to these files.
Changes that come one after the other are confined if each of them is (`ChangesOnly.trans`), and so
is a file that is written with its directory, at every turn and whatever is refused
(`always_making_of_way`, `always_rewriting_of_mem`).  Away from the way to the files all reads as
before (`ChangesOnly.readFile`, `readFile_congr_along`).
-/

namespace VisualRegression.FileSystem

open FileProgram

variable [WorkingDirectory]

variable {files files' : FilePath → Prop} {fs fs' fs'' fs₀ : FileSystem} {place : Place}
  {parts : List FilePath.Segment} {p : FilePath} {bytes : List UInt8}

/-- The place is that of one of the files. -/
def Taken (files : FilePath → Prop) (place : Place) : Prop := ∃ p, files p ∧ place = p.place

/-- The place is on the way to one of the files. -/
def OnTheWay (files : FilePath → Prop) (place : Place) : Prop :=
  ∃ p, files p ∧ place ∈ placesAlong p.parent

/-- **Nothing is written but certain files**, no directory goes away, and what is new besides are
directories on the way to the files. -/
structure ChangesOnly (files : FilePath → Prop) (fs fs' : FileSystem) : Prop where
  directories : DirectoriesIn fs fs'
  elsewhere : ∀ place, ¬ Taken files place → fs'.node? place = fs.node? place ∨
    OnTheWay files place ∧ fs.node? place = none ∧ fs'.node? place = some .directory

namespace ChangesOnly

theorem refl (files : FilePath → Prop) (fs : FileSystem) : ChangesOnly files fs fs where
  directories _ h := h
  elsewhere _ _ := .inl rfl

theorem trans (h : ChangesOnly files fs fs') (h' : ChangesOnly files fs' fs'') :
    ChangesOnly files fs fs'' where
  directories := h.directories.trans h'.directories
  elsewhere place hplace := by
    rcases h.elsewhere place hplace with hsame | ⟨hway, hnone, hdir⟩
    · rcases h'.elsewhere place hplace with hsame' | ⟨hway, hnone, hdir⟩
      · exact .inl (hsame'.trans hsame)
      · exact .inr ⟨hway, hsame ▸ hnone, hdir⟩
    · exact .inr ⟨hway, hnone, h'.directories place hdir⟩

theorem mono (h : ChangesOnly files fs fs') (hmore : ∀ p, files p → files' p) :
    ChangesOnly files' fs fs' where
  directories := h.directories
  elsewhere place hplace := by
    have hfewer : ¬ Taken files place := by
      rintro ⟨p, hp, heq⟩
      exact hplace ⟨p, hmore p hp, heq⟩
    rcases h.elsewhere place hfewer with hsame | ⟨⟨p, hp, hway⟩, hrest⟩
    · exact .inl hsame
    · exact .inr ⟨⟨p, hmore p hp, hway⟩, hrest⟩

/-- What grows towards the directory of a file is confined to the files that are touched. -/
theorem of_grows {dir : FilePath} {touched : Place → Prop} (h : Grows dir touched fs fs')
    (htouched : ∀ place, touched place → Taken files place)
    (hway : ∀ place ∈ placesAlong dir, OnTheWay files place) : ChangesOnly files fs fs' where
  directories := h.directories
  elsewhere place hplace := by
    have huntouched : ¬ touched place := fun ht => hplace (htouched place ht)
    rcases hnode : fs.node? place with _ | bytes | _
    · rcases h.missing place huntouched hnode with hnone | ⟨hdir, halong⟩
      · exact .inl hnone
      · exact .inr ⟨hway place halong, rfl, hdir⟩
    · exact .inl (h.files place bytes huntouched hnode)
    · exact .inl (h.directories place hnode)

/-! ## One operation more -/

/-- One more directory on the way is made. -/
theorem makeDirectory (h : ChangesOnly files fs₀ fs) (hmake : fs.makeDirectory p = .ok fs')
    (hway : OnTheWay files p.place) : ChangesOnly files fs₀ fs' := by
  obtain ⟨-, hnone, rfl⟩ := makeDirectory_eq_ok hmake
  have hfree := ne_directory_of_none hnone
  refine h.trans ⟨directoriesIn_put hfree _, fun place _ => ?_⟩
  by_cases heq : place = p.place
  · rw [heq]
    exact .inr ⟨hway, hnone, node?_put_self _ _ (isGiven_eq_false hfree)⟩
  · exact .inl (node?_put_of_ne _ _ heq)

/-- What is put where one of the files is has no say elsewhere. -/
theorem put (h : ChangesOnly files fs₀ fs) (hfree : fs.node? p.place ≠ some .directory)
    (hp : files p) (node : Node) : ChangesOnly files fs₀ (fs.put p.place node) := by
  refine h.trans ⟨directoriesIn_put hfree _, fun place hplace => .inl (node?_put_of_ne _ _ ?_)⟩
  rintro rfl
  exact hplace ⟨p, hp, rfl⟩

theorem writeFile (h : ChangesOnly files fs₀ fs) (hwrite : fs.writeFile p bytes = .ok fs')
    (hp : files p) : ChangesOnly files fs₀ fs' := by
  obtain ⟨-, -, hfree, rfl⟩ := writeFile_eq_ok hwrite
  exact h.put hfree hp _

theorem appendFile (h : ChangesOnly files fs₀ fs) (happend : fs.appendFile p bytes = .ok fs')
    (hp : files p) : ChangesOnly files fs₀ fs' := by
  obtain ⟨old, hread, rfl⟩ := appendFile_eq_ok happend
  exact h.put (ne_directory_of_find (readFile_eq_ok.1 hread)) hp _

/-! ## What is as before -/

theorem node?_eq (h : ChangesOnly files fs fs') (hplace : ¬ Taken files place)
    (hway : ¬ (OnTheWay files place ∧ fs.node? place = none)) :
    fs'.node? place = fs.node? place := by
  rcases h.elsewhere place hplace with hsame | ⟨halong, hnone, -⟩
  · exact hsame
  · exact absurd ⟨halong, hnone⟩ hway

/-- **No other file is made or changed.** -/
theorem node?_eq_file_iff (h : ChangesOnly files fs fs') (hplace : ¬ Taken files place) :
    fs'.node? place = some (.file bytes) ↔ fs.node? place = some (.file bytes) := by
  rcases h.elsewhere place hplace with hsame | ⟨-, hnone, hdir⟩
  · rw [hsame]
  · rw [hnone, hdir]
    exact ⟨fun h => (by cases h), fun h => (by cases h)⟩

/-- **Every other file reads as before.** -/
theorem readFile (h : ChangesOnly files fs fs') (hplace : ¬ Taken files p.place)
    (hread : fs.readFile p = .ok bytes) : fs'.readFile p = .ok bytes := by
  have hfile := (find_eq_file.1 (readFile_eq_ok.1 hread)).2.1
  exact readFile_congr hread h.directories
    (((h.node?_eq_file_iff hplace).2 hfile).trans hfile.symm)

end ChangesOnly

/-! ## Turn by turn -/

/-- A directory is made on the way to a file that is in it. -/
theorem onTheWay_of_suffix (hp : files p) {up : List FilePath.Segment}
    (hup : up <:+ p.parent.parts.reverse)
    (hne : up ≠ []) : OnTheWay files (FilePath.place ⟨p.parent.absolute, up.reverse, []⟩) :=
  ⟨p, hp, place_mem_placesAlong hup hne⟩

/-- While the directory of one of the files is made, whatever is refused, nothing else changes. -/
theorem always_making_of_way (hp : files p) (h : ChangesOnly files fs₀ fs) :
    Always (ChangesOnly files fs₀) (Ends (ChangesOnly files fs₀) (ChangesOnly files fs₀))
      (making p.parent.absolute p.parent.parts.reverse) fs := by
  refine always_making (fun _ => id) ?_ h
  intro up hup hne fs fs' hchanges hmake
  exact hchanges.makeDirectory hmake (onTheWay_of_suffix hp hup hne)

/-- While one of the files is written, whatever is refused, nothing else changes. -/
theorem always_rewriting_of_mem (hp : files p) (h : ChangesOnly files fs₀ fs)
    (bytes : List UInt8) :
    Always (ChangesOnly files fs₀) (Ends (ChangesOnly files fs₀) (ChangesOnly files fs₀))
      (rewriting p bytes) fs := by
  have hrewriting := always_rewriting (P := ChangesOnly files fs₀) (fun _ => id)
    (fun _ _ hchanges hwrite => hchanges.writeFile hwrite hp)
    (fun _ _ _ hchanges happend => hchanges.appendFile happend hp) h bytes
  refine hrewriting.mono fun answer fs' hend => ?_
  rcases answer with fault | ⟨⟩
  · exact hend
  · exact hend.1

/-! ## The same way, the same end -/

/-- Names lead the same way where the same is on it. -/
theorem follow_congr
    (h : ∀ other ∈ place :: placesAlong.go place parts, fs'.node? other = fs.node? other) :
    fs'.follow place parts = fs.follow place parts := by
  induction parts generalizing place with
  | nil => rfl
  | cons part rest ih =>
    have henter : fs'.enter place part.name = fs.enter place part.name := by
      unfold enter
      rw [h place List.mem_cons_self]
    rw [follow, follow, henter]
    rcases hn : fs.enter place part.name with fault | next
    · rfl
    · obtain ⟨-, rfl⟩ := enter_eq_ok hn
      exact ih fun other hmem => h other (List.mem_cons_of_mem _ hmem)

/-- **A file reads as before where the same is on the way to it**, whether or not it can be read. -/
theorem readFile_congr_along
    (h : ∀ place ∈ placesAlong p, fs'.node? place = fs.node? place) :
    fs'.readFile p = fs.readFile p := by
  have hstart : fs'.node? (start p) = fs.node? (start p) := by
    rw [node?_of_isGiven fs (isGiven_start p), node?_of_isGiven fs' (isGiven_start p)]
  have hall : ∀ other ∈ start p :: placesAlong.go (start p) p.parts,
      fs'.node? other = fs.node? other := by
    intro other hmem
    rcases List.mem_cons.1 hmem with rfl | hmem
    · exact hstart
    · exact h other hmem
  have hlocate : fs'.locate p = fs.locate p := by
    unfold locate
    rw [follow_congr hall]
  have hend : fs'.node? p.place = fs.node? p.place := by
    rcases hparts : p.parts with _ | ⟨part, rest⟩
    · have hplace : p.place = start p := by
        unfold FilePath.place
        rw [hparts]
        rfl
      rw [hplace, hstart]
    · exact h _ (walk_mem_go (by rw [hparts]; exact List.cons_ne_nil _ _))
  have hfind : fs'.find p = fs.find p := by
    unfold find
    rw [hlocate]
    rcases hl : fs.locate p with fault | target
    · rfl
    · obtain rfl := eq_place_of_locate hl
      simp only [ok_bind, hend]
  unfold FileSystem.readFile
  rw [hfind]

end VisualRegression.FileSystem
