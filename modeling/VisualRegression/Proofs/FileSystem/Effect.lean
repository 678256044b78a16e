import VisualRegression.Proofs.FileSystem.Walk

/-!
# What file operations change

Each operation that succeeds changes one place, the one that its path leads to, and none takes a
directory away.  A directory is made only where nothing was (`Keeps`), and a file is written only
where no directory was; so a file that was written or moved is read back from its path
(`readFile_writeFile`, `readFile_moveFile`), and any other file reads as before.
-/

namespace VisualRegression.FileSystem

variable [WorkingDirectory]

variable {fs fs' : FileSystem} {place : Place} {node : Node} {p : FilePath} {bytes : List UInt8}

/-- A file system that has all that another one has. -/
def Keeps (fs fs' : FileSystem) : Prop :=
  ∀ place node, fs.node? place = some node → fs'.node? place = some node

theorem Keeps.refl (fs : FileSystem) : Keeps fs fs := fun _ _ h => h

theorem Keeps.trans {fs'' : FileSystem} (h : Keeps fs fs') (h' : Keeps fs' fs'') : Keeps fs fs'' :=
  fun place node hn => h' place node (h place node hn)

theorem Keeps.directoriesIn (h : Keeps fs fs') : DirectoriesIn fs fs' :=
  fun place hd => h place .directory hd

/-- What is put where no directory is takes no directory away. -/
theorem directoriesIn_put (h : fs.node? place ≠ some .directory) (node : Node) :
    DirectoriesIn fs (fs.put place node) := by
  intro other hd
  have hne : other ≠ place := by
    rintro rfl
    exact h hd
  rw [node?_put_of_ne _ _ hne, hd]

/-- A place that can be written to is not always there. -/
theorem isGiven_eq_false (h : fs.node? place ≠ some .directory) : isGiven place = false :=
  Bool.eq_false_iff.2 fun hg => h (node?_of_isGiven fs hg)

/-- A place that is cleared is not found, unless it is always there. -/
theorem node?_erase_of_ne {other : Place} (h : other ≠ place) :
    (⟨fs.entries.erase place⟩ : FileSystem).node? other = fs.node? other := by
  unfold node?
  rw [OrderedMap.get?_erase_of_ne _ h]

/-- What is left once a place was cleared was there before. -/
theorem node?_of_erase {other : Place}
    (h : (⟨fs.entries.erase place⟩ : FileSystem).node? other = some node) :
    fs.node? other = some node := by
  by_cases hg : isGiven other = true
  · rw [node?_of_isGiven _ hg] at h ⊢
    exact h
  · by_cases hne : other = place
    · subst hne
      rw [node?, if_neg hg, OrderedMap.get?_erase_self] at h
      cases h
    · rw [node?_erase_of_ne hne] at h
      exact h

/-- To clear a place without a directory takes no directory away. -/
theorem directoriesIn_erase (h : fs.node? place ≠ some .directory) :
    DirectoriesIn fs ⟨fs.entries.erase place⟩ := by
  intro other hd
  have hne : other ≠ place := by
    rintro rfl
    exact h hd
  rw [node?_erase_of_ne hne, hd]

/-! ## One operation each -/

/-- The directory of a path is a directory, and its last name leads on from there. -/
theorem locateParent_eq_ok {name : String} (h : fs.locateParent p = .ok (place, some name)) :
    p.fault? = none ∧ fs.follow (start p) p.parts.dropLast = .ok place ∧
      ∃ part, part.name = name ∧ p.parts = p.parts.dropLast ++ [part] := by
  unfold locateParent at h
  split at h
  · cases h
  · rename_i hfault
    split at h
    · cases h
    · rename_i last hlast
      obtain ⟨init, hparts⟩ := List.getLast?_eq_some_iff.1 hlast
      obtain ⟨dir, hdir, h⟩ := bind_eq_ok.1 h
      split at h
      · cases h
      · cases h
      · split at h
        · cases h
        · cases h
          exact ⟨hfault, hdir, last, rfl, by rw [hparts, List.dropLast_concat]⟩

/-- The directory of a path and its last name lead where the path leads. -/
theorem locate_of_locateParent {name : String} {target : Place}
    (h : fs.locateParent p = .ok (place, some name)) (hn : fs.enter place name = .ok target) :
    target = p.place ∧ fs.locate p = .ok p.place := by
  obtain ⟨hfault, hdir, part, rfl, hparts⟩ := locateParent_eq_ok h
  have hp : fs.locate p = .ok target :=
    locate_eq_ok.2 ⟨hfault, hparts ▸ follow_append_singleton hdir hn⟩
  obtain rfl := eq_place_of_locate hp
  exact ⟨rfl, hp⟩

theorem makeDirectory_eq_ok (h : fs.makeDirectory p = .ok fs') :
    fs.locate p = .ok p.place ∧ fs.node? p.place = none ∧ fs' = fs.put p.place .directory := by
  obtain ⟨⟨dir, _ | name⟩, hl, h⟩ := bind_eq_ok.1 h
  · cases h
  · obtain ⟨target, hn, h⟩ := bind_eq_ok.1 h
    obtain ⟨rfl, hp⟩ := locate_of_locateParent hl hn
    split at h
    · cases h
    · rename_i hnone
      cases h
      exact ⟨hp, Option.not_isSome_iff_eq_none.1 hnone, rfl⟩

theorem writeFile_eq_ok (h : fs.writeFile p bytes = .ok fs') :
    fs.locate p = .ok p.place ∧ p.asDirectory = false ∧ fs.node? p.place ≠ some .directory ∧
      fs' = fs.put p.place (.file bytes) := by
  obtain ⟨⟨dir, _ | name⟩, hl, h⟩ := bind_eq_ok.1 h
  · cases h
  · dsimp only at h
    split at h
    · cases h
    · rename_i ha
      obtain ⟨target, hn, h⟩ := bind_eq_ok.1 h
      obtain ⟨rfl, hp⟩ := locate_of_locateParent hl hn
      split at h
      · cases h
      · rename_i hd
        cases h
        exact ⟨hp, Bool.eq_false_iff.2 ha, hd, rfl⟩

theorem moveFile_eq_ok {source target : FilePath} (h : fs.moveFile source target = .ok fs') :
    ∃ bytes, fs.find source = .ok (.file bytes) ∧ fs.locate target = .ok target.place ∧
      fs.node? target.place ≠ some .directory ∧
      fs' = (⟨fs.entries.erase source.place⟩ : FileSystem).put target.place (.file bytes) := by
  obtain ⟨sourcePlace, hs, h⟩ := bind_eq_ok.1 h
  obtain rfl := eq_place_of_locate hs
  obtain ⟨moved | _, hf, h⟩ := bind_eq_ok.1 h
  · obtain ⟨⟨dir, _ | name⟩, hl, h⟩ := bind_eq_ok.1 h
    · cases h
    · obtain ⟨targetPlace, hn, h⟩ := bind_eq_ok.1 h
      obtain ⟨rfl, hp⟩ := locate_of_locateParent hl hn
      split at h
      · cases h
      · rename_i hd
        cases h
        exact ⟨moved, hf, hp, hd, rfl⟩
  · cases h

/-! ## What is read afterwards -/

/-- A directory that is made takes nothing away. -/
theorem keeps_makeDirectory (h : fs.makeDirectory p = .ok fs') : Keeps fs fs' := by
  obtain ⟨-, hnone, rfl⟩ := makeDirectory_eq_ok h
  intro place node hn
  have hne : place ≠ p.place := by
    rintro rfl
    rw [hnone] at hn
    cases hn
  rw [node?_put_of_ne _ _ hne, hn]

/-- **Directories are made one at a time**: what relates the file systems before and after each of
them relates those before and after all of them. -/
theorem makeAll_related (related : FileSystem → FileSystem → Prop) {absolute : Bool}
    {parts : List FilePath.Segment} (hrefl : ∀ fs, related fs fs)
    (htrans : ∀ fs₁ fs₂ fs₃, related fs₁ fs₂ → related fs₂ fs₃ → related fs₁ fs₃)
    (hmade : ∀ up, up <:+ parts → up ≠ [] → ∀ fs fs',
      fs.makeDirectory ⟨absolute, up.reverse, []⟩ = .ok fs' → related fs fs')
    (fs : FileSystem) : related fs (makeAll absolute parts fs).2 := by
  induction parts generalizing fs with
  | nil => exact hrefl fs
  | cons part up ih =>
    have hself := hmade (part :: up) List.suffix_rfl (List.cons_ne_nil _ _)
    rw [makeAll]
    rcases hm : fs.makeDirectory ⟨absolute, (part :: up).reverse, []⟩ with fault | fs₁
    · cases fault with
      | notFound =>
        -- the directory above is missing: it is made first, and then there is a second try
        have habove := ih (fun up' hup' => hmade up' (hup'.trans (List.suffix_cons _ _))) fs
        dsimp only
        rcases hall : makeAll absolute up fs with ⟨_ | ⟨⟩, fs₂⟩
        all_goals rw [hall] at habove
        · exact habove
        · dsimp only
          rcases hm' : fs₂.makeDirectory ⟨absolute, (part :: up).reverse, []⟩ with _ | fs₃
          · exact habove
          · exact htrans _ _ _ habove (hself _ _ hm')
      | _ => exact hrefl fs
    · exact hself _ _ hm

/-- **Directories that are made take nothing away.** -/
theorem keeps_makeDirectories (fs : FileSystem) (p : FilePath) :
    Keeps fs (fs.makeDirectories p).2 :=
  makeAll_related Keeps Keeps.refl (fun _ _ _ => Keeps.trans)
    (fun _ _ _ _ _ => keeps_makeDirectory) fs

/-- A file that is written takes no directory away. -/
theorem directoriesIn_writeFile (h : fs.writeFile p bytes = .ok fs') : DirectoriesIn fs fs' := by
  obtain ⟨-, -, hd, rfl⟩ := writeFile_eq_ok h
  exact directoriesIn_put hd _

/-- To write a file changes nothing at other places. -/
theorem node?_writeFile_of_ne (h : fs.writeFile p bytes = .ok fs') (hne : place ≠ p.place) :
    fs'.node? place = fs.node? place := by
  obtain ⟨-, -, -, rfl⟩ := writeFile_eq_ok h
  exact node?_put_of_ne _ _ hne

/-- **A file that was written is read back.** -/
theorem readFile_writeFile (h : fs.writeFile p bytes = .ok fs') : fs'.readFile p = .ok bytes := by
  have hdirs := directoriesIn_writeFile h
  obtain ⟨hp, ha, hd, rfl⟩ := writeFile_eq_ok h
  exact readFile_eq_ok.2 (find_eq_file.2
    ⟨locate_mono hdirs hp, node?_put_self _ _ (isGiven_eq_false hd), ha⟩)

/-- A file that is moved takes no directory away. -/
theorem directoriesIn_moveFile {source target : FilePath}
    (h : fs.moveFile source target = .ok fs') :
    DirectoriesIn fs fs' := by
  obtain ⟨moved, hf, -, hd, rfl⟩ := moveFile_eq_ok h
  -- what is taken from its old place is a file
  have hsource := ne_directory_of_find hf
  exact (directoriesIn_erase hsource).trans (directoriesIn_put (fun hx => hd (node?_of_erase hx)) _)

/-- **A file that was moved is read at its new path.** -/
theorem readFile_moveFile {source target : FilePath} (h : fs.moveFile source target = .ok fs')
    (ha : target.asDirectory = false) (hs : fs.readFile source = .ok bytes) :
    fs'.readFile target = .ok bytes := by
  have hdirs := directoriesIn_moveFile h
  obtain ⟨moved, hf, hp, hd, rfl⟩ := moveFile_eq_ok h
  rw [readFile_eq_ok, hf] at hs
  cases hs
  exact readFile_eq_ok.2 (find_eq_file.2
    ⟨locate_mono hdirs hp, node?_put_self _ _ (isGiven_eq_false hd), ha⟩)

end VisualRegression.FileSystem
