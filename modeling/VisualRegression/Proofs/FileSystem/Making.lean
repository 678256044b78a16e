import VisualRegression.Proofs.FileSystem.Effect

/-!
# Directories that are made, and files in them

A directory is made at the first try, or at a second one once those above it are there
(`makeAll_eq_ok_of_missing`, `makeAll_eq_ok_of_not_missing`).  When it can be made, its path leads
to it afterwards (`there_of_makeDirectories`), to make it again does nothing
(`makeDirectories_of_there`), before it was made the path led to the same place or to a name that
was missing (`follow_of_keeps`), and nothing was made away from the path
(`node?_makeDirectories_of_notMem`).  In a directory that is there, files with names that are fit
for it can be written and moved (`writeFile_join`, `moveFile_join`).
-/

namespace VisualRegression

namespace FilePath

variable {dir : FilePath} {name : String}

/-- The name is fit for a file in a directory. -/
structure Fits (dir : FilePath) (name : String) : Prop where
  ne_up : name ≠ ".."
  short : name.utf8ByteSize ≤ maxNameLength
  sound : (dir.join name).fault? = none

/-- No name of a path that could be looked up holds a null character. -/
theorem contains_null_of_fault? {p : FilePath} (h : p.fault? = none) :
    ∀ part ∈ p.parts, part.name.toList.contains '\x00' = false := by
  unfold fault? at h
  split at h
  · cases h
  · rename_i hnull
    intro part hpart
    exact Bool.eq_false_iff.2 fun hx => hnull (List.any_eq_true.2 ⟨part, hpart, hx⟩)

/-- A path can be looked up if its names have no null character and it is not too long. -/
theorem fault?_join (hdir : ∀ part ∈ dir.parts, part.name.toList.contains '\x00' = false)
    (hname : name.toList.contains '\x00' = false)
    (hlength : dir.length + 1 + name.utf8ByteSize ≤ maxLength) :
    (dir.join name).fault? = none := by
  have hnull : ((dir.join name).parts.any fun part => part.name.toList.contains '\x00') =
      false := by
    refine List.any_eq_false.2 fun part hpart => ?_
    rcases List.mem_append.1 hpart with hpart | hpart
    · simpa using hdir part hpart
    · obtain rfl := List.mem_singleton.1 hpart
      simpa using hname
  have hnowhere : (dir.join name).isNowhere = false := by simp [isNowhere, join]
  have hlong : ¬ (dir.join name).length > maxLength := by
    have := length_join_le dir name
    omega
  unfold fault?
  rw [hnull, hnowhere, if_neg Bool.false_ne_true, if_neg Bool.false_ne_true, if_neg hlong]

end FilePath

variable [WorkingDirectory]

namespace FileSystem

variable {fs fs' made : FileSystem} {place target : Place} {absolute : Bool}
  {part : FilePath.Segment} {parts up : List FilePath.Segment} {p dir : FilePath}
  {bytes : List UInt8}

/-- A path leads to a directory. -/
structure There (fs : FileSystem) (p : FilePath) : Prop where
  follow : fs.follow (start p) p.parts = .ok p.place
  directory : fs.node? p.place = some .directory

theorem There.mono (h : fs.There p) (hd : DirectoriesIn fs fs') : fs'.There p where
  follow := follow_mono hd h.follow
  directory := hd _ h.directory

theorem isDirectory_iff : fs.isDirectory p = true ↔ fs.find p = .ok .directory := by
  unfold isDirectory
  rcases fs.find p with fault | node
  · exact ⟨fun h => (by cases h), fun h => (by cases h)⟩
  · simp [Except.toOption]

/-- What is found to be a directory is there. -/
theorem there_of_isDirectory (h : fs.isDirectory p = true) : fs.There p ∧ p.fault? = none := by
  obtain ⟨target, hl, h⟩ := bind_eq_ok.1 (isDirectory_iff.1 h)
  obtain rfl := eq_place_of_locate hl
  obtain ⟨hfault, hfollow⟩ := locate_eq_ok.1 hl
  refine ⟨⟨hfollow, ?_⟩, hfault⟩
  rcases hn : fs.node? p.place with _ | _ | _
  · rw [hn] at h
    cases h
  · rw [hn] at h
    dsimp only at h
    split at h <;> cases h
  · rfl

/-- A directory that was made is there. -/
theorem there_of_makeDirectory (h : fs.makeDirectory p = .ok fs') :
    fs'.There p ∧ p.fault? = none := by
  have hkeeps := keeps_makeDirectory h
  obtain ⟨hl, hnone, rfl⟩ := makeDirectory_eq_ok h
  obtain ⟨hfault, hfollow⟩ := locate_eq_ok.1 hl
  have hfree := ne_directory_of_none hnone
  exact ⟨⟨follow_mono hkeeps.directoriesIn hfollow, node?_put_self _ _ (isGiven_eq_false hfree)⟩,
    hfault⟩

/-- Where a path starts there is a directory. -/
theorem there_start (fs : FileSystem) (absolute : Bool) (rest : List Char) :
    fs.There ⟨absolute, [], rest⟩ where
  follow := rfl
  directory := node?_of_isGiven fs (isGiven_start ⟨absolute, [], rest⟩)

/-- **A directory is made**, or is there, once those above it are. -/
def MadeLast (above : FileSystem) (p : FilePath) (made : FileSystem) : Prop :=
  above.makeDirectory p = .ok made ∨ above.isDirectory p = true ∧ made = above

/-- What is there is not made. -/
theorem not_isDirectory_of_makeDirectory (h : fs.makeDirectory p = .ok fs') :
    fs.isDirectory p ≠ true := by
  intro hdirectory
  have hthere := (there_of_isDirectory hdirectory).1.directory
  rw [(makeDirectory_eq_ok h).2.1] at hthere
  cases hthere

/-- A directory that was made, or was there, is there. -/
theorem there_of_madeLast (h : fs.MadeLast p fs') : fs'.There p ∧ p.fault? = none := by
  obtain hmake | ⟨hdirectory, rfl⟩ := h
  · exact there_of_makeDirectory hmake
  · exact there_of_isDirectory hdirectory

/-- A try to make a directory, without those above it. -/
theorem try_eq_ok_iff :
    (match fs.makeDirectory p with
      | .ok fs' => ((.ok (), fs') : Except FileFault Unit × FileSystem)
      | .error fault => (if fs.isDirectory p then .ok () else .error fault, fs)) =
        (.ok (), made) ↔ fs.MadeLast p made := by
  unfold MadeLast
  rcases hmake : fs.makeDirectory p with fault | fs'
  · dsimp only
    by_cases hdirectory : fs.isDirectory p = true
    · rw [if_pos hdirectory]
      constructor
      · intro h
        exact .inr ⟨hdirectory, (Prod.ext_iff.1 h).2.symm⟩
      · rintro (h | ⟨-, rfl⟩)
        · cases h
        · rfl
    · rw [if_neg hdirectory]
      constructor
      · intro h
        cases (Prod.ext_iff.1 h).1
      · rintro (h | ⟨h, -⟩)
        · cases h
        · exact absurd h hdirectory
  · constructor
    · intro h
      exact .inl (congrArg Except.ok (Prod.ext_iff.1 h).2)
    · rintro (h | ⟨h, -⟩)
      · obtain rfl := Except.ok.inj h
        rfl
      · exact absurd h (not_isDirectory_of_makeDirectory hmake)

/-- A directory is made at the second try if the one above it was missing at the first. -/
theorem makeAll_eq_ok_of_missing
    (h : fs.makeDirectory ⟨absolute, (part :: up).reverse, []⟩ = .error .notFound) :
    makeAll absolute (part :: up) fs = (.ok (), made) ↔
      ∃ above, makeAll absolute up fs = (.ok (), above) ∧
        above.MadeLast ⟨absolute, (part :: up).reverse, []⟩ made := by
  rw [makeAll, h]
  dsimp only
  constructor
  · intro hmade
    rcases habove : makeAll absolute up fs with ⟨fault | ⟨⟩, above⟩
    · rw [habove] at hmade
      cases hmade
    · rw [habove] at hmade
      exact ⟨above, rfl, try_eq_ok_iff.1 hmade⟩
  · rintro ⟨above, habove, hlast⟩
    rw [habove]
    exact try_eq_ok_iff.2 hlast

/-- And at the first try otherwise, if at all. -/
theorem makeAll_eq_ok_of_not_missing
    (h : fs.makeDirectory ⟨absolute, (part :: up).reverse, []⟩ ≠ .error .notFound) :
    makeAll absolute (part :: up) fs = (.ok (), made) ↔
      fs.MadeLast ⟨absolute, (part :: up).reverse, []⟩ made := by
  rw [← try_eq_ok_iff, makeAll]
  rcases hmake : fs.makeDirectory ⟨absolute, (part :: up).reverse, []⟩ with fault | fs'
  · cases fault with
    | notFound => exact absurd hmake h
    | _ => exact Iff.rfl
  · exact Iff.rfl

theorem there_of_makeAll (h : makeAll absolute parts fs = (.ok (), fs')) :
    fs'.There ⟨absolute, parts.reverse, []⟩ ∧
      (parts = [] ∨ FilePath.fault? ⟨absolute, parts.reverse, []⟩ = none) := by
  cases parts with
  | nil =>
    cases h
    exact ⟨there_start _ _ _, .inl rfl⟩
  | cons part up =>
    have hlast : ∃ above : FileSystem,
        above.MadeLast ⟨absolute, (part :: up).reverse, []⟩ fs' := by
      by_cases hmissing :
          fs.makeDirectory ⟨absolute, (part :: up).reverse, []⟩ = .error .notFound
      · obtain ⟨above, -, hlast⟩ := (makeAll_eq_ok_of_missing hmissing).1 h
        exact ⟨above, hlast⟩
      · exact ⟨fs, (makeAll_eq_ok_of_not_missing hmissing).1 h⟩
    obtain ⟨above, hlast⟩ := hlast
    obtain ⟨hthere, hfault⟩ := there_of_madeLast hlast
    exact ⟨hthere, .inr hfault⟩

/-- **A directory that was made with those above it is there**, and its parts are fit for a path. -/
theorem there_of_makeDirectories (h : fs.makeDirectories p = (.ok (), fs')) :
    fs'.There p ∧ (p.parts = [] ∨ FilePath.fault? ⟨p.absolute, p.parts, []⟩ = none) := by
  have hall := there_of_makeAll h
  rw [List.reverse_reverse, List.reverse_eq_nil_iff] at hall
  exact ⟨⟨hall.1.follow, hall.1.directory⟩, hall.2⟩

/-- **Before directories were made, names led where they lead now or to one that was missing.** -/
theorem follow_of_keeps (hk : Keeps fs fs') (h : fs'.follow place parts = .ok target) :
    fs.follow place parts = .ok target ∨ fs.follow place parts = .error .notFound := by
  induction parts generalizing place with
  | nil => exact .inl h
  | cons part rest ih =>
    obtain ⟨next, hn, hr⟩ := follow_cons_eq_ok.1 h
    have hdir := (enter_eq_ok hn).1
    rcases hnode : fs.node? place with _ | _ | _
    · refine .inr ?_
      rw [follow, enter, hnode]
      rfl
    · -- a file would still be there
      rw [hk _ _ hnode] at hdir
      cases hdir
    · rw [enter_congr hnode hdir] at hn
      rw [follow, hn]
      exact ih hr

/-- Names that lead somewhere lead through the directory of the last one. -/
theorem exists_of_follow_append (h : fs.follow place (parts ++ [part]) = .ok target) :
    ∃ next, fs.follow place parts = .ok next ∧ fs.enter next part.name = .ok target := by
  induction parts generalizing place with
  | nil =>
    obtain ⟨next, hn, hr⟩ := follow_cons_eq_ok.1 h
    cases hr
    exact ⟨place, rfl, hn⟩
  | cons first rest ih =>
    obtain ⟨second, hf, hr⟩ := follow_cons_eq_ok.1 h
    obtain ⟨next, hnext, hn⟩ := ih hr
    exact ⟨next, follow_cons_eq_ok.2 ⟨second, hf, hnext⟩, hn⟩

/-- A directory that is there is not made again. -/
theorem makeDirectory_of_there (h : fs.There p) (hfault : p.fault? = none) (hparts : p.parts ≠ []) :
    fs.makeDirectory p = .error .alreadyExists := by
  obtain ⟨init, part, hp⟩ : ∃ init part, p.parts = init ++ [part] :=
    ⟨_, _, (List.dropLast_append_getLast hparts).symm⟩
  have hfollow := h.follow
  rw [hp] at hfollow
  obtain ⟨next, hnext, hn⟩ := exists_of_follow_append hfollow
  unfold makeDirectory locateParent
  simp only [hfault, hp, List.getLast?_concat, List.dropLast_concat, hnext, (enter_eq_ok hn).1,
    ok_bind]
  by_cases hup : part.name = ".."
  · rw [if_pos hup]
  · rw [if_neg hup]
    simp only [hn, ok_bind, h.directory]
    rfl

/-- **To make a directory that is there does nothing.** -/
theorem makeDirectories_of_there (h : fs.There p)
    (hfault : p.parts = [] ∨ FilePath.fault? ⟨p.absolute, p.parts, []⟩ = none) :
    fs.makeDirectories p = (.ok (), fs) := by
  unfold makeDirectories
  rcases hr : p.parts.reverse with _ | ⟨part, up⟩
  · rfl
  · have hparts : p.parts = (part :: up).reverse := by rw [← hr, List.reverse_reverse]
    have hne : p.parts ≠ [] := by
      rw [hparts]
      simp
    have hsound := hfault.resolve_left hne
    have hthere : fs.There ⟨p.absolute, p.parts, []⟩ := ⟨h.follow, h.directory⟩
    have hisDirectory : fs.isDirectory ⟨p.absolute, p.parts, []⟩ = true := by
      refine isDirectory_iff.2 ?_
      unfold find
      rw [locate_eq_ok.2 ⟨hsound, hthere.follow⟩, ok_bind, hthere.directory]
    rw [makeAll]
    simp only [← hparts, makeDirectory_of_there hthere hsound hne, hisDirectory, if_true]

/-! ## What is made on the way -/

theorem node?_makeDirectory_of_ne (h : fs.makeDirectory p = .ok fs') (hne : place ≠ p.place) :
    fs'.node? place = fs.node? place := by
  obtain ⟨-, -, rfl⟩ := makeDirectory_eq_ok h
  exact node?_put_of_ne _ _ hne

/-- The directories above that of a path are along it. -/
theorem place_mem_placesAlong {up : List FilePath.Segment} (hup : up <:+ p.parts.reverse)
    (hne : up ≠ []) :
    FilePath.place ⟨p.absolute, up.reverse, []⟩ ∈ placesAlong p := by
  obtain ⟨below, hbelow⟩ := hup
  have hparts : p.parts = up.reverse ++ below.reverse := by
    rw [← List.reverse_append, hbelow, List.reverse_reverse]
  rw [placesAlong, hparts, go_append]
  exact List.mem_append_left _ (walk_mem_go (by simpa using hne))

/-- **Directories are made nowhere but along their path.** -/
theorem node?_makeDirectories_of_notMem (h : place ∉ placesAlong p) :
    (fs.makeDirectories p).2.node? place = fs.node? place := by
  refine makeAll_related (fun fs fs' => fs'.node? place = fs.node? place) (fun _ => rfl)
    (fun _ _ _ h₁ h₂ => h₂.trans h₁) ?_ fs
  intro up hup hne fs₁ fs₂ hm
  refine node?_makeDirectory_of_ne hm fun hplace => h ?_
  rw [hplace]
  exact place_mem_placesAlong hup hne

end FileSystem

/-! ## Files in a directory -/

namespace FileSystem

variable {fs fs' : FileSystem} {name other : String} {dir : FilePath} {bytes : List UInt8}

/-- A name other than the double dot leads one below a directory. -/
theorem place_join_of_ne_up (dir : FilePath) (h : name ≠ "..") :
    (dir.join name).place = dir.place ++ [name] := by
  show walk (start dir) (dir.join name).parts = dir.place ++ [name]
  rw [FilePath.join, walk_append, walk, walk, FilePath.name_entry, if_neg h]
  rfl

/-- The place of a file is one below that of its directory. -/
theorem place_join (h : dir.Fits name) : (dir.join name).place = dir.place ++ [name] :=
  place_join_of_ne_up dir h.ne_up

theorem enter_of_there (hdir : fs.There dir) (h : dir.Fits name) :
    fs.enter dir.place name = .ok (dir.join name).place := by
  unfold enter
  rw [hdir.directory]
  dsimp only
  rw [if_neg h.ne_up, if_neg (Nat.not_lt.2 h.short), place_join h]

theorem locate_join (hdir : fs.There dir) (h : dir.Fits name) :
    fs.locate (dir.join name) = .ok (dir.join name).place :=
  locate_eq_ok.2 ⟨h.sound, follow_append_singleton hdir.follow (enter_of_there hdir h)⟩

theorem locateParent_join (hdir : fs.There dir) (h : dir.Fits name) :
    fs.locateParent (dir.join name) = .ok (dir.place, some name) := by
  have hfollow : fs.follow (start (dir.join name)) dir.parts = .ok dir.place := hdir.follow
  unfold locateParent
  simp only [h.sound, show (dir.join name).parts = dir.parts ++ [dir.entry name] from rfl,
    List.getLast?_concat, List.dropLast_concat, hfollow, hdir.directory, ok_bind]
  show Except.ok (dir.place, if name = ".." then none else some name) = _
  rw [if_neg h.ne_up]

/-- **A file can be written in a directory that is there**, unless a directory has its name. -/
theorem writeFile_join (hdir : fs.There dir) (h : dir.Fits name)
    (hfree : fs.node? (dir.join name).place ≠ some .directory) (bytes : List UInt8) :
    fs.writeFile (dir.join name) bytes = .ok (fs.put (dir.join name).place (.file bytes)) := by
  unfold writeFile
  rw [locateParent_join hdir h, ok_bind]
  dsimp only
  rw [if_neg (by exact Bool.false_ne_true), enter_of_there hdir h, ok_bind, if_neg hfree]

/-- A file is found in a directory that is there. -/
theorem find_join (hdir : fs.There dir) (h : dir.Fits name)
    (hfile : fs.node? (dir.join name).place = some (.file bytes)) :
    fs.find (dir.join name) = .ok (.file bytes) :=
  find_eq_file.2 ⟨locate_join hdir h, hfile, rfl⟩

/-- **A file can be moved within a directory that is there**, unless a directory has its new
name. -/
theorem moveFile_join (hdir : fs.There dir) (h : dir.Fits name) (h' : dir.Fits other)
    (hfile : fs.node? (dir.join name).place = some (.file bytes))
    (hfree : fs.node? (dir.join other).place ≠ some .directory) :
    fs.moveFile (dir.join name) (dir.join other) =
      .ok ((⟨fs.entries.erase (dir.join name).place⟩ : FileSystem).put
        (dir.join other).place (.file bytes)) := by
  unfold moveFile
  rw [locate_join hdir h, ok_bind, find_join hdir h hfile, ok_bind]
  dsimp only
  rw [locateParent_join hdir h', ok_bind]
  dsimp only
  rw [enter_of_there hdir h', ok_bind, if_neg hfree]

/-- A place that was cleared is empty, unless it is always there. -/
theorem node?_erase_self (fs : FileSystem) {place : Place} (h : isGiven place = false) :
    (⟨fs.entries.erase place⟩ : FileSystem).node? place = none := by
  unfold node?
  rw [h, if_neg Bool.false_ne_true, OrderedMap.get?_erase_self]

/-- **Before a directory was made nothing was read from it that is not there now.** -/
theorem readFile_of_keeps (hk : Keeps fs fs') (hdir : fs'.There dir) (h : dir.Fits name)
    (hnone : fs'.node? (dir.join name).place = none) :
    fs.readFile (dir.join name) = .error .notFound := by
  have hnone' : fs.node? (dir.join name).place = none := by
    rcases hnode : fs.node? (dir.join name).place with _ | node
    · rfl
    · rw [hk _ _ hnode] at hnone
      cases hnone
  have hlocate : fs.locate (dir.join name) = fs.follow (start (dir.join name))
      (dir.join name).parts := by
    unfold locate
    rw [h.sound]
  unfold readFile find
  rw [hlocate]
  rcases follow_of_keeps hk (locate_eq_ok.1 (locate_join hdir h)).2 with hfollow | hfollow
  · rw [hfollow, ok_bind, hnone']
    rfl
  · rw [hfollow]
    rfl

end FileSystem

end VisualRegression
