import VisualRegression.Proofs.FileSystem.Confinement
import VisualRegression.Run.Attachment

/-!
# Files that can be written

Whether a directory can be made is told one name at a time: the ones above it can be made, and then
it can, or is there (`makeAll_cons_eq_ok_iff`).  So a directory that can be made can still be made
once there are more directories, as long as no file has come on its way (`Opens`,
`makeAll_of_opens`), and a file that can be written with its directory can still be written then,
unless its place is taken by a directory.  Main statement: `AttachmentFiles.writable_of_opens`.
-/

namespace VisualRegression

/-- A path that could be looked up could be with one name less. -/
theorem FilePath.fault?_of_append {absolute : Bool} {parts : List FilePath.Segment}
    {part : FilePath.Segment}
    (h : FilePath.fault? ⟨absolute, parts ++ [part], []⟩ = none) :
    parts = [] ∨ FilePath.fault? ⟨absolute, parts, []⟩ = none := by
  by_cases hparts : parts = []
  · exact .inl hparts
  · refine .inr ?_
    have hnull : (parts.any fun part => part.name.toList.contains '\x00') = false := by
      refine List.any_eq_false.2 fun part hpart => ?_
      rw [contains_null_of_fault? h part (List.mem_append_left _ hpart)]
      exact Bool.false_ne_true
    have hnowhere : FilePath.isNowhere ⟨absolute, parts, []⟩ = false := by
      simp [isNowhere, hparts]
    have hlong : ¬ FilePath.length ⟨absolute, parts ++ [part], []⟩ > maxLength := by
      unfold fault? at h
      split at h
      · cases h
      · split at h
        · cases h
        · split at h
          · cases h
          · assumption
    have hlonger : FilePath.length ⟨absolute, parts, []⟩ ≤
        FilePath.length ⟨absolute, parts ++ [part], []⟩ :=
      length_le_length_append absolute parts [part] []
    unfold fault?
    rw [hnull, hnowhere, if_neg Bool.false_ne_true, if_neg Bool.false_ne_true, if_neg (by omega)]

variable [WorkingDirectory]

namespace FileSystem

variable {fs fs' fs₁ made made₁ above : FileSystem} {place : Place} {absolute : Bool}
  {part : FilePath.Segment} {up parts : List FilePath.Segment} {p : FilePath} {bytes : List UInt8}

/-! ## One name at a time -/

theorem isDirectory_of_there (h : fs.There p) (hfault : p.fault? = none) :
    fs.isDirectory p = true := by
  refine isDirectory_iff.2 ?_
  unfold find
  rw [locate_eq_ok.2 ⟨hfault, h.follow⟩, ok_bind, h.directory]

/-- The directory above one that can be made is there. -/
theorem there_of_locateParent {last : Option String}
    (h : fs.locateParent ⟨absolute, up ++ [part], []⟩ = .ok (place, last)) :
    fs.There ⟨absolute, up, []⟩ ∧ FilePath.fault? ⟨absolute, up ++ [part], []⟩ = none := by
  unfold locateParent at h
  split at h
  · cases h
  · rename_i hfault
    simp only [List.getLast?_concat, List.dropLast_concat] at h
    obtain ⟨dir, hdir, h⟩ := bind_eq_ok.1 h
    obtain rfl := eq_walk_of_follow hdir
    split at h
    · cases h
    · cases h
    · rename_i hnode
      exact ⟨⟨hdir, hnode⟩, hfault⟩

/-- Where the directory above is there, nothing has to be made for it. -/
theorem makeAll_of_there (h : fs.There ⟨absolute, up.reverse, []⟩)
    (hfault : up.reverse = [] ∨ FilePath.fault? ⟨absolute, up.reverse, []⟩ = none) :
    makeAll absolute up fs = (.ok (), fs) := by
  have hmade := makeDirectories_of_there h hfault
  unfold makeDirectories at hmade
  rw [List.reverse_reverse] at hmade
  exact hmade

/-- If the last directory is made at once, or is there, then so are those above it. -/
theorem makeAll_of_madeLast (h : fs.MadeLast ⟨absolute, (part :: up).reverse, []⟩ made) :
    makeAll absolute up fs = (.ok (), fs) := by
  have habove : fs.There ⟨absolute, up.reverse, []⟩ ∧
      FilePath.fault? ⟨absolute, up.reverse ++ [part], []⟩ = none := by
    rw [List.reverse_cons] at h
    obtain hmake | ⟨hdirectory, -⟩ := h
    · obtain ⟨⟨dir, last⟩, hparent, -⟩ := bind_eq_ok.1 hmake
      exact there_of_locateParent hparent
    · obtain ⟨hthere, hfault⟩ := there_of_isDirectory hdirectory
      obtain ⟨next, hnext, hn⟩ := exists_of_follow_append hthere.follow
      obtain rfl := eq_walk_of_follow hnext
      exact ⟨⟨hnext, (enter_eq_ok hn).1⟩, hfault⟩
  exact makeAll_of_there habove.1 (FilePath.fault?_of_append habove.2)

theorem keeps_makeAll (absolute : Bool) (parts : List FilePath.Segment) (fs : FileSystem) :
    Keeps fs (makeAll absolute parts fs).2 :=
  makeAll_related Keeps Keeps.refl (fun _ _ _ => Keeps.trans)
    (fun _ _ _ _ _ => keeps_makeDirectory) fs

/-- The way to a place ends before it, or nothing is there. -/
def Missing (fs : FileSystem) (p : FilePath) : Prop :=
  fs.follow (start p) p.parts = .error .notFound ∨
    fs.follow (start p) p.parts = .ok p.place ∧ fs.node? p.place = none

/-- A directory that is there was there before directories were made, or it was missing. -/
theorem there_or_missing_of_keeps (hk : Keeps fs fs₁) (h : fs₁.There p) :
    fs.There p ∨ fs.Missing p := by
  obtain hfollow | hfollow := follow_of_keeps hk h.follow
  · rcases hnode : fs.node? p.place with _ | bytes | _
    · exact .inr (.inr ⟨hfollow, hnode⟩)
    · -- a file would still be there
      have hdirectory := h.directory
      rw [hk _ _ hnode] at hdirectory
      cases hdirectory
    · exact .inl ⟨hfollow, hnode⟩
  · exact .inr (.inl hfollow)

/-- Where the directory above is missing, none can be made. -/
theorem makeDirectory_of_missing (hmissing : fs.Missing ⟨absolute, up, []⟩)
    (hfault : FilePath.fault? ⟨absolute, up ++ [part], []⟩ = none) :
    fs.makeDirectory ⟨absolute, up ++ [part], []⟩ = .error .notFound := by
  have hstart : start ⟨absolute, up ++ [part], []⟩ = start ⟨absolute, up, []⟩ := rfl
  unfold makeDirectory locateParent
  rw [hfault]
  simp only [List.getLast?_concat, List.dropLast_concat, hstart]
  obtain hfollow | ⟨hfollow, hnone⟩ := hmissing
  · rw [hfollow]
    rfl
  · rw [hfollow, ok_bind, hnone]
    rfl

/-- A directory that did not lack the one above it, and is made or there once those above it are,
had all of them before. -/
theorem eq_of_makeAll_of_madeLast
    (h : fs.makeDirectory ⟨absolute, (part :: up).reverse, []⟩ ≠ .error .notFound)
    (habove : makeAll absolute up fs = (.ok (), above))
    (hlast : above.MadeLast ⟨absolute, (part :: up).reverse, []⟩ made) : above = fs := by
  have hkeeps : Keeps fs above := by
    have hkept := keeps_makeAll absolute up fs
    rw [habove] at hkept
    exact hkept
  rw [List.reverse_cons] at h hlast
  have hsound := (there_of_madeLast hlast).2
  have hfound : fs.There ⟨absolute, up.reverse, []⟩ := by
    obtain hthere | hmissing := there_or_missing_of_keeps hkeeps (there_of_makeAll habove).1
    · exact hthere
    · exact absurd (makeDirectory_of_missing hmissing hsound) h
  -- where those above were there, nothing was made
  have hnothing := makeAll_of_there hfound (FilePath.fault?_of_append hsound)
  rw [habove] at hnothing
  exact (Prod.ext_iff.1 hnothing).2

/-- **Directories are made from the top down**: those above the last one, and then this, unless it
is there. -/
theorem makeAll_cons_eq_ok_iff :
    makeAll absolute (part :: up) fs = (.ok (), made) ↔
      ∃ above, makeAll absolute up fs = (.ok (), above) ∧
        above.MadeLast ⟨absolute, (part :: up).reverse, []⟩ made := by
  by_cases hmissing : fs.makeDirectory ⟨absolute, (part :: up).reverse, []⟩ = .error .notFound
  · exact makeAll_eq_ok_of_missing hmissing
  · rw [makeAll_eq_ok_of_not_missing hmissing]
    constructor
    · exact fun hlast => ⟨fs, makeAll_of_madeLast hlast, hlast⟩
    · rintro ⟨above, habove, hlast⟩
      obtain rfl := eq_of_makeAll_of_madeLast hmissing habove hlast
      exact hlast

/-! ## More directories -/

/-- **The way to a directory is no less open**: there are all the directories that there were, and
no file is on the way where nothing was. -/
structure Opens (p : FilePath) (fs fs₁ : FileSystem) : Prop where
  directories : DirectoriesIn fs fs₁
  missing : ∀ place ∈ placesAlong p, fs.node? place = none →
    ∀ bytes, fs₁.node? place ≠ some (.file bytes)

theorem locateParent_mono {last : Option String} (hd : DirectoriesIn fs fs₁)
    (h : fs.locateParent p = .ok (place, last)) : fs₁.locateParent p = .ok (place, last) := by
  unfold locateParent at h ⊢
  split at h
  · cases h
  · split at h
    · exact h
    · rename_i last hlast
      obtain ⟨dir, hdir, h⟩ := bind_eq_ok.1 h
      rw [follow_mono hd hdir, ok_bind]
      split at h
      · cases h
      · cases h
      · rename_i hnode
        rw [hd _ hnode]
        exact h

/-- The directory that could be made can be made where nothing is. -/
theorem makeDirectory_mono (hd : DirectoriesIn fs fs₁) (h : fs.makeDirectory p = .ok fs')
    (hnone : fs₁.node? p.place = none) :
    fs₁.makeDirectory p = .ok (fs₁.put p.place .directory) := by
  obtain ⟨⟨dir, _ | name⟩, hl, h⟩ := bind_eq_ok.1 h
  · cases h
  · obtain ⟨target, hn, -⟩ := bind_eq_ok.1 h
    obtain ⟨rfl, -⟩ := locate_of_locateParent hl hn
    have hdir := (enter_eq_ok hn).1
    have hn₁ : fs₁.enter dir name = .ok p.place := (enter_congr hdir (hd _ hdir)).trans hn
    rw [makeDirectory, locateParent_mono hd hl, ok_bind]
    dsimp only
    rw [hn₁, ok_bind, hnone]
    rfl

/-- The file that could be written can be written where no directory is. -/
theorem writeFile_mono (hd : DirectoriesIn fs fs₁) (h : fs.writeFile p bytes = .ok fs')
    (hfree : fs₁.node? p.place ≠ some .directory) :
    fs₁.writeFile p bytes = .ok (fs₁.put p.place (.file bytes)) := by
  obtain ⟨⟨dir, _ | name⟩, hl, h⟩ := bind_eq_ok.1 h
  · cases h
  · dsimp only at h
    split at h
    · cases h
    · rename_i hfile
      obtain ⟨target, hn, -⟩ := bind_eq_ok.1 h
      obtain ⟨rfl, -⟩ := locate_of_locateParent hl hn
      have hdir := (enter_eq_ok hn).1
      have hn₁ : fs₁.enter dir name = .ok p.place := (enter_congr hdir (hd _ hdir)).trans hn
      rw [writeFile, locateParent_mono hd hl, ok_bind]
      dsimp only
      rw [if_neg hfile, hn₁, ok_bind, if_neg hfree]

/-- **No file comes of making directories**, and none goes. -/
theorem node?_makeAll_eq_file_iff :
    (makeAll absolute parts fs).2.node? place = some (.file bytes) ↔
      fs.node? place = some (.file bytes) := by
  refine ⟨?_, keeps_makeAll absolute parts fs place _⟩
  refine makeAll_related
    (fun fs fs' => fs'.node? place = some (.file bytes) → fs.node? place = some (.file bytes))
    (fun _ => id) (fun _ _ _ h h' hfile => h (h' hfile)) ?_ fs
  intro up _ _ fs fs' hmake hfile
  obtain ⟨-, hnone, rfl⟩ := makeDirectory_eq_ok hmake
  by_cases heq : place = FilePath.place ⟨absolute, up.reverse, []⟩
  · subst heq
    rw [node?_put_self _ _ (isGiven_eq_false (ne_directory_of_none hnone))] at hfile
    cases hfile
  · rw [node?_put_of_ne _ _ heq] at hfile
    exact hfile

/-- **One directory more**: it is made, or it is there by now. -/
theorem MadeLast.of_directoriesIn (hd : DirectoriesIn fs fs₁) (h : fs.MadeLast p made)
    (hfile : fs.node? p.place = none → ∀ bytes, fs₁.node? p.place ≠ some (.file bytes)) :
    ∃ made₁, fs₁.MadeLast p made₁ ∧ DirectoriesIn made made₁ := by
  obtain hmake | ⟨hdirectory, rfl⟩ := h
  · obtain ⟨hlocate, hnone, rfl⟩ := makeDirectory_eq_ok hmake
    rcases hnode : fs₁.node? p.place with _ | bytes | _
    · refine ⟨_, .inl (makeDirectory_mono hd hmake hnode), fun place hplace => ?_⟩
      have hfree := ne_directory_of_none hnode
      by_cases heq : place = p.place
      · rw [heq, node?_put_self _ _ (isGiven_eq_false hfree)]
      · rw [node?_put_of_ne _ _ heq] at hplace ⊢
        exact hd _ hplace
    · exact absurd hnode (hfile hnone bytes)
    · obtain ⟨hfault, hfollow⟩ := locate_eq_ok.1 hlocate
      have hthere : fs₁.There p := ⟨follow_mono hd hfollow, hnode⟩
      refine ⟨fs₁, .inr ⟨isDirectory_of_there hthere hfault, rfl⟩, fun place hplace => ?_⟩
      by_cases heq : place = p.place
      · rw [heq, hnode]
      · rw [node?_put_of_ne _ _ heq] at hplace
        exact hd _ hplace
  · obtain ⟨hthere, hfault⟩ := there_of_isDirectory hdirectory
    exact ⟨fs₁, .inr ⟨isDirectory_of_there (hthere.mono hd) hfault, rfl⟩, hd⟩

/-- **A directory that could be made can be made** where the way to it is no less open. -/
theorem makeAll_of_opens (hopens : Opens ⟨absolute, parts.reverse, []⟩ fs fs₁)
    (h : makeAll absolute parts fs = (.ok (), made)) :
    ∃ made₁, makeAll absolute parts fs₁ = (.ok (), made₁) ∧ DirectoriesIn made made₁ := by
  induction parts generalizing made with
  | nil =>
    obtain rfl := (Prod.ext_iff.1 h).2
    exact ⟨fs₁, rfl, hopens.directories⟩
  | cons part up ih =>
    obtain ⟨above, habove, hlast⟩ := makeAll_cons_eq_ok_iff.1 h
    have hway : ∀ place ∈ placesAlong ⟨absolute, up.reverse, []⟩,
        place ∈ placesAlong ⟨absolute, (part :: up).reverse, []⟩ := by
      intro place hplace
      rw [placesAlong, List.reverse_cons, go_append]
      exact List.mem_append_left _ hplace
    obtain ⟨above₁, habove₁, hd⟩ := ih
      ⟨hopens.directories, fun place hplace => hopens.missing place (hway place hplace)⟩ habove
    have hkeeps : Keeps fs above := by
      have hkept := keeps_makeAll absolute up fs
      rw [habove] at hkept
      exact hkept
    obtain ⟨made₁, hlast₁, hmade⟩ := hlast.of_directoriesIn hd fun hnone bytes hfile => by
      -- a file that is on the way now was there before, and then it was on the way before
      rw [show above₁ = (makeAll absolute up fs₁).2 from congrArg Prod.snd habove₁.symm,
        node?_makeAll_eq_file_iff] at hfile
      rcases hnode : fs.node? (FilePath.place ⟨absolute, (part :: up).reverse, []⟩) with _ | node
      · have hmem : FilePath.place ⟨absolute, (part :: up).reverse, []⟩ ∈
            placesAlong ⟨absolute, (part :: up).reverse, []⟩ :=
          walk_mem_go (by simp)
        exact hopens.missing _ hmem hnode bytes hfile
      · rw [hkeeps _ _ hnode] at hnone
        cases hnone
    exact ⟨made₁, makeAll_cons_eq_ok_iff.2 ⟨above₁, habove₁, hlast₁⟩, hmade⟩

end FileSystem

namespace AttachmentFiles

open FileSystem

variable {path : String} {fs fs' fs₁ : FileSystem} {bytes : List UInt8}

/-- A file was written: its directory was made, or was there, and then the file was written. -/
theorem writeFile_eq_true (h : writeFile path bytes fs = (true, fs')) :
    ∃ made, fs.makeDirectories (FilePath.ofText path).parent = (.ok (), made) ∧
      made.writeFile (.ofText path) bytes = .ok fs' := by
  unfold writeFile at h
  dsimp only at h
  rcases hm : fs.makeDirectories (FilePath.ofText path).parent with ⟨fault | ⟨⟩, made⟩
  · rw [hm] at h
    cases h
  · rw [hm] at h
    dsimp only at h
    rcases hw : made.writeFile (.ofText path) bytes with fault | written
    · rw [hw] at h
      cases h
    · rw [hw] at h
      obtain rfl := (Prod.ext_iff.1 h).2
      exact ⟨made, rfl, hw⟩

/-- The file can be written, whatever is to be in it. -/
def Writable (path : String) (fs : FileSystem) : Prop :=
  ∀ bytes, (writeFile path bytes fs).1 = true

/-- **A file that could be written can be written** where the way to it is no less open and no
directory is in its place. -/
theorem writable_of_opens (h : Writable path fs)
    (hopens : Opens (FilePath.ofText path).parent fs fs₁)
    (hfree : fs₁.node? (FilePath.ofText path).place ≠ some .directory) : Writable path fs₁ := by
  intro bytes
  obtain ⟨made, hmade, hwrite⟩ := writeFile_eq_true (Prod.ext (h bytes) rfl)
  have hthere := (there_of_makeDirectories hmade).1
  -- the way to the file does not go through its own place
  have hnot : (FilePath.ofText path).place ∉ placesAlong (FilePath.ofText path).parent := by
    intro hmem
    exact (writeFile_eq_ok hwrite).2.2.1
      (directory_along hthere.follow hthere.directory _ (List.mem_cons_of_mem _ hmem))
  have hopens' : Opens ⟨(FilePath.ofText path).parent.absolute,
      (FilePath.ofText path).parent.parts.reverse.reverse, []⟩ fs fs₁ := by
    rw [List.reverse_reverse]
    exact hopens
  obtain ⟨made₁, hmade₁, hd⟩ := makeAll_of_opens hopens' hmade
  have hmade₁' : fs₁.makeDirectories (FilePath.ofText path).parent = (.ok (), made₁) := hmade₁
  have hfree₁ : made₁.node? (FilePath.ofText path).place ≠ some .directory := by
    have hsame : (fs₁.makeDirectories (FilePath.ofText path).parent).2.node?
        (FilePath.ofText path).place = fs₁.node? (FilePath.ofText path).place :=
      node?_makeDirectories_of_notMem hnot
    rw [hmade₁'] at hsame
    rw [hsame]
    exact hfree
  unfold writeFile
  dsimp only
  rw [hmade₁']
  dsimp only
  rw [writeFile_mono hd hwrite hfree₁]

end AttachmentFiles

end VisualRegression
