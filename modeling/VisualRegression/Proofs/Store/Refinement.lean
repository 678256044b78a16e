import VisualRegression.Proofs.FileSystem.Making
import VisualRegression.Proofs.FileSystem.Naming
import VisualRegression.Proofs.Png.Codec
import VisualRegression.Proofs.Store.Calls
import VisualRegression.Proofs.Store.Directory

/-!
# A directory of baselines does as a store in memory

Each baseline has a file of its own, and another one while it is written; no two of all these names
are the same (`BaselineFile.name_inj`).  So a directory that is there and has the files of some
baselines and nothing under the other names (`BaselineDirectory.Holds`) loads these baselines, and a
save leads from one such state to the next.  Before the first save the
directory may be missing; `Mirrors` is the relation that covers this too, and by it a directory
simulates a store in memory (`simulates_memory`).  `serve_eq_memory` says what this comes to for a
directory that was empty or missing at first.
-/

namespace VisualRegression

open FileSystem

/-- A name that a baseline can have in a directory: the name of its file is not too long and has no
null character. -/
structure BaselineKey.Storable (key : BaselineKey) : Prop where
  parsed : ∃ text, BaselineKey.parse text = .ok key
  short : (BaselineFile.kept.name key).utf8ByteSize ≤ FilePath.maxNameLength
  no_null : '\x00' ∉ (BaselineFile.kept.name key).toList

/-- A call for one of certain names that saves none but an image with pixels. -/
def StoreCall.Proper (keys : BaselineKey → Prop) : StoreCall → Prop
  | load key => keys key
  | save key img => keys key ∧ img.isEmpty = false

/-! ## The names of the files -/

namespace BaselineFile

variable {key other : BaselineKey} {file file' : BaselineFile}

/-- The name of a file ends as its extension does. -/
theorem getLast?_name (file : BaselineFile) (key : BaselineKey) :
    (file.name key).toList.getLast? = some (match file with | kept => 'g' | temporary => 'p') := by
  cases file <;> simp [name, extension, String.toList_append]

/-- No file of a baseline stands for the directory above. -/
theorem name_ne_up (file : BaselineFile) (key : BaselineKey) : file.name key ≠ ".." := by
  intro hup
  have hlast := getLast?_name file key
  rw [hup] at hlast
  cases file <;> cases hlast

/-- **Each file has a name of its own**, also those of different baselines. -/
theorem name_inj : file.name key = file'.name other ↔ file = file' ∧ key = other := by
  constructor
  · intro h
    have hfile : file = file' := by
      have hlast := getLast?_name file key
      rw [h, getLast?_name] at hlast
      cases file <;> cases file' <;> first | rfl | cases hlast
    subst hfile
    have htext := (String.append_left_inj file.extension).1 h
    cases key
    cases other
    exact ⟨rfl, congrArg BaselineKey.mk htext⟩
  · rintro ⟨rfl, rfl⟩
    rfl

/-- The names of the files of a baseline have as many bytes. -/
theorem utf8ByteSize_name (file : BaselineFile) (key : BaselineKey) :
    (file.name key).utf8ByteSize = key.text.utf8ByteSize + 4 := by
  cases file <;> exact String.utf8ByteSize_append

end BaselineFile

namespace BaselineDirectory

open BaselineFile (name_ne_up)

/-- **A name that is accepted is a single one**: the file is where its text leads. -/
theorem ofText_fileText {d : BaselineDirectory} {key : BaselineKey} {text : String}
    (h : BaselineKey.parse text = .ok key) : FilePath.ofText (d.fileText key) = d.filePath key := by
  obtain ⟨-, hpath, rfl⟩ := BaselineKey.parse_ok_iff.1 h
  refine FilePath.ofText_joinText ?_ ?_
  · rw [BaselineFile.name, String.toList_append, String.toList_ofList, List.mem_append, not_or]
    exact ⟨fun hsep => hpath (.inl hsep), by decide⟩
  · refine Bool.eq_false_iff.2 fun hidle => ?_
    have hlast := BaselineFile.getLast?_name .kept ⟨String.ofList (Text.trim text.toList)⟩
    rcases Bool.or_eq_true_iff.1 hidle with hname | hname
    all_goals
      rw [beq_iff_eq.1 hname] at hlast
      cases hlast

/-- The directory as a path. -/
def directory (d : BaselineDirectory) : FilePath := FilePath.ofText d.root

/-- The way to the directory can be looked up, and so can the files of these baselines in it. -/
structure Usable (d : BaselineDirectory) (keys : BaselineKey → Prop) : Prop where
  sound : d.directory.parts = [] ∨
    FilePath.fault? ⟨d.directory.absolute, d.directory.parts, []⟩ = none
  fits : ∀ key, keys key → ∀ file : BaselineFile, d.directory.Fits (file.name key)

/-- **Both names of a baseline are fit for a directory that has room for them.** -/
theorem Usable.of_storable {d : BaselineDirectory} {keys : BaselineKey → Prop}
    (sound : d.directory.parts = [] ∨
      FilePath.fault? ⟨d.directory.absolute, d.directory.parts, []⟩ = none)
    (room : d.directory.length + 1 + FilePath.maxNameLength ≤ FilePath.maxLength)
    (hkeys : ∀ key, keys key → key.Storable) : d.Usable keys where
  sound := sound
  fits key hkey file := by
    obtain ⟨-, hshort, hnull⟩ := hkeys key hkey
    rw [BaselineFile.utf8ByteSize_name] at hshort
    have hshort' : (file.name key).utf8ByteSize ≤ FilePath.maxNameLength := by
      rw [BaselineFile.utf8ByteSize_name]
      exact hshort
    have hnull' : '\x00' ∉ (file.name key).toList := by
      unfold BaselineFile.name at hnull ⊢
      rw [String.toList_append, List.mem_append, not_or] at hnull ⊢
      exact ⟨hnull.1, by cases file <;> decide⟩
    refine ⟨name_ne_up file key, hshort',
      FilePath.fault?_join ?_ (by simpa using hnull') (by omega)⟩
    rcases sound with hparts | hfault
    · simp [hparts]
    · have hparts := FilePath.contains_null_of_fault? hfault
      exact hparts

section

variable [WorkingDirectory]

variable {d : BaselineDirectory} {codec : ImageCodec} {keys : BaselineKey → Prop}
  {key other : BaselineKey} {file file' : BaselineFile} {img : Image} {fs : FileSystem}
  {baselines : Baselines}

/-- The files of baselines are in the directory. -/
theorem place_path (d : BaselineDirectory) (file : BaselineFile) (key : BaselineKey) :
    (d.path file key).place = d.directory.place ++ [file.name key] :=
  place_join_of_ne_up d.directory (name_ne_up file key)

/-- **Each file has a place of its own.** -/
theorem place_path_inj : (d.path file key).place = (d.path file' other).place ↔
    file = file' ∧ key = other := by
  rw [place_path, place_path, List.append_cancel_left_eq, List.singleton_inj, BaselineFile.name_inj]

/-! ## What a save changes -/

theorem makeDirectories_parent (d : BaselineDirectory) (key : BaselineKey) (fs : FileSystem) :
    fs.makeDirectories (d.filePath key).parent = fs.makeDirectories d.directory := by
  have hparent : (d.filePath key).parent = ⟨d.directory.absolute, d.directory.parts, []⟩ :=
    FilePath.parent_join _ _
  rw [hparent]
  rfl

theorem write_of_makeDirectories {fs' : FileSystem} {bytes : List UInt8}
    (h : fs.makeDirectories d.directory = (.ok (), fs')) :
    d.write key bytes fs =
      match fs'.writeFile (d.temporaryPath key) bytes with
      | .error fault => (.error fault, fs')
      | .ok fs' =>
        match fs'.moveFile (d.temporaryPath key) (d.filePath key) with
        | .error fault => (.error fault, fs')
        | .ok fs' => (.ok (), fs') := by
  unfold write
  rewrite [makeDirectories_parent, h]
  rfl

/-- An image is saved if it can be encoded and its file be written. -/
theorem save_of_write {fs' : FileSystem} {bytes : List UInt8}
    (hencode : codec.encode img = .ok bytes) (hwrite : d.write key bytes fs = (.ok (), fs')) :
    d.save codec key img fs = (.ok (), fs') := by
  unfold save
  rw [hencode]
  dsimp only
  rw [hwrite]
  rfl

/-- **A file is written in a directory that is there**, and nothing else changes. -/
theorem exists_write (hd : d.Usable keys) (hthere : fs.There d.directory) (hkey : keys key)
    (hfree : ∀ file, fs.node? (d.path file key).place ≠ some .directory) (bytes : List UInt8) :
    ∃ fs', d.write key bytes fs = (.ok (), fs') ∧ fs'.There d.directory ∧
      fs'.node? (d.filePath key).place = some (.file bytes) ∧
      fs'.node? (d.temporaryPath key).place = none ∧
      ∀ place, (∀ file, place ≠ (d.path file key).place) → fs'.node? place = fs.node? place := by
  have hfits := hd.fits key hkey
  have hgiven : ∀ file, isGiven (d.path file key).place = false :=
    fun file => isGiven_eq_false (hfree file)
  have hne : (d.filePath key).place ≠ (d.temporaryPath key).place := by
    simp [place_path_inj]
  -- the file is written under its other name first and moved from there
  have hwrite : fs.writeFile (d.temporaryPath key) bytes =
      .ok (fs.put (d.temporaryPath key).place (.file bytes)) :=
    writeFile_join hthere (hfits .temporary) (hfree .temporary) bytes
  have hthere₁ := hthere.mono (directoriesIn_writeFile hwrite)
  have hwritten := node?_put_self fs (.file bytes) (hgiven .temporary)
  have htarget : (fs.put (d.temporaryPath key).place (.file bytes)).node? (d.filePath key).place ≠
      some .directory := by
    rw [node?_put_of_ne _ _ hne]
    exact hfree .kept
  have hmove : (fs.put (d.temporaryPath key).place (.file bytes)).moveFile (d.temporaryPath key)
      (d.filePath key) = .ok _ :=
    moveFile_join hthere₁ (hfits .temporary) (hfits .kept) hwritten htarget
  refine ⟨_, ?_, hthere₁.mono (directoriesIn_moveFile hmove),
    node?_put_self _ _ (hgiven .kept), ?_, fun place hplace => ?_⟩
  · rw [write_of_makeDirectories (makeDirectories_of_there hthere hd.sound), hwrite]
    dsimp only
    rw [hmove]
  · exact (node?_put_of_ne _ _ hne.symm).trans (node?_erase_self _ (hgiven .temporary))
  · exact (node?_put_of_ne _ _ (hplace .kept)).trans
      ((node?_erase_of_ne (hplace .temporary)).trans (node?_put_of_ne _ _ (hplace .temporary)))

/-! ## A directory that is there -/

/-- What is at the place of a baseline: nothing, or a file with the image. -/
inductive Shows (codec : ImageCodec) : Option Node → Option Image → Prop
  | missing : Shows codec none none
  | stored {bytes : List UInt8} {img : Image} (h : codec.decode bytes = .ok img) :
    Shows codec (some (.file bytes)) (some img)

omit [WorkingDirectory] in
theorem Shows.ne_directory {node : Option Node} {found : Option Image}
    (h : Shows codec node found) : node ≠ some .directory := by
  cases h <;> exact nofun

/-- **The directory has these baselines**, as far as they are among certain ones, and nothing where
it is to write these. -/
structure Holds (d : BaselineDirectory) (codec : ImageCodec) (keys : BaselineKey → Prop)
    (fs : FileSystem) (baselines : Baselines) : Prop where
  usable : d.Usable keys
  there : fs.There d.directory
  files : ∀ key, keys key → Shows codec (fs.node? (d.filePath key).place) (baselines.get? key)
  free : ∀ key, keys key → fs.node? (d.temporaryPath key).place = none

theorem Holds.makeDirectories (h : d.Holds codec keys fs baselines) :
    fs.makeDirectories d.directory = (.ok (), fs) :=
  makeDirectories_of_there h.there h.usable.sound

/-- **A directory loads the baselines that it has.** -/
theorem Holds.load (h : d.Holds codec keys fs baselines) (hkey : keys key) :
    d.load codec key fs = .ok (baselines.get? key) := by
  have hfits := h.usable.fits key hkey .kept
  have hfile := h.files key hkey
  generalize hn : fs.node? (d.filePath key).place = node at hfile
  generalize baselines.get? key = found at hfile
  cases hfile with
  | missing => exact load_eq_none.2 (readFile_of_keeps (Keeps.refl fs) h.there hfits hn)
  | stored hdecode =>
    exact load_eq_some.2 ⟨_, readFile_eq_ok.2 (find_join h.there hfits hn), hdecode⟩

/-- **A directory keeps one more baseline**, and no other one changes. -/
theorem Holds.save (hcodec : codec.Lossless) (h : d.Holds codec keys fs baselines)
    (hkey : keys key) (hpixels : img.isEmpty = false) :
    ∃ fs', d.save codec key img fs = (.ok (), fs') ∧
      d.Holds codec keys fs' (baselines.insert key img) := by
  obtain ⟨bytes, hencode, hdecode⟩ := hcodec.decode_encode img hpixels
  have hfree : ∀ file, fs.node? (d.path file key).place ≠ some .directory := by
    intro file
    cases file with
    | kept => exact (h.files key hkey).ne_directory
    | temporary => exact ne_directory_of_none (h.free key hkey)
  obtain ⟨fs', hwrite, hthere, hfile, hgone, hother⟩ :=
    exists_write h.usable h.there hkey hfree bytes
  -- the files of other baselines are elsewhere
  have hsame : ∀ other, other ≠ key → ∀ file,
      fs'.node? (d.path file other).place = fs.node? (d.path file other).place :=
    fun other hne file => hother _ fun file' hplace => hne (place_path_inj.1 hplace).2
  refine ⟨fs', ?_, h.usable, hthere, fun other hkey' => ?_, fun other hkey' => ?_⟩
  · exact save_of_write hencode hwrite
  · by_cases hne : other = key
    · rw [hne, hfile, OrderedMap.get?_insert_self]
      exact .stored hdecode
    · rw [OrderedMap.get?_insert_of_ne _ _ hne, hsame other hne .kept]
      exact h.files other hkey'
  · by_cases hne : other = key
    · rw [hne, hgone]
    · rw [hsame other hne .temporary]
      exact h.free other hkey'

/-! ## A directory that may be missing -/

/-- **The directory has these baselines once it is made**; where it is not made yet there are
none. -/
structure Mirrors (d : BaselineDirectory) (codec : ImageCodec) (keys : BaselineKey → Prop)
    (fs : FileSystem) (baselines : Baselines) : Prop where
  made : (fs.makeDirectories d.directory).1 = .ok ()
  holds : d.Holds codec keys (fs.makeDirectories d.directory).2 baselines
  settled : (fs.makeDirectories d.directory).2 = fs ∨ baselines = ∅

theorem Holds.mirrors (h : d.Holds codec keys fs baselines) :
    d.Mirrors codec keys fs baselines where
  made := by rw [h.makeDirectories]
  holds := by
    rw [h.makeDirectories]
    exact h
  settled := by
    rw [h.makeDirectories]
    exact .inl rfl

theorem Mirrors.load (h : d.Mirrors codec keys fs baselines) (hkey : keys key) :
    d.load codec key fs = .ok (baselines.get? key) := by
  have hholds := h.holds
  rcases h.settled with hfs | rfl
  · rw [hfs] at hholds
    exact hholds.load hkey
  · -- nothing is found where the file would be, or the way to it is not there yet
    have hfile := hholds.files key hkey
    generalize hn : FileSystem.node? _ _ = node at hfile
    cases hfile
    exact load_eq_none.2 (readFile_of_keeps (keeps_makeDirectories fs _) hholds.there
      (hholds.usable.fits key hkey .kept) hn)

theorem Mirrors.save (hcodec : codec.Lossless) (h : d.Mirrors codec keys fs baselines)
    (hkey : keys key) (hpixels : img.isEmpty = false) :
    (d.save codec key img fs).1 = .ok () ∧
      d.Mirrors codec keys (d.save codec key img fs).2 (baselines.insert key img) := by
  obtain ⟨fs', hsave, hholds⟩ := h.holds.save hcodec hkey hpixels
  obtain ⟨bytes, hencode, hwrite⟩ := save_eq_ok hsave
  -- to write makes the directory first, so that it makes no difference to have made it before
  have hfirst : d.write key bytes fs = (.ok (), fs') := by
    rw [write_of_makeDirectories (Prod.ext h.made rfl), ← hwrite,
      write_of_makeDirectories h.holds.makeDirectories]
  rw [save_of_write hencode hfirst]
  exact ⟨rfl, hholds.mirrors⟩

/-- **A directory simulates a store in memory.** -/
theorem simulates_memory (hcodec : codec.Lossless) :
    (d.store codec).Simulates BaselineStore.memory (StoreCall.Proper keys)
      (d.Mirrors codec keys) where
  answers := by
    intro call fs baselines hcall h
    cases call with
    | load key => exact congrArg StoreAnswer.loaded (h.load hcall)
    | save key img => exact congrArg StoreAnswer.saved (h.save hcodec hcall.1 hcall.2).1
  states := by
    intro call fs baselines hcall h
    cases call with
    | load key => exact h
    | save key img => exact (h.save hcodec hcall.1 hcall.2).2

/-! ## A directory that is empty or missing at first -/

/-- The directory is empty or missing, as far as certain baselines are concerned: it can be made,
the names of their files can be given to files, none of these is there, and the way to the directory
does not lead through any of them. -/
structure Fresh (d : BaselineDirectory) (keys : BaselineKey → Prop) (fs : FileSystem) : Prop where
  made : (fs.makeDirectories d.directory).1 = .ok ()
  room : d.directory.length + 1 + FilePath.maxNameLength ≤ FilePath.maxLength
  storable : ∀ key, keys key → key.Storable
  empty : ∀ key, keys key → ∀ file, fs.node? (d.path file key).place = none
  apart : ∀ key, keys key → ∀ file, (d.path file key).place ∉ placesAlong d.directory

/-- A directory without anything in it, or without being there, is fresh for all baselines if the
way to it never goes up. -/
theorem Fresh.of_ne_up (made : (fs.makeDirectories d.directory).1 = .ok ())
    (room : d.directory.length + 1 + FilePath.maxNameLength ≤ FilePath.maxLength)
    (empty : ∀ name, fs.node? (d.directory.place ++ [name]) = none)
    (hup : ∀ part ∈ d.directory.parts, part.name ≠ "..") : d.Fresh BaselineKey.Storable fs where
  made := made
  room := room
  storable _ := id
  empty key _ file := by
    rw [place_path]
    exact empty _
  apart key _ file hmem := by
    have hle : (d.path file key).place.length ≤ d.directory.place.length :=
      length_le_of_mem_go hup hmem
    rw [place_path, List.length_append, List.length_singleton] at hle
    omega

theorem Fresh.mirrors (h : d.Fresh keys fs) : d.Mirrors codec keys fs ∅ := by
  obtain ⟨hthere, hsound⟩ := there_of_makeDirectories (Prod.ext h.made rfl)
  have hnone : ∀ key, keys key → ∀ file,
      (fs.makeDirectories d.directory).2.node? (d.path file key).place = none := by
    intro key hkey file
    rw [node?_makeDirectories_of_notMem (h.apart key hkey file), h.empty key hkey file]
  refine ⟨h.made, ⟨.of_storable hsound h.room h.storable, hthere, fun key hkey => ?_,
    fun key hkey => hnone key hkey .temporary⟩, .inr rfl⟩
  rw [hnone key hkey .kept]
  exact .missing

/-- **A directory of baselines does as a store in memory.**  In a directory that was empty or
missing at first, and to which nothing else writes, calls for the baselines that it can have are
answered as in memory, each of them.  So what is loaded is the image that the latest call saved
under the name, and to save under one name makes no difference to any other one. -/
theorem serve_eq_memory (hcodec : codec.Lossless) (hfresh : d.Fresh keys fs)
    (calls : List StoreCall) (hcalls : ∀ call ∈ calls, call.Proper keys) :
    ((d.store codec).serve calls fs).1 = (BaselineStore.memory.serve calls ∅).1 ∧
      (∀ key, keys key →
        d.load codec key ((d.store codec).serve calls fs).2 = .ok (StoreCall.latest? key calls)) ∧
      ∀ key other img, keys key → (StoreCall.save other img).Proper keys → key ≠ other →
        d.load codec key (d.save codec other img ((d.store codec).serve calls fs).2).2 =
          d.load codec key ((d.store codec).serve calls fs).2 := by
  obtain ⟨hanswers, hmirrors⟩ := (simulates_memory hcodec).serve hcalls hfresh.mirrors
  refine ⟨hanswers, fun key hkey => ?_, fun key other img hkey hsave hne => ?_⟩
  · rw [hmirrors.load hkey, BaselineStore.get?_serve_memory]
    exact congrArg Except.ok (Option.or_none)
  · rw [hmirrors.load hkey, (hmirrors.save hcodec hsave.1 hsave.2).2.load hkey,
      OrderedMap.get?_insert_of_ne _ _ hne]

end

namespace SevenCalls

/-- The program runs in a directory right below the top. -/
scoped instance workingDirectory : WorkingDirectory := ⟨["w"]⟩

/-- A directory that is missing at first, as the one above it is. -/
def shots : BaselineDirectory := ⟨"shots/baselines"⟩

def home : BaselineKey := ⟨"home"⟩

/-- A baseline whose name looks like that of the other one's file while it is written. -/
def homeTmp : BaselineKey := ⟨"home.tmp"⟩

def dark : Image := ⟨1, 1, #[⟨40, 40, 40, 255⟩], rfl⟩

def light : Image := ⟨2, 1, #[⟨255, 255, 255, 255⟩, ⟨255, 255, 255, 255⟩], rfl⟩

/-- Two baselines are saved and loaded, and one of them is replaced. -/
def calls : List StoreCall :=
  [.load home, .save home dark, .save homeTmp light, .load home, .save home light, .load homeTmp,
    .load home]

theorem storable_home : home.Storable := ⟨⟨" home ", rfl⟩, by decide, by decide⟩

theorem storable_homeTmp : homeTmp.Storable := ⟨⟨"home.tmp", rfl⟩, by decide, by decide⟩

theorem proper_calls : ∀ call ∈ calls, call.Proper BaselineKey.Storable := by
  simp only [calls, List.forall_mem_cons, StoreCall.Proper]
  exact ⟨storable_home, ⟨storable_home, rfl⟩, ⟨storable_homeTmp, rfl⟩, storable_home,
    ⟨storable_home, rfl⟩, storable_homeTmp, storable_home, fun _ h => by cases h⟩

theorem fresh_shots : shots.Fresh BaselineKey.Storable FileSystem.empty :=
  .of_ne_up rfl (by decide) (fun _ => rfl) (by decide)

end SevenCalls

open SevenCalls in
/-- The calls are answered as in memory, with files in a directory that the first save makes. -/
theorem serve_eq_memory_seven_calls :
    ((shots.store Png.codec).serve calls FileSystem.empty).1 =
        [.loaded (.ok none), .saved (.ok ()), .saved (.ok ()), .loaded (.ok (some dark)),
          .saved (.ok ()), .loaded (.ok (some light)), .loaded (.ok (some light))] ∧
      shots.load Png.codec home ((shots.store Png.codec).serve calls FileSystem.empty).2 =
        .ok (some light) ∧
      shots.load Png.codec home (shots.save Png.codec homeTmp dark
          ((shots.store Png.codec).serve calls FileSystem.empty).2).2 =
        .ok (some light) := by
  obtain ⟨hanswers, hlatest, hother⟩ :=
    serve_eq_memory Png.codec_lossless fresh_shots calls proper_calls
  have hhome := hlatest home storable_home
  refine ⟨hanswers.trans rfl, hhome, ?_⟩
  exact (hother home homeTmp dark storable_home ⟨storable_homeTmp, rfl⟩ (by decide)).trans hhome

end BaselineDirectory

end VisualRegression
