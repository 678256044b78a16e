import VisualRegression.Proofs.FileSystem.Growth
import VisualRegression.Proofs.Store.Lasting

/-!
# Saves that fail

A save makes the directory, writes the new file under its other name and moves it to its place, one
operation after the other (`BaselineDirectory.saving`), and each of them may be refused.  Until the
move all that has changed is what is new on the way to the directory and what is under the other
name (`Prepared`); the move replaces the file at once (`Replaced`).  So there is no turn at which
the file of a baseline is half written, and no other baseline is ever affected
(`always_writing`), as long as the way to the directory leads down from one that was there; where it
is blocked a save changes nothing (`always_writing_of_blocked`).  Main statement:
`save_all_or_nothing`.
-/

namespace VisualRegression.BaselineDirectory

open FileSystem FileProgram

section

variable [WorkingDirectory]

variable {d : BaselineDirectory} {codec : ImageCodec} {key other : BaselineKey} {img : Image}
  {bytes : List UInt8} {fs fs' fs₀ : FileSystem}

/-! ## A save, one operation after the other -/

/-- Writes the file of a baseline by way of another one. -/
def writing (d : BaselineDirectory) (key : BaselineKey) (bytes : List UInt8) :
    FileProgram (Except FileFault Unit) :=
  let parent := (d.filePath key).parent
  (making parent.absolute parent.parts.reverse).andThen <|
    (rewriting (d.temporaryPath key) bytes).andThen <|
      (once (.flush (d.temporaryPath key))).andThen <|
        once (.move (d.temporaryPath key) (d.filePath key))

/-- Keeps a baseline in its file. -/
def saving (d : BaselineDirectory) (codec : ImageCodec) (key : BaselineKey) (img : Image) :
    FileProgram (Except CheckFault Unit) :=
  match codec.encode img with
  | .error fault => .done (.error (.store (.unencodable (.codec fault))))
  | .ok bytes => (d.writing key bytes).bind fun written =>
    .done (written.mapError fun fault => .store (.unwritable (d.fileText key) fault))

theorem run_writing : (d.writing key bytes).run fs = d.write key bytes fs := by
  have hmaking : makeAll (d.filePath key).parent.absolute (d.filePath key).parent.parts.reverse fs =
    fs.makeDirectories (d.filePath key).parent := rfl
  unfold writing write
  dsimp only
  rw [run_andThen, run_making, hmaking]
  rcases fs.makeDirectories (d.filePath key).parent with ⟨fault | ⟨⟩, fs₁⟩
  · rfl
  · dsimp only
    rw [run_andThen, run_rewriting]
    rcases fs₁.writeFile (d.temporaryPath key) bytes with fault | fs₂
    · rfl
    · dsimp only [settle]
      rw [run_andThen]
      show settle fs₂ (fs₂.moveFile (d.temporaryPath key) (d.filePath key)) = _
      rcases fs₂.moveFile (d.temporaryPath key) (d.filePath key) with fault | fs₃ <;> rfl

/-- **On a disk that refuses nothing** a baseline is saved as it is at one go. -/
theorem run_saving : (d.saving codec key img).run fs = d.save codec key img fs := by
  unfold saving save
  rcases codec.encode img with fault | bytes
  · rfl
  · dsimp only
    rw [run_bind, run_writing]
    rfl

/-! ## What has changed at each turn -/

/-- **Before the file is moved** nothing is touched but the one under its other name. -/
def Prepared (d : BaselineDirectory) (key : BaselineKey) (fs fs' : FileSystem) : Prop :=
  Grows d.directory (· = (d.temporaryPath key).place) fs fs'

/-- **Once the file is moved** it is there with all its bytes, and nothing else is touched. -/
structure Replaced (d : BaselineDirectory) (key : BaselineKey) (bytes : List UInt8)
    (fs fs' : FileSystem) : Prop where
  grows : Grows d.directory
    (fun place => place = (d.temporaryPath key).place ∨ place = (d.filePath key).place) fs fs'
  file : fs'.readFile (d.filePath key) = .ok bytes

theorem Prepared.makeDirectory (h : d.Prepared key fs₀ fs) {up : List FilePath.Segment}
    (hup : up <:+ d.directory.parts.reverse) (hne : up ≠ [])
    (hmake : fs.makeDirectory ⟨d.directory.absolute, up.reverse, []⟩ = .ok fs') :
    d.Prepared key fs₀ fs' := by
  obtain ⟨-, hnone, rfl⟩ := makeDirectory_eq_ok hmake
  exact Grows.put_directory h hnone (place_mem_placesAlong hup hne)

theorem Prepared.writeFile (h : d.Prepared key fs₀ fs)
    (hwrite : fs.writeFile (d.temporaryPath key) bytes = .ok fs') : d.Prepared key fs₀ fs' :=
  Grows.of_untouched h (directoriesIn_writeFile hwrite) fun _ hother =>
    node?_writeFile_of_ne hwrite hother

theorem Prepared.appendFile (h : d.Prepared key fs₀ fs)
    (happend : fs.appendFile (d.temporaryPath key) bytes = .ok fs') : d.Prepared key fs₀ fs' := by
  obtain ⟨old, hread, rfl⟩ := appendFile_eq_ok happend
  have hfree := ne_directory_of_find (readFile_eq_ok.1 hread)
  exact Grows.of_untouched h (directoriesIn_put hfree _) fun _ hother => node?_put_of_ne _ _ hother

/-- **The move replaces the file at once.** -/
theorem Prepared.moveFile (h : d.Prepared key fs₀ fs)
    (hread : fs.readFile (d.temporaryPath key) = .ok bytes)
    (hmove : fs.moveFile (d.temporaryPath key) (d.filePath key) = .ok fs') :
    d.Replaced key bytes fs₀ fs' where
  grows := by
    have hgrows := Grows.mono h fun place hplace =>
      (.inl hplace : place = (d.temporaryPath key).place ∨ place = (d.filePath key).place)
    refine hgrows.of_untouched (directoriesIn_moveFile hmove) fun other hother => ?_
    obtain ⟨htemporary, hfile⟩ := not_or.1 hother
    obtain ⟨_, -, -, -, rfl⟩ := moveFile_eq_ok hmove
    rw [node?_put_of_ne _ _ hfile, node?_erase_of_ne htemporary]
  file := readFile_moveFile hmove asDirectory_filePath hread

/-- While the directory is made there is at every turn what each of those on the way leaves as it
is. -/
theorem always_makingParent {P I : FileSystem → Prop} (hP : ∀ fs, I fs → P fs)
    (hmade : ∀ up, up <:+ d.directory.parts.reverse → up ≠ [] → ∀ fs fs', I fs →
      fs.makeDirectory ⟨d.directory.absolute, up.reverse, []⟩ = .ok fs' → I fs')
    (hI : I fs) :
    Always P (Ends I I)
      (making (d.filePath key).parent.absolute (d.filePath key).parent.parts.reverse) fs := by
  have hparent : (d.filePath key).parent = ⟨d.directory.absolute, d.directory.parts, []⟩ :=
    FilePath.parent_join _ _
  rw [hparent]
  exact always_making hP hmade hI

/-- **At every turn of a write the files are prepared or replaced**, and replaced only at the end of
one that goes well. -/
theorem always_writing {P : FileSystem → Prop} (hprepared : ∀ fs, d.Prepared key fs₀ fs → P fs)
    (hreplaced : ∀ fs, d.Replaced key bytes fs₀ fs → P fs) :
    Always P (Ends (d.Replaced key bytes fs₀) (d.Prepared key fs₀)) (d.writing key bytes) fs₀ := by
  have hmaking : Always P (Ends (d.Prepared key fs₀) (d.Prepared key fs₀))
      (making (d.filePath key).parent.absolute (d.filePath key).parent.parts.reverse) fs₀ := by
    refine always_makingParent hprepared ?_ (Grows.refl _ _ _)
    intro up hup hne fs fs' h hmake
    exact h.makeDirectory hup hne hmake
  refine hmaking.andThen hprepared fun fs₁ h₁ => ?_
  -- the other file is written and is known from then on to have all the bytes
  have hrewriting : Always P
      (Ends (fun fs => d.Prepared key fs₀ fs ∧ fs.readFile (d.temporaryPath key) = .ok bytes)
        (d.Prepared key fs₀)) (rewriting (d.temporaryPath key) bytes) fs₁ :=
    always_rewriting hprepared (fun fs fs' h hwrite => h.writeFile hwrite)
      (fun fs fs' more h happend => h.appendFile happend) h₁ bytes
  refine hrewriting.andThen hprepared fun fs₂ h₂ => ?_
  have hflush : Always P
      (Ends (fun fs => d.Prepared key fs₀ fs ∧ fs.readFile (d.temporaryPath key) = .ok bytes)
        (d.Prepared key fs₀)) (once (.flush (d.temporaryPath key))) fs₂ :=
    always_once hprepared (fun fs h => hprepared fs h.1) h₂.1 h₂
  refine hflush.andThen hprepared fun fs₃ h₃ => ?_
  refine always_once hprepared hreplaced h₃.1 ?_
  simp only [FileOperation.perform]
  rcases hmove : fs₃.moveFile (d.temporaryPath key) (d.filePath key) with fault | fs'
  · exact h₃.1
  · exact h₃.1.moveFile h₃.2 hmove

/-- **Where the way to the directory is blocked** a write fails and changes nothing. -/
theorem always_writing_of_blocked (h : fs₀.Blocked d.directory) :
    Always (· = fs₀) (Ends (fun _ => False) (· = fs₀)) (d.writing key bytes) fs₀ := by
  have hmaking : Always (· = fs₀) (Ends (· = fs₀) (· = fs₀))
      (making (d.filePath key).parent.absolute (d.filePath key).parent.parts.reverse) fs₀ := by
    refine always_makingParent (fun _ => id) ?_ rfl
    rintro up hup - _ fs' rfl hmake
    exact absurd hmake (makeDirectory_of_blocked h hup)
  refine hmaking.andThen (fun _ => id) fun fs' (hsame : fs' = fs₀) => ?_
  rw [hsame]
  -- whether or not a directory was said to be there, no file can be made in it
  have hclear : Always (· = fs₀) (Ends (fun _ => False) (· = fs₀))
      (once (.clear (d.temporaryPath key))) fs₀ := by
    refine always_once (fun _ => id) (fun _ => False.elim) rfl ?_
    simp only [FileOperation.perform]
    rcases hwrite : fs₀.writeFile (d.temporaryPath key) [] with fault | fs'
    · rfl
    · exact absurd hwrite (writeFile_of_blocked h)
  have hrewriting : Always (· = fs₀) (Ends (fun _ => False) (· = fs₀))
      (rewriting (d.temporaryPath key) bytes) fs₀ :=
    hclear.andThen (fun _ => id) fun _ => False.elim
  exact hrewriting.andThen (fun _ => id) fun _ => False.elim

/-- The file of the baseline was replaced by that of an image. -/
def Kept (d : BaselineDirectory) (codec : ImageCodec) (key : BaselineKey) (img : Image)
    (fs fs' : FileSystem) : Prop :=
  ∃ bytes, codec.encode img = .ok bytes ∧ d.Replaced key bytes fs fs'

/-- How the files are where a save ends. -/
def Ended (d : BaselineDirectory) (codec : ImageCodec) (key : BaselineKey) (img : Image)
    (fs : FileSystem) : Except CheckFault Unit → FileSystem → Prop
  | .ok () => d.Kept codec key img fs
  | .error _ => d.Prepared key fs

theorem always_saving (d : BaselineDirectory) (codec : ImageCodec) (key : BaselineKey) (img : Image)
    (fs₀ : FileSystem) :
    Always (fun fs => d.Prepared key fs₀ fs ∨ d.Kept codec key img fs₀ fs)
      (d.Ended codec key img fs₀) (d.saving codec key img) fs₀ := by
  have hstart : d.Prepared key fs₀ fs₀ := Grows.refl _ _ _
  unfold saving
  rcases hencode : codec.encode img with fault | bytes
  · -- an image without a form is refused before anything is asked of the disk
    exact ⟨.inl hstart, hstart⟩
  · refine (always_writing (fun _ => .inl) fun _ h => .inr ⟨bytes, hencode, h⟩).bind ?_
    intro written fs hend
    rcases written with fault | ⟨⟩
    · exact ⟨.inl hend, hend⟩
    · exact ⟨.inr ⟨bytes, hencode, hend⟩, bytes, hencode, hend⟩

theorem always_saving_of_blocked (h : fs₀.Blocked d.directory) (codec : ImageCodec)
    (key : BaselineKey) (img : Image) :
    Always (· = fs₀) (fun answer fs => fs = fs₀ ∧ answer ≠ .ok ())
      (d.saving codec key img) fs₀ := by
  unfold saving
  rcases codec.encode img with fault | bytes
  · exact ⟨rfl, rfl, nofun⟩
  · refine (always_writing_of_blocked h).bind ?_
    intro written fs hend
    rcases written with fault | ⟨⟩
    · obtain rfl : fs = fs₀ := hend
      exact ⟨rfl, rfl, nofun⟩
    · exact False.elim hend

/-! ## What is loaded -/

/-- The name of the file is one that a directory can have. -/
def Short (key : BaselineKey) : Prop :=
  (BaselineFile.kept.name key).utf8ByteSize ≤ FilePath.maxNameLength

/-- What is loaded depends on the file alone. -/
theorem load_congr (h : fs'.readFile (d.filePath key) = fs.readFile (d.filePath key)) :
    d.load codec key fs' = d.load codec key fs := by
  unfold load
  rw [h]

/-- Whatever is below the directory is further down than this. -/
theorem length_lt_place (d : BaselineDirectory) (file : BaselineFile) (key : BaselineKey) :
    d.directory.place.length < (d.path file key).place.length := by
  rw [place_path, List.length_append, List.length_singleton]
  omega

/-- **Until it is moved all files read as before.** -/
theorem Prepared.readFile (h : d.Prepared key fs fs') (htree : fs.Tree)
    (hdown : fs.Downward d.directory) (hother : Short other) :
    fs'.readFile (d.filePath other) = fs.readFile (d.filePath other) := by
  refine Grows.readFile h htree hdown ?_ ⟨BaselineFile.name_ne_up .kept other, hother⟩ ?_
  · rintro _ rfl
    exact length_lt_place d .temporary key
  · show d.directory.place ++ [BaselineFile.kept.name other] ≠ (d.temporaryPath key).place
    rw [← place_path]
    simp [place_path_inj]

/-- **And afterwards all other ones do.** -/
theorem Replaced.readFile (h : d.Replaced key bytes fs fs') (htree : fs.Tree)
    (hdown : fs.Downward d.directory) (hother : Short other) (hne : other ≠ key) :
    fs'.readFile (d.filePath other) = fs.readFile (d.filePath other) := by
  refine Grows.readFile h.grows htree hdown ?_ ⟨BaselineFile.name_ne_up .kept other, hother⟩ ?_
  · rintro _ (rfl | rfl)
    · exact length_lt_place d .temporary key
    · exact length_lt_place d .kept key
  · show ¬ (d.directory.place ++ [BaselineFile.kept.name other] = (d.temporaryPath key).place ∨
      d.directory.place ++ [BaselineFile.kept.name other] = (d.filePath key).place)
    rw [← place_path]
    simp [place_path_inj, hne]

/-- **All or nothing**, at every turn of a save that may be refused at any of them, where the way to
the directory leads down from one that is there or is blocked.  Other baselines are loaded as before
all the time.  The file of this one reads as before or has all of its new bytes; if the save ends
with a fault the baseline is loaded as before, and if it ends well the image is loaded that was
saved.  The next save starts from such files again. -/
theorem save_all_or_nothing (d : BaselineDirectory) (hcodec : codec.Lossless) (htree : fs.Tree)
    (hway : fs.Steady d.directory) (hkey : Short key) (img : Image) :
    (d.saving codec key img).run fs = d.save codec key img fs ∧
    ∀ p fs', Reaches (d.saving codec key img, fs) (p, fs') →
      (fs'.Tree ∧ fs'.Steady d.directory) ∧
      (∀ other, Short other → other ≠ key → d.load codec other fs' = d.load codec other fs) ∧
      (fs'.readFile (d.filePath key) = fs.readFile (d.filePath key) ∨
        ∃ bytes, codec.encode img = .ok bytes ∧ fs'.readFile (d.filePath key) = .ok bytes) ∧
      (∀ fault, p = .done (.error fault) → d.load codec key fs' = d.load codec key fs) ∧
      (p = .done (.ok ()) → d.load codec key fs' = .ok (some img)) := by
  refine ⟨run_saving, fun p fs' hreaches => ?_⟩
  have htree' := tree_of_reaches htree hreaches
  rcases hway with hdown | hblocked
  · obtain ⟨hturn, hend⟩ := holds_of_reaches (always_saving d codec key img fs) hreaches
    have hdirectories : DirectoriesIn fs fs' := by
      rcases hturn with hprepared | ⟨bytes, -, hreplaced⟩
      · exact Grows.directories hprepared
      · exact hreplaced.grows.directories
    refine ⟨⟨htree', .inl (hdown.mono hdirectories)⟩, ?_, ?_, ?_, ?_⟩
    · intro other hother hne
      rcases hturn with hprepared | ⟨bytes, -, hreplaced⟩
      · exact load_congr (hprepared.readFile htree hdown hother)
      · exact load_congr (hreplaced.readFile htree hdown hother hne)
    · rcases hturn with hprepared | ⟨bytes, hencode, hreplaced⟩
      · exact .inl (hprepared.readFile htree hdown hkey)
      · exact .inr ⟨bytes, hencode, hreplaced.file⟩
    · intro fault hp
      have hprepared : d.Prepared key fs fs' := hend _ hp
      exact load_congr (hprepared.readFile htree hdown hkey)
    · intro hp
      obtain ⟨bytes, hencode, hreplaced⟩ : d.Kept codec key img fs fs' := hend _ hp
      exact load_eq_some.2 ⟨bytes, hreplaced.file, decode_of_encode hcodec hencode⟩
  · obtain ⟨rfl, hend⟩ :=
      holds_of_reaches (always_saving_of_blocked hblocked codec key img) hreaches
    refine ⟨⟨htree', .inr hblocked⟩, fun _ _ _ => rfl, .inl rfl, fun _ _ => rfl, fun hp => ?_⟩
    exact absurd rfl (hend _ hp).2

end

namespace InTheWay

open SevenCalls

/-- The directory has the file of one baseline, and in the way of its other name is a directory. -/
def files (bytes : List UInt8) : FileSystem :=
  (((FileSystem.empty.put ["w", "shots"] .directory).put ["w", "shots", "baselines"] .directory).put
    ["w", "shots", "baselines", "home.tmp"] .directory).put ["w", "shots", "baselines", "home.png"]
      (.file bytes)

theorem tree_files (bytes : List UInt8) : (files bytes).Tree := by
  have hshots : (FileSystem.empty.put ["w", "shots"] .directory).Tree :=
    tree_empty.put_here (by decide) _
  have hdir : ((FileSystem.empty.put ["w", "shots"] .directory).put
      (["w", "shots"] ++ ["baselines"]) .directory).Tree := hshots.put rfl rfl (by decide) _
  have hway : (((FileSystem.empty.put ["w", "shots"] .directory).put
      ["w", "shots", "baselines"] .directory).put
      (["w", "shots", "baselines"] ++ ["home.tmp"]) .directory).Tree :=
    hdir.put rfl rfl (by decide) _
  have hfile : ((((FileSystem.empty.put ["w", "shots"] .directory).put
      ["w", "shots", "baselines"] .directory).put
      ["w", "shots", "baselines", "home.tmp"] .directory).put
      (["w", "shots", "baselines"] ++ ["home.png"]) (.file bytes)).Tree :=
    hway.put rfl rfl (by decide) _
  exact hfile

theorem steady_shots (fs : FileSystem) : fs.Steady shots.directory := by
  refine .inl ⟨[], shots.directory.parts, rfl, there_start _ _ _, ?_⟩
  intro part hpart
  rcases List.mem_cons.1 hpart with rfl | hpart
  · decide
  · rw [List.mem_singleton.1 hpart]
    decide

end InTheWay

open SevenCalls InTheWay in
/-- The first save makes the directory; one that finds something in its way fails, and the image of
the save before is still loaded. -/
theorem save_all_or_nothing_shots :
    (∃ fs', shots.save Png.codec home dark FileSystem.empty = (.ok (), fs') ∧
      shots.load Png.codec home fs' = .ok (some dark) ∧
      shots.load Png.codec homeTmp fs' = .ok none) ∧
    ∃ bytes fs', Png.codec.encode dark = .ok bytes ∧
      shots.save Png.codec home light (files bytes) =
        (.error (.store (.unwritable "shots/baselines/home.png" .isDirectory)), fs') ∧
      shots.load Png.codec home fs' = .ok (some dark) := by
  obtain ⟨bytes, hencode, -⟩ := Png.codec_lossless.decode_encode dark rfl
  obtain ⟨bytes', hencode', -⟩ := Png.codec_lossless.decode_encode light rfl
  constructor
  · obtain ⟨hrun, hturns⟩ := save_all_or_nothing shots Png.codec_lossless tree_empty
      (steady_shots _) storable_home.short dark
    obtain ⟨fs', hsave⟩ :
        ∃ fs', shots.save Png.codec home dark FileSystem.empty = (.ok (), fs') := by
      unfold save
      rw [hencode]
      exact ⟨_, rfl⟩
    have hreaches := reaches_run (shots.saving Png.codec home dark) FileSystem.empty
    rw [hrun, hsave] at hreaches
    obtain ⟨-, hother, -, -, hkept⟩ := hturns _ _ hreaches
    exact ⟨fs', hsave, hkept rfl, (hother homeTmp storable_homeTmp.short (by decide)).trans rfl⟩
  · obtain ⟨hrun, hturns⟩ := save_all_or_nothing shots Png.codec_lossless (tree_files bytes)
      (steady_shots _) storable_home.short light
    obtain ⟨fs', hsave⟩ : ∃ fs', shots.save Png.codec home light (files bytes) =
        (.error (.store (.unwritable "shots/baselines/home.png" .isDirectory)), fs') := by
      unfold save
      rw [hencode']
      exact ⟨_, rfl⟩
    have hreaches := reaches_run (shots.saving Png.codec home light) (files bytes)
    rw [hrun, hsave] at hreaches
    obtain ⟨-, -, -, hfailed, -⟩ := hturns _ _ hreaches
    have hbefore : shots.load Png.codec home (files bytes) = .ok (some dark) :=
      load_eq_some.2 ⟨bytes, rfl, decode_of_encode Png.codec_lossless hencode⟩
    exact ⟨bytes, fs', hencode, hsave, (hfailed _ rfl).trans hbefore⟩

namespace AboveMissing

open SevenCalls

/-- The way to the directory goes up from one that is missing, and ends at a file. -/
def blocked : BaselineDirectory := ⟨"a/../f"⟩

/-- The way goes up from one that is missing, and ends at a directory. -/
def hidden : BaselineDirectory := ⟨"a/../b"⟩

/-- A file, and a directory with another one in it. -/
def files : FileSystem :=
  ((FileSystem.empty.put ["w", "f"] (.file [])).put ["w", "b"] .directory).put
    ["w", "b", "home.tmp.png"] (.file [])

theorem tree_files : files.Tree := by
  have hfile : (FileSystem.empty.put ["w", "f"] (.file [])).Tree :=
    tree_empty.put_here (by decide) _
  have hdir : ((FileSystem.empty.put ["w", "f"] (.file [])).put ["w", "b"] .directory).Tree :=
    hfile.put_here (by decide) _
  have hother : (((FileSystem.empty.put ["w", "f"] (.file [])).put ["w", "b"] .directory).put
      (["w", "b"] ++ ["home.tmp.png"]) (.file [])).Tree := hdir.put rfl rfl (by decide) _
  exact hother

end AboveMissing

open SevenCalls AboveMissing in
/-- **A way that goes up from a directory that is missing** leads somewhere only once a save has
made this: the save fails and what was no baseline before is a fault, or it goes well and another
baseline comes to light. -/
theorem save_not_all_or_nothing :
    files.Tree ∧
    (blocked.load Png.codec home files = .ok none ∧
      ∃ fault, (blocked.save Png.codec home dark files).1 = .error fault ∧
        blocked.load Png.codec home (blocked.save Png.codec home dark files).2 =
          .error (.store (.unreadable "a/../f/home.png" .notDirectory))) ∧
    hidden.load Png.codec homeTmp files = .ok none ∧
      (hidden.save Png.codec home dark files).1 = .ok () ∧
        hidden.load Png.codec homeTmp (hidden.save Png.codec home dark files).2 ≠ .ok none := by
  obtain ⟨bytes, hencode, -⟩ := Png.codec_lossless.decode_encode dark rfl
  refine ⟨tree_files, ⟨rfl, ?_⟩, rfl, ?_⟩
  · unfold save
    rw [hencode]
    exact ⟨_, rfl, rfl⟩
  · unfold save
    rw [hencode]
    refine ⟨rfl, fun hload => ?_⟩
    rw [load_eq_none] at hload
    cases hload

end VisualRegression.BaselineDirectory
