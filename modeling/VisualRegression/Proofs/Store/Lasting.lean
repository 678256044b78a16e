import VisualRegression.Proofs.Store.Refinement

/-!
# What is kept lasts

An image that a store has kept is there until another one is kept under the same name: to keep one
under another name leaves it alone, and so does a save that fails, halfway or at once
(`BaselineStore.Lasting`).  In memory this is plain.  In a directory of files it needs that no file
of a baseline is ever written but by a move at the end of a save (`spares_write`), and that nobody
else takes away the files of baselines or the directories on the way to them
(`BaselineDirectory.Undisturbed`).  Main statement: `Standard.lasting`.
-/

namespace VisualRegression

open FileSystem

namespace BaselineStore

variable {σ : Type}

/-- **What the store keeps lasts**: an image that was saved is loaded, until another one is saved
under the same name, whatever changes from outside there are that are `quiet`. -/
structure Lasting (store : BaselineStore σ) (quiet : σ → σ → Prop) : Prop where
  saved : ∀ key img s, (store.save key img s).1 = .ok () →
    store.load key (store.save key img s).2 = .ok (some img)
  kept : ∀ key img other img' s, (other = key → (store.save other img' s).1 ≠ .ok ()) →
    store.load key s = .ok (some img) →
    store.load key (store.save other img' s).2 = .ok (some img)
  undisturbed : ∀ key img s s', quiet s s' → store.load key s = .ok (some img) →
    store.load key s' = .ok (some img)

/-- In memory all saves succeed, and nobody else has access. -/
theorem lasting_memory : memory.Lasting (· = ·) where
  saved key img s _ := load_save_memory_self key img s
  kept key img other img' s hother h := by
    have hne : key ≠ other := fun heq => hother heq.symm rfl
    rw [load_save_memory_of_ne hne, h]
  undisturbed := by
    rintro key img s _ rfl h
    exact h

end BaselineStore

/-! ## Files that are spared -/

variable [WorkingDirectory]

namespace FileSystem

variable {fs fs' : FileSystem} {place : Place} {p source target : FilePath} {bytes : List UInt8}

/-- A file at the place stays as it is, and no directory is taken away. -/
structure Spares (place : Place) (fs fs' : FileSystem) : Prop where
  directories : DirectoriesIn fs fs'
  file : ∀ bytes, fs.node? place = some (.file bytes) → fs'.node? place = some (.file bytes)

theorem Keeps.spares (h : Keeps fs fs') (place : Place) : Spares place fs fs' where
  directories := h.directoriesIn
  file _ hfile := h _ _ hfile

theorem Spares.trans {fs'' : FileSystem} (h : Spares place fs fs') (h' : Spares place fs' fs'') :
    Spares place fs fs'' where
  directories := h.directories.trans h'.directories
  file bytes hfile := h'.file bytes (h.file bytes hfile)

theorem spares_writeFile (h : fs.writeFile p bytes = .ok fs') (hne : place ≠ p.place) :
    Spares place fs fs' where
  directories := directoriesIn_writeFile h
  file _ hfile := (node?_writeFile_of_ne h hne).trans hfile

theorem spares_moveFile (h : fs.moveFile source target = .ok fs') (hsource : place ≠ source.place)
    (htarget : place ≠ target.place) : Spares place fs fs' where
  directories := directoriesIn_moveFile h
  file _ hfile := by
    obtain ⟨_, -, -, -, rfl⟩ := moveFile_eq_ok h
    rw [node?_put_of_ne _ _ htarget, node?_erase_of_ne hsource, hfile]

/-- A file that was spared reads as before. -/
theorem Spares.readFile (h : Spares p.place fs fs') (hread : fs.readFile p = .ok bytes) :
    fs'.readFile p = .ok bytes := by
  obtain ⟨-, hfile, -⟩ := find_eq_file.1 (readFile_eq_ok.1 hread)
  exact readFile_congr hread h.directories ((h.file bytes hfile).trans hfile.symm)

end FileSystem

/-! ## Saves in a directory -/

namespace BaselineDirectory

variable {d : BaselineDirectory} {codec : ImageCodec} {key other : BaselineKey} {img img' : Image}
  {fs fs' : FileSystem} {bytes : List UInt8} {place : Place}

/-- **A write changes no file of a baseline but its own**, and not even that one if it fails. -/
theorem spares_write (htemporary : place ≠ (d.temporaryPath key).place)
    (hfile : place = (d.filePath key).place → (d.write key bytes fs).1 ≠ .ok ()) :
    Spares place fs (d.write key bytes fs).2 := by
  have hmade := (keeps_makeDirectories fs (d.filePath key).parent).spares place
  unfold write at hfile ⊢
  rcases hm : fs.makeDirectories (d.filePath key).parent with ⟨_ | ⟨⟩, fs₁⟩
  all_goals rw [hm] at hmade hfile
  · exact hmade
  · dsimp only at hfile ⊢
    cases hw : fs₁.writeFile (d.temporaryPath key) bytes with
    | error fault => exact hmade
    | ok fs₂ =>
      have hwritten := hmade.trans (spares_writeFile hw htemporary)
      rw [hw] at hfile
      dsimp only at hfile ⊢
      cases hmv : fs₂.moveFile (d.temporaryPath key) (d.filePath key) with
      | error fault => exact hwritten
      | ok fs₃ =>
        rw [hmv] at hfile
        exact hwritten.trans (spares_moveFile hmv htemporary fun heq => hfile heq rfl)

/-- **A save changes no baseline but its own**, and not even that one if it fails. -/
theorem load_save_of_kept (hother : other = key → (d.save codec other img' fs).1 ≠ .ok ())
    (h : d.load codec key fs = .ok (some img)) :
    d.load codec key (d.save codec other img' fs).2 = .ok (some img) := by
  obtain ⟨bytes, hread, hdecode⟩ := load_eq_some.1 h
  refine load_eq_some.2 ⟨bytes, ?_, hdecode⟩
  unfold save at hother ⊢
  cases hencode : codec.encode img' with
  | error fault => exact hread
  | ok bytes' =>
    rw [hencode] at hother
    have hspares : Spares (d.filePath key).place fs (d.write other bytes' fs).2 := by
      refine spares_write (by simp [place_path_inj]) fun hplace hok => ?_
      refine hother (place_path_inj.1 hplace).2.symm ?_
      dsimp only
      rw [hok]
      rfl
    exact hspares.readFile hread

/-- **Nobody else touches the baselines**: what is below the directory stays as it is, and so do the
directories on the way to it. -/
structure Undisturbed (d : BaselineDirectory) (fs fs' : FileSystem) : Prop where
  below : ∀ name, fs'.node? (d.directory.place ++ [name]) = fs.node? (d.directory.place ++ [name])
  way : ∀ place ∈ start d.directory :: placesAlong d.directory,
    fs.node? place = some .directory → fs'.node? place = some .directory

theorem Undisturbed.refl (d : BaselineDirectory) (fs : FileSystem) : d.Undisturbed fs fs where
  below _ := rfl
  way _ _ h := h

theorem Undisturbed.load (h : d.Undisturbed fs fs') (hload : d.load codec key fs = .ok (some img)) :
    d.load codec key fs' = .ok (some img) := by
  obtain ⟨bytes, hread, hdecode⟩ := load_eq_some.1 hload
  obtain ⟨hlocate, hfile, hkind⟩ := find_eq_file.1 (readFile_eq_ok.1 hread)
  obtain ⟨hfault, hfollow⟩ := locate_eq_ok.1 hlocate
  refine load_eq_some.2 ⟨bytes, readFile_eq_ok.2 (find_eq_file.2 ⟨?_, ?_, hkind⟩), hdecode⟩
  · exact locate_eq_ok.2 ⟨hfault, follow_concat_of_way h.way hfollow⟩
  · rw [place_path] at hfile ⊢
    rw [h.below, hfile]

/-- What a directory of files keeps lasts. -/
theorem lasting_store (hcodec : codec.Lossless) : (d.store codec).Lasting d.Undisturbed where
  saved _ _ _ h := load_save_self hcodec (Prod.ext h rfl)
  kept _ _ _ _ _ hother h := load_save_of_kept hother h
  undisturbed _ _ _ _ hquiet h := hquiet.load h

end BaselineDirectory

/-! ## The two stores -/

/-- **The stores that there are**, in memory and in a directory of files, each with the changes from
outside that leave its baselines alone. -/
inductive BaselineStore.Standard (codec : ImageCodec) :
    (σ : Type) → BaselineStore σ → (σ → σ → Prop) → Prop
  | memory : Standard codec Baselines .memory (· = ·)
  | directory (d : BaselineDirectory) : Standard codec FileSystem (d.store codec) d.Undisturbed

/-- **What either store keeps lasts**, if the form of the files is lossless. -/
theorem BaselineStore.Standard.lasting {σ : Type} {codec : ImageCodec} {store : BaselineStore σ}
    {quiet : σ → σ → Prop} (h : Standard codec σ store quiet) (hcodec : codec.Lossless) :
    store.Lasting quiet := by
  cases h with
  | memory => exact lasting_memory
  | directory d => exact BaselineDirectory.lasting_store hcodec

end VisualRegression
