import VisualRegression.Proofs.FileSystem.Effect
import VisualRegression.Store.Directory

/-!
# Baselines in files

What a directory of baseline files loads is what is in the file of the baseline
(`load_eq_some`), and what was saved there is loaded again (`load_save_self`), as far as the form of
the files is lossless.
-/

namespace VisualRegression.BaselineDirectory

variable {d : BaselineDirectory} {codec : ImageCodec} {key : BaselineKey} {img : Image}
  {bytes : List UInt8} {fs fs' : FileSystem}

/-- What a lossless form of files can write it reads back. -/
theorem decode_of_encode (hcodec : codec.Lossless) (h : codec.encode img = .ok bytes) :
    codec.decode bytes = .ok img := by
  cases hempty : img.isEmpty with
  | true =>
    rw [hcodec.encode_empty img hempty] at h
    cases h
  | false =>
    obtain ⟨bytes', he, hd⟩ := hcodec.decode_encode img hempty
    rw [h] at he
    cases he
    exact hd

/-- The file of a baseline is asked for as a file. -/
theorem asDirectory_filePath : (d.filePath key).asDirectory = false := rfl

variable [WorkingDirectory]

/-- Where there is a file, what is in it decides. -/
theorem load_of_readFile (h : fs.readFile (d.filePath key) = .ok bytes) :
    d.load codec key fs =
      match codec.decode bytes with
      | .error fault => .error (.store (.undecodable (d.fileText key) (.codec fault)))
      | .ok img => .ok (some img) := by
  unfold load
  rewrite [h]
  rfl

/-- Where no file can be read, there is no baseline at best. -/
theorem load_of_fault {fault : FileFault} (h : fs.readFile (d.filePath key) = .error fault) :
    d.load codec key fs =
      if fault = .notFound then .ok none
      else .error (.store (.unreadable (d.fileText key) fault)) := by
  unfold load
  rw [h]
  cases fault <;> rfl

/-- **A baseline is loaded exactly if its file is there and holds an image.** -/
theorem load_eq_some :
    d.load codec key fs = .ok (some img) ↔
      ∃ bytes, fs.readFile (d.filePath key) = .ok bytes ∧ codec.decode bytes = .ok img := by
  rcases hr : fs.readFile (d.filePath key) with fault | bytes
  · rw [load_of_fault hr]
    constructor
    · intro h
      split at h <;> cases h
    · rintro ⟨_, h, -⟩
      cases h
  · rw [load_of_readFile hr]
    constructor
    · intro h
      rcases hd : codec.decode bytes with fault | found
      · rw [hd] at h
        cases h
      · rw [hd] at h
        cases h
        exact ⟨bytes, rfl, hd⟩
    · rintro ⟨_, h, hd⟩
      cases h
      rw [hd]

/-- There is no baseline exactly if nothing is found at its path. -/
theorem load_eq_none : d.load codec key fs = .ok none ↔
    fs.readFile (d.filePath key) = .error .notFound := by
  rcases hr : fs.readFile (d.filePath key) with fault | bytes
  · rw [load_of_fault hr]
    by_cases hf : fault = .notFound
    · rw [if_pos hf, hf]
      exact ⟨fun _ => rfl, fun _ => rfl⟩
    · rw [if_neg hf]
      exact ⟨fun h => (by cases h), fun h => absurd (Except.error.inj h) hf⟩
  · rw [load_of_readFile hr]
    constructor
    · intro h
      split at h <;> cases h
    · intro h
      cases h

/-- **A file that was written by way of another one is read back.** -/
theorem readFile_write (h : d.write key bytes fs = (.ok (), fs')) :
    fs'.readFile (d.filePath key) = .ok bytes := by
  unfold write at h
  split at h
  · cases h
  · split at h
    · cases h
    · rename_i hw
      split at h
      · cases h
      · rename_i hm
        cases h
        exact FileSystem.readFile_moveFile hm asDirectory_filePath
          (FileSystem.readFile_writeFile hw)

/-- An image that was saved was written. -/
theorem save_eq_ok (h : d.save codec key img fs = (.ok (), fs')) :
    ∃ bytes, codec.encode img = .ok bytes ∧ d.write key bytes fs = (.ok (), fs') := by
  unfold save at h
  split at h
  · cases h
  · rename_i bytes he
    refine ⟨bytes, he, ?_⟩
    rcases hw : d.write key bytes fs with ⟨_ | ⟨⟩, fs₁⟩
    · rw [hw] at h
      cases h
    · rw [hw] at h
      cases h
      rfl

/-- **What was saved is in the file of the baseline.** -/
theorem load_save_self (hcodec : codec.Lossless) (h : d.save codec key img fs = (.ok (), fs')) :
    d.load codec key fs' = .ok (some img) := by
  obtain ⟨bytes, he, hw⟩ := save_eq_ok h
  exact load_eq_some.2 ⟨bytes, readFile_write hw, decode_of_encode hcodec he⟩

end VisualRegression.BaselineDirectory
