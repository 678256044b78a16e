import VisualRegression.Proofs.Base64
import VisualRegression.Proofs.FileSystem.Writable
import VisualRegression.Proofs.Run.Outcome

/-!
# Reports that are written

A report has images as files in base64, and what was written that way is read back
(`embeds_of_encodeImage`); so a result of images with pixels has a report
(`CheckResult.exists_toReport`).  A report is written once publication gets to it and its file can
be written (`AttachmentFiles.Publishes`): then the file has its text and the painted differences are
in theirs (`Publishes.readFile`, `Publishes.holds_diff`), and else the file is as it was
(`node?_publish_of_not_publishes`).
-/

namespace VisualRegression

open FileSystem

variable {codec : ImageCodec} {img : Image} {text : String}

/-! ## Images in reports -/

/-- The text is an image file in base64. -/
def ImageCodec.Embeds (codec : ImageCodec) (text : String) (img : Image) : Prop :=
  ∃ bytes, Base64.decode? text.toList = some bytes ∧ codec.decode bytes = .ok img

/-- **An image that was written in base64 is read back.** -/
theorem embeds_of_encodeImage (hcodec : codec.Lossless) (h : encodeImage codec img = .ok text) :
    codec.Embeds text img := by
  unfold encodeImage at h
  rcases hencode : codec.encode img with fault | bytes
  · rw [hencode] at h
    cases h
  · rw [hencode] at h
    obtain rfl := Except.ok.inj h
    refine ⟨bytes, ?_, BaselineDirectory.decode_of_encode hcodec hencode⟩
    rw [String.toList_ofList, Base64.decode?_encode]

/-- An image with pixels can be written in base64. -/
theorem exists_encodeImage (hcodec : codec.Lossless) (h : img.isEmpty = false) :
    ∃ text, encodeImage codec img = .ok text := by
  obtain ⟨bytes, hencode, -⟩ := hcodec.decode_encode img h
  unfold encodeImage
  rw [hencode]
  exact ⟨_, rfl⟩

theorem encodeImage?_eq_ok {img? : Option Image} {text? : Option String}
    (h : encodeImage? codec img? = .ok text?) :
    img? = none ∧ text? = none ∨
      ∃ img text, img? = some img ∧ text? = some text ∧ encodeImage codec img = .ok text := by
  obtain _ | img := img?
  · obtain rfl := Except.ok.inj h
    exact .inl ⟨rfl, rfl⟩
  · obtain ⟨text, hencode, rfl⟩ := map_eq_ok.1 h
    exact .inr ⟨img, text, rfl, rfl, hencode⟩

theorem exists_encodeImage? (hcodec : codec.Lossless) {img? : Option Image}
    (h : ∀ img, img? = some img → img.isEmpty = false) :
    ∃ text?, encodeImage? codec img? = .ok text? := by
  obtain _ | img := img?
  · exact ⟨none, rfl⟩
  · obtain ⟨text, hencode⟩ := exists_encodeImage hcodec (h img rfl)
    exact ⟨some text, map_eq_ok.2 ⟨text, hencode, rfl⟩⟩

namespace CheckResult

variable {result : CheckResult} {report : Report}

/-- **What the report of a result tells**: its images in base64, and all else as it is. -/
structure ToldBy (result : CheckResult) (codec : ImageCodec) (report : Report) : Prop where
  action_eq : report.action = result.action
  name_eq : report.baselineName = result.baselineName.text
  passed_eq : report.passed = result.passed
  verdict_eq : report.verdict = result.verdict
  percentage_eq : report.diffPercentage = result.diffPercentage
  checkedAt_eq : report.checkedAt = result.checkedAt
  checkpoint : encodeImage codec result.checkpoint = .ok report.checkpointPng
  diff : encodeImage? codec result.diff = .ok report.diffPng
  baseline : encodeImage? codec result.baseline = .ok report.baselinePng

theorem toldBy_of_toReport (h : result.toReport codec = .ok report) :
    result.ToldBy codec report := by
  obtain ⟨checkpointPng, hcheckpoint, h⟩ := bind_eq_ok.1 h
  obtain ⟨diffPng, hdiff, h⟩ := bind_eq_ok.1 h
  obtain ⟨baselinePng, hbaseline, h⟩ := bind_eq_ok.1 h
  obtain rfl := Except.ok.inj h
  exact ⟨rfl, rfl, rfl, rfl, rfl, rfl, hcheckpoint, hdiff, hbaseline⟩

/-- A result has a report if all of its images have pixels. -/
theorem exists_toReport (hcodec : codec.Lossless) (hcheckpoint : result.checkpoint.isEmpty = false)
    (hdiff : ∀ img, result.diff = some img → img.isEmpty = false)
    (hbaseline : ∀ img, result.baseline = some img → img.isEmpty = false) :
    ∃ report, result.toReport codec = .ok report := by
  obtain ⟨checkpointPng, hcheckpoint⟩ := exists_encodeImage hcodec hcheckpoint
  obtain ⟨diffPng, hdiff⟩ := exists_encodeImage? hcodec hdiff
  obtain ⟨baselinePng, hbaseline⟩ := exists_encodeImage? hcodec hbaseline
  exact ⟨_, bind_eq_ok.2 ⟨checkpointPng, hcheckpoint, bind_eq_ok.2 ⟨diffPng, hdiff,
    bind_eq_ok.2 ⟨baselinePng, hbaseline, rfl⟩⟩⟩⟩

end CheckResult

/-! ## Reports in files -/

variable [WorkingDirectory]

/-- **Two paths are apart**: neither leads to the other's place or to one on the way there. -/
structure FilePath.Apart (p q : FilePath) : Prop where
  ne : p.place ≠ q.place
  not_above : q.place ∉ placesAlong p.parent
  not_below : p.place ∉ placesAlong q.parent

namespace AttachmentFiles

variable {files : AttachmentFiles} {r : CheckResult} {fs fs' : FileSystem} {path : String}
  {report : Report} {bytes content : List UInt8}

/-- **The report of a result is written**: it is asked for, publication gets to it, the result has
one, and its file can be written. -/
structure Publishes (files : AttachmentFiles) (codec : ImageCodec) (r : CheckResult)
    (fs : FileSystem) (path : String) (report : Report) : Prop where
  asked : files.reportOut = some path
  reached : (files.publishDiff codec r fs).1 = true
  made : r.toReport codec = .ok report
  written : (writeFile path (reportText report).toUTF8.toList
    (files.publishDiff codec r fs).2).1 = true

/-- A file that was written is read back. -/
theorem readFile_of_writeFile (h : (writeFile path bytes fs).1 = true) :
    (writeFile path bytes fs).2.readFile (.ofText path) = .ok bytes := by
  obtain ⟨made, -, hwrite⟩ := writeFile_eq_true (Prod.ext h rfl)
  exact readFile_writeFile hwrite

/-- A file that could not be written is as it was, and so are all others. -/
theorem node?_of_writeFile_false (h : (writeFile path bytes fs).1 = false) {place : Place} :
    (writeFile path bytes fs).2.node? place = some (.file content) ↔
      fs.node? place = some (.file content) := by
  have hmade : (fs.makeDirectories (FilePath.ofText path).parent).2.node? place =
      some (.file content) ↔ fs.node? place = some (.file content) := node?_makeAll_eq_file_iff
  unfold writeFile at h ⊢
  dsimp only at h ⊢
  rcases hm : fs.makeDirectories (FilePath.ofText path).parent with ⟨fault | ⟨⟩, made⟩
  · rw [hm] at hmade
    exact hmade
  · rw [hm] at h hmade
    dsimp only at h ⊢
    rcases hw : made.writeFile (.ofText path) bytes with fault | written
    · exact hmade
    · rw [hw] at h
      cases h

/-- To write a file changes no other one. -/
theorem changesOnly_writeFile (path : String) (bytes : List UInt8) (fs : FileSystem) :
    ChangesOnly (fun q => q = .ofText path) fs (writeFile path bytes fs).2 := by
  have hstart := ChangesOnly.refl (fun q => q = .ofText path) fs
  have halways : FileProgram.Always (ChangesOnly (fun q => q = .ofText path) fs)
      (fun _ => ChangesOnly (fun q => q = .ofText path) fs) (writing path bytes) fs := by
    refine always_writing ?_ hstart bytes
    rfl
  have hreaches := FileProgram.reaches_run (writing path bytes) fs
  rw [run_writing] at hreaches
  exact (FileProgram.holds_of_reaches halways hreaches).1

theorem Publishes.publish_eq (h : files.Publishes codec r fs path report) :
    files.publish codec r fs =
      (writeFile path (reportText report).toUTF8.toList (files.publishDiff codec r fs).2).2 := by
  have hreached := h.reached
  unfold publish
  rcases hdiff : files.publishDiff codec r fs with ⟨_ | _, fs₁⟩
  · rw [hdiff] at hreached
    cases hreached
  · unfold publishReport
    dsimp only
    rw [h.asked, h.made]

/-- **A report that is written is in its file.** -/
theorem Publishes.readFile (h : files.Publishes codec r fs path report) :
    (files.publish codec r fs).readFile (.ofText path) = .ok (reportText report).toUTF8.toList := by
  rw [h.publish_eq]
  exact readFile_of_writeFile h.written

/-- **Where a report is written the painted differences are in their file**, if they are asked for
and there are some. -/
theorem Publishes.holds_diff (hcodec : codec.Lossless)
    (h : files.Publishes codec r fs path report) {other : String}
    (hother : files.diffOut = some other) (hdiff : r.diff = some img)
    (hne : (FilePath.ofText other).place ≠ (FilePath.ofText path).place) :
    codec.Holds (files.publish codec r fs) (.ofText other) img := by
  rw [h.publish_eq]
  have hreached := h.reached
  unfold publishDiff at hreached ⊢
  rw [hother, hdiff] at hreached ⊢
  dsimp only at hreached ⊢
  rcases hencode : codec.encode img with fault | bytes
  · rw [hencode] at hreached
    cases hreached
  · rw [hencode] at hreached
    have hchanges := changesOnly_writeFile path (reportText report).toUTF8.toList
      (writeFile other bytes fs).2
    refine ⟨bytes, hchanges.readFile ?_ (readFile_of_writeFile hreached),
      BaselineDirectory.decode_of_encode hcodec hencode⟩
    rintro ⟨q, rfl, hplace⟩
    exact hne hplace

/-- A result without differences leaves the file of the differences as it is. -/
theorem node?_publish_of_no_diff (hdiff : r.diff = none) {other : String}
    (hne : ∀ path, files.reportOut = some path →
      (FilePath.ofText other).place ≠ (FilePath.ofText path).place) :
    (files.publish codec r fs).node? (FilePath.ofText other).place = some (.file content) ↔
      fs.node? (FilePath.ofText other).place = some (.file content) := by
  refine ((Disk.willing codec).changesOnly_publish files r fs).node?_eq_file_iff ?_
  rintro ⟨q, hhas, hplace⟩
  cases hhas with
  | diff hpath hsome => exact hsome hdiff
  | report hpath => exact hne _ hpath hplace

/-- **A report that is not written leaves its file as it is.** -/
theorem node?_publish_of_not_publishes (hasked : files.reportOut = some path)
    (hnone : ∀ report, ¬ files.Publishes codec r fs path report)
    (hne : ∀ other, files.diffOut = some other →
      (FilePath.ofText path).place ≠ (FilePath.ofText other).place) :
    (files.publish codec r fs).node? (FilePath.ofText path).place = some (.file content) ↔
      fs.node? (FilePath.ofText path).place = some (.file content) := by
  -- up to the report, publication is that of the differences alone
  have hdiffs : (files.publishDiff codec r fs).2.node? (FilePath.ofText path).place =
      some (.file content) ↔ fs.node? (FilePath.ofText path).place = some (.file content) := by
    have halone : AttachmentFiles.publish ⟨files.diffOut, none⟩ codec r fs =
        (files.publishDiff codec r fs).2 := by
      have hsame : AttachmentFiles.publishDiff ⟨files.diffOut, none⟩ codec r fs =
          files.publishDiff codec r fs := rfl
      unfold publish
      rw [hsame]
      rcases files.publishDiff codec r fs with ⟨_ | _, fs₁⟩
      · rfl
      · rfl
    rw [← halone]
    refine ((Disk.willing codec).changesOnly_publish _ r fs).node?_eq_file_iff ?_
    rintro ⟨q, hhas, hplace⟩
    cases hhas with
    | diff hpath => exact hne _ hpath hplace
    | report hpath => cases hpath
  unfold publish
  rcases hreached : files.publishDiff codec r fs with ⟨_ | _, fs₁⟩
  · rw [hreached] at hdiffs
    exact hdiffs
  · rw [hreached] at hdiffs
    dsimp only
    unfold publishReport
    rw [hasked]
    dsimp only
    rcases hmade : r.toReport codec with fault | report
    · exact hdiffs
    · refine (node?_of_writeFile_false (Bool.eq_false_iff.2 fun hwritten => ?_)).trans hdiffs
      refine hnone report ⟨hasked, ?_, hmade, ?_⟩
      · rw [hreached]
      · rw [hreached]
        exact hwritten

/-- **A file that could be written can be written** after changes to files that are apart from
it. -/
theorem writable_of_changesOnly {written : FilePath → Prop} (h : Writable path fs)
    (hchanges : ChangesOnly written fs fs')
    (hapart : ∀ q, written q → (FilePath.ofText path).Apart q) : Writable path fs' := by
  refine writable_of_opens h ⟨hchanges.directories, fun place hplace hnone bytes hfile => ?_⟩ ?_
  · have htaken : ¬ Taken written place := by
      rintro ⟨q, hq, rfl⟩
      exact (hapart q hq).not_above hplace
    rw [hchanges.node?_eq_file_iff htaken, hnone] at hfile
    cases hfile
  · intro hdirectory
    have htaken : ¬ Taken written (FilePath.ofText path).place := by
      rintro ⟨q, hq, hplace⟩
      exact (hapart q hq).ne hplace
    have hway : ¬ (OnTheWay written (FilePath.ofText path).place ∧
        fs.node? (FilePath.ofText path).place = none) := by
      rintro ⟨⟨q, hq, hplace⟩, -⟩
      exact (hapart q hq).not_below hplace
    -- a directory that was there before was in the way before
    rw [hchanges.node?_eq htaken hway] at hdirectory
    obtain ⟨made, hmade, hwrite⟩ := writeFile_eq_true (Prod.ext (h []) rfl)
    have hkept := keeps_makeDirectories fs (FilePath.ofText path).parent _ _ hdirectory
    rw [hmade] at hkept
    exact (writeFile_eq_ok hwrite).2.2.1 hkept

/-- **A report is written** if the result has one and its files can be written and are apart. -/
theorem exists_publishes (hcodec : codec.Lossless) (hasked : files.reportOut = some path)
    (hmade : ∃ report, r.toReport codec = .ok report)
    (hdiff : ∀ img, r.diff = some img → img.isEmpty = false) (hreport : Writable path fs)
    (hother : ∀ other, files.diffOut = some other →
      Writable other fs ∧ (FilePath.ofText path).Apart (.ofText other)) :
    ∃ report, files.Publishes codec r fs path report := by
  obtain ⟨report, hmade⟩ := hmade
  have hreached : (files.publishDiff codec r fs).1 = true ∧
      Writable path (files.publishDiff codec r fs).2 := by
    unfold publishDiff
    split
    · rename_i other img hpath himg
      obtain ⟨bytes, hencode, -⟩ := hcodec.decode_encode img (hdiff img himg)
      obtain ⟨hwritable, hapart⟩ := hother other hpath
      rw [hencode]
      refine ⟨hwritable bytes, writable_of_changesOnly hreport (changesOnly_writeFile _ _ _) ?_⟩
      rintro q rfl
      exact hapart
    · exact ⟨rfl, hreport⟩
  exact ⟨report, hasked, hreached.1, hmade, hreached.2 _⟩

end AttachmentFiles

end VisualRegression
