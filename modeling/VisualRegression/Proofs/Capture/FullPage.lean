import VisualRegression.Capture.Cut
import VisualRegression.Proofs.Capture.Stacking

/-!
# Whole pages in parts

A page may be put together in one go or in two, and tiles without pixels leave no trace in it.  Both
come from one relation: `Image.SameStack` holds of lists of images that nothing put above or below
them can tell apart.  Main statements: `stitch_append` and `stitch_insert_empty`.
-/

namespace VisualRegression

namespace Image

variable {parts parts' others others' : List Image} {img : Image}

/-- The width that counts in a stack: that of the first image. -/
def firstWidth (parts : List Image) : UInt32 := (parts.map width).head?.getD 0

/-- **Two lists of images are alike in a stack**: they begin with one width, deviate from any width
first in the same one, and come to the same rows. -/
structure SameStack (parts parts' : List Image) : Prop where
  first : (parts.map width).head? = (parts'.map width).head?
  odd : ∀ w, (parts.map width).find? (· != w) = (parts'.map width).find? (· != w)
  height : totalHeight parts = totalHeight parts'
  pixels : (parts.flatMap fun p => p.pixels.toList) = parts'.flatMap fun p => p.pixels.toList

theorem SameStack.refl (parts : List Image) : SameStack parts parts := ⟨rfl, fun _ => rfl, rfl, rfl⟩

theorem totalHeight_append (parts others : List Image) :
    totalHeight (parts ++ others) = totalHeight parts + totalHeight others := by
  simp only [totalHeight_eq_sum, List.map_append, List.sum_append]

theorem totalHeight_singleton (img : Image) : totalHeight [img] = img.height.toNat :=
  Nat.add_zero _

/-- Lists that are alike are alike above others that are alike. -/
theorem SameStack.append (h : SameStack parts parts') (h' : SameStack others others') :
    SameStack (parts ++ others) (parts' ++ others') where
  first := by simp only [List.map_append, List.head?_append, h.first, h'.first]
  odd w := by simp only [List.map_append, List.find?_append, h.odd w, h'.odd w]
  height := by rw [totalHeight_append, totalHeight_append, h.height, h'.height]
  pixels := by rw [List.flatMap_append, List.flatMap_append, h.pixels, h'.pixels]

theorem SameStack.firstWidth_eq (h : SameStack parts parts') :
    firstWidth parts = firstWidth parts' := by
  unfold firstWidth
  rw [h.first]

/-- What is put below does not change the width that counts. -/
theorem firstWidth_append (h : parts ≠ []) (others : List Image) :
    firstWidth (parts ++ others) = firstWidth parts := by
  obtain ⟨first, rest, rfl⟩ := List.exists_cons_of_ne_nil h
  rfl

/-- An image has pixels exactly if none of its sides is zero. -/
theorem isEmpty_eq_false_iff :
    img.isEmpty = false ↔ 0 < img.width.toNat ∧ 0 < img.height.toNat := by
  rw [isEmpty, beq_eq_false_iff_ne, pixelCount, Nat.mul_ne_zero_iff, Nat.pos_iff_ne_zero,
    Nat.pos_iff_ne_zero]

end Image

namespace Stitcher

open Image (firstWidth totalHeight SameStack)

variable {parts parts' tiles a b : List Image} {tile only imgA imgB : Image}
  {odd : UInt32}

/-! ## What decides about a stack -/

/-- Images are refused for the first width that is not that of the first one. -/
theorem stackTiles_eq_widthDiffers
    (hodd : (parts.map Image.width).find? (· != firstWidth parts) = some odd) :
    stackTiles parts = .error (.stitch (.widthDiffers odd (firstWidth parts))) := by
  unfold firstWidth at hodd ⊢
  rw [List.find?_map, Option.map_eq_some_iff] at hodd
  obtain ⟨p, hp, rfl⟩ := hodd
  rw [List.head?_map] at hp ⊢
  exact stackTiles_of_odd hp

/-- Of images of one width the height decides. -/
theorem stackTiles_of_same_width
    (hodd : (parts.map Image.width).find? (· != firstWidth parts) = none) :
    (totalHeight parts < UInt32.size → ∃ img, stackTiles parts = .ok img) ∧
      (¬ totalHeight parts < UInt32.size →
        stackTiles parts = .error (.stitch (.tooHigh (totalHeight parts)))) := by
  unfold firstWidth at hodd
  rw [List.find?_map, Option.map_eq_none_iff, List.head?_map] at hodd
  rw [stackTiles_of_even hodd]
  exact ⟨fun hlow => ⟨_, dif_pos hlow⟩, fun hhigh => dif_neg hhigh⟩

/-- Why images are refused. -/
theorem stackTiles_eq_error {fault : CaptureFault} (h : stackTiles parts = .error fault) :
    (∃ odd, (parts.map Image.width).find? (· != firstWidth parts) = some odd ∧
        fault = .stitch (.widthDiffers odd (firstWidth parts))) ∨
      ((parts.map Image.width).find? (· != firstWidth parts) = none ∧
        UInt32.size ≤ totalHeight parts ∧ fault = .stitch (.tooHigh (totalHeight parts))) := by
  cases hodd : (parts.map Image.width).find? (· != firstWidth parts) with
  | some odd =>
    have hfault := Except.error.inj ((stackTiles_eq_widthDiffers hodd).symm.trans h)
    exact .inl ⟨odd, rfl, hfault.symm⟩
  | none =>
    obtain ⟨hlow, hhigh⟩ := stackTiles_of_same_width hodd
    by_cases hsize : totalHeight parts < UInt32.size
    · obtain ⟨img, himg⟩ := hlow hsize
      cases himg.symm.trans h
    · have hfault := Except.error.inj ((hhigh hsize).symm.trans h)
      exact .inr ⟨rfl, Nat.not_lt.1 hsize, hfault.symm⟩

/-- Images below others do not make up for a width. -/
theorem stackTiles_append_of_widthDiffers {first : UInt32}
    (h : stackTiles parts = .error (.stitch (.widthDiffers odd first))) (others : List Image) :
    stackTiles (parts ++ others) = .error (.stitch (.widthDiffers odd first)) := by
  rcases stackTiles_eq_error h with ⟨odd', hodd, hfault⟩ | ⟨-, -, hfault⟩
  · cases hfault
    have hne : parts ≠ [] := by
      rintro rfl
      cases hodd
    have hwhole : ((parts ++ others).map Image.width).find? (· != firstWidth (parts ++ others)) =
        some odd := by
      rw [Image.firstWidth_append hne, List.map_append, List.find?_append, hodd]
      rfl
    rw [stackTiles_eq_widthDiffers hwhole, Image.firstWidth_append hne]
  · cases hfault

/-- Images below others do not make up for a height. -/
theorem stackTiles_append_of_tooHigh {height : Nat}
    (h : stackTiles parts = .error (.stitch (.tooHigh height))) (others : List Image) :
    (∃ odd first, stackTiles (parts ++ others) = .error (.stitch (.widthDiffers odd first))) ∨
      ∃ more, stackTiles (parts ++ others) = .error (.stitch (.tooHigh (height + more))) := by
  rcases stackTiles_eq_error h with ⟨odd', -, hfault⟩ | ⟨-, hheight, hfault⟩
  · cases hfault
  · cases hfault
    cases hodd : ((parts ++ others).map Image.width).find? (· != firstWidth (parts ++ others)) with
    | some odd => exact .inl ⟨odd, _, stackTiles_eq_widthDiffers hodd⟩
    | none =>
      have hhigh := (stackTiles_of_same_width hodd).2
      rw [Image.totalHeight_append] at hhigh
      exact .inr ⟨totalHeight others, hhigh (by omega)⟩

/-- **Lists of images that are alike come to the same stack**, or to the same fault. -/
theorem stackTiles_congr (h : SameStack parts parts') : stackTiles parts = stackTiles parts' := by
  have hfirst := h.firstWidth_eq
  have hodd := h.odd (firstWidth parts)
  cases hfind : (parts.map Image.width).find? (· != firstWidth parts) with
  | some odd =>
    rw [stackTiles_eq_widthDiffers hfind, hfirst]
    exact (stackTiles_eq_widthDiffers (hfirst ▸ hodd ▸ hfind)).symm
  | none =>
    obtain ⟨hlow, hhigh⟩ := stackTiles_of_same_width hfind
    obtain ⟨hlow', hhigh'⟩ := stackTiles_of_same_width (hfirst ▸ hodd ▸ hfind)
    rw [← h.height] at hlow' hhigh'
    by_cases hheight : totalHeight parts < UInt32.size
    · obtain ⟨img, himg⟩ := hlow hheight
      obtain ⟨img', himg'⟩ := hlow' hheight
      obtain ⟨-, -, hw, hh, hp⟩ := stackTiles_eq_ok himg
      obtain ⟨-, -, hw', hh', hp'⟩ := stackTiles_eq_ok himg'
      rw [← List.head?_map] at hw hw'
      rw [himg, himg']
      refine congrArg Except.ok (Image.ext_pixels (Prod.ext ?_ ?_) (Array.toList_inj.1 ?_))
      · exact (hw.trans hfirst).trans hw'.symm
      · exact UInt32.toNat_inj.1 ((hh.trans h.height).trans hh'.symm)
      · exact (hp.trans h.pixels).trans hp'.symm
    · exact (hhigh hheight).trans (hhigh' hheight).symm

/-! ## Tiles without pixels -/

/-- The tiles that have pixels. -/
def withPixels (tiles : List Image) : List Image := tiles.filter fun t => !t.isEmpty

theorem withPixels_append (a b : List Image) : withPixels (a ++ b) = withPixels a ++ withPixels b :=
  List.filter_append _ _

theorem withPixels_singleton (h : tile.isEmpty = false) : withPixels [tile] = [tile] :=
  List.filter_cons_of_pos (by rw [h]; rfl)

theorem withPixels_of_isEmpty (h : tile.isEmpty = true) (rest : List Image) :
    withPixels (tile :: rest) = withPixels rest :=
  List.filter_cons_of_neg (by rw [h]; exact Bool.false_ne_true)

theorem isEmpty_of_mem_withPixels (h : tile ∈ withPixels tiles) : tile.isEmpty = false := by
  simpa using (List.mem_filter.1 h).2

/-- A stack looks like the images that it was made of. -/
theorem sameStack_of_stackTiles (hne : parts ≠ []) (h : stackTiles parts = .ok tile) :
    SameStack parts [tile] := by
  obtain ⟨hwidths, -, hwidth, hheight, hpixels⟩ := stackTiles_eq_ok h
  rw [← hwidth] at hwidths
  cases parts with
  | nil => exact absurd rfl hne
  | cons p rest =>
    refine ⟨?_, fun w => ?_, ?_, ?_⟩
    · exact congrArg some (hwidths p List.mem_cons_self)
    · -- all widths are that of the stack: the first one deviates, or none does
      by_cases hw : tile.width = w
      · have hnone : ∀ v ∈ (p :: rest).map Image.width, ¬ (v != w) = true := by
          intro v hv
          obtain ⟨q, hq, rfl⟩ := List.mem_map.1 hv
          simp [hwidths q hq, hw]
        rw [List.find?_eq_none.2 hnone]
        exact (List.find?_eq_none.2 (by simp [hw])).symm
      · have hodd : ∀ l : List UInt32, (tile.width :: l).find? (· != w) = some tile.width :=
          fun l => by simp [hw]
        rw [List.map_cons, List.map_cons, hwidths p List.mem_cons_self, hodd, hodd]
    · exact hheight.symm.trans (Image.totalHeight_singleton tile).symm
    · rw [List.flatMap_singleton]
      exact hpixels.symm

/-- A stack of images with pixels has pixels, unless it is a stack of none. -/
theorem isEmpty_of_stackTiles (hparts : ∀ p ∈ parts, p.isEmpty = false) (hne : parts ≠ [])
    (h : stackTiles parts = .ok tile) : tile.isEmpty = false := by
  have hsame := sameStack_of_stackTiles hne h
  obtain ⟨p, rest, rfl⟩ := List.exists_cons_of_ne_nil hne
  obtain ⟨hw, hh⟩ := Image.isEmpty_eq_false_iff.1 (hparts p List.mem_cons_self)
  have hwidth : p.width = tile.width := Option.some.inj hsame.first
  have hheight : p.height.toNat + totalHeight rest = tile.height.toNat :=
    hsame.height.trans (Image.totalHeight_singleton tile)
  exact Image.isEmpty_eq_false_iff.2 ⟨hwidth ▸ hw, by omega⟩

/-- The image without rows and columns. -/
def nothing : Image := Image.filled 0 0 .transparent

theorem stackTiles_nil : stackTiles [] = .ok nothing := rfl

/-- An image alone is its own stack. -/
theorem stackTiles_singleton (tile : Image) : stackTiles [tile] = .ok tile := by
  have hodd : ([tile].map Image.width).find? (· != firstWidth [tile]) = none :=
    List.find?_eq_none.2 (by simp [firstWidth])
  obtain ⟨img, himg⟩ := (stackTiles_of_same_width hodd).1
    ((Image.totalHeight_singleton tile).symm ▸ tile.height.toNat_lt)
  have hsame := sameStack_of_stackTiles (List.cons_ne_nil _ _) himg
  have hheight := (Image.totalHeight_singleton tile).symm.trans hsame.height
  rw [Image.totalHeight_singleton] at hheight
  have hpixels := hsame.pixels
  rw [List.flatMap_singleton, List.flatMap_singleton] at hpixels
  rw [himg]
  exact congrArg Except.ok (Image.ext_pixels
    (Prod.ext (Option.some.inj hsame.first).symm (UInt32.toNat_inj.1 hheight.symm))
    (Array.toList_inj.1 hpixels.symm))

/-! ## Whole pages -/

/-- **Where there is a tile with pixels, the tiles without pixels do not count**, a single tile
included. -/
theorem stitch_eq_stackTiles (h : withPixels tiles ≠ [] ∨ 2 ≤ tiles.length) :
    fullPage.stitch tiles = stackTiles (withPixels tiles) := by
  match tiles with
  | [] => exact absurd h (by simp [withPixels])
  | [tile] =>
    have hpixels : tile.isEmpty = false := by
      refine Bool.eq_false_iff.2 fun hempty => ?_
      rw [withPixels_of_isEmpty hempty] at h
      exact absurd h (by simp [withPixels])
    rw [withPixels_singleton hpixels, stackTiles_singleton]
    rfl
  | _ :: _ :: _ => rfl

/-- A page looks like the tiles that it was made of. -/
theorem sameStack_of_stitch (h : fullPage.stitch tiles = .ok tile) :
    SameStack (withPixels tiles) (withPixels [tile]) := by
  match tiles, h with
  | [only], h =>
    obtain rfl : only = tile := Except.ok.inj h
    exact .refl _
  | first :: second :: rest, h =>
    rw [stitch_eq_stackTiles (.inr (by simp))] at h
    by_cases hne : withPixels (first :: second :: rest) = []
    · rw [hne, stackTiles_nil] at h
      obtain rfl := Except.ok.inj h
      rw [hne]
      exact .refl _
    · have hpixels := isEmpty_of_stackTiles (fun _ => isEmpty_of_mem_withPixels) hne h
      rw [withPixels_singleton hpixels]
      exact sameStack_of_stackTiles hne h

theorem ne_nil_of_stitch (h : fullPage.stitch tiles = .ok tile) : tiles ≠ [] := by
  rintro rfl
  cases h

/-- Two non-empty parts of a page are at least two tiles. -/
theorem stitch_append_of_ne_nil (ha : a ≠ []) (hb : b ≠ []) :
    fullPage.stitch (a ++ b) = stackTiles (withPixels a ++ withPixels b) := by
  have hlength := Nat.add_le_add (List.length_pos_iff.2 ha) (List.length_pos_iff.2 hb)
  rw [stitch_eq_stackTiles (.inr (List.length_append ▸ hlength)), withPixels_append]

/-- Why two images do not make a page. -/
theorem stitch_pair_eq_error {fault : CaptureFault}
    (h : fullPage.stitch [imgA, imgB] = .error fault) :
    (imgA.isEmpty = false ∧ imgB.isEmpty = false ∧ imgB.width ≠ imgA.width ∧
        fault = .stitch (.widthDiffers imgB.width imgA.width)) ∨
      (2 ^ 32 ≤ imgA.height.toNat + imgB.height.toNat ∧
        fault = .stitch (.tooHigh (imgA.height.toNat + imgB.height.toNat))) := by
  replace h : stackTiles (withPixels [imgA, imgB]) = .error fault := h
  -- a single image is never refused, so that both have pixels
  by_cases hA : imgA.isEmpty = true
  · rw [withPixels_of_isEmpty hA] at h
    by_cases hB : imgB.isEmpty = true
    · rw [withPixels_of_isEmpty hB] at h
      cases h
    · rw [withPixels_singleton (Bool.eq_false_iff.2 hB), stackTiles_singleton] at h
      cases h
  rw [← List.singleton_append, withPixels_append,
    withPixels_singleton (Bool.eq_false_iff.2 hA)] at h
  by_cases hB : imgB.isEmpty = true
  · rw [withPixels_of_isEmpty hB] at h
    cases (stackTiles_singleton imgA).symm.trans h
  rw [withPixels_singleton (Bool.eq_false_iff.2 hB)] at h
  rcases stackTiles_eq_error h with ⟨odd, hodd, hfault⟩ | ⟨-, hheight, hfault⟩
  · have hpair : imgB.width ≠ imgA.width ∧ imgB.width = odd := by
      simpa [firstWidth, List.find?_singleton] using hodd
    obtain ⟨hw, rfl⟩ := hpair
    exact .inl ⟨Bool.eq_false_iff.2 hA, Bool.eq_false_iff.2 hB, hw, hfault⟩
  · exact .inr ⟨hheight, hfault⟩

/-- A page that is refused is one of several tiles, and its tiles are refused as images. -/
theorem stackTiles_of_stitch_eq_error {fault : StitchFault} (hfault : fault ≠ .noTiles)
    (h : fullPage.stitch a = .error (.stitch fault)) (b : List Image) :
    stackTiles (withPixels a) = .error (.stitch fault) ∧
      fullPage.stitch (a ++ b) = stackTiles (withPixels a ++ withPixels b) := by
  match a, h with
  | [], h => exact absurd (CaptureFault.stitch.inj (Except.error.inj h)).symm hfault
  | first :: second :: rest, h => exact ⟨h, (withPixels_append _ b) ▸ rfl⟩

/-- **A page may be put together in two parts.**  If each of them comes to an image, all tiles
together come to what these two images come to, be it an image or a fault, and then the fault is
about the two images.  If the upper part is refused for a width, so is the whole, and if the upper
part is too high, the whole is too high or is refused for a width. -/
theorem stitch_append (a b : List Image) :
    (∀ imgA imgB, fullPage.stitch a = .ok imgA → fullPage.stitch b = .ok imgB →
      fullPage.stitch (a ++ b) = fullPage.stitch [imgA, imgB] ∧
      ∀ fault, fullPage.stitch (a ++ b) = .error fault →
        (imgA.isEmpty = false ∧ imgB.isEmpty = false ∧ imgB.width ≠ imgA.width ∧
            fault = .stitch (.widthDiffers imgB.width imgA.width)) ∨
          (2 ^ 32 ≤ imgA.height.toNat + imgB.height.toNat ∧
            fault = .stitch (.tooHigh (imgA.height.toNat + imgB.height.toNat)))) ∧
    (∀ odd first, fullPage.stitch a = .error (.stitch (.widthDiffers odd first)) →
      fullPage.stitch (a ++ b) = .error (.stitch (.widthDiffers odd first))) ∧
    ∀ height, fullPage.stitch a = .error (.stitch (.tooHigh height)) →
      (∃ odd first, fullPage.stitch (a ++ b) = .error (.stitch (.widthDiffers odd first))) ∨
        ∃ more, fullPage.stitch (a ++ b) = .error (.stitch (.tooHigh (height + more))) := by
  refine ⟨fun imgA imgB hA hB => ?_, fun odd first hA => ?_, fun height hA => ?_⟩
  · have hsame : fullPage.stitch (a ++ b) = fullPage.stitch [imgA, imgB] := by
      have hparts := (sameStack_of_stitch hA).append (sameStack_of_stitch hB)
      rw [stitch_append_of_ne_nil (ne_nil_of_stitch hA) (ne_nil_of_stitch hB),
        stackTiles_congr hparts, ← withPixels_append]
      rfl
    exact ⟨hsame, fun fault hfault => stitch_pair_eq_error (hsame.symm.trans hfault)⟩
  · obtain ⟨hstack, hwhole⟩ := stackTiles_of_stitch_eq_error (fun h => (by cases h)) hA b
    rw [hwhole]
    exact stackTiles_append_of_widthDiffers hstack _
  · obtain ⟨hstack, hwhole⟩ := stackTiles_of_stitch_eq_error (fun h => (by cases h)) hA b
    rw [hwhole]
    exact stackTiles_append_of_tooHigh hstack _

namespace TwoParts

/-- A pixel. -/
def dot : Image := .filled 1 1 ⟨16, 32, 48, 255⟩

/-- A column of the greatest height. -/
def column : Image := .filled 1 4294967295 ⟨64, 80, 96, 255⟩

/-- A row of two pixels. -/
def row : Image := .filled 2 1 ⟨64, 80, 96, 255⟩

/-- What a cut leaves of a tile that is all header and footer. -/
def consumed : Image := Cut.apply ⟨8, 8⟩ (.filled 5 10 ⟨64, 80, 96, 255⟩)

end TwoParts

open TwoParts in
/-- Two parts make a page, or are refused for a width as their images are, and a part that is too
high stays so. -/
theorem stitch_append_two_parts :
    fullPage.stitch ([consumed, row] ++ [row, consumed]) = fullPage.stitch [row, row] ∧
      fullPage.stitch ([consumed, dot] ++ [row, row]) = .error (.stitch (.widthDiffers 2 1)) ∧
      ∃ more, fullPage.stitch ([column, dot] ++ [dot]) =
        .error (.stitch (.tooHigh (4294967296 + more))) := by
  refine ⟨((stitch_append _ _).1 row row rfl rfl).1, ?_, ?_⟩
  · exact ((stitch_append _ _).1 dot (.filled 2 2 ⟨64, 80, 96, 255⟩) rfl rfl).1.trans rfl
  · refine ((stitch_append [column, dot] [dot]).2.2 4294967296 rfl).resolve_left ?_
    rintro ⟨odd, first, hwidth⟩
    cases (show fullPage.stitch ([column, dot] ++ [dot]) = .error (.stitch (.tooHigh 4294967297))
      from rfl).symm.trans hwidth

/-- An image without sides is the empty one. -/
theorem eq_nothing_of_dimensions (h : only.dimensions = (0, 0)) : only = nothing := by
  have hsize : only.pixels.size = 0 := by
    rw [only.size_eq, (Prod.mk.inj h).1]
    exact Nat.zero_mul _
  exact Image.ext_pixels h (Array.eq_empty_of_size_eq_zero hsize)

/-- **A tile without pixels leaves no trace in a page**, wherever it stands, unless it is put beside
a tile without pixels that was alone: that one is the page as it is, whereas two make a page without
rows and columns.  As soon as there is a tile with pixels, only the tiles with pixels count. -/
theorem stitch_insert_empty (before after : List Image) (hempty : tile.isEmpty = true)
    (hne : before ++ after ≠ []) :
    (fullPage.stitch (before ++ tile :: after) = fullPage.stitch (before ++ after) ↔
      ∀ only, before ++ after = [only] → only.isEmpty = true → only.dimensions = (0, 0)) ∧
    (∀ only, before ++ after = [only] → only.isEmpty = true →
      fullPage.stitch (before ++ after) = .ok only ∧
        fullPage.stitch (before ++ tile :: after) = .ok nothing) ∧
    ∀ others, withPixels others = withPixels (before ++ after) → withPixels others ≠ [] →
      fullPage.stitch others = fullPage.stitch (before ++ after) := by
  have hmore : fullPage.stitch (before ++ tile :: after) =
      stackTiles (withPixels (before ++ after)) := by
    have hlength := List.length_pos_iff.2 hne
    rw [List.length_append] at hlength
    rw [stitch_eq_stackTiles (.inr (by simp only [List.length_append, List.length_cons]; omega)),
      withPixels_append, withPixels_of_isEmpty hempty, withPixels_append]
  have hbeside : ∀ only, before ++ after = [only] → only.isEmpty = true →
      fullPage.stitch (before ++ after) = .ok only ∧
        fullPage.stitch (before ++ tile :: after) = .ok nothing := by
    intro only honly honlyEmpty
    rw [hmore, honly, withPixels_of_isEmpty honlyEmpty]
    exact ⟨rfl, rfl⟩
  refine ⟨⟨fun hsame only honly honlyEmpty => ?_, fun halone => ?_⟩, hbeside, ?_⟩
  · obtain ⟨hbefore, hafter⟩ := hbeside only honly honlyEmpty
    obtain rfl := Except.ok.inj ((hbefore.symm.trans hsame.symm).trans hafter)
    rfl
  · -- the tiles there are: one without pixels, one with pixels, or several
    by_cases hcount : withPixels (before ++ after) ≠ [] ∨ 2 ≤ (before ++ after).length
    · rw [hmore, stitch_eq_stackTiles hcount]
    · obtain ⟨hnone, hfew⟩ := not_or.1 hcount
      obtain ⟨only, honly⟩ : ∃ only, before ++ after = [only] :=
        List.length_eq_one_iff.1 (by have := List.length_pos_iff.2 hne; omega)
      have honlyEmpty : only.isEmpty = true := by
        by_contra hpixels
        rw [honly, withPixels_singleton (Bool.eq_false_iff.2 hpixels)] at hnone
        exact hnone (List.cons_ne_nil _ _)
      obtain ⟨hbefore, hafter⟩ := hbeside only honly honlyEmpty
      rw [hbefore, hafter, eq_nothing_of_dimensions (halone only honly honlyEmpty)]
  · intro others hothers hpixels
    rw [stitch_eq_stackTiles (.inl hpixels), stitch_eq_stackTiles (.inl (hothers ▸ hpixels)),
      hothers]

open TwoParts in
/-- Between two tiles that do not fit together, a tile that is all header and footer makes no
difference; beside one of its kind that was alone it does. -/
theorem stitch_insert_empty_consumed :
    fullPage.stitch [dot, consumed, row] = fullPage.stitch [dot, row] ∧
      fullPage.stitch [consumed] = .ok consumed ∧
      fullPage.stitch [consumed, consumed] = .ok nothing := by
  have hempty : consumed.isEmpty = true := by decide
  refine ⟨(stitch_insert_empty [dot] [row] hempty (by simp)).1.2 ?_,
    (stitch_insert_empty [] [consumed] hempty (by simp)).2.1 consumed rfl
      hempty⟩
  rintro only ⟨⟩

open TwoParts in
/-- A tile that is all header and footer is a page of its width, and two of them are a page without
columns. -/
theorem stitch_heeds_number_of_empty :
    consumed.isEmpty = true ∧
      fullPage.stitch [consumed, consumed] ≠ fullPage.stitch [consumed] := by
  refine ⟨by decide, fun hsame => ?_⟩
  have hok : (Except.ok nothing : Except CaptureFault Image) = .ok consumed := hsame
  have hwidth : nothing.width = consumed.width := congrArg Image.width (Except.ok.inj hok)
  exact absurd hwidth (by decide)

end Stitcher

end VisualRegression
