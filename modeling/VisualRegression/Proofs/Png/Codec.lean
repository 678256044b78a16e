import VisualRegression.Proofs.Image
import VisualRegression.Proofs.Png.Inflate
import VisualRegression.Proofs.Png.Rows

/-!
# Image files lose nothing

A file that was written is read as the image that it was made of, and no file is read as an image
without pixels: `codec_lossless` and `isEmpty_of_decode`.
-/

namespace VisualRegression.Png

/-! ## Chunks of content -/

theorem readHead?_content {part : List UInt8} (h : part.length < UInt32.size) (rest : List UInt8) :
    ∃ after, Chunk.readHead? (Chunk.write ⟨.content, part⟩ ++ rest) =
      some (part.length, .content, after) :=
  ⟨_, Chunk.readHead?_write (c := ⟨.content, part⟩) (by rintro _ ⟨⟩) h rest⟩

theorem read?_content {part : List UInt8} (h : part.length < UInt32.size) (rest : List UInt8) :
    Chunk.read? (Chunk.write ⟨.content, part⟩ ++ rest) = some (⟨.content, part⟩, rest) :=
  Chunk.read?_write (c := ⟨.content, part⟩) (by rintro _ ⟨⟩) h rest

theorem readHead?_ending :
    ∃ after, Chunk.readHead? (Chunk.write ⟨.ending, []⟩) = some (0, .ending, after) := by
  have h := Chunk.readHead?_write (c := ⟨.ending, []⟩) (by rintro _ ⟨⟩) (by decide) []
  rw [List.append_nil] at h
  exact ⟨_, h⟩

/-- Chunks of content that follow each other are read together, up to a chunk of another kind. -/
theorem readContent?_write {parts : List (List UInt8)}
    (h : ∀ part ∈ parts, part.length < UInt32.size) :
    readContent? ((parts.flatMap fun part => Chunk.write ⟨.content, part⟩) ++
      Chunk.write ⟨.ending, []⟩) = some parts.flatten := by
  induction parts with
  | nil =>
    obtain ⟨after, hhead⟩ := readHead?_ending
    rw [List.flatMap_nil, List.nil_append, readContent?, hhead]
    rfl
  | cons part parts ih =>
    have hpart : part.length < UInt32.size := h part List.mem_cons_self
    have hrest := ih fun other hother => h other (List.mem_cons_of_mem _ hother)
    rw [List.flatMap_cons, List.append_assoc, readContent?]
    obtain ⟨after, hhead⟩ := readHead?_content hpart
      ((parts.flatMap fun part => Chunk.write ⟨.content, part⟩) ++ Chunk.write ⟨.ending, []⟩)
    rw [hhead]
    dsimp only
    rw [if_pos rfl]
    split
    · rename_i hread
      rw [read?_content hpart] at hread
      cases hread
      rw [hrest]
      rfl
    · rename_i hread
      rw [read?_content hpart] at hread
      cases hread

/-- Content that comes first is all that is read. -/
theorem readChunks?_write {p : Preamble} {part : List UInt8} {parts : List (List UInt8)}
    (h : ∀ other ∈ part :: parts, other.length < UInt32.size) :
    readChunks? p (((part :: parts).flatMap fun part => Chunk.write ⟨.content, part⟩) ++
      Chunk.write ⟨.ending, []⟩) = some (p, (part :: parts).flatten) := by
  have hpart : part.length < UInt32.size := h part List.mem_cons_self
  have hcontent := readContent?_write h
  rw [List.flatMap_cons, List.append_assoc] at hcontent ⊢
  rw [readChunks?]
  split
  · rename_i hread
    rw [read?_content hpart] at hread
    cases hread
  · rename_i hread
    rw [read?_content hpart] at hread
    cases hread
    rw [if_pos rfl, hcontent]
    rfl

/-! ## Whole files -/

/-- The parts of the content of the file of an image. -/
def partsOf (img : Image) : List (List UInt8) :=
  [120, 1] :: (storedBlocks (rowBytes img) ++ [wordBytes (adler (rowBytes img))])

/-- The parts of the content fit their chunks. -/
theorem length_of_mem_partsOf {img : Image} : ∀ part ∈ partsOf img, part.length < UInt32.size := by
  intro part hpart
  rcases List.mem_cons.1 hpart with rfl | hpart
  · decide
  · rcases List.mem_append.1 hpart with hblock | hsum
    · refine forall_mem_storedBlocks (P := fun block => block.length < UInt32.size)
        (fun last data hdata => ?_) (rowBytes img) part hblock
      rw [length_storedBlock]
      unfold maxStored at hdata
      unfold UInt32.size
      omega
    · rw [List.mem_singleton.1 hsum, show (wordBytes (adler (rowBytes img))).length = 4 from rfl]
      decide

/-- The header of an image with pixels is read back. -/
theorem read?_headerOf {img : Image} (h : img.isEmpty = false) :
    Header.read? (headerOf img).write = some (headerOf img) := by
  obtain ⟨hw, hh⟩ := Image.sides_ne_zero h
  have hdepth : (headerOf img).depth ∈ (headerOf img).color.depths := List.mem_cons_self
  have hread := Header.read?_write (h := headerOf img) hw hh hdepth []
  rwa [List.append_nil] at hread

theorem inflate?_partsOf (img : Image) :
    inflate? (partsOf img).flatten = some (rowBytes img).toArray := by
  unfold partsOf
  rw [List.flatten_cons, List.flatten_append, List.flatten_singleton]
  exact inflate?_storedBlocks (rowBytes img) (adler (rowBytes img))

/-- The file of an image. -/
def fileOf (img : Image) : List UInt8 :=
  signature ++ (Chunk.write ⟨.header, (headerOf img).write⟩ ++
    (((partsOf img).flatMap fun part => Chunk.write ⟨.content, part⟩) ++ Chunk.write ⟨.ending, []⟩))

/-- An image with pixels is written to its file. -/
theorem encode_eq {img : Image} (h : img.isEmpty = false) : encode img = .ok (fileOf img) := by
  unfold encode fileOf partsOf
  rw [if_neg (Bool.eq_false_iff.1 h)]
  dsimp only
  rw [List.append_assoc, List.append_assoc, List.cons_append (a := [120, 1])]

/-- A file is read part by part. -/
theorem decode?_eq {rest content data after : List UInt8} {header : Header} {p : Preamble}
    {c : Coloring} {out : Array UInt8} {passes : List Pass}
    (hfirst : Chunk.read? rest = some (⟨.header, data⟩, after))
    (hheader : Header.read? data = some header)
    (hchunks : readChunks? ⟨header, none, none⟩ after = some (p, content))
    (hcoloring : p.coloring? = some c) (hinflate : inflate? content = some out)
    (hpasses : readPasses? header (if header.interlaced then Grid.passes else [Grid.whole])
      out.toList = some passes) :
    decode? (signature ++ rest) =
      some (Image.ofFn header.width header.height (c.pixelOf passes)) := by
  -- the parts are named, since the reading of a whole file is too much to be unfolded
  have hsignature : signature.isPrefixOf (signature ++ rest) = true := by
    simp [List.isPrefixOf_iff_prefix]
  unfold decode?
  rw [if_pos hsignature, List.drop_left, hfirst]
  dsimp only [Option.bind_eq_bind, Option.bind_some]
  rw [if_pos rfl, hheader]
  dsimp only [Option.bind_some]
  rw [hchunks]
  dsimp only [Option.bind_some]
  rw [hcoloring]
  dsimp only [Option.bind_some]
  rw [hinflate]
  dsimp only [Option.bind_some]
  rw [hpasses]
  rfl

/-- **A file that was written is read as the image that it was made of.** -/
theorem decode?_fileOf {img : Image} (h : img.isEmpty = false) :
    decode? (fileOf img) = some img := by
  have hwidth : img.width.toNat ≠ 0 := fun hz => (Image.sides_ne_zero h).1 (UInt32.toNat_inj.1 hz)
  have hfirst (rest : List UInt8) :
      Chunk.read? (Chunk.write ⟨.header, (headerOf img).write⟩ ++ rest) =
        some (⟨.header, (headerOf img).write⟩, rest) :=
    Chunk.read?_write (c := ⟨.header, (headerOf img).write⟩) (by rintro _ ⟨⟩)
      (show 13 < UInt32.size by decide) rest
  have hdecode := decode?_eq (hfirst _) (read?_headerOf h) (readChunks?_write length_of_mem_partsOf)
    (c := ⟨headerOf img, #[], none⟩) rfl (inflate?_partsOf img) (readPasses?_rowBytes hwidth)
  have himg : Image.ofFn (headerOf img).width (headerOf img).height
      (Coloring.pixelOf ⟨headerOf img, #[], none⟩ [⟨Grid.whole,
        ((List.range img.height.toNat).map fun y => (rowOf img y).toArray).toArray⟩]) = img :=
    Image.ofFn_eq fun x y hx hy => pixelOf_rowOf rfl rfl img hx hy
  rw [himg] at hdecode
  exact hdecode

/-- A number that is read from four bytes has 32 bits. -/
theorem lt_of_word? {bytes rest : List UInt8} {n : Nat} (h : word? bytes = some (n, rest)) :
    n < UInt32.size := by
  unfold word? at h
  split at h
  · rename_i a b c d rest'
    cases h
    have ha := a.toNat_lt
    have hb := b.toNat_lt
    have hc := c.toNat_lt
    have hd := d.toNat_lt
    unfold UInt32.size
    omega
  · cases h

/-- No header is read that has a side of zero. -/
theorem sides_of_read? {bytes : List UInt8} {header : Header}
    (h : Header.read? bytes = some header) :
    header.width.toNat ≠ 0 ∧ header.height.toNat ≠ 0 := by
  unfold Header.read? at h
  obtain ⟨⟨width, rest⟩, hwidth, h⟩ := Option.bind_eq_some_iff.1 h
  obtain ⟨⟨height, rest'⟩, hheight, h⟩ := Option.bind_eq_some_iff.1 h
  dsimp only at h
  split at h
  · obtain ⟨color, -, h⟩ := Option.bind_eq_some_iff.1 h
    split at h
    · rename_i hvalid
      cases h
      constructor
      · rw [UInt32.toNat_ofNat_of_lt' (lt_of_word? hwidth)]
        exact hvalid.1
      · rw [UInt32.toNat_ofNat_of_lt' (lt_of_word? hheight)]
        exact hvalid.2.1
    · cases h
  · cases h

/-- What is read from a file is built over the sides of its header. -/
theorem exists_header_of_decode? {bytes : List UInt8} {img : Image} (h : decode? bytes = some img) :
    ∃ data header f, Header.read? data = some header ∧
      img = Image.ofFn header.width header.height f := by
  unfold decode? at h
  split at h
  · obtain ⟨⟨first, rest⟩, -, h⟩ := Option.bind_eq_some_iff.1 h
    dsimp only at h
    split at h
    · obtain ⟨header, hheader, h⟩ := Option.bind_eq_some_iff.1 h
      obtain ⟨⟨preamble, content⟩, -, h⟩ := Option.bind_eq_some_iff.1 h
      obtain ⟨coloring, -, h⟩ := Option.bind_eq_some_iff.1 h
      obtain ⟨data, -, h⟩ := Option.bind_eq_some_iff.1 h
      obtain ⟨passes, -, h⟩ := Option.bind_eq_some_iff.1 h
      cases h
      exact ⟨first.data, header, coloring.pixelOf passes, hheader, rfl⟩
    · cases h
  · cases h

theorem codec_decode (bytes : List UInt8) :
    codec.decode bytes = (decode? bytes).elim (.error .unreadable) .ok := rfl

/-- **No file is read as an image without pixels.** -/
theorem isEmpty_of_decode {bytes : List UInt8} {img : Image} (h : codec.decode bytes = .ok img) :
    img.isEmpty = false := by
  have hread : decode? bytes = some img := by
    rw [codec_decode] at h
    rcases hd : decode? bytes with _ | found
    · rw [hd] at h
      cases h
    · rw [hd] at h
      cases h
      rfl
  obtain ⟨data, header, f, hheader, rfl⟩ := exists_header_of_decode? hread
  obtain ⟨hwidth, hheight⟩ := sides_of_read? hheader
  exact beq_eq_false_iff_ne.2 (Nat.mul_ne_zero hwidth hheight)

/-- The file of an image holds it. -/
theorem decode_fileOf {img : Image} (h : img.isEmpty = false) :
    codec.decode (fileOf img) = .ok img := by
  rw [codec_decode, decode?_fileOf h]
  rfl

/-- **The form of image files is lossless.** -/
theorem codec_lossless : codec.Lossless where
  decode_encode img h := ⟨fileOf img, encode_eq h, decode_fileOf h⟩
  encode_empty _ h := if_pos h

end VisualRegression.Png
