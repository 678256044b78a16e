import VisualRegression.Png.Checksum

/-!
# Chunks

A file is a sequence of named chunks: the length of the data, the name, the data and a check over
name and data. Main statement: `read?_write` says that a chunk that is written is read back.
-/

namespace VisualRegression.Png

/-- What a chunk holds, as its name says. -/
inductive ChunkKind where
  /-- The properties of the image. -/
  | header
  /-- The colours that pixels refer to. -/
  | palette
  /-- Which colours let the ground show through. -/
  | transparency
  /-- A part of the compressed pixels. -/
  | content
  /-- The end of the file. -/
  | ending
  /-- Anything else. -/
  | other (name : List UInt8)
deriving DecidableEq

namespace ChunkKind

/-- The name of the header: `IHDR`. -/
def headerName : List UInt8 := [73, 72, 68, 82]

/-- The name of the palette: `PLTE`. -/
def paletteName : List UInt8 := [80, 76, 84, 69]

/-- The name of the transparency: `tRNS`. -/
def transparencyName : List UInt8 := [116, 82, 78, 83]

/-- The name of compressed pixels: `IDAT`. -/
def contentName : List UInt8 := [73, 68, 65, 84]

/-- The name of the end: `IEND`. -/
def endingName : List UInt8 := [73, 69, 78, 68]

/-- The kind of chunk with a name. -/
def ofName (name : List UInt8) : ChunkKind :=
  if name = headerName then .header
  else if name = paletteName then .palette
  else if name = transparencyName then .transparency
  else if name = contentName then .content
  else if name = endingName then .ending
  else .other name

/-- The name of a kind of chunk. -/
def name : ChunkKind → List UInt8
  | .header => headerName
  | .palette => paletteName
  | .transparency => transparencyName
  | .content => contentName
  | .ending => endingName
  | .other name => name

/-- A reader has to understand the chunk: its name starts with a capital letter. -/
def isCritical (k : ChunkKind) : Bool :=
  match k.name with
  | c :: _ => c &&& 32 == 0
  | [] => true

theorem ofName_name {k : ChunkKind} (h : ∀ name, k ≠ .other name) : ofName k.name = k := by
  cases k with
  | other name => exact absurd rfl (h name)
  | _ => rfl

end ChunkKind

/-- A named part of a file. -/
structure Chunk where
  kind : ChunkKind
  data : List UInt8
deriving DecidableEq

namespace Chunk

/-- The bytes of a chunk. -/
def write (c : Chunk) : List UInt8 :=
  wordBytes c.data.length ++
    (c.kind.name ++ (c.data ++ wordBytes (crc (c.kind.name ++ c.data)).toNat))

/-- Reads how a chunk begins: the length of its data and what it holds. -/
def readHead? (bytes : List UInt8) : Option (Nat × ChunkKind × List UInt8) := do
  let (length, rest) ← word? bytes
  let name := rest.take 4
  if name.length = 4 then some (length, .ofName name, rest.drop 4) else none

/-- Reads a chunk. The check has to hold for a chunk that a reader has to understand. -/
def read? (bytes : List UInt8) : Option (Chunk × List UInt8) := do
  let (length, kind, rest) ← readHead? bytes
  let data := rest.take length
  if data.length = length then
    let (check, after) ← word? (rest.drop length)
    if kind.isCritical ∧ check ≠ (crc (kind.name ++ data)).toNat then none
    else some (⟨kind, data⟩, after)
  else none

theorem readHead?_length {bytes rest : List UInt8} {length : Nat} {kind : ChunkKind}
    (h : readHead? bytes = some (length, kind, rest)) : rest.length + 8 = bytes.length := by
  simp only [readHead?, Option.bind_eq_bind] at h
  obtain ⟨⟨n, r⟩, hw, h⟩ := Option.bind_eq_some_iff.1 h
  have hr : r.length + 4 = bytes.length := by
    match bytes, hw with
    | a :: b :: c :: d :: r', hw =>
      simp only [word?, Option.some.injEq, Prod.mk.injEq] at hw
      simp [← hw.2]
  dsimp only at h
  split at h
  · rename_i hl
    simp only [Option.some.injEq, Prod.mk.injEq] at h
    obtain ⟨-, -, rfl⟩ := h
    rw [List.length_take] at hl
    rw [List.length_drop]
    omega
  · cases h

/-- A chunk takes bytes to read. -/
theorem read?_length {bytes rest : List UInt8} {c : Chunk} (h : read? bytes = some (c, rest)) :
    rest.length < bytes.length := by
  simp only [read?, Option.bind_eq_bind] at h
  obtain ⟨⟨length, kind, r⟩, hh, h⟩ := Option.bind_eq_some_iff.1 h
  have hr := readHead?_length hh
  dsimp only at h
  split at h
  · obtain ⟨⟨check, after⟩, hw, h⟩ := Option.bind_eq_some_iff.1 h
    have ha : after.length ≤ (r.drop length).length := by
      generalize r.drop length = q at hw
      match q, hw with
      | a :: b :: c :: d :: r', hw =>
        simp only [word?, Option.some.injEq, Prod.mk.injEq] at hw
        simp only [← hw.2, List.length_cons]
        omega
    rw [List.length_drop] at ha
    dsimp only at h
    split at h
    · cases h
    · simp only [Option.some.injEq, Prod.mk.injEq] at h
      obtain ⟨-, rfl⟩ := h
      omega
  · cases h

theorem readHead?_write {c : Chunk} (hk : ∀ name, c.kind ≠ .other name)
    (hd : c.data.length < UInt32.size) (rest : List UInt8) :
    readHead? (c.write ++ rest) =
      some (c.data.length, c.kind,
        c.data ++ (wordBytes (crc (c.kind.name ++ c.data)).toNat ++ rest)) := by
  have hn : c.kind.name.length = 4 := by
    cases h : c.kind with
    | other name => exact absurd h (hk name)
    | _ => rfl
  simp only [readHead?, write, List.append_assoc, word?_wordBytes hd, Option.bind_eq_bind,
    Option.bind_some, List.take_left' hn, List.drop_left' hn, hn, if_true]
  rw [ChunkKind.ofName_name hk]

/-- A chunk that is written is read back. -/
theorem read?_write {c : Chunk} (hk : ∀ name, c.kind ≠ .other name)
    (hd : c.data.length < UInt32.size) (rest : List UInt8) :
    read? (c.write ++ rest) = some (c, rest) := by
  simp only [read?, readHead?_write hk hd, Option.bind_eq_bind, Option.bind_some,
    List.take_left' rfl, List.drop_left' rfl, if_true, word?_wordBytes (UInt32.toNat_lt _)]
  simp

end Chunk

end VisualRegression.Png
