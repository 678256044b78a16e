/-!
# Checksums and numbers in bytes

The cyclic redundancy check over chunks, the sum over compressed data, and numbers with the most
significant byte first. Main statement: `word?_wordBytes` says that a written number is read back.
-/

namespace VisualRegression.Png

/-- One bit of the cyclic redundancy check. -/
def crcBit (c : UInt32) : UInt32 :=
  if c % 2 = 1 then (0xEDB88320 : UInt32) ^^^ (c >>> 1) else c >>> 1

/-- One byte of the cyclic redundancy check. -/
def crcByte (c : UInt32) (b : UInt8) : UInt32 :=
  crcBit (crcBit (crcBit (crcBit (crcBit (crcBit (crcBit (crcBit (c ^^^ b.toUInt32))))))))

/-- The cyclic redundancy check of bytes. -/
def crc (bytes : List UInt8) : UInt32 :=
  (bytes.foldl crcByte (0xFFFFFFFF : UInt32)) ^^^ (0xFFFFFFFF : UInt32)

/-- The two running sums over compressed data. -/
def adlerSums (bytes : List UInt8) : Nat × Nat :=
  bytes.foldl (fun (a, b) byte =>
    let a := (a + byte.toNat) % 65521
    (a, (b + a) % 65521)) (1, 0)

/-- The sum over compressed data. -/
def adler (bytes : List UInt8) : Nat :=
  let (a, b) := adlerSums bytes
  b * 65536 + a

/-- A 32-bit number in four bytes. -/
def wordBytes (n : Nat) : List UInt8 :=
  [UInt8.ofNat (n / 16777216), UInt8.ofNat (n / 65536), UInt8.ofNat (n / 256), UInt8.ofNat n]

/-- Reads a number in four bytes. -/
def word? : List UInt8 → Option (Nat × List UInt8)
  | a :: b :: c :: d :: rest =>
    some (a.toNat * 16777216 + b.toNat * 65536 + c.toNat * 256 + d.toNat, rest)
  | _ => none

/-- A written number is read back. -/
theorem word?_wordBytes {n : Nat} (h : n < UInt32.size) (rest : List UInt8) :
    word? (wordBytes n ++ rest) = some (n, rest) := by
  simp only [UInt32.size] at h
  simp only [wordBytes, word?, List.cons_append, List.nil_append, UInt8.toNat_ofNat',
    Option.some.injEq, Prod.mk.injEq, and_true]
  omega

end VisualRegression.Png
