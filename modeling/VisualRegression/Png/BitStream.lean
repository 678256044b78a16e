/-!
# Streams of bits

Bytes read bit by bit, the least significant bit of a byte first. Main statements: `bit?_size` says
that a bit read is a bit less to read, and `take?_length` that bytes taken come off the stream.
-/

namespace VisualRegression.Png

/-- Unread bits: the lowest `left` bits of `part`, and then bytes. -/
structure BitStream where
  part : Nat
  left : Nat
  bytes : List UInt8
deriving Inhabited

namespace BitStream

/-- The bits of bytes. -/
def ofBytes (bytes : List UInt8) : BitStream := ⟨0, 0, bytes⟩

/-- The number of unread bits. -/
def size (s : BitStream) : Nat := s.left + 8 * s.bytes.length

/-- Reads one bit. -/
def bit? (s : BitStream) : Option (Nat × BitStream) :=
  match s.left with
  | left + 1 => some (s.part % 2, ⟨s.part / 2, left, s.bytes⟩)
  | 0 =>
    match s.bytes with
    | b :: rest => some (b.toNat % 2, ⟨b.toNat / 2, 7, rest⟩)
    | [] => none

/-- A bit read is a bit less to read. -/
theorem bit?_size {s s' : BitStream} {b : Nat} (h : s.bit? = some (b, s')) :
    s'.size + 1 = s.size := by
  obtain ⟨part, left, bytes⟩ := s
  cases left with
  | succ left =>
    simp only [bit?, Option.some.injEq, Prod.mk.injEq] at h
    obtain ⟨-, rfl⟩ := h
    simp only [size]; omega
  | zero =>
    cases bytes with
    | nil => simp [bit?] at h
    | cons c rest =>
      simp only [bit?, Option.some.injEq, Prod.mk.injEq] at h
      obtain ⟨-, rfl⟩ := h
      simp only [size, List.length_cons]; omega

/-- Reads a number of `n` bits, the least significant first. -/
def bits? : Nat → BitStream → Option (Nat × BitStream)
  | 0, s => some (0, s)
  | n + 1, s => do
    let (b, s) ← s.bit?
    let (high, s) ← bits? n s
    return (b + 2 * high, s)

/-- Drops what is left of a byte that was begun. -/
def align (s : BitStream) : BitStream := ⟨0, 0, s.bytes⟩

/-- Takes whole bytes from an aligned stream. -/
def take? (n : Nat) (s : BitStream) : Option (List UInt8 × BitStream) :=
  let taken := s.bytes.take n
  if taken.length = n then some (taken, ⟨0, 0, s.bytes.drop n⟩) else none

/-- Bytes taken come off the stream. -/
theorem take?_length {n : Nat} {s s' : BitStream} {taken : List UInt8}
    (h : s.take? n = some (taken, s')) : taken.length = n ∧ s.bytes = taken ++ s'.bytes := by
  simp only [take?] at h
  split at h
  · rename_i hl
    simp only [Option.some.injEq, Prod.mk.injEq] at h
    obtain ⟨rfl, rfl⟩ := h
    exact ⟨hl, (List.take_append_drop n s.bytes).symm⟩
  · cases h

end BitStream

end VisualRegression.Png
