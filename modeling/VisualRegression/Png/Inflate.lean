import VisualRegression.Png.Huffman

/-!
# Compressed data

Data compressed as a sequence of blocks: bytes as they are, or symbols of a fixed code or of a code
given with the block, which stand for bytes and for repetitions of what came before.
-/

namespace VisualRegression.Png

/-- The shortest length and the number of further bits of each length symbol. -/
def lengthBases : List (Nat × Nat) :=
  [(3, 0), (4, 0), (5, 0), (6, 0), (7, 0), (8, 0), (9, 0), (10, 0), (11, 1), (13, 1), (15, 1),
    (17, 1), (19, 2), (23, 2), (27, 2), (31, 2), (35, 3), (43, 3), (51, 3), (59, 3), (67, 4),
    (83, 4), (99, 4), (115, 4), (131, 5), (163, 5), (195, 5), (227, 5), (258, 0)]

/-- The shortest distance and the number of further bits of each distance symbol. -/
def distanceBases : List (Nat × Nat) :=
  [(1, 0), (2, 0), (3, 0), (4, 0), (5, 1), (7, 1), (9, 2), (13, 2), (17, 3), (25, 3), (33, 4),
    (49, 4), (65, 5), (97, 5), (129, 6), (193, 6), (257, 7), (385, 7), (513, 8), (769, 8),
    (1025, 9), (1537, 9), (2049, 10), (3073, 10), (4097, 11), (6145, 11), (8193, 12), (12289, 12),
    (16385, 13), (24577, 13)]

/-- The two codes of a block: one of bytes and lengths, the other of distances. -/
structure BlockCodes where
  literals : HuffmanCode
  distances : HuffmanCode

/-- The codes of a block that brings none. -/
def fixedCodes : BlockCodes where
  literals := .ofLengths (List.replicate 144 8 ++ List.replicate 112 9 ++ List.replicate 24 7 ++
    List.replicate 8 8)
  distances := .ofLengths (List.replicate 32 5)

/-- Appends a repetition of what came before. -/
def copyBack (distance : Nat) : Nat → Array UInt8 → Array UInt8
  | 0, out => out
  | n + 1, out => copyBack distance n (out.push (out[out.size - distance]?.getD 0))

/-- Reads a number given by a symbol and further bits. -/
def readBase? (bases : List (Nat × Nat)) (symbol : Nat) (s : BitStream) :
    Option (Nat × BitStream) := do
  let (base, extra) ← bases[symbol]?
  let (n, s) ← s.bits? extra
  return (base + n, s)

/-- Reads the symbols of a block up to its end. -/
def readSymbols? (codes : BlockCodes) : Nat → Array UInt8 → BitStream →
    Option (Array UInt8 × BitStream)
  | 0, _, _ => none
  | fuel + 1, out, s => do
    let (symbol, s) ← codes.literals.decode? s
    if symbol < 256 then readSymbols? codes fuel (out.push (UInt8.ofNat symbol)) s
    else if symbol = 256 then return (out, s)
    else
      let (length, s) ← readBase? lengthBases (symbol - 257) s
      let (symbol, s) ← codes.distances.decode? s
      let (distance, s) ← readBase? distanceBases symbol s
      if distance > out.size then none
      else readSymbols? codes fuel (copyBack distance length out) s

/-- Reads a block of bytes as they are. -/
def readStored? (out : Array UInt8) (s : BitStream) : Option (Array UInt8 × BitStream) := do
  let (header, s) ← s.align.take? 4
  match header with
  | [a, b, c, d] =>
    let length := a.toNat + 256 * b.toNat
    if c.toNat + 256 * d.toNat = 65535 - length then
      let (bytes, s) ← s.take? length
      return (out ++ bytes.toArray, s)
    else none
  | _ => none

/-- The order in which the lengths of the code of code lengths are given. -/
def lengthCodeOrder : List Nat :=
  [16, 17, 18, 0, 8, 7, 9, 6, 10, 5, 11, 4, 12, 3, 13, 2, 14, 1, 15]

/-- Reads `n` numbers of three bits. -/
def readLengthCode? : Nat → BitStream → Option (List Nat × BitStream)
  | 0, s => some ([], s)
  | n + 1, s => do
    let (length, s) ← s.bits? 3
    let (rest, s) ← readLengthCode? n s
    return (length :: rest, s)

/-- Reads code lengths until there are `count` of them; some symbols stand for repetitions. The
lengths so far are in reverse order. -/
def readLengths? (code : HuffmanCode) (count : Nat) : Nat → List Nat → BitStream →
    Option (List Nat × BitStream)
  | 0, _, _ => none
  | fuel + 1, acc, s =>
    if acc.length = count then some (acc.reverse, s)
    else if acc.length > count then none
    else do
      let (symbol, s) ← code.decode? s
      if symbol < 16 then readLengths? code count fuel (symbol :: acc) s
      else if symbol = 16 then
        let previous ← acc.head?
        let (n, s) ← s.bits? 2
        readLengths? code count fuel (List.replicate (n + 3) previous ++ acc) s
      else if symbol = 17 then
        let (n, s) ← s.bits? 3
        readLengths? code count fuel (List.replicate (n + 3) 0 ++ acc) s
      else
        let (n, s) ← s.bits? 7
        readLengths? code count fuel (List.replicate (n + 11) 0 ++ acc) s

/-- Reads the codes of a block that brings its own. -/
def readCodes? (s : BitStream) : Option (BlockCodes × BitStream) := do
  let (literalCount, s) ← s.bits? 5
  let (distanceCount, s) ← s.bits? 5
  let (lengthCount, s) ← s.bits? 4
  let literalCount := literalCount + 257
  let distanceCount := distanceCount + 1
  guard (literalCount ≤ 286 ∧ distanceCount ≤ 30)
  let (given, s) ← readLengthCode? (lengthCount + 4) s
  let ordered := lengthCodeOrder.zip given
  let lengthCode := HuffmanCode.ofLengths ((List.range 19).map fun i => (ordered.lookup i).getD 0)
  guard lengthCode.isComplete
  let total := literalCount + distanceCount
  let (lengths, s) ← readLengths? lengthCode total (total + 1) [] s
  let literalLengths := lengths.take literalCount
  guard (literalLengths[256]? ≠ some 0)
  let literals := HuffmanCode.ofLengths literalLengths
  let distances := HuffmanCode.ofLengths (lengths.drop literalCount)
  guard literals.isComplete
  guard (distances.isComplete || distances.isTrivial)
  return (⟨literals, distances⟩, s)

/-- Reads blocks up to the last one. -/
def readBlocks? : Nat → Array UInt8 → BitStream → Option (Array UInt8 × BitStream)
  | 0, _, _ => none
  | fuel + 1, out, s => do
    let (last, s) ← s.bit?
    let (kind, s) ← s.bits? 2
    let (out, s) ← match kind with
      | 0 => readStored? out s
      | 1 => readSymbols? fixedCodes (s.size + 1) out s
      | 2 => do
        let (codes, s) ← readCodes? s
        readSymbols? codes (s.size + 1) out s
      | _ => none
    if last = 1 then return (out, s) else readBlocks? fuel out s

/-- The data compressed in bytes: two bytes that name the method, blocks, and four bytes for a sum
over the data, which have to be there. What follows does not count. -/
def inflate? : List UInt8 → Option (Array UInt8)
  | method :: flags :: rest => do
    guard (method.toNat % 16 = 8 ∧ method.toNat / 16 ≤ 7)
    guard ((method.toNat * 256 + flags.toNat) % 31 = 0)
    guard (flags.toNat / 32 % 2 = 0)
    let s := BitStream.ofBytes rest
    let (out, s) ← readBlocks? (s.size + 1) #[] s
    let _ ← s.align.take? 4
    return out
  | _ => none

end VisualRegression.Png
