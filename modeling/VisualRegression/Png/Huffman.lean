import VisualRegression.Png.BitStream

/-!
# Codes by their lengths

A code of symbols as bits is given by the length of each symbol's code word: shorter words come
first, and words of one length are numbered in the order of their symbols. A code has to use up the
space of words. Main statement: `decode?_size` says that a symbol takes at least one bit.
-/

namespace VisualRegression.Png

/-- A code: the number of words of each length from one on, and the symbols in the order of their
words. -/
structure HuffmanCode where
  counts : List Nat
  symbols : Array Nat

namespace HuffmanCode

/-- The longest code word. -/
def maxLength : Nat := 15

/-- The symbols with a code word of a length. -/
def symbolsOfLength (lengths : List Nat) (length : Nat) : List Nat :=
  (List.range lengths.length).filter fun symbol => lengths[symbol]? == some length

/-- The code with these word lengths. -/
def ofLengths (lengths : List Nat) : HuffmanCode :=
  let words := (List.range maxLength).map fun i => symbolsOfLength lengths (i + 1)
  ⟨words.map List.length, words.flatten.toArray⟩

/-- The share of the space of words that the words of a code take up, in words of length
`maxLength`. -/
def spaceUsed (c : HuffmanCode) : Nat :=
  c.counts.zipIdx.foldl (fun used (count, i) => used + count <<< (maxLength - 1 - i)) 0

/-- The code uses up the space of words. -/
def isComplete (c : HuffmanCode) : Bool := c.spaceUsed == 1 <<< maxLength

/-- The code has no symbol, or one of them with a word of one bit. -/
def isTrivial (c : HuffmanCode) : Bool :=
  c.symbols.isEmpty || (c.symbols.size == 1 && c.counts.head? == some 1)

/-- Reads a symbol: with each bit the word so far is compared with the words of its length. -/
def decodeFrom? (symbols : Array Nat) :
    List Nat → (word first index : Nat) → BitStream → Option (Nat × BitStream)
  | [], _, _, _, _ => none
  | count :: rest, word, first, index, s => do
    let (b, s) ← s.bit?
    let word := 2 * word + b
    if word < first + count then
      let symbol ← symbols[index + (word - first)]?
      return (symbol, s)
    else decodeFrom? symbols rest word (2 * (first + count)) (index + count) s

/-- Reads a symbol. -/
def decode? (c : HuffmanCode) (s : BitStream) : Option (Nat × BitStream) :=
  decodeFrom? c.symbols c.counts 0 0 0 s

theorem decodeFrom?_size {symbols : Array Nat} {counts : List Nat} {word first index symbol : Nat}
    {s s' : BitStream} (h : decodeFrom? symbols counts word first index s = some (symbol, s')) :
    s'.size < s.size := by
  induction counts generalizing word first index s with
  | nil => simp [decodeFrom?] at h
  | cons count rest ih =>
    simp only [decodeFrom?, Option.bind_eq_bind] at h
    obtain ⟨⟨b, s₁⟩, hb, h⟩ := Option.bind_eq_some_iff.1 h
    have hs := BitStream.bit?_size hb
    dsimp only at h
    split at h
    · obtain ⟨symbol', -, h⟩ := Option.bind_eq_some_iff.1 h
      cases h
      omega
    · have := ih h
      omega

/-- A symbol takes at least one bit. -/
theorem decode?_size {c : HuffmanCode} {symbol : Nat} {s s' : BitStream}
    (h : c.decode? s = some (symbol, s')) : s'.size < s.size :=
  decodeFrom?_size h

end HuffmanCode

end VisualRegression.Png
