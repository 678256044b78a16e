/-!
# Base64

Bytes as text in an alphabet of 64 characters, three bytes in four characters, with equals signs for
what is missing at the end. Main statement: `digit?_char` says that a character stands for the digit
that it was written for.
-/

namespace VisualRegression.Base64

/-- The character of a digit below 64. -/
def char (n : Nat) : Char :=
  if n < 26 then Char.ofNat ('A'.toNat + n)
  else if n < 52 then Char.ofNat ('a'.toNat + (n - 26))
  else if n < 62 then Char.ofNat ('0'.toNat + (n - 52))
  else if n = 62 then '+' else '/'

/-- The digit that a character stands for. -/
def digit? (c : Char) : Option Nat :=
  if 'A' ≤ c ∧ c ≤ 'Z' then some (c.toNat - 'A'.toNat)
  else if 'a' ≤ c ∧ c ≤ 'z' then some (c.toNat - 'a'.toNat + 26)
  else if '0' ≤ c ∧ c ≤ '9' then some (c.toNat - '0'.toNat + 52)
  else if c = '+' then some 62
  else if c = '/' then some 63
  else none

/-- The text of bytes. -/
def encode : List UInt8 → List Char
  | a :: b :: c :: rest =>
    let n := a.toNat * 65536 + b.toNat * 256 + c.toNat
    char (n / 262144) :: char (n / 4096 % 64) :: char (n / 64 % 64) :: char (n % 64) :: encode rest
  | [a, b] =>
    let n := a.toNat * 1024 + b.toNat * 4
    [char (n / 4096), char (n / 64 % 64), char (n % 64), '=']
  | [a] =>
    let n := a.toNat * 16
    [char (n / 64), char (n % 64), '=', '=']
  | [] => []

/-- The last four characters: up to two of them fill up, and what they leave unused is zero. -/
def decodeLast? (w x y z : Char) : Option (List UInt8) :=
  match digit? w, digit? x, digit? y, digit? z with
  | some w, some x, some y, some z =>
    let n := w * 262144 + x * 4096 + y * 64 + z
    some [UInt8.ofNat (n / 65536), UInt8.ofNat (n / 256), UInt8.ofNat n]
  | some w, some x, some y, none =>
    let n := w * 4096 + x * 64 + y
    if z = '=' ∧ n % 4 = 0 then some [UInt8.ofNat (n / 1024), UInt8.ofNat (n / 4)] else none
  | some w, some x, none, none =>
    let n := w * 64 + x
    if y = '=' ∧ z = '=' ∧ n % 16 = 0 then some [UInt8.ofNat (n / 16)] else none
  | _, _, _, _ => none

/-- The bytes of a text. -/
def decode? : List Char → Option (List UInt8)
  | [] => some []
  | [w, x, y, z] => decodeLast? w x y z
  | w :: x :: y :: z :: rest => do
    let w ← digit? w
    let x ← digit? x
    let y ← digit? y
    let z ← digit? z
    let n := w * 262144 + x * 4096 + y * 64 + z
    let bytes ← decode? rest
    return UInt8.ofNat (n / 65536) :: UInt8.ofNat (n / 256) :: UInt8.ofNat n :: bytes
  | _ => none

/-- A character stands for the digit that it was written for. -/
theorem digit?_char : ∀ n < 64, digit? (char n) = some n := by decide

end VisualRegression.Base64
