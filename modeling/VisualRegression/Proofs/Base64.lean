import VisualRegression.Base64

/-!
# Base64 there and back

Bytes that were written in base64 are read back as they were.  Three bytes at a time the digits make
up the number again that they were taken from (`digits_number`, `bytes_number`), and what is left at
the end is one of three cases.  Main statement: `decode?_encode`.
-/

namespace VisualRegression.Base64

/-- A byte is what a number leaves of it. -/
theorem ofNat_eq {n : Nat} {byte : UInt8} (h : n % 256 = byte.toNat) : UInt8.ofNat n = byte := by
  refine UInt8.toNat_inj.1 ?_
  rw [UInt8.toNat_ofNat', h]

/-- What fills up is no digit. -/
theorem digit?_filler : digit? '=' = none := by decide

/-- Four digits of a number make up the number. -/
theorem digits_number (n : Nat) :
    n / 262144 * 262144 + n / 4096 % 64 * 4096 + n / 64 % 64 * 64 + n % 64 = n := by
  omega

/-- **Three bytes are those of the number that they make up.** -/
theorem bytes_number {a b c : UInt8} {n : Nat}
    (hn : n = a.toNat * 65536 + b.toNat * 256 + c.toNat) :
    n < 16777216 ∧ UInt8.ofNat (n / 65536) = a ∧ UInt8.ofNat (n / 256) = b ∧ UInt8.ofNat n = c := by
  have ha := a.toNat_lt
  have hb := b.toNat_lt
  have hc := c.toNat_lt
  have hfirst : n / 65536 % 256 = a.toNat := by omega
  have hsecond : n / 256 % 256 = b.toNat := by omega
  have hthird : n % 256 = c.toNat := by omega
  exact ⟨by omega, ofNat_eq hfirst, ofNat_eq hsecond, ofNat_eq hthird⟩

/-- The digits of a number below 2 to the power of 24. -/
theorem digit?_chars {n : Nat} (h : n < 16777216) :
    digit? (char (n / 262144)) = some (n / 262144) ∧
      digit? (char (n / 4096 % 64)) = some (n / 4096 % 64) ∧
      digit? (char (n / 64 % 64)) = some (n / 64 % 64) ∧
      digit? (char (n % 64)) = some (n % 64) :=
  ⟨digit?_char _ (by omega), digit?_char _ (by omega), digit?_char _ (by omega),
    digit?_char _ (by omega)⟩

/-- Behind four characters that are not the last ones, the rest is read. -/
theorem decode?_append {w x y z : Char} {rest : List Char} (h : rest ≠ []) :
    decode? (w :: x :: y :: z :: rest) = do
      let w ← digit? w
      let x ← digit? x
      let y ← digit? y
      let z ← digit? z
      let n := w * 262144 + x * 4096 + y * 64 + z
      let bytes ← decode? rest
      return UInt8.ofNat (n / 65536) :: UInt8.ofNat (n / 256) :: UInt8.ofNat n :: bytes := by
  obtain ⟨c, more, rfl⟩ := List.exists_cons_of_ne_nil h
  rfl

/-- Bytes that are there take characters. -/
theorem encode_ne_nil {bytes : List UInt8} (h : bytes ≠ []) : encode bytes ≠ [] := by
  intro hnil
  match bytes with
  | [] => exact h rfl
  | [a] => cases hnil
  | [a, b] => cases hnil
  | a :: b :: c :: rest => cases hnil

/-- The last byte, on its own. -/
theorem decode?_encode_one (a : UInt8) : decode? (encode [a]) = some [a] := by
  have ha := a.toNat_lt
  have hn : a.toNat * 16 / 64 * 64 + a.toNat * 16 % 64 = a.toNat * 16 := by omega
  have hbyte : a.toNat * 16 / 16 % 256 = a.toNat := by omega
  show decodeLast? (char (a.toNat * 16 / 64)) (char (a.toNat * 16 % 64)) '=' '=' = some [a]
  unfold decodeLast?
  rw [digit?_char _ (by omega), digit?_char _ (by omega), digit?_filler]
  dsimp only
  rw [hn, if_pos ⟨rfl, rfl, by omega⟩, ofNat_eq hbyte]

/-- The last two bytes. -/
theorem decode?_encode_two (a b : UInt8) : decode? (encode [a, b]) = some [a, b] := by
  have ha := a.toNat_lt
  have hb := b.toNat_lt
  obtain ⟨n, hn⟩ : ∃ n, n = a.toNat * 1024 + b.toNat * 4 := ⟨_, rfl⟩
  have hdigits : n / 4096 * 4096 + n / 64 % 64 * 64 + n % 64 = n := by omega
  have hfirst : n / 1024 % 256 = a.toNat := by omega
  have hsecond : n / 4 % 256 = b.toNat := by omega
  show decodeLast? (char ((a.toNat * 1024 + b.toNat * 4) / 4096))
    (char ((a.toNat * 1024 + b.toNat * 4) / 64 % 64))
    (char ((a.toNat * 1024 + b.toNat * 4) % 64)) '=' = some [a, b]
  rw [← hn]
  unfold decodeLast?
  rw [digit?_char _ (by omega), digit?_char _ (by omega), digit?_char _ (by omega), digit?_filler]
  dsimp only
  rw [hdigits, if_pos ⟨rfl, by omega⟩, ofNat_eq hfirst, ofNat_eq hsecond]

/-- Three bytes, and what comes behind them. -/
theorem decode?_encode_group (a b c : UInt8) {rest : List UInt8}
    (h : decode? (encode rest) = some rest) :
    decode? (encode (a :: b :: c :: rest)) = some (a :: b :: c :: rest) := by
  obtain ⟨n, hn⟩ : ∃ n, n = a.toNat * 65536 + b.toNat * 256 + c.toNat := ⟨_, rfl⟩
  obtain ⟨hlt, hfirst, hsecond, hthird⟩ := bytes_number hn
  obtain ⟨hw, hx, hy, hz⟩ := digit?_chars hlt
  rw [encode, ← hn]
  by_cases hrest : rest = []
  · -- the last four characters are all digits
    subst hrest
    show decodeLast? _ _ _ _ = _
    unfold decodeLast?
    rw [hw, hx, hy, hz]
    dsimp only
    rw [digits_number, hfirst, hsecond, hthird]
  · rw [decode?_append (encode_ne_nil hrest), hw, hx, hy, hz, h]
    show some (UInt8.ofNat (_ / 65536) :: UInt8.ofNat (_ / 256) :: UInt8.ofNat _ :: rest) = _
    rw [digits_number, hfirst, hsecond, hthird]

/-- **Bytes that were written in base64 are read back.** -/
theorem decode?_encode (bytes : List UInt8) : decode? (encode bytes) = some bytes := by
  induction bytes using encode.induct with
  | case1 a b c rest ih => exact decode?_encode_group a b c ih
  | case2 a b => exact decode?_encode_two a b
  | case3 a => exact decode?_encode_one a
  | case4 => rfl

/-- Two bytes take three digits, and one sign fills up. -/
example :
    encode [77, 97] = ['T', 'W', 'E', '='] ∧
      decode? ['T', 'W', 'E', '='] = some [77, 97] := by
  decide

end VisualRegression.Base64
