import Mathlib.Algebra.Order.Ring.Nat
import VisualRegression.Proofs.Failing
import VisualRegression.Proofs.Text.Grammar
import VisualRegression.Rect.Text

/-!
# Which texts are rectangles

`Rect.Denotes` tells which texts stand for a rectangle by what they are put together from: four
numerals, with blanks around them or none, and commas between them.  Reading accepts exactly these
texts (`read_ok_iff_denotes`).  What is written is one of them as long as the origin is on the page,
and none of them if it is left of or above it (`splits_text`, `says_repr`, `not_says_repr`).  Main
statement: `reads_four_numerals`.
-/

namespace VisualRegression.Rect

variable {text : String} {s : List Char} {n : Nat} {r : Rect} {fault : RectFault}

/-! ## Fields -/

/-- The field says a number: it is a numeral for it, with blanks around it or none. -/
def Says (field : List Char) (n : Nat) : Prop :=
  ∃ numeral, Text.Trims field numeral ∧ Numeral.Denotes numeral n

/-- The text is four fields that say these numbers, with commas between them. -/
def Lists (text : String) (vx vy vw vh : Nat) : Prop :=
  ∃ fx fy fw fh, Text.Splits ',' text.toList [fx, fy, fw, fh] ∧
    Says fx vx ∧ Says fy vy ∧ Says fw vw ∧ Says fh vh

/-- **The text stands for a rectangle**: it says a column and a row that leave the bit of the sign
free, a width and a height of 32 bits, and they are those of the rectangle. -/
def Denotes (text : String) (r : Rect) : Prop :=
  ∃ vx vy vw vh : Nat, Lists text vx vy vw vh ∧
    (vx ≤ 2 ^ 31 - 1 ∧ vy ≤ 2 ^ 31 - 1 ∧ vw ≤ 2 ^ 32 - 1 ∧ vh ≤ 2 ^ 32 - 1) ∧
    r.x.toInt = vx ∧ r.y.toInt = vy ∧ r.width.toNat = vw ∧ r.height.toNat = vh

theorem readField_ok_iff : readField s = .ok n ↔ Numeral.Denotes s n ∧ n ≤ 2 ^ 32 - 1 := by
  have hread : Numeral.read UInt32.size s = .ok n ↔ Numeral.Denotes s n ∧ n < UInt32.size :=
    Numeral.read_ok_iff_denotes (by decide)
  have hlt : n < UInt32.size ↔ n ≤ 2 ^ 32 - 1 := by
    simp only [UInt32.size]
    omega
  rw [← hlt, ← hread, readField]
  cases Numeral.read UInt32.size s <;> simp [Except.mapError]

theorem readOrigin_ok_iff : readOrigin s = .ok n ↔ Numeral.Denotes s n ∧ n ≤ 2 ^ 31 - 1 := by
  have hmax : (n : Int) ≤ Int32.maxValue.toInt ↔ n ≤ 2 ^ 31 - 1 := by
    simp only [Int32.toInt_maxValue]
    omega
  rw [readOrigin, bind_eq_ok]
  constructor
  · rintro ⟨m, hm, hn⟩
    split at hn
    · cases hn
      exact ⟨(readField_ok_iff.1 hm).1, hmax.1 ‹_›⟩
    · cases hn
  · rintro ⟨hdenotes, hn⟩
    exact ⟨n, readField_ok_iff.2 ⟨hdenotes, by omega⟩, if_pos (hmax.2 hn)⟩

/-- The trimmed fields are four exactly if the text splits into four, and then they are those. -/
theorem trimmed_fields_eq_iff {x y w h : List Char} :
    (Text.fields ',' text.toList).map Text.trim = [x, y, w, h] ↔
      ∃ fx fy fw fh, Text.Splits ',' text.toList [fx, fy, fw, fh] ∧
        Text.Trims fx x ∧ Text.Trims fy y ∧ Text.Trims fw w ∧ Text.Trims fh h := by
  simp only [← Text.fields_eq_iff, ← Text.trim_eq_iff]
  constructor
  · intro hmap
    obtain ⟨fx, rest, hfields, hx, hmap⟩ := List.map_eq_cons_iff.1 hmap
    obtain ⟨fy, rest, rfl, hy, hmap⟩ := List.map_eq_cons_iff.1 hmap
    obtain ⟨fw, rest, rfl, hw, hmap⟩ := List.map_eq_cons_iff.1 hmap
    obtain ⟨fh, rest, rfl, hh, hmap⟩ := List.map_eq_cons_iff.1 hmap
    obtain rfl := List.map_eq_nil_iff.1 hmap
    exact ⟨fx, fy, fw, fh, hfields, hx, hy, hw, hh⟩
  · rintro ⟨fx, fy, fw, fh, hfields, rfl, rfl, rfl, rfl⟩
    rw [hfields]
    rfl

/-! ## Reading -/

/-- The rectangle of numbers that fit has these numbers. -/
theorem eq_of_numbers {vx vy vw vh : Nat}
    (hx : vx ≤ 2 ^ 31 - 1) (hy : vy ≤ 2 ^ 31 - 1) (hw : vw ≤ 2 ^ 32 - 1) (hh : vh ≤ 2 ^ 32 - 1) :
    (⟨Int32.ofNat vx, Int32.ofNat vy, UInt32.ofNat vw, UInt32.ofNat vh⟩ : Rect) = r ↔
      r.x.toInt = vx ∧ r.y.toInt = vy ∧ r.width.toNat = vw ∧ r.height.toNat = vh := by
  have hx' : (Int32.ofNat vx).toInt = vx := Int32.toInt_ofNat_of_lt (by omega)
  have hy' : (Int32.ofNat vy).toInt = vy := Int32.toInt_ofNat_of_lt (by omega)
  have hsize : UInt32.size = 2 ^ 32 := rfl
  have hw' : (UInt32.ofNat vw).toNat = vw := UInt32.toNat_ofNat_of_lt' (by omega)
  have hh' : (UInt32.ofNat vh).toNat = vh := UInt32.toNat_ofNat_of_lt' (by omega)
  constructor
  · rintro rfl
    exact ⟨hx', hy', hw', hh'⟩
  · rintro ⟨rx, ry, rw, rh⟩
    exact ext_values (hx'.trans rx.symm) (hy'.trans ry.symm) (hw'.trans rw.symm) (hh'.trans rh.symm)

/-- **Exactly the texts that stand for a rectangle are read, each as the rectangle that it stands
for.** -/
theorem read_ok_iff_denotes : read text = .ok r ↔ Denotes text r := by
  constructor
  · intro hread
    unfold read at hread
    split at hread
    · rename_i x y w h hfields
      obtain ⟨fx, fy, fw, fh, hsplits, hx, hy, hw, hh⟩ := trimmed_fields_eq_iff.1 hfields
      obtain ⟨vx, hvx, hread⟩ := bind_eq_ok.1 hread
      obtain ⟨vy, hvy, hread⟩ := bind_eq_ok.1 hread
      obtain ⟨vw, hvw, hread⟩ := bind_eq_ok.1 hread
      obtain ⟨vh, hvh, hread⟩ := bind_eq_ok.1 hread
      obtain ⟨hnx, hlx⟩ := readOrigin_ok_iff.1 hvx
      obtain ⟨hny, hly⟩ := readOrigin_ok_iff.1 hvy
      obtain ⟨hnw, hlw⟩ := readField_ok_iff.1 hvw
      obtain ⟨hnh, hlh⟩ := readField_ok_iff.1 hvh
      exact ⟨vx, vy, vw, vh,
        ⟨fx, fy, fw, fh, hsplits, ⟨x, hx, hnx⟩, ⟨y, hy, hny⟩, ⟨w, hw, hnw⟩, ⟨h, hh, hnh⟩⟩,
        ⟨hlx, hly, hlw, hlh⟩, (eq_of_numbers hlx hly hlw hlh).1 (Except.ok.inj hread)⟩
    · cases hread
  · rintro ⟨vx, vy, vw, vh, ⟨fx, fy, fw, fh, hsplits, ⟨x, hx, hnx⟩, ⟨y, hy, hny⟩, ⟨w, hw, hnw⟩,
      ⟨h, hh, hnh⟩⟩, ⟨hlx, hly, hlw, hlh⟩, hr⟩
    rw [read, trimmed_fields_eq_iff.2 ⟨fx, fy, fw, fh, hsplits, hx, hy, hw, hh⟩]
    refine bind_eq_ok.2 ⟨vx, readOrigin_ok_iff.2 ⟨hnx, hlx⟩, ?_⟩
    refine bind_eq_ok.2 ⟨vy, readOrigin_ok_iff.2 ⟨hny, hly⟩, ?_⟩
    refine bind_eq_ok.2 ⟨vw, readField_ok_iff.2 ⟨hnw, hlw⟩, ?_⟩
    refine bind_eq_ok.2 ⟨vh, readField_ok_iff.2 ⟨hnh, hlh⟩, ?_⟩
    exact congrArg Except.ok ((eq_of_numbers hlx hly hlw hlh).2 hr)

/-! ## What is reported -/

/-- **What is reported of a text** is true of it: that it does not have four fields, that one of
them says no number of 32 bits, or that one says a number that needs the bit of the sign. -/
inductive Reports (text : String) : RectFault → Prop where
  | fieldCount (hcount : text.toList.count ',' ≠ 3) : Reports text (.fieldCount text)
  | field {s : String} {cause : NumeralFault} (hcount : text.toList.count ',' = 3)
      (hfield : ∃ field ∈ Text.fields ',' text.toList, Text.Trims field s.toList)
      (hnumber : ∀ n ≤ 2 ^ 32 - 1, ¬ Numeral.Denotes s.toList n) : Reports text (.field s cause)
  | originTooLarge (hcount : text.toList.count ',' = 3)
      (hfield : ∃ field ∈ Text.fields ',' text.toList, ∃ n, Says field n ∧ 2 ^ 31 - 1 < n) :
      Reports text .originTooLarge

theorem reports_of_readField (hcount : text.toList.count ',' = 3)
    (hfield : ∃ field ∈ Text.fields ',' text.toList, Text.Trims field s)
    (h : readField s = .error fault) : Reports text fault := by
  have hnumber : ∀ n ≤ 2 ^ 32 - 1, ¬ Numeral.Denotes s n := by
    intro n hn hdenotes
    rw [readField_ok_iff.2 ⟨hdenotes, hn⟩] at h
    cases h
  rw [readField] at h
  cases hread : Numeral.read UInt32.size s with
  | ok n =>
    rw [hread] at h
    cases h
  | error cause =>
    rw [hread] at h
    cases h
    exact .field hcount (by rwa [String.toList_ofList]) (by rwa [String.toList_ofList])

theorem reports_of_readOrigin (hcount : text.toList.count ',' = 3)
    (hfield : ∃ field ∈ Text.fields ',' text.toList, Text.Trims field s)
    (h : readOrigin s = .error fault) : Reports text fault := by
  rw [readOrigin] at h
  rcases bind_eq_error.1 h with h | ⟨n, hn, h⟩
  · exact reports_of_readField hcount hfield h
  · split at h
    · cases h
    · rename_i hlarge
      cases h
      obtain ⟨field, hmem, htrims⟩ := hfield
      rw [Int32.toInt_maxValue] at hlarge
      exact .originTooLarge hcount
        ⟨field, hmem, n, ⟨s, htrims, (readField_ok_iff.1 hn).1⟩, by omega⟩

theorem reports_of_read (h : read text = .error fault) : Reports text fault := by
  have hlength := Text.length_fields ',' text.toList
  unfold read at h
  split at h
  · rename_i x y w h' hfields
    have hcount : text.toList.count ',' = 3 := by
      have hfour := congrArg List.length hfields
      rw [List.length_map, hlength] at hfour
      exact Nat.succ.inj hfour
    have hfield : ∀ s ∈ [x, y, w, h'],
        ∃ field ∈ Text.fields ',' text.toList, Text.Trims field s := by
      intro s hs
      rw [← hfields] at hs
      obtain ⟨field, hmem, rfl⟩ := List.mem_map.1 hs
      exact ⟨field, hmem, Text.trims_trim field⟩
    rcases bind_eq_error.1 h with h | ⟨_, _, h⟩
    · exact reports_of_readOrigin hcount (hfield x (by simp)) h
    rcases bind_eq_error.1 h with h | ⟨_, _, h⟩
    · exact reports_of_readOrigin hcount (hfield y (by simp)) h
    rcases bind_eq_error.1 h with h | ⟨_, _, h⟩
    · exact reports_of_readField hcount (hfield w (by simp)) h
    rcases bind_eq_error.1 h with h | ⟨_, _, h⟩
    · exact reports_of_readField hcount (hfield h' (by simp)) h
    · cases h
  · rename_i hnot
    cases h
    refine .fieldCount fun hcount => ?_
    have hfour : ((Text.fields ',' text.toList).map Text.trim).length = 4 := by
      rw [List.length_map, hlength, hcount]
    obtain ⟨x, y, w, h, hfields⟩ := List.length_eq_four.1 hfour
    exact hnot x y w h hfields

/-- A text that stands for no rectangle is refused, for a reason that is true of it. -/
theorem exists_fault (h : ∀ r, ¬ Denotes text r) :
    ∃ fault, read text = .error fault ∧ Reports text fault := by
  cases hread : read text with
  | ok r => exact absurd (read_ok_iff_denotes.1 hread) (h r)
  | error fault => exact ⟨fault, rfl, reports_of_read hread⟩

/-! ## Writing -/

theorem isBlank_of_isDigit {c : Char} (h : c.isDigit = true) : Text.isBlank c = false := by
  obtain ⟨hlow, hhigh⟩ := Numeral.isDigit_iff.1 h
  have hlow : 48 ≤ c.toNat := hlow
  have hhigh : c.toNat ≤ 57 := hhigh
  simp only [Text.isBlank, Bool.or_eq_false_iff, Bool.and_eq_false_iff, decide_eq_false_iff_not,
    beq_eq_false_iff_ne]
  omega

/-- An integer is written with digits, after a minus sign if it is negative. -/
theorem mem_repr {n : Int} {c : Char} (h : c ∈ n.repr.toList) : c = '-' ∨ c.isDigit = true := by
  have hdigit : ∀ m : Nat, c ∈ m.repr.toList → c.isDigit = true := by
    intro m hm
    rw [Nat.toList_repr] at hm
    exact Nat.isDigit_of_mem_toDigits (by decide) (by decide) hm
  rw [Int.repr_eq_if] at h
  split at h
  · exact .inr (hdigit _ h)
  · rw [String.toList_append, List.mem_append] at h
    rcases h with h | h
    · exact .inl (List.mem_singleton.1 h)
    · exact .inr (hdigit _ h)

theorem trim_repr (n : Int) : Text.trim n.repr.toList = n.repr.toList := by
  refine Text.trim_of_not_blank fun c hc => ?_
  rcases mem_repr hc with rfl | hdigit
  · decide
  · exact isBlank_of_isDigit hdigit

theorem not_comma_mem_repr (n : Int) : ',' ∉ n.repr.toList := by
  intro h
  rcases mem_repr h with h | h <;> exact absurd h (by decide)

/-- A number is written as a field that says it. -/
theorem says_repr (n : Nat) : Says (n : Int).repr.toList n := by
  refine ⟨_, Text.trims_trim _, ?_⟩
  rw [trim_repr, Int.repr_eq_if, if_pos (Int.natCast_nonneg n), Int.toNat_natCast, Nat.toList_repr]
  exact Numeral.denotes_toDigits n

/-- A negative number is written as a field that says none. -/
theorem not_says_repr {n : Int} (h : n < 0) (v : Nat) : ¬ Says n.repr.toList v := by
  rintro ⟨numeral, htrims, hdenotes⟩
  rw [← Text.trim_of_trims htrims, trim_repr, Int.repr_eq_if, if_neg (Int.not_le.2 h),
    String.toList_append] at hdenotes
  exact Numeral.not_denotes_minus hdenotes

/-- **The fields of a written rectangle are its numbers.** -/
theorem splits_text (r : Rect) :
    Text.Splits ',' r.text.toList
      [r.x.toInt.repr.toList, r.y.toInt.repr.toList, (r.width.toNat : Int).repr.toList,
        (r.height.toNat : Int).repr.toList] where
  ne_nil := List.cons_ne_nil _ _
  clean := by
    simp only [List.forall_mem_cons, not_comma_mem_repr, not_false_eq_true, true_and]
    exact fun _ h => absurd h List.not_mem_nil
  joined := by
    have hnat : ∀ n : Nat, (n : Int).repr = n.repr := fun n => by
      rw [Int.repr_eq_if, if_pos (Int.natCast_nonneg n), Int.toNat_natCast]
    have htext : r.text = r.x.toInt.repr ++ "," ++ r.y.toInt.repr ++ "," ++ r.width.toNat.repr ++
        "," ++ r.height.toNat.repr := rfl
    rw [htext]
    simp only [List.intercalate_cons_cons, List.intercalate_singleton, String.toList_append, hnat,
      List.append_assoc]
    rfl

/-- **A rectangle with its origin on the page is written as a text that stands for it.** -/
theorem denotes_text (hx : 0 ≤ r.x.toInt) (hy : 0 ≤ r.y.toInt) : Denotes r.text r := by
  obtain ⟨vx, hvx⟩ := Int.eq_ofNat_of_zero_le hx
  obtain ⟨vy, hvy⟩ := Int.eq_ofNat_of_zero_le hy
  have hsplits := splits_text r
  rw [hvx, hvy] at hsplits
  have hx := r.x.toInt_lt
  have hy := r.y.toInt_lt
  have hw := r.width.toNat_lt
  have hh := r.height.toNat_lt
  exact ⟨vx, vy, r.width.toNat, r.height.toNat,
    ⟨_, _, _, _, hsplits, says_repr vx, says_repr vy, says_repr _, says_repr _⟩,
    ⟨by omega, by omega, by omega, by omega⟩, hvx, hvy, rfl, rfl⟩

/-- **A rectangle left of the page or above it is written as a text that stands for none.** -/
theorem not_denotes_text (h : r.x.toInt < 0 ∨ r.y.toInt < 0) (r' : Rect) : ¬ Denotes r.text r' := by
  rintro ⟨vx, vy, vw, vh, ⟨fx, fy, fw, fh, hsplits, hsaysx, hsaysy, -, -⟩, -⟩
  -- there is one way to split the text
  have hfields := (Text.fields_eq_iff.2 hsplits).symm.trans (Text.fields_eq_iff.2 (splits_text r))
  simp only [List.cons.injEq] at hfields
  obtain ⟨rfl, rfl, -⟩ := hfields
  rcases h with hx | hy
  · exact not_says_repr hx vx hsaysx
  · exact not_says_repr hy vy hsaysy

/-- What stands for a rectangle has its origin on the page. -/
theorem Denotes.origin (h : Denotes text r) : 0 ≤ r.x.toInt ∧ 0 ≤ r.y.toInt := by
  obtain ⟨vx, vy, vw, vh, -, -, hx, hy, -⟩ := h
  exact ⟨hx ▸ Int.natCast_nonneg vx, hy ▸ Int.natCast_nonneg vy⟩

/-! ## Reading and writing -/

/-- **Which texts are read as rectangles.**  A text is read as the rectangle that it stands for, and
is refused, for a reason that is true of it, if it stands for none.  What is written of a rectangle
is read as that rectangle if its origin is on the page, and refused otherwise; what was read once
and is written is read as the same rectangle again. -/
theorem reads_four_numerals (text : String) :
    (∀ r, read text = .ok r ↔ Denotes text r) ∧
    ((∀ r, ¬ Denotes text r) → ∃ fault, read text = .error fault ∧ Reports text fault) ∧
    (∀ r : Rect, 0 ≤ r.x.toInt → 0 ≤ r.y.toInt → read r.text = .ok r) ∧
    (∀ r : Rect, r.x.toInt < 0 ∨ r.y.toInt < 0 →
      ∃ fault, read r.text = .error fault ∧ Reports r.text fault) ∧
    ∀ r, read text = .ok r → read r.text = .ok r := by
  have hwritten : ∀ r : Rect, 0 ≤ r.x.toInt → 0 ≤ r.y.toInt → read r.text = .ok r :=
    fun r hx hy => read_ok_iff_denotes.2 (denotes_text hx hy)
  refine ⟨fun r => read_ok_iff_denotes, exists_fault, hwritten,
    fun r h => exists_fault (not_denotes_text h), fun r hread => ?_⟩
  obtain ⟨hx, hy⟩ := (read_ok_iff_denotes.1 hread).origin
  exact hwritten r hx hy

/-- Blanks of several kinds, plus signs and leading zeros are no obstacle, and are gone once the
rectangle is written; one more than the largest column is refused, and so is what is written of a
rectangle left of the page. -/
theorem reads_four_numerals_padded :
    Denotes " +007,\u3000 2147483647\t,0,+4294967295" ⟨7, 2147483647, 0, 4294967295⟩ ∧
      read (Rect.text ⟨7, 2147483647, 0, 4294967295⟩) = .ok ⟨7, 2147483647, 0, 4294967295⟩ ∧
      read (Rect.text ⟨0, 2147483647, 1, 1⟩) = .ok ⟨0, 2147483647, 1, 1⟩ ∧
      (∃ fault, read "2147483648,0,1,1" = .error fault ∧ Reports "2147483648,0,1,1" fault) ∧
      ∃ fault, read (Rect.text ⟨-1, 0, 1, 1⟩) = .error fault ∧
        Reports (Rect.text ⟨-1, 0, 1, 1⟩) fault := by
  have hpadded : read " +007,\u3000 2147483647\t,0,+4294967295" =
      .ok ⟨7, 2147483647, 0, 4294967295⟩ := by decide +kernel
  have hrefused : read "2147483648,0,1,1" = .error .originTooLarge := by decide +kernel
  obtain ⟨hread, -, hwritten, hleft, hagain⟩ :=
    reads_four_numerals " +007,\u3000 2147483647\t,0,+4294967295"
  obtain ⟨hlarge, hfault, -⟩ := reads_four_numerals "2147483648,0,1,1"
  refine ⟨(hread _).1 hpadded, hagain _ hpadded, hwritten _ (by decide) (by decide),
    hfault fun r hr => ?_, hleft _ (.inl (by decide))⟩
  rw [← hlarge r, hrefused] at hr
  cases hr

end VisualRegression.Rect
