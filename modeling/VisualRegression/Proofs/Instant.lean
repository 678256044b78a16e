import Mathlib.Algebra.Order.Ring.Nat
import Mathlib.Data.List.TakeWhile
import VisualRegression.Proofs.Calendar
import VisualRegression.Proofs.Decimal.Digits

/-!
# Points in time in words

A point in time that a clock can tell, `Proper`, is read back from its written form: `read?_text`.
There is one lemma for each field of the form.
-/

namespace VisualRegression.Instant

open Decimal

variable {n width : Nat} {c : Char} {ds rest : List Char} {year : Int} {t : Instant}

/-! ## Numbers -/

theorem isBlank_of_isDigit (h : isDigit c = true) : Text.isBlank c = false := by
  rw [isDigit_eq, Numeral.isDigit_iff] at h
  have hlow : 48 ≤ c.toNat := h.1
  have hhigh : c.toNat ≤ 57 := h.2
  unfold Text.isBlank
  simp only [Bool.or_eq_false_iff, Bool.and_eq_false_iff, decide_eq_false_iff_not,
    beq_eq_false_iff_ne]
  omega

theorem allDigits_padded (width n : Nat) : AllDigits (padded width n) :=
  allDigits_append (allDigits_zeros _) (allDigits_toDigits n)

theorem digitsValue_padded (width n : Nat) : digitsValue (padded width n) = n := by
  unfold padded
  rw [digitsValue_zeros, digitsValue_toDigits]

theorem length_padded (hwidth : 0 < width) (h : n < 10 ^ width) :
    (padded width n).length = width := by
  have hlength := (Nat.length_toDigits_le_iff (by decide) hwidth).2 h
  simp only [padded, List.length_append, List.length_replicate]
  omega

theorem padded_ne_nil (width n : Nat) : padded width n ≠ [] :=
  List.append_ne_nil_of_right_ne_nil _ Nat.toDigits_ne_nil

/-- Digits have no blanks before them. -/
theorem trimStart_digits (hne : ds ≠ []) (hds : AllDigits ds) (rest : List Char) :
    Text.trimStart (ds ++ rest) = ds ++ rest := by
  refine Text.trimStart_eq_self fun c hc => isBlank_of_isDigit (hds c ?_)
  rw [List.head?_append_of_ne_nil _ hne] at hc
  exact List.mem_of_head? hc

/-- **A number that is filled up to a width is read from there.** -/
theorem readNumber?_padded (hwidth : 0 < width) (h : n < 10 ^ width) (rest : List Char) :
    readNumber? width (padded width n ++ rest) = some (n, rest) := by
  have hlength := length_padded hwidth h
  have htake : (padded width n ++ rest).take width = padded width n :=
    List.take_left' hlength
  have hdrop : (padded width n ++ rest).drop (padded width n).length = rest :=
    List.drop_left' rfl
  have hempty : (padded width n).isEmpty = false :=
    List.isEmpty_eq_false_iff.2 (padded_ne_nil width n)
  unfold readNumber?
  dsimp only
  rw [trimStart_digits (padded_ne_nil width n) (allDigits_padded width n), htake,
    List.takeWhile_eq_self_iff.2 (allDigits_padded width n), hempty, if_neg Bool.false_ne_true,
    hdrop, digitsValue_padded]

/-- A mark that is no blank is read. -/
theorem readMark?_self (hc : Text.isBlank c = false) (rest : List Char) :
    readMark? c (c :: rest) = some rest := by
  have htrim : Text.trimStart (c :: rest) = c :: rest := by
    refine Text.trimStart_eq_self ?_
    rintro d ⟨⟩
    exact hc
  unfold readMark?
  rw [htrim]
  exact if_pos rfl

/-! ## Years -/

/-- Digits after a sign are read with it. -/
theorem signed_write (hne : ds ≠ []) (hds : AllDigits ds) (hrest : Stops rest) (sign : Int) :
    readYear?.signed (ds ++ rest) sign = some (sign * digitsValue ds, rest) := by
  have hempty : ds.isEmpty = false := List.isEmpty_eq_false_iff.2 hne
  unfold readYear?.signed
  rw [spanDigits_append hds hrest]
  dsimp only
  rw [hempty, if_neg Bool.false_ne_true]

/-- A year of four digits is read as a number of four digits. -/
theorem readYear?_of_digits (hne : ds ≠ []) (hds : AllDigits ds) (rest : List Char) :
    readYear? (ds ++ rest) =
      (readNumber? 4 (ds ++ rest)).map fun (n, rest) => ((n : Int), rest) := by
  obtain ⟨c, more, rfl⟩ := List.exists_cons_of_ne_nil hne
  have hc := hds c List.mem_cons_self
  have htrim := trimStart_digits hne hds rest
  unfold readYear?
  rw [htrim, List.cons_append]
  split
  · obtain ⟨rfl, -⟩ := List.cons.inj ‹_›
    cases hc
  · obtain ⟨rfl, -⟩ := List.cons.inj ‹_›
    cases hc
  · rfl

/-- **A year is read with its sign**, up to what follows its digits. -/
theorem readYear?_write (year : Int) (hrest : Stops rest) :
    readYear? (yearText year ++ rest) = some (year, rest) := by
  have hne := padded_ne_nil 4
  have hds := allDigits_padded 4
  unfold yearText
  split
  · have hn : year.toNat < 10 ^ 4 := by omega
    rw [readYear?_of_digits (hne _) (hds _), readNumber?_padded (by decide) hn, Option.map_some]
    dsimp only
    rw [Int.toNat_of_nonneg (by omega)]
  · split
    · show readYear?.signed (padded 4 year.natAbs ++ rest) (-1) = _
      rw [signed_write (hne _) (hds _) hrest, digitsValue_padded]
      congr 2
      omega
    · show readYear?.signed (padded 4 year.natAbs ++ rest) 1 = _
      rw [signed_write (hne _) (hds _) hrest, digitsValue_padded]
      congr 2
      omega

/-! ## Fractions -/

/-- Zeros after digits multiply their value. -/
theorem digitsValue_append_zeros (hds : AllDigits ds) (k : Nat) :
    digitsValue (ds ++ List.replicate k '0') = 10 ^ k * digitsValue ds := by
  rw [digitsValue_eq (allDigits_append hds (allDigits_zeros k)), Nat.ofDigitChars_append,
    Nat.ofDigitChars_replicate_zero, digitsValue_eq hds]

/-- A fraction of so many digits is read in nanoseconds. -/
theorem readFraction?_padded (hwidth : 0 < width) (hle : width ≤ 9) (h : n < 10 ^ width)
    (hrest : Stops rest) :
    readFraction? ('.' :: padded width n ++ rest) = some (10 ^ (9 - width) * n, rest) := by
  have hlength := length_padded hwidth h
  have hempty : (padded width n).isEmpty = false :=
    List.isEmpty_eq_false_iff.2 (padded_ne_nil width n)
  have htake : (padded width n).take 9 = padded width n :=
    List.take_of_length_le (by omega)
  rw [List.cons_append, readFraction?, spanDigits_append (allDigits_padded width n) hrest]
  dsimp only
  rw [hempty, if_neg Bool.false_ne_true, htake, hlength,
    digitsValue_append_zeros (allDigits_padded width n), digitsValue_padded]

/-- **A fraction is read as so many nanoseconds.** -/
theorem readFraction?_write (h : n < 1000000000) :
    readFraction? (fractionText n ++ ['Z']) = some (n, ['Z']) := by
  have hstops : Stops ['Z'] := by
    rintro c ⟨⟩
    rfl
  unfold fractionText
  split
  · subst n
    rfl
  split
  · rw [readFraction?_padded (by decide) (by decide) (by omega) hstops]
    congr 2
    omega
  split
  · rw [readFraction?_padded (by decide) (by decide) (by omega) hstops]
    congr 2
    omega
  · rw [readFraction?_padded (by decide) (by decide) (by omega) hstops]
    congr 2
    omega

/-! ## Points in time -/

/-- **A point in time that a clock can tell**: its year is one that a clock has, and a second has a
thousand million nanoseconds, but for a leap second at the end of a minute. -/
structure Proper (t : Instant) : Prop where
  year_ge : -262143 ≤ t.date.1
  year_le : t.date.1 ≤ 262142
  nanoseconds : t.nanoseconds < 1000000000 ∨ t.nanoseconds < 2000000000 ∧ t.seconds % 60 = 59

theorem stops_mark {mark : Char} (h : isDigit mark = false) : Stops (mark :: rest) := by
  rintro c ⟨⟩
  exact h

/-- A number of two digits is read. -/
theorem readNumber?_two (h : n < 100) (rest : List Char) :
    readNumber? 2 (padded 2 n ++ rest) = some (n, rest) :=
  readNumber?_padded (by decide) h rest

/-- **A date is read up to what follows it.** -/
theorem readDate?_write {month day : Nat} (hmonth : month < 100) (hday : day < 100)
    (rest : List Char) :
    readDate? (dateText (year, month, day) ++ rest) = some ((year, month, day), rest) := by
  have hmark (rest : List Char) : readMark? '-' ('-' :: rest) = some rest := readMark?_self rfl rest
  unfold readDate? dateText
  simp only [List.append_assoc, List.cons_append]
  rw [readYear?_write year (stops_mark rfl), Option.bind_eq_bind, Option.bind_some]
  simp only [Option.bind_eq_bind, Option.bind_some, hmark, readNumber?_two hmonth,
    readNumber?_two hday]
  rfl

/-- **A time of day is read up to the end of the form.** -/
theorem readTime?_write {hour minute second nanoseconds : Nat} (hhour : hour < 100)
    (hminute : minute < 100) (hsecond : second < 100) (h : nanoseconds < 1000000000) :
    readTime? (timeText (hour, minute, second, nanoseconds) ++ ['Z']) =
      some ((hour, minute, second, nanoseconds), ['Z']) := by
  have hmark (rest : List Char) : readMark? ':' (':' :: rest) = some rest := readMark?_self rfl rest
  unfold readTime? timeText
  simp only [List.append_assoc, List.cons_append]
  simp only [Option.bind_eq_bind, Option.bind_some, hmark, readNumber?_two hhour,
    readNumber?_two hminute, readNumber?_two hsecond, readFraction?_write h]
  rfl

/-- Where there is a date and a time of day, there is the point in time. -/
theorem ofFields?_eq_some {month day hour minute second fraction : Nat} {offset : Int}
    (hday : 1 ≤ day ∧ day ≤ daysInMonth year month)
    (htime : hour < 24 ∧ minute < 60 ∧ second ≤ 60) (hyear : -262143 ≤ year ∧ year ≤ 262142)
    (hoffset : -86400 < offset ∧ offset < 86400) :
    ofFields? (year, month, day) (hour, minute, second, fraction) offset =
      some ⟨daysOfDate year month day * 86400 +
          (hour * 3600 + minute * 60 + (if second = 60 then 59 else second) : Nat) - offset,
        fraction + if second = 60 then 1000000000 else 0⟩ := by
  unfold ofFields?
  dsimp only
  rw [guard, if_pos hday, guard, if_pos htime, guard, if_pos hyear, guard, if_pos hoffset]
  rfl

/-- **A point in time is the one at its date and its time of day.** -/
theorem ofFields?_fields (h : t.Proper) : ofFields? t.date t.time 0 = some t := by
  obtain ⟨hge, hle, hnanoseconds⟩ := h
  obtain ⟨year, month, day, hdate, -, -, hfirst, hlast, hdays⟩ :=
    date_of_day (Int.fdiv t.seconds 86400)
  rw [date, hdate] at hge hle
  rw [Int.fdiv_eq_ediv_of_nonneg _ (by decide)] at hdays
  unfold date time
  rw [hdate, Int.fdiv_eq_ediv_of_nonneg _ (by decide)]
  obtain ⟨ofDay, hofDay, hlt⟩ : ∃ ofDay : Nat,
      t.seconds = t.seconds / 86400 * 86400 + ofDay ∧ ofDay < 86400 :=
    ⟨(t.seconds % 86400).toNat, by omega, by omega⟩
  have htoNat : (t.seconds - t.seconds / 86400 * 86400).toNat = ofDay := by omega
  dsimp only
  rw [htoNat, ofFields?_eq_some ⟨hfirst, hlast⟩ (by split <;> omega) ⟨hge, hle⟩ (by omega), hdays]
  obtain ⟨seconds, nanoseconds⟩ := t
  dsimp only at hnanoseconds hofDay ⊢
  by_cases hleap : 1000000000 ≤ nanoseconds
  · have hsecond : ofDay % 60 = 59 := by omega
    rw [if_pos hleap, if_pos hleap, hsecond, if_pos rfl, if_pos rfl]
    congr 2 <;> omega
  · have hsecond : ofDay % 60 + 0 ≠ 60 := by omega
    rw [if_neg hleap, if_neg hleap, if_neg hsecond, if_neg hsecond]
    congr 2
    omega

/-- **A point in time is read back.** -/
theorem read?_text (h : t.Proper) : read? t.text = some t := by
  obtain ⟨year, month, day, hdate, -, hmonth, -, hday, -⟩ :=
    date_of_day (Int.fdiv t.seconds 86400)
  have hlength := daysInMonth_le year month
  have hfields : ∃ hour minute second nanoseconds,
      t.time = (hour, minute, second, nanoseconds) ∧ hour < 100 ∧ minute < 100 ∧ second < 100 ∧
        nanoseconds < 1000000000 := by
    have hnanoseconds := h.nanoseconds
    have hofDay : (t.seconds - Int.fdiv t.seconds 86400 * 86400).toNat < 86400 := by
      rw [Int.fdiv_eq_ediv_of_nonneg _ (by decide)]
      omega
    refine ⟨_, _, _, _, rfl, ?_, ?_, ?_, ?_⟩
    · omega
    · omega
    · split <;> omega
    · split <;> omega
  obtain ⟨hour, minute, second, nanoseconds, htime, hhour, hminute, hsecond, hnano⟩ := hfields
  have hread := ofFields?_fields h
  rw [htime, date, hdate] at hread
  have htrim : Text.trimStart ['Z'] = ['Z'] := rfl
  unfold read? text
  rw [String.toList_ofList, date, hdate, htime, List.append_assoc,
    readDate?_write (by omega) (by omega)]
  simp only [Option.bind_eq_bind, Option.bind_some, List.cons_append, readSeparator?, if_true,
    true_or]
  rw [readTime?_write hhour hminute hsecond hnano]
  simp only [Option.bind_some]
  exact hread

end VisualRegression.Instant
