import VisualRegression.Json.Reader
import VisualRegression.Json.Writer
import VisualRegression.Proofs.Decimal.Digits
import VisualRegression.Proofs.Json.Plain

/-!
# Numbers in a text

A number is written as its sign, its digits, and a fraction and an exponent if there are any.  It is
read up to what follows it (`readNumber?_write`), an integer of 64 bits as that integer
(`readNumber?_int`), and a finite double as the double that is nearest to its digits
(`readNumber?_double`).
-/

namespace VisualRegression.Json

open Decimal

variable {rest whole ds : List Char} {fraction exponent : Option (List Char)} {negative : Bool}
  {n : Int} {x : Float}

/-- A value does not go on: what follows it is a comma or a line break. -/
def Ended (rest : List Char) : Prop := ∀ c, rest.head? = some c → c = ',' ∨ c = '\n'

theorem Ended.stops (h : Ended rest) : Stops rest := by
  intro c hc
  obtain rfl | rfl := h c hc <;> rfl

theorem ended_nil : Ended [] := nofun

theorem ended_comma (rest : List Char) : Ended (',' :: rest) := by
  rintro c ⟨⟩
  exact .inl rfl

theorem ended_lineBreak (indent : Nat) (rest : List Char) : Ended (lineBreak indent ++ rest) := by
  rintro c ⟨⟩
  exact .inr rfl

/-! ## Parts of a number -/

/-- The digits of a number before the point: at least one, and of several the first is not zero. -/
structure Whole (ds : List Char) : Prop where
  ne_nil : ds ≠ []
  digits : AllDigits ds
  head : ds = ['0'] ∨ ds.head? ≠ some '0'

theorem whole_zero : Whole ['0'] := ⟨List.cons_ne_nil _ _, allDigits_zeros 1, .inl rfl⟩

theorem whole_toDigits (n : Nat) : Whole (Nat.toDigits 10 n) where
  ne_nil := Nat.toDigits_ne_nil
  digits := allDigits_toDigits n
  head := by
    by_cases h : n = 0
    · rw [h]
      exact .inl rfl
    · exact .inr (head?_toDigits h)

theorem whole_singleton {c : Char} (hc : isDigit c = true) : Whole [c] where
  ne_nil := List.cons_ne_nil _ _
  digits _ hd := List.mem_singleton.1 hd ▸ hc
  head := by
    by_cases h : c = '0'
    · rw [h]
      exact .inl rfl
    · exact .inr fun hhead => h (Option.some.inj hhead)

/-- The parts of a number, as they are written. -/
structure NumberParts where
  negative : Bool
  whole : List Char
  fraction : Option (List Char)
  exponent : Option (List Char)

namespace NumberParts

/-- What is written of the parts. -/
def text (p : NumberParts) : List Char :=
  (if p.negative then ['-'] else []) ++ p.whole ++ p.fraction.elim [] ('.' :: ·) ++
    p.exponent.elim [] ('e' :: ·)

/-- The parts are those of a number: there are digits wherever there have to be some. -/
structure Proper (p : NumberParts) : Prop where
  whole : Whole p.whole
  fraction_digits : ∀ ds, p.fraction = some ds → ds ≠ [] ∧ AllDigits ds
  exponent_digits : ∀ s, p.exponent = some s →
    ∃ ds, (s = ds ∨ s = '-' :: ds) ∧ ds ≠ [] ∧ AllDigits ds

/-- The value of the parts. -/
def value (p : NumberParts) : Json := numberOf p.negative p.whole p.fraction p.exponent

end NumberParts

/-- A digit is none of the marks in a number. -/
theorem ne_of_isDigit {c mark : Char} (hc : isDigit c = true) (hmark : isDigit mark = false) :
    c ≠ mark := by
  rintro rfl
  rw [hmark] at hc
  cases hc

theorem isEmpty_eq_false (h : ds ≠ []) : ds.isEmpty = false := by
  rwa [List.isEmpty_eq_false_iff]

/-- A fraction is read if there is one. -/
theorem readFraction?_write (hfraction : ∀ ds, fraction = some ds → ds ≠ [] ∧ AllDigits ds)
    (hrest : Stops rest) (hpoint : rest.head? ≠ some '.') :
    readFraction? (fraction.elim [] ('.' :: ·) ++ rest) = some (fraction, rest) := by
  cases fraction with
  | none =>
    rw [Option.elim_none, List.nil_append]
    unfold readFraction?
    split
    · exact absurd rfl hpoint
    · rfl
  | some ds =>
    obtain ⟨hne, hds⟩ := hfraction ds rfl
    rw [Option.elim_some, List.cons_append, readFraction?, spanDigits_append hds hrest]
    dsimp only
    rw [isEmpty_eq_false hne, if_neg Bool.false_ne_true]

/-- Digits have no sign before them. -/
theorem readSign_of_digits (hne : ds ≠ []) (hds : AllDigits ds) :
    readSign (ds ++ rest) = (false, ds ++ rest) := by
  obtain ⟨c, more, rfl⟩ := List.exists_cons_of_ne_nil hne
  have hc := hds c List.mem_cons_self
  rw [List.cons_append]
  unfold readSign
  split
  · exact absurd (List.cons.inj ‹_›).1 (ne_of_isDigit hc rfl)
  · exact absurd (List.cons.inj ‹_›).1 (ne_of_isDigit hc rfl)
  · rfl

/-- An exponent is read if there is one. -/
theorem readExponent?_write
    (hexponent : ∀ s, exponent = some s →
      ∃ ds, (s = ds ∨ s = '-' :: ds) ∧ ds ≠ [] ∧ AllDigits ds) (hrest : Ended rest) :
    readExponent? (exponent.elim [] ('e' :: ·) ++ rest) = some (exponent, rest) := by
  cases exponent with
  | none =>
    rw [Option.elim_none, List.nil_append]
    cases rest with
    | nil => rfl
    | cons c rest =>
      have hmark : ¬ (c = 'e' ∨ c = 'E') := by
        obtain rfl | rfl := hrest c rfl <;> decide
      rw [readExponent?, if_neg hmark]
  | some s =>
    obtain ⟨ds, hsign, hne, hds⟩ := hexponent s rfl
    have hmark : 'e' = 'e' ∨ 'e' = 'E' := .inl rfl
    have hspan := spanDigits_append hds hrest.stops
    rw [Option.elim_some, List.cons_append, readExponent?, if_pos hmark]
    obtain rfl | rfl := hsign
    · rw [readSign_of_digits hne hds]
      dsimp only
      rw [hspan]
      dsimp only
      rw [isEmpty_eq_false hne, if_neg Bool.false_ne_true, if_neg Bool.false_ne_true]
    · rw [List.cons_append, readSign]
      dsimp only
      rw [hspan]
      dsimp only
      rw [isEmpty_eq_false hne, if_neg Bool.false_ne_true, if_pos rfl]

/-- A minus sign is read if there is one. -/
theorem readMinus_write (h : Whole ds) :
    readMinus ((if negative then ['-'] else []) ++ (ds ++ rest)) = (negative, ds ++ rest) := by
  cases negative with
  | true => rfl
  | false =>
    obtain ⟨c, more, rfl⟩ := List.exists_cons_of_ne_nil h.ne_nil
    have hc := h.digits c List.mem_cons_self
    rw [if_neg Bool.false_ne_true, List.nil_append, List.cons_append]
    unfold readMinus
    split
    · exact absurd (List.cons.inj ‹_›).1 (ne_of_isDigit hc rfl)
    · rfl

/-- The digits before the point are read. -/
theorem readWhole_write (h : Whole ds) (hrest : Stops rest) :
    readWhole (ds ++ rest) = (ds, rest) := by
  obtain rfl | hhead := h.head
  · rfl
  · rw [← spanDigits_append h.digits hrest]
    obtain ⟨c, more, rfl⟩ := List.exists_cons_of_ne_nil h.ne_nil
    rw [List.cons_append]
    unfold readWhole
    split
    · exact absurd (congrArg some (List.cons.inj ‹_›).1) hhead
    · rfl

/-- **A number is read up to what follows it.** -/
theorem readNumber?_write {p : NumberParts} (h : p.Proper) (hrest : Ended rest) :
    readNumber? (p.text ++ rest) = some (p.value, rest) := by
  -- what follows the fraction, and what follows the digits
  have hafter : Stops (p.exponent.elim [] ('e' :: ·) ++ rest) ∧
      (p.exponent.elim [] ('e' :: ·) ++ rest).head? ≠ some '.' := by
    cases p.exponent with
    | none =>
      refine ⟨hrest.stops, fun hpoint => ?_⟩
      obtain h | h := hrest '.' hpoint <;> exact absurd h (by decide)
    | some s =>
      refine ⟨?_, nofun⟩
      rintro d ⟨⟩
      rfl
  have hdigits : Stops (p.fraction.elim [] ('.' :: ·) ++
      (p.exponent.elim [] ('e' :: ·) ++ rest)) := by
    cases p.fraction with
    | none => exact hafter.1
    | some ds =>
      rintro d ⟨⟩
      rfl
  unfold readNumber?
  rw [NumberParts.text, List.append_assoc, List.append_assoc, List.append_assoc,
    readMinus_write h.whole]
  dsimp only
  rw [readWhole_write h.whole hdigits]
  dsimp only
  rw [isEmpty_eq_false h.whole.ne_nil, readFraction?_write h.fraction_digits hafter.1 hafter.2]
  dsimp only [Option.bind_eq_bind, Option.bind_some]
  rw [readExponent?_write h.exponent_digits hrest]
  rfl

/-! ## Integers -/

/-- An integer is written as its sign and digits. -/
theorem toList_toString (n : Int) :
    (toString n).toList = (if n < 0 then ['-'] else []) ++ Nat.toDigits 10 n.natAbs := by
  cases n with
  | ofNat m =>
    have hpos : ¬ Int.ofNat m < 0 := Int.not_lt.2 (Int.natCast_nonneg m)
    rw [if_neg hpos, List.nil_append]
    exact Nat.toList_repr
  | negSucc m =>
    rw [if_pos (Int.negSucc_lt_zero m)]
    show ("-" ++ (m + 1).repr).toList = _
    rw [String.toList_append, Nat.toList_repr]
    rfl

theorem exists_digits_toString (n : Int) :
    ∃ ds, ((toString n).toList = ds ∨ (toString n).toList = '-' :: ds) ∧ ds ≠ [] ∧
      AllDigits ds := by
  refine ⟨Nat.toDigits 10 n.natAbs, ?_, Nat.toDigits_ne_nil, allDigits_toDigits _⟩
  rw [toList_toString]
  split
  · exact .inr rfl
  · exact .inl rfl

/-- The parts that an integer is written as. -/
def partsOfInt (n : Int) : NumberParts := ⟨n < 0, Nat.toDigits 10 n.natAbs, none, none⟩

theorem proper_partsOfInt (n : Int) : (partsOfInt n).Proper where
  whole := whole_toDigits _
  fraction_digits := nofun
  exponent_digits := nofun

theorem text_partsOfInt (n : Int) : (partsOfInt n).text = (toString n).toList := by
  rw [toList_toString, NumberParts.text]
  simp [partsOfInt]

/-- **An integer of 64 bits is read as it was written.** -/
theorem readNumber?_int (hlow : -2 ^ 63 ≤ n) (hhigh : n < 2 ^ 64) (hrest : Ended rest) :
    readNumber? ((toString n).toList ++ rest) = some (int n, rest) := by
  have hvalue : (partsOfInt n).value = int n := by
    have hsize : UInt64.size = 2 ^ 64 := rfl
    rw [NumberParts.value, partsOfInt, numberOf, digitsValue_toDigits, hsize]
    simp only [Option.isNone_none, Bool.and_true, if_true]
    by_cases hneg : n < 0
    · rw [if_neg (by simp [hneg]), if_pos (by simp [hneg]; omega)]
      congr 1
      omega
    · rw [if_pos (by simp [hneg]; omega)]
      congr 1
      omega
  rw [← text_partsOfInt, readNumber?_write (proper_partsOfInt n) hrest, hvalue]

/-! ## Doubles -/

/-- **Without an exponent, there are digits on both sides of the point**, where a zero alone has no
zeros to come after it. -/
theorem exists_positionalText (h : Whole ds) {p : Int} (hzero : ds = ['0'] → p ≤ 1) :
    ∃ whole fraction, positionalText true ds p = whole ++ '.' :: fraction ∧ Whole whole ∧
      fraction ≠ [] ∧ AllDigits fraction := by
  unfold positionalText
  by_cases hsmall : p ≤ 0
  · rw [if_pos hsmall]
    exact ⟨['0'], List.replicate (-p).toNat '0' ++ ds, rfl, whole_zero,
      List.append_ne_nil_of_right_ne_nil _ h.ne_nil, allDigits_append (allDigits_zeros _) h.digits⟩
  rw [if_neg hsmall]
  by_cases hlong : ds.length ≤ p.toNat
  · rw [if_pos hlong, if_pos rfl]
    refine ⟨_, ['0'], rfl, ⟨List.append_ne_nil_of_left_ne_nil h.ne_nil _,
      allDigits_append h.digits (allDigits_zeros _), ?_⟩, List.cons_ne_nil _ _, allDigits_zeros 1⟩
    obtain hsame | hhead := h.head
    · have hp := hzero hsame
      have hone : p.toNat - 1 = 0 := by omega
      rw [hsame, List.length_singleton, hone]
      exact .inl rfl
    · rw [List.head?_append_of_ne_nil _ h.ne_nil]
      exact .inr hhead
  · rw [if_neg hlong]
    have htake : ds.take p.toNat ≠ [] := by
      rw [Ne, List.take_eq_nil_iff]
      rintro (hp | hds)
      · omega
      · exact h.ne_nil hds
    refine ⟨_, _, rfl, ⟨htake, fun c hc => h.digits c (List.mem_of_mem_take hc), .inr ?_⟩, ?_,
      fun c hc => h.digits c (List.mem_of_mem_drop hc)⟩
    · obtain rfl | hhead := h.head
      · exact absurd (hlong (by rw [List.length_singleton]; omega)) id
      · rwa [List.head?_take, if_neg (by omega)]
    · rw [Ne, List.drop_eq_nil_iff]
      omega

/-- **With an exponent, there is one digit before the point.** -/
theorem exists_exponentText (h : Whole ds) (p : Int) :
    ∃ c fraction s, exponentText ds p =
        [c] ++ (fraction : Option (List Char)).elim [] ('.' :: ·) ++ 'e' :: s ∧
      isDigit c = true ∧ (∀ ds', fraction = some ds' → ds' ≠ [] ∧ AllDigits ds') ∧
      ∃ ds', (s = ds' ∨ s = '-' :: ds') ∧ ds' ≠ [] ∧ AllDigits ds' := by
  obtain ⟨c, more, rfl⟩ := List.exists_cons_of_ne_nil h.ne_nil
  have hc := h.digits c List.mem_cons_self
  have hexponent := exists_digits_toString (p - 1)
  unfold exponentText
  dsimp only [List.take_succ_cons, List.take_zero, List.drop_succ_cons, List.drop_zero]
  cases more with
  | nil => exact ⟨c, none, _, rfl, hc, nofun, hexponent⟩
  | cons d more =>
    refine ⟨c, some (d :: more), _, rfl, hc, ?_, hexponent⟩
    rintro _ ⟨⟩
    exact ⟨List.cons_ne_nil _ _, fun e he => h.digits e (List.mem_cons_of_mem _ he)⟩

/-- A finite number is no infinite one, and is a number. -/
theorem status_of_isFinite {f : Float.Model.UnpackedFloat} (h : f.isFinite = true) :
    f.isNaN = false ∧ f.isInf = false := by
  cases f with
  | notANumber | infinity => cases h
  | zero | finite => exact ⟨rfl, rfl⟩

/-- The digits of a decimal are written as a number that is none of an integer. -/
theorem exists_parts_of_digits {d : Digits} (h : d.digits = 0 → d.exponent ≤ 0)
    (negative : Bool) :
    ∃ p : NumberParts, p.Proper ∧ (p.fraction.isNone && p.exponent.isNone) = false ∧
      p.text = (if negative then ['-'] else []) ++
        let ds := Nat.toDigits 10 d.digits
        let p := ds.length + d.exponent
        if report.positional p then positionalText report.wholeWithPoint ds p
        else exponentText ds p := by
  have hds := whole_toDigits d.digits
  dsimp only
  by_cases hpositional :
    report.positional ((Nat.toDigits 10 d.digits).length + d.exponent) = true
  · rw [if_pos hpositional]
    have hlone : Nat.toDigits 10 d.digits = ['0'] →
        (Nat.toDigits 10 d.digits).length + d.exponent ≤ 1 := by
      intro hlone
      have hnone : d.digits = 0 := by
        rw [← digitsValue_toDigits d.digits, hlone]
        rfl
      have hexponent := h hnone
      rw [hlone, List.length_singleton]
      omega
    obtain ⟨whole, fraction, htext, hwhole, hne, hfraction⟩ := exists_positionalText hds hlone
    refine ⟨⟨negative, whole, some fraction, none⟩, ⟨hwhole, ?_, nofun⟩, rfl, ?_⟩
    · rintro _ ⟨⟩
      exact ⟨hne, hfraction⟩
    · have hpoint : report.wholeWithPoint = true := rfl
      rw [hpoint, htext]
      simp [NumberParts.text]
  · rw [if_neg hpositional]
    obtain ⟨c, fraction, s, htext, hc, hfraction, hs⟩ :=
      exists_exponentText hds ((Nat.toDigits 10 d.digits).length + d.exponent)
    refine ⟨⟨negative, [c], fraction, some s⟩, ⟨whole_singleton hc, hfraction, ?_⟩,
      Bool.and_false _, ?_⟩
    · rintro _ ⟨⟩
      exact hs
    · rw [htext]
      simp [NumberParts.text]

/-- **A finite double is written as a number**, and not as an integer. -/
theorem exists_parts_of_isFinite (h : x.isFinite = true) :
    ∃ p : NumberParts, p.Proper ∧ (p.fraction.isNone && p.exponent.isNone) = false ∧
      p.text = (report.write x).toList := by
  have hnan : x.isNaN = false := (status_of_isFinite h).1
  have hinf : x.isInf = false := (status_of_isFinite h).2
  unfold Style.write
  rw [hnan, hinf, if_neg Bool.false_ne_true, if_neg Bool.false_ne_true]
  by_cases hzero : (x == 0) = true
  · rw [if_pos hzero, String.toList_ofList]
    refine ⟨⟨x.toBits >>> 63 = 1, ['0'], some ['0'], none⟩, ⟨whole_zero, ?_, nofun⟩, rfl, ?_⟩
    · rintro _ ⟨⟩
      exact ⟨List.cons_ne_nil _ _, allDigits_zeros 1⟩
    · simp [NumberParts.text, report]
  · rw [if_neg hzero, String.toList_ofList]
    obtain ⟨p, hproper, hdouble, htext⟩ :=
      exists_parts_of_digits (exponent_le_of_digits_eq_zero (x := x)) (x.toBits >>> 63 = 1)
    refine ⟨p, hproper, hdouble, ?_⟩
    rw [htext]
    simp

/-- The double that the text of a double stands for: the one nearest to the digits in it. -/
def reread (x : Float) : Float :=
  match readNumber? (report.write x).toList with
  | some (float y, _) => y
  | _ => x

/-- **A finite double is read as the double that its text stands for.** -/
theorem readNumber?_double (h : x.isFinite = true) (hrest : Ended rest) :
    readNumber? ((report.write x).toList ++ rest) = some (float (reread x), rest) := by
  obtain ⟨p, hproper, hdouble, htext⟩ := exists_parts_of_isFinite h
  have hread : readNumber? (report.write x).toList = some (p.value, []) := by
    rw [← htext, ← List.append_nil p.text, readNumber?_write hproper ended_nil]
  obtain ⟨y, hy⟩ : ∃ y, p.value = float y := by
    unfold NumberParts.value numberOf
    dsimp only
    rw [hdouble, if_neg Bool.false_ne_true]
    exact ⟨_, rfl⟩
  have hreread : reread x = y := by
    unfold reread
    rw [hread, hy]
  rw [← htext, readNumber?_write hproper hrest, hy, hreread]

end VisualRegression.Json
