import VisualRegression.Text.Blank
import VisualRegression.Text.Fields
import VisualRegression.Text.Numeral

/-!
# What texts are put together from

A text is taken apart at a separator, freed of the blanks around it and read as a numeral.  Each of
the three is told here by what the text is put together from, without a word on how it is read:
`Text.Splits`, `Text.Trims` and `Numeral.Denotes`.  Main statements: `Text.fields_eq_iff`,
`Text.trim_eq_iff` and `Numeral.read_ok_iff_denotes` say that the readers find exactly that.
-/

namespace VisualRegression

namespace Text

variable {sep : Char} {s t part before after : List Char} {parts : List (List Char)}

/-! ## Parts between separators -/

/-- The text is one part or more, with a separator between each and the next and none inside of
them. -/
structure Splits (sep : Char) (s : List Char) (parts : List (List Char)) : Prop where
  ne_nil : parts ≠ []
  clean : ∀ part ∈ parts, sep ∉ part
  joined : [sep].intercalate parts = s

theorem not_mem_of_mem_fields (h : part ∈ fields sep s) : sep ∉ part := by
  induction s generalizing part with
  | nil =>
    obtain rfl := List.mem_singleton.1 h
    exact List.not_mem_nil
  | cons c rest ih =>
    rw [fields] at h
    split at h
    · rcases List.mem_cons.1 h with rfl | h
      · exact List.not_mem_nil
      · exact ih h
    · rename_i hc
      split at h
      · obtain rfl := List.mem_singleton.1 h
        exact fun hmem => hc (List.mem_singleton.1 hmem).symm
      · rename_i first others hfields
        rcases List.mem_cons.1 h with rfl | h
        · have hfirst : sep ∉ first := ih (hfields ▸ List.mem_cons_self)
          exact fun hmem => (List.mem_cons.1 hmem).elim (fun heq => hc heq.symm) hfirst
        · exact ih (hfields ▸ List.mem_cons_of_mem _ h)

theorem fields_intercalate (hne : parts ≠ []) (hclean : ∀ part ∈ parts, sep ∉ part) :
    fields sep ([sep].intercalate parts) = parts := by
  induction parts with
  | nil => exact absurd rfl hne
  | cons first others ih =>
    have hfirst : sep ∉ first := hclean first List.mem_cons_self
    cases others with
    | nil => rw [List.intercalate_singleton, fields_of_not_mem hfirst]
    | cons second others =>
      rw [List.intercalate_cons_cons, List.append_assoc, List.singleton_append,
        fields_append_cons, fields_of_not_mem hfirst, List.singleton_append,
        ih (List.cons_ne_nil _ _) fun part hpart => hclean part (List.mem_cons_of_mem _ hpart)]

/-- **The fields of a text are the one way to split it.** -/
theorem fields_eq_iff : fields sep s = parts ↔ Splits sep s parts := by
  constructor
  · rintro rfl
    exact ⟨fields_ne_nil sep s, fun _ => not_mem_of_mem_fields, intercalate_fields sep s⟩
  · rintro ⟨hne, hclean, rfl⟩
    exact fields_intercalate hne hclean

/-! ## Blanks around a text -/

/-- The text is the other one with nothing but blanks around it, and that one neither begins nor
ends with a blank. -/
structure Trims (s t : List Char) : Prop where
  padded : ∃ before after, s = before ++ t ++ after ∧
    (∀ c ∈ before, isBlank c = true) ∧ ∀ c ∈ after, isBlank c = true
  head_not_blank : ∀ c, t.head? = some c → isBlank c = false
  last_not_blank : ∀ c, t.getLast? = some c → isBlank c = false

theorem trimStart_append (h : ∀ c ∈ before, isBlank c = true) (s : List Char) :
    trimStart (before ++ s) = trimStart s :=
  List.dropWhile_append_of_pos h

theorem trimEnd_append (s : List Char) (h : ∀ c ∈ after, isBlank c = true) :
    trimEnd (s ++ after) = trimEnd s := by
  have hback : ∀ c ∈ after.reverse, isBlank c = true := fun c hc => h c (List.mem_reverse.1 hc)
  rw [trimEnd, List.reverse_append, List.dropWhile_append_of_pos hback, trimEnd]

theorem trimStart_of_blank (h : ∀ c ∈ s, isBlank c = true) : trimStart s = [] := by
  have hnil := trimStart_append h []
  rwa [List.append_nil] at hnil

theorem trim_of_trims (h : Trims s t) : trim s = t := by
  obtain ⟨before, after, rfl, hbefore, hafter⟩ := h.padded
  rw [trim, List.append_assoc, trimStart_append hbefore]
  cases t with
  | nil =>
    rw [List.nil_append, trimStart_of_blank hafter]
    rfl
  | cons c t =>
    -- the first character stops the search for blanks, and so does the last one
    have hhead : ∀ c', (c :: t ++ after).head? = some c' → isBlank c' = false :=
      fun c' hc' => h.head_not_blank c' hc'
    rw [trimStart_eq_self hhead, trimEnd_append _ hafter, trimEnd_eq_self h.last_not_blank]

theorem trims_trim (s : List Char) : Trims s (trim s) where
  padded := by
    refine ⟨s.takeWhile isBlank, ((trimStart s).reverse.takeWhile isBlank).reverse, ?_,
      List.all_eq_true.1 List.all_takeWhile,
      fun c hc => List.all_eq_true.1 List.all_takeWhile c (List.mem_reverse.1 hc)⟩
    have hend : trim s ++ ((trimStart s).reverse.takeWhile isBlank).reverse = trimStart s := by
      rw [trim, trimEnd, ← List.reverse_append, List.takeWhile_append_dropWhile,
        List.reverse_reverse]
    rw [List.append_assoc, hend]
    exact List.takeWhile_append_dropWhile.symm
  head_not_blank _ := head?_trim_not_blank
  last_not_blank _ := getLast?_trim_not_blank

/-- **Trimming finds the text that has only blanks around it.** -/
theorem trim_eq_iff : trim s = t ↔ Trims s t :=
  ⟨fun h => h ▸ trims_trim s, trim_of_trims⟩

theorem trim_of_not_blank (h : ∀ c ∈ s, isBlank c = false) : trim s = s :=
  trim_eq_self (fun c hc => h c (List.mem_of_head? hc)) fun c hc => h c (List.mem_of_getLast? hc)

end Text

namespace Numeral

variable {acc bound n d : Nat} {s digits : List Char} {c : Char}

/-! ## Numerals -/

/-- The text is a numeral for a number: one decimal digit or more, leading zeros among them or not,
and at most one plus sign before them. -/
def Denotes (s : List Char) (n : Nat) : Prop :=
  ∃ digits, (s = digits ∨ s = '+' :: digits) ∧ digits ≠ [] ∧
    (∀ c ∈ digits, c.isDigit = true) ∧ Nat.ofDigitChars 10 digits 0 = n

theorem isDigit_iff : c.isDigit = true ↔ '0' ≤ c ∧ c ≤ '9' := by
  simp only [Char.isDigit, Bool.and_eq_true, decide_eq_true_eq]
  rfl

theorem digit?_eq_some_iff : digit? c = some d ↔ c.isDigit = true ∧ c.toNat - '0'.toNat = d := by
  rw [isDigit_iff, digit?]
  split
  · rename_i h
    rw [and_iff_right h, Option.some.injEq]
  · rename_i h
    exact iff_of_false nofun fun hd => h hd.1

/-- The value of digits is the one that they have in base ten. -/
theorem value?_eq_some_iff :
    value? acc s = some n ↔ (∀ c ∈ s, c.isDigit = true) ∧ Nat.ofDigitChars 10 s acc = n := by
  induction s generalizing acc with
  | nil => simp [value?]
  | cons c rest ih =>
    rw [value?, Option.bind_eq_some_iff, List.forall_mem_cons, Nat.ofDigitChars_cons]
    constructor
    · rintro ⟨d, hd, hrest⟩
      obtain ⟨hc, rfl⟩ := digit?_eq_some_iff.1 hd
      obtain ⟨hdigits, hn⟩ := ih.1 hrest
      exact ⟨⟨hc, hdigits⟩, hn⟩
    · rintro ⟨⟨hc, hdigits⟩, hn⟩
      exact ⟨_, digit?_eq_some_iff.2 ⟨hc, rfl⟩, ih.2 ⟨hdigits, hn⟩⟩

/-- A plus sign is no digit, so that digits are read as they are. -/
theorem unsigned_of_digits (h : ∀ c ∈ s, c.isDigit = true) : unsigned s = s := by
  unfold unsigned
  split
  · exact absurd (h '+' List.mem_cons_self) (by decide)
  · rfl

theorem eq_or_eq_plus_unsigned (s : List Char) : s = unsigned s ∨ s = '+' :: unsigned s := by
  unfold unsigned
  split
  · exact .inr rfl
  · exact .inl rfl

/-- **Exactly the numerals for numbers below the bound are read.** -/
theorem read_ok_iff_denotes (hbound : 0 < bound) :
    read bound s = .ok n ↔ Denotes s n ∧ n < bound := by
  rw [read_ok_iff hbound, value?_eq_some_iff]
  constructor
  · rintro ⟨hne, ⟨hdigits, hn⟩, hlt⟩
    exact ⟨⟨unsigned s, eq_or_eq_plus_unsigned s, hne, hdigits, hn⟩, hlt⟩
  · rintro ⟨⟨digits, hs, hne, hdigits, hn⟩, hlt⟩
    have hunsigned : unsigned s = digits := by
      rcases hs with rfl | rfl
      · exact unsigned_of_digits hdigits
      · rfl
    rw [hunsigned]
    exact ⟨hne, ⟨hdigits, hn⟩, hlt⟩

/-- A number is denoted by the digits that it is written with. -/
theorem denotes_toDigits (n : Nat) : Denotes (Nat.toDigits 10 n) n :=
  ⟨Nat.toDigits 10 n, .inl rfl, Nat.toDigits_ne_nil,
    fun _ hc => Nat.isDigit_of_mem_toDigits (by decide) (by decide) hc,
    Nat.ofDigitChars_ten_toDigits⟩

/-- A numeral has no sign but a plus. -/
theorem not_denotes_minus : ¬ Denotes ('-' :: s) n := by
  rintro ⟨digits, rfl | h, -, hdigits, -⟩
  · exact absurd (hdigits '-' List.mem_cons_self) (by decide)
  · exact absurd (List.cons.inj h).1 (by decide)

end Numeral

end VisualRegression
