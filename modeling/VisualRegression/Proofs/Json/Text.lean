import VisualRegression.Proofs.Json.Number

/-!
# Texts of values

A value over several lines is read back, whatever doubles, texts and members there are in it:
`read?_pretty`.  A double is read as the one that its text stands for, so that the value that is
read is the one that was written up to its doubles, `mapDoubles`.
-/

namespace VisualRegression.Json

open Decimal

variable {rest lead acc : List Char} {fuel : Nat}

/-! ## Blanks -/

theorem skipSpace_append (h : ∀ c ∈ lead, isSpace c = true) :
    skipSpace (lead ++ rest) = skipSpace rest :=
  List.dropWhile_append_of_pos h

theorem isSpace_of_mem_lineBreak {c : Char} {indent : Nat} (h : c ∈ lineBreak indent) :
    isSpace c = true := by
  obtain rfl | h := List.mem_cons.1 h
  · rfl
  · rw [List.eq_of_mem_replicate h]
    rfl

theorem skipSpace_lineBreak (indent : Nat) (rest : List Char) :
    skipSpace (lineBreak indent ++ rest) = skipSpace rest :=
  skipSpace_append fun _ => isSpace_of_mem_lineBreak

theorem readValue?_congr {s t : List Char} (h : skipSpace s = skipSpace t) :
    readValue? fuel s = readValue? fuel t := by
  cases fuel with
  | zero => rw [readValue?, readValue?]
  | succ fuel => rw [readValue?, readValue?, h]

/-- No value begins with a closing bracket. -/
theorem readValue?_close (fuel : Nat) (rest : List Char) :
    readValue? fuel (']' :: rest) = none := by
  cases fuel with
  | zero => rw [readValue?]
  | succ fuel => rfl

/-! ## Strings -/

theorem hexDigit?_digitChar : ∀ d < 16, hexDigit? (Nat.digitChar d) = some d := by
  decide

theorem hexField_of_lt : ∀ n < 0x20, Text.hexField 4 n =
    ['0', '0', Nat.digitChar (n / 16), Nat.digitChar (n % 16)] := by
  decide

/-- A control character is read from its code. -/
theorem readCodePoint?_hexField {c : Char} (h : c.toNat < 0x20) :
    readCodePoint? (Text.hexField 4 c.toNat ++ rest) = some (c, rest) := by
  have hunit : readUnit? (Text.hexField 4 c.toNat ++ rest) = some (c.toNat, rest) := by
    have hzero : hexDigit? '0' = some 0 := rfl
    have hhigh := hexDigit?_digitChar (c.toNat / 16) (by omega)
    have hlow := hexDigit?_digitChar (c.toNat % 16) (by omega)
    rw [hexField_of_lt _ h]
    simp only [List.cons_append, List.nil_append, readUnit?, hzero, hhigh, hlow,
      Option.bind_eq_bind, Option.bind_some, Option.pure_def, Option.some.injEq, Prod.mk.injEq,
      and_true]
    omega
  unfold readCodePoint?
  rw [hunit, Option.bind_eq_bind, Option.bind_some]
  dsimp only
  rw [if_neg (by omega), if_neg (by omega), Char.ofNat_toNat]

/-- **A character of a string is read as it was written.** -/
theorem readString?_escapeChar (fuel : Nat) (acc : List Char) (c : Char) (rest : List Char) :
    readString? (fuel + 1) acc (escapeChar c ++ rest) = readString? fuel (c :: acc) rest := by
  unfold escapeChar
  by_cases hquote : c = '"'
  · subst c
    rfl
  by_cases hback : c = '\\'
  · subst c
    rfl
  rw [if_neg hquote, if_neg hback]
  by_cases hcontrol : c.toNat < 0x20
  · split
    · subst c
      rfl
    split
    · subst c
      rfl
    split
    · subst c
      rfl
    split
    · subst c
      rfl
    split
    · subst c
      rfl
    · show readString? (fuel + 1) acc ('\\' :: 'u' :: (Text.hexField 4 c.toNat ++ rest)) = _
      rw [readString?, readCodePoint?_hexField hcontrol]
      rfl
  · have hplain := escapeChar_of_plain (Nat.le_of_not_lt hcontrol) hquote hback
    rw [escapeChar, if_neg hquote, if_neg hback] at hplain
    rw [hplain, List.singleton_append, readString?, if_neg hcontrol]
    · exact hquote
    · exact fun _ h _ => hback h
    · exact fun _ _ h _ => hback h

theorem escapeChar_ne_nil (c : Char) : escapeChar c ≠ [] := by
  unfold escapeChar
  repeat' split
  all_goals exact List.cons_ne_nil _ _

theorem length_le_escaped (s : List Char) : s.length ≤ (s.flatMap escapeChar).length := by
  induction s with
  | nil => exact Nat.le_refl _
  | cons c s ih =>
    have hc := List.length_pos_iff.2 (escapeChar_ne_nil c)
    rw [List.flatMap_cons, List.length_append, List.length_cons]
    omega

/-- **A string is read as it was written.** -/
theorem readString?_write (s : List Char) (hfuel : s.length < fuel) :
    readString? fuel acc (s.flatMap escapeChar ++ '"' :: rest) =
      some (String.ofList (acc.reverse ++ s), rest) := by
  induction s generalizing fuel acc with
  | nil =>
    obtain ⟨fuel, rfl⟩ := Nat.exists_eq_add_of_lt hfuel
    rw [List.append_nil]
    rfl
  | cons c s ih =>
    obtain ⟨fuel, rfl⟩ : ∃ k, fuel = k + 1 := ⟨fuel - 1, by omega⟩
    rw [List.length_cons] at hfuel
    rw [List.flatMap_cons, List.append_assoc, readString?_escapeChar, ih (by omega),
      List.reverse_cons, List.append_assoc, List.singleton_append]

/-- A string between quotes is read with as much fuel as there is text. -/
theorem readString?_quote (s : String) (rest : List Char) :
    ∃ text, quote s ++ rest = '"' :: text ∧
      readString? (text.length + 1) [] text = some (s, rest) := by
  have hlength := length_le_escaped s.toList
  refine ⟨s.toList.flatMap escapeChar ++ '"' :: rest, by simp [quote], ?_⟩
  rw [readString?_write, List.reverse_nil, List.nil_append, String.ofList_toList]
  rw [List.length_append]
  omega

/-! ## Values up to their doubles -/

mutual

/-- The value with its doubles mapped. -/
def mapDoubles (f : Float → Float) : Json → Json
  | float x => float (f x)
  | array items => array (mapItems f items)
  | object members => object (mapMembers f members)
  | null => null
  | bool b => bool b
  | int n => int n
  | string s => string s

/-- Values with their doubles mapped. -/
def mapItems (f : Float → Float) : List Json → List Json
  | [] => []
  | j :: rest => mapDoubles f j :: mapItems f rest

/-- Members with the doubles of their values mapped. -/
def mapMembers (f : Float → Float) : List (String × Json) → List (String × Json)
  | [] => []
  | (name, j) :: rest => (name, mapDoubles f j) :: mapMembers f rest

end

/-! ## What a value begins with -/

theorem readValue?_cons_quote (fuel : Nat) (text : List Char) :
    readValue? (fuel + 1) ('"' :: text) =
      (readString? (text.length + 1) [] text).bind fun read => some (string read.1, read.2) :=
  rfl

theorem readValue?_cons_bracket (fuel : Nat) (s : List Char) :
    readValue? (fuel + 1) ('[' :: s) = match skipSpace s with
      | ']' :: rest => some (array [], rest)
      | _ => readItems? fuel [] s :=
  rfl

theorem readValue?_cons_brace (fuel : Nat) (s : List Char) :
    readValue? (fuel + 1) ('\x7b' :: s) = match skipSpace s with
      | '\x7d' :: rest => some (object [], rest)
      | _ => readMembers? fuel [] s :=
  rfl

theorem readValue?_quote (fuel : Nat) (s : String) (rest : List Char) :
    readValue? (fuel + 1) (quote s ++ rest) = some (string s, rest) := by
  obtain ⟨text, htext, hread⟩ := readString?_quote s rest
  rw [htext, readValue?_cons_quote, hread, Option.bind_some]

/-- What begins with a sign or a digit is read as a number. -/
theorem readValue?_of_digit {c : Char} (hc : c = '-' ∨ isDigit c = true) (fuel : Nat)
    (more : List Char) : readValue? (fuel + 1) (c :: more) = readNumber? (c :: more) := by
  have hne {mark : Char} (hminus : '-' ≠ mark) (hmark : isDigit mark = false) : c ≠ mark := by
    obtain rfl | hc := hc
    · exact hminus
    · exact ne_of_isDigit hc hmark
  have hspace : ¬ isSpace c = true := by
    intro h
    simp only [isSpace, Bool.or_eq_true, beq_iff_eq] at h
    obtain ((h | h) | h) | h := h <;> exact hne (by decide) rfl h
  rw [readValue?, skipSpace, List.dropWhile_cons_of_neg hspace]
  split
  case h_7 => rfl
  all_goals exact absurd (List.cons.inj ‹_›).1 (hne (by decide) rfl)

/-- A number is read as a value. -/
theorem readValue?_number {p : NumberParts} (h : p.Proper) (fuel : Nat) (rest : List Char) :
    readValue? (fuel + 1) (p.text ++ rest) = readNumber? (p.text ++ rest) := by
  obtain ⟨c, more, hwhole⟩ := List.exists_cons_of_ne_nil h.whole.ne_nil
  have hc : isDigit c = true := h.whole.digits c (hwhole ▸ List.mem_cons_self)
  unfold NumberParts.text
  rw [hwhole]
  cases p.negative with
  | true => exact readValue?_of_digit (.inl rfl) fuel _
  | false => exact readValue?_of_digit (.inr hc) fuel _

/-! ## Values -/

/-- The items of an array do not begin with its end. -/
theorem readItems?_close {s : List Char} (h : skipSpace s = ']' :: rest) :
    readItems? fuel [] s = none := by
  cases fuel with
  | zero => rw [readItems?]
  | succ fuel =>
    have hclose : readValue? fuel s = none := by
      rw [← readValue?_close fuel rest]
      exact readValue?_congr h
    rw [readItems?, hclose]
    rfl

/-- The members of an object do not begin with its end. -/
theorem readMembers?_close {s : List Char} (h : skipSpace s = '\x7d' :: rest) :
    readMembers? fuel [] s = none := by
  cases fuel with
  | zero => rw [readMembers?]
  | succ fuel =>
    rw [readMembers?, h]
    rfl

/-- An array has the items that are read in it. -/
theorem readValue?_of_items {s : List Char} {read : Json × List Char}
    (h : readItems? fuel [] s = some read) : readValue? (fuel + 1) ('[' :: s) = some read := by
  rw [readValue?_cons_bracket]
  split
  · rw [readItems?_close ‹_›] at h
    cases h
  · exact h

/-- An object has the members that are read in it. -/
theorem readValue?_of_members {s : List Char} {read : Json × List Char}
    (h : readMembers? fuel [] s = some read) :
    readValue? (fuel + 1) ('\x7b' :: s) = some read := by
  rw [readValue?_cons_brace]
  split
  · rw [readMembers?_close ‹_›] at h
    cases h
  · exact h

section

variable {acc : List Json} {accMembers : List (String × Json)} {s after : List Char} {j : Json}
  {name : String}

/-- An item with a comma after it is followed by the next ones. -/
theorem readItems?_comma (h : readValue? fuel s = some (j, ',' :: rest)) :
    readItems? (fuel + 1) acc s = readItems? fuel (j :: acc) rest := by
  rw [readItems?, h]
  rfl

/-- An item with the closing bracket after it is the last one. -/
theorem readItems?_last {indent : Nat}
    (h : readValue? fuel s = some (j, lineBreak indent ++ ']' :: rest)) :
    readItems? (fuel + 1) acc s = some (array (j :: acc).reverse, rest) := by
  rw [readItems?, h, Option.bind_eq_bind, Option.bind_some]
  dsimp only
  rw [skipSpace_lineBreak]
  rfl

/-- A member is read with its name and its value. -/
theorem readMembers?_member {w : List Char} (hs : skipSpace s = quote name ++ ':' :: ' ' :: w)
    (h : readValue? fuel w = some (j, after)) :
    readMembers? (fuel + 1) accMembers s = match skipSpace after with
      | ',' :: rest => readMembers? fuel ((name, j) :: accMembers) rest
      | '\x7d' :: rest => some (object ((name, j) :: accMembers).reverse, rest)
      | _ => none := by
  obtain ⟨text, htext, hread⟩ := readString?_quote name (':' :: ' ' :: w)
  have hvalue : readValue? fuel (' ' :: w) = some (j, after) := by
    rw [← h]
    exact readValue?_congr rfl
  have hcolon : skipSpace (':' :: ' ' :: w) = ':' :: ' ' :: w := rfl
  rw [readMembers?, hs, htext]
  show (readString? (text.length + 1) [] text).bind _ = _
  rw [hread, Option.bind_some]
  dsimp only
  rw [hcolon]
  show (readValue? fuel (' ' :: w)).bind _ = _
  rw [hvalue]
  rfl

end

/-! ## Values within others -/

/-- The items of an array, in their lines. -/
def itemsText (indent : Nat) (items : List Json) : List Char :=
  joinWith (',' :: lineBreak (indent + 1)) (writeItemsIndented (indent + 1) items)

/-- The members of an object, in their lines. -/
def membersText (indent : Nat) (members : List (String × Json)) : List Char :=
  joinWith (',' :: lineBreak (indent + 1)) (writeMembersIndented (indent + 1) members)

variable {indent : Nat} {j j' : Json} {items : List Json} {name : String} {m : String × Json}
  {members : List (String × Json)}

theorem itemsText_singleton : itemsText indent [j] = writeIndented (indent + 1) j := by
  simp [itemsText, writeItemsIndented, joinWith]

theorem itemsText_cons : itemsText indent (j :: j' :: items) =
    writeIndented (indent + 1) j ++
      ',' :: (lineBreak (indent + 1) ++ itemsText indent (j' :: items)) := by
  simp [itemsText, writeItemsIndented, joinWith, List.intercalate_cons_cons]

theorem membersText_singleton : membersText indent [(name, j)] =
    quote name ++ ':' :: ' ' :: writeIndented (indent + 1) j := by
  simp [membersText, writeMembersIndented, joinWith]

theorem membersText_cons : membersText indent ((name, j) :: m :: members) =
    quote name ++ ':' :: ' ' :: (writeIndented (indent + 1) j ++
      ',' :: (lineBreak (indent + 1) ++ membersText indent (m :: members))) := by
  obtain ⟨name', j'⟩ := m
  simp [membersText, writeMembersIndented, joinWith, List.intercalate_cons_cons]

theorem writeIndented_array (indent : Nat) (j : Json) (items : List Json) (rest : List Char) :
    writeIndented indent (array (j :: items)) ++ rest = '[' :: (lineBreak (indent + 1) ++
      (itemsText indent (j :: items) ++ (lineBreak indent ++ ']' :: rest))) := by
  simp [writeIndented, itemsText]

theorem writeIndented_object (indent : Nat) (m : String × Json) (members : List (String × Json))
    (rest : List Char) : writeIndented indent (object (m :: members)) ++ rest =
      '\x7b' :: (lineBreak (indent + 1) ++
        (membersText indent (m :: members) ++ (lineBreak indent ++ '\x7d' :: rest))) := by
  simp [writeIndented, membersText]

theorem writeIndented_int (n : Int) : writeIndented indent (int n) = (toString n).toList := by
  rw [writeIndented, writeLine]
  all_goals nofun

theorem writeIndented_float (x : Float) :
    writeIndented indent (float x) = (report.write x).toList := by
  rw [writeIndented, writeLine]
  all_goals nofun

/-- The name of a member comes right after the blanks. -/
theorem skipSpace_name (indent : Nat) (name : String) (rest : List Char) :
    skipSpace (lineBreak indent ++ (quote name ++ rest)) = quote name ++ rest := by
  rw [skipSpace_lineBreak]
  rfl

/-- There is more text around items than in them. -/
theorem length_itemsText (indent : Nat) (j : Json) (items : List Json) :
    (itemsText indent (j :: items)).length + 2 ≤
      (writeIndented indent (array (j :: items))).length := by
  have htext := congrArg List.length (writeIndented_array indent j items [])
  simp only [List.append_nil, List.length_cons, List.length_append, List.length_nil] at htext
  omega

theorem length_membersText (indent : Nat) (m : String × Json) (members : List (String × Json)) :
    (membersText indent (m :: members)).length + 2 ≤
      (writeIndented indent (object (m :: members))).length := by
  have htext := congrArg List.length (writeIndented_object indent m members [])
  simp only [List.append_nil, List.length_cons, List.length_append, List.length_nil] at htext
  omega

mutual

/-- **A value is read up to what follows it.** -/
theorem readValue?_write (indent : Nat) : (j : Json) → j.Plain → ∀ {fuel rest}, Ended rest →
    2 * (writeIndented indent j).length ≤ fuel + 1 →
    readValue? (fuel + 1) (writeIndented indent j ++ rest) = some (j.mapDoubles reread, rest)
  | null, _, _, _, _, _ => rfl
  | bool true, _, _, _, _, _ => rfl
  | bool false, _, _, _, _, _ => rfl
  | int n, hplain, fuel, rest, hrest, _ => by
    cases hplain with
    | int hlow hhigh =>
      rw [writeIndented_int, ← text_partsOfInt, readValue?_number (proper_partsOfInt n),
        text_partsOfInt]
      exact readNumber?_int hlow hhigh hrest
  | float x, hplain, fuel, rest, hrest, _ => by
    cases hplain with
    | float hx =>
      obtain ⟨p, hproper, -, htext⟩ := exists_parts_of_isFinite hx
      rw [writeIndented_float, ← htext, readValue?_number hproper, htext]
      exact readNumber?_double hx hrest
  | string s, _, fuel, rest, _, _ => readValue?_quote fuel s rest
  | array [], _, _, _, _, _ => rfl
  | object [], _, _, _, _, _ => rfl
  | array (j :: items), hplain, fuel, rest, hrest, hfuel => by
    have hlength := length_itemsText indent j items
    obtain ⟨fuel, rfl⟩ : ∃ k, fuel = k + 1 := ⟨fuel - 1, by omega⟩
    rw [writeIndented_array]
    exact readValue?_of_items
      (readItems?_write indent (j :: items) (plain_array.1 hplain) (List.cons_ne_nil _ _)
        (by omega))
  | object (m :: members), hplain, fuel, rest, hrest, hfuel => by
    have hlength := length_membersText indent m members
    obtain ⟨fuel, rfl⟩ : ∃ k, fuel = k + 1 := ⟨fuel - 1, by omega⟩
    rw [writeIndented_object]
    exact readValue?_of_members
      (readMembers?_write indent (m :: members) (plain_object.1 hplain) (List.cons_ne_nil _ _)
        (by omega))

/-- The items of an array are read up to its closing bracket. -/
theorem readItems?_write (indent : Nat) : (items : List Json) → (∀ j ∈ items, j.Plain) →
    ∀ {fuel acc rest}, items ≠ [] → 2 * (itemsText indent items).length < fuel →
    readItems? (fuel + 1) acc (lineBreak (indent + 1) ++
      (itemsText indent items ++ (lineBreak indent ++ ']' :: rest))) =
      some (array (acc.reverse ++ mapItems reread items), rest)
  | [], _, _, _, _, hne, _ => absurd rfl hne
  | [j], hplain, fuel, acc, rest, _, hfuel => by
    obtain ⟨fuel, rfl⟩ : ∃ k, fuel = k + 1 := ⟨fuel - 1, by omega⟩
    rw [itemsText_singleton] at hfuel ⊢
    have hread := readValue?_write (indent + 1) j (hplain j List.mem_cons_self)
      (ended_lineBreak indent (']' :: rest)) (by omega : _ ≤ fuel + 1)
    rw [← readValue?_congr (skipSpace_lineBreak (indent + 1) _)] at hread
    rw [readItems?_last hread, List.reverse_cons]
    rfl
  | j :: j' :: items, hplain, fuel, acc, rest, _, hfuel => by
    obtain ⟨fuel, rfl⟩ : ∃ k, fuel = k + 1 := ⟨fuel - 1, by omega⟩
    rw [itemsText_cons] at hfuel ⊢
    rw [List.length_append, List.length_cons, List.length_append] at hfuel
    rw [List.append_assoc, List.cons_append, List.append_assoc]
    have hread := readValue?_write (indent + 1) j (hplain j List.mem_cons_self)
      (ended_comma (lineBreak (indent + 1) ++
        (itemsText indent (j' :: items) ++ (lineBreak indent ++ ']' :: rest))))
      (by omega : _ ≤ fuel + 1)
    rw [← readValue?_congr (skipSpace_lineBreak (indent + 1) _)] at hread
    rw [readItems?_comma hread, readItems?_write indent (j' :: items)
      (fun k hk => hplain k (List.mem_cons_of_mem _ hk)) (List.cons_ne_nil _ _) (by omega),
      List.reverse_cons, List.append_assoc]
    rfl

/-- The members of an object are read up to its closing brace. -/
theorem readMembers?_write (indent : Nat) : (members : List (String × Json)) →
    (∀ m ∈ members, m.2.Plain) → ∀ {fuel acc rest}, members ≠ [] →
    2 * (membersText indent members).length < fuel →
    readMembers? (fuel + 1) acc (lineBreak (indent + 1) ++
      (membersText indent members ++ (lineBreak indent ++ '\x7d' :: rest))) =
      some (object (acc.reverse ++ mapMembers reread members), rest)
  | [], _, _, _, _, hne, _ => absurd rfl hne
  | [(name, j)], hplain, fuel, acc, rest, _, hfuel => by
    obtain ⟨fuel, rfl⟩ : ∃ k, fuel = k + 1 := ⟨fuel - 1, by omega⟩
    rw [membersText_singleton] at hfuel ⊢
    rw [List.length_append, List.length_cons, List.length_cons] at hfuel
    rw [List.append_assoc, List.cons_append, List.cons_append]
    have hread := readValue?_write (indent + 1) j (hplain (name, j) List.mem_cons_self)
      (ended_lineBreak indent ('\x7d' :: rest)) (by omega : _ ≤ fuel + 1)
    rw [readMembers?_member (skipSpace_name _ name _) hread, skipSpace_lineBreak, List.reverse_cons]
    rfl
  | (name, j) :: m :: members, hplain, fuel, acc, rest, _, hfuel => by
    obtain ⟨fuel, rfl⟩ : ∃ k, fuel = k + 1 := ⟨fuel - 1, by omega⟩
    rw [membersText_cons] at hfuel ⊢
    simp only [List.length_append, List.length_cons] at hfuel
    simp only [List.append_assoc, List.cons_append]
    have hread := readValue?_write (indent + 1) j (hplain (name, j) List.mem_cons_self)
      (ended_comma (lineBreak (indent + 1) ++
        (membersText indent (m :: members) ++ (lineBreak indent ++ '\x7d' :: rest))))
      (by omega : _ ≤ fuel + 1)
    rw [readMembers?_member (skipSpace_name _ name _) hread]
    show readMembers? (fuel + 1) _ (lineBreak (indent + 1) ++ _) = _
    rw [readMembers?_write indent (m :: members)
      (fun k hk => hplain k (List.mem_cons_of_mem _ hk)) (List.cons_ne_nil _ _) (by omega),
      List.reverse_cons, List.append_assoc]
    rfl

end

/-- **A value over several lines is read back**, up to its doubles. -/
theorem read?_pretty {j : Json} (h : j.Plain) : read? (pretty j) = some (j.mapDoubles reread) := by
  have hread := readValue?_write 0 j h (ended_nil)
    (by omega : 2 * (writeIndented 0 j).length ≤ 2 * (writeIndented 0 j).length + 1 + 1)
  rw [List.append_nil] at hread
  rw [read?, pretty, String.toList_ofList]
  dsimp only
  rw [hread]
  rfl

end VisualRegression.Json
