/-!
# Blank characters

The characters with the Unicode property White_Space, and the removal of blanks around a text.
Main statements: `trim` leaves no blank at either end (`head?_trim_not_blank`,
`getLast?_trim_not_blank`) and changes nothing where there is none to remove (`trim_eq_self`).
-/

namespace VisualRegression

namespace Text

/-- A character with the property White_Space. -/
def isBlank (c : Char) : Bool :=
  let n := c.toNat
  (0x09 ≤ n && n ≤ 0x0D) || n == 0x20 || n == 0x85 || n == 0xA0 || n == 0x1680 ||
    (0x2000 ≤ n && n ≤ 0x200A) || n == 0x2028 || n == 0x2029 || n == 0x202F || n == 0x205F ||
    n == 0x3000

/-- The text without the blanks at its start. -/
def trimStart (s : List Char) : List Char := s.dropWhile isBlank

/-- The text without the blanks at its end. -/
def trimEnd (s : List Char) : List Char := (s.reverse.dropWhile isBlank).reverse

/-- The text without the blanks at its two ends. -/
def trim (s : List Char) : List Char := trimEnd (trimStart s)

theorem getLast?_trimEnd_not_blank {s : List Char} {c : Char}
    (h : (trimEnd s).getLast? = some c) : isBlank c = false := by
  rw [trimEnd, List.getLast?_reverse] at h
  have := List.head?_dropWhile_not isBlank s.reverse
  rw [h] at this
  simpa using this

/-- A trimmed text does not end in a blank. -/
theorem getLast?_trim_not_blank {s : List Char} {c : Char}
    (h : (trim s).getLast? = some c) : isBlank c = false :=
  getLast?_trimEnd_not_blank h

theorem trimEnd_eq_self {s : List Char} (h : ∀ c, s.getLast? = some c → isBlank c = false) :
    trimEnd s = s := by
  rw [trimEnd]
  cases hs : s.reverse with
  | nil => simpa using hs
  | cons c rest =>
    have hc : isBlank c = false := h c (by rw [← List.head?_reverse, hs]; rfl)
    rw [List.dropWhile_cons_of_neg (by simp [hc]), ← hs, List.reverse_reverse]

theorem trimStart_eq_self {s : List Char} (h : ∀ c, s.head? = some c → isBlank c = false) :
    trimStart s = s := by
  cases s with
  | nil => rfl
  | cons c rest => exact List.dropWhile_cons_of_neg (by simp [h c rfl])

/-- A text without a blank at either end stays as it is. -/
theorem trim_eq_self {s : List Char} (hl : ∀ c, s.head? = some c → isBlank c = false)
    (hr : ∀ c, s.getLast? = some c → isBlank c = false) : trim s = s := by
  rw [trim, trimStart_eq_self hl, trimEnd_eq_self hr]

theorem trimEnd_eq_take (s : List Char) : ∃ rest, s = trimEnd s ++ rest := by
  refine ⟨(s.reverse.takeWhile isBlank).reverse, ?_⟩
  rw [trimEnd, ← List.reverse_append, List.takeWhile_append_dropWhile, List.reverse_reverse]

/-- A trimmed text does not start with a blank. -/
theorem head?_trim_not_blank {s : List Char} {c : Char}
    (h : (trim s).head? = some c) : isBlank c = false := by
  obtain ⟨rest, hrest⟩ := trimEnd_eq_take (trimStart s)
  have hc : (trimStart s).head? = some c := by
    rw [hrest]
    rw [trim] at h
    cases ht : trimEnd (trimStart s) with
    | nil => simp [ht] at h
    | cons a l => simpa [ht] using h
  have := List.head?_dropWhile_not isBlank s
  rw [trimStart] at hc
  rw [hc] at this
  simpa using this

end Text

/-- The text without the blanks at its two ends. -/
def trimBlanks (s : String) : String := String.ofList (Text.trim s.toList)

end VisualRegression
