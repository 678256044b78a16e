import VisualRegression.Decimal.Literal
import VisualRegression.Text.Blank

/-!
# Points in time

A point in time is counted in seconds and nanoseconds from the start of 1970 in coordinated
universal time, and written as a date and a time of day with the letter `Z`. Reading is lenient
with blanks and short fields and takes any offset from universal time. Main statement:
`daysInMonth_le` bounds the length of a month.
-/

namespace VisualRegression

/-- A point in time. Nanoseconds from one thousand million on stand for a leap second. -/
structure Instant where
  seconds : Int
  nanoseconds : Nat
deriving DecidableEq, Inhabited, Repr

namespace Instant

/-- The number of days from the start of 1970 to a date. -/
def daysOfDate (year : Int) (month day : Nat) : Int :=
  let y := if month ≤ 2 then year - 1 else year
  let era := Int.fdiv y 400
  let yearOfEra := y - era * 400
  let monthFromMarch := (month + 9) % 12
  let dayOfYear := (153 * monthFromMarch + 2) / 5 + day - 1
  let dayOfEra := yearOfEra * 365 + yearOfEra / 4 - yearOfEra / 100 + dayOfYear
  era * 146097 + dayOfEra - 719468

/-- The year, month and day so many days after the start of 1970. -/
def dateOfDays (days : Int) : Int × Nat × Nat :=
  let z := days + 719468
  let era := Int.fdiv z 146097
  let dayOfEra := (z - era * 146097).toNat
  let yearOfEra :=
    (dayOfEra - dayOfEra / 1460 + dayOfEra / 36524 - dayOfEra / 146096) / 365
  let dayOfYear := dayOfEra - (365 * yearOfEra + yearOfEra / 4 - yearOfEra / 100)
  let monthFromMarch := (5 * dayOfYear + 2) / 153
  let day := dayOfYear - (153 * monthFromMarch + 2) / 5 + 1
  let month := if monthFromMarch < 10 then monthFromMarch + 3 else monthFromMarch - 9
  (yearOfEra + era * 400 + if month ≤ 2 then 1 else 0, month, day)

/-- The year has a 29th of February. -/
def isLeapYear (year : Int) : Bool := year % 4 == 0 && (year % 100 != 0 || year % 400 == 0)

/-- The number of days in a month; none where there is no such month. -/
def daysInMonth (year : Int) (month : Nat) : Nat :=
  if month = 2 then (if isLeapYear year then 29 else 28)
  else if month = 4 ∨ month = 6 ∨ month = 9 ∨ month = 11 then 30
  else if 1 ≤ month ∧ month ≤ 12 then 31
  else 0

theorem daysInMonth_le (year : Int) (month : Nat) : daysInMonth year month ≤ 31 := by
  unfold daysInMonth; repeat' split
  all_goals omega

/-- The digits of a number, filled up with zeros to a width. -/
def padded (width n : Nat) : List Char :=
  let ds := Nat.toDigits 10 n
  List.replicate (width - ds.length) '0' ++ ds

/-- A year: four digits, or a sign and at least four digits outside of that range. -/
def yearText (year : Int) : List Char :=
  if 0 ≤ year ∧ year ≤ 9999 then padded 4 year.toNat
  else (if year < 0 then '-' else '+') :: padded 4 year.natAbs

/-- A fraction of a second: none, three, six or nine digits, as few as tell it exactly. -/
def fractionText (nanoseconds : Nat) : List Char :=
  if nanoseconds = 0 then []
  else if nanoseconds % 1000000 = 0 then '.' :: padded 3 (nanoseconds / 1000000)
  else if nanoseconds % 1000 = 0 then '.' :: padded 6 (nanoseconds / 1000)
  else '.' :: padded 9 nanoseconds

/-- A date in words. -/
def dateText (date : Int × Nat × Nat) : List Char :=
  yearText date.1 ++ '-' :: padded 2 date.2.1 ++ '-' :: padded 2 date.2.2

/-- A time of day in words: an hour, a minute, a second and nanoseconds. -/
def timeText (time : Nat × Nat × Nat × Nat) : List Char :=
  padded 2 time.1 ++ ':' :: padded 2 time.2.1 ++ ':' :: padded 2 time.2.2.1 ++
    fractionText time.2.2.2

/-- The date of a point in time: its year, month and day. -/
def date (t : Instant) : Int × Nat × Nat := dateOfDays (Int.fdiv t.seconds 86400)

/-- The time of day of a point in time. A leap second comes after the last one of its minute. -/
def time (t : Instant) : Nat × Nat × Nat × Nat :=
  let ofDay := (t.seconds - Int.fdiv t.seconds 86400 * 86400).toNat
  let leap := t.nanoseconds ≥ 1000000000
  (ofDay / 3600, ofDay / 60 % 60, ofDay % 60 + if leap then 1 else 0,
    if leap then t.nanoseconds - 1000000000 else t.nanoseconds)

/-- The written form. -/
def text (t : Instant) : String :=
  String.ofList (dateText t.date ++ 'T' :: timeText t.time ++ ['Z'])

/-- Reads a number of one to `width` digits after blanks. -/
def readNumber? (width : Nat) (s : List Char) : Option (Nat × List Char) :=
  let s := Text.trimStart s
  let ds := (s.take width).takeWhile Decimal.isDigit
  if ds.isEmpty then none else some (Decimal.digitsValue ds, s.drop ds.length)

/-- Reads a year: up to four digits, or a sign and any number of digits. -/
def readYear? (s : List Char) : Option (Int × List Char) :=
  match Text.trimStart s with
  | '-' :: rest => signed rest (-1)
  | '+' :: rest => signed rest 1
  | rest => (readNumber? 4 rest).map fun (n, rest) => ((n : Int), rest)
where
  /-- Reads the digits right after a sign. -/
  signed (s : List Char) (sign : Int) : Option (Int × List Char) :=
    let (ds, rest) := Decimal.spanDigits s
    if ds.isEmpty then none else some (sign * Decimal.digitsValue ds, rest)

/-- Reads one character after blanks. -/
def readMark? (c : Char) (s : List Char) : Option (List Char) :=
  match Text.trimStart s with
  | d :: rest => if d = c then some rest else none
  | [] => none

/-- Reads an optional fraction of a second; digits beyond the ninth do not count. -/
def readFraction? : List Char → Option (Nat × List Char)
  | '.' :: rest =>
    let (ds, rest) := Decimal.spanDigits rest
    if ds.isEmpty then none
    else
      let kept := ds.take 9
      some (Decimal.digitsValue (kept ++ List.replicate (9 - kept.length) '0'), rest)
  | s => some (0, s)

/-- Reads an offset from universal time, in seconds. -/
def readOffset? (s : List Char) : Option (Int × List Char) :=
  match s with
  | [] => none
  | c :: rest =>
    if c = 'Z' ∨ c = 'z' then some (0, rest)
    else if (s.take 3).map Char.toUpper = ['U', 'T', 'C'] then some (0, s.drop 3)
    else if c = '+' ∨ c = '-' ∨ c = '\u2212' then
      match rest with
      | h₁ :: h₂ :: rest =>
        if Decimal.isDigit h₁ ∧ Decimal.isDigit h₂ then
          match rest.dropWhile fun c => c == ':' || Text.isBlank c with
          | m₁ :: m₂ :: rest =>
            if Decimal.isDigit m₁ ∧ m₁ ≤ '5' ∧ Decimal.isDigit m₂ then
              let seconds : Int :=
                Decimal.digitsValue [h₁, h₂] * 3600 + Decimal.digitsValue [m₁, m₂] * 60
              some (if c = '+' then seconds else -seconds, rest)
            else none
          | _ => none
        else none
      | _ => none
    else none

/-- Reads a date: a year, a month and a day. -/
def readDate? (s : List Char) : Option ((Int × Nat × Nat) × List Char) := do
  let (year, s) ← readYear? s
  let s ← readMark? '-' s
  let (month, s) ← readNumber? 2 s
  let s ← readMark? '-' s
  let (day, s) ← readNumber? 2 s
  return ((year, month, day), s)

/-- Reads what stands between a date and a time of day. -/
def readSeparator? : List Char → Option (List Char)
  | c :: rest => if c = 'T' ∨ c = 't' ∨ c = ' ' then some rest else none
  | [] => none

/-- Reads a time of day: an hour, a minute, a second and nanoseconds. -/
def readTime? (s : List Char) : Option ((Nat × Nat × Nat × Nat) × List Char) := do
  let (hour, s) ← readNumber? 2 s
  let s ← readMark? ':' s
  let (minute, s) ← readNumber? 2 s
  let s ← readMark? ':' s
  let (second, s) ← readNumber? 2 s
  let (fraction, s) ← readFraction? s
  return ((hour, minute, second, fraction), s)

/-- The point in time at a date and a time of day with an offset from universal time, if there are
such. -/
def ofFields? (date : Int × Nat × Nat) (time : Nat × Nat × Nat × Nat) (offset : Int) :
    Option Instant := do
  let (year, month, day) := date
  let (hour, minute, second, fraction) := time
  guard (1 ≤ day ∧ day ≤ daysInMonth year month)
  guard (hour < 24 ∧ minute < 60 ∧ second ≤ 60)
  guard (-262143 ≤ year ∧ year ≤ 262142)
  guard (-86400 < offset ∧ offset < 86400)
  let leap := second = 60
  let ofDay := hour * 3600 + minute * 60 + (if leap then 59 else second)
  return {
    seconds := daysOfDate year month day * 86400 + ofDay - offset
    nanoseconds := fraction + if leap then 1000000000 else 0 }

/-- Reads a written point in time. -/
def read? (text : String) : Option Instant := do
  let (date, s) ← readDate? text.toList
  let s ← readSeparator? s
  let (time, s) ← readTime? s
  let (offset, s) ← readOffset? (Text.trimStart s)
  guard (Text.trimStart s).isEmpty
  ofFields? date time offset

end Instant

end VisualRegression
