import VisualRegression.Instant

/-!
# The calendar

The date of a day is one of the calendar (`day_of_date`), and stands for that day again
(`daysOfDate_dateOfDays`).  Years are counted from March, so that a leap day comes last: a day of
the 400 years after which the calendar repeats is one of a century, of four years in it, of a year
among these and of a month (`exists_cycle`).
-/

namespace VisualRegression.Instant

variable {doe c q y t : Nat}

/-! ## Years -/

/-- The day is the day `t` of the year `y` of the four years `q` of the century `c`. -/
structure OfCycle (doe c q y t : Nat) : Prop where
  eq : doe = 36524 * c + (1461 * q + 365 * y + t)
  century : c < 4
  four : q < 25
  year : y < 4
  /-- There is a last day more in a year with a leap day. -/
  day : t < 365 ∨ t = 365 ∧ y = 3 ∧ (q < 24 ∨ c = 3)

theorem exists_cycle (h : doe < 146097) : ∃ c q y t, OfCycle doe c q y t := by
  refine ⟨min (doe / 36524) 3, (doe - 36524 * min (doe / 36524) 3) / 1461,
    min ((doe - 36524 * min (doe / 36524) 3) % 1461 / 365) 3,
    (doe - 36524 * min (doe / 36524) 3) % 1461 -
      365 * min ((doe - 36524 * min (doe / 36524) 3) % 1461 / 365) 3, ?_⟩
  constructor <;> omega

/-- Centuries have 36524 days, but for the last day of the fourth. -/
theorem OfCycle.div_century (h : OfCycle doe c q y t) : doe / 36524 = c + doe / 146096 := by
  obtain ⟨rfl, hc, hq, hy, ht⟩ := h
  have hrest : 1461 * q + 365 * y + t < 36524 ∨ 1461 * q + 365 * y + t = 36524 ∧ c = 3 := by
    omega
  obtain hlt | ⟨hlast, rfl⟩ := hrest
  · have hcycle : 36524 * c + (1461 * q + 365 * y + t) < 146096 := by omega
    rw [Nat.mul_add_div (by decide), Nat.div_eq_of_lt hlt, Nat.div_eq_of_lt hcycle]
  · rw [hlast]

/-- **The year of a day** is found by leaving out the leap days before it. -/
theorem OfCycle.year_eq (h : OfCycle doe c q y t) :
    (doe - doe / 1460 + doe / 36524 - doe / 146096) / 365 = 100 * c + 4 * q + y := by
  have hcentury := h.div_century
  obtain ⟨rfl, hc, hq, hy, ht⟩ := h
  -- four years of 365 days each leave a day out, and so do those before them
  have hfour : (36524 * c + (1461 * q + 365 * y + t)) / 1460 =
      25 * c + q + (24 * c + q + 365 * y + t) / 1460 := by
    rw [← Nat.mul_add_div (by decide)]
    congr 1
    omega
  have hcarry : (24 * c + q + 365 * y + t) / 1460 ≤ t ∧
      t < 365 + (24 * c + q + 365 * y + t) / 1460 := by
    omega
  rw [hcentury, hfour]
  generalize (24 * c + q + 365 * y + t) / 1460 = carry at hcarry
  have hdays : 36524 * c + (1461 * q + 365 * y + t) - (25 * c + q + carry) +
      (c + (36524 * c + (1461 * q + 365 * y + t)) / 146096) -
      (36524 * c + (1461 * q + 365 * y + t)) / 146096 =
      365 * (100 * c + 4 * q + y) + (t - carry) := by
    rw [← Nat.add_assoc, Nat.add_sub_cancel]
    omega
  rw [hdays, Nat.mul_add_div (by decide), Nat.div_eq_of_lt (by omega), Nat.add_zero]

/-- The days before a year of the cycle. -/
theorem OfCycle.days_eq (h : OfCycle doe c q y t) :
    365 * (100 * c + 4 * q + y) + (100 * c + 4 * q + y) / 4 - (100 * c + 4 * q + y) / 100 + t =
      doe := by
  obtain ⟨rfl, hc, hq, hy, -⟩ := h
  omega

theorem OfCycle.day_le (h : OfCycle doe c q y t) : t ≤ 365 := by
  obtain ht | ⟨rfl, -⟩ := h.day
  · exact Nat.le_of_lt ht
  · exact Nat.le_refl _

/-- The last day of the longest years is a leap day. -/
theorem OfCycle.leap (h : OfCycle doe c q y t) (hlast : t = 365) (era : Int) :
    isLeapYear (((100 * c + 4 * q + y : Nat) : Int) + era * 400 + 1) = true := by
  obtain ⟨-, hc, hq, hy, ht⟩ := h
  have hyear : y = 3 ∧ (q < 24 ∨ c = 3) := by omega
  simp only [isLeapYear, Bool.and_eq_true, Bool.or_eq_true, beq_iff_eq, bne_iff_ne]
  omega

/-! ## Months -/

/-- The month of a day of the year from March, and the day in it. -/
theorem month_of_day (ht : t ≤ 365) :
    ∃ march, march = (5 * t + 2) / 153 ∧ march < 12 ∧ (153 * march + 2) / 5 ≤ t ∧
      t < (153 * (march + 1) + 2) / 5 := by
  refine ⟨_, rfl, ?_⟩
  omega

/-- The month of the calendar that is so many months after March. -/
def monthOf (march : Nat) : Nat := if march < 10 then march + 3 else march - 9

/-- The date of a day of the cycle. -/
theorem OfCycle.dateOfDays_eq (h : OfCycle doe c q y t) {days era : Int}
    (hdays : days + 719468 = era * 146097 + doe) :
    dateOfDays days =
      (((100 * c + 4 * q + y : Nat) : Int) + era * 400 +
          (if monthOf ((5 * t + 2) / 153) ≤ 2 then 1 else 0),
        monthOf ((5 * t + 2) / 153), t - (153 * ((5 * t + 2) / 153) + 2) / 5 + 1) := by
  have hlt : doe < 146097 := by
    obtain ⟨rfl, hc, hq, hy, ht⟩ := h
    omega
  have hera : Int.fdiv (days + 719468) 146097 = era := by
    rw [Int.fdiv_eq_ediv_of_nonneg _ (by decide)]
    omega
  have hdoe : (days + 719468 - era * 146097).toNat = doe := by omega
  have hday : doe - (365 * (100 * c + 4 * q + y) + (100 * c + 4 * q + y) / 4 -
      (100 * c + 4 * q + y) / 100) = t := by
    have := h.days_eq
    omega
  unfold dateOfDays
  dsimp only
  rw [hera, hdoe, h.year_eq, hday]
  rfl

/-- The day of a date of the cycle. -/
theorem OfCycle.daysOfDate_eq (h : OfCycle doe c q y t) {march : Nat} (era : Int)
    (hmarch : march < 12) (hstart : (153 * march + 2) / 5 ≤ t) :
    daysOfDate (((100 * c + 4 * q + y : Nat) : Int) + era * 400 +
        (if monthOf march ≤ 2 then 1 else 0)) (monthOf march) (t - (153 * march + 2) / 5 + 1) =
      era * 146097 + doe - 719468 := by
  have hyoe : 100 * c + 4 * q + y < 400 := by
    obtain ⟨-, hc, hq, hy, -⟩ := h
    omega
  have hdays := h.days_eq
  generalize 100 * c + 4 * q + y = yoe at hyoe hdays ⊢
  have hyear : (if monthOf march ≤ 2 then
      (yoe : Int) + era * 400 + (if monthOf march ≤ 2 then 1 else 0) - 1
      else (yoe : Int) + era * 400 + (if monthOf march ≤ 2 then 1 else 0)) =
      (yoe : Int) + era * 400 := by
    split <;> omega
  have hmonth : (monthOf march + 9) % 12 = march := by
    unfold monthOf
    split <;> omega
  have hera : Int.fdiv ((yoe : Int) + era * 400) 400 = era := by
    rw [Int.fdiv_eq_ediv_of_nonneg _ (by decide)]
    omega
  have hyearOfEra : (yoe : Int) + era * 400 - era * 400 = yoe := by omega
  have hdayOfYear : (153 * march + 2) / 5 + (t - (153 * march + 2) / 5 + 1) - 1 = t := by omega
  unfold daysOfDate
  dsimp only
  rw [hyear, hmonth, hera, hyearOfEra, hdayOfYear]
  omega

/-- The months from March to January have 153 days in five of them. -/
theorem daysInMonth_monthOf (year : Int) (march : Nat) (h : march < 11) :
    daysInMonth year (monthOf march) = (153 * (march + 1) + 2) / 5 - (153 * march + 2) / 5 := by
  have hmonth : monthOf march ≠ 2 := by
    unfold monthOf
    split <;> omega
  have hlengths : ∀ march < 11,
      (if monthOf march = 4 ∨ monthOf march = 6 ∨ monthOf march = 9 ∨ monthOf march = 11 then 30
        else if 1 ≤ monthOf march ∧ monthOf march ≤ 12 then 31 else 0) =
        (153 * (march + 1) + 2) / 5 - (153 * march + 2) / 5 := by
    decide
  rw [daysInMonth, if_neg hmonth]
  exact hlengths march h

/-- A day of a month of the cycle is one of the calendar. -/
theorem OfCycle.day_le_daysInMonth (h : OfCycle doe c q y t) {march : Nat} (era : Int)
    (hmarch : march < 12) (hend : t < (153 * (march + 1) + 2) / 5) :
    t - (153 * march + 2) / 5 + 1 ≤
      daysInMonth (((100 * c + 4 * q + y : Nat) : Int) + era * 400 +
        (if monthOf march ≤ 2 then 1 else 0)) (monthOf march) := by
  have hday := h.day_le
  by_cases hfebruary : march = 11
  · subst hfebruary
    show _ ≤ if isLeapYear (((100 * c + 4 * q + y : Nat) : Int) + era * 400 + 1) = true then 29
      else 28
    by_cases hlast : t = 365
    · rw [if_pos (h.leap hlast era)]
      omega
    · split <;> omega
  · rw [daysInMonth_monthOf _ march (by omega)]
    omega

/-- **The date of a day** is a date of the calendar, and stands for the day. -/
theorem date_of_day (days : Int) :
    ∃ year month day, dateOfDays days = (year, month, day) ∧ 1 ≤ month ∧ month ≤ 12 ∧ 1 ≤ day ∧
      day ≤ daysInMonth year month ∧ daysOfDate year month day = days := by
  obtain ⟨era, doe, hdays, hlt⟩ : ∃ (era : Int) (doe : Nat),
      days + 719468 = era * 146097 + doe ∧ doe < 146097 :=
    ⟨(days + 719468) / 146097, ((days + 719468) % 146097).toNat, by omega, by omega⟩
  obtain ⟨c, q, y, t, h⟩ := exists_cycle hlt
  obtain ⟨march, hmarch, hlast, hstart, hend⟩ := month_of_day h.day_le
  have hmonth : 1 ≤ monthOf march ∧ monthOf march ≤ 12 := by
    unfold monthOf
    split <;> omega
  refine ⟨_, _, _, h.dateOfDays_eq hdays, ?_⟩
  rw [← hmarch]
  refine ⟨hmonth.1, hmonth.2, Nat.succ_le_succ (Nat.zero_le _), h.day_le_daysInMonth era hlast hend,
    ?_⟩
  rw [h.daysOfDate_eq era hlast hstart]
  omega

end VisualRegression.Instant
