import Mathlib.Tactic.IntervalCases
import Muduo.Base.Date

/-!
# Days before the year `-4800`

Before 1 March of the year `-4800` the divisions towards zero count the years backwards from that
day. A date found there is often that of another day: the way back through it never gives a smaller
number, but one that is larger unless the day is in one of a few parts of its year.
-/

namespace Muduo

namespace Date

/-- A century, a year in it, a day in that year and its month, all counted backwards. Some years and
some centuries begin with their second day, and some years end with a day 366. -/
structure BackParts (century year day month : Int) : Prop where
  /-- Centuries are counted from 0. -/
  century_nonneg : 0 ≤ century
  /-- Years are counted from 0. -/
  year_nonneg : 0 ≤ year
  /-- A century has a hundred years. -/
  year_le : year ≤ 99
  /-- Days are counted from 1. -/
  day_pos : 1 ≤ day
  /-- A year has 366 days at most. -/
  day_le : day ≤ 366
  /-- The first day. -/
  first : day = 1 → year % 4 < 2 ∧ (year = 0 → century % 4 < 2)
  /-- The last day. -/
  last : day = 366 → year % 4 ≠ 0 ∧ (year = 99 → century % 4 ≠ 0)
  /-- The month of the day. -/
  month_eq : month = (5 * day - 2) / 153

variable {b d e m day : Int}

/-- A year has twelve months. -/
theorem BackParts.month_range (parts : BackParts b d e m) : 0 ≤ m ∧ m ≤ 11 := by
  obtain ⟨-, -, -, first, last, -, -, month⟩ := parts
  omega

/-- The days in whole years of a century. -/
theorem inYears (year : Int) : 1461 * year / 4 = 365 * year + year / 4 := by omega

/-- A day is in its year. -/
theorem BackParts.inYear (parts : BackParts b d e m) :
    d % 4 + 3 ≤ 4 * e ∧ 4 * e < 1464 + d % 4 := by
  obtain ⟨-, -, -, positive, most, first, last, -⟩ := parts
  constructor
  · by_cases one : e = 1
    · have second := (first one).1
      omega
    · omega
  · by_cases full : e = 366
    · have some := (last full).1
      omega
    · omega

/-- A day is in its century. -/
theorem BackParts.inCentury (parts : BackParts b d e m) :
    b % 4 + 3 ≤ 4 * (e + 1461 * d / 4) ∧ 4 * (e + 1461 * d / 4) < 146100 + b % 4 := by
  obtain ⟨-, year, less, positive, most, first, last, -⟩ := parts
  rw [inYears]
  constructor
  · by_cases start : e = 1 ∧ d = 0
    · have second := (first start.1).2 start.2
      omega
    · omega
  · by_cases full : e = 366 ∧ d = 99
    · have some := (last full.1).2 full.2
      omega
    · omega

/-- The date of a day that is somewhere in a year, counted backwards. -/
theorem BackParts.getYearMonthDay_eq (parts : BackParts b d e m)
    (sum : -(day + 32044) = e + 1461 * d / 4 + b * 146097 / 4) :
    getYearMonthDay day = marchDate (-b) (-d) (-e) (-m) := by
  obtain ⟨century, nextCentury⟩ := parts.inCentury
  obtain ⟨year, nextYear⟩ := parts.inYear
  obtain ⟨centuries, years, -, some, -, -, -, month⟩ := parts
  have first : (4 * (day + 32044) + 3).tdiv 146097 = -b := by
    rw [centuryDays] at sum
    rw [tdiv_of_neg 146097 (by omega)]
    omega
  have second : day + 32044 - (-b * 146097).tdiv 4 = -(e + 1461 * d / 4) := by
    rw [tdiv_of_neg 4 (by omega)]
    omega
  have third : (4 * -(e + 1461 * d / 4) + 3).tdiv 1461 = -d := by
    rw [inYears, tdiv_of_neg 1461 (by omega)]
    omega
  have fourth : -(e + 1461 * d / 4) - (1461 * -d).tdiv 4 = -e := by
    rw [tdiv_of_neg 4 (by omega)]
    omega
  have fifth : (5 * -e + 2).tdiv 153 = -m := by
    rw [tdiv_of_neg 153 (by omega)]
    omega
  simp only [getYearMonthDay, first, second, third, fourth, fifth]
  rfl

/-- A day before the first year: where it is in its year, counted backwards. -/
theorem exists_backParts (earlier : day + 32044 < 0) : ∃ b d e m, BackParts b d e m ∧
    -(day + 32044) = e + 1461 * d / 4 + b * 146097 / 4 := by
  obtain ⟨n, back⟩ : ∃ n, n = -(day + 32044) := ⟨_, rfl⟩
  obtain ⟨b, century⟩ : ∃ b, b = (4 * n - 3) / 146097 := ⟨_, rfl⟩
  obtain ⟨c, inCentury⟩ : ∃ c, c = n - b * 146097 / 4 := ⟨_, rfl⟩
  obtain ⟨d, year⟩ : ∃ d, d = (4 * c - 3) / 1461 := ⟨_, rfl⟩
  obtain ⟨e, inYear⟩ : ∃ e, e = c - 1461 * d / 4 := ⟨_, rfl⟩
  have centuries : 0 ≤ b := by omega
  have centuryRange : b % 4 + 3 ≤ 4 * c ∧ 4 * c < 146100 + b % 4 := by
    rw [centuryDays] at inCentury
    omega
  have years : 0 ≤ d ∧ d ≤ 99 := by omega
  have yearRange : d % 4 + 3 ≤ 4 * e ∧ 4 * e < 1464 + d % 4 := by
    rw [inYears] at inYear
    omega
  have sum : -(day + 32044) = e + 1461 * d / 4 + b * 146097 / 4 := by omega
  rw [inYears] at inYear
  clear century year back
  refine ⟨b, d, e, _, ⟨centuries, years.1, years.2, by omega, by omega, fun first => ?_,
    fun last => ?_, rfl⟩, sum⟩
  · subst first
    refine ⟨by omega, fun zero => ?_⟩
    subst zero
    omega
  · subst last
    refine ⟨by omega, fun full => ?_⟩
    subst full
    omega

/-- How far the way through a date moves a day: not at all in the first month, and else by the
months of a year that are counted twice, less the days of that year. -/
theorem BackParts.renumber_eq (parts : BackParts b d e m)
    (sum : -(day + 32044) = e + 1461 * d / 4 + b * 146097 / 4) :
    renumber day = if m = 0 then day else day + (153 * m - 2) / 5 + (153 * (12 - m) + 2) / 5 -
      (yearDays (b * 100 + d + 1) - yearDays (b * 100 + d)) := by
  have same := parts.getYearMonthDay_eq sum
  obtain ⟨month, twelve⟩ := parts.month_range
  obtain ⟨century, year, less, -⟩ := parts
  have days := yearDays_century century year less
  have tens : (-m).tdiv 10 = -(m / 10) := by
    rw [tdiv_of_neg 10 (by omega), Int.neg_neg]
  simp only [renumber, same, marchDate]
  rw [getJulianDayNumber_eq, tens]
  by_cases march : m = 0
  · subst march
    have years : -b * 100 + -d - 4800 + -(0 / 10) + 4800 - 0 = -(b * 100 + d) := by omega
    have carry : (14 - (-0 + 3 - 12 * -((0 : Int) / 10))).tdiv 12 = 0 := by decide
    have none : (153 * (-0 : Int) + 2).tdiv 5 = 0 := by decide
    have zero : (153 * (-0 + 3 - 12 * -((0 : Int) / 10) + 12 * 0 - 3) + 2).tdiv 5 = 0 := by
      decide
    rw [carry, years, yearDays_neg, days, none, zero, if_pos rfl]
    omega
  · have carry : (14 - (-m + 3 - 12 * -(m / 10))).tdiv 12 = 1 - m / 10 := by
      rw [Int.tdiv_eq_ediv_of_nonneg (by omega)]
      omega
    have months : -m + 3 - 12 * -(m / 10) + 12 * (1 - m / 10) - 3 = 12 - m := by omega
    have years : -b * 100 + -d - 4800 + -(m / 10) + 4800 - (1 - m / 10) =
        -(b * 100 + d + 1) := by omega
    rw [carry, months, years, yearDays_neg, tdiv_of_neg 5 (by omega : 0 ≤ -(153 * -m + 2)),
      Int.tdiv_eq_ediv_of_nonneg (by omega), if_neg march]
    omega

/-- Before the first year, the way through a date never leads to an earlier day. -/
theorem le_renumber (day : Int) : day ≤ renumber day := by
  by_cases later : -32044 ≤ day
  · exact (renumber_of_le later).ge
  · obtain ⟨b, d, e, m, parts, sum⟩ := @exists_backParts day (by omega)
    obtain ⟨month, twelve⟩ := parts.month_range
    have century := parts.century_nonneg
    have year := parts.year_nonneg
    have longer := @yearDays_succ (b * 100 + d) (by omega)
    rw [parts.renumber_eq sum]
    split
    · exact le_rfl
    · omega

/-- A day that is not before 1 March of the year `-4800` or, counted backwards from that day, is in
one of these parts of a year: the first 30 days, without the first one where the number of the years
before it is 2 or 3 more than a multiple of 4 or 200 or 300 more than a multiple of 400; and, where
one year more makes a leap year, the days 62 to 122, 154 to 183, 215 to 275 and 307 to 336. -/
def Survives (day : Int) : Prop :=
  -32044 ≤ day ∨ ∃ years place : Int, 0 ≤ years ∧
    day = -32044 - (365 * years + years / 4 - years / 100 + years / 400) - place ∧
    (1 ≤ place ∧ place ≤ 30 ∧
        (place = 1 → years % 4 < 2 ∧ years % 400 ≠ 200 ∧ years % 400 ≠ 300) ∨
      ((years + 1) % 4 = 0 ∧ ((years + 1) % 100 ≠ 0 ∨ (years + 1) % 400 = 0)) ∧
        (62 ≤ place ∧ place ≤ 122 ∨ 154 ≤ place ∧ place ≤ 183 ∨ 215 ≤ place ∧ place ≤ 275 ∨
          307 ≤ place ∧ place ≤ 336))

/-- The days of the months that are counted twice and of those that are left: the days of a leap
year, or one more. -/
theorem months_twice (some : 0 < m) (twelve : m ≤ 11) :
    (153 * m - 2) / 5 + (153 * (12 - m) + 2) / 5 =
      if m = 2 ∨ m = 3 ∨ m = 5 ∨ m = 7 ∨ m = 8 ∨ m = 10 then 366 else 367 := by
  interval_cases m <;> rfl

/-- The days of the months named in `months_twice`. -/
theorem BackParts.leap_months (parts : BackParts b d e m) :
    (m = 2 ∨ m = 3 ∨ m = 5 ∨ m = 7 ∨ m = 8 ∨ m = 10) ↔
      62 ≤ e ∧ e ≤ 122 ∨ 154 ≤ e ∧ e ≤ 183 ∨ 215 ≤ e ∧ e ≤ 275 ∨ 307 ≤ e ∧ e ≤ 336 := by
  obtain ⟨-, -, -, -, -, -, -, month⟩ := parts
  omega

/-- Of the days of a year the first month survives, and where one year more makes a leap year some
of the others. -/
theorem BackParts.renumber_iff (parts : BackParts b d e m)
    (sum : -(day + 32044) = e + 1461 * d / 4 + b * 146097 / 4) :
    renumber day = day ↔ e ≤ 30 ∨
      ((d + 1) % 4 = 0 ∧ (d ≠ 99 ∨ b % 4 = 3)) ∧
        (62 ≤ e ∧ e ≤ 122 ∨ 154 ≤ e ∧ e ≤ 183 ∨ 215 ≤ e ∧ e ≤ 275 ∨ 307 ≤ e ∧ e ≤ 336) := by
  have months := parts.leap_months
  obtain ⟨first, twelve⟩ := parts.month_range
  rw [parts.renumber_eq sum, ← months]
  obtain ⟨century, year, less, some, -, -, -, month⟩ := parts
  have nonneg : 0 ≤ b * 100 + d := by omega
  have next : 0 ≤ b * 100 + d + 1 := by omega
  have days : yearDays (b * 100 + d + 1) - yearDays (b * 100 + d) =
      if (d + 1) % 4 = 0 ∧ (d ≠ 99 ∨ b % 4 = 3) then 366 else 365 := by
    simp only [yearDays, Int.tdiv_eq_ediv_of_nonneg nonneg, Int.tdiv_eq_ediv_of_nonneg next]
    split
    · omega
    · omega
  clear months sum
  by_cases march : m = 0
  · rw [if_pos march]
    exact iff_of_true rfl (.inl (by omega))
  · have twice := months_twice (by omega) twelve
    rw [if_neg march, days, Int.add_assoc day, twice]
    have late : ¬e ≤ 30 := by omega
    split_ifs with leapMonth leapYear leapYear
    · exact iff_of_true (by omega) (.inr ⟨leapYear, leapMonth⟩)
    · exact iff_of_false (by omega) fun either => leapYear (either.resolve_left late).1
    · exact iff_of_false (by omega) fun either => leapMonth (either.resolve_left late).2
    · exact iff_of_false (by omega) fun either => leapMonth (either.resolve_left late).2

/-- What is left of years by four and by four hundred. -/
theorem years_remainders (year : 0 ≤ d) (less : d ≤ 99) :
    (b * 100 + d) % 4 = d % 4 ∧ (b * 100 + d) % 400 = b % 4 * 100 + d := by omega

/-- One more than so many years makes a leap year. -/
theorem leap_iff (year : 0 ≤ d) (less : d ≤ 99) :
    ((b * 100 + d + 1) % 4 = 0 ∧ ((b * 100 + d + 1) % 100 ≠ 0 ∨ (b * 100 + d + 1) % 400 = 0)) ↔
      (d + 1) % 4 = 0 ∧ (d ≠ 99 ∨ b % 4 = 3) := by
  omega

/-- A day survives the way through a date exactly when it is not before 1 March of the year `-4800`
or is in one of the parts of a year that `Survives` names. -/
theorem renumber_eq_iff (day : Int) : renumber day = day ↔ Survives day := by
  by_cases later : -32044 ≤ day
  · exact iff_of_true (renumber_of_le later) (.inl later)
  · constructor
    · intro same
      obtain ⟨b, d, e, m, parts, sum⟩ := @exists_backParts day (by omega)
      have place := (parts.renumber_iff sum).mp same
      obtain ⟨century, year, less, some, -, first, -, -⟩ := parts
      refine .inr ⟨b * 100 + d, e, by omega, ?_, ?_⟩
      · rw [inYears, centuryDays] at sum
        omega
      · obtain month | ⟨leap, month⟩ := place
        · refine .inl ⟨some, month, fun one => ?_⟩
          obtain ⟨third, zero⟩ := first one
          obtain ⟨four, fourHundred⟩ := @years_remainders b d year less
          rw [four, fourHundred]
          refine ⟨third, fun two => ?_, fun three => ?_⟩
          · have secondHalf := zero (by omega)
            omega
          · have secondHalf := zero (by omega)
            omega
        · exact .inr ⟨(leap_iff year less).mpr leap, month⟩
    · rintro (now | ⟨years, place, some, back, within⟩)
      · exact absurd now later
      · obtain ⟨b, d, centuries, year, less, rfl⟩ :
            ∃ b d : Int, 0 ≤ b ∧ 0 ≤ d ∧ d ≤ 99 ∧ years = b * 100 + d :=
          ⟨years / 100, years % 100, by omega, by omega, by omega, by omega⟩
        have sum : -(day + 32044) = place + 1461 * d / 4 + b * 146097 / 4 := by
          rw [inYears, centuryDays]
          omega
        obtain ⟨four, fourHundred⟩ := @years_remainders b d year less
        rw [four, fourHundred, leap_iff year less] at within
        clear four fourHundred back
        have parts : BackParts b d place ((5 * place - 2) / 153) := by
          refine ⟨centuries, year, less, by omega, by omega, fun one => ?_, by omega, rfl⟩
          obtain ⟨-, -, first⟩ | ⟨-, month⟩ := within
          · obtain ⟨third, two, three⟩ := first one
            exact ⟨third, by omega⟩
          · omega
        rw [parts.renumber_iff sum]
        exact within.imp_left fun month => month.2.1

end Date

end Muduo
