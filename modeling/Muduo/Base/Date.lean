import Mathlib.Algebra.Order.Ring.Int
import Mathlib.Tactic.Common

/-!
# `dc::Date`

Days are counted by their Julian day number. Both conversions divide as C++ does, towards zero, so
they are meant for years that begin in March after the year `-4800`. From that day on the number of
a day survives the way through a date.
-/

namespace Muduo

/-- `Date::YearMonthDay`. -/
structure YearMonthDay where
  /-- `year`. -/
  year : Int
  /-- `month`. -/
  month : Int
  /-- `day`. -/
  day : Int
  deriving DecidableEq, Repr

/-- `getJulianDayNumber(year, month, day)`. -/
def getJulianDayNumber (year month day : Int) : Int :=
  let a := (14 - month).tdiv 12
  let y := year + 4800 - a
  let m := month + 12 * a - 3
  day + (153 * m + 2).tdiv 5 + y * 365 + y.tdiv 4 - y.tdiv 100 + y.tdiv 400 - 32045

/-- `getYearMonthDay(julianDayNumber)`. -/
def getYearMonthDay (julianDayNumber : Int) : YearMonthDay :=
  let a := julianDayNumber + 32044
  let b := (4 * a + 3).tdiv 146097
  let c := a - (b * 146097).tdiv 4
  let d := (4 * c + 3).tdiv 1461
  let e := c - (1461 * d).tdiv 4
  let m := (5 * e + 2).tdiv 153
  { day := e - (153 * m + 2).tdiv 5 + 1
    month := m + 3 - 12 * m.tdiv 10
    year := b * 100 + d - 4800 + m.tdiv 10 }

/-- `Date::kJulianDayOf1970_01_01`. -/
def kJulianDayOf1970_01_01 : Int := getJulianDayNumber 1970 1 1

/-- The number of that day. -/
theorem kJulianDayOf1970_01_01_eq : kJulianDayOf1970_01_01 = 2440588 := by decide

/-- The number of a day after it was a date. -/
def renumber (day : Int) : Int :=
  let date := getYearMonthDay day
  getJulianDayNumber date.year date.month date.day

namespace Date

/-- The date of a day in a year that begins in March: the century, the year in it, the day in the
year and the month. -/
def marchDate (century year day month : Int) : YearMonthDay :=
  { day := day - (153 * month + 2).tdiv 5 + 1
    month := month + 3 - 12 * month.tdiv 10
    year := century * 100 + year - 4800 + month.tdiv 10 }

/-- The number of days in so many years. -/
def yearDays (years : Int) : Int :=
  years * 365 + years.tdiv 4 - years.tdiv 100 + years.tdiv 400

/-- Dividing a number that is not positive. -/
theorem tdiv_of_neg {value : Int} (divisor : Int) (nonneg : 0 ≤ -value) :
    value.tdiv divisor = -(-value / divisor) := by
  rw [← Int.neg_neg value, Int.neg_tdiv, Int.neg_neg, Int.tdiv_eq_ediv_of_nonneg nonneg]

/-- The days in whole centuries and the years behind them. -/
theorem yearDays_century {century year : Int} (centuries : 0 ≤ century) (years : 0 ≤ year)
    (less : year ≤ 99) :
    yearDays (century * 100 + year) = 1461 * year / 4 + century * 146097 / 4 := by
  have nonneg : 0 ≤ century * 100 + year := by omega
  have four : (century * 100 + year) / 4 = 25 * century + year / 4 := by omega
  have hundred : (century * 100 + year) / 100 = century := by omega
  have fourHundred : (century * 100 + year) / 400 = century / 4 := by omega
  have inYears : 1461 * year / 4 = 365 * year + year / 4 := by omega
  have inCenturies : century * 146097 / 4 = 36524 * century + century / 4 := by omega
  rw [yearDays, Int.tdiv_eq_ediv_of_nonneg nonneg, Int.tdiv_eq_ediv_of_nonneg nonneg,
    Int.tdiv_eq_ediv_of_nonneg nonneg, four, hundred, fourHundred, inYears, inCenturies]
  omega

/-- Years before the first are counted the same way. -/
theorem yearDays_neg (years : Int) : yearDays (-years) = -yearDays years := by
  simp only [yearDays, Int.neg_tdiv]
  omega

/-- No year has more than 366 days. -/
theorem yearDays_succ {years : Int} (nonneg : 0 ≤ years) :
    yearDays (years + 1) ≤ yearDays years + 366 := by
  have next : 0 ≤ years + 1 := by omega
  simp only [yearDays, Int.tdiv_eq_ediv_of_nonneg nonneg, Int.tdiv_eq_ediv_of_nonneg next]
  omega

/-- The number of a day, from the days in the years before it. -/
theorem getJulianDayNumber_eq (year month day : Int) :
    getJulianDayNumber year month day =
      day + (153 * (month + 12 * (14 - month).tdiv 12 - 3) + 2).tdiv 5 +
        yearDays (year + 4800 - (14 - month).tdiv 12) - 32045 := by
  simp only [getJulianDayNumber, yearDays]
  omega

/-- A century, a year in it, a day in that year and its month, where years begin in March. Only
years that end with a leap day have a day 365, and of the last years of a century those do of which
the following one can be divided by 400. -/
structure MarchParts (century year day month : Int) : Prop where
  /-- Centuries are counted from 0. -/
  century_nonneg : 0 ≤ century
  /-- Years are counted from 0. -/
  year_nonneg : 0 ≤ year
  /-- A century has a hundred years. -/
  year_le : year ≤ 99
  /-- Days are counted from 0. -/
  day_nonneg : 0 ≤ day
  /-- A year has 366 days at most. -/
  day_le : day ≤ 365
  /-- A leap day. -/
  leap : day = 365 → year % 4 = 3 ∧ (year = 99 → century % 4 = 3)
  /-- The month of the day. -/
  month_eq : month = (5 * day + 2) / 153

/-- The days in whole centuries. -/
theorem centuryDays (century : Int) : century * 146097 / 4 = 36524 * century + century / 4 := by
  omega

/-- A day is in its century. -/
theorem MarchParts.lt {century year day month : Int} (parts : MarchParts century year day month) :
    4 * (day + 1461 * year / 4) < 4 * 36524 + century % 4 - 2 := by
  obtain ⟨-, -, less, -, last, leap, -⟩ := parts
  have inYears : 1461 * year / 4 = 365 * year + year / 4 := by omega
  rw [inYears]
  by_cases leapDay : day = 365
  · have leaps := leap leapDay
    by_cases full : year = 99
    · have fourth := leaps.2 full
      omega
    · omega
  · omega

/-- A day is in one century, one year and one month only. -/
theorem MarchParts.unique {b d e m century year day month : Int} (one : MarchParts b d e m)
    (two : MarchParts century year day month)
    (same : e + 1461 * d / 4 + b * 146097 / 4 =
      day + 1461 * year / 4 + century * 146097 / 4) :
    b = century ∧ d = year ∧ e = day ∧ m = month := by
  have oneCentury := one.lt
  have twoCentury := two.lt
  have centuries : b = century := by
    have oneFirst := one.day_nonneg
    have twoFirst := two.day_nonneg
    have oneYear := one.year_nonneg
    have twoYear := two.year_nonneg
    rw [centuryDays, centuryDays] at same
    omega
  subst centuries
  have inYears (year : Int) : 1461 * year / 4 = 365 * year + year / 4 := by omega
  have within : e + (365 * d + d / 4) = day + (365 * year + year / 4) := by
    rw [← inYears, ← inYears]
    exact add_right_cancel same
  clear oneCentury twoCentury same
  have years : d = year := by
    obtain ⟨_, _, _, oneFirst, oneLast, oneLeap, -⟩ := one
    obtain ⟨_, _, _, twoFirst, twoLast, twoLeap, -⟩ := two
    omega
  subst years
  have days : e = day := add_right_cancel within
  subst days
  exact ⟨rfl, rfl, rfl, one.month_eq.trans two.month_eq.symm⟩

/-- The last day of a leap year. -/
theorem year_of_leapDay {c d : Int} (year : d = (4 * c + 3) / 1461)
    (last : c = 1461 * d / 4 + 365) : d % 4 = 3 ∧ (d = 99 → c = 36524) := by
  have inYears : 1461 * d / 4 = 365 * d + d / 4 := by omega
  have next := Int.lt_ediv_add_one_mul_self (4 * c + 3) (by decide : (0 : Int) < 1461)
  rw [← year] at next
  rw [inYears] at last
  clear year inYears
  have remainder : 4 * (d / 4) + 2 < d := by omega
  refine ⟨?_, fun full => ?_⟩
  · clear next last
    omega
  · rw [last, full]
    rfl

/-- A day that is not before the first year: where it is in its year. -/
theorem getYearMonthDay_march {day : Int} (later : 0 ≤ day + 32044) :
    ∃ b d e m, getYearMonthDay day = marchDate b d e m ∧ MarchParts b d e m ∧
      day + 32044 = e + 1461 * d / 4 + b * 146097 / 4 := by
  obtain ⟨b, century⟩ : ∃ b, b = (4 * (day + 32044) + 3) / 146097 := ⟨_, rfl⟩
  obtain ⟨c, inCentury⟩ : ∃ c, c = day + 32044 - b * 146097 / 4 := ⟨_, rfl⟩
  obtain ⟨d, year⟩ : ∃ d, d = (4 * c + 3) / 1461 := ⟨_, rfl⟩
  obtain ⟨e, inYear⟩ : ∃ e, e = c - 1461 * d / 4 := ⟨_, rfl⟩
  obtain ⟨m, month⟩ : ∃ m, m = (5 * e + 2) / 153 := ⟨_, rfl⟩
  have centuryRange : 0 ≤ c ∧ c ≤ 36524 := by omega
  have yearRange : 0 ≤ d ∧ d ≤ 99 := by omega
  have dayRange : 0 ≤ e ∧ e ≤ 365 := by omega
  have same : getYearMonthDay day = marchDate b d e m := by
    simp only [getYearMonthDay]
    rw [Int.tdiv_eq_ediv_of_nonneg (by omega : 0 ≤ 4 * (day + 32044) + 3), ← century,
      Int.tdiv_eq_ediv_of_nonneg (by omega : 0 ≤ b * 146097), ← inCentury,
      Int.tdiv_eq_ediv_of_nonneg (by omega : 0 ≤ 4 * c + 3), ← year,
      Int.tdiv_eq_ediv_of_nonneg (by omega : 0 ≤ 1461 * d), ← inYear,
      Int.tdiv_eq_ediv_of_nonneg (by omega : 0 ≤ 5 * e + 2), ← month]
    rfl
  have lastCentury : c = 36524 → b % 4 = 3 := by
    intro full
    have inCenturies := centuryDays b
    have next : 4 * (day + 32044) + 3 < 146097 * (b + 1) := by omega
    omega
  have leap : e = 365 → d % 4 = 3 ∧ (d = 99 → b % 4 = 3) := by
    intro last
    obtain ⟨fourth, century⟩ := year_of_leapDay year (by omega)
    exact ⟨fourth, fun full => lastCentury (century full)⟩
  have parts : MarchParts b d e m :=
    ⟨by omega, yearRange.1, yearRange.2, dayRange.1, dayRange.2, leap, month⟩
  exact ⟨b, d, e, m, same, parts, by omega⟩

/-- The date of a day that is somewhere in a year. -/
theorem MarchParts.getYearMonthDay_eq {b d e m day : Int} (parts : MarchParts b d e m)
    (sum : day + 32044 = e + 1461 * d / 4 + b * 146097 / 4) :
    getYearMonthDay day = marchDate b d e m := by
  have later : 0 ≤ day + 32044 := by
    have := parts.century_nonneg
    have := parts.year_nonneg
    have := parts.day_nonneg
    omega
  obtain ⟨_, _, _, _, same, found, place⟩ := getYearMonthDay_march later
  obtain ⟨rfl, rfl, rfl, rfl⟩ := parts.unique found (sum.symm.trans place)
  exact same

/-- From the first year on, the number of a day survives the way through a date. -/
theorem renumber_of_le {day : Int} (later : -32044 ≤ day) : renumber day = day := by
  obtain ⟨b, d, e, m, same, ⟨century, year, less, first, last, -, months⟩, parts⟩ :=
    @getYearMonthDay_march day (by omega)
  have range : 0 ≤ m ∧ m ≤ 11 := by omega
  have tens : m.tdiv 10 = m / 10 := Int.tdiv_eq_ediv_of_nonneg range.1
  have carry : (14 - (m + 3 - 12 * (m / 10))).tdiv 12 = m / 10 := by
    rw [Int.tdiv_eq_ediv_of_nonneg (by omega)]
    omega
  have same_month : m + 3 - 12 * (m / 10) + 12 * (m / 10) - 3 = m := by omega
  have years : b * 100 + d - 4800 + m / 10 + 4800 - m / 10 = b * 100 + d := by omega
  simp only [renumber, same, marchDate]
  rw [getJulianDayNumber_eq, tens, carry, same_month, years, yearDays_century century year less]
  omega

end Date

end Muduo
