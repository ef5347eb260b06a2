import Muduo.Base.Date
import Muduo.Base.Machine

/-!
# The Gregorian calendar

The calendar itself is defined here by the lengths of its months: which dates there are and which
date follows which. From the first of January of the year `-4799` on, the two conversions of
`dc::Date` are inverse to each other between these dates and the Julian day numbers, and successive
dates have successive numbers. Up to the year 1000000 none of their operations overflows an `int`.
-/

namespace Muduo

/-- A leap year: it can be divided by 4, and by 400 if it can be divided by 100. -/
def isLeapYear (year : Int) : Bool :=
  decide (year % 4 = 0) && (decide (year % 100 ≠ 0) || decide (year % 400 = 0))

/-- The number of days in a month. -/
def monthLength (year month : Int) : Int :=
  if month = 2 then (if isLeapYear year then 29 else 28)
  else if month = 4 ∨ month = 6 ∨ month = 9 ∨ month = 11 then 30
  else 31

namespace YearMonthDay

/-- The date is in the calendar. -/
structure Valid (date : YearMonthDay) : Prop where
  /-- Months are counted from 1. -/
  month_pos : 1 ≤ date.month
  /-- A year has twelve months. -/
  month_le : date.month ≤ 12
  /-- Days are counted from 1. -/
  day_pos : 1 ≤ date.day
  /-- The day is in the month. -/
  day_le : date.day ≤ monthLength date.year date.month

/-- The date of the following day. -/
def next (date : YearMonthDay) : YearMonthDay :=
  if date.day < monthLength date.year date.month then { date with day := date.day + 1 }
  else if date.month < 12 then { date with month := date.month + 1, day := 1 }
  else { year := date.year + 1, month := 1, day := 1 }

/-- The number of a date. -/
def julianDayNumber (date : YearMonthDay) : Int :=
  getJulianDayNumber date.year date.month date.day

open Date

variable {date : YearMonthDay} {year month day : Int}

/-- The number of a day in January or February, which belong to the year that began in March. -/
theorem julianDayNumber_early (first : 1 ≤ month) (early : month ≤ 2) :
    julianDayNumber ⟨year, month, day⟩ =
      day + (153 * (month + 9) + 2) / 5 + yearDays (year + 4799) - 32045 := by
  have carry : (14 - month).tdiv 12 = 1 := by
    rw [Int.tdiv_eq_ediv_of_nonneg (by omega)]
    omega
  have shifted : month + 12 * 1 - 3 = month + 9 := by omega
  have before : year + 4800 - 1 = year + 4799 := by omega
  rw [julianDayNumber, getJulianDayNumber_eq, carry, shifted, before,
    Int.tdiv_eq_ediv_of_nonneg (by omega)]

/-- The number of a day in one of the other months. -/
theorem julianDayNumber_late (late : 3 ≤ month) (last : month ≤ 12) :
    julianDayNumber ⟨year, month, day⟩ =
      day + (153 * (month - 3) + 2) / 5 + yearDays (year + 4800) - 32045 := by
  have carry : (14 - month).tdiv 12 = 0 := by
    rw [Int.tdiv_eq_ediv_of_nonneg (by omega)]
    omega
  have shifted : month + 12 * 0 - 3 = month - 3 := by omega
  rw [julianDayNumber, getJulianDayNumber_eq, carry, shifted, Int.sub_zero,
    Int.tdiv_eq_ediv_of_nonneg (by omega)]

/-- Leap years, counted from the first year. -/
theorem isLeapYear_iff (year : Int) : isLeapYear year = true ↔
    (year + 4800) % 4 = 0 ∧ ((year + 4800) % 100 ≠ 0 ∨ (year + 4800) % 400 = 0) := by
  simp only [isLeapYear, Bool.and_eq_true, Bool.or_eq_true, decide_eq_true_eq]
  omega

/-- A year ends with February, which tells its length. -/
theorem yearDays_eq (since : -4799 ≤ year) :
    yearDays (year + 4800) = yearDays (year + 4799) + 337 + monthLength year 2 := by
  have leap := isLeapYear_iff year
  obtain ⟨y, count⟩ : ∃ y, y = year + 4799 := ⟨_, rfl⟩
  have next : year + 4800 = y + 1 := by omega
  rw [next] at leap ⊢
  rw [← count]
  have length : monthLength year 2 = if isLeapYear year then 29 else 28 := rfl
  rw [length, yearDays, yearDays]
  simp only [Int.tdiv_eq_ediv_of_nonneg (by omega : 0 ≤ y),
    Int.tdiv_eq_ediv_of_nonneg (by omega : 0 ≤ y + 1)]
  by_cases leaps : isLeapYear year = true
  · rw [if_pos leaps]
    have rule := leap.mp leaps
    omega
  · rw [if_neg leaps]
    have rule := mt leap.mpr leaps
    omega

/-- February has 28 or 29 days. -/
theorem monthLength_february (year : Int) :
    28 ≤ monthLength year 2 ∧ monthLength year 2 ≤ 29 := by
  have length : monthLength year 2 = if isLeapYear year then 29 else 28 := rfl
  rw [length]
  split <;> omega

/-- The days of the months before and with one of the first ten, from March on. -/
theorem monthLength_late (late : 3 ≤ month) (last : month ≤ 12) :
    (153 * (month - 3) + 2) / 5 + monthLength year month = (153 * (month - 2) + 2) / 5 := by
  have months : month = 3 ∨ month = 4 ∨ month = 5 ∨ month = 6 ∨ month = 7 ∨ month = 8 ∨ month = 9 ∨
      month = 10 ∨ month = 11 ∨ month = 12 := by omega
  rcases months with rfl | rfl | rfl | rfl | rfl | rfl | rfl | rfl | rfl | rfl <;> rfl

/-- No month is shorter than 28 days or longer than 31. -/
theorem monthLength_range (year month : Int) :
    28 ≤ monthLength year month ∧ monthLength year month ≤ 31 := by
  unfold monthLength
  split
  · split <;> omega
  · split <;> omega

/-- The rules for a date, written out. -/
theorem valid_iff : Valid ⟨year, month, day⟩ ↔
    1 ≤ month ∧ month ≤ 12 ∧ 1 ≤ day ∧ day ≤ monthLength year month :=
  ⟨fun ⟨first, last, start, inMonth⟩ => ⟨first, last, start, inMonth⟩,
    fun ⟨first, last, start, inMonth⟩ => ⟨first, last, start, inMonth⟩⟩

/-- The first of January is in the calendar. -/
theorem valid_january (year : Int) : Valid ⟨year, 1, 1⟩ := by
  have length : monthLength year 1 = 31 := rfl
  rw [valid_iff, length]
  decide

/-- The first day of a month follows the last day of the month before. -/
theorem julianDayNumber_month (first : 1 ≤ month) (last : month < 12) (since : -4799 ≤ year) :
    julianDayNumber ⟨year, month + 1, 1⟩ =
      julianDayNumber ⟨year, month, monthLength year month⟩ + 1 := by
  by_cases late : 3 ≤ month
  · have length : _ + monthLength year month = _ := monthLength_late late last.le
    have shifted : month + 1 - 3 = month - 2 := by omega
    rw [julianDayNumber_late (by omega) (by omega), julianDayNumber_late late last.le, shifted]
    omega
  · by_cases february : month = 2
    · subst february
      have length := yearDays_eq since
      rw [julianDayNumber_late (by decide) (by decide),
        julianDayNumber_early (by decide) (by decide)]
      omega
    · obtain rfl : month = 1 := by omega
      have length : monthLength year 1 = 31 := rfl
      rw [julianDayNumber_early (by decide) (by decide),
        julianDayNumber_early (by decide) (by decide)]
      omega

/-- The first day of a year follows the last day of the year before. -/
theorem julianDayNumber_year (year : Int) :
    julianDayNumber ⟨year + 1, 1, 1⟩ = julianDayNumber ⟨year, 12, 31⟩ + 1 := by
  have same : year + 1 + 4799 = year + 4800 := by omega
  rw [julianDayNumber_early (by decide) (by decide), julianDayNumber_late (by decide) (by decide),
    same]
  omega

/-- Days of one month are numbered as they are counted. -/
theorem julianDayNumber_day (year month day other : Int) :
    julianDayNumber ⟨year, month, day⟩ = julianDayNumber ⟨year, month, other⟩ + (day - other) := by
  simp only [julianDayNumber, getJulianDayNumber]
  omega

/-- The next date is in the calendar. -/
theorem Valid.next (valid : date.Valid) : date.next.Valid := by
  obtain ⟨year, month, day⟩ := date
  have rules := valid_iff.mp valid
  unfold YearMonthDay.next
  dsimp only
  split
  case isTrue => exact valid_iff.mpr (by omega)
  case isFalse =>
    split
    case isTrue =>
      have length := monthLength_range year (month + 1)
      exact valid_iff.mpr (by omega)
    case isFalse => exact valid_january (year + 1)

/-- Successive dates have successive numbers. -/
theorem julianDayNumber_next (valid : date.Valid) (since : -4799 ≤ date.year) :
    date.next.julianDayNumber = date.julianDayNumber + 1 := by
  obtain ⟨year, month, day⟩ := date
  obtain ⟨first, last, start, inMonth⟩ := valid
  dsimp only at first last start inMonth since
  unfold next
  dsimp only
  split
  case isTrue =>
    rw [julianDayNumber_day year month (day + 1) day]
    omega
  case isFalse final =>
    obtain rfl : day = monthLength year month := by omega
    split
    case isTrue earlier => exact julianDayNumber_month first earlier since
    case isFalse later =>
      obtain rfl : month = 12 := by omega
      exact julianDayNumber_year year

/-- The numbers of a year are between its first of January and the next one. -/
theorem julianDayNumber_range (valid : date.Valid) (since : -4799 ≤ date.year) :
    julianDayNumber ⟨date.year, 1, 1⟩ ≤ date.julianDayNumber ∧
      date.julianDayNumber < julianDayNumber ⟨date.year + 1, 1, 1⟩ := by
  obtain ⟨year, month, day⟩ := date
  obtain ⟨first, last, start, inMonth⟩ := valid
  dsimp only at first last start inMonth since ⊢
  have february := monthLength_february year
  have length := yearDays_eq since
  have same : year + 1 + 4799 = year + 4800 := by omega
  have thisYear : julianDayNumber ⟨year, 1, 1⟩ = _ := julianDayNumber_early (by decide) (by decide)
  have nextYear : julianDayNumber ⟨year + 1, 1, 1⟩ = _ :=
    julianDayNumber_early (by decide) (by decide)
  rw [same] at nextYear
  rw [thisYear, nextYear]
  by_cases late : 3 ≤ month
  · have inYear : _ + monthLength year month = _ := monthLength_late late last
    rw [julianDayNumber_late late last]
    omega
  · have short := monthLength_range year month
    rw [julianDayNumber_early first (by omega)]
    omega

/-- Later years begin later. -/
theorem julianDayNumber_year_le {other : Int} (since : -4799 ≤ year) (le : year ≤ other) :
    julianDayNumber ⟨year, 1, 1⟩ ≤ julianDayNumber ⟨other, 1, 1⟩ := by
  obtain ⟨years, rfl⟩ := Int.le.dest le
  induction years with
  | zero => rw [Int.natCast_zero, Int.add_zero]
  | succ years ih =>
    have range := julianDayNumber_range (valid_january (year + years)) (by dsimp only; omega)
    rw [Int.natCast_succ, ← Int.add_assoc]
    exact (ih (by omega)).trans range.2.le

/-- Later months of a year have later numbers. -/
theorem julianDayNumber_month_lt {later dayLater : Int} (valid : Valid ⟨year, month, day⟩)
    (also : Valid ⟨year, later, dayLater⟩) (since : -4799 ≤ year) (lt : month < later) :
    julianDayNumber ⟨year, month, day⟩ < julianDayNumber ⟨year, later, dayLater⟩ := by
  obtain ⟨first, last, start, inMonth⟩ := valid
  obtain ⟨laterFirst, laterLast, laterStart, -⟩ := also
  dsimp only at first last start inMonth laterFirst laterLast laterStart
  by_cases late : 3 ≤ month
  · have length : _ + monthLength year month = _ := monthLength_late late last
    rw [julianDayNumber_late late last, julianDayNumber_late (by omega) laterLast]
    omega
  · by_cases february : month = 2
    · subst february
      have length := yearDays_eq since
      rw [julianDayNumber_early first le_rfl, julianDayNumber_late (by omega) laterLast]
      omega
    · obtain rfl : month = 1 := by omega
      have length : monthLength year 1 = 31 := rfl
      by_cases afterFebruary : 3 ≤ later
      · have march := monthLength_february year
        have inYear := yearDays_eq since
        rw [julianDayNumber_early first (by decide), julianDayNumber_late afterFebruary laterLast]
        omega
      · rw [julianDayNumber_early first (by decide),
          julianDayNumber_early laterFirst (by omega)]
        omega

/-- Later dates have later numbers. -/
theorem julianDayNumber_lt {first second : YearMonthDay} (firstValid : first.Valid)
    (secondValid : second.Valid) (since : -4799 ≤ first.year) (also : -4799 ≤ second.year)
    (before : first.year < second.year ∨ first.year = second.year ∧
      (first.month < second.month ∨ first.month = second.month ∧ first.day < second.day)) :
    first.julianDayNumber < second.julianDayNumber := by
  obtain year | ⟨year, month | ⟨month, day⟩⟩ := before
  · have next := @julianDayNumber_year_le (first.year + 1) second.year (by omega) (by omega)
    exact ((julianDayNumber_range firstValid since).2.trans_le next).trans_le
      (julianDayNumber_range secondValid also).1
  · obtain ⟨firstYear, firstMonth, firstDay⟩ := first
    obtain ⟨secondYear, secondMonth, secondDay⟩ := second
    obtain rfl : firstYear = secondYear := year
    exact julianDayNumber_month_lt firstValid secondValid since month
  · obtain ⟨firstYear, firstMonth, firstDay⟩ := first
    obtain ⟨secondYear, secondMonth, secondDay⟩ := second
    obtain rfl : firstYear = secondYear := year
    obtain rfl : firstMonth = secondMonth := month
    rw [julianDayNumber_day firstYear firstMonth secondDay firstDay]
    dsimp only at day
    omega

/-- A day in a month of a year that begins in March: where it is in the year, its date and its
number. The last month may have 29 days in leap years only. -/
theorem march_of_month {years : Int} (some : 0 ≤ years) (first : 0 ≤ month) (last : month ≤ 11)
    (start : 1 ≤ day) (inMonth : month ≤ 10 → day + (153 * month + 2) / 5 ≤
      (153 * (month + 1) + 2) / 5) (february : month = 11 → day ≤ 29)
    (leap : month = 11 → day = 29 → isLeapYear (years - 4799) = true) :
    ∃ b d e, MarchParts b d e month ∧
      marchDate b d e month =
        ⟨years - 4800 + month / 10, month + 3 - 12 * (month / 10), day⟩ ∧
      day - 1 + (153 * month + 2) / 5 + yearDays years = e + 1461 * d / 4 + b * 146097 / 4 := by
  obtain ⟨b, century⟩ : ∃ b, b = years / 100 := ⟨_, rfl⟩
  obtain ⟨d, inCentury⟩ : ∃ d, d = years % 100 := ⟨_, rfl⟩
  obtain ⟨e, inYear⟩ : ∃ e, e = day - 1 + (153 * month + 2) / 5 := ⟨_, rfl⟩
  have sum : b * 100 + d = years := by omega
  have tens : month.tdiv 10 = month / 10 := Int.tdiv_eq_ediv_of_nonneg first
  have fifths : (153 * month + 2).tdiv 5 = (153 * month + 2) / 5 :=
    Int.tdiv_eq_ediv_of_nonneg (by omega)
  have leapDay : e = 365 → d % 4 = 3 ∧ (d = 99 → b % 4 = 3) := by
    intro full
    have eleven : month = 11 := by omega
    have rule := (isLeapYear_iff _).mp (leap eleven (by omega))
    omega
  refine ⟨b, d, e, ⟨by omega, by omega, by omega, by omega, by omega, leapDay, by omega⟩, ?_, ?_⟩
  · simp only [marchDate, tens, fifths, sum, YearMonthDay.mk.injEq, true_and]
    omega
  · rw [← sum, yearDays_century (by omega) (by omega) (by omega)]
    omega

/-- Where a date is in its year. -/
theorem Valid.march (valid : date.Valid) (since : -4799 ≤ date.year) :
    ∃ b d e m, MarchParts b d e m ∧ marchDate b d e m = date ∧
      date.julianDayNumber + 32044 = e + 1461 * d / 4 + b * 146097 / 4 := by
  obtain ⟨year, month, day⟩ := date
  obtain ⟨first, last, start, inMonth⟩ := valid
  dsimp only at first last start inMonth since
  by_cases late : 3 ≤ month
  · have length : _ + monthLength year month = _ := monthLength_late late last
    have next : month - 3 + 1 = month - 2 := by omega
    obtain ⟨b, d, e, parts, same, sum⟩ := @march_of_month (month - 3) day (year + 4800)
      (by omega) (by omega) (by omega) start (fun _ => by rw [next]; omega) (fun _ => by omega)
      (fun _ => by omega)
    refine ⟨b, d, e, month - 3, parts, same.trans ?_, ?_⟩
    · rw [YearMonthDay.mk.injEq]
      omega
    · rw [julianDayNumber_late late last, ← sum]
      omega
  · have short := monthLength_february year
    have leap : month + 9 = 11 → day = 29 → isLeapYear (year + 4799 - 4799) = true := by
      intro eleven leapDay
      obtain rfl : month = 2 := by omega
      have length : monthLength year 2 = if isLeapYear year then 29 else 28 := rfl
      rw [Int.add_sub_cancel]
      by_contra common
      rw [length, if_neg common] at inMonth
      omega
    have january : month = 1 → day ≤ 31 := by
      rintro rfl
      exact inMonth
    have february : month = 2 → day ≤ 29 := by
      rintro rfl
      exact inMonth.trans short.2
    obtain ⟨b, d, e, parts, same, sum⟩ := @march_of_month (month + 9) day (year + 4799)
      (by omega) (by omega) (by omega) start (fun _ => by omega) (fun _ => by omega) leap
    refine ⟨b, d, e, month + 9, parts, same.trans ?_, ?_⟩
    · rw [YearMonthDay.mk.injEq]
      omega
    · rw [julianDayNumber_early first (by omega), ← sum]
      omega

/-- The date of a day is in the calendar. -/
theorem valid_marchDate {b d e m : Int} (parts : MarchParts b d e m) :
    (marchDate b d e m).Valid := by
  obtain ⟨century, inCentury, less, start, last, leap, month⟩ := parts
  have range : 0 ≤ m ∧ m ≤ 11 := by omega
  have tens : m.tdiv 10 = m / 10 := Int.tdiv_eq_ediv_of_nonneg range.1
  have fifths : (153 * m + 2).tdiv 5 = (153 * m + 2) / 5 := Int.tdiv_eq_ediv_of_nonneg (by omega)
  rw [marchDate, tens, fifths]
  obtain ⟨year, years⟩ : ∃ year, year = b * 100 + d - 4800 + m / 10 := ⟨_, rfl⟩
  rw [← years]
  rw [valid_iff]
  by_cases late : m ≤ 9
  · have month : m + 3 - 12 * (m / 10) = m + 3 := by omega
    have length := @monthLength_late year (m + 3) (by omega) (by omega)
    have shifted : m + 3 - 3 = m := by omega
    rw [shifted] at length
    rw [month]
    omega
  · by_cases january : m = 10
    · obtain rfl := january
      have month : (10 : Int) + 3 - 12 * (10 / 10) = 1 := by decide
      have length : monthLength year 1 = 31 := rfl
      rw [month]
      omega
    · obtain rfl : m = 11 := by omega
      have month : (11 : Int) + 3 - 12 * (11 / 10) = 2 := by decide
      have short := monthLength_february year
      rw [month]
      by_cases leapDay : e = 365
      · have leaps : isLeapYear year = true := by
          have rule := leap leapDay
          rw [isLeapYear_iff]
          omega
        have length : monthLength year 2 = 29 := if_pos leaps
        omega
      · omega

/-- A date survives the way through its number. -/
theorem Valid.getYearMonthDay_eq (valid : date.Valid) (since : -4799 ≤ date.year) :
    getYearMonthDay date.julianDayNumber = date := by
  obtain ⟨b, d, e, m, parts, same, sum⟩ := valid.march since
  rw [parts.getYearMonthDay_eq sum, same]

/-- From the first of January of the year `-4799` on, a number belongs to a date. -/
theorem valid_getYearMonthDay {number : Int} (since : julianDayNumber ⟨-4799, 1, 1⟩ ≤ number) :
    (getYearMonthDay number).Valid ∧ -4799 ≤ (getYearMonthDay number).year ∧
      (getYearMonthDay number).julianDayNumber = number := by
  have first : julianDayNumber ⟨-4799, 1, 1⟩ = -31738 := by decide
  rw [first] at since
  obtain ⟨b, d, e, m, same, parts, sum⟩ := @getYearMonthDay_march number (by omega)
  refine ⟨same ▸ valid_marchDate parts, ?_, renumber_of_le (by omega)⟩
  obtain ⟨century, year, -, start, last, -, month⟩ := parts
  have tens : m.tdiv 10 = m / 10 := Int.tdiv_eq_ediv_of_nonneg (by omega)
  rw [same, marchDate, tens]
  dsimp only
  by_contra before
  obtain rfl : b = 0 := by omega
  obtain rfl : d = 0 := by omega
  omega

end YearMonthDay

open YearMonthDay

/-- A result of an operation on `int`, unless it overflows. -/
def checkInt (value : Int) : Option Int :=
  if -2 ^ 31 ≤ value ∧ value < 2 ^ 31 then some value else none

/-- `getJulianDayNumber(year, month, day)` with every operation checked for overflow. -/
def getJulianDayNumberChecked (year month day : Int) : Option Int := do
  let a ← checkInt ((← checkInt (14 - month)).tdiv 12)
  let y ← checkInt ((← checkInt (year + 4800)) - a)
  let m ← checkInt ((← checkInt (month + (← checkInt (12 * a)))) - 3)
  let months ← checkInt ((← checkInt ((← checkInt (153 * m)) + 2)).tdiv 5)
  let days ← checkInt (day + months)
  let days ← checkInt (days + (← checkInt (y * 365)))
  let days ← checkInt (days + (← checkInt (y.tdiv 4)))
  let days ← checkInt (days - (← checkInt (y.tdiv 100)))
  let days ← checkInt (days + (← checkInt (y.tdiv 400)))
  checkInt (days - 32045)

/-- `getYearMonthDay(julianDayNumber)` with every operation checked for overflow. -/
def getYearMonthDayChecked (julianDayNumber : Int) : Option YearMonthDay := do
  let a ← checkInt (julianDayNumber + 32044)
  let b ← checkInt ((← checkInt ((← checkInt (4 * a)) + 3)).tdiv 146097)
  let c ← checkInt (a - (← checkInt ((← checkInt (b * 146097)).tdiv 4)))
  let d ← checkInt ((← checkInt ((← checkInt (4 * c)) + 3)).tdiv 1461)
  let e ← checkInt (c - (← checkInt ((← checkInt (1461 * d)).tdiv 4)))
  let m ← checkInt ((← checkInt ((← checkInt (5 * e)) + 2)).tdiv 153)
  let months ← checkInt ((← checkInt ((← checkInt (153 * m)) + 2)).tdiv 5)
  let day ← checkInt ((← checkInt (e - months)) + 1)
  let tens ← checkInt (m.tdiv 10)
  let month ← checkInt ((← checkInt (m + 3)) - (← checkInt (12 * tens)))
  let year ← checkInt ((← checkInt ((← checkInt (b * 100)) + d)) - 4800)
  return { year := ← checkInt (year + tens), month, day }

/-- A result that fits. -/
theorem checkInt_of_range {value : Int} (lower : -2 ^ 31 ≤ value) (upper : value < 2 ^ 31) :
    checkInt value = some value := if_pos ⟨lower, upper⟩

/-- A result that fits is used. -/
theorem checkInt_bind {α : Type} {value : Int} (lower : -2 ^ 31 ≤ value) (upper : value < 2 ^ 31)
    (next : Int → Option α) : checkInt value >>= next = next value := by
  rw [checkInt_of_range lower upper]
  rfl

/-- No operation overflows on the way from a date to its number. -/
theorem getJulianDayNumberChecked_eq {date : YearMonthDay} (valid : date.Valid)
    (since : -4799 ≤ date.year) (upTo : date.year ≤ 1000000) :
    getJulianDayNumberChecked date.year date.month date.day = some date.julianDayNumber := by
  obtain ⟨year, month, day⟩ := date
  have length := monthLength_range year month
  rw [valid_iff] at valid
  dsimp only at since upTo ⊢
  unfold getJulianDayNumberChecked julianDayNumber getJulianDayNumber
  dsimp only
  simp (disch := omega) only [checkInt_bind, Int.tdiv_eq_ediv_of_nonneg]
  exact checkInt_of_range (by omega) (by omega)

/-- No operation overflows on the way from a number to its date. -/
theorem getYearMonthDayChecked_eq {number : Int} (since : -32044 ≤ number)
    (upTo : number < 500000000) :
    getYearMonthDayChecked number = some (getYearMonthDay number) := by
  unfold getYearMonthDayChecked getYearMonthDay
  dsimp only
  obtain ⟨a, later⟩ : ∃ a, a = number + 32044 := ⟨_, rfl⟩
  rw [← later]
  simp (disch := omega) only [checkInt_bind, Int.tdiv_eq_ediv_of_nonneg]
  rfl

namespace YearMonthDay

variable {date : YearMonthDay}

/-- The years from `-4799` to `1000000`. -/
def InRange (date : YearMonthDay) : Prop := -4799 ≤ date.year ∧ date.year ≤ 1000000

/-- The numbers of the days of these years. -/
def NumberInRange (number : Int) : Prop :=
  getJulianDayNumber (-4799) 1 1 ≤ number ∧ number ≤ getJulianDayNumber 1000000 12 31

/-- The numbers of these days, and some more, are computed without overflow. -/
theorem NumberInRange.checked {number : Int} (range : NumberInRange number) :
    getYearMonthDayChecked number = some (getYearMonthDay number) := by
  have first : getJulianDayNumber (-4799) 1 1 = -31738 := by decide
  have last : getJulianDayNumber 1000000 12 31 = 366963925 := by decide
  obtain ⟨lower, upper⟩ := range
  rw [first] at lower
  rw [last] at upper
  exact getYearMonthDayChecked_eq (by omega) (by omega)

/-- A date of these years has one of these numbers. -/
theorem Valid.numberInRange (valid : date.Valid) (range : date.InRange) :
    NumberInRange date.julianDayNumber := by
  obtain ⟨since, upTo⟩ := range
  have inYear := julianDayNumber_range valid since
  have first := julianDayNumber_year_le le_rfl since
  have last := @julianDayNumber_year_le (date.year + 1) 1000001 (by omega) (by omega)
  have nextYear := julianDayNumber_year 1000000
  constructor
  · exact first.trans inYear.1
  · have before := inYear.2.trans_le last
    exact Int.le_of_lt_add_one (nextYear ▸ before)

/-- One of these numbers belongs to a date of these years. -/
theorem NumberInRange.valid_date {number : Int} (range : NumberInRange number) :
    (getYearMonthDay number).Valid ∧ (getYearMonthDay number).InRange ∧
      (getYearMonthDay number).julianDayNumber = number := by
  obtain ⟨lower, upper⟩ := range
  obtain ⟨valid, since, same⟩ := valid_getYearMonthDay lower
  refine ⟨valid, ⟨since, ?_⟩, same⟩
  by_contra later
  have inYear := (julianDayNumber_range valid since).1
  have next := @julianDayNumber_year_le 1000001 (getYearMonthDay number).year (by omega) (by omega)
  have start := julianDayNumber_year 1000000
  have last : julianDayNumber ⟨1000000, 12, 31⟩ + 1 ≤ number := by
    rw [← start]
    exact same ▸ next.trans inYear
  exact absurd (Int.lt_of_add_one_le last) (Int.not_lt.mpr upper)

/-- The calendar and the numbers: a date of the years from `-4799` to `1000000` survives the way
through its number, the next date has the next number, and no operation overflows; and a number of a
day of these years belongs to a date of these years, whose number it is. -/
theorem julianDayNumber_bijective :
    (∀ date : YearMonthDay, date.Valid → date.InRange →
      getYearMonthDay (getJulianDayNumber date.year date.month date.day) = date ∧
      date.next.Valid ∧ getJulianDayNumber date.next.year date.next.month date.next.day =
        getJulianDayNumber date.year date.month date.day + 1 ∧
      getJulianDayNumberChecked date.year date.month date.day =
        some (getJulianDayNumber date.year date.month date.day) ∧
      getYearMonthDayChecked (getJulianDayNumber date.year date.month date.day) = some date) ∧
    ∀ number, NumberInRange number →
      (getYearMonthDay number).Valid ∧ (getYearMonthDay number).InRange ∧
      getJulianDayNumber (getYearMonthDay number).year (getYearMonthDay number).month
        (getYearMonthDay number).day = number ∧
      getYearMonthDayChecked number = some (getYearMonthDay number) := by
  constructor
  · intro date valid range
    have back := valid.getYearMonthDay_eq range.1
    refine ⟨back, valid.next, julianDayNumber_next valid range.1,
      getJulianDayNumberChecked_eq valid range.1 range.2, ?_⟩
    have checked := (valid.numberInRange range).checked
    rw [back] at checked
    exact checked
  · intro number range
    obtain ⟨valid, inRange, same⟩ := range.valid_date
    exact ⟨valid, inRange, same, range.checked⟩

end YearMonthDay

end Muduo
