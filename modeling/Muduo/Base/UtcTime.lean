import Muduo.Base.Calendar
import Muduo.Base.ZoneRoundTrip

/-!
# Seconds and dates in UTC

`BreakTime` and `fromUtcTime` are inverse to each other between the seconds of the years from
`-4799` to `1000000` and the dates with a time of day in these years, and both keep the order. The
seconds before 1970 are included: `BreakTime` corrects the remainder of its division.
-/

namespace Muduo

open YearMonthDay TimeZone

namespace DateTime

/-- The date. -/
def date (dt : DateTime) : YearMonthDay := ⟨dt.year, dt.month, dt.day⟩

/-- All members, the largest unit first. -/
def members (dt : DateTime) : List Int :=
  [dt.year, dt.month, dt.day, dt.hour, dt.minute, dt.second]

/-- The one is earlier: in the first member in which they differ it has the smaller number. -/
def Before (one two : DateTime) : Prop := List.Lex (· < ·) one.members two.members

/-- A date of the calendar, in the years from `-4799` to `1000000`, and a time of day. -/
structure Valid (dt : DateTime) : Prop where
  /-- The date is in the calendar. -/
  date : dt.date.Valid
  /-- The year is in the range. -/
  inRange : dt.date.InRange
  /-- Hours are counted from 0. -/
  hour_nonneg : 0 ≤ dt.hour
  /-- A day has 24 hours. -/
  hour_lt : dt.hour < 24
  /-- Minutes are counted from 0. -/
  minute_nonneg : 0 ≤ dt.minute
  /-- An hour has 60 minutes. -/
  minute_lt : dt.minute < 60
  /-- Seconds are counted from 0. -/
  second_nonneg : 0 ≤ dt.second
  /-- A minute has 60 seconds. -/
  second_lt : dt.second < 60

/-- The seconds since midnight. -/
def secondsInDay (dt : DateTime) : Int := dt.hour * 3600 + dt.minute * 60 + dt.second

variable {dt one two : DateTime}

/-- A day has 86400 seconds. -/
theorem Valid.secondsInDay_range (valid : dt.Valid) :
    0 ≤ dt.secondsInDay ∧ dt.secondsInDay < 86400 := by
  obtain ⟨-, -, _, _, _, _, _, _⟩ := valid
  rw [secondsInDay]
  omega

/-- The second of a date and a time. -/
theorem fromUtcTime_eq (dt : DateTime) :
    fromUtcTime dt = (dt.date.julianDayNumber - 2440588) * 86400 + dt.secondsInDay := by
  rw [fromUtcTime, kJulianDayOf1970_01_01_eq]
  rfl

/-- The day and the second in the day come back from the second. -/
theorem Valid.dayOf_eq (valid : dt.Valid) :
    dayOf (fromUtcTime dt) = dt.date.julianDayNumber ∧
      fromUtcTime dt % kSecondsPerDay = dt.secondsInDay := by
  have perDay : kSecondsPerDay = 86400 := rfl
  have range := valid.secondsInDay_range
  rw [dayOf, kJulianDayOf1970_01_01_eq, perDay, fromUtcTime_eq]
  omega

/-- Hours, minutes and seconds come back from the second in the day. -/
theorem Valid.fillHMS_eq (valid : dt.Valid) (other : DateTime) :
    fillHMS dt.secondsInDay other =
      { other with hour := dt.hour, minute := dt.minute, second := dt.second } := by
  have range := valid.secondsInDay_range
  obtain ⟨-, -, _, _, _, _, _, _⟩ := valid
  have minutes : dt.secondsInDay.tdiv 60 = dt.hour * 60 + dt.minute := by
    rw [Int.tdiv_eq_ediv_of_nonneg range.1, secondsInDay]
    omega
  have second : dt.secondsInDay.tmod 60 = dt.second := by
    rw [Int.tmod_eq_emod_of_nonneg range.1, secondsInDay]
    omega
  have hour : (dt.hour * 60 + dt.minute).tdiv 60 = dt.hour := by
    rw [Int.tdiv_eq_ediv_of_nonneg (by omega)]
    omega
  have minute : (dt.hour * 60 + dt.minute).tmod 60 = dt.minute := by
    rw [Int.tmod_eq_emod_of_nonneg (by omega)]
    omega
  rw [fillHMS, minutes, second, hour, minute]

/-- The time of day that `fillHMS` makes of the seconds of a day. -/
theorem fillHMS_range {seconds : Int} (lower : 0 ≤ seconds) (upper : seconds < 86400)
    (other : DateTime) :
    let filled := fillHMS seconds other
    (0 ≤ filled.hour ∧ filled.hour < 24) ∧ (0 ≤ filled.minute ∧ filled.minute < 60) ∧
      0 ≤ filled.second ∧ filled.second < 60 := by
  have minutes : seconds.tdiv 60 = seconds / 60 := Int.tdiv_eq_ediv_of_nonneg lower
  have some : 0 ≤ seconds / 60 := by omega
  simp only [fillHMS, minutes, Int.tdiv_eq_ediv_of_nonneg some, Int.tmod_eq_emod_of_nonneg lower,
    Int.tmod_eq_emod_of_nonneg some]
  omega

/-- The arithmetic on a second of these years does not overflow. -/
theorem inCalendar_of_range {t : Int} (range : NumberInRange (dayOf t)) : InCalendar t := by
  have first : getJulianDayNumber (-4799) 1 1 = -31738 := by decide
  have last : getJulianDayNumber 1000000 12 31 = 366963925 := by decide
  obtain ⟨lower, upper⟩ := range
  rw [first] at lower
  rw [last] at upper
  constructor <;> omega

/-- `BreakTime` gives a date of the calendar and a time of day. -/
theorem breakTime_valid {t : Int} (range : NumberInRange (dayOf t)) : (breakTime t).Valid := by
  obtain ⟨valid, inRange, -⟩ := range.valid_date
  have perDay : kSecondsPerDay = 86400 := rfl
  have time := fillHMS_range (by omega : 0 ≤ t % 86400) (by omega) ⟨0, 0, 0, 0, 0, 0⟩
  rw [breakTime_eq (inCalendar_of_range range), perDay]
  exact ⟨valid, inRange, time.1.1, time.1.2, time.2.1.1, time.2.1.2, time.2.2.1, time.2.2.2⟩

/-- A second comes back from its date and time. -/
theorem fromUtcTime_breakTime_eq {t : Int} (range : NumberInRange (dayOf t)) :
    fromUtcTime (breakTime t) = t := by
  obtain ⟨-, -, same⟩ := range.valid_date
  have survives := (Date.renumber_eq_iff (dayOf t)).mp same
  exact (fromUtcTime_breakTime_iff (inCalendar_of_range range)).mpr survives

/-- A date and a time come back from their second. -/
theorem Valid.breakTime_fromUtcTime (valid : dt.Valid) : breakTime (fromUtcTime dt) = dt := by
  obtain ⟨sameDay, sameSecond⟩ := valid.dayOf_eq
  have range : NumberInRange (dayOf (fromUtcTime dt)) := by
    rw [sameDay]
    exact valid.date.numberInRange valid.inRange
  rw [breakTime_eq (inCalendar_of_range range), sameDay, sameSecond,
    valid.date.getYearMonthDay_eq valid.inRange.1, valid.fillHMS_eq]
  rfl

/-- The order, written out. -/
theorem before_iff : one.Before two ↔
    one.year < two.year ∨ one.year = two.year ∧ (one.month < two.month ∨
      one.month = two.month ∧ (one.day < two.day ∨ one.day = two.day ∧ (one.hour < two.hour ∨
        one.hour = two.hour ∧ (one.minute < two.minute ∨
          one.minute = two.minute ∧ one.second < two.second)))) := by
  simp [Before, members, List.cons_lex_cons_iff]

/-- Of two dates and times that differ one is earlier. -/
theorem before_or (one two : DateTime) : one.Before two ∨ one = two ∨ two.Before one := by
  obtain ⟨year, month, day, hour, minute, second⟩ := one
  obtain ⟨otherYear, otherMonth, otherDay, otherHour, otherMinute, otherSecond⟩ := two
  rw [before_iff, before_iff, DateTime.mk.injEq]
  dsimp only
  omega

/-- Later dates and times have later seconds. -/
theorem Valid.fromUtcTime_lt (first : one.Valid) (second : two.Valid)
    (before : one.Before two) : fromUtcTime one < fromUtcTime two := by
  have firstRange := first.secondsInDay_range
  have secondRange := second.secondsInDay_range
  rw [fromUtcTime_eq, fromUtcTime_eq]
  by_cases sameDate : one.date = two.date
  · obtain ⟨year, month, day⟩ := YearMonthDay.mk.inj sameDate
    rw [sameDate, secondsInDay, secondsInDay]
    obtain ⟨-, -, _, _, _, _, _, _⟩ := first
    obtain ⟨-, -, _, _, _, _, _, _⟩ := second
    have order := before_iff.mp before
    omega
  · have earlier : one.date.julianDayNumber < two.date.julianDayNumber := by
      refine julianDayNumber_lt first.date second.date first.inRange.1 second.inRange.1 ?_
      have order := before_iff.mp before
      have different : ¬(one.year = two.year ∧ one.month = two.month ∧ one.day = two.day) := by
        rintro ⟨year, month, day⟩
        exact sameDate (by rw [DateTime.date, DateTime.date, year, month, day])
      show one.year < two.year ∨ one.year = two.year ∧
        (one.month < two.month ∨ one.month = two.month ∧ one.day < two.day)
      omega
    omega

/-- Earlier seconds have earlier dates and times. -/
theorem breakTime_before_iff {t1 t2 : Int} (range1 : NumberInRange (dayOf t1))
    (range2 : NumberInRange (dayOf t2)) : (breakTime t1).Before (breakTime t2) ↔ t1 < t2 := by
  have keeps : ∀ {t1 t2}, NumberInRange (dayOf t1) → NumberInRange (dayOf t2) →
      (breakTime t1).Before (breakTime t2) → t1 < t2 := by
    intro t1 t2 range1 range2 before
    have later := (breakTime_valid range1).fromUtcTime_lt (breakTime_valid range2) before
    rw [fromUtcTime_breakTime_eq range1, fromUtcTime_breakTime_eq range2] at later
    exact later
  refine ⟨keeps range1 range2, fun before => ?_⟩
  obtain less | same | more := before_or (breakTime t1) (breakTime t2)
  · exact less
  · have equal := congrArg fromUtcTime same
    rw [fromUtcTime_breakTime_eq range1, fromUtcTime_breakTime_eq range2] at equal
    exact absurd equal before.ne
  · exact absurd (keeps range2 range1 more) before.not_gt

/-- The seconds of the years from `-4799` to `1000000`, those before 1970 included, and the dates of
these years with a time of day: `BreakTime` gives such a date and time, which leads back to the
second; earlier seconds have earlier dates and times; and `fromUtcTime` of a date and time leads
back to them. -/
theorem utcTime_bijective :
    (∀ t, NumberInRange (dayOf t) →
      (breakTime t).Valid ∧ fromUtcTime (breakTime t) = t) ∧
    (∀ t1 t2, NumberInRange (dayOf t1) → NumberInRange (dayOf t2) →
      (t1 < t2 ↔ (breakTime t1).Before (breakTime t2))) ∧
    ∀ dt : DateTime, dt.Valid →
      NumberInRange (dayOf (fromUtcTime dt)) ∧ breakTime (fromUtcTime dt) = dt := by
  refine ⟨fun t range => ⟨breakTime_valid range, fromUtcTime_breakTime_eq range⟩, ?_, ?_⟩
  · exact fun t1 t2 range1 range2 => (breakTime_before_iff range1 range2).symm
  · intro dt valid
    exact ⟨valid.dayOf_eq.1 ▸ valid.date.numberInRange valid.inRange, valid.breakTime_fromUtcTime⟩

end DateTime

end Muduo
