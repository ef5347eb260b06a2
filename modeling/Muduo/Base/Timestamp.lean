import Muduo.Base.LogTime
import Muduo.Lib.FixedWidth

/-!
# `dc::Timestamp`

A timestamp is printed in two ways: as seconds with six digits behind the point, and as a date and a
time in UTC. The second text has the same width for all timestamps from 1970 on and before the year
10000, so that these texts are in the order of the timestamps. Before 1970 the remainder of the
division is negative and is printed with its sign.
-/

namespace Muduo

/-- `class Timestamp`. -/
@[ext]
structure Timestamp where
  /-- `m_microSecondsSinceEpoch`. -/
  microSecondsSinceEpoch : Int
  deriving DecidableEq, Repr

/-- `gmtime_r(&seconds, &tm_time)`, with the year and the month as they are fixed. -/
def gmtime (seconds : Int) : DateTime := breakTime seconds

namespace Timestamp

/-- `secondsSinceEpoch()`. -/
def secondsSinceEpoch (t : Timestamp) : Int :=
  t.microSecondsSinceEpoch.tdiv kMicroSecondsPerSecond

/-- `m_microSecondsSinceEpoch % kMicroSecondsPerSecond`. -/
def microseconds (t : Timestamp) : Int := t.microSecondsSinceEpoch.tmod kMicroSecondsPerSecond

/-- `toString()`. -/
def toString (t : Timestamp) : List UInt8 :=
  snprintf 32 (formatInt t.secondsSinceEpoch ++ bytes "." ++ zeroPadded 6 t.microseconds)

/-- `toFormattedString(showMicroseconds)`. -/
def toFormattedString (t : Timestamp) (showMicroseconds : Bool) : List UInt8 :=
  let tm_time := gmtime t.secondsSinceEpoch
  if showMicroseconds then
    snprintf 64 (tm_time.logText ++ bytes "." ++ zeroPadded 6 t.microseconds)
  else
    snprintf 64 tm_time.logText

/-- The timestamps from 1970 on that an `int64_t` holds. -/
structure Since1970 (t : Timestamp) : Prop where
  /-- Since 1970. -/
  nonneg : 0 ≤ t.microSecondsSinceEpoch
  /-- An `int64_t`. -/
  lt : t.microSecondsSinceEpoch < 2 ^ 63

/-- The timestamps whose texts have one width: from 1970 on and before the year 10000. -/
structure FixedWidth (t : Timestamp) : Prop where
  /-- Since 1970. -/
  nonneg : 0 ≤ t.microSecondsSinceEpoch
  /-- Before the year 10000. -/
  lt : t.microSecondsSinceEpoch < 253402300800 * kMicroSecondsPerSecond

end Timestamp

/-- The decimal digits are in the order of their values. -/
theorem decimalDigits_ordered : decimalDigits.Ordered (· < ·) := by
  intro one two value otherValue known otherKnown less
  obtain ⟨-, first⟩ := decimalValue_eq_some.mp known
  obtain ⟨-, second⟩ := decimalValue_eq_some.mp otherKnown
  rw [UInt8.lt_iff_toNat_lt]
  omega

/-- A padded number decides, or what is behind it. -/
theorem lex_zeroPadded {width : Nat} {value other : Int} {front back : List UInt8}
    (wide : 0 < width) (range : 0 ≤ value ∧ value < 10 ^ width)
    (otherRange : 0 ≤ other ∧ other < 10 ^ width)
    (decides : value < other ∨ value = other ∧ List.Lex (· < ·) front back) :
    List.Lex (· < ·) (zeroPadded width value ++ front) (zeroPadded width other ++ back) := by
  obtain ⟨length, reads⟩ := zeroPadded_of_range wide range.1 range.2
  obtain ⟨otherLength, otherReads⟩ := zeroPadded_of_range wide otherRange.1 otherRange.2
  refine Alphabet.lex_field decimalDigits_ordered (length.trans otherLength.symm) reads
    otherReads ?_
  exact decides.imp (fun less => by omega) fun same => ⟨by rw [same.1], same.2⟩

/-- A year of four digits has no spaces in front. -/
theorem spacePadded_year {year : Int} (lower : 1000 ≤ year) :
    spacePadded 4 year = zeroPadded 4 year := by
  have nonneg : ¬year < 0 := by omega
  have digits : 4 ≤ (decimal year.toNat).length := by
    rw [decimal, List.length_map, Nat.succ_le_iff, ← Nat.not_le,
      Nat.length_toDigits_le_iff (by decide) (by decide)]
    omega
  rw [spacePadded, formatInt, zeroPadded, if_neg nonneg, if_neg nonneg, padLeft, padLeft,
    Nat.sub_eq_zero_of_le digits]
  rfl

open TimeZone

namespace DateTime

variable {one two : DateTime} {front back : List UInt8}

/-- The earlier date and time has the earlier text. -/
theorem Valid.lex_logText (first : one.Valid) (second : two.Valid)
    (year : 1000 ≤ one.year ∧ one.year < 10000) (otherYear : 1000 ≤ two.year ∧ two.year < 10000)
    (decides : one.Before two ∨ one = two ∧ List.Lex (· < ·) front back) :
    List.Lex (· < ·) (one.logText ++ front) (two.logText ++ back) := by
  have range := first.twoDigits
  have otherRange := second.twoDigits
  simp only [List.forall_mem_cons] at range otherRange
  obtain ⟨month, day, hour, minute, sec, -⟩ := range
  obtain ⟨otherMonth, otherDay, otherHour, otherMinute, otherSec, -⟩ := otherRange
  rw [before_iff, DateTime.mk.injEq] at decides
  simp only [logText, List.append_assoc, spacePadded_year year.1, spacePadded_year otherYear.1]
  replace decides : one.year < two.year ∨ one.year = two.year ∧ (one.month < two.month ∨
      one.month = two.month ∧ (one.day < two.day ∨ one.day = two.day ∧ (one.hour < two.hour ∨
        one.hour = two.hour ∧ (one.minute < two.minute ∨ one.minute = two.minute ∧
          (one.second < two.second ∨ one.second = two.second ∧
            List.Lex (· < ·) front back))))) := by tauto
  refine lex_zeroPadded (by decide) (by omega) (by omega) (decides.imp_right ?_)
  refine And.imp_right fun decides => ?_
  refine lex_zeroPadded (by decide) month otherMonth (decides.imp_right ?_)
  refine And.imp_right fun decides => ?_
  refine lex_zeroPadded (by decide) day otherDay (decides.imp_right ?_)
  refine And.imp_right fun decides => .append_left _ ?_ _
  refine lex_zeroPadded (by decide) hour otherHour (decides.imp_right ?_)
  refine And.imp_right fun decides => .append_left _ ?_ _
  refine lex_zeroPadded (by decide) minute otherMinute (decides.imp_right ?_)
  refine And.imp_right fun decides => .append_left _ ?_ _
  exact lex_zeroPadded (by decide) sec otherSec decides

/-- The text of a date and a time with a year of four digits has 17 characters. -/
theorem Valid.length_logText (first : one.Valid) (year : 1000 ≤ one.year ∧ one.year < 10000) :
    one.logText.length = 17 := by
  have range := first.twoDigits
  simp only [List.forall_mem_cons] at range
  obtain ⟨month, day, hour, minute, sec, -⟩ := range
  have width {value : Int} (small : 0 ≤ value ∧ value < 100) :
      (zeroPadded 2 value).length = 2 :=
    (@zeroPadded_of_range 2 value (by decide) small.1 small.2).1
  obtain ⟨four, -⟩ := @zeroPadded_of_range 4 one.year (by decide) (by omega) (by omega)
  have separator : (bytes " ").length = 1 ∧ (bytes ":").length = 1 := by decide
  simp only [logText, List.length_append, spacePadded_year year.1, four, width month, width day,
    width hour, width minute, width sec, separator.1, separator.2]

/-- The seconds from 1970 on and before the year 10000 are in the calendar. -/
theorem numberInRange_of_years {seconds : Int} (since : 0 ≤ seconds)
    (before : seconds < 253402300800) : YearMonthDay.NumberInRange (dayOf seconds) := by
  have perDay : kSecondsPerDay = 86400 := rfl
  have first : getJulianDayNumber (-4799) 1 1 = -31738 := by decide
  have last : getJulianDayNumber 1000000 12 31 = 366963925 := by decide
  rw [YearMonthDay.NumberInRange, first, last, dayOf, kJulianDayOf1970_01_01_eq, perDay]
  omega

/-- The order of seconds is that of their dates and times. -/
theorem gmtime_before_iff {one two : Int} (since : 0 ≤ one) (before : one < 253402300800)
    (otherSince : 0 ≤ two) (otherBefore : two < 253402300800) :
    (gmtime one).Before (gmtime two) ↔ one < two :=
  breakTime_before_iff (numberInRange_of_years since before)
    (numberInRange_of_years otherSince otherBefore)

/-- These years have four digits. -/
theorem gmtime_year {seconds : Int} (since : 0 ≤ seconds) (before : seconds < 253402300800) :
    1000 ≤ (gmtime seconds).year ∧ (gmtime seconds).year < 10000 := by
  have start : gmtime 0 = ⟨1970, 1, 1, 0, 0, 0⟩ := by decide
  have finish : gmtime 253402300799 = ⟨9999, 12, 31, 23, 59, 59⟩ := by decide
  constructor
  · by_contra early
    have order : (gmtime seconds).Before (gmtime 0) := by
      rw [before_iff, start]
      dsimp only
      omega
    have less := (gmtime_before_iff since before (le_refl 0) (by decide)).mp order
    omega
  · by_contra late
    have order : (gmtime 253402300799).Before (gmtime seconds) := by
      rw [before_iff, finish]
      dsimp only
      omega
    have less := (gmtime_before_iff (by decide) (by decide) since before).mp order
    omega

end DateTime

namespace Timestamp

open DateTime

variable {t u : Timestamp}

/-- The parts of a timestamp from 1970 on. -/
theorem parts_of_nonneg (nonneg : 0 ≤ t.microSecondsSinceEpoch) :
    t.secondsSinceEpoch = t.microSecondsSinceEpoch / 1000000 ∧
      t.microseconds = t.microSecondsSinceEpoch % 1000000 := by
  have million : kMicroSecondsPerSecond = 1000000 := rfl
  rw [secondsSinceEpoch, microseconds, million, Int.tdiv_eq_ediv_of_nonneg nonneg,
    Int.tmod_eq_emod_of_nonneg nonneg]
  exact ⟨rfl, rfl⟩

/-- The seconds of a timestamp that is printed with a fixed width. -/
theorem FixedWidth.seconds (fixed : t.FixedWidth) :
    0 ≤ t.secondsSinceEpoch ∧ t.secondsSinceEpoch < 253402300800 := by
  obtain ⟨nonneg, upper⟩ := fixed
  have million : kMicroSecondsPerSecond = 1000000 := rfl
  obtain ⟨seconds, -⟩ := parts_of_nonneg nonneg
  rw [seconds]
  rw [million] at upper
  omega

/-- What `toFormattedString` prints is not truncated. -/
theorem FixedWidth.toFormattedString_eq (fixed : t.FixedWidth) :
    t.toFormattedString true =
        (gmtime t.secondsSinceEpoch).logText ++ (bytes "." ++ zeroPadded 6 t.microseconds) ∧
      t.toFormattedString false = (gmtime t.secondsSinceEpoch).logText ∧
      0 ≤ t.microseconds ∧ t.microseconds < 10 ^ 6 := by
  obtain ⟨since, before⟩ := fixed.seconds
  obtain ⟨-, micro⟩ := parts_of_nonneg fixed.nonneg
  have length := (breakTime_valid (numberInRange_of_years since before)).length_logText
    (gmtime_year since before)
  have small : 0 ≤ t.microseconds ∧ t.microseconds < 10 ^ 6 := by omega
  obtain ⟨six, -⟩ := zeroPadded_of_range (by decide : 0 < 6) small.1 small.2
  have point : (bytes ".").length = 1 := rfl
  refine ⟨?_, ?_, small⟩
  · rw [toFormattedString, if_pos rfl, snprintf_of_lt, List.append_assoc]
    rw [List.length_append, List.length_append, point, six, gmtime, length]
    decide
  · rw [toFormattedString, if_neg (by decide), snprintf_of_lt]
    rw [gmtime, length]
    decide

/-- What `toString` prints denotes the seconds. -/
theorem Since1970.readFixed_toString (since : t.Since1970) :
    readFixed t.toString = some ((t.microSecondsSinceEpoch : ℚ) / 10 ^ 6) := by
  obtain ⟨lower, upper⟩ := since
  obtain ⟨seconds, micro⟩ := parts_of_nonneg lower
  obtain ⟨six, digits⟩ :=
    @zeroPadded_of_range 6 t.microseconds (by decide) (by omega) (by omega)
  have front := @decimal_length_le t.secondsSinceEpoch.toNat 13 (by decide) (by omega)
  have point : bytes "." ++ zeroPadded 6 t.microseconds = 46 :: zeroPadded 6 t.microseconds := rfl
  obtain ⟨taken, dropped⟩ := takeWhile_decimal t.secondsSinceEpoch.toNat
    (bytes "." ++ zeroPadded 6 t.microseconds)
  have text : t.toString = decimal t.secondsSinceEpoch.toNat ++
      (bytes "." ++ zeroPadded 6 t.microseconds) := by
    rw [toString, formatInt, if_neg (by omega), snprintf_of_lt, List.append_assoc]
    rw [List.append_assoc, List.length_append, point, List.length_cons, six]
    omega
  have whole : t.secondsSinceEpoch.toNat * 10 ^ 6 + t.microseconds.toNat =
      t.microSecondsSinceEpoch.toNat := by omega
  rw [text, readFixed, taken, dropped, point, List.takeWhile_cons_of_neg (by decide),
    List.dropWhile_cons_of_neg (by decide), List.append_nil, List.tail_cons,
    read_decimal_append digits, six, whole, Option.map_some]
  have same : (t.microSecondsSinceEpoch.toNat : ℚ) = t.microSecondsSinceEpoch := by
    exact_mod_cast Int.toNat_of_nonneg lower
  rw [same]

/-- Later timestamps have later texts. -/
theorem FixedWidth.toFormattedString_lt (first : t.FixedWidth) (second : u.FixedWidth) :
    (t.microSecondsSinceEpoch < u.microSecondsSinceEpoch →
        t.toFormattedString true < u.toFormattedString true) ∧
      (t.secondsSinceEpoch < u.secondsSinceEpoch →
        t.toFormattedString false < u.toFormattedString false) := by
  obtain ⟨since, before⟩ := first.seconds
  obtain ⟨otherSince, otherBefore⟩ := second.seconds
  obtain ⟨withMicro, without, small⟩ := first.toFormattedString_eq
  obtain ⟨otherWithMicro, otherWithout, otherSmall⟩ := second.toFormattedString_eq
  obtain ⟨seconds, micro⟩ := parts_of_nonneg first.nonneg
  obtain ⟨otherSeconds, otherMicro⟩ := parts_of_nonneg second.nonneg
  have valid := breakTime_valid (numberInRange_of_years since before)
  have otherValid := breakTime_valid (numberInRange_of_years otherSince otherBefore)
  have texts {front back : List UInt8} := @Valid.lex_logText _ _ front back valid otherValid
    (gmtime_year since before) (gmtime_year otherSince otherBefore)
  have order := gmtime_before_iff since before otherSince otherBefore
  constructor
  · intro less
    rw [withMicro, otherWithMicro]
    refine texts ?_
    obtain earlier | same : t.secondsSinceEpoch < u.secondsSinceEpoch ∨
        t.secondsSinceEpoch = u.secondsSinceEpoch := by omega
    · exact .inl (order.mpr earlier)
    · refine .inr ⟨congrArg gmtime same, .append_left _ ?_ _⟩
      have fields := @lex_zeroPadded 6 _ _ [] [] (by decide) small otherSmall (.inl (by omega))
      rw [List.append_nil, List.append_nil] at fields
      exact fields
  · intro less
    have whole := @texts [] [] (.inl (order.mpr less))
    rw [List.append_nil, List.append_nil] at whole
    rw [without, otherWithout]
    exact whole

/-- The texts of timestamps: `toString` of a timestamp from 1970 on denotes it exactly, and the
texts of `toFormattedString` of timestamps from 1970 on and before the year 10000 are in the order
of the timestamps, with the microseconds, and in the order of their seconds without them. -/
theorem texts_in_order :
    (∀ t : Timestamp, t.Since1970 →
      readFixed t.toString = some ((t.microSecondsSinceEpoch : ℚ) / 10 ^ 6)) ∧
    ∀ t u : Timestamp, t.FixedWidth → u.FixedWidth →
      (t.toFormattedString true < u.toFormattedString true ↔
        t.microSecondsSinceEpoch < u.microSecondsSinceEpoch) ∧
      (t.toFormattedString false < u.toFormattedString false ↔
        t.secondsSinceEpoch < u.secondsSinceEpoch) := by
  refine ⟨fun t since => since.readFixed_toString, fun t u first second => ⟨?_, ?_⟩⟩
  · refine ⟨fun less => ?_, (first.toFormattedString_lt second).1⟩
    obtain earlier | same | later :=
      lt_trichotomy t.microSecondsSinceEpoch u.microSecondsSinceEpoch
    · exact earlier
    · rw [Timestamp.ext same] at less
      exact absurd less (List.lt_irrefl _)
    · exact absurd less (List.lt_asymm ((second.toFormattedString_lt first).1 later))
  · refine ⟨fun less => ?_, (first.toFormattedString_lt second).2⟩
    obtain earlier | same | later := lt_trichotomy t.secondsSinceEpoch u.secondsSinceEpoch
    · exact earlier
    · rw [first.toFormattedString_eq.2.1, second.toFormattedString_eq.2.1, same] at less
      exact absurd less (List.lt_irrefl _)
    · exact absurd less (List.lt_asymm ((second.toFormattedString_lt first).2 later))

example : (Timestamp.mk (-1)).toString = bytes "0.-00001" := by decide

end Timestamp

end Muduo
