import Muduo.Base.EarlyDays
import Muduo.Base.TimeZone

/-!
# From a second to local time and back

A second should come back from `fromLocalTime`, for one of the two ways to read a local time that
occurs twice. The assertion behind the search for a local time is the wrong way round: it fails
whenever it is reached, so only seconds before the first transition come back.
-/

open Outcome

namespace Muduo

namespace TimeZone

/-- The Julian day number of the day of a second. -/
def dayOf (seconds : Int) : Int := seconds / kSecondsPerDay + kJulianDayOf1970_01_01

/-- The calendar arithmetic on a second does not overflow `int`: the largest of its intermediate
results, the first one of `getYearMonthDay`, is an `int`. -/
def InCalendar (seconds : Int) : Prop :=
  -2 ^ 31 ≤ 4 * (dayOf seconds + 32044) ∧ 4 * (dayOf seconds + 32044) + 3 < 2 ^ 31

instance (seconds : Int) : Decidable (InCalendar seconds) :=
  inferInstanceAs (Decidable (_ ∧ _))

/-- The seconds of a day survive the way through hours and minutes. -/
theorem fillHMS_seconds {seconds : Int} (nonneg : 0 ≤ seconds) (dt : DateTime) :
    (fillHMS seconds dt).hour * 3600 + (fillHMS seconds dt).minute * 60 +
      (fillHMS seconds dt).second = seconds := by
  have minutes : seconds.tdiv 60 = seconds / 60 := Int.tdiv_eq_ediv_of_nonneg nonneg
  have some : 0 ≤ seconds / 60 := by omega
  simp only [fillHMS, minutes, Int.tdiv_eq_ediv_of_nonneg some, Int.tmod_eq_emod_of_nonneg nonneg,
    Int.tmod_eq_emod_of_nonneg some]
  omega

/-- Division towards zero, corrected for a negative remainder, rounds down. -/
theorem round_down (seconds : Int) :
    (if seconds.tmod kSecondsPerDay < 0 then
        (seconds.tmod kSecondsPerDay + kSecondsPerDay, seconds.tdiv kSecondsPerDay - 1)
      else (seconds.tmod kSecondsPerDay, seconds.tdiv kSecondsPerDay)) =
      (seconds % kSecondsPerDay, seconds / kSecondsPerDay) := by
  have perDay : kSecondsPerDay = 86400 := rfl
  rw [perDay]
  have whole := Int.tmod_add_mul_tdiv seconds 86400
  have upper := Int.tmod_lt_of_pos seconds (by decide : (0 : Int) < 86400)
  have lower := Int.lt_tmod_of_pos seconds (by decide : (0 : Int) < 86400)
  split
  · exact Prod.ext (by omega) (by omega)
  · exact Prod.ext (by omega) (by omega)

/-- `BreakTime` takes the day and the second in the day, rounding down. -/
theorem breakTime_eq {seconds : Int} (calendar : InCalendar seconds) :
    breakTime seconds =
      { fillHMS (seconds % kSecondsPerDay) ⟨0, 0, 0, 0, 0, 0⟩ with
        year := (getYearMonthDay (dayOf seconds)).year
        month := (getYearMonthDay (dayOf seconds)).month
        day := (getYearMonthDay (dayOf seconds)).day } := by
  have perDay : kSecondsPerDay = 86400 := rfl
  have down := round_down seconds
  have kept : wrapInt (seconds.tdiv kSecondsPerDay) = seconds.tdiv kSecondsPerDay := by
    obtain ⟨lower, upper⟩ := calendar
    rw [dayOf, kJulianDayOf1970_01_01_eq, perDay] at lower upper
    rw [perDay] at down
    rw [perDay, wrapInt]
    split at down
    · obtain ⟨-, quotient⟩ := Prod.mk.inj down
      exact Int.bmod_eq_of_le (by omega) (by omega)
    · obtain ⟨-, quotient⟩ := Prod.mk.inj down
      exact Int.bmod_eq_of_le (by omega) (by omega)
  rw [breakTime]
  dsimp only
  rw [kept, down]
  rfl

/-- The way through a date and a time changes a second by whole days, as many as the way through a
date changes the number of its day. -/
theorem fromUtcTime_breakTime {seconds : Int} (calendar : InCalendar seconds) :
    fromUtcTime (breakTime seconds) =
      seconds + (renumber (dayOf seconds) - dayOf seconds) * kSecondsPerDay := by
  have perDay : kSecondsPerDay = 86400 := rfl
  have nonneg : 0 ≤ seconds % kSecondsPerDay := by
    rw [perDay]
    omega
  have inDay := fillHMS_seconds nonneg ⟨0, 0, 0, 0, 0, 0⟩
  rw [breakTime_eq calendar, fromUtcTime]
  dsimp only
  rw [inDay, renumber, dayOf, perDay]
  omega

/-- `fromUtcTime(BreakTime(seconds))` is never earlier. -/
theorem le_fromUtcTime_breakTime {seconds : Int} (calendar : InCalendar seconds) :
    seconds ≤ fromUtcTime (breakTime seconds) := by
  have later := Date.le_renumber (dayOf seconds)
  have perDay : kSecondsPerDay = 86400 := rfl
  rw [fromUtcTime_breakTime calendar, perDay]
  omega

/-- A second comes back exactly when its day survives the way through a date. -/
theorem fromUtcTime_breakTime_iff {seconds : Int} (calendar : InCalendar seconds) :
    fromUtcTime (breakTime seconds) = seconds ↔ Date.Survives (dayOf seconds) := by
  have perDay : kSecondsPerDay = 86400 := rfl
  rw [← Date.renumber_eq_iff, fromUtcTime_breakTime calendar, perDay]
  omega

/-- The data of a zone whose transitions are in order. -/
structure Data.Regular (d : Data) : Prop where
  /-- There is a local time. -/
  some : d.localtimes ≠ []
  /-- Each transition goes over to one of the local times. -/
  offsets : ∀ transition ∈ d.transitions, ∃ localTime,
    d.localtimes[transition.localtimeIdx]? = .some localTime ∧
      transition.localtime = transition.utctime + localTime.utcOffset
  /-- The transitions are in the order of their UTC times. -/
  utcSorted : d.transitions.Pairwise fun one other => one.utctime < other.utctime
  /-- The transitions are in the order of their local times. -/
  localSorted : d.transitions.Pairwise fun one other => one.localtime < other.localtime

/-- A second is taken to a local time and back, for one of the two ways to read the local time, and
no assertion fails. -/
def RoundTrips (zone : TimeZone) (seconds : Int) : Prop :=
  ∃ civil offset pre post, zone.toLocalTime seconds = .ok (civil, offset) ∧
    zone.fromLocalTime civil false = .ok pre ∧ zone.fromLocalTime civil true = .ok post ∧
    (seconds = pre ∨ seconds = post)

namespace Data

variable {d : Data}

/-- What is before the first of the transitions is before all of them. -/
theorem BeforeFirst.lt {time : Transition → Int} {seconds : Int}
    (before : d.BeforeFirst time seconds)
    (sorted : d.transitions.Pairwise fun one other => time one < time other)
    {transition : Transition} (member : transition ∈ d.transitions) :
    seconds < time transition := by
  rw [BeforeFirst] at before
  cases all : d.transitions with
  | nil =>
    rw [all] at member
    cases member
  | cons first rest =>
    rw [all] at before sorted member
    have start : seconds < time first := before first rfl
    obtain rfl | later := List.mem_cons.mp member
    · exact start
    · exact start.trans ((List.pairwise_cons.mp sorted).1 transition later)

/-- A second comes back exactly when its local time is before the first transition and is the one
that the first offset gives. -/
theorem roundTrips_found {standard found : LocalTime} {seconds : Int}
    (front : d.localTimeAt 0 = .ok standard) (search : d.findLocalTime seconds = .ok found) :
    RoundTrips ⟨some d⟩ seconds ↔
      d.BeforeFirst (·.localtime) (fromUtcTime (breakTime (seconds + found.utcOffset))) ∧
        fromUtcTime (breakTime (seconds + found.utcOffset)) = seconds + standard.utcOffset := by
  have there : toLocalTime ⟨some d⟩ seconds =
      .ok (breakTime (seconds + found.utcOffset), found.utcOffset) := by
    rw [toLocalTime, access, ok_bind, search, ok_bind]
  constructor
  · rintro ⟨civil, offset, pre, post, told, first, second, back⟩
    obtain ⟨rfl, -⟩ := Prod.mk.inj (Except.ok.inj (told.symm.trans there))
    rw [fromLocalTime, access, ok_bind] at first second
    by_cases before : d.BeforeFirst (·.localtime)
        (fromUtcTime (breakTime (seconds + found.utcOffset)))
    · rw [findLocalTimeOf_before before, front, ok_bind] at first second
      have one := Except.ok.inj first
      have two := Except.ok.inj second
      refine ⟨before, ?_⟩
      omega
    · rw [findLocalTimeOf_after before] at first
      cases first
  · rintro ⟨before, same⟩
    have back (postTransition : Bool) :
        fromLocalTime ⟨some d⟩ (breakTime (seconds + found.utcOffset)) postTransition =
          .ok seconds := by
      have whole : seconds + standard.utcOffset - standard.utcOffset = seconds := by omega
      rw [fromLocalTime, access, ok_bind, findLocalTimeOf_before before, front, ok_bind, same,
        whole]
    exact ⟨_, _, seconds, seconds, there, back false, back true, .inl rfl⟩

end Data

/-- For every zone with its transitions in order, and every second for which the calendar arithmetic
does not overflow: the second comes back exactly when it is before the first transition, in UTC and
in local time, and its local day is not before 1 March of the year `-4800` or is one of the days
before it that survive. -/
theorem roundTrips_iff {d : Data} (regular : d.Regular) {standard : LocalTime}
    (front : d.localtimes.head? = some standard) {seconds : Int}
    (calendar : ∀ found, d.findLocalTime seconds = .ok found →
      InCalendar (seconds + found.utcOffset)) :
    RoundTrips ⟨some d⟩ seconds ↔
      d.BeforeFirst (·.utctime) seconds ∧
      d.BeforeFirst (·.localtime) (seconds + standard.utcOffset) ∧
      Date.Survives (dayOf (seconds + standard.utcOffset)) := by
  have start : d.localTimeAt 0 = .ok standard := by
    rw [Data.localTimeAt, ← List.head?_eq_getElem?, front]
  obtain ⟨before, search⟩ | ⟨transition, member, notAfter, search⟩ := d.findLocalTime_cases seconds
  · rw [start] at search
    rw [Data.roundTrips_found start search, fromUtcTime_breakTime_iff (calendar standard search)]
    constructor
    · rintro ⟨early, kept⟩
      rw [(fromUtcTime_breakTime_iff (calendar standard search)).mpr kept] at early
      exact ⟨before, early, kept⟩
    · rintro ⟨-, early, kept⟩
      rw [(fromUtcTime_breakTime_iff (calendar standard search)).mpr kept]
      exact ⟨early, kept⟩
  · obtain ⟨localTime, index, sum⟩ := regular.offsets transition member
    have found : d.findLocalTime seconds = .ok localTime := by
      rw [search, Data.localTimeAt, index]
    have late := le_fromUtcTime_breakTime (calendar localTime found)
    rw [Data.roundTrips_found start found]
    constructor
    · rintro ⟨early, -⟩
      have less := early.lt regular.localSorted member
      omega
    · rintro ⟨early, -, -⟩
      have less := early.lt regular.utcSorted member
      omega

/-- A zone one hour ahead of UTC from the year 1970 on. -/
def hourAhead : Data where
  transitions := [⟨0, 3600, 1⟩]
  localtimes := [⟨0, false, 0⟩, ⟨3600, false, 4⟩]
  abbrevition := []
  tzstring := []

/-- Its transitions are in order. -/
theorem hourAhead_regular : hourAhead.Regular where
  some := nofun
  offsets := by
    intro transition member
    obtain rfl := List.mem_singleton.mp member
    exact ⟨_, rfl, rfl⟩
  utcSorted := List.pairwise_singleton _ _
  localSorted := List.pairwise_singleton _ _

/-- The last second before the transition comes back. -/
theorem roundTrips_before : RoundTrips ⟨some hourAhead⟩ (-1) := by
  refine (@roundTrips_iff hourAhead hourAhead_regular ⟨0, false, 0⟩ rfl (-1) ?_).mpr ?_
  · intro found search
    cases search
    decide
  · refine ⟨?_, ?_, .inl (by decide)⟩
    · rintro first ⟨⟩
      decide
    · rintro first ⟨⟩
      decide

/-- The first second after the transition fails the assertion of `findLocalTime`. -/
theorem hourAhead_fails : hourAhead.Regular ∧
    toLocalTime ⟨some hourAhead⟩ 0 = .ok (⟨1970, 1, 1, 1, 0, 0⟩, 3600) ∧
    (∀ post, fromLocalTime ⟨some hourAhead⟩ ⟨1970, 1, 1, 1, 0, 0⟩ post =
      .error (.assertion "transIt == transitions.begin()")) ∧
    ¬RoundTrips ⟨some hourAhead⟩ 0 := by
  have there : toLocalTime ⟨some hourAhead⟩ 0 = .ok (⟨1970, 1, 1, 1, 0, 0⟩, 3600) := by decide
  have fails (post : Bool) : fromLocalTime ⟨some hourAhead⟩ ⟨1970, 1, 1, 1, 0, 0⟩ post =
      .error (.assertion "transIt == transitions.begin()") := by
    cases post <;> decide
  refine ⟨hourAhead_regular, there, fails, ?_⟩
  rintro ⟨civil, offset, pre, post, told, first, -⟩
  obtain ⟨rfl, -⟩ := Prod.mk.inj (Except.ok.inj (told.symm.trans there))
  rw [fails] at first
  cases first

end TimeZone

end Muduo
