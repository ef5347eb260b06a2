import Muduo.Base.LogTime
import Muduo.Lib.Run

/-!
# The cache of the time of log records

The text of a second is kept until the second changes, but it depends on the time zone too, which
`setTimeZone` can change in between, and the second 0 is taken for one that was written before
anything was. A record has the text of its own second in the zone that is in force exactly when that
second was written last with the same offset from UTC, or was not written last.
-/

open Outcome Transition

namespace Muduo

namespace TimeZone

/-- The offset from UTC at a second, which is 0 without a zone. -/
def offsetAt (zone : TimeZone) (seconds : Int) : Except Fault Int :=
  if zone.valid then do
    let (_, utcOffset) ← zone.toLocalTime seconds
    .ok utcOffset
  else .ok 0

/-- The offsets of a zone are of type `int`. -/
def IntOffsets (zone : TimeZone) : Prop :=
  ∀ d ∈ zone.data, ∀ localTime ∈ d.localtimes,
    -2 ^ 31 ≤ localTime.utcOffset ∧ localTime.utcOffset < 2 ^ 31

variable {zone other : TimeZone} {seconds offset : Int} {fault : Fault}

/-- The date and time of a second is that of UTC, shifted by the offset. -/
theorem dateTime_eq (zone : TimeZone) (seconds : Int) :
    LogClock.dateTime zone seconds = (zone.offsetAt seconds).map fun offset =>
      breakTime (seconds + offset) := by
  rw [LogClock.dateTime, offsetAt]
  split
  case isTrue =>
    rw [toLocalTime]
    cases zone.access with
    | error fault => rfl
    | ok d =>
      rw [ok_bind]
      cases d.findLocalTime seconds with
      | error fault => rfl
      | ok found => rfl
  case isFalse =>
    show Except.ok (breakTime seconds) = Except.ok (breakTime (seconds + 0))
    rw [Int.add_zero]

/-- What an offset is found from: that of a local time of the zone, or nothing. -/
theorem offsetAt_cases (zone : TimeZone) (seconds : Int) :
    zone.offsetAt seconds = .ok 0 ∨ zone.offsetAt seconds = .error .outOfRange ∨
      ∃ d localTime, zone.data = some d ∧ localTime ∈ d.localtimes ∧
        zone.offsetAt seconds = .ok localTime.utcOffset := by
  obtain ⟨data⟩ := zone
  cases data with
  | none => exact .inl rfl
  | some d =>
    right
    have found : offsetAt ⟨some d⟩ seconds =
        (d.findLocalTime seconds).map TimeZone.LocalTime.utcOffset := by
      have known : valid ⟨some d⟩ = true := rfl
      have accessed : access ⟨some d⟩ = .ok d := rfl
      rw [offsetAt, if_pos known, toLocalTime, accessed, ok_bind]
      cases d.findLocalTime seconds <;> rfl
    have place : ∃ index, d.findLocalTime seconds = d.localTimeAt index := by
      obtain ⟨-, same⟩ | ⟨transition, -, -, same⟩ := d.findLocalTime_cases seconds
      · exact ⟨0, same⟩
      · exact ⟨transition.localtimeIdx, same⟩
    obtain ⟨index, same⟩ := place
    rw [found, same, Data.localTimeAt]
    cases member : d.localtimes[index]? with
    | none => exact .inl rfl
    | some localTime => exact .inr ⟨d, localTime, rfl, List.mem_of_getElem? member, rfl⟩

/-- An offset that is found is of type `int`. -/
theorem offsetAt_range (ints : zone.IntOffsets) (found : zone.offsetAt seconds = .ok offset) :
    -2 ^ 31 ≤ offset ∧ offset < 2 ^ 31 := by
  obtain same | same | ⟨d, localTime, data, member, same⟩ := zone.offsetAt_cases seconds
  · rw [same] at found
    cases found
    decide
  · rw [same] at found
    cases found
  · rw [same] at found
    cases found
    exact ints d data localTime member

/-- An offset that is not found is one that is not in the zone. -/
theorem offsetAt_error (failed : zone.offsetAt seconds = .error fault) : fault = .outOfRange := by
  obtain same | same | ⟨_, _, -, -, same⟩ := zone.offsetAt_cases seconds
  · rw [same] at failed
    cases failed
  · rw [same] at failed
    cases failed
    rfl
  · rw [same] at failed
    cases failed

/-- Between 1970 and the year 10000 different offsets give different texts. -/
theorem logText_breakTime_injective {one two : Int} (since : 0 ≤ seconds)
    (before : seconds < 253402300800) (oneRange : -2 ^ 31 ≤ one ∧ one < 2 ^ 31)
    (twoRange : -2 ^ 31 ≤ two ∧ two < 2 ^ 31)
    (same : (breakTime (seconds + one)).logText = (breakTime (seconds + two)).logText) :
    one = two := by
  have range : ∀ offset : Int, -2 ^ 31 ≤ offset ∧ offset < 2 ^ 31 →
      YearMonthDay.NumberInRange (dayOf (seconds + offset)) := by
    intro offset inside
    have perDay : kSecondsPerDay = 86400 := rfl
    have first : getJulianDayNumber (-4799) 1 1 = -31738 := by decide
    have last : getJulianDayNumber 1000000 12 31 = 366963925 := by decide
    rw [YearMonthDay.NumberInRange, first, last, dayOf, kJulianDayOf1970_01_01_eq, perDay]
    omega
  have equal := (DateTime.breakTime_valid (range one oneRange)).logText_injective
    (DateTime.breakTime_valid (range two twoRange)) same
  have back := congrArg fromUtcTime equal
  rw [DateTime.fromUtcTime_breakTime_eq (range one oneRange),
    DateTime.fromUtcTime_breakTime_eq (range two twoRange)] at back
  omega

end TimeZone

namespace LogClock

variable {zone other : TimeZone} {seconds : Int} {text : List UInt8}

/-- A text that was made in one zone is that of another zone exactly when the offsets are the
same. -/
theorem secondText_iff (since : 0 ≤ seconds) (before : seconds < 253402300800)
    (ints : zone.IntOffsets) (otherInts : other.IntOffsets)
    (made : secondText zone seconds = .ok text) :
    secondText other seconds = .ok text ↔ zone.offsetAt seconds = other.offsetAt seconds := by
  obtain ⟨dt, converted, length, rfl⟩ := secondText_eq_ok.mp made
  rw [TimeZone.dateTime_eq] at converted
  cases first : zone.offsetAt seconds with
  | error fault =>
    rw [first] at converted
    cases converted
  | ok offset =>
    rw [first] at converted
    cases converted
    constructor
    · intro again
      obtain ⟨otherTime, otherConverted, -, same⟩ := secondText_eq_ok.mp again
      rw [TimeZone.dateTime_eq] at otherConverted
      cases second : other.offsetAt seconds with
      | error fault =>
        rw [second] at otherConverted
        cases otherConverted
      | ok otherOffset =>
        rw [second] at otherConverted
        cases otherConverted
        rw [TimeZone.logText_breakTime_injective since before
          (TimeZone.offsetAt_range otherInts second) (TimeZone.offsetAt_range ints first) same]
    · intro same
      refine secondText_eq_ok.mpr ⟨_, ?_, length, rfl⟩
      rw [TimeZone.dateTime_eq, ← same]
      rfl

/-- How the text of a second can fail. -/
theorem secondText_error {fault : Fault} (failed : secondText zone seconds = .error fault) :
    fault = .outOfRange ∨ fault = .assertion "len == 17" := by
  rw [secondText, TimeZone.dateTime_eq] at failed
  cases found : zone.offsetAt seconds with
  | error other =>
    obtain rfl := TimeZone.offsetAt_error found
    rw [found] at failed
    cases failed
    exact .inl rfl
  | ok offset =>
    rw [found] at failed
    dsimp only [Except.map] at failed
    generalize breakTime (seconds + offset) = dt at failed
    rw [ok_bind] at failed
    by_cases whole : dt.logText.length = 17
    · rw [whole] at failed
      cases failed
    · rw [beq_false_of_ne whole, ensure_false, error_bind] at failed
      cases failed
      exact .inr rfl

/-- A fresh text does not fail the assertion of `T`. -/
theorem freshText_ne (zone : TimeZone) (time : Int) :
    freshText zone time ≠ .error (.assertion "strlen(str) == m_len") := by
  intro failed
  rw [freshText] at failed
  cases second : secondText zone (secondOf time) with
  | ok text =>
    rw [second] at failed
    cases failed
  | error fault =>
    rw [second, error_bind] at failed
    cases failed
    obtain same | same := secondText_error second
    · cases same
    · exact absurd same (by decide)

end LogClock

/-- What happens in a thread that logs: a record, with its timestamp, or a new zone. -/
inductive LoggingAction
  /-- `formatTime()` of a record with the timestamp. -/
  | record (microSecondsSinceEpoch : Int)
  /-- `Logger::setTimeZone(tz)`. -/
  | setTimeZone (tz : TimeZone)

/-- The timestamp is positive and before the year 10000. The offsets of the zone are of type
`int`. -/
def LoggingAction.InDomain : LoggingAction → Prop
  | record time => 0 < time ∧ time < 253402300800 * kMicroSecondsPerSecond
  | setTimeZone tz => tz.IntOffsets

/-- A thread that logs. -/
structure LogThread where
  /-- What the program keeps. -/
  clock : LogClock
  /-- The zone that was in force when the text in `t_time` was made. The program does not keep
  it. -/
  madeIn : Option TimeZone
  deriving DecidableEq, Repr

namespace LogThread

/-- A thread that has logged nothing. -/
def initial : LogThread := ⟨.initial, none⟩

/-- One action. -/
def step (thread : LogThread) : LoggingAction → Except Fault LogThread
  | .record time => do
    let (clock, _) ← thread.clock.formatTime time StreamBuffer.empty
    .ok ⟨clock, if LogClock.secondOf time ≠ thread.clock.lastSecond then
      some thread.clock.logTimeZone else thread.madeIn⟩
  | .setTimeZone tz => .ok { thread with clock := { thread.clock with logTimeZone := tz } }

/-- One action leads from one state to another. -/
def Step (before : LogThread) (action : LoggingAction) (after : LogThread) : Prop :=
  before.step action = .ok after

/-- A record is in another second than the last one, or the zone in force has the offset from UTC
with which the text in `t_time` was made. -/
def Current (thread : LogThread) (time : Int) : Prop :=
  LogClock.secondOf time ≠ thread.clock.lastSecond ∨
    ∃ zone ∈ thread.madeIn, zone.offsetAt (LogClock.secondOf time) =
      thread.clock.logTimeZone.offsetAt (LogClock.secondOf time)

/-- What `t_time` holds: nothing at first, then the text of the last second in some zone. -/
structure Cached (thread : LogThread) : Prop where
  /-- `sizeof(t_time)`. -/
  size : thread.clock.time.length = 64
  /-- The zone in force. -/
  ints : thread.clock.logTimeZone.IntOffsets
  /-- Without a text the last second is 0. -/
  nothing : thread.madeIn = none →
    thread.clock.time = List.replicate 64 0 ∧ thread.clock.lastSecond = 0
  /-- The text was made in its zone. -/
  text : ∀ zone ∈ thread.madeIn, zone.IntOffsets ∧ ∃ text rest,
    LogClock.secondText zone thread.clock.lastSecond = .ok text ∧
      thread.clock.time = text ++ 0 :: rest

variable {thread after : LogThread} {time : Int} {action : LoggingAction}

/-- What `formatTime` does in a thread. -/
inductive Formatting (thread : LogThread) (time : Int) :
    Except Fault (LogClock × StreamBuffer) → Prop
  /-- The second is a new one, and its text is made. -/
  | made {text : List UInt8} {stream : StreamBuffer}
      (other : LogClock.secondOf time ≠ thread.clock.lastSecond)
      (second : LogClock.secondText thread.clock.logTimeZone (LogClock.secondOf time) = .ok text)
      (content : stream.content = text ++ LogClock.microText thread.clock.logTimeZone time) :
      Formatting thread time (.ok ({ thread.clock with
        time := text ++ 0 :: thread.clock.time.drop 18
        lastSecond := LogClock.secondOf time }, stream))
  /-- The second is a new one, and it has no text. -/
  | failed {fault : Fault} (other : LogClock.secondOf time ≠ thread.clock.lastSecond)
      (second : LogClock.secondText thread.clock.logTimeZone (LogClock.secondOf time) =
        .error fault) :
      Formatting thread time (.error fault)
  /-- The second is the last one, whose text was not made. -/
  | nothing (same : LogClock.secondOf time = thread.clock.lastSecond)
      (unmade : thread.madeIn = none) :
      Formatting thread time (.error (.assertion "strlen(str) == m_len"))
  /-- The second is the last one, and its text is kept. -/
  | kept {zone : TimeZone} {text : List UInt8} {stream : StreamBuffer}
      (same : LogClock.secondOf time = thread.clock.lastSecond) (member : zone ∈ thread.madeIn)
      (second : LogClock.secondText zone (LogClock.secondOf time) = .ok text)
      (content : stream.content = text ++ LogClock.microText thread.clock.logTimeZone time) :
      Formatting thread time (.ok (thread.clock, stream))

/-- What `formatTime` does in a second that is not the last one. -/
theorem Cached.formatting_other (cached : thread.Cached) (positive : 0 < time)
    (other : LogClock.secondOf time ≠ thread.clock.lastSecond) :
    thread.Formatting time (thread.clock.formatTime time StreamBuffer.empty) := by
  rw [LogClock.formatTime]
  dsimp only
  rw [if_pos other, LogClock.change_eq cached.size]
  cases second : LogClock.secondText thread.clock.logTimeZone (LogClock.secondOf time) with
  | error fault => exact .failed other second
  | ok text =>
    obtain ⟨dt, -, length, rfl⟩ := LogClock.secondText_eq_ok.mp second
    obtain ⟨stream, done, -, content⟩ := @LogClock.writeTime_eq
      { thread.clock with
        time := dt.logText ++ 0 :: thread.clock.time.drop 18
        lastSecond := LogClock.secondOf time } time dt.logText _ positive rfl length
      dt.logText_printable.zero_not_mem
    dsimp only [Except.map]
    rw [ok_bind, done, ok_bind]
    exact .made other second content

/-- What `formatTime` does in the last second. -/
theorem Cached.formatting_same (cached : thread.Cached) (positive : 0 < time)
    (same : LogClock.secondOf time = thread.clock.lastSecond) :
    thread.Formatting time (thread.clock.formatTime time StreamBuffer.empty) := by
  rw [LogClock.formatTime]
  dsimp only
  rw [if_neg (not_not.mpr same), ok_bind]
  cases made : thread.madeIn with
  | none =>
    obtain ⟨zeros, -⟩ := cached.nothing made
    rw [LogClock.writeTime_zeros positive zeros, error_bind]
    exact .nothing same made
  | some zone =>
    obtain ⟨-, text, rest, second, kept⟩ := cached.text zone made
    obtain ⟨dt, -, length, rfl⟩ := LogClock.secondText_eq_ok.mp second
    obtain ⟨stream, done, -, content⟩ :=
      LogClock.writeTime_eq positive kept length dt.logText_printable.zero_not_mem
    rw [done, ok_bind]
    exact .kept same made (same ▸ second) content

/-- What `formatTime` does. -/
theorem Cached.formatting (cached : thread.Cached) (positive : 0 < time) :
    thread.Formatting time (thread.clock.formatTime time StreamBuffer.empty) := by
  by_cases same : LogClock.secondOf time = thread.clock.lastSecond
  · exact cached.formatting_same positive same
  · exact cached.formatting_other positive same

/-- At first `t_time` holds nothing. -/
theorem cached_initial : initial.Cached :=
  ⟨List.length_replicate, nofun, fun _ => ⟨rfl, rfl⟩, nofun⟩

/-- Every action keeps what `t_time` holds. -/
theorem Cached.step (cached : thread.Cached) (domain : action.InDomain)
    (taken : thread.Step action after) : after.Cached := by
  cases action with
  | setTimeZone tz =>
    cases taken
    exact ⟨cached.size, domain, cached.nothing, cached.text⟩
  | record time =>
    obtain ⟨⟨clock, stream⟩, formatted, result⟩ := bind_eq_ok.mp taken
    cases result
    have formatting := cached.formatting domain.1
    rw [formatted] at formatting
    cases formatting with
    | made other second =>
      obtain ⟨dt, -, length, rfl⟩ := LogClock.secondText_eq_ok.mp second
      have size := cached.size
      rw [if_pos other]
      refine ⟨?_, cached.ints, nofun, ?_⟩
      · rw [List.length_append, List.length_cons, List.length_drop, length, size]
      · rintro zone ⟨rfl⟩
        exact ⟨cached.ints, dt.logText, _, second, rfl⟩
    | kept same =>
      rw [if_neg (not_not.mpr same)]
      exact cached

/-- A kept text is that of the zone in force exactly when the offset is the same. -/
theorem Cached.current_iff (cached : thread.Cached)
    (domain : (LoggingAction.record time).InDomain)
    (same : LogClock.secondOf time = thread.clock.lastSecond) {zone : TimeZone}
    (member : zone ∈ thread.madeIn) {text : List UInt8}
    (second : LogClock.secondText zone (LogClock.secondOf time) = .ok text) :
    thread.Current time ↔
      LogClock.secondText thread.clock.logTimeZone (LogClock.secondOf time) = .ok text := by
  obtain ⟨positive, before⟩ := domain
  have million : kMicroSecondsPerSecond = 1000000 := rfl
  obtain ⟨second_eq, -⟩ := LogClock.secondOf_eq positive
  rw [million] at before
  obtain ⟨ints, -⟩ := cached.text zone member
  rw [LogClock.secondText_iff (by omega) (by omega) ints cached.ints second]
  constructor
  · rintro (other | ⟨found, again, offset⟩)
    · exact absurd same other
    · rw [Option.mem_def.mp member] at again
      cases again
      exact offset
  · exact fun offset => .inr ⟨zone, member, offset⟩

/-- A record gets the text of its own second in the zone in force exactly when it is in another
second than the last one or the offset is the same. -/
theorem Cached.recordText_iff (cached : thread.Cached)
    (domain : (LoggingAction.record time).InDomain) :
    thread.clock.recordText time = LogClock.freshText thread.clock.logTimeZone time ↔
      thread.Current time := by
  have formatting := cached.formatting domain.1
  rw [LogClock.recordText]
  generalize thread.clock.formatTime time StreamBuffer.empty = result at formatting ⊢
  cases formatting with
  | made other second content =>
    refine iff_of_true ?_ (.inl other)
    rw [LogClock.freshText, second, ok_bind, ok_bind, ← content]
  | failed other second =>
    refine iff_of_true ?_ (.inl other)
    rw [LogClock.freshText, second, error_bind, error_bind]
  | nothing same unmade =>
    refine iff_of_false (fun equal => LogClock.freshText_ne _ _ equal.symm) ?_
    rintro (other | ⟨zone, member, -⟩)
    · exact other same
    · rw [unmade] at member
      cases member
  | kept same member second content =>
    rw [cached.current_iff domain same member second, LogClock.freshText, ok_bind]
    dsimp only
    rw [content]
    cases LogClock.secondText thread.clock.logTimeZone (LogClock.secondOf time) with
    | error fault => exact iff_of_false nofun nofun
    | ok fresh =>
      rw [ok_bind, Except.ok.injEq, Except.ok.injEq, List.append_cancel_right_eq, eq_comm]

/-- Every record of a run has the text of its own second in the zone that is in force. -/
def AllFresh (actions : List LoggingAction) : Prop :=
  ∀ front time back thread, actions = front ++ .record time :: back →
    Run Step initial front thread →
      thread.clock.recordText time = LogClock.freshText thread.clock.logTimeZone time

/-- Every record of a run is in another second than the one before it, or the zone in force has the
offset from UTC with which the text of this second was made. -/
def AllCurrent (actions : List LoggingAction) : Prop :=
  ∀ front time back thread, actions = front ++ .record time :: back →
    Run Step initial front thread → thread.Current time

/-- Whatever actions a run begins with, `t_time` holds the text of the last second. -/
theorem cached_of_run {actions : List LoggingAction} (domain : ∀ action ∈ actions, action.InDomain)
    (run : Run Step initial actions thread) : thread.Cached :=
  (run.allowed domain).invariant cached_initial fun _ _ _ cached taken =>
    cached.step taken.2 taken.1

/-- In every run, from whatever zones and whatever timestamps between 1970 and the year 10000, every
record has the text of its own second in the zone that is in force, exactly when every record of a
second that is already in `t_time` comes with the offset from UTC with which it was made there. -/
theorem allFresh_iff {actions : List LoggingAction} (domain : ∀ action ∈ actions, action.InDomain) :
    AllFresh actions ↔ AllCurrent actions := by
  have same : ∀ {front time back thread}, actions = front ++ .record time :: back →
      Run Step initial front thread →
        (thread.clock.recordText time = LogClock.freshText thread.clock.logTimeZone time ↔
          thread.Current time) := by
    intro front time back thread split run
    have member : ∀ action, action ∈ front ∨ action = .record time → action ∈ actions := by
      intro action
      rw [split, List.mem_append, List.mem_cons]
      exact Or.imp_right .inl
    have cached := cached_of_run (fun action before => domain action (member action (.inl before)))
      run
    exact cached.recordText_iff (domain _ (member _ (.inr rfl)))
  constructor
  · intro fresh front time back thread split run
    exact (same split run).mp (fresh front time back thread split run)
  · intro current front time back thread split run
    exact (same split run).mpr (current front time back thread split run)

/-- `TimeZone(8 * 3600, "CST")`. -/
def beijing : TimeZone := ⟨some ⟨[], [⟨8 * 3600, false, 0⟩], bytes "CST", []⟩⟩

/-- The offset of this zone is of type `int`. -/
theorem beijing_ints : beijing.IntOffsets := by
  rintro d ⟨rfl⟩ localTime member
  rw [List.mem_singleton.mp member]
  decide

/-- A thread that has logged in the first second behind 1970. -/
theorem step_initial : initial.Step (.record 1000000)
    ⟨⟨bytes "19700101 00:00:01" ++ List.replicate 47 0, 1, ⟨none⟩⟩, some ⟨none⟩⟩ := by
  rw [Step]
  decide +kernel

/-- A new zone and a record in the next second. -/
theorem allFresh_iff_next_second :
    AllFresh [.record 1000000, .setTimeZone beijing, .record 2000000] := by
  refine (allFresh_iff ?_).mpr ?_
  · simp only [List.forall_mem_cons]
    exact ⟨⟨by decide, by decide⟩, beijing_ints, ⟨by decide, by decide⟩, nofun⟩
  · intro front time back thread split run
    match front with
    | [] =>
      cases split
      cases run
      exact .inl (by decide)
    | [_] => cases split
    | [_, _] =>
      cases split
      obtain _ | ⟨logged, _ | ⟨zoned, _ | _⟩⟩ := run
      cases Except.ok.inj (step_initial.symm.trans logged)
      cases zoned
      exact .inl (by decide)
    | _ :: _ :: _ :: front =>
      have length := congrArg List.length split
      simp only [List.length_append, List.length_cons, List.length_nil] at length
      omega

/-- A new zone and a record in the same second, which gets the date and time of the old zone and the
end of a text in the new one. -/
theorem setTimeZone_within_second :
    (∃ thread, Run Step initial [.record 1000000, .setTimeZone beijing] thread ∧
      thread.clock.recordText 1500000 = .ok (bytes "19700101 00:00:01.500000 ") ∧
      LogClock.freshText thread.clock.logTimeZone 1500000 =
        .ok (bytes "19700101 08:00:01.500000 ")) ∧
    ¬AllFresh [.record 1000000, .setTimeZone beijing, .record 1500000] := by
  have run : Run Step initial [.record 1000000, .setTimeZone beijing] _ :=
    .cons step_initial (.cons rfl (.nil _))
  have cached : LogClock.recordText
      ⟨bytes "19700101 00:00:01" ++ List.replicate 47 0, 1, beijing⟩ 1500000 =
        .ok (bytes "19700101 00:00:01.500000 ") := by decide +kernel
  have fresh : LogClock.freshText beijing 1500000 = .ok (bytes "19700101 08:00:01.500000 ") := by
    decide +kernel
  refine ⟨⟨_, run, cached, fresh⟩, fun all => ?_⟩
  have same := all _ 1500000 [] _ rfl run
  rw [cached, fresh] at same
  exact absurd same (by decide)

end LogThread

end Muduo
