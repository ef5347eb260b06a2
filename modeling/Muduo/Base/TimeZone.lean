import Muduo.Base.Date
import Muduo.Base.Fault
import Muduo.Base.Machine
import Muduo.Lib.UpperBound

/-!
# `dc::TimeZone`

A zone has a list of local times and the transitions between them. `toLocalTime` looks for the
transition before a second, and `fromLocalTime` for the one after a local time. Seconds and days
are integers, so the model describes the program where its `int` arithmetic does not overflow.
-/

open Outcome

namespace Muduo

/-- `struct DateTime`. -/
structure DateTime where
  /-- `m_year`. -/
  year : Int
  /-- `m_month`. -/
  month : Int
  /-- `m_day`. -/
  day : Int
  /-- `m_hour`. -/
  hour : Int
  /-- `m_minute`. -/
  minute : Int
  /-- `m_second`. -/
  second : Int
  deriving DecidableEq, Repr

/-- `kSecondsPerDay`. -/
def kSecondsPerDay : Int := 24 * 60 * 60

/-- `fillHMS(seconds, dt)`. -/
def fillHMS (seconds : Int) (dt : DateTime) : DateTime :=
  let minutes := seconds.tdiv 60
  { dt with second := seconds.tmod 60, minute := minutes.tmod 60, hour := minutes.tdiv 60 }

/-- `BreakTime(t)`. -/
def breakTime (t : Int) : DateTime :=
  let seconds := t.tmod kSecondsPerDay
  let days := wrapInt (t.tdiv kSecondsPerDay)
  let (seconds, days) :=
    if seconds < 0 then (seconds + kSecondsPerDay, days - 1) else (seconds, days)
  let dt := fillHMS seconds ⟨0, 0, 0, 0, 0, 0⟩
  let ymd := getYearMonthDay (days + kJulianDayOf1970_01_01)
  { dt with year := ymd.year, month := ymd.month, day := ymd.day }

namespace TimeZone

/-- `Data::Transition`. -/
structure Transition where
  /-- `utctime`. -/
  utctime : Int
  /-- `localtime`. -/
  localtime : Int
  /-- `localtimeIdx`. -/
  localtimeIdx : Nat
  deriving DecidableEq, Repr

/-- `Data::LocalTime`. -/
structure LocalTime where
  /-- `utcOffset`. -/
  utcOffset : Int
  /-- `isDst`. -/
  isDst : Bool
  /-- `desigIdx`. -/
  desigIdx : Nat
  deriving DecidableEq, Repr

/-- `struct TimeZone::Data`. -/
structure Data where
  /-- `transitions`. -/
  transitions : List Transition
  /-- `localtimes`. -/
  localtimes : List LocalTime
  /-- `abbrevition`. -/
  abbrevition : List UInt8
  /-- `tzstring`. -/
  tzstring : List UInt8
  deriving DecidableEq, Repr

end TimeZone

/-- `class TimeZone`: what `m_data` points to, if it is not null. -/
structure TimeZone where
  /-- `m_data`. -/
  data : Option TimeZone.Data
  deriving DecidableEq, Repr

namespace TimeZone

/-- `valid()`. -/
def valid (zone : TimeZone) : Bool := zone.data.isSome

/-- `fromUtcTime(dt)`. -/
def fromUtcTime (dt : DateTime) : Int :=
  let secondsInDay := dt.hour * 3600 + dt.minute * 60 + dt.second
  let days := getJulianDayNumber dt.year dt.month dt.day - kJulianDayOf1970_01_01
  days * kSecondsPerDay + secondsInDay

namespace Data

variable (d : Data)

/-- `localtimes[index]`. -/
def localTimeAt (index : Nat) : Except Fault LocalTime :=
  match d.localtimes[index]? with
  | some found => .ok found
  | none => .error .outOfRange

/-- `transitions.begin()[index]`. -/
def transitionAt (index : Int) : Except Fault Transition :=
  if index < 0 then .error .outOfRange
  else
    match d.transitions[index.toNat]? with
    | some transition => .ok transition
    | none => .error .outOfRange

/-- `findLocalTime(utcTime)`. -/
def findLocalTime (utcTime : Int) : Except Fault LocalTime :=
  match d.transitions with
  | [] => d.localTimeAt 0
  | first :: _ =>
    if utcTime < first.utctime then d.localTimeAt 0
    else do
      let transIt := UpperBound.upperBound (fun transition => utcTime < transition.utctime)
        d.transitions
      ensure (transIt != 0) "transIt != transitions.begin()"
      if transIt ≠ d.transitions.length then
        let transition ← d.transitionAt (transIt - 1)
        d.localTimeAt transition.localtimeIdx
      else
        let back ← d.transitionAt (d.transitions.length - 1)
        d.localTimeAt back.localtimeIdx

/-- The last part of `findLocalTime(lt, postTransition)`: the transition before the one that was
found, whether the local time is repeated there or not. -/
def findRepeated (localtime : Int) (postTransition : Bool) (transIt : Int) (prior : Transition)
    (priorSecond : Int) : Except Fault LocalTime := do
  let transition ← d.transitionAt transIt
  let (prior, priorSecond) ←
    if transIt ≠ 0 then do
      let earlier ← d.transitionAt (transIt - 1)
      let found ← d.localTimeAt earlier.localtimeIdx
      pure (earlier, transition.utctime - 1 + found.utcOffset)
    else
      pure (prior, priorSecond)
  if localtime ≤ priorSecond then
    d.localTimeAt (if postTransition then transition.localtimeIdx else prior.localtimeIdx)
  else
    d.localTimeAt transition.localtimeIdx

/-- `findLocalTime(lt, postTransition)`. -/
def findLocalTimeOf (lt : DateTime) (postTransition : Bool) : Except Fault LocalTime :=
  let localtime := fromUtcTime lt
  match d.transitions with
  | [] => d.localTimeAt 0
  | first :: _ =>
    if localtime < first.localtime then d.localTimeAt 0
    else do
      let transIt := UpperBound.upperBound (fun transition => localtime < transition.localtime)
        d.transitions
      ensure (transIt == 0) "transIt == transitions.begin()"
      if transIt = d.transitions.length then
        let back ← d.transitionAt (d.transitions.length - 1)
        d.localTimeAt back.localtimeIdx
      else
        let prior ← d.transitionAt (transIt - 1)
        let transition ← d.transitionAt transIt
        let found ← d.localTimeAt prior.localtimeIdx
        let priorSecond := transition.utctime - 1 + found.utcOffset
        if priorSecond < localtime then
          d.localTimeAt (if postTransition then transition.localtimeIdx else prior.localtimeIdx)
        else
          d.findRepeated localtime postTransition (transIt - 1) prior priorSecond

end Data

/-- The null check of the conversions. -/
def access (zone : TimeZone) : Except Fault Data :=
  match zone.data with
  | some d => .ok d
  | none => .error (.assertion "m_data != NULL")

/-- `toLocalTime(seconds, utcOffset)`, with what is stored through the pointer. -/
def toLocalTime (zone : TimeZone) (seconds : Int) : Except Fault (DateTime × Int) := do
  let d ← zone.access
  let found ← d.findLocalTime seconds
  .ok (breakTime (seconds + found.utcOffset), found.utcOffset)

/-- `fromLocalTime(localtime, postTransition)`. -/
def fromLocalTime (zone : TimeZone) (localtime : DateTime) (postTransition : Bool) :
    Except Fault Int := do
  let d ← zone.access
  let found ← d.findLocalTimeOf localtime postTransition
  .ok (fromUtcTime localtime - found.utcOffset)

namespace Data

variable {d : Data}

/-- No transition is at or before a second. -/
def BeforeFirst (d : Data) (time : Transition → Int) (seconds : Int) : Prop :=
  ∀ first ∈ d.transitions.head?, seconds < time first

/-- A position behind an element of the transitions. -/
theorem transitionAt_before {before : Nat} {transition : Transition}
    (found : d.transitions[before]? = some transition) :
    d.transitionAt ((before + 1 : Nat) - 1) = .ok transition := by
  have index : ((before + 1 : Nat) : Int) - 1 = (before : Nat) := by omega
  have nonneg : ¬((before : Nat) : Int) < 0 := by omega
  rw [index, transitionAt, if_neg nonneg, Int.toNat_natCast, found]

/-- What `findLocalTime(utcTime)` returns, in whatever order the transitions are: the first local
time before the first transition, and after it the local time of a transition that is not after the
second. No assertion fails. -/
theorem findLocalTime_cases (d : Data) (utcTime : Int) :
    d.BeforeFirst (·.utctime) utcTime ∧ d.findLocalTime utcTime = d.localTimeAt 0 ∨
    ∃ transition ∈ d.transitions, transition.utctime ≤ utcTime ∧
      d.findLocalTime utcTime = d.localTimeAt transition.localtimeIdx := by
  rw [findLocalTime]
  cases all : d.transitions with
  | nil => exact .inl ⟨by rw [BeforeFirst, all]; nofun, rfl⟩
  | cons first rest =>
    dsimp only
    by_cases before : utcTime < first.utctime
    · rw [if_pos before]
      refine .inl ⟨?_, rfl⟩
      rw [BeforeFirst, all]
      intro other same
      cases same
      exact before
    · rw [if_neg before]
      right
      have low : decide (utcTime < first.utctime) = false := decide_eq_false before
      obtain ⟨position, transition, result, found, notAbove⟩ :=
        @UpperBound.upperBound_cons _ (fun transition => decide (utcTime < transition.utctime))
          first rest low
      have member : transition ∈ first :: rest := List.mem_of_getElem? found
      refine ⟨transition, member, not_lt.mp (of_decide_eq_false notAbove), ?_⟩
      rw [← all] at found
      have here := transitionAt_before found
      rw [result]
      have passed : (position + 1 != 0) = true := rfl
      rw [passed, ensure_true, ok_bind]
      by_cases last : position + 1 ≠ (first :: rest).length
      · rw [if_pos last, here, ok_bind]
      · rw [if_neg last, ← not_not.mp last, here, ok_bind]

/-- `findLocalTime(lt, postTransition)` before the first transition. -/
theorem findLocalTimeOf_before {lt : DateTime}
    (before : d.BeforeFirst (·.localtime) (fromUtcTime lt)) (postTransition : Bool) :
    d.findLocalTimeOf lt postTransition = d.localTimeAt 0 := by
  rw [findLocalTimeOf]
  rw [BeforeFirst] at before
  cases all : d.transitions with
  | nil => rfl
  | cons first rest =>
    rw [all] at before
    exact if_pos (before first rfl)

/-- `findLocalTime(lt, postTransition)` from the first transition on fails its assertion. -/
theorem findLocalTimeOf_after {lt : DateTime}
    (after : ¬d.BeforeFirst (·.localtime) (fromUtcTime lt)) (postTransition : Bool) :
    d.findLocalTimeOf lt postTransition = .error (.assertion "transIt == transitions.begin()") := by
  rw [findLocalTimeOf]
  rw [BeforeFirst] at after
  cases all : d.transitions with
  | nil => exact absurd (by rw [all]; nofun) after
  | cons first rest =>
    have late : ¬fromUtcTime lt < first.localtime := by
      intro before
      refine after ?_
      rw [all]
      intro other same
      cases same
      exact before
    have low : decide (fromUtcTime lt < first.localtime) = false := decide_eq_false late
    obtain ⟨position, transition, result, -, -⟩ :=
      @UpperBound.upperBound_cons _
        (fun transition => decide (fromUtcTime lt < transition.localtime)) first rest low
    have failed : (position + 1 == 0) = false := rfl
    dsimp only
    rw [if_neg late, result, failed, ensure_false, error_bind]

end Data

end TimeZone

end Muduo
