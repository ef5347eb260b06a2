import Muduo.Base.LogStream
import Muduo.Base.Printf
import Muduo.Base.UtcTime

/-!
# The time of a log record

A thread keeps the text of the last second that it wrote, and `formatTime` makes a new one only when
the second changes. What it writes is 17 characters for the second, in the zone for the log, and the
microseconds behind them, whose end depends on whether there is a zone.
-/

open Outcome Storage

namespace Muduo

/-- `Timestamp::kMicroSecondsPerSecond`. -/
def kMicroSecondsPerSecond : Int := 1000 * 1000

/-- `TimeZone::toUtcTime(secondsSinceEpoch)`. -/
def TimeZone.toUtcTime (secondsSinceEpoch : Int) : DateTime := breakTime secondsSinceEpoch

/-- What `"%4d%02d%02d %02d:%02d:%02d"` prints of a date and a time. -/
def DateTime.logText (dt : DateTime) : List UInt8 :=
  spacePadded 4 dt.year ++ zeroPadded 2 dt.month ++ zeroPadded 2 dt.day ++ bytes " " ++
    zeroPadded 2 dt.hour ++ bytes ":" ++ zeroPadded 2 dt.minute ++ bytes ":" ++
    zeroPadded 2 dt.second

/-- The constructor of `Fmt`, for what `snprintf` prints. -/
def makeFmt (text : List UInt8) : Except Fault Fmt :=
  if short : text.length < 32 then .ok ⟨text, short⟩
  else .error (.assertion "static_cast<size_t>(m_length) < sizeof m_buf")

/-- `s << T(str, len)`, where `str` is the memory from the pointer on. -/
def StreamBuffer.insertT (s : StreamBuffer) (str : List UInt8) (len : Nat) :
    Except Fault StreamBuffer := do
  let length ← strlen str
  ensure (length == len) "strlen(str) == m_len"
  s.append str len

/-- A stream into which nothing was inserted. -/
def StreamBuffer.empty : StreamBuffer := ⟨List.replicate kSmallBuffer 0, 0⟩

/-- What `formatTime` keeps for the next record. -/
structure LogClock where
  /-- `t_time`. -/
  time : List UInt8
  /-- `t_lastSecond`. -/
  lastSecond : Int
  /-- `g_logTimeZone`. -/
  logTimeZone : TimeZone
  deriving DecidableEq, Repr

namespace LogClock

/-- The clock of a thread that has logged nothing. -/
def initial : LogClock := ⟨List.replicate 64 0, 0, ⟨none⟩⟩

/-- The date and time of a second, in the zone for the log. -/
def dateTime (zone : TimeZone) (seconds : Int) : Except Fault DateTime :=
  if zone.valid then do
    let (dt, _) ← zone.toLocalTime seconds
    .ok dt
  else .ok (TimeZone.toUtcTime seconds)

/-- The part of `formatTime` for a second that is not the last one. -/
def change (clock : LogClock) (seconds : Int) : Except Fault LogClock := do
  let dt ← dateTime clock.logTimeZone seconds
  let time ← store clock.time 0 (snprintf 64 dt.logText ++ [0])
  ensure (dt.logText.length == 17) "len == 17"
  .ok { clock with time, lastSecond := seconds }

/-- The part of `formatTime` from `Fmt us` on, for what that prints and the expected length. -/
def write (clock : LogClock) (us : List UInt8) (length : Nat) (expression : String)
    (stream : StreamBuffer) : Except Fault StreamBuffer := do
  let us ← makeFmt us
  ensure (us.text.length == length) expression
  let stream ← stream.insertT clock.time 17
  stream.insertT (us.text ++ [0]) length

/-- `seconds` in `formatTime`. -/
def secondOf (microSecondsSinceEpoch : Int) : Int :=
  microSecondsSinceEpoch.tdiv kMicroSecondsPerSecond

/-- `microseconds` in `formatTime`. -/
def microsecondOf (microSecondsSinceEpoch : Int) : Int :=
  wrapInt (microSecondsSinceEpoch.tmod kMicroSecondsPerSecond)

/-- The part of `formatTime` behind the cache. -/
def writeTime (clock : LogClock) (microseconds : Int) (stream : StreamBuffer) :
    Except Fault StreamBuffer :=
  if clock.logTimeZone.valid then
    clock.write (bytes "." ++ zeroPadded 6 microseconds ++ bytes " ") 8 "us.length() == 8" stream
  else
    clock.write (bytes "." ++ zeroPadded 6 microseconds ++ bytes "z ") 9 "us.length() == 9" stream

/-- `formatTime()` of a record with this timestamp. -/
def formatTime (clock : LogClock) (microSecondsSinceEpoch : Int) (stream : StreamBuffer) :
    Except Fault (LogClock × StreamBuffer) := do
  let seconds := secondOf microSecondsSinceEpoch
  let microseconds := microsecondOf microSecondsSinceEpoch
  let clock ← if seconds ≠ clock.lastSecond then clock.change seconds else .ok clock
  let stream ← clock.writeTime microseconds stream
  .ok (clock, stream)

/-- The text of a second in a zone, made for this second and this zone. -/
def secondText (zone : TimeZone) (seconds : Int) : Except Fault (List UInt8) := do
  let dt ← dateTime zone seconds
  ensure (dt.logText.length == 17) "len == 17"
  .ok dt.logText

/-- What is written behind the second, which depends on whether there is a zone. -/
def microText (zone : TimeZone) (microSecondsSinceEpoch : Int) : List UInt8 :=
  bytes "." ++ zeroPadded 6 (microsecondOf microSecondsSinceEpoch) ++
    bytes (if zone.valid then " " else "z ")

/-- What `formatTime` writes into the stream of a record. -/
def recordText (clock : LogClock) (microSecondsSinceEpoch : Int) : Except Fault (List UInt8) := do
  let (_, stream) ← clock.formatTime microSecondsSinceEpoch StreamBuffer.empty
  .ok stream.content

/-- What it would write without keeping anything from one record to the next. -/
def freshText (zone : TimeZone) (microSecondsSinceEpoch : Int) : Except Fault (List UInt8) := do
  let text ← secondText zone (secondOf microSecondsSinceEpoch)
  .ok (text ++ microText zone microSecondsSinceEpoch)

end LogClock

namespace DateTime

variable {dt one two : DateTime}

/-- The text of a date and a time is printable. -/
theorem logText_printable (dt : DateTime) : Printable dt.logText := by
  have space : Printable (bytes " ") := by decide
  have colon : Printable (bytes ":") := by decide
  have field := Printable.zeroPadded 2
  exact .append (.append (.append (.append (.append (.append (.append (.append
    (.spacePadded 4 _) (field _)) (field _)) space) (field _)) colon) (field _)) colon) (field _)

/-- All members but the year fit the width two. -/
theorem Valid.twoDigits (valid : dt.Valid) :
    ∀ value ∈ [dt.month, dt.day, dt.hour, dt.minute, dt.second], 0 ≤ value ∧ value < 100 := by
  obtain ⟨⟨_, _, _, inMonth⟩, -, _, _, _, _, _, _⟩ := valid
  have length := YearMonthDay.monthLength_range dt.date.year dt.date.month
  have month : dt.date.month = dt.month := rfl
  have day : dt.date.day = dt.day := rfl
  simp only [List.forall_mem_cons]
  refine ⟨?_, ?_, ?_, ?_, ?_, nofun⟩ <;> omega

/-- The end of a text with a number of two digits. -/
theorem append_twoDigits {value other : Int} {text otherText : List UInt8}
    (range : 0 ≤ value ∧ value < 100) (otherRange : 0 ≤ other ∧ other < 100)
    (same : text ++ zeroPadded 2 value = otherText ++ zeroPadded 2 other) :
    text = otherText ∧ value = other := by
  obtain ⟨length, reads⟩ := @zeroPadded_of_range 2 value (by decide) range.1 range.2
  obtain ⟨otherLength, otherReads⟩ :=
    @zeroPadded_of_range 2 other (by decide) otherRange.1 otherRange.2
  obtain ⟨front, back⟩ := List.append_inj' same (length.trans otherLength.symm)
  rw [back, otherReads] at reads
  have equal := Option.some.inj reads
  exact ⟨front, by omega⟩

/-- Different dates and times have different texts. -/
theorem Valid.logText_injective (first : one.Valid) (second : two.Valid)
    (same : one.logText = two.logText) : one = two := by
  have range := first.twoDigits
  have otherRange := second.twoDigits
  simp only [List.forall_mem_cons] at range otherRange
  obtain ⟨month, day, hour, minute, second, -⟩ := range
  obtain ⟨otherMonth, otherDay, otherHour, otherMinute, otherSecond, -⟩ := otherRange
  obtain ⟨same, seconds⟩ := append_twoDigits second otherSecond same
  obtain ⟨same, minutes⟩ := append_twoDigits minute otherMinute (List.append_cancel_right same)
  obtain ⟨same, hours⟩ := append_twoDigits hour otherHour (List.append_cancel_right same)
  obtain ⟨same, days⟩ := append_twoDigits day otherDay (List.append_cancel_right same)
  obtain ⟨same, months⟩ := append_twoDigits month otherMonth same
  have years := spacePadded_injective 4 same
  rw [DateTime.mk.injEq]
  exact ⟨years, months, days, hours, minutes, seconds⟩

end DateTime

/-- The length of a C string. -/
theorem strlen_eq {text : List UInt8} (single : 0 ∉ text) (rest : List UInt8) :
    strlen (text ++ 0 :: rest) = .ok text.length := by
  rw [strlen, if_pos (List.mem_append_right _ List.mem_cons_self),
    List.takeWhile_append_of_pos fun byte member => decide_eq_true (ne_of_mem_of_not_mem
      member single), List.takeWhile_cons_of_neg (by decide), List.append_nil]

namespace StreamBuffer

variable {b : StreamBuffer}

/-- The empty stream is valid. -/
theorem empty_valid : empty.Valid := ⟨List.length_replicate, by decide⟩

/-- Nothing is in the empty stream. -/
theorem content_empty : empty.content = [] := List.take_zero

/-- All bytes of the empty stream are free. -/
theorem avail_empty : empty.avail = kSmallBuffer := empty_valid.avail_eq

/-- A text in memory with a NUL behind it is inserted if it fits. -/
theorem Valid.insertT_eq (valid : b.Valid) {text : List UInt8} (single : 0 ∉ text)
    (rest : List UInt8) :
    ∃ after, b.insertT (text ++ 0 :: rest) text.length = .ok after ∧ after.Valid ∧
      after.content =
        b.content ++ (if decide ((text.length : Int) < b.avail) then text else []) := by
  obtain ⟨after, done, kept⟩ := valid.append_text text (0 :: rest)
  refine ⟨after, ?_, kept⟩
  rw [insertT, strlen_eq single, ok_bind, beq_self_eq_true, ensure_true, ok_bind, done]

end StreamBuffer

namespace LogClock

variable {clock : LogClock}

/-- A text that is stored in `t_time` has a NUL behind it. -/
theorem change_eq (size : clock.time.length = 64) (seconds : Int) :
    clock.change seconds = (secondText clock.logTimeZone seconds).map fun text =>
      { clock with time := text ++ 0 :: clock.time.drop 18, lastSecond := seconds } := by
  rw [change, secondText]
  cases dateTime clock.logTimeZone seconds with
  | error fault => rfl
  | ok dt =>
    have length : (snprintf 64 dt.logText ++ [0]).length ≤ 64 := by
      rw [snprintf, List.length_append, List.length_take, List.length_singleton]
      omega
    rw [ok_bind, ok_bind, store_eq (by omega), ok_bind]
    by_cases whole : dt.logText.length = 17
    · rw [whole, beq_self_eq_true, ensure_true, ok_bind, snprintf_of_lt (by omega), overwrite]
      simp only [List.take_zero, List.nil_append, List.length_append, whole]
      rw [List.append_assoc]
      rfl
    · rw [beq_false_of_ne whole]
      rfl

section

variable {us : List UInt8} {length : Nat}

/-- The assertions on what `Fmt` prints hold, and the text of the second is written in front. -/
theorem write_checked (expected : us.length = length) (short : length < 32) (expression : String)
    (stream : StreamBuffer) :
    clock.write us length expression stream = (do
      let stream ← stream.insertT clock.time 17
      stream.insertT (us ++ [0]) us.length) := by
  have fits : us.length < 32 := by omega
  have made : makeFmt us = .ok ⟨us, fits⟩ := dif_pos fits
  rw [write, made, ok_bind, expected, beq_self_eq_true, ensure_true, ok_bind]

/-- The text in `t_time` and that of the microseconds are written into an empty stream. -/
theorem write_eq {text rest : List UInt8} (kept : clock.time = text ++ 0 :: rest)
    (second : text.length = 17) (single : 0 ∉ text) (expected : us.length = length)
    (short : length < 32) (usSingle : 0 ∉ us) (expression : String) :
    ∃ after, clock.write us length expression StreamBuffer.empty = .ok after ∧ after.Valid ∧
      after.content = text ++ us := by
  have small : kSmallBuffer = 4000 := rfl
  obtain ⟨middle, timed, middleValid, front⟩ := StreamBuffer.empty_valid.insertT_eq single rest
  have first : ((text.length : Int) < kSmallBuffer) := by omega
  rw [StreamBuffer.content_empty, StreamBuffer.avail_empty, if_pos (decide_eq_true first),
    List.nil_append] at front
  have used := middleValid.length_content
  have free := middleValid.avail_eq
  rw [front] at used
  obtain ⟨after, done, valid, content⟩ := middleValid.insertT_eq usSingle []
  have fits : ((us.length : Int) < middle.avail) := by omega
  rw [front, if_pos (decide_eq_true fits)] at content
  refine ⟨after, ?_, valid, content⟩
  rw [write_checked expected short, kept, ← second, timed, ok_bind, done]

/-- Nothing is written as long as `t_time` is empty. -/
theorem write_zeros (zeros : clock.time = List.replicate 64 0) (expected : us.length = length)
    (short : length < 32) (expression : String) (stream : StreamBuffer) :
    clock.write us length expression stream = .error (.assertion "strlen(str) == m_len") := by
  rw [write_checked expected short, zeros]
  rfl

end

section

variable {time : Int} {text rest : List UInt8}

/-- The seconds and microseconds of a positive timestamp. -/
theorem secondOf_eq (positive : 0 < time) :
    secondOf time = time / 1000000 ∧ microsecondOf time = time % 1000000 := by
  have million : kMicroSecondsPerSecond = 1000000 := rfl
  rw [secondOf, microsecondOf, million, Int.tdiv_eq_ediv_of_nonneg positive.le,
    Int.tmod_eq_emod_of_nonneg positive.le]
  exact ⟨rfl, wrapInt_of_lt (by omega) (by omega)⟩

/-- The text behind the second has a known length. -/
theorem length_microText (positive : 0 < time) (zone : TimeZone) :
    (microText zone time).length = if zone.valid then 8 else 9 := by
  obtain ⟨-, micro⟩ := secondOf_eq positive
  obtain ⟨digits, -⟩ :=
    @zeroPadded_of_range 6 (microsecondOf time) (by decide) (by omega) (by omega)
  have point : (bytes ".").length = 1 := rfl
  rw [microText, List.length_append, List.length_append, digits, point]
  split <;> rfl

/-- The text behind the second is printable. -/
theorem microText_printable (zone : TimeZone) (time : Int) : Printable (microText zone time) := by
  refine .append (.append (by decide) (.zeroPadded _ _)) ?_
  split <;> decide

/-- The text of a second has 17 characters. -/
theorem secondText_eq_ok {zone : TimeZone} {seconds : Int} :
    secondText zone seconds = .ok text ↔
      ∃ dt, dateTime zone seconds = .ok dt ∧ dt.logText.length = 17 ∧ dt.logText = text := by
  rw [secondText]
  cases dateTime zone seconds with
  | error fault => simp
  | ok dt =>
    rw [ok_bind]
    by_cases whole : dt.logText.length = 17
    · simp [whole]
    · rw [beq_false_of_ne whole, ensure_false, error_bind]
      simp [whole]

/-- The text in `t_time` is written in front of the microseconds. -/
theorem writeTime_eq (positive : 0 < time) (kept : clock.time = text ++ 0 :: rest)
    (second : text.length = 17) (single : 0 ∉ text) :
    ∃ after, clock.writeTime (microsecondOf time) StreamBuffer.empty = .ok after ∧ after.Valid ∧
      after.content = text ++ microText clock.logTimeZone time := by
  have length := length_microText positive clock.logTimeZone
  have usSingle := (microText_printable clock.logTimeZone time).zero_not_mem
  rw [microText] at *
  rw [writeTime]
  split
  case isTrue valid =>
    rw [if_pos valid] at usSingle
    rw [if_pos valid, if_pos valid] at length
    exact write_eq kept second single length (by decide) usSingle _
  case isFalse invalid =>
    rw [if_neg invalid] at usSingle
    rw [if_neg invalid, if_neg invalid] at length
    exact write_eq kept second single length (by decide) usSingle _

/-- Nothing is written before `t_time` has a text. -/
theorem writeTime_zeros (positive : 0 < time) (zeros : clock.time = List.replicate 64 0)
    (stream : StreamBuffer) : clock.writeTime (microsecondOf time) stream =
      .error (.assertion "strlen(str) == m_len") := by
  have length := length_microText positive clock.logTimeZone
  rw [microText] at length
  rw [writeTime]
  split
  case isTrue valid =>
    rw [if_pos valid, if_pos valid] at length
    exact write_zeros zeros length (by decide) _ _
  case isFalse invalid =>
    rw [if_neg invalid, if_neg invalid] at length
    exact write_zeros zeros length (by decide) _ _

end

end LogClock

end Muduo
