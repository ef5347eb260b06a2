import Mathlib.Data.List.Nodup
import Muduo.Lib.Run
import Muduo.Base.Fault
import Muduo.Base.Machine

/-!
# `dc::LogFile`

A log file is replaced by `rollFile`. It should be replaced when it has grown beyond the roll size,
or when a check made from time to time finds that a new day has begun, and by a file of another
name. The comparison in `append_unlocked` calls `rollFile` in place of reading the roll size, so the
file is replaced by the first record of every second, and the name of a file says neither when nor
by whom it was opened.

The state also keeps what the code does not: the last reading of the clock, the records, the files
that were opened, why files were replaced, and how many bytes each name has on disk.
-/

open Outcome Transition

namespace Muduo

/-- One call of `fwrite_unlocked`: how much it would write, and what `ferror` says after it. -/
structure Fwrite where
  /-- The bytes it writes, if there are so many. -/
  count : Nat
  /-- The error flag of the stream. -/
  error : Bool
  deriving DecidableEq, Repr

/-- The loop of `AppendFile::append`, from so many written bytes on: what is added to
`m_writtenBytes`, and what went into the file. -/
def appendLoop (len : Nat) : List Fwrite → Nat → Except Fault (Nat × Nat)
  | [], written => if written = len then .ok (written, written) else .error .endless
  | write :: writes, written =>
    if written = len then .ok (written, written)
    else
      let remain := len - written
      let n := min write.count remain
      if n ≠ remain ∧ write.error = true then .ok (written, written + n)
      else appendLoop len writes (written + n)

/-- `class AppendFile`. -/
structure AppendFile where
  /-- The name it was opened with. -/
  filename : List UInt8
  /-- `m_writtenBytes`. -/
  writtenBytes : Nat
  deriving DecidableEq, Repr

/-- The replacement of a file. -/
structure Roll where
  /-- What had been written to the file that was replaced. -/
  written : Nat
  /-- The check for a new period made it. -/
  byCheck : Bool
  deriving DecidableEq, Repr

/-- `class LogFile`. -/
structure LogFile where
  /-- `m_basename`. -/
  basename : List UInt8
  /-- What `ProcessInfo::hostname()` returns. -/
  hostname : List UInt8
  /-- `m_rollSize`. -/
  rollSize : Nat
  /-- `m_flushInterval`. -/
  flushInterval : Int
  /-- `m_checkEveryN`. -/
  checkEveryN : Int
  /-- `m_count`. -/
  count : Int
  /-- `m_startOfPeriod`. -/
  startOfPeriod : Int
  /-- `m_lastRoll`. -/
  lastRoll : Int
  /-- `m_lastFlush`. -/
  lastFlush : Int
  /-- `m_file`. -/
  file : Option AppendFile
  /-- The last reading of the clock. -/
  clock : Int
  /-- The records that were appended. -/
  records : List (List UInt8)
  /-- The first reading of the clock in the last append. -/
  lastStart : Option Int
  /-- All appends were at least a second apart. -/
  spaced : Bool
  /-- The names of the files that were opened. -/
  opened : List (List UInt8)
  /-- The replacements. -/
  rolls : List Roll
  /-- The bytes that each name has on disk. -/
  disk : List UInt8 → Nat

/-- The readings of the clock in one append. -/
structure Readings where
  /-- The first call of `rollFile`. -/
  first : Int
  /-- The second call of `rollFile`, or the check for a new period. -/
  second : Int
  /-- The call of `rollFile` after the check. -/
  third : Int
  /-- The clock does not go back. -/
  first_le : first ≤ second
  /-- The clock does not go back. -/
  second_le : second ≤ third

/-- A call of `append`. -/
structure Append where
  /-- The record. -/
  record : List UInt8
  /-- What the calls of `fwrite_unlocked` do. -/
  writes : List Fwrite
  /-- The readings of the clock. -/
  readings : Readings
  /-- `writtenBytes()` is called before `rollFile()` in the comparison of both. -/
  leftFirst : Bool

namespace LogFile

/-- The start of the period of a reading, `now / _kRollPerSeconds * _kRollPerSeconds`. -/
def period (now : Int) : Int := now.tdiv (60 * 60 * 24) * (60 * 60 * 24)

/-- `getLogFileName(basename, now)`. The texts of the time and of the process are made and not
used. -/
def getLogFileName (basename hostname : List UInt8) : List UInt8 :=
  basename ++ hostname ++ bytes ".log"

/-- The name of the next file. -/
def filename (l : LogFile) : List UInt8 := getLogFileName l.basename l.hostname

/-- `rollFile()` with its reading of the clock, and who calls it. -/
def rollFile (l : LogFile) (now : Int) (byCheck : Bool) : Bool × LogFile :=
  if l.lastRoll < now then
    (true, { l with
      clock := now
      lastRoll := now
      lastFlush := now
      startOfPeriod := period now
      file := some ⟨l.filename, 0⟩
      opened := l.opened ++ [l.filename]
      rolls := l.rolls ++ (l.file.map fun file => ⟨file.writtenBytes, byCheck⟩).toList })
  else (false, { l with clock := now })

/-- `LogFile(basename, rollSize, threadSafe, flushInterval, checkEveryN)` with its reading of the
clock. -/
def new (basename hostname : List UInt8) (rollSize : Nat) (flushInterval checkEveryN now : Int) :
    Except Fault LogFile := do
  ensure (!basename.contains 47) "basename.find('/') == string::npos"
  let l : LogFile :=
    { basename, hostname, rollSize, flushInterval, checkEveryN
      count := 0
      startOfPeriod := 0
      lastRoll := 0
      lastFlush := 0
      file := none
      clock := now
      records := []
      lastStart := none
      spaced := true
      opened := []
      rolls := []
      disk := fun _ => 0 }
  .ok (l.rollFile now false).2

/-- The part of `append_unlocked` that counts the appends and checks for a new period. -/
def check (l : LogFile) (now later : Int) : LogFile :=
  if l.checkEveryN < l.count + 1 then
    if period now ≠ l.startOfPeriod then
      (rollFile { l with count := 0, clock := now } later true).2
    else if l.flushInterval < now - l.lastFlush then
      { l with count := 0, clock := now, lastFlush := now }
    else { l with count := 0, clock := now }
  else { l with count := l.count + 1 }

/-- The log after `m_file->append(logline, len)`. -/
def wrote (l : LogFile) (a : Append) (file : AppendFile) (written stored : Nat) : LogFile :=
  { l with
    file := some { file with writtenBytes := file.writtenBytes + written }
    records := l.records ++ [a.record]
    lastStart := some a.readings.first
    spaced := l.spaced && decide (∀ start ∈ l.lastStart, start + 1 ≤ a.readings.first)
    disk := Function.update l.disk file.filename (l.disk file.filename + stored) }

/-- The rest of `append_unlocked`, for what was written to the file before. -/
def rollAfter (l : LogFile) (a : Append) (before : Nat) : LogFile :=
  let (rolled, l) := l.rollFile a.readings.first false
  let writtenBytes := if a.leftFirst then before else (l.file.map AppendFile.writtenBytes).getD 0
  if (if rolled then 1 else 0) < writtenBytes then (l.rollFile a.readings.second false).2
  else l.check a.readings.second a.readings.third

/-- `append(logline, len)`. -/
def append (l : LogFile) (a : Append) : Except Fault LogFile :=
  match l.file with
  | none => .error .nullPointer
  | some file => do
    let (written, stored) ← appendLoop a.record.length a.writes 0
    .ok ((l.wrote a file written stored).rollAfter a (file.writtenBytes + written))

/-- A call of `append` with a clock that does not go back. -/
def Step (l : LogFile) (a : Append) (after : LogFile) : Prop :=
  l.clock ≤ a.readings.first ∧ l.append a = .ok after

/-- What rolling is for: a file is replaced when it has grown beyond the roll size or a check finds
a new period, by a file of a new name, and when appends are at least a second apart no file holds
more than the roll size and one record. -/
structure Proper (l : LogFile) : Prop where
  /-- Every replacement has a reason. -/
  due : ∀ roll ∈ l.rolls, l.rollSize < roll.written ∨ roll.byCheck = true
  /-- Every file has another name. -/
  names : l.opened.Nodup
  /-- No file is too long. -/
  bounded : l.spaced = true → ∀ name, l.disk name ≤ l.rollSize ∨
    ∃ record ∈ l.records, l.disk name ≤ l.rollSize + record.length

/-- What `writtenBytes()` returns after `m_file->append(logline, len)`. -/
def writtenAfter (l : LogFile) (a : Append) : Nat :=
  match l.file, appendLoop a.record.length a.writes 0 with
  | some file, .ok (written, _) => file.writtenBytes + written
  | _, _ => 0

/-- No call of `rollFile` in the append comes in a later second than the last replacement. -/
def Steady (l : LogFile) (a : Append) : Prop :=
  a.readings.first ≤ l.lastRoll ∧
    if 0 < l.writtenAfter a then a.readings.second ≤ l.lastRoll
    else l.checkEveryN < l.count + 1 → period a.readings.second = l.startOfPeriod

/-- No more than the record goes into the file. -/
theorem appendLoop_le {len : Nat} {writes : List Fwrite} {start written stored : Nat}
    (begun : start ≤ len) (done : appendLoop len writes start = .ok (written, stored)) :
    stored ≤ len := by
  induction writes generalizing start with
  | nil =>
    rw [appendLoop] at done
    split at done
    · obtain ⟨-, rfl⟩ := Prod.mk.inj (Except.ok.inj done)
      exact begun
    · cases done
  | cons write writes ih =>
    have bound : min write.count (len - start) ≤ len - start := min_le_right _ _
    rw [appendLoop] at done
    split at done
    · obtain ⟨-, rfl⟩ := Prod.mk.inj (Except.ok.inj done)
      exact begun
    · dsimp only at done
      split at done
      · obtain ⟨-, rfl⟩ := Prod.mk.inj (Except.ok.inj done)
        omega
      · exact ih (by omega) done

variable {l after : LogFile} {a : Append} {now : Int} {byCheck : Bool}

/-- `rollFile` in the second of the last replacement reads the clock. -/
theorem rollFile_of_le (early : now ≤ l.lastRoll) :
    l.rollFile now byCheck = (false, { l with clock := now }) := if_neg (by omega)

/-- `rollFile` in a later second opens the file. -/
theorem rollFile_of_lt (late : l.lastRoll < now) :
    (l.rollFile now byCheck).1 = true ∧
      (l.rollFile now byCheck).2.opened = l.opened ++ [l.filename] := by
  rw [rollFile, if_pos late]
  exact ⟨rfl, rfl⟩

/-- `rollFile` closes the book on no name. -/
theorem opened_rollFile (l : LogFile) (now : Int) (byCheck : Bool) :
    l.opened <+: (l.rollFile now byCheck).2.opened := by
  by_cases late : l.lastRoll < now
  · rw [(rollFile_of_lt late).2]
    exact List.prefix_append _ _
  · rw [rollFile_of_le (by omega)]

/-- Nor does the check for a new period. -/
theorem opened_check (l : LogFile) (now later : Int) : l.opened <+: (l.check now later).opened := by
  rw [check]
  split
  · split
    · exact opened_rollFile { l with count := 0, clock := now } later true
    · split
      · exact List.prefix_refl _
      · exact List.prefix_refl _
  · exact List.prefix_refl _

/-- Since its construction the log has had one file. -/
structure Quiet (l : LogFile) : Prop where
  /-- The file. -/
  file : ∃ written, l.file = some ⟨l.filename, written⟩
  /-- It was opened once. -/
  opened : l.opened = [l.filename]
  /-- Nothing was replaced. -/
  rolls : l.rolls = []
  /-- The period is that of the construction. -/
  current : l.startOfPeriod = period l.lastRoll
  /-- The clock did not go back. -/
  clock : l.lastRoll ≤ l.clock
  /-- All appends came in the second of the construction. -/
  starts : ∀ start ∈ l.lastStart, start = l.lastRoll
  /-- Before the first append nothing is on disk. -/
  empty : l.lastStart = none → ∀ name, l.disk name = 0
  /-- One append leaves no more than its record. -/
  single : l.spaced = true → ∀ name, l.disk name = 0 ∨
    ∃ record ∈ l.records, l.disk name ≤ record.length

/-- A log with one file is as it should be. -/
theorem Quiet.proper (quiet : l.Quiet) : l.Proper where
  due := by
    rw [quiet.rolls]
    nofun
  names := by
    rw [quiet.opened]
    exact List.nodup_singleton _
  bounded := by
    intro spaced name
    obtain none | ⟨record, member, small⟩ := quiet.single spaced name
    · exact .inl (by omega)
    · exact .inr ⟨record, member, by omega⟩

/-- A file that was opened twice is not as it should be. -/
theorem not_proper_of_reopened {earlier : LogFile} (quiet : earlier.Quiet)
    (again : earlier.opened ++ [earlier.filename] <+: l.opened) : ¬l.Proper := by
  intro proper
  rw [quiet.opened] at again
  exact List.nodup_iff_sublist.mp proper.names _ again.sublist

/-- The log has had one file, or it has none and no append returns. -/
def Settled (l : LogFile) : Prop := l.file = none ∨ l.Quiet

/-- A new log is settled. -/
theorem new_settled {basename hostname : List UInt8} {rollSize : Nat}
    {flushInterval checkEveryN : Int}
    (made : new basename hostname rollSize flushInterval checkEveryN now = .ok l) :
    l.Settled := by
  obtain ⟨_, -, rest⟩ := bind_eq_ok.mp made
  obtain rfl := Except.ok.inj rest
  by_cases late : 0 < now
  · right
    rw [rollFile, if_pos late]
    exact ⟨⟨0, rfl⟩, rfl, rfl, rfl, Int.le_refl _, nofun, fun _ _ => rfl, fun _ _ => .inl rfl⟩
  · left
    rw [rollFile, if_neg late]

/-- Counting, flushing and reading the clock keep the file. -/
theorem Quiet.tick (quiet : l.Quiet) (later : l.lastRoll ≤ now) (count lastFlush : Int) :
    Quiet { l with count, lastFlush, clock := now } where
  file := quiet.file
  opened := quiet.opened
  rolls := quiet.rolls
  current := quiet.current
  clock := later
  starts := quiet.starts
  empty := quiet.empty
  single := quiet.single

/-- Writing a record in the second of the construction keeps the file. -/
theorem Quiet.wrote (quiet : l.Quiet) (ordered : l.clock ≤ a.readings.first)
    (early : a.readings.first ≤ l.lastRoll) {file : AppendFile} (same : file.filename = l.filename)
    {written stored : Nat} (small : stored ≤ a.record.length) :
    (l.wrote a file written stored).Quiet where
  file := ⟨file.writtenBytes + written, by rw [LogFile.wrote, same]; rfl⟩
  opened := quiet.opened
  rolls := quiet.rolls
  current := quiet.current
  clock := quiet.clock
  starts := by
    have began := quiet.clock
    intro start first
    obtain rfl := Option.some.inj first
    change a.readings.first = l.lastRoll
    omega
  empty := nofun
  single := by
    intro spaced name
    obtain ⟨-, apart⟩ := Bool.and_eq_true_iff.mp spaced
    have none : l.lastStart = none := by
      cases last : l.lastStart with
      | none => rfl
      | some start =>
        have before := quiet.starts start last
        have later := of_decide_eq_true apart start last
        omega
    have nothing := quiet.empty none
    refine .inr ⟨a.record, List.mem_append_right _ (List.mem_singleton_self _), ?_⟩
    change Function.update l.disk file.filename (l.disk file.filename + stored) name ≤ _
    by_cases here : name = file.filename
    · rw [here, Function.update_self, nothing]
      omega
    · rw [Function.update_of_ne here, nothing]
      exact Nat.zero_le _

/-- The rest of `append_unlocked` when the first call of `rollFile` opens no file. -/
theorem rollAfter_of_le (early : a.readings.first ≤ l.lastRoll) {file : AppendFile}
    (current : l.file = some file) :
    l.rollAfter a file.writtenBytes =
      if 0 < file.writtenBytes then
        (rollFile { l with clock := a.readings.first } a.readings.second false).2
      else check { l with clock := a.readings.first } a.readings.second a.readings.third := by
  rw [rollAfter, rollFile_of_le early]
  dsimp only
  have compared : (if a.leftFirst then file.writtenBytes
      else (l.file.map AppendFile.writtenBytes).getD 0) = file.writtenBytes := by
    rw [current]
    split <;> rfl
  rw [compared]
  rfl

/-- The rest of `append_unlocked` when the first call of `rollFile` opens a file. -/
theorem opened_rollAfter (l : LogFile) (a : Append) (before : Nat) :
    (l.rollFile a.readings.first false).2.opened <+: (l.rollAfter a before).opened := by
  have either : l.rollAfter a before =
        ((l.rollFile a.readings.first false).2.rollFile a.readings.second false).2 ∨
      l.rollAfter a before =
        (l.rollFile a.readings.first false).2.check a.readings.second a.readings.third :=
    ite_eq_or_eq _ _ _
  obtain rolls | checks := either
  · rw [rolls]
    exact opened_rollFile _ _ _
  · rw [checks]
    exact opened_check _ _ _

/-- What an append to a log with one file does. -/
theorem Quiet.append (quiet : l.Quiet) (done : l.append a = .ok after) :
    ∃ file written stored, file.filename = l.filename ∧ stored ≤ a.record.length ∧
      l.writtenAfter a = file.writtenBytes + written ∧
      after = (l.wrote a file written stored).rollAfter a (file.writtenBytes + written) := by
  obtain ⟨size, current⟩ := quiet.file
  rw [LogFile.append, current] at done
  obtain ⟨⟨written, stored⟩, wrote, rest⟩ := bind_eq_ok.mp done
  refine ⟨⟨l.filename, size⟩, written, stored, rfl, appendLoop_le (Nat.zero_le _) wrote, ?_,
    (Except.ok.inj rest).symm⟩
  simp only [writtenAfter, current, wrote]

/-- The log between the two calls of `rollFile`, in the second of the construction. -/
theorem Quiet.between (quiet : l.Quiet) (ordered : l.clock ≤ a.readings.first)
    (early : a.readings.first ≤ l.lastRoll) {file : AppendFile} (same : file.filename = l.filename)
    {written stored : Nat} (small : stored ≤ a.record.length) :
    Quiet { l.wrote a file written stored with clock := a.readings.first } := by
  have began : l.lastRoll ≤ a.readings.first := quiet.clock.trans ordered
  exact (quiet.wrote ordered early same small).tick began _ _

/-- `rollFile` keeps the file of a log in the second of the construction, and opens it again
later. -/
theorem Quiet.rollFile (quiet : l.Quiet) (began : l.lastRoll ≤ now) (byCheck : Bool) :
    (now ≤ l.lastRoll → (l.rollFile now byCheck).2.Quiet) ∧
      (¬now ≤ l.lastRoll →
        l.opened ++ [l.filename] <+: (l.rollFile now byCheck).2.opened) := by
  constructor
  · intro early
    rw [rollFile_of_le early]
    exact quiet.tick began _ _
  · intro late
    rw [(rollFile_of_lt (not_le.mp late)).2]

/-- The check for a new period keeps the file of a log in the period of the construction, and opens
it again in another one. -/
theorem Quiet.check (quiet : l.Quiet) {later : Int} (began : l.lastRoll ≤ now)
    (ordered : now ≤ later) :
    ((l.checkEveryN < l.count + 1 → period now = l.startOfPeriod) → (l.check now later).Quiet) ∧
      (¬(l.checkEveryN < l.count + 1 → period now = l.startOfPeriod) →
        l.opened ++ [l.filename] <+: (l.check now later).opened) := by
  rw [LogFile.check]
  by_cases full : l.checkEveryN < l.count + 1
  · rw [if_pos full]
    by_cases same : period now = l.startOfPeriod
    · rw [if_neg (not_not.mpr same)]
      refine ⟨fun _ => ?_, fun other => absurd (fun _ => same) other⟩
      split
      · exact quiet.tick began _ _
      · exact quiet.tick began _ _
    · rw [if_pos same]
      refine ⟨fun other => absurd (other full) same, fun _ => ?_⟩
      have apart : now ≠ l.lastRoll := by
        intro equal
        rw [equal, quiet.current] at same
        exact same rfl
      have late : ¬later ≤ l.lastRoll := by omega
      exact ((quiet.tick began 0 l.lastFlush).rollFile (by exact began.trans ordered) true).2 late
  · rw [if_neg full]
    exact ⟨fun _ => quiet.tick quiet.clock _ _, fun other => absurd (absurd · full) other⟩

/-- An append keeps the file of a log when it is steady, and opens it again otherwise. -/
theorem Quiet.step (quiet : l.Quiet) (stepped : l.Step a after) :
    (l.Steady a → after.Quiet) ∧
      (¬l.Steady a → l.opened ++ [l.filename] <+: after.opened) := by
  obtain ⟨ordered, done⟩ := stepped
  obtain ⟨file, written, stored, same, small, total, rfl⟩ := quiet.append done
  by_cases early : a.readings.first ≤ l.lastRoll
  · have kept := @Quiet.between l a quiet ordered early file same written stored small
    have began : l.lastRoll ≤ a.readings.second :=
      quiet.clock.trans (ordered.trans a.readings.first_le)
    have equation := @rollAfter_of_le (l.wrote a file written stored) a early
      ⟨file.filename, file.writtenBytes + written⟩ rfl
    dsimp only at equation
    rw [equation, Steady, total, and_iff_right early]
    by_cases some : 0 < file.writtenBytes + written
    · rw [if_pos some, if_pos some]
      exact kept.rollFile began false
    · rw [if_neg some, if_neg some]
      exact kept.check began a.readings.second_le
  · refine ⟨fun steady => absurd steady.1 early, fun _ => ?_⟩
    have opened : (LogFile.rollFile (l.wrote a file written stored) a.readings.first
        false).2.opened = l.opened ++ [l.filename] :=
      (@rollFile_of_lt (l.wrote a file written stored) _ _ (not_le.mp early)).2
    have more := opened_rollAfter (l.wrote a file written stored) a (file.writtenBytes + written)
    rw [opened] at more
    exact more

/-- An append that returns has found a file. -/
theorem Step.opened (stepped : l.Step a after) : l.file ≠ none := by
  intro none
  have done := stepped.2
  rw [LogFile.append, none] at done
  cases done

/-- For every log file and every sequence of appends, whatever is written and whatever the clock
says: rolling is as it should be after every append exactly when in every append no call of
`rollFile` comes in a later second than the construction. -/
theorem rolls_properly_iff {basename hostname : List UInt8} {rollSize : Nat}
    {flushInterval checkEveryN now : Int} {start last : LogFile} (appends : List Append)
    (made : new basename hostname rollSize flushInterval checkEveryN now = .ok start) :
    Run (Reaching Step Proper) start appends last ↔
      Run (Guarded Step Steady) start appends last := by
  refine Run.reaching_iff (new_settled made) ?_ ?_
  · rintro before a after (none | quiet) stepped
    · exact absurd none stepped.opened
    · obtain ⟨keeps, reopens⟩ := quiet.step stepped
      refine ⟨fun proper => ?_, fun steady => (keeps steady).proper⟩
      by_contra restless
      exact not_proper_of_reopened quiet (reopens restless) proper
  · rintro before a after (none | quiet) ⟨stepped, steady⟩
    · exact absurd none stepped.opened
    · exact .inr ((quiet.step stepped).1 steady)

/-- A record of one byte, appended while the clock stands. -/
def shortAppend (now : Int) : Append where
  record := [65]
  writes := [⟨1, false⟩]
  readings := ⟨now, now, now, Int.le_refl _, Int.le_refl _⟩
  leftFirst := true

/-- Two records in the second of the construction. -/
theorem rolls_properly_second :
    ∃ start last, new (bytes "app") (bytes "host") 1000 3 1024 100 = .ok start ∧
      Run (Reaching Step Proper) start [shortAppend 100, shortAppend 100] last := by
  have steady (l : LogFile) (second : l.lastRoll = 100)
      (some : 0 < l.writtenAfter (shortAppend 100)) : l.Steady (shortAppend 100) := by
    refine ⟨second.ge, ?_⟩
    rw [if_pos some]
    exact second.ge
  have ran : ∃ start last, new (bytes "app") (bytes "host") 1000 3 1024 100 = .ok start ∧
      Run (Guarded Step Steady) start [shortAppend 100, shortAppend 100] last :=
    ⟨_, _, rfl, .cons ⟨⟨by decide, rfl⟩, steady _ rfl (by decide)⟩
      (.cons ⟨⟨by decide, rfl⟩, steady _ rfl (by decide)⟩ (.nil _))⟩
  obtain ⟨start, last, made, run⟩ := ran
  exact ⟨start, last, made, (rolls_properly_iff _ made).mpr run⟩

/-- One record in the next second: the file is replaced after one byte of a thousand, by a file of
the same name. -/
theorem rolls_after_one_byte :
    ∃ start last, new (bytes "app") (bytes "host") 1000 3 1024 100 = .ok start ∧
      Run Step start [shortAppend 101] last ∧ last.rolls = [⟨1, false⟩] ∧
      last.opened = [bytes "apphost.log", bytes "apphost.log"] ∧ ¬last.Proper := by
  refine ⟨_, _, rfl, .cons ⟨by decide, rfl⟩ (.nil _), rfl, rfl, fun proper => ?_⟩
  exact absurd proper.names (by decide)

end LogFile

end Muduo
