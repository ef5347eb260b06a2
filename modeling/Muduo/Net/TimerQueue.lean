import Mathlib.Data.Prod.Lex
import Muduo.Lib.OrderedSet
import Muduo.Lib.Run
import Muduo.Base.Fault

/-!
# `dc::net::TimerQueue`

Timers are objects on the heap, named by address; an address may be used again after a deletion.
Every function that follows a pointer stops with `useAfterFree` when no timer lives there. Times are
microseconds. An interval is what the code reads of a `double`: whether it is positive, and the
microseconds that `addTime` adds for it.

Each timer carries the number of its creation, and the queue a log of what it did to timers. Neither
is read by the code.
-/

open Outcome Transition

namespace Muduo

/-- `Timer*`. -/
abbrev Address := Nat

/-- `UINTPTR_MAX`, where no object lives. -/
def uintptrMax : Address := 2 ^ 64 - 1

/-- What the code reads of `double interval`. -/
structure Interval where
  /-- `interval > 0.0`. -/
  positive : Bool
  /-- `static_cast<int64_t>(seconds * Timestamp::kMicroSecondsPerSecond)`. -/
  microSeconds : Int
  deriving DecidableEq, Repr

/-- `addTime(timestamp, seconds)`. -/
def addTime (timestamp : Int) (seconds : Interval) : Int :=
  Int.bmod (timestamp + seconds.microSeconds) (2 ^ 64)

/-- `class Timer`. -/
structure Timer where
  /-- `m_expiration`. -/
  expiration : Int
  /-- `m_interval`. -/
  interval : Interval
  /-- `m_sequence`. -/
  sequence : Int
  /-- The number of the creation. -/
  serial : Nat
  deriving DecidableEq, Repr

namespace Timer

/-- `repeat()`. -/
def isRepeat (t : Timer) : Bool := t.interval.positive

/-- `restart(now)`. -/
def restart (t : Timer) (now : Int) : Timer :=
  if t.isRepeat then { t with expiration := addTime now t.interval } else { t with expiration := 0 }

end Timer

/-- `std::pair<Timestamp, Timer*>`. -/
structure Entry where
  /-- `first`. -/
  expiration : Int
  /-- `second`. -/
  timer : Address
  deriving DecidableEq, Repr

/-- `std::pair<Timer*, int64_t>`, which is also what a `TimerId` holds. -/
structure ActiveTimer where
  /-- `first`. -/
  timer : Address
  /-- `second`. -/
  sequence : Int
  deriving DecidableEq, Repr

/-- Entries are ordered by expiration, then by address. -/
instance : LinearOrder Entry :=
  LinearOrder.lift' (fun e => toLex (e.expiration, e.timer)) fun a b same => by
    cases a
    cases b
    cases same
    rfl

/-- Active timers are ordered by address, then by sequence number. -/
instance : LinearOrder ActiveTimer :=
  LinearOrder.lift' (fun a => toLex (a.timer, a.sequence)) fun a b same => by
    cases a
    cases b
    cases same
    rfl

/-- The order of entries. -/
theorem Entry.lt_iff {a b : Entry} :
    a < b ↔ a.expiration < b.expiration ∨ a.expiration = b.expiration ∧ a.timer < b.timer :=
  Prod.Lex.toLex_lt_toLex

/-- What happens to a timer. -/
inductive TimerEvent
  | queued (serial : Nat)
  | ran (serial : Nat)
  | restarted (serial : Nat)
  | deleted (serial : Nat)
  deriving DecidableEq, Repr

/-- The timer an event is about. -/
def TimerEvent.serial : TimerEvent → Nat
  | queued serial | ran serial | restarted serial | deleted serial => serial

/-- The one-shot timerfd. -/
structure Timerfd where
  /-- The expiration it was last armed for, until it fires. -/
  armed : Option Int
  /-- It has fired and was neither read nor armed again. -/
  readable : Bool
  deriving DecidableEq, Repr

/-- `class TimerQueue` with the heap its timers live on. -/
structure TimerQueue where
  /-- The timers by address. -/
  heap : Address → Option Timer
  /-- `Timer::s_numCreated`. -/
  numCreated : Nat
  /-- `m_timerfd`. -/
  timerfd : Timerfd
  /-- `m_timers`. -/
  timers : OrderedSet Entry
  /-- `m_activeTimers`. -/
  activeTimers : OrderedSet ActiveTimer
  /-- `is_callingExpiredTimers`. -/
  callingExpiredTimers : Bool
  /-- `m_cancelingTimers`. -/
  cancelingTimers : OrderedSet ActiveTimer
  /-- What was done to timers so far. -/
  log : List TimerEvent

namespace TimerQueue

/-- `TimerQueue(EventLoop* loop)`. -/
def new : TimerQueue :=
  { heap := fun _ => none, numCreated := 0, timerfd := { armed := none, readable := false },
    timers := .empty, activeTimers := .empty, callingExpiredTimers := false,
    cancelingTimers := .empty, log := [] }

/-- The timer a pointer points to. -/
def deref (q : TimerQueue) (timer : Address) : Except Fault Timer :=
  match q.heap timer with
  | some object => .ok object
  | none => .error .useAfterFree

/-- `new Timer(cb, when, interval)` at an address. -/
def create (q : TimerQueue) (timer : Address) (when : Int) (interval : Interval) : TimerQueue :=
  let serial := q.numCreated + 1
  let object : Timer :=
    { expiration := when, interval, sequence := Int.bmod serial (2 ^ 64), serial }
  { q with heap := Function.update q.heap timer (some object), numCreated := serial }

/-- `delete timer`. -/
def delete (q : TimerQueue) (timer : Address) : Except Fault TimerQueue := do
  let object ← q.deref timer
  .ok { q with
    heap := Function.update q.heap timer none
    log := q.log ++ [.deleted object.serial] }

/-- `resetTimerfd(timerfd, expiration)`. -/
def resetTimerfd (q : TimerQueue) (expiration : Int) : TimerQueue :=
  { q with timerfd := { armed := some expiration, readable := false } }

/-- `insert(timer)`. -/
def insert (q : TimerQueue) (timer : Address) : Except Fault (TimerQueue × Bool) := do
  ensure (q.timers.size == q.activeTimers.size) "m_timers.size() == m_activeTimers.size()"
  let object ← q.deref timer
  let earliestChanged := match q.timers.first with
    | none => true
    | some earliest => decide (object.expiration < earliest.expiration)
  let active : ActiveTimer := { timer, sequence := object.sequence }
  ensure (decide (¬active ∈ q.activeTimers)) "result.second"
  let entry : Entry := { expiration := object.expiration, timer }
  ensure (decide (¬entry ∈ q.timers)) "result.second"
  let inserted := { q with
    activeTimers := q.activeTimers.insert active
    timers := q.timers.insert entry
    log := q.log ++ [.queued object.serial] }
  ensure (inserted.timers.size == inserted.activeTimers.size)
    "m_timers.size() == m_activeTimers.size()"
  .ok (inserted, earliestChanged)

/-- `addTimerInLoop(timer)`. -/
def addTimerInLoop (q : TimerQueue) (timer : Address) : Except Fault TimerQueue := do
  let (inserted, earliestChanged) ← q.insert timer
  if earliestChanged then
    let object ← inserted.deref timer
    .ok (inserted.resetTimerfd object.expiration)
  else
    .ok inserted

/-- `cancelInLoop(timerId)`. -/
def cancelInLoop (q : TimerQueue) (timerId : ActiveTimer) : Except Fault TimerQueue := do
  ensure (q.timers.size == q.activeTimers.size) "m_timers.size() == m_activeTimers.size()"
  let cancelled ← (if timerId ∈ q.activeTimers then do
      let object ← q.deref timerId.timer
      let entry : Entry := { expiration := object.expiration, timer := timerId.timer }
      ensure (decide (entry ∈ q.timers)) "n==1"
      let removed ← { q with timers := q.timers.erase entry }.delete timerId.timer
      .ok { removed with activeTimers := removed.activeTimers.erase timerId }
    else if q.callingExpiredTimers then
      .ok { q with cancelingTimers := q.cancelingTimers.insert timerId }
    else
      .ok q)
  ensure (cancelled.timers.size == cancelled.activeTimers.size)
    "m_timers.size() == m_activeTimers.size()"
  .ok cancelled

/-- The value of `end != m_timers.begin() || now < end->first` in `getExpired`, where `end` is the
lower bound of the entry `(now, UINTPTR_MAX)`. -/
def expiredAssertion (q : TimerQueue) (now : Int) : Except Fault Bool :=
  let sentry : Entry := { expiration := now, timer := uintptrMax }
  if q.timers.below sentry ≠ [] then
    .ok true
  else
    match (q.timers.above sentry).first with
    | some entry => .ok (decide (now < entry.expiration))
    | none => .error .outOfRange

/-- The loop of `getExpired` that takes the expired timers out of `m_activeTimers`. -/
def eraseActive (q : TimerQueue) : List Entry → Except Fault TimerQueue
  | [] => .ok q
  | entry :: expired => do
    let object ← q.deref entry.timer
    let active : ActiveTimer := { timer := entry.timer, sequence := object.sequence }
    ensure (decide (active ∈ q.activeTimers)) "n == 1"
    eraseActive { q with activeTimers := q.activeTimers.erase active } expired

/-- `getExpired(now)`. -/
def getExpired (q : TimerQueue) (now : Int) : Except Fault (TimerQueue × List Entry) := do
  ensure (q.timers.size == q.activeTimers.size) "m_timers.size() == m_activeTimers.size()"
  let sentry : Entry := { expiration := now, timer := uintptrMax }
  let passed ← q.expiredAssertion now
  ensure passed "end != m_timers.begin() || now < end->first"
  let expired := q.timers.below sentry
  let left ← { q with timers := q.timers.above sentry }.eraseActive expired
  ensure (left.timers.size == left.activeTimers.size) "m_timers.size() == m_activeTimers.size()"
  .ok (left, expired)

/-- `handleRead()` up to the calls of the expired timers. -/
def beginRead (q : TimerQueue) (now : Int) : Except Fault (TimerQueue × List Entry) := do
  let read := { q with timerfd := { q.timerfd with readable := false } }
  let (left, expired) ← read.getExpired now
  .ok ({ left with callingExpiredTimers := true, cancelingTimers := .empty }, expired)

/-- `it.second->run()` up to the call of the callback. -/
def run (q : TimerQueue) (entry : Entry) : Except Fault TimerQueue := do
  let object ← q.deref entry.timer
  .ok { q with log := q.log ++ [.ran object.serial] }

/-- One iteration of the loop of `reset(expired, now)`. -/
def resetEntry (q : TimerQueue) (entry : Entry) (now : Int) : Except Fault TimerQueue := do
  let object ← q.deref entry.timer
  let timer : ActiveTimer := { timer := entry.timer, sequence := object.sequence }
  if object.isRepeat && decide (¬timer ∈ q.cancelingTimers) then
    let restarted := { q with
      heap := Function.update q.heap entry.timer (some (object.restart now))
      log := q.log ++ [TimerEvent.restarted object.serial] }
    let (inserted, _) ← restarted.insert entry.timer
    .ok inserted
  else
    q.delete entry.timer

/-- The end of `reset(expired, now)`. -/
def rearm (q : TimerQueue) : Except Fault TimerQueue := do
  let nextExpire ← (match q.timers.first with
    | some earliest => do
      let object ← q.deref earliest.timer
      .ok object.expiration
    | none => .ok 0)
  if 0 < nextExpire then
    .ok (q.resetTimerfd nextExpire)
  else
    .ok q

end TimerQueue

/-- Where the loop thread is in `handleRead()`. -/
inductive TimerPhase
  /-- Outside `handleRead()`. -/
  | idle
  /-- About to call the first of the entries left. -/
  | calling (now : Int) (expired rest : List Entry)
  /-- Inside a callback. -/
  | callback (now : Int) (expired rest : List Entry)
  /-- In `reset`, about to deal with the first of these entries. -/
  | resetting (now : Int) (rest : List Entry)
  deriving DecidableEq, Repr

/-- The expired timers that are neither queued again nor deleted. -/
def TimerPhase.batch : TimerPhase → List Entry
  | idle => []
  | calling _ expired _ | callback _ expired _ => expired
  | resetting _ rest => rest

/-- Loop-thread code other than `handleRead()` itself runs. -/
def TimerPhase.RunsCode : TimerPhase → Prop
  | idle | callback _ _ _ => True
  | calling _ _ _ | resetting _ _ => False

/-- The timer queue, the timers on their way to it and the loop thread. -/
structure TimerSystem where
  /-- The queue. -/
  queue : TimerQueue
  /-- The timers created by `addTimer` whose `addTimerInLoop` has not run. -/
  inFlight : List Address
  /-- Where the loop thread is. -/
  phase : TimerPhase

/-- What happens next. -/
inductive TimerAction
  /-- `addTimer` in any thread creates a timer. -/
  | create (timer : Address) (when : Int) (interval : Interval)
  /-- `addTimerInLoop` runs in the loop thread. -/
  | add (timer : Address)
  /-- `cancelInLoop` runs in the loop thread. -/
  | cancel (timerId : ActiveTimer)
  /-- The timerfd fires. -/
  | fire
  /-- `handleRead()` starts at a time of the clock. -/
  | handleRead (now : Int)
  /-- `handleRead()` calls the next callback. -/
  | call
  /-- The callback returns. -/
  | return
  /-- All callbacks have returned. -/
  | called
  /-- `reset` deals with the next timer. -/
  | reset
  /-- `reset` arms the timerfd and `handleRead()` returns. -/
  | rearm
  deriving DecidableEq, Repr

namespace TimerSystem

/-- A new queue and no timers. -/
def new : TimerSystem := { queue := .new, inFlight := [], phase := .idle }

/-- An action that is possible in a state, with its result. A new timer gets an address where
nothing lives. Loop-thread code may cancel any id, whatever became of its timer. When `handleRead`
reads past the end of an empty queue, the program may stop there or go on with no expired timers. -/
inductive Attempt : TimerSystem → TimerAction → Except Fault TimerSystem → Prop
  | create {s : TimerSystem} {timer : Address} {when : Int} {interval : Interval}
      (free : s.queue.heap timer = none) (object : timer < uintptrMax) :
      Attempt s (.create timer when interval)
        (.ok { s with
          queue := s.queue.create timer when interval
          inFlight := timer :: s.inFlight })
  | add {s : TimerSystem} {timer : Address} (user : s.phase.RunsCode)
      (handed : timer ∈ s.inFlight) :
      Attempt s (.add timer) (do
        let queue ← s.queue.addTimerInLoop timer
        .ok { s with queue, inFlight := s.inFlight.erase timer })
  | cancel {s : TimerSystem} {timerId : ActiveTimer} (user : s.phase.RunsCode) :
      Attempt s (.cancel timerId) (do
        let queue ← s.queue.cancelInLoop timerId
        .ok { s with queue })
  | fire {s : TimerSystem} {expiration : Int} (armed : s.queue.timerfd.armed = some expiration) :
      Attempt s .fire
        (.ok { s with queue := { s.queue with timerfd := { armed := none, readable := true } } })
  | handleRead {s : TimerSystem} {now : Int} (idle : s.phase = .idle) :
      Attempt s (.handleRead now) (do
        let (queue, expired) ← s.queue.beginRead now
        .ok { s with queue, phase := .calling now expired expired })
  | handleReadPastEnd {s : TimerSystem} {now : Int} (idle : s.phase = .idle)
      (empty : s.queue.timers.elements = []) :
      Attempt s (.handleRead now) (.ok { s with
        queue := { s.queue with
          timerfd := { s.queue.timerfd with readable := false }
          callingExpiredTimers := true
          cancelingTimers := .empty }
        phase := .calling now [] [] })
  | call {s : TimerSystem} {now : Int} {expired rest : List Entry} {entry : Entry}
      (calling : s.phase = .calling now expired (entry :: rest)) :
      Attempt s .call (do
        let queue ← s.queue.run entry
        .ok { s with queue, phase := .callback now expired rest })
  | return {s : TimerSystem} {now : Int} {expired rest : List Entry}
      (running : s.phase = .callback now expired rest) :
      Attempt s .return (.ok { s with phase := .calling now expired rest })
  | called {s : TimerSystem} {now : Int} {expired : List Entry}
      (ended : s.phase = .calling now expired []) :
      Attempt s .called (.ok { s with
        queue := { s.queue with callingExpiredTimers := false }
        phase := .resetting now expired })
  | reset {s : TimerSystem} {now : Int} {entry : Entry} {rest : List Entry}
      (resetting : s.phase = .resetting now (entry :: rest)) :
      Attempt s .reset (do
        let queue ← s.queue.resetEntry entry now
        .ok { s with queue, phase := .resetting now rest })
  | rearm {s : TimerSystem} {now : Int} (ended : s.phase = .resetting now []) :
      Attempt s .rearm (do
        let queue ← s.queue.rearm
        .ok { s with queue, phase := .idle })

/-- An action that does not stop the program. -/
def Step (before : TimerSystem) (action : TimerAction) (after : TimerSystem) : Prop :=
  Attempt before action (.ok after)

end TimerSystem

end Muduo
