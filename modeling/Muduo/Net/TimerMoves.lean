import Muduo.Net.TimerSystem

/-!
# What one step of the timer queue does

Each function of the queue is inverted once: when it returns, its result is the queue before with
the stated fields changed. `Move` lists the outcomes of all actions in these terms.
-/

open Outcome Transition

namespace Muduo

namespace TimerQueue

variable {q r : TimerQueue} {timer : Address}

/-- A pointer is followed to the timer that lives there. -/
theorem deref_eq_ok {object : Timer} : q.deref timer = .ok object ↔ q.heap timer = some object := by
  unfold deref
  cases q.heap timer <;> simp

/-- The queue after the deletion of a timer. -/
def erased (q : TimerQueue) (timer : Address) (object : Timer) : TimerQueue :=
  { q with
    heap := Function.update q.heap timer none
    log := q.log ++ [.deleted object.serial] }

/-- A deletion that returns. -/
theorem delete_eq_ok (done : q.delete timer = .ok r) :
    ∃ object, q.heap timer = some object ∧ r = q.erased timer object := by
  unfold delete at done
  obtain ⟨object, lives, same⟩ := bind_eq_ok.mp done
  exact ⟨object, deref_eq_ok.mp lives, (Except.ok.inj same).symm⟩

/-- A timer to be queued is due before all that are queued. -/
def earliestChanged (q : TimerQueue) (object : Timer) : Bool :=
  match q.timers.first with
  | none => true
  | some earliest => decide (object.expiration < earliest.expiration)

/-- An insertion that returns. -/
theorem insert_eq_ok {changed : Bool} (done : q.insert timer = .ok (r, changed)) :
    ∃ object, q.heap timer = some object ∧ r = q.enqueue timer object ∧
      changed = q.earliestChanged object := by
  unfold insert at done
  obtain ⟨_, _, done⟩ := bind_eq_ok.mp done
  obtain ⟨object, lives, done⟩ := bind_eq_ok.mp done
  obtain ⟨_, _, done⟩ := bind_eq_ok.mp done
  obtain ⟨_, _, done⟩ := bind_eq_ok.mp done
  obtain ⟨_, _, done⟩ := bind_eq_ok.mp done
  obtain ⟨rfl, rfl⟩ := Prod.mk.inj (Except.ok.inj done)
  exact ⟨object, deref_eq_ok.mp lives, rfl, rfl⟩

/-- The queue after `addTimerInLoop`. -/
def added (q : TimerQueue) (timer : Address) (object : Timer) : TimerQueue :=
  if q.earliestChanged object then (q.enqueue timer object).resetTimerfd object.expiration
  else q.enqueue timer object

/-- `addTimerInLoop` queues the timer and arms the timerfd when it is the earliest. -/
theorem addTimerInLoop_eq_ok (done : q.addTimerInLoop timer = .ok r) :
    ∃ object, q.heap timer = some object ∧ r = q.added timer object := by
  unfold addTimerInLoop at done
  obtain ⟨⟨inserted, changed⟩, insertion, done⟩ := bind_eq_ok.mp done
  obtain ⟨object, lives, rfl, rfl⟩ := insert_eq_ok insertion
  refine ⟨object, lives, ?_⟩
  dsimp only at done
  unfold added
  by_cases changed : q.earliestChanged object = true
  · rw [if_pos changed] at done ⊢
    obtain ⟨again, also, done⟩ := bind_eq_ok.mp done
    have same : object = again := Option.some.inj (lives.symm.trans (deref_eq_ok.mp also))
    subst same
    exact (Except.ok.inj done).symm
  · rw [if_neg changed] at done ⊢
    exact (Except.ok.inj done).symm

/-- The queue after a queued timer was cancelled. -/
def withdrawn (q : TimerQueue) (timerId : ActiveTimer) (object : Timer) : TimerQueue :=
  { q with
    timers := q.timers.erase { expiration := object.expiration, timer := timerId.timer }
    activeTimers := q.activeTimers.erase timerId
    heap := Function.update q.heap timerId.timer none
    log := q.log ++ [.deleted object.serial] }

/-- `cancelInLoop` deletes a queued timer, notes an id while the expired timers are called, and does
nothing else. -/
theorem cancelInLoop_eq_ok {timerId : ActiveTimer} (done : q.cancelInLoop timerId = .ok r) :
    (timerId ∈ q.activeTimers ∧ ∃ object, q.heap timerId.timer = some object ∧
        r = q.withdrawn timerId object) ∨
      ¬timerId ∈ q.activeTimers ∧ r = if q.callingExpiredTimers then
        { q with cancelingTimers := q.cancelingTimers.insert timerId } else q := by
  unfold cancelInLoop at done
  obtain ⟨_, _, done⟩ := bind_eq_ok.mp done
  obtain ⟨cancelled, branch, done⟩ := bind_eq_ok.mp done
  obtain ⟨_, _, done⟩ := bind_eq_ok.mp done
  have same : cancelled = r := Except.ok.inj done
  subst same
  by_cases active : timerId ∈ q.activeTimers
  · rw [if_pos active] at branch
    obtain ⟨object, lives, branch⟩ := bind_eq_ok.mp branch
    obtain ⟨_, _, branch⟩ := bind_eq_ok.mp branch
    obtain ⟨removed, deletion, branch⟩ := bind_eq_ok.mp branch
    obtain ⟨again, also, rfl⟩ := delete_eq_ok deletion
    have same : object = again := Option.some.inj ((deref_eq_ok.mp lives).symm.trans also)
    subst same
    exact .inl ⟨active, object, also, (Except.ok.inj branch).symm⟩
  · rw [if_neg active] at branch
    refine .inr ⟨active, ?_⟩
    by_cases calling : q.callingExpiredTimers = true
    · rw [if_pos calling] at branch ⊢
      exact (Except.ok.inj branch).symm
    · rw [if_neg calling] at branch ⊢
      exact (Except.ok.inj branch).symm

/-- The loop that takes expired timers out of `m_activeTimers` changes nothing else. -/
theorem eraseActive_eq_ok {expired : List Entry} (done : q.eraseActive expired = .ok r) :
    ∃ active, r = { q with activeTimers := active } := by
  induction expired generalizing q with
  | nil => exact ⟨q.activeTimers, (Except.ok.inj done).symm⟩
  | cons entry expired ih =>
    unfold eraseActive at done
    obtain ⟨object, _, done⟩ := bind_eq_ok.mp done
    obtain ⟨_, _, done⟩ := bind_eq_ok.mp done
    obtain ⟨active, rfl⟩ := ih done
    exact ⟨active, rfl⟩

/-- The entry below which `getExpired` looks. -/
def sentry (now : Int) : Entry := { expiration := now, timer := uintptrMax }

/-- `handleRead` up to the calls takes the entries below the sentry out of the queue. -/
theorem beginRead_eq_ok {now : Int} {expired : List Entry}
    (done : q.beginRead now = .ok (r, expired)) :
    ∃ active, expired = q.timers.below (sentry now) ∧ r = { q with
      timerfd := { q.timerfd with readable := false }
      timers := q.timers.above (sentry now)
      activeTimers := active
      callingExpiredTimers := true
      cancelingTimers := .empty } := by
  unfold beginRead at done
  obtain ⟨⟨left, found⟩, taken, done⟩ := bind_eq_ok.mp done
  unfold getExpired at taken
  obtain ⟨_, _, taken⟩ := bind_eq_ok.mp taken
  obtain ⟨_, _, taken⟩ := bind_eq_ok.mp taken
  obtain ⟨_, _, taken⟩ := bind_eq_ok.mp taken
  obtain ⟨erased, erasing, taken⟩ := bind_eq_ok.mp taken
  obtain ⟨_, _, taken⟩ := bind_eq_ok.mp taken
  obtain ⟨active, rfl⟩ := eraseActive_eq_ok erasing
  obtain ⟨rfl, rfl⟩ := Prod.mk.inj (Except.ok.inj taken)
  obtain ⟨rfl, rfl⟩ := Prod.mk.inj (Except.ok.inj done)
  exact ⟨active, rfl, rfl⟩

/-- A callback that is called. -/
theorem run_eq_ok {entry : Entry} (done : q.run entry = .ok r) :
    ∃ object, q.heap entry.timer = some object ∧
      r = { q with log := q.log ++ [.ran object.serial] } := by
  unfold run at done
  obtain ⟨object, lives, done⟩ := bind_eq_ok.mp done
  exact ⟨object, deref_eq_ok.mp lives, (Except.ok.inj done).symm⟩

/-- The queue after a timer of the batch was queued again. -/
def requeued (q : TimerQueue) (timer : Address) (object : Timer) (now : Int) : TimerQueue :=
  { q with
    heap := Function.update q.heap timer (some (object.restart now))
    log := q.log ++ [TimerEvent.restarted object.serial] : TimerQueue }.enqueue timer
      (object.restart now)

/-- `reset` queues a repeating timer again that was not cancelled, and deletes any other. -/
theorem resetEntry_eq_ok {entry : Entry} {now : Int} (done : q.resetEntry entry now = .ok r) :
    ∃ object, q.heap entry.timer = some object ∧
      if object.isRepeat ∧ ¬⟨entry.timer, object.sequence⟩ ∈ q.cancelingTimers then
        r = q.requeued entry.timer object now
      else r = q.erased entry.timer object := by
  unfold resetEntry at done
  obtain ⟨object, lives, done⟩ := bind_eq_ok.mp done
  refine ⟨object, deref_eq_ok.mp lives, ?_⟩
  by_cases again : object.isRepeat ∧ ¬⟨entry.timer, object.sequence⟩ ∈ q.cancelingTimers
  · rw [if_pos again]
    rw [if_pos (by simpa using again)] at done
    obtain ⟨⟨inserted, _⟩, insertion, done⟩ := bind_eq_ok.mp done
    obtain ⟨restarted, found, rfl, -⟩ := insert_eq_ok insertion
    have there : Function.update q.heap entry.timer (some (object.restart now)) entry.timer =
        some restarted := found
    rw [Function.update_self] at there
    have same : object.restart now = restarted := Option.some.inj there
    subst same
    exact (Except.ok.inj done).symm
  · rw [if_neg again]
    rw [if_neg (by simpa using again)] at done
    obtain ⟨other, also, rfl⟩ := delete_eq_ok done
    have same : object = other := Option.some.inj ((deref_eq_ok.mp lives).symm.trans also)
    rw [same]

/-- The end of `reset` arms the timerfd for the earliest timer if its expiration is valid. -/
theorem rearm_eq_ok (done : q.rearm = .ok r) :
    (r = q ∧ ∀ earliest object, q.timers.first = some earliest →
        q.heap earliest.timer = some object → object.expiration ≤ 0) ∨
      ∃ earliest object, q.timers.first = some earliest ∧ q.heap earliest.timer = some object ∧
        0 < object.expiration ∧ r = q.resetTimerfd object.expiration := by
  unfold rearm at done
  cases first : q.timers.first with
  | none =>
    rw [first] at done
    refine .inl ⟨(Except.ok.inj done).symm, fun earliest object found => ?_⟩
    cases found
  | some earliest =>
    rw [first] at done
    obtain ⟨nextExpire, found, done⟩ := bind_eq_ok.mp done
    obtain ⟨object, lives, same⟩ := bind_eq_ok.mp found
    have next : object.expiration = nextExpire := Except.ok.inj same
    subst next
    by_cases valid : 0 < object.expiration
    · rw [if_pos valid] at done
      exact .inr ⟨earliest, object, rfl, deref_eq_ok.mp lives, valid, (Except.ok.inj done).symm⟩
    · rw [if_neg valid] at done
      refine .inl ⟨(Except.ok.inj done).symm, fun other also here there => ?_⟩
      have one : earliest = other := Option.some.inj here
      subst one
      have two : object = also := Option.some.inj ((deref_eq_ok.mp lives).symm.trans there)
      subst two
      exact Int.not_lt.mp valid

end TimerQueue

namespace TimerSystem

/-- The outcomes of the actions. -/
inductive Move : TimerSystem → TimerAction → TimerSystem → Prop
  | create {s : TimerSystem} {timer : Address} {when : Int} {interval : Interval}
      (free : s.queue.heap timer = none) :
      Move s (.create timer when interval) { s with
        queue := s.queue.create timer when interval
        inFlight := timer :: s.inFlight }
  | add {s : TimerSystem} {timer : Address} {object : Timer} (user : s.phase.RunsCode)
      (handed : timer ∈ s.inFlight) (lives : s.queue.heap timer = some object) :
      Move s (.add timer) { s with
        queue := s.queue.added timer object
        inFlight := s.inFlight.erase timer }
  | withdraw {s : TimerSystem} {timerId : ActiveTimer} {object : Timer} (user : s.phase.RunsCode)
      (active : timerId ∈ s.queue.activeTimers)
      (lives : s.queue.heap timerId.timer = some object) :
      Move s (.cancel timerId) { s with queue := s.queue.withdrawn timerId object }
  | note {s : TimerSystem} {timerId : ActiveTimer} (user : s.phase.RunsCode)
      (absent : ¬timerId ∈ s.queue.activeTimers) (calling : s.queue.callingExpiredTimers = true) :
      Move s (.cancel timerId) { s with
        queue := { s.queue with cancelingTimers := s.queue.cancelingTimers.insert timerId } }
  | ignore {s : TimerSystem} {timerId : ActiveTimer} (user : s.phase.RunsCode)
      (absent : ¬timerId ∈ s.queue.activeTimers)
      (quiet : s.queue.callingExpiredTimers = false) : Move s (.cancel timerId) s
  | fire {s : TimerSystem} {expiration : Int} (armed : s.queue.timerfd.armed = some expiration) :
      Move s .fire
        { s with queue := { s.queue with timerfd := { armed := none, readable := true } } }
  | handleRead {s : TimerSystem} {now : Int} {active : OrderedSet ActiveTimer}
      (idle : s.phase = .idle) :
      Move s (.handleRead now) { s with
        queue := { s.queue with
          timerfd := { s.queue.timerfd with readable := false }
          timers := s.queue.timers.above (TimerQueue.sentry now)
          activeTimers := active
          callingExpiredTimers := true
          cancelingTimers := .empty }
        phase := .calling now (s.queue.timers.below (TimerQueue.sentry now))
          (s.queue.timers.below (TimerQueue.sentry now)) }
  | call {s : TimerSystem} {now : Int} {expired rest : List Entry} {entry : Entry}
      {object : Timer} (calling : s.phase = .calling now expired (entry :: rest))
      (lives : s.queue.heap entry.timer = some object) :
      Move s .call { s with
        queue := { s.queue with log := s.queue.log ++ [.ran object.serial] }
        phase := .callback now expired rest }
  | return {s : TimerSystem} {now : Int} {expired rest : List Entry}
      (running : s.phase = .callback now expired rest) :
      Move s .return { s with phase := .calling now expired rest }
  | called {s : TimerSystem} {now : Int} {expired : List Entry}
      (ended : s.phase = .calling now expired []) :
      Move s .called { s with
        queue := { s.queue with callingExpiredTimers := false }
        phase := .resetting now expired }
  | restart {s : TimerSystem} {now : Int} {entry : Entry} {rest : List Entry} {object : Timer}
      (resetting : s.phase = .resetting now (entry :: rest))
      (lives : s.queue.heap entry.timer = some object) (repeats : object.isRepeat = true)
      (kept : ¬⟨entry.timer, object.sequence⟩ ∈ s.queue.cancelingTimers) :
      Move s .reset { s with
        queue := s.queue.requeued entry.timer object now
        phase := .resetting now rest }
  | delete {s : TimerSystem} {now : Int} {entry : Entry} {rest : List Entry} {object : Timer}
      (resetting : s.phase = .resetting now (entry :: rest))
      (lives : s.queue.heap entry.timer = some object)
      (ends : ¬(object.isRepeat = true ∧
        ¬⟨entry.timer, object.sequence⟩ ∈ s.queue.cancelingTimers)) :
      Move s .reset { s with
        queue := s.queue.erased entry.timer object
        phase := .resetting now rest }
  | arm {s : TimerSystem} {now : Int} {earliest : Entry} {object : Timer}
      (ended : s.phase = .resetting now []) (first : s.queue.timers.first = some earliest)
      (lives : s.queue.heap earliest.timer = some object) (valid : 0 < object.expiration) :
      Move s .rearm { s with
        queue := s.queue.resetTimerfd object.expiration
        phase := .idle }
  | leave {s : TimerSystem} {now : Int} (ended : s.phase = .resetting now [])
      (invalid : ∀ earliest object, s.queue.timers.first = some earliest →
        s.queue.heap earliest.timer = some object → object.expiration ≤ 0) :
      Move s .rearm { s with phase := .idle }

/-- An action that does not stop the program is one of these moves. -/
theorem Attempt.move {s after : TimerSystem} {action : TimerAction}
    {result : Except Fault TimerSystem} (attempt : Attempt s action result)
    (done : result = .ok after) : Move s action after := by
  cases attempt with
  | create free =>
    obtain rfl := Except.ok.inj done
    exact .create free
  | add user handed =>
    obtain ⟨added, addition, done⟩ := bind_eq_ok.mp done
    obtain ⟨object, lives, rfl⟩ := TimerQueue.addTimerInLoop_eq_ok addition
    obtain rfl := Except.ok.inj done
    exact .add user handed lives
  | cancel user =>
    obtain ⟨cancelled, cancellation, done⟩ := bind_eq_ok.mp done
    obtain rfl := Except.ok.inj done
    rcases TimerQueue.cancelInLoop_eq_ok cancellation with
      ⟨active, object, lives, rfl⟩ | ⟨absent, rfl⟩
    · exact .withdraw user active lives
    · by_cases calling : s.queue.callingExpiredTimers = true
      · rw [if_pos calling]
        exact .note user absent calling
      · rw [if_neg calling]
        exact .ignore user absent (Bool.eq_false_iff.mpr calling)
  | fire armed =>
    obtain rfl := Except.ok.inj done
    exact .fire armed
  | handleRead idle =>
    obtain ⟨⟨left, expired⟩, reading, done⟩ := bind_eq_ok.mp done
    obtain ⟨active, rfl, rfl⟩ := TimerQueue.beginRead_eq_ok reading
    obtain rfl := Except.ok.inj done
    exact .handleRead idle
  | @handleReadPastEnd now idle empty =>
    obtain rfl := Except.ok.inj done
    have none : s.queue.timers.below (TimerQueue.sentry now) = [] := by
      rw [OrderedSet.below, empty]
      rfl
    have move := @Move.handleRead s now s.queue.activeTimers idle
    rw [none, OrderedSet.above_of_empty empty] at move
    exact move
  | call calling =>
    obtain ⟨ran, running, done⟩ := bind_eq_ok.mp done
    obtain ⟨object, lives, rfl⟩ := TimerQueue.run_eq_ok running
    obtain rfl := Except.ok.inj done
    exact .call calling lives
  | «return» running =>
    obtain rfl := Except.ok.inj done
    exact .return running
  | called ended =>
    obtain rfl := Except.ok.inj done
    exact .called ended
  | reset resetting =>
    obtain ⟨left, reset, done⟩ := bind_eq_ok.mp done
    obtain ⟨object, lives, outcome⟩ := TimerQueue.resetEntry_eq_ok reset
    obtain rfl := Except.ok.inj done
    split at outcome
    · next again =>
      subst outcome
      exact .restart resetting lives again.1 again.2
    · next ends =>
      subst outcome
      exact .delete resetting lives ends
  | rearm ended =>
    obtain ⟨armed, arming, done⟩ := bind_eq_ok.mp done
    obtain rfl := Except.ok.inj done
    rcases TimerQueue.rearm_eq_ok arming with
      ⟨rfl, invalid⟩ | ⟨earliest, object, first, lives, valid, rfl⟩
    · exact .leave ended invalid
    · exact .arm ended first lives valid

/-- An attempt whose result is known is a step. -/
theorem Attempt.step {s after : TimerSystem} {action : TimerAction}
    {result : Except Fault TimerSystem} (attempt : Attempt s action result)
    (done : result = .ok after) : Step s action after := by
  unfold Step
  rw [← done]
  exact attempt

/-- Every step is one of these moves. -/
theorem Step.move {before after : TimerSystem} {action : TimerAction}
    (step : Step before action after) : Move before action after :=
  Attempt.move step rfl

end TimerSystem

end Muduo
