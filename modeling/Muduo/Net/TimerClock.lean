import Muduo.Net.TimerMoves

/-!
# The timerfd and the clock

`resetTimerfd` arms the one-shot timerfd for a time from now, which it computes from the expiration
and a reading of the clock. The states of the timer queue are extended here with the clock, the
time at which the timerfd fires and the time of the last `resetTimerfd`. The timerfd is armed by
`addTimerInLoop` when the earliest timer changes, and at the end of `reset` when the earliest timer
has a valid expiration.
-/

open Outcome Transition

namespace Muduo

/-- The microseconds of `howMuchTimeFromNow(when)`, at a reading of the clock. -/
def howMuchTimeFromNow (now when : Int) : Int :=
  let microseconds := Int.bmod (when - now) (2 ^ 64)
  if microseconds < 100 then 100 else microseconds

/-- When the difference fits a word, the timerfd fires at the expiration or after 100 microseconds,
whatever is later. -/
theorem howMuchTimeFromNow_le {now when : Int} (fits : now - 2 ^ 63 ≤ when) :
    now + howMuchTimeFromNow now when ≤ max when (now + 100) := by
  unfold howMuchTimeFromNow Int.bmod
  dsimp only
  split <;> omega

/-- The expiration for which an action calls `resetTimerfd`. -/
def TimerQueue.arms (q : TimerQueue) : TimerAction → Option Int
  | .add timer => (q.heap timer).bind fun object =>
      if q.earliestChanged object then some object.expiration else none
  | .rearm => q.timers.first.bind fun earliest => (q.heap earliest.timer).bind fun object =>
      if 0 < object.expiration then some object.expiration else none
  | .create _ _ _ | .cancel _ | .fire | .handleRead _ | .call | .return | .called | .reset => none

/-- The timer queue with the clock. -/
structure TimerClock where
  /-- The timer queue. -/
  system : TimerSystem
  /-- `Timestamp::now()`. -/
  now : Int
  /-- The time at which the timerfd fires, if it is armed. -/
  deadline : Option Int
  /-- The time of the last `resetTimerfd`. -/
  lastReset : Int

/-- What happens next. -/
inductive ClockAction
  /-- Time passes. -/
  | tick (later : Int)
  /-- The timer queue does something. -/
  | act (action : TimerAction)
  deriving DecidableEq, Repr

namespace TimerClock

/-- A new queue at a time. -/
def new (now : Int) : TimerClock := { system := .new, now, deadline := none, lastReset := now }

/-- What the clock and the timerfd allow: the timerfd fires when it is time, `handleRead` reads the
clock, and a positive interval is not negative in microseconds. -/
def Allows (s : TimerClock) : TimerAction → Prop
  | .fire => ∃ deadline, s.deadline = some deadline ∧ deadline ≤ s.now
  | .handleRead now => now = s.now
  | .create _ _ interval => interval.positive = true → 0 ≤ interval.microSeconds
  | .add _ | .cancel _ | .call | .return | .called | .reset | .rearm => True

/-- The time at which the timerfd fires after an action. -/
def deadlineAfter (s : TimerClock) (action : TimerAction) : Option Int :=
  match s.system.queue.arms action with
  | some expiration => some (s.now + howMuchTimeFromNow s.now expiration)
  | none => if action = .fire then none else s.deadline

/-- The time of the last `resetTimerfd` after an action. -/
def lastResetAfter (s : TimerClock) (action : TimerAction) : Int :=
  if (s.system.queue.arms action).isSome then s.now else s.lastReset

/-- The state after an action. -/
def after (s : TimerClock) (action : TimerAction) (system : TimerSystem) : TimerClock :=
  { s with
    system
    deadline := s.deadlineAfter action
    lastReset := s.lastResetAfter action }

/-- One step. The clock does not go back. -/
inductive Step : TimerClock → ClockAction → TimerClock → Prop
  | tick {s : TimerClock} {later : Int} (forward : s.now ≤ later) (word : later < 2 ^ 63) :
      Step s (.tick later) { s with now := later }
  | act {s : TimerClock} {action : TimerAction} {system : TimerSystem} (allowed : s.Allows action)
      (step : TimerSystem.Step s.system action system) :
      Step s (.act action) (s.after action system)

/-- The addition of an interval to the time of a call does not overflow. -/
def NoOverflow (s : TimerClock) (action : ClockAction) : Prop :=
  action = .act .reset → ∀ time entry rest object,
    s.system.phase = .resetting time (entry :: rest) →
      s.system.queue.heap entry.timer = some object → object.isRepeat = true →
      time + object.interval.microSeconds < 2 ^ 63

/-- The difference between the expiration for which the timerfd is armed and the clock does not
overflow. -/
def Representable (s : TimerClock) (action : ClockAction) : Prop :=
  ∀ timer expiration, action = .act (.add timer) →
    s.system.queue.arms (.add timer) = some expiration → s.now - 2 ^ 63 ≤ expiration

/-- The timerfd has fired and is not read, or fires in time for the earliest timer. -/
def InTime (s : TimerClock) (earliest : Entry) : Prop :=
  s.system.queue.timerfd.readable = true ∨
    ∃ deadline, s.deadline = some deadline ∧
      deadline ≤ max earliest.expiration (s.lastReset + 100)

/-- The timerfd is in time for the earliest timer: outside `handleRead` for any, and inside it for
one that `reset` will not arm the timerfd for. -/
def Timely (s : TimerClock) : Prop :=
  ∀ earliest, s.system.queue.timers.first = some earliest →
    s.system.phase = .idle ∨ earliest.expiration ≤ 0 → s.InTime earliest

/-- The reading of the clock with which `handleRead` started, if it is running, is positive. -/
def PositiveReading : TimerPhase → Prop
  | .idle => True
  | .calling time _ _ | .callback time _ _ | .resetting time _ => 0 < time

/-- The intervals of repeating timers are not negative. -/
def Forward (heap : TimerHeap) : Prop :=
  ∀ a object, heap a = some object → object.isRepeat = true → 0 ≤ object.interval.microSeconds

/-- What holds in every state. -/
structure Watched (s : TimerClock) : Prop where
  /-- The clock is positive and a word. -/
  clock : 0 < s.now ∧ s.now < 2 ^ 63
  /-- So was the reading of the current `handleRead`. -/
  reading : PositiveReading s.system.phase
  /-- Intervals are not negative. -/
  forward : Forward s.system.queue.heap
  /-- The timerfd is in time. -/
  timely : s.Timely

/-- A later entry expires later. -/
theorem expiration_le {a b : Entry} (order : a ≤ b) : a.expiration ≤ b.expiration := by
  by_contra later
  exact absurd (Entry.lt_iff.mpr (.inl (not_le.mp later))) (not_lt.mpr order)

/-- In time for one entry is in time for a later one. -/
theorem InTime.later {s : TimerClock} {first other : Entry} (inTime : s.InTime first)
    (later : first.expiration ≤ other.expiration) : s.InTime other := by
  rcases inTime with readable | ⟨deadline, armed, bound⟩
  · exact .inl readable
  · exact .inr ⟨deadline, armed, bound.trans (max_le_max later (Int.le_refl _))⟩

/-- An action that does not call `resetTimerfd`, other than a firing, leaves the timerfd armed as it
is. -/
theorem deadlineAfter_of_none {s : TimerClock} {action : TimerAction}
    (silent : s.system.queue.arms action = none) (other : action ≠ .fire) :
    s.deadlineAfter action = s.deadline ∧ s.lastResetAfter action = s.lastReset := by
  unfold deadlineAfter lastResetAfter
  rw [silent]
  exact ⟨if_neg other, rfl⟩

/-- An action that calls `resetTimerfd`. -/
theorem deadlineAfter_of_some {s : TimerClock} {action : TimerAction} {expiration : Int}
    (arms : s.system.queue.arms action = some expiration) :
    s.deadlineAfter action = some (s.now + howMuchTimeFromNow s.now expiration) ∧
      s.lastResetAfter action = s.now := by
  unfold deadlineAfter lastResetAfter
  rw [arms]
  exact ⟨rfl, rfl⟩

/-- An action arms the timerfd of the queue when `arms` says so, for that expiration; a firing
disarms it, and any other action leaves it armed as it is. -/
theorem armed_after {s system : TimerSystem} {action : TimerAction}
    (move : TimerSystem.Move s action system) :
    system.queue.timerfd.armed = match s.queue.arms action with
      | some expiration => some expiration
      | none => if action = .fire then none else s.queue.timerfd.armed := by
  cases move with
  | @add timer object _ _ lives =>
    by_cases changed : s.queue.earliestChanged object = true
    · have arms : s.queue.arms (.add timer) = some object.expiration := by
        simp [TimerQueue.arms, lives, changed]
      rw [arms, TimerQueue.added, if_pos changed]
      rfl
    · have arms : s.queue.arms (.add timer) = none := by
        simp [TimerQueue.arms, lives, changed]
      rw [arms, TimerQueue.added, if_neg changed]
      rfl
  | @arm now earliest object _ first lives valid =>
    have arms : s.queue.arms .rearm = some object.expiration := by
      simp [TimerQueue.arms, first, lives, valid]
    rw [arms]
    rfl
  | leave _ invalid =>
    have arms : s.queue.arms .rearm = none := by
      cases first : s.queue.timers.first with
      | none => simp [TimerQueue.arms, first]
      | some earliest =>
        cases lives : s.queue.heap earliest.timer with
        | none => simp [TimerQueue.arms, first, lives]
        | some object => simp [TimerQueue.arms, first, lives, invalid earliest object first lives]
    rw [arms]
    rfl
  | _ => rfl

/-- The deadline belongs to the timerfd of the queue: there is one when the timerfd is armed, and it
is the time that the last `resetTimerfd` computed from the expiration. -/
def Scheduled (s : TimerClock) : Prop :=
  s.deadline = s.system.queue.timerfd.armed.map fun expiration =>
    s.lastReset + howMuchTimeFromNow s.lastReset expiration

/-- Every step keeps the deadline with the timerfd of the queue. -/
theorem Step.scheduled {before after : TimerClock} {action : ClockAction}
    (step : Step before action after) (armed : before.Scheduled) : after.Scheduled := by
  cases step with
  | tick => exact armed
  | @act action system _ step =>
    show before.deadlineAfter action = system.queue.timerfd.armed.map fun expiration =>
      before.lastResetAfter action + howMuchTimeFromNow (before.lastResetAfter action) expiration
    rw [armed_after step.move]
    cases arms : before.system.queue.arms action with
    | some expiration =>
      obtain ⟨deadline, reset⟩ := deadlineAfter_of_some arms
      rw [deadline, reset]
      rfl
    | none =>
      by_cases fires : action = .fire
      · rw [deadlineAfter, arms]
        simp [fires]
      · obtain ⟨deadline, reset⟩ := deadlineAfter_of_none arms fires
        rw [deadline, reset, armed]
        simp [fires]

/-- In every run the deadline belongs to the timerfd of the queue. -/
theorem scheduled_of_run {start : Int} {actions : List ClockAction} {s : TimerClock}
    (run : Run Step (new start) actions s) : s.Scheduled :=
  run.invariant rfl fun _ _ _ armed step => step.scheduled armed

/-- An action that leaves the timerfd alone. -/
theorem InTime.after {s : TimerClock} {earliest : Entry} {action : TimerAction}
    {system : TimerSystem} (inTime : s.InTime earliest)
    (silent : s.system.queue.arms action = none) (other : action ≠ .fire)
    (readable : system.queue.timerfd.readable = s.system.queue.timerfd.readable) :
    (s.after action system).InTime earliest := by
  obtain ⟨deadline, reset⟩ := deadlineAfter_of_none silent other
  unfold InTime at inTime ⊢
  show system.queue.timerfd.readable = true ∨ ∃ d, s.deadlineAfter action = some d ∧
    d ≤ max earliest.expiration (s.lastResetAfter action + 100)
  rw [readable, deadline, reset]
  exact inTime

/-- An action that leaves the timerfd alone, and after which no timer that has to be watched is
earlier than the earliest before. -/
theorem Watched.keep {s : TimerClock} {action : TimerAction} {system : TimerSystem}
    (watched : s.Watched) (silent : s.system.queue.arms action = none) (other : action ≠ .fire)
    (readable : system.queue.timerfd.readable = s.system.queue.timerfd.readable)
    (idle : system.phase = .idle → s.system.phase = .idle)
    (later : ∀ x ∈ system.queue.timers, system.phase = .idle ∨ x.expiration ≤ 0 →
      ∃ old ∈ s.system.queue.timers, old.expiration ≤ x.expiration) :
    (s.after action system).Timely := by
  intro earliest first premise
  have member := (OrderedSet.first_least first).1
  obtain ⟨old, queued, order⟩ := later earliest member premise
  obtain ⟨before, leads, least⟩ := OrderedSet.exists_first queued
  have earlier : before.expiration ≤ earliest.expiration := (expiration_le least).trans order
  have inTime : s.InTime before := by
    refine watched.timely before leads (premise.imp idle fun negative => ?_)
    exact earlier.trans negative
  exact (inTime.later earlier).after silent other readable

/-- An action that arms the timerfd for the earliest timer. -/
theorem timely_of_arms {s : TimerClock} {action : TimerAction} {system : TimerSystem}
    {expiration : Int} (arms : s.system.queue.arms action = some expiration)
    (fits : s.now - 2 ^ 63 ≤ expiration)
    (same : ∀ earliest, system.queue.timers.first = some earliest →
      earliest.expiration = expiration) :
    (s.after action system).Timely := by
  intro earliest first _
  obtain ⟨deadline, reset⟩ := deadlineAfter_of_some arms
  refine .inr ⟨_, deadline, ?_⟩
  show _ ≤ max earliest.expiration (s.lastResetAfter action + 100)
  rw [reset, same earliest first]
  exact howMuchTimeFromNow_le fits

/-- Deletions keep the intervals. -/
theorem Forward.delete {heap : TimerHeap} (forward : Forward heap) (timer : Address) :
    Forward (Function.update heap timer none) := by
  intro a object found
  by_cases here : a = timer
  · rw [here, Function.update_self] at found
    cases found
  · rw [Function.update_of_ne here] at found
    exact forward a object found

/-- A timer with an interval that is not negative keeps the intervals. -/
theorem Forward.update {heap : TimerHeap} (forward : Forward heap) {timer : Address}
    {object : Timer} (positive : object.isRepeat = true → 0 ≤ object.interval.microSeconds) :
    Forward (Function.update heap timer (some object)) := by
  intro a other found
  by_cases here : a = timer
  · rw [here, Function.update_self] at found
    obtain rfl := Option.some.inj found
    exact positive
  · rw [Function.update_of_ne here] at found
    exact forward a other found

/-- Every action keeps the intervals. -/
theorem Watched.forward_after {s : TimerClock} {action : TimerAction} {system : TimerSystem}
    (watched : s.Watched) (allowed : s.Allows action)
    (move : TimerSystem.Move s.system action system) : Forward system.queue.heap := by
  have forward := watched.forward
  cases move with
  | create => exact forward.update allowed
  | add =>
    unfold TimerQueue.added
    split <;> exact forward
  | withdraw => exact forward.delete _
  | @restart time entry rest object _ lives =>
    have kept := forward _ _ lives
    apply forward.update
    unfold Timer.restart
    split <;> exact kept
  | delete => exact forward.delete _
  | _ => exact forward

/-- Every action keeps the reading of `handleRead` positive. -/
theorem Watched.reading_after {s : TimerClock} {action : TimerAction} {system : TimerSystem}
    (watched : s.Watched) (allowed : s.Allows action)
    (move : TimerSystem.Move s.system action system) : PositiveReading system.phase := by
  have reading := watched.reading
  cases move with
  | handleRead =>
    obtain rfl : _ = s.now := allowed
    exact watched.clock.1
  | call calling => rw [calling] at reading; exact reading
  | «return» running => rw [running] at reading; exact reading
  | called ended => rw [ended] at reading; exact reading
  | restart resetting => rw [resetting] at reading; exact reading
  | delete resetting => rw [resetting] at reading; exact reading
  | arm => trivial
  | leave => trivial
  | _ => exact reading

/-- The earliest timer did not change: there is one that is as early. -/
theorem earliest_of_not_changed {q : TimerQueue} {object : Timer}
    (same : q.earliestChanged object = false) :
    ∃ old ∈ q.timers, old.expiration ≤ object.expiration := by
  unfold TimerQueue.earliestChanged at same
  cases first : q.timers.first with
  | none =>
    rw [first] at same
    cases same
  | some earliest =>
    rw [first] at same
    exact ⟨earliest, (OrderedSet.first_least first).1, not_lt.mp (of_decide_eq_false same)⟩

/-- The earliest timer changed: the new one is the only one as early. -/
theorem earliest_of_changed {q : TimerQueue} {object : Timer} {timer : Address}
    (changed : q.earliestChanged object = true) {earliest : Entry}
    (first : (q.timers.insert ⟨object.expiration, timer⟩).first = some earliest) :
    earliest.expiration = object.expiration := by
  obtain ⟨member, least⟩ := OrderedSet.first_least first
  rcases OrderedSet.mem_insert.mp member with new | old
  · rw [new]
  · obtain ⟨before, leads, order⟩ := OrderedSet.exists_first old
    unfold TimerQueue.earliestChanged at changed
    rw [leads] at changed
    have later := of_decide_eq_true changed
    have earlier := expiration_le (least _ (OrderedSet.mem_insert.mpr (.inl rfl)))
    have between := expiration_le order
    dsimp only at earlier
    omega

/-- `addTimerInLoop` keeps the timerfd in time. -/
theorem Watched.add {s : TimerClock} {timer : Address} {object : Timer} {inFlight : List Address}
    (watched : s.Watched) (representable : s.Representable (.act (.add timer)))
    (lives : s.system.queue.heap timer = some object) :
    (s.after (.add timer) { s.system with
      queue := s.system.queue.added timer object, inFlight }).Timely := by
  have timers : (s.system.queue.added timer object).timers =
      s.system.queue.timers.insert ⟨object.expiration, timer⟩ := by
    unfold TimerQueue.added
    split <;> rfl
  by_cases changed : s.system.queue.earliestChanged object = true
  · have arms : s.system.queue.arms (.add timer) = some object.expiration := by
      simp [TimerQueue.arms, lives, changed]
    refine timely_of_arms arms (representable timer _ rfl arms) fun earliest first => ?_
    rw [timers] at first
    exact earliest_of_changed changed first
  · have arms : s.system.queue.arms (.add timer) = none := by
      simp [TimerQueue.arms, lives, changed]
    refine watched.keep arms (by simp) ?_ id fun x member _ => ?_
    · unfold TimerQueue.added
      rw [if_neg changed]
      rfl
    · rw [timers] at member
      rcases OrderedSet.mem_insert.mp member with new | old
      · obtain ⟨other, queued, order⟩ := earliest_of_not_changed (Bool.eq_false_iff.mpr changed)
        refine ⟨other, queued, ?_⟩
        rw [new]
        exact order
      · exact ⟨x, old, Int.le_refl _⟩

/-- A repeating timer is queued again at a positive time. -/
theorem restart_positive {time : Int} {object : Timer} (positive : 0 < time)
    (forward : 0 ≤ object.interval.microSeconds)
    (fits : time + object.interval.microSeconds < 2 ^ 63) (repeats : object.isRepeat = true) :
    0 < (object.restart time).expiration := by
  rw [Timer.restart, if_pos repeats]
  show 0 < Int.bmod (time + object.interval.microSeconds) (2 ^ 64)
  unfold Int.bmod
  dsimp only
  split <;> omega

/-- Every action keeps the timerfd in time. -/
theorem Watched.timely_after {s : TimerClock} {action : TimerAction} {system : TimerSystem}
    (watched : s.Watched) (sound : s.system.Sound) (allowed : s.Allows action)
    (bounded : s.NoOverflow (.act action)) (representable : s.Representable (.act action))
    (move : TimerSystem.Move s.system action system) : (s.after action system).Timely := by
  have same : ∀ x ∈ s.system.queue.timers, ∃ old ∈ s.system.queue.timers,
      old.expiration ≤ x.expiration := fun x member => ⟨x, member, Int.le_refl _⟩
  cases move with
  | create => exact watched.keep rfl (by simp) rfl id fun x member _ => same x member
  | add _ _ lives => exact watched.add representable lives
  | withdraw =>
    exact watched.keep rfl (by simp) rfl id
      fun x member _ => same x (OrderedSet.mem_erase.mp member).1
  | note => exact watched.keep rfl (by simp) rfl id fun x member _ => same x member
  | ignore => exact watched.keep rfl (by simp) rfl id fun x member _ => same x member
  | fire => exact fun _ _ _ => .inl rfl
  | @handleRead now =>
    obtain rfl : now = s.now := allowed
    intro earliest first premise
    have above := OrderedSet.le_of_mem_above (OrderedSet.first_least first).1
    have later := expiration_le above
    have clock := watched.clock.1
    rcases premise with idle | negative
    · cases idle
    · dsimp only [TimerQueue.sentry] at later
      omega
  | call calling =>
    exact watched.keep rfl (by simp) rfl (fun idle => by cases idle) fun x member _ => same x member
  | «return» =>
    exact watched.keep rfl (by simp) rfl (fun idle => by cases idle) fun x member _ => same x member
  | called =>
    exact watched.keep rfl (by simp) rfl (fun idle => by cases idle) fun x member _ => same x member
  | @restart time entry rest object resetting lives repeats =>
    have reading := watched.reading
    rw [resetting] at reading
    have positive := restart_positive reading (watched.forward _ _ lives repeats)
      (bounded rfl time entry rest object resetting lives repeats) repeats
    refine watched.keep rfl (by simp) rfl (fun idle => by cases idle) fun x member premise => ?_
    rcases OrderedSet.mem_insert.mp member with new | old
    · rw [new] at premise
      rcases premise with idle | negative
      · cases idle
      · dsimp only at negative
        omega
    · exact same x old
  | delete =>
    exact watched.keep rfl (by simp) rfl (fun idle => by cases idle) fun x member _ => same x member
  | @arm time earliest object _ first lives valid =>
    have arms : s.system.queue.arms .rearm = some object.expiration := by
      simp [TimerQueue.arms, first, lives, valid]
    have clock := watched.clock
    refine timely_of_arms arms (by omega) fun other leads => ?_
    obtain rfl : earliest = other := Option.some.inj (first.symm.trans leads)
    obtain ⟨found, located, expiration, -⟩ :=
      sound.queue.linked.entry earliest (OrderedSet.first_least first).1
    obtain rfl := Option.some.inj (lives.symm.trans located)
    exact expiration.symm
  | leave ended invalid =>
    intro earliest first _
    change s.system.queue.timers.first = some earliest at first
    obtain ⟨object, lives, expiration, -⟩ :=
      sound.queue.linked.entry earliest (OrderedSet.first_least first).1
    have negative := invalid earliest object first lives
    have arms : s.system.queue.arms .rearm = none := by
      simp [TimerQueue.arms, first, lives, negative]
    rw [expiration] at negative
    exact (watched.timely earliest first (.inr negative)).after arms (by simp) rfl

/-- Every step keeps what holds in every state. -/
theorem Step.watched {before after : TimerClock} {action : ClockAction}
    (step : Step before action after) (bounded : before.NoOverflow action)
    (representable : before.Representable action) (sound : before.system.Sound)
    (watched : before.Watched) : after.Watched ∧ after.system.Sound := by
  cases step with
  | tick forward word =>
    exact ⟨⟨⟨watched.clock.1.trans_le forward, word⟩, watched.reading, watched.forward,
      watched.timely⟩, sound⟩
  | act allowed step =>
    exact ⟨⟨watched.clock, watched.reading_after allowed step.move,
      watched.forward_after allowed step.move,
      watched.timely_after sound allowed bounded representable step.move⟩,
      (step.sound sound).of_ok rfl⟩

/-- In every run in which interval additions do not overflow, and in which the difference between
the clock and the expiration for which `addTimerInLoop` arms the timerfd fits a word: between two
tasks of the loop thread, when `m_timers` is not empty, the timerfd has fired and is not read, or is
armed for no later than the earliest expiration or 100 microseconds after the last `resetTimerfd`,
whatever is later. -/
theorem no_timer_forgotten (start : Int) (actions : List ClockAction) (s : TimerClock)
    (clock : 0 < start ∧ start < 2 ^ 63)
    (run : Run (Guarded (Guarded Step NoOverflow) Representable) (new start) actions s)
    (between : s.system.phase = .idle) (earliest : Entry)
    (first : s.system.queue.timers.first = some earliest) : s.InTime earliest := by
  have begins : (new start).Watched ∧ (new start).system.Sound := by
    refine ⟨⟨clock, trivial, fun _ _ found => ?_, fun _ found => ?_⟩, TimerSystem.new_sound⟩
    · cases found
    · cases found
  have keeps : ∀ before action after, before.Watched ∧ before.system.Sound →
      Guarded (Guarded Step NoOverflow) Representable before action after →
      after.Watched ∧ after.system.Sound := by
    intro before action after holds taken
    exact taken.1.1.watched taken.1.2 taken.2 holds.2 holds.1
  exact (run.invariant begins keeps).1.timely earliest first (.inl between)

/-- A timer with a past expiration is added. -/
theorem no_timer_forgotten_past :
    ∃ s, Run (Guarded (Guarded Step NoOverflow) Representable) (new 10)
        [.act (.create 8 5 ⟨false, 0⟩), .act (.add 8)] s ∧
      s.system.phase = .idle ∧ s.deadline = some 110 ∧ s.InTime ⟨5, 8⟩ := by
  have reached : ∃ s, Run (Guarded (Guarded Step NoOverflow) Representable) (new 10)
        [.act (.create 8 5 ⟨false, 0⟩), .act (.add 8)] s ∧
      s.system.phase = .idle ∧ s.deadline = some 110 ∧
      s.system.queue.timers.first = some ⟨5, 8⟩ := by
    refine ⟨_, .cons ⟨⟨.act (by simp [Allows]) (.create rfl (by decide)), by simp [NoOverflow]⟩,
      by simp [Representable]⟩ (.cons ⟨⟨.act trivial (.add trivial List.mem_cons_self),
        by simp [NoOverflow]⟩, ?_⟩ (.nil _)), rfl, rfl, rfl⟩
    intro timer expiration same arms
    cases same
    have value : (5 : Int) = expiration := Option.some.inj arms
    rw [← value]
    decide
  obtain ⟨s, run, idle, deadline, first⟩ := reached
  exact ⟨s, run, idle, deadline,
    no_timer_forgotten 10 _ s (by decide) run idle ⟨5, 8⟩ first⟩

/-- A timer is added whose expiration is the least `int64_t`: the difference to the clock overflows,
and the timerfd is armed for a time that never comes. -/
theorem timer_forgotten_at_overflow :
    ¬∀ (start : Int) (actions : List ClockAction) (s : TimerClock), 0 < start ∧ start < 2 ^ 63 →
      Run (Guarded Step NoOverflow) (new start) actions s → s.system.phase = .idle →
        ∀ earliest, s.system.queue.timers.first = some earliest → s.InTime earliest := by
  intro inTime
  have reached : ∃ s, Run (Guarded Step NoOverflow) (new 1)
        [.act (.create 8 (-2 ^ 63) ⟨false, 0⟩), .act (.add 8)] s ∧
      s.system.phase = .idle ∧ s.system.queue.timers.first = some ⟨-2 ^ 63, 8⟩ ∧
      s.system.queue.timerfd.readable = false ∧ s.deadline = some (2 ^ 63) ∧ s.lastReset = 1 :=
    ⟨_, .cons ⟨.act (by simp [Allows]) (.create rfl (by decide)), by simp [NoOverflow]⟩
      (.cons ⟨.act trivial (.add trivial List.mem_cons_self), by simp [NoOverflow]⟩ (.nil _)),
      rfl, rfl, rfl, rfl, rfl⟩
  obtain ⟨s, run, idle, first, unread, armed, reset⟩ := reached
  rcases inTime 1 _ s (by decide) run idle _ first with readable | ⟨deadline, same, bound⟩
  · rw [unread] at readable
    cases readable
  · obtain rfl : 2 ^ 63 = deadline := Option.some.inj (armed.symm.trans same)
    rw [reset] at bound
    exact absurd bound (by decide)

end TimerClock

end Muduo
