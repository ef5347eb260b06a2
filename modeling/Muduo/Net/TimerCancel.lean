import Muduo.Net.TimerMoves

/-!
# What a cancellation ends

The id of a timer is its address with the number of its creation, as `addTimer` returned it.
`cancelInLoop` deletes a timer that is queued, and marks one of the expired batch so that `reset`
deletes it. A timer of the batch whose callback is still to be called is called all the same, and
a timer whose `addTimerInLoop` has not run is not known to the queue.
-/

open Outcome Transition

namespace Muduo

/-- The creations among these actions: where the timer lives, and its interval. -/
def creations (actions : List TimerAction) : List (Address × Interval) :=
  actions.filterMap fun action =>
    match action with
    | .create timer _ interval => some (timer, interval)
    | _ => none

/-- An action adds a creation or none. -/
theorem creations_append (actions : List TimerAction) (action : TimerAction) :
    creations (actions ++ [action]) = creations actions ++ creations [action] :=
  List.filterMap_append

/-- The id that `addTimer` returned for the timer with this number, counted from zero. -/
def IsTimerId (actions : List TimerAction) (timerId : ActiveTimer) (index : Nat) : Prop :=
  (∃ interval, (creations actions)[index]? = some (timerId.timer, interval)) ∧
    timerId.sequence = Int.bmod (index + 1 : Nat) (2 ^ 64)

namespace TimerSystem

/-- The timers that live are those of the creations. -/
structure Recorded (actions : List TimerAction) (s : TimerSystem) : Prop where
  /-- The creations are counted. -/
  count : s.queue.numCreated = (creations actions).length
  /-- A live timer is where it was created, with the interval and the number of its creation. -/
  lives : ∀ a object, s.queue.heap a = some object → ∃ index, object.serial = index + 1 ∧
    (creations actions)[index]? = some (a, object.interval) ∧
    object.sequence = Int.bmod (index + 1 : Nat) (2 ^ 64)

/-- Nothing has been created. -/
theorem new_recorded : Recorded [] new where
  count := rfl
  lives _ _ found := by cases found

/-- An action that creates nothing and leaves live timers their data. -/
theorem Recorded.keep {actions : List TimerAction} {action : TimerAction}
    {before after : TimerSystem} (recorded : Recorded actions before)
    (other : creations [action] = []) (count : after.queue.numCreated = before.queue.numCreated)
    (lives : ∀ a object, after.queue.heap a = some object → ∃ old,
      before.queue.heap a = some old ∧ old.serial = object.serial ∧
        old.interval = object.interval ∧ old.sequence = object.sequence) :
    Recorded (actions ++ [action]) after := by
  have same : creations (actions ++ [action]) = creations actions := by
    rw [creations_append, other, List.append_nil]
  constructor
  · rw [same, count]
    exact recorded.count
  · intro a object found
    obtain ⟨old, located, serial, interval, sequence⟩ := lives a object found
    rw [same, ← serial, ← interval, ← sequence]
    exact recorded.lives a old located

/-- An action that creates nothing and leaves the heap alone. -/
theorem Recorded.same {actions : List TimerAction} {action : TimerAction}
    {before after : TimerSystem} (recorded : Recorded actions before)
    (other : creations [action] = []) (count : after.queue.numCreated = before.queue.numCreated)
    (heap : after.queue.heap = before.queue.heap) : Recorded (actions ++ [action]) after := by
  refine recorded.keep other count fun a object found => ?_
  rw [heap] at found
  exact ⟨object, found, rfl, rfl, rfl⟩

/-- An action that creates nothing and deletes a timer. -/
theorem Recorded.deleted {actions : List TimerAction} {action : TimerAction}
    {before after : TimerSystem} {timer : Address} (recorded : Recorded actions before)
    (other : creations [action] = []) (count : after.queue.numCreated = before.queue.numCreated)
    (heap : after.queue.heap = Function.update before.queue.heap timer none) :
    Recorded (actions ++ [action]) after := by
  refine recorded.keep other count fun a object found => ?_
  rw [heap] at found
  by_cases here : a = timer
  · subst here
    rw [Function.update_self] at found
    cases found
  · rw [Function.update_of_ne here] at found
    exact ⟨object, found, rfl, rfl, rfl⟩

/-- A creation is recorded. -/
theorem Recorded.create {actions : List TimerAction} {s : TimerSystem} {timer : Address}
    {when : Int} {interval : Interval} (recorded : Recorded actions s) :
    Recorded (actions ++ [.create timer when interval]) { s with
      queue := s.queue.create timer when interval
      inFlight := timer :: s.inFlight } := by
  have longer : creations (actions ++ [.create timer when interval]) =
      creations actions ++ [(timer, interval)] := creations_append _ _
  constructor
  · rw [longer, List.length_append, ← recorded.count]
    rfl
  · intro a object found
    rw [longer]
    change Function.update s.queue.heap timer (some _) a = some object at found
    by_cases here : a = timer
    · subst here
      rw [Function.update_self] at found
      obtain rfl := Option.some.inj found
      refine ⟨s.queue.numCreated, rfl, ?_, ?_⟩
      · rw [recorded.count, List.getElem?_append_right (Nat.le_refl _), Nat.sub_self]
        rfl
      · dsimp only

    · rw [Function.update_of_ne here] at found
      obtain ⟨index, serial, entry, sequence⟩ := recorded.lives a object found
      refine ⟨index, serial, ?_, sequence⟩
      rw [List.getElem?_append_left (List.getElem?_eq_some_iff.mp entry).1]
      exact entry

/-- Every step keeps the records. -/
theorem Move.recorded {actions : List TimerAction} {before after : TimerSystem}
    {action : TimerAction} (move : Move before action after) (recorded : Recorded actions before) :
    Recorded (actions ++ [action]) after := by
  cases move with
  | create => exact recorded.create
  | add =>
    refine recorded.same rfl ?_ ?_
    · unfold TimerQueue.added
      split <;> rfl
    · unfold TimerQueue.added
      split <;> rfl
  | withdraw => exact recorded.deleted rfl rfl rfl
  | note => exact recorded.same rfl rfl rfl
  | ignore => exact recorded.same rfl rfl rfl
  | fire => exact recorded.same rfl rfl rfl
  | handleRead => exact recorded.same rfl rfl rfl
  | call => exact recorded.same rfl rfl rfl
  | «return» => exact recorded.same rfl rfl rfl
  | called => exact recorded.same rfl rfl rfl
  | @restart now entry rest object _ lives =>
    refine recorded.keep rfl rfl fun a found located => ?_
    change Function.update before.queue.heap entry.timer (some (object.restart now)) a =
      some found at located
    by_cases here : a = entry.timer
    · subst here
      rw [Function.update_self] at located
      obtain rfl := Option.some.inj located
      refine ⟨object, lives, ?_⟩
      unfold Timer.restart
      split <;> exact ⟨rfl, rfl, rfl⟩
    · rw [Function.update_of_ne here] at located
      exact ⟨found, located, rfl, rfl, rfl⟩
  | delete => exact recorded.deleted rfl rfl rfl
  | arm => exact recorded.same rfl rfl rfl
  | leave => exact recorded.same rfl rfl rfl

/-- The records of a run. -/
theorem recorded_of_run {actions : List TimerAction} {s : TimerSystem}
    (run : Run Step new actions s) : Recorded actions s := by
  have recorded : Recorded ([] ++ actions) s := run.history new_recorded
    fun _ _ _ _ recorded step => step.move.recorded recorded
  exact recorded

/-- While callbacks are called, the flag is set. -/
def Flagged (s : TimerSystem) : Prop :=
  ∀ now expired rest, s.phase = .calling now expired rest ∨ s.phase = .callback now expired rest →
    s.queue.callingExpiredTimers = true

/-- Every step keeps the flag. -/
theorem Move.flagged {before after : TimerSystem} {action : TimerAction}
    (move : Move before action after) (flagged : before.Flagged) : after.Flagged := by
  unfold Flagged at flagged ⊢
  cases move with
  | create => exact flagged
  | add =>
    unfold TimerQueue.added
    split <;> exact flagged
  | withdraw => exact flagged
  | note => exact flagged
  | ignore => exact flagged
  | fire => exact flagged
  | handleRead => exact fun _ _ _ _ => rfl
  | call calling => exact fun _ _ _ _ => flagged _ _ _ (.inl calling)
  | «return» running => exact fun _ _ _ _ => flagged _ _ _ (.inr running)
  | called => simp
  | restart => simp
  | delete => simp
  | arm => simp
  | leave => simp

/-- The flag is set in every state of a run in which callbacks are called. -/
theorem flagged_of_run {actions : List TimerAction} {s : TimerSystem}
    (run : Run Step new actions s) : s.Flagged :=
  run.invariant (by simp [Flagged, new]) fun _ _ _ flagged step => step.move.flagged flagged

/-- The timer with this number is in the batch, has been called or is being called, and will not be
queued again: it is a one-shot timer or is marked as cancelled. -/
def Marked (s : TimerSystem) (serial : Nat) : Prop :=
  ∃ a object, s.queue.heap a = some object ∧ object.serial = serial ∧
    (∃ e ∈ s.phase.batch, e.timer = a) ∧ (∀ e ∈ s.toCall, e.timer ≠ a) ∧
    (object.isRepeat = true → ⟨a, object.sequence⟩ ∈ s.queue.cancelingTimers)

/-- The timer with this number will not be called any more. -/
def Ended (s : TimerSystem) (serial : Nat) : Prop :=
  .deleted serial ∈ s.queue.log ∨ s.Marked serial

/-- A marked timer stays where it is while neither its batch nor the heap at its address changes. -/
theorem Marked.keep {before after : TimerSystem} {serial : Nat} (marked : before.Marked serial)
    (heap : ∀ a object, before.queue.heap a = some object →
      (∃ e ∈ before.phase.batch, e.timer = a) → after.queue.heap a = some object)
    (batch : after.phase.batch = before.phase.batch)
    (turn : ∀ e ∈ after.toCall, e ∈ before.toCall)
    (canceling : ∀ id ∈ before.queue.cancelingTimers, id ∈ after.queue.cancelingTimers) :
    after.Marked serial := by
  obtain ⟨a, object, lives, same, member, called, ends⟩ := marked
  refine ⟨a, object, heap a object lives member, same, ?_, ?_, ?_⟩
  · rw [batch]
    exact member
  · exact fun e inside => called e (turn e inside)
  · exact fun repeats => canceling _ (ends repeats)

/-- A step that logs one event, which is not a call. -/
theorem not_ran_of_ne {event : TimerEvent} (other : ∀ n, event ≠ .ran n) {n : Nat} :
    .ran n ∉ [event] := fun member => other n (List.mem_singleton.mp member).symm

/-- A step adds to the log, and a call only when it calls the next timer of the batch. -/
theorem Move.log {before after : TimerSystem} {action : TimerAction}
    (move : Move before action after) : ∃ events, after.queue.log = before.queue.log ++ events ∧
      ∀ n, .ran n ∈ events → action = .call ∧ ∃ entry object, entry ∈ before.toCall ∧
        before.queue.heap entry.timer = some object ∧ object.serial = n := by
  cases move with
  | add =>
    refine ⟨_, by unfold TimerQueue.added; split <;> rfl, fun n ran => ?_⟩
    exact absurd ran (not_ran_of_ne (by simp))
  | withdraw => exact ⟨_, rfl, fun n ran => absurd ran (not_ran_of_ne (by simp))⟩
  | @call now expired rest entry object calling lives =>
    refine ⟨_, rfl, fun n ran => ⟨rfl, entry, object, ?_, lives, ?_⟩⟩
    · rw [toCall, calling]
      exact List.mem_cons_self
    · exact (TimerEvent.ran.inj (List.mem_singleton.mp ran)).symm
  | restart =>
    refine ⟨_, List.append_assoc _ _ _, fun n ran => ?_⟩
    simp at ran
  | delete => exact ⟨_, rfl, fun n ran => absurd ran (not_ran_of_ne (by simp))⟩
  | _ => exact ⟨[], (List.append_nil _).symm, fun n none => absurd none List.not_mem_nil⟩

/-- Queued timers are not in the batch. -/
theorem Sound.active_apart {s : TimerSystem} (sound : s.Sound) {timerId : ActiveTimer}
    (active : timerId ∈ s.queue.activeTimers) {e : Entry} (member : e ∈ s.phase.batch) :
    e.timer ≠ timerId.timer := by
  obtain ⟨object, _, _, queued⟩ := sound.queue.linked.counterpart timerId active
  have outside : e.timer ∈ s.out := List.mem_append_right _ (List.mem_map_of_mem member)
  exact fun same => sound.queue.apart _ outside _ queued same.symm

/-- A timer of the batch that is reset leaves it, and the others stay. -/
theorem mem_rest_of_ne {entry : Entry} {rest : List Entry} {a : Address}
    (member : ∃ e ∈ entry :: rest, e.timer = a) (other : entry.timer ≠ a) :
    ∃ e ∈ rest, e.timer = a := by
  obtain ⟨e, inside, same⟩ := member
  rcases List.mem_cons.mp inside with first | later
  · rw [first] at same
    exact absurd same other
  · exact ⟨e, later, same⟩

/-- A marked timer stays marked until it is deleted. -/
theorem Move.marked {before after : TimerSystem} {action : TimerAction} {serial : Nat}
    (move : Move before action after) (sound : before.Sound) (marked : before.Marked serial) :
    after.Ended serial := by
  unfold Ended
  cases move with
  | @create timer _ _ free =>
    refine .inr (marked.keep (fun a object lives _ => ?_) rfl (fun _ => id) fun _ => id)
    have other : a ≠ timer := by
      intro same
      rw [same, free] at lives
      cases lives
    exact (Function.update_of_ne other _ _).trans lives
  | add =>
    refine .inr (marked.keep (fun a object lives _ => ?_) rfl (fun _ => id) fun _ => ?_)
    · unfold TimerQueue.added
      split <;> exact lives
    · unfold TimerQueue.added
      split <;> exact id
  | @withdraw timerId _ _ active =>
    refine .inr (marked.keep (fun a object lives member => ?_) rfl (fun _ => id) fun _ => id)
    obtain ⟨e, inside, same⟩ := member
    have other : a ≠ timerId.timer := same ▸ sound.active_apart active inside
    exact (Function.update_of_ne other _ _).trans lives
  | note =>
    exact .inr (marked.keep (fun _ _ lives _ => lives) rfl (fun _ => id)
      fun _ canceled => OrderedSet.mem_insert.mpr (.inr canceled))
  | ignore => exact .inr marked
  | fire => exact .inr (marked.keep (fun _ _ lives _ => lives) rfl (fun _ => id) fun _ => id)
  | handleRead idle =>
    obtain ⟨_, _, _, _, ⟨e, member, _⟩, _⟩ := marked
    rw [idle] at member
    cases member
  | call calling =>
    refine .inr (marked.keep (fun _ _ lives _ => lives) ?_ (fun e later => ?_) fun _ => id)
    · rw [calling]
      rfl
    · rw [toCall, calling]
      exact List.mem_cons_of_mem _ later
  | «return» running =>
    refine .inr (marked.keep (fun _ _ lives _ => lives) ?_ (fun e later => ?_) fun _ => id)
    · rw [running]
      rfl
    · rw [toCall, running]
      exact later
  | called ended =>
    refine .inr (marked.keep (fun _ _ lives _ => lives) ?_ (fun e later => ?_) fun _ => id)
    · rw [ended]
      rfl
    · cases later
  | @restart now entry rest object resetting lives repeats kept =>
    obtain ⟨a, found, located, same, member, _, ends⟩ := marked
    rw [resetting] at member
    have other : entry.timer ≠ a := by
      intro here
      rw [here, located] at lives
      obtain rfl := Option.some.inj lives
      rw [here] at kept
      exact kept (ends repeats)
    refine .inr ⟨a, found, (Function.update_of_ne other.symm _ _).trans located, same,
      mem_rest_of_ne member other, fun e later => ?_, ends⟩
    cases later
  | @delete now entry rest object resetting lives =>
    obtain ⟨a, found, located, same, member, _, ends⟩ := marked
    rw [resetting] at member
    by_cases here : entry.timer = a
    · rw [here, located] at lives
      obtain rfl := Option.some.inj lives
      rw [← same]
      exact .inl (List.mem_append_right _ (List.mem_singleton_self _))
    · refine .inr ⟨a, found, (Function.update_of_ne (Ne.symm here) _ _).trans located, same,
        mem_rest_of_ne member here, fun e later => ?_, ends⟩
      cases later
  | arm ended =>
    obtain ⟨_, _, _, _, ⟨e, member, _⟩, _⟩ := marked
    rw [ended] at member
    cases member
  | leave ended =>
    obtain ⟨_, _, _, _, ⟨e, member, _⟩, _⟩ := marked
    rw [ended] at member
    cases member

/-- A timer that has ended is not called by the next step, and stays ended. -/
theorem Move.ended {before after : TimerSystem} {action : TimerAction} {serial : Nat}
    (move : Move before action after) (sound : before.Sound) (ended : before.Ended serial) :
    after.Ended serial ∧ ∃ events, after.queue.log = before.queue.log ++ events ∧
      .ran serial ∉ events := by
  obtain ⟨events, log, calls⟩ := move.log
  have books := sound.queue.books
  refine ⟨?_, events, log, fun ran => ?_⟩
  · rcases ended with deleted | marked
    · refine .inl ?_
      rw [log]
      exact List.mem_append_left _ deleted
    · exact move.marked sound marked
  · obtain ⟨-, entry, object, next, lives, same⟩ := calls serial ran
    rcases ended with deleted | ⟨a, found, located, also, _, called, _⟩
    · rw [← same] at deleted
      exact (books.alive _ _ lives).2.2.1 deleted
    · exact called entry next (books.unique _ _ _ _ lives located (same.trans also.symm))

/-- A timer that has ended is not called in any run. -/
theorem Ended.run {s t : TimerSystem} {actions : List TimerAction} {serial : Nat}
    (ended : s.Ended serial) (sound : s.Sound) (run : Run Step s actions t) :
    ∃ more, t.queue.log = s.queue.log ++ more ∧ .ran serial ∉ more := by
  induction run with
  | nil => exact ⟨[], (List.append_nil _).symm, List.not_mem_nil⟩
  | cons step _ ih =>
    obtain ⟨stays, events, log, silent⟩ := step.move.ended sound ended
    obtain ⟨more, rest, quiet⟩ := ih stays ((step.sound sound).of_ok rfl)
    refine ⟨events ++ more, ?_, ?_⟩
    · rw [rest, log, List.append_assoc]
    · rw [List.mem_append, not_or]
      exact ⟨silent, quiet⟩

/-- `addTimerInLoop` has run for the timer with this number, and it is not one of the expired timers
that are still to be called. -/
def Settled (s : TimerSystem) (serial : Nat) : Prop :=
  ¬s.At serial .inFlight ∧ ∀ e ∈ s.toCall, ∀ object, s.queue.heap e.timer = some object →
    object.serial ≠ serial

/-- A live timer has the id that was returned for its number. -/
theorem Recorded.id_eq {actions : List TimerAction} {s : TimerSystem} {timerId : ActiveTimer}
    {index : Nat} {a : Address} {object : Timer} (recorded : Recorded actions s)
    (names : IsTimerId actions timerId index) (lives : s.queue.heap a = some object)
    (serial : object.serial = index + 1) :
    timerId = ⟨a, object.sequence⟩ := by
  obtain ⟨⟨interval, created⟩, number⟩ := names
  obtain ⟨other, also, recordedAt, sequence⟩ := recorded.lives a object lives
  have same : other = index := by omega
  subst same
  have address : timerId.timer = a := by
    rw [created] at recordedAt
    exact congrArg Prod.fst (Option.some.inj recordedAt)
  rw [sequence, ← number, ← address]

/-- A cancellation of a settled timer ends it. -/
theorem Step.cancel_ends {actions : List TimerAction} {s t : TimerSystem} {timerId : ActiveTimer}
    {index : Nat} (run : Run Step new actions s) (names : IsTimerId actions timerId index)
    (settled : s.Settled (index + 1)) (step : Step s (.cancel timerId) t) :
    t.Ended (index + 1) := by
  have sound := Sound.of_run run
  have recorded := recorded_of_run run
  have flagged := flagged_of_run run
  have created : index + 1 ≤ s.queue.numCreated := by
    obtain ⟨⟨interval, created⟩, -⟩ := names
    rw [recorded.count]
    exact (List.getElem?_eq_some_iff.mp created).1
  have positive : 0 < index + 1 := Nat.succ_pos index
  obtain ⟨place, there, -⟩ := sound.exactly_one positive created
  cases place with
  | inFlight => exact absurd there settled.1
  | deleted => exact (step.move.ended sound (.inl there)).1
  | queued =>
    obtain ⟨e, queued, object, lives, serial⟩ := there
    obtain ⟨found, located, _, listed⟩ := sound.queue.linked.entry e queued
    obtain rfl := Option.some.inj (lives.symm.trans located)
    obtain rfl := recorded.id_eq names lives serial
    cases step.move with
    | withdraw _ _ also =>
      obtain rfl := Option.some.inj (lives.symm.trans also)
      rw [← serial]
      exact .inl (List.mem_append_right _ (List.mem_singleton_self _))
    | note _ absent => exact absurd listed absent
    | ignore _ absent => exact absurd listed absent
  | expired =>
    obtain ⟨e, batch, object, lives, serial⟩ := there
    obtain rfl := recorded.id_eq names lives serial
    cases step.move with
    | withdraw _ active => exact absurd rfl (sound.active_apart active batch)
    | note =>
      refine .inr ⟨e.timer, object, lives, serial, ⟨e, batch, rfl⟩, fun other next same => ?_,
        fun _ => OrderedSet.mem_insert.mpr (.inl rfl)⟩
      exact settled.2 other next object (same ▸ lives) serial
    | ignore user _ quiet =>
      cases phase : s.phase with
      | callback now expired rest =>
        rw [flagged now expired rest (.inr phase)] at quiet
        cases quiet
      | idle => rw [phase] at batch; cases batch
      | calling => rw [phase] at user; cases user
      | resetting => rw [phase] at user; cases user

/-- In every run, after `cancelInLoop` has returned for the id of a timer whose `addTimerInLoop` has
run and which is not one of the expired timers still to be called, the callback of the timer is
never called again. -/
theorem cancel_final (actions during : List TimerAction) (s t u : TimerSystem)
    (timerId : ActiveTimer) (index : Nat) (run : Run Step new actions s)
    (names : IsTimerId actions timerId index) (cancels : Step s (.cancel timerId) t)
    (settled : s.Settled (index + 1)) (after : Run Step t during u) :
    ∃ more, u.queue.log = t.queue.log ++ more ∧ .ran (index + 1) ∉ more :=
  (cancels.cancel_ends run names settled).run ((cancels.sound (Sound.of_run run)).of_ok rfl) after

/-- A repeating timer is cancelled by its own callback. -/
theorem cancel_final_own_callback :
    ∃ s t u, Run Step new [.create 8 5 ⟨true, 10⟩, .add 8, .fire, .handleRead 7, .call] s ∧
      Step s (.cancel ⟨8, 1⟩) t ∧ Run Step t [.return, .called, .reset, .rearm] u ∧
      ∃ more, u.queue.log = t.queue.log ++ more ∧ .ran 1 ∉ more := by
  have reached : ∃ s t u,
      Run Step new [.create 8 5 ⟨true, 10⟩, .add 8, .fire, .handleRead 7, .call] s ∧
      Step s (.cancel ⟨8, 1⟩) t ∧ Run Step t [.return, .called, .reset, .rearm] u ∧
      s.inFlight = [] ∧ s.toCall = [] :=
    ⟨_, _, _, .cons (.create rfl (by decide)) (.cons (.add trivial List.mem_cons_self)
      (.cons (.fire rfl) (.cons (.handleRead rfl)
        (.cons (Attempt.step (.call rfl) rfl) (.nil _))))),
      Attempt.step (.cancel trivial) rfl, .cons (.return rfl) (.cons (.called rfl)
        (.cons (Attempt.step (.reset rfl) rfl) (.cons (Attempt.step (.rearm rfl) rfl) (.nil _)))),
      rfl, rfl⟩
  obtain ⟨s, t, u, run, cancels, after, landed, called⟩ := reached
  have settled : s.Settled (0 + 1) := by
    constructor
    · simp [At, landed]
    · simp [called]
  exact ⟨s, t, u, run, cancels, after, cancel_final _ _ s t u ⟨8, 1⟩ 0 run ⟨⟨_, rfl⟩, by decide⟩
    cancels settled after⟩

/-- Two timers expire together; the callback of the first cancels the second, which is called after
the cancellation has returned. -/
theorem cancel_not_final_in_batch :
    ¬∀ (actions during : List TimerAction) (s t u : TimerSystem) (timerId : ActiveTimer)
      (index : Nat), Run Step new actions s → IsTimerId actions timerId index →
        Step s (.cancel timerId) t → Run Step t during u →
          ∃ more, u.queue.log = t.queue.log ++ more ∧ .ran (index + 1) ∉ more := by
  intro final
  have reached : ∃ s t u, Run Step new [.create 8 5 ⟨false, 0⟩, .add 8, .create 16 6 ⟨false, 0⟩,
        .add 16, .fire, .handleRead 7, .call] s ∧
      Step s (.cancel ⟨16, 2⟩) t ∧ Run Step t [.return, .call] u ∧
      t.queue.log = [.queued 1, .queued 2, .ran 1] ∧
      u.queue.log = [.queued 1, .queued 2, .ran 1, .ran 2] :=
    ⟨_, _, _, .cons (.create rfl (by decide)) (.cons (.add trivial List.mem_cons_self)
      (.cons (.create rfl (by decide)) (.cons (.add trivial List.mem_cons_self)
      (.cons (.fire rfl) (.cons (.handleRead rfl)
        (.cons (Attempt.step (.call rfl) rfl) (.nil _))))))),
      Attempt.step (.cancel trivial) rfl,
      .cons (.return rfl) (.cons (Attempt.step (.call rfl) rfl) (.nil _)), rfl, rfl⟩
  obtain ⟨s, t, u, run, cancels, after, before, later⟩ := reached
  obtain ⟨more, log, silent⟩ :=
    final _ _ s t u ⟨16, 2⟩ 1 run ⟨⟨_, rfl⟩, by decide⟩ cancels after
  rw [before, later] at log
  have event : more = [.ran 2] := List.append_cancel_left log.symm
  rw [event] at silent
  exact silent (List.mem_singleton_self _)

end TimerSystem

end Muduo
