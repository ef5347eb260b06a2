import Muduo.Net.TimerInvariant

/-!
# Every run of the timer queue

The states between two set updates of every run, in which any thread creates timers, loop-thread
code and callbacks add and cancel timers by any id, and `handleRead` starts at any time.
-/

open Outcome Transition

namespace Muduo

namespace TimerSystem

/-- Where a timer that has been created is. -/
inductive Place
  /-- Its `addTimerInLoop` has not run. -/
  | inFlight
  /-- In `m_timers`. -/
  | queued
  /-- In the expired batch, neither queued again nor deleted. -/
  | expired
  /-- Deleted. -/
  | deleted
  deriving DecidableEq, Repr

/-- The timer with the given number is in a place. -/
def At (s : TimerSystem) (serial : Nat) : Place → Prop
  | .inFlight => ∃ a ∈ s.inFlight, ∃ object, s.queue.heap a = some object ∧ object.serial = serial
  | .queued => ∃ e ∈ s.queue.timers, ∃ object,
      s.queue.heap e.timer = some object ∧ object.serial = serial
  | .expired => ∃ e ∈ s.phase.batch, ∃ object,
      s.queue.heap e.timer = some object ∧ object.serial = serial
  | .deleted => .deleted serial ∈ s.queue.log

/-- The timers outside the queue. -/
def out (s : TimerSystem) : List Address := s.inFlight ++ s.phase.batch.map Entry.timer

/-- The entries of the batch that are still to be called. -/
def toCall (s : TimerSystem) : List Entry :=
  match s.phase with
  | .calling _ _ rest | .callback _ _ rest => rest
  | .idle | .resetting _ _ => []

/-- The queue is sound, with the timers in flight and the batch outside it. -/
structure Sound (s : TimerSystem) : Prop where
  /-- The queue. -/
  queue : s.queue.Sound s.out
  /-- What is called is in the batch. -/
  turn : ∀ e ∈ s.toCall, e ∈ s.phase.batch

/-- The only fault: `handleRead` with an empty queue dereferences `m_timers.end()`. -/
def EndDereferenced (s : TimerSystem) (action : TimerAction) (fault : Fault) : Prop :=
  fault = .outOfRange ∧ (∃ now, action = .handleRead now) ∧ s.queue.timers.elements = []

/-- Every action keeps the system sound, and stops only at the end of an empty queue. -/
theorem Attempt.sound {s : TimerSystem} {action : TimerAction}
    {result : Except Fault TimerSystem} (attempt : Attempt s action result) (sound : s.Sound) :
    Meets result Sound (s.EndDereferenced action) := by
  obtain ⟨queue, turn⟩ := sound
  cases attempt with
  | create free object => exact .ok ⟨queue.create free object _ _, turn⟩
  | @add timer user handed =>
    have moved : s.queue.Sound
        (timer :: (s.inFlight.erase timer ++ s.phase.batch.map Entry.timer)) :=
      queue.perm ((List.perm_cons_erase handed).append_right _)
    obtain ⟨added, done, kept⟩ := moved.addTimerInLoop
    rw [done]
    exact .ok ⟨kept, turn⟩
  | cancel =>
    obtain ⟨cancelled, done, kept⟩ := queue.cancelInLoop _
    rw [done]
    exact .ok ⟨kept, turn⟩
  | fire => exact .ok ⟨⟨queue.linked, queue.nodup, queue.apart, queue.live, queue.books⟩, turn⟩
  | @handleRead now idle =>
    have quiet : s.queue.Sound s.inFlight := by
      rw [out, idle] at queue
      simpa [TimerPhase.batch] using queue
    have read : { s.queue with timerfd := { s.queue.timerfd with readable := false } :
        TimerQueue }.Sound s.inFlight :=
      ⟨quiet.linked, quiet.nodup, quiet.apart, quiet.live, quiet.books⟩
    rw [TimerQueue.beginRead]
    by_cases some : s.queue.timers.elements = []
    · rw [read.getExpired_empty now some]
      exact .error ⟨rfl, ⟨now, rfl⟩, some⟩
    · obtain ⟨left, expired, done, kept⟩ := read.getExpired now some
      rw [done]
      exact .ok ⟨⟨kept.linked, kept.nodup, kept.apart, kept.live, kept.books⟩, fun _ => id⟩
  | handleReadPastEnd idle =>
    rw [out, idle] at queue
    exact .ok ⟨⟨queue.linked, queue.nodup, queue.apart, queue.live, queue.books⟩, nofun⟩
  | @call now expired rest entry calling =>
    rw [out, calling] at queue
    rw [toCall, calling] at turn
    have member : entry.timer ∈ s.inFlight ++ expired.map Entry.timer :=
      List.mem_append_right _ (List.mem_map_of_mem (turn entry List.mem_cons_self))
    obtain ⟨ran, done, kept⟩ := queue.run member
    rw [done]
    exact .ok ⟨kept, fun e inside => turn e (List.mem_cons_of_mem _ inside)⟩
  | «return» running =>
    rw [out, running] at queue
    rw [toCall, running] at turn
    exact .ok ⟨queue, turn⟩
  | called ended =>
    rw [out, ended] at queue
    exact .ok ⟨⟨queue.linked, queue.nodup, queue.apart, queue.live, queue.books⟩, nofun⟩
  | @reset now entry rest resetting =>
    rw [out, resetting] at queue
    have first : s.queue.Sound (entry.timer :: (s.inFlight ++ rest.map Entry.timer)) :=
      queue.perm List.perm_middle
    obtain ⟨left, done, kept⟩ := first.resetEntry now
    rw [done]
    exact .ok ⟨kept, nofun⟩
  | rearm ended =>
    rw [out, ended] at queue
    obtain ⟨armed, done, kept⟩ := queue.rearm
    rw [done]
    exact .ok ⟨kept, nofun⟩

/-- A new system is sound. -/
theorem new_sound : new.Sound := ⟨TimerQueue.new_sound, nofun⟩

/-- Every state of a run is sound. -/
theorem Sound.of_run {actions : List TimerAction} {s : TimerSystem}
    (run : Run Step new actions s) : s.Sound :=
  run.invariant new_sound fun _ _ _ sound taken => (taken.sound sound).of_ok rfl

/-- A live timer is in the place that its address is in. -/
theorem Sound.place {s : TimerSystem} (sound : s.Sound) {a : Address} {object : Timer}
    (lives : s.queue.heap a = some object) (place : Place) :
    s.At object.serial place ↔ match place with
      | .inFlight => a ∈ s.inFlight
      | .queued => ∃ e ∈ s.queue.timers, e.timer = a
      | .expired => ∃ e ∈ s.phase.batch, e.timer = a
      | .deleted => False := by
  have unique := sound.queue.books.unique
  cases place with
  | inFlight =>
    constructor
    · rintro ⟨b, member, other, found, same⟩
      obtain rfl := unique b a other object found lives same
      exact member
    · exact fun member => ⟨a, member, object, lives, rfl⟩
  | queued =>
    constructor
    · rintro ⟨e, member, other, found, same⟩
      exact ⟨e, member, unique e.timer a other object found lives same⟩
    · rintro ⟨e, member, rfl⟩
      exact ⟨e, member, object, lives, rfl⟩
  | expired =>
    constructor
    · rintro ⟨e, member, other, found, same⟩
      exact ⟨e, member, unique e.timer a other object found lives same⟩
    · rintro ⟨e, member, rfl⟩
      exact ⟨e, member, object, lives, rfl⟩
  | deleted =>
    exact ⟨fun deleted => (sound.queue.books.alive a object lives).2.2.1 deleted, False.elim⟩

/-- A timer that has been created is in exactly one place. -/
theorem Sound.exactly_one {s : TimerSystem} (sound : s.Sound) {serial : Nat}
    (positive : 0 < serial) (created : serial ≤ s.queue.numCreated) :
    ∃ place, s.At serial place ∧ ∀ other, s.At serial other → other = place := by
  have queue := sound.queue
  obtain deleted | ⟨a, object, lives, rfl⟩ := queue.books.accounted serial positive created
  · refine ⟨.deleted, deleted, fun other there => ?_⟩
    have gone : ∀ a object, s.queue.heap a = some object → object.serial ≠ serial := by
      rintro a object lives rfl
      exact (queue.books.alive a object lives).2.2.1 deleted
    cases other with
    | inFlight =>
      obtain ⟨a, _, object, lives, same⟩ := there
      exact absurd same (gone a object lives)
    | queued =>
      obtain ⟨e, _, object, lives, same⟩ := there
      exact absurd same (gone e.timer object lives)
    | expired =>
      obtain ⟨e, _, object, lives, same⟩ := there
      exact absurd same (gone e.timer object lives)
    | deleted => rfl
  · have somewhere := (queue.live a).mp (by rw [lives]; rfl)
    have nodup := List.nodup_append.mp queue.nodup
    have apart : ∀ e ∈ s.queue.timers, e.timer = a → a ∉ s.out :=
      fun e queued same outside => queue.apart a outside e queued same
    rw [out, List.mem_append, List.mem_map] at somewhere
    obtain (flying | ⟨e, batch, same⟩) | ⟨e, queued, same⟩ := somewhere
    · refine ⟨.inFlight, (sound.place lives _).mpr flying, fun other there => ?_⟩
      have here := (sound.place lives other).mp there
      cases other with
      | inFlight => rfl
      | queued =>
        obtain ⟨e, queued, same⟩ := here
        exact absurd (List.mem_append_left _ flying) (apart e queued same)
      | expired =>
        obtain ⟨e, batch, same⟩ := here
        exact absurd rfl (nodup.2.2 a flying a (List.mem_map.mpr ⟨e, batch, same⟩))
      | deleted => exact here.elim
    · refine ⟨.expired, (sound.place lives _).mpr ⟨e, batch, same⟩, fun other there => ?_⟩
      have here := (sound.place lives other).mp there
      have member : a ∈ s.phase.batch.map Entry.timer := List.mem_map.mpr ⟨e, batch, same⟩
      cases other with
      | inFlight => exact absurd rfl (nodup.2.2 a here a member)
      | queued =>
        obtain ⟨e, queued, same⟩ := here
        exact absurd (List.mem_append_right _ member) (apart e queued same)
      | expired => rfl
      | deleted => exact here.elim
    · refine ⟨.queued, (sound.place lives _).mpr ⟨e, queued, same⟩, fun other there => ?_⟩
      have here := (sound.place lives other).mp there
      cases other with
      | inFlight => exact absurd (List.mem_append_left _ here) (apart e queued same)
      | queued => rfl
      | expired =>
        obtain ⟨e', batch, same'⟩ := here
        exact absurd (List.mem_append_right _ (List.mem_map.mpr ⟨e', batch, same'⟩))
          (apart e queued same)
      | deleted => exact here.elim

/-- What every state between two set updates satisfies. -/
structure Represents (s : TimerSystem) : Prop where
  /-- An entry of `m_timers` has the expiration of its timer, which is in `m_activeTimers`. -/
  entry : ∀ e ∈ s.queue.timers, ∃ object, s.queue.heap e.timer = some object ∧
    object.expiration = e.expiration ∧ ⟨e.timer, object.sequence⟩ ∈ s.queue.activeTimers
  /-- A timer of `m_activeTimers` is in `m_timers`. -/
  active : ∀ a ∈ s.queue.activeTimers, ∃ object, s.queue.heap a.timer = some object ∧
    object.sequence = a.sequence ∧ ⟨object.expiration, a.timer⟩ ∈ s.queue.timers
  /-- The sets have one size. -/
  size : s.queue.timers.size = s.queue.activeTimers.size
  /-- A timer that has been created is in exactly one place. -/
  place : ∀ serial, 0 < serial → serial ≤ s.queue.numCreated →
    ∃ place, s.At serial place ∧ ∀ other, s.At serial other → other = place
  /-- A timer is not deleted twice and is not run, restarted or queued after its deletion. -/
  silent : s.queue.log.Pairwise fun earlier later =>
    ∀ serial, earlier = .deleted serial → later.serial ≠ serial

/-- In every run, with any timers created, added, cancelled by any id and run at any time, every
state between two set updates represents its timers, and the next action fails no assertion and
follows no dangling pointer; only `handleRead` on an empty queue stops, at the dereference of
`m_timers.end()`. -/
theorem timerQueue_represents (actions : List TimerAction) (s : TimerSystem)
    (run : Run Step new actions s) :
    s.Represents ∧ ∀ action result, Attempt s action result →
      Meets result Represents (s.EndDereferenced action) := by
  have represents : ∀ s : TimerSystem, s.Sound → s.Represents := fun s sound =>
    ⟨sound.queue.linked.entry, sound.queue.linked.counterpart, sound.queue.linked.size,
      fun _ positive created => sound.exactly_one positive created, sound.queue.books.silent⟩
  have sound := Sound.of_run run
  exact ⟨represents s sound, fun action result attempt =>
    (attempt.sound sound).mono represents fun _ => id⟩

/-- Two timers are added, one is cancelled and the other expires. -/
theorem timerQueue_represents_two_timers :
    ∃ s, Run Step new [.create 8 5 ⟨false, 0⟩, .add 8, .create 16 6 ⟨true, 10⟩, .add 16,
      .cancel ⟨16, 2⟩, .fire, .handleRead 7] s ∧
      s.phase = .calling 7 [⟨5, 8⟩] [⟨5, 8⟩] ∧
      s.queue.log = [.queued 1, .queued 2, .deleted 2] ∧ s.Represents := by
  have reached : ∃ s, Run Step new [.create 8 5 ⟨false, 0⟩, .add 8, .create 16 6 ⟨true, 10⟩,
      .add 16, .cancel ⟨16, 2⟩, .fire, .handleRead 7] s ∧
      s.phase = .calling 7 [⟨5, 8⟩] [⟨5, 8⟩] ∧
      s.queue.log = [.queued 1, .queued 2, .deleted 2] :=
    ⟨_, .cons (.create rfl (by decide)) (.cons (.add trivial List.mem_cons_self)
      (.cons (.create rfl (by decide)) (.cons (.add trivial List.mem_cons_self)
      (.cons (.cancel trivial) (.cons (.fire rfl) (.cons (.handleRead rfl) (.nil _))))))), rfl, rfl⟩
  obtain ⟨s, run, phase, log⟩ := reached
  exact ⟨s, run, phase, log, (timerQueue_represents _ s run).1⟩

/-- In every state of every run and at every time, `getExpired` evaluates its assertion without
dereferencing `m_timers.end()` and finds it true exactly when `m_timers` is not empty. -/
theorem expiredAssertion_true_iff (actions : List TimerAction) (s : TimerSystem)
    (run : Run Step new actions s) (now : Int) :
    s.queue.expiredAssertion now = .ok true ↔ s.queue.timers.elements ≠ [] :=
  TimerQueue.expiredAssertion_iff (Sound.of_run run).queue.addresses now

/-- The timerfd fires with its timer in the queue. -/
theorem expiredAssertion_true_queued :
    ∃ s, Run Step new [.create 8 5 ⟨false, 0⟩, .add 8, .fire] s ∧
      s.queue.timerfd.readable = true ∧ s.queue.expiredAssertion 4 = .ok true := by
  have reached : ∃ s, Run Step new [.create 8 5 ⟨false, 0⟩, .add 8, .fire] s ∧
      s.queue.timerfd.readable = true ∧ s.queue.timers.elements ≠ [] :=
    ⟨_, .cons (.create rfl (by decide)) (.cons (.add trivial List.mem_cons_self) (.cons (.fire rfl)
      (.nil _))), rfl, List.cons_ne_nil _ _⟩
  obtain ⟨s, run, readable, some⟩ := reached
  exact ⟨s, run, readable, (expiredAssertion_true_iff _ s run 4).mpr some⟩

/-- The only timer is cancelled, the timerfd stays armed and fires, and `getExpired` dereferences
`m_timers.end()`. -/
theorem getExpired_after_cancel :
    ∃ s, Run Step new [.create 8 5 ⟨false, 0⟩, .add 8, .cancel ⟨8, 1⟩, .fire] s ∧
      s.queue.timerfd.readable = true ∧ s.queue.expiredAssertion 7 = .error .outOfRange ∧
      s.queue.getExpired 7 = .error .outOfRange :=
  ⟨_, .cons (.create rfl (by decide)) (.cons (.add trivial List.mem_cons_self)
    (.cons (.cancel trivial) (.cons (.fire rfl) (.nil _)))), rfl, rfl, rfl⟩

end TimerSystem

end Muduo
