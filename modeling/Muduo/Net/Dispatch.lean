import Muduo.Net.EpollPoller

/-!
# Dispatch of the active channels

One iteration of `EventLoop::loop()` lets the poller store what it reports in the channels and then
handles the active channels one after the other. `Channel::handleEventWithGuard` makes four tests in
a fixed order, each of which may invoke a callback. A callback may do anything to the channels, the
poller and the callbacks, except that only the poller stores `revents`.
-/

open Outcome Transition

namespace Muduo

/-- The callbacks of a channel, in the order in which their tests are made. -/
inductive Callback
  | close
  | error
  | read
  | write
  deriving DecidableEq, Repr

/-- Two masks meet exactly when some bit is set in both. -/
theorem and_ne_zero_iff (mask other : Mask) :
    mask &&& other ≠ 0 ↔ ∃ bit < 32, mask.getLsbD bit = true ∧ other.getLsbD bit = true := by
  constructor
  · intro meet
    by_contra none
    refine meet (BitVec.eq_of_getLsbD_eq fun bit inside => ?_)
    have nothing : (0 : Mask).getLsbD bit = false := BitVec.getLsbD_zero
    rw [BitVec.getLsbD_and, nothing, Bool.and_eq_false_iff]
    by_contra both
    rw [not_or, Bool.not_eq_false, Bool.not_eq_false] at both
    exact none ⟨bit, inside, both⟩
  · rintro ⟨bit, _, left, right⟩ empty
    have both : (mask &&& other).getLsbD bit = true := by
      rw [BitVec.getLsbD_and, left, right]
      rfl
    have nothing : (0 : Mask).getLsbD bit = false := BitVec.getLsbD_zero
    rw [empty, nothing] at both
    cases both

/-- A mask contains POLLIN, POLLPRI or POLLRDHUP exactly when bit 0, 1 or 13 of it is set. -/
theorem contains_reading (mask : Mask) :
    mask &&& (pollIn ||| pollPri ||| pollRdHup) ≠ 0 ↔
      mask.getLsbD 0 = true ∨ mask.getLsbD 1 = true ∨ mask.getLsbD 13 = true := by
  have bits : ∀ bit < 32, (pollIn ||| pollPri ||| pollRdHup).getLsbD bit = true ↔
      bit = 0 ∨ bit = 1 ∨ bit = 13 := by decide
  rw [and_ne_zero_iff]
  constructor
  · rintro ⟨bit, inside, left, right⟩
    obtain rfl | rfl | rfl := (bits bit inside).mp right
    · exact .inl left
    · exact .inr (.inl left)
    · exact .inr (.inr left)
  · rintro (left | left | left)
    · exact ⟨0, by decide, left, by decide⟩
    · exact ⟨1, by decide, left, by decide⟩
    · exact ⟨13, by decide, left, by decide⟩

/-- A mask contains POLLOUT exactly when bit 2 of it is set. -/
theorem contains_writing (mask : Mask) : mask &&& pollOut ≠ 0 ↔ mask.getLsbD 2 = true := by
  have bits : ∀ bit < 32, pollOut.getLsbD bit = true ↔ bit = 2 := by decide
  rw [and_ne_zero_iff]
  constructor
  · rintro ⟨bit, inside, left, right⟩
    obtain rfl := (bits bit inside).mp right
    exact left
  · intro left
    exact ⟨2, by decide, left, by decide⟩

namespace Callback

/-- The test that `handleEventWithGuard` makes before it invokes the callback. -/
def test (c : Channel) : Callback → Bool
  | close => c.revents &&& pollHup != 0 && !(c.revents &&& pollIn != 0)
  | error => c.revents &&& (pollErr ||| pollNval) != 0
  | read => c.events &&& (pollIn ||| pollPri ||| pollRdHup) != 0
  | write => c.events &&& pollOut != 0

/-- The read test passes for a channel whose `m_events` contain POLLIN, POLLPRI or POLLRDHUP. -/
theorem test_read (c : Channel) : read.test c = true ↔
    c.events.getLsbD 0 = true ∨ c.events.getLsbD 1 = true ∨ c.events.getLsbD 13 = true := by
  rw [test, bne_iff_ne, contains_reading]

/-- The write test passes for a channel whose `m_events` contain POLLOUT. -/
theorem test_write (c : Channel) : write.test c = true ↔ c.events.getLsbD 2 = true := by
  rw [test, bne_iff_ne, contains_writing]

/-- The callback tested next. -/
def next : Callback → Option Callback
  | close => some error
  | error => some read
  | read => some write
  | write => none

/-- What the poller must have reported for a read or a write callback. -/
def Reported (revents : Mask) : Callback → Prop
  | close => True
  | error => True
  | read => revents &&& (pollIn ||| pollPri ||| pollRdHup) ≠ 0
  | write => revents &&& pollOut ≠ 0

end Callback

/-- One invocation of a callback. -/
structure Invocation where
  /-- The callback. -/
  callback : Callback
  /-- The channel it was invoked for. -/
  target : ChannelId
  /-- The events stored in the channel by the poller. -/
  revents : Mask
  deriving DecidableEq, Repr

/-- Where the loop is. -/
inductive DispatchPhase
  /-- Outside the handling of events. -/
  | polling
  /-- About to call `handleEvent` on the first of these channels. -/
  | entering (active : List ChannelId)
  /-- In `handleEventWithGuard`, about to make a test. -/
  | testing (callback : Callback) (target : ChannelId) (rest : List ChannelId)
  deriving DecidableEq, Repr

/-- What callbacks and other code of the loop thread work on. -/
structure Surroundings where
  /-- The channels by address. -/
  objects : ChannelId → Channel
  /-- `m_poller`. -/
  poller : EpollPoller
  /-- Whether a channel's callback is set. -/
  bound : ChannelId → Callback → Bool
  /-- `is_tied`. -/
  tied : ChannelId → Bool
  /-- Whether `m_tie.lock()` yields an owner. -/
  owned : ChannelId → Bool

/-- The loop thread with the invocations it made. -/
structure Dispatcher extends Surroundings where
  /-- Where the loop is. -/
  phase : DispatchPhase
  /-- The invocations so far. -/
  log : List Invocation

/-- `fillActiveChannels(numEvents, activeChannels)` on the reported events. -/
def EpollPoller.fillActiveChannels (p : EpollPoller) :
    (ChannelId → Channel) → List EpollEvent → Except Fault ((ChannelId → Channel) × List ChannelId)
  | objects, [] => .ok (objects, [])
  | objects, event :: events => do
    let channel := objects event.ptr
    ensure (p.channels channel.fd).isSome "it != m_channels.end()"
    ensure (p.channels channel.fd == some event.ptr) "it->second == channel"
    let stored := Function.update objects event.ptr { channel with revents := event.events }
    let (filled, active) ← p.fillActiveChannels stored events
    .ok (filled, event.ptr :: active)

namespace Dispatcher

/-- The phase after a test. -/
def advance (callback : Callback) (target : ChannelId) (rest : List ChannelId) : DispatchPhase :=
  match callback.next with
  | some following => .testing following target rest
  | none => .entering rest

/-- Code of the loop thread leaves these surroundings, in which the stored `revents` are the old
ones. -/
def behave (d : Dispatcher) (left : Surroundings) : Dispatcher :=
  { d with
    objects := fun address =>
      { left.objects address with revents := (d.objects address).revents }
    poller := left.poller
    bound := left.bound
    tied := left.tied
    owned := left.owned }

/-- One test of `handleEventWithGuard`, with what the callback leaves if it is invoked. -/
def handle (d : Dispatcher) (callback : Callback) (target : ChannelId) (rest : List ChannelId)
    (left : Surroundings) : Dispatcher :=
  if callback.test (d.objects target) && d.bound target callback then
    { d.behave left with
      phase := advance callback target rest
      log := d.log ++ [{ callback, target, revents := (d.objects target).revents }] }
  else
    { d with phase := advance callback target rest }

/-- `handleEvent(receiveTime)` up to the first test: a tied channel without an owner is left out. -/
def enter (d : Dispatcher) (target : ChannelId) (rest : List ChannelId) : Dispatcher :=
  if d.tied target && !d.owned target then
    { d with phase := .entering rest }
  else
    { d with phase := .testing .close target rest }

/-- What happens next in the loop thread. -/
inductive Action
  /-- The poller reports events. -/
  | poll (reported : List EpollEvent)
  /-- Code outside the handling of events runs. -/
  | outside (left : Surroundings)
  /-- The handling of events goes on; a callback that is invoked leaves the surroundings given. -/
  | handle (left : Surroundings)

/-- One step of the loop thread. -/
inductive Step : Dispatcher → Action → Dispatcher → Prop
  | poll {d : Dispatcher} {reported : List EpollEvent} {objects : ChannelId → Channel}
      {active : List ChannelId} (polling : d.phase = .polling)
      (filled : d.poller.fillActiveChannels d.objects reported = .ok (objects, active)) :
      Step d (.poll reported) { d with objects, phase := .entering active }
  | outside {d : Dispatcher} {left : Surroundings} (polling : d.phase = .polling) :
      Step d (.outside left) (d.behave left)
  | finish {d : Dispatcher} {left : Surroundings} (ended : d.phase = .entering []) :
      Step d (.handle left) { d with phase := .polling }
  | enter {d : Dispatcher} {left : Surroundings} {target : ChannelId} {rest : List ChannelId}
      (next : d.phase = .entering (target :: rest)) : Step d (.handle left) (d.enter target rest)
  | handle {d : Dispatcher} {left : Surroundings} {callback : Callback} {target : ChannelId}
      {rest : List ChannelId} (testing : d.phase = .testing callback target rest) :
      Step d (.handle left) (d.handle callback target rest left)

/-- Every invocation of a read or a write callback follows what the poller reported. -/
def Faithful (d : Dispatcher) : Prop :=
  ∀ invocation ∈ d.log, invocation.callback.Reported invocation.revents

/-- A channel that comes to its read test with POLLIN, POLLPRI or POLLRDHUP in `m_events` and the
read callback set had one of them stored in `m_revents`; one that comes to its write test with
POLLOUT in `m_events` and the write callback set had POLLOUT stored. The events are written as the
bits of the masks: POLLIN is bit 0, POLLPRI bit 1, POLLOUT bit 2 and POLLRDHUP bit 13. -/
def Asked (d : Dispatcher) (_ : Action) : Prop :=
  ∀ target rest,
    (d.phase = .testing .read target rest → d.bound target .read = true →
      (d.objects target).events.getLsbD 0 = true ∨ (d.objects target).events.getLsbD 1 = true ∨
        (d.objects target).events.getLsbD 13 = true →
      (d.objects target).revents.getLsbD 0 = true ∨ (d.objects target).revents.getLsbD 1 = true ∨
        (d.objects target).revents.getLsbD 13 = true) ∧
    (d.phase = .testing .write target rest → d.bound target .write = true →
      (d.objects target).events.getLsbD 2 = true → (d.objects target).revents.getLsbD 2 = true)

/-- The condition says that a test for reading or writing that passes, with the callback set,
follows what the poller reported: both tests are made on `m_events`. -/
theorem asked_iff (d : Dispatcher) (action : Action) :
    d.Asked action ↔ ∀ callback target rest, d.phase = .testing callback target rest →
      d.bound target callback = true → callback.test (d.objects target) = true →
        callback.Reported (d.objects target).revents := by
  constructor
  · intro asked callback target rest testing bound passed
    cases callback with
    | close => trivial
    | error => trivial
    | read =>
      have wants := (Callback.test_read (d.objects target)).mp passed
      exact (contains_reading _).mpr ((asked target rest).1 testing bound wants)
    | write =>
      have wants := (Callback.test_write (d.objects target)).mp passed
      exact (contains_writing _).mpr ((asked target rest).2 testing bound wants)
  · intro follows target rest
    constructor
    · intro testing bound wants
      have passed := (Callback.test_read (d.objects target)).mpr wants
      exact (contains_reading _).mp (follows .read target rest testing bound passed)
    · intro testing bound wants
      have passed := (Callback.test_write (d.objects target)).mpr wants
      exact (contains_writing _).mp (follows .write target rest testing bound passed)

/-- A step adds at most one invocation, of the callback whose test it passes. -/
theorem Step.log {before after : Dispatcher} {action : Action} (step : Step before action after) :
    after.log = before.log ∨ ∃ callback target rest,
      before.phase = .testing callback target rest ∧ before.bound target callback = true ∧
      callback.test (before.objects target) = true ∧
      after.log = before.log ++ [⟨callback, target, (before.objects target).revents⟩] := by
  cases step with
  | poll => exact .inl rfl
  | outside => exact .inl rfl
  | finish => exact .inl rfl
  | enter =>
    rw [Dispatcher.enter]
    split <;> exact .inl rfl
  | @handle _ callback target rest testing =>
    rw [Dispatcher.handle]
    by_cases invoked : callback.test (before.objects target) && before.bound target callback
    · rw [if_pos invoked]
      rw [Bool.and_eq_true] at invoked
      exact .inr ⟨callback, target, rest, testing, invoked.2, invoked.1, rfl⟩
    · rw [if_neg invoked]
      exact .inl rfl

/-- A test that passes invokes its callback. -/
theorem Step.invokes {before after : Dispatcher} {action : Action} {callback : Callback}
    {target : ChannelId} {rest : List ChannelId} (step : Step before action after)
    (testing : before.phase = .testing callback target rest)
    (bound : before.bound target callback = true)
    (passed : callback.test (before.objects target) = true) :
    ⟨callback, target, (before.objects target).revents⟩ ∈ after.log := by
  cases step with
  | poll polling => cases polling.symm.trans testing
  | outside polling => cases polling.symm.trans testing
  | finish ended => cases ended.symm.trans testing
  | enter next => cases next.symm.trans testing
  | handle other =>
    cases other.symm.trans testing
    rw [Dispatcher.handle, if_pos (by rw [passed, bound]; rfl)]
    exact List.mem_append_right _ (List.mem_singleton_self _)

/-- From a faithful dispatcher, a step leads to a faithful one exactly when no direction is asked
for that was not reported. -/
theorem Step.faithful_iff {before after : Dispatcher} {action : Action}
    (step : Step before action after) (faithful : before.Faithful) :
    after.Faithful ↔ before.Asked action := by
  rw [asked_iff]
  constructor
  · intro reported callback target rest testing bound passed
    exact reported _ (step.invokes testing bound passed)
  · intro asked invocation logged
    obtain same | ⟨callback, target, rest, testing, bound, passed, added⟩ := step.log
    · rw [same] at logged
      exact faithful _ logged
    · rw [added, List.mem_append, List.mem_singleton] at logged
      obtain old | rfl := logged
      · exact faithful _ old
      · exact asked callback target rest testing bound passed

/-- Invocations stay in the log. -/
theorem log_grows {first last : Dispatcher} {actions : List Action}
    (run : Run Step first actions last) : ∀ invocation ∈ first.log, invocation ∈ last.log := by
  induction run with
  | nil => exact fun _ logged => logged
  | cons head _ ih =>
    intro invocation logged
    apply ih
    obtain same | ⟨_, _, _, _, _, _, added⟩ := head.log
    · rw [same]
      exact logged
    · rw [added]
      exact List.mem_append_left _ logged

/-- In every run of the loop thread, over any number of iterations, any reported events and any
behaviour of the callbacks, read and write callbacks are invoked only for reported readiness
exactly when no channel about to be tested, with the callback set, asks for a direction that was
not reported for it. -/
theorem dispatch_faithful_iff (first : Dispatcher) (fresh : first.log = []) (actions : List Action)
    (last : Dispatcher) (run : Run Step first actions last) :
    last.Faithful ↔ Run (Guarded Step Asked) first actions last := by
  have start : first.Faithful := by
    intro invocation logged
    rw [fresh] at logged
    cases logged
  have keeps : ∀ before action after, before.Faithful →
      Guarded Step Asked before action after → after.Faithful :=
    fun before action after faithful taken => (taken.1.faithful_iff faithful).mpr taken.2
  constructor
  · intro faithful
    have needed : ∀ before action after, before.Faithful → Step before action after →
        after.Faithful → before.Asked action :=
      fun before action after faithful step => (step.faithful_iff faithful).mp
    exact run.guarded start keeps needed fun front back middle _ _ after invocation logged =>
      faithful invocation (log_grows after invocation logged)
  · intro guarded
    exact guarded.invariant start keeps

/-- A loop with one channel, for descriptor 3, whose callbacks are all set, with the given mask and
registered with it. -/
def oneChannel (events : Mask) : Dispatcher :=
  { objects := fun address => { Channel.new address 3 with events, index := kAdded }
    poller :=
      { channels := fun fd => if fd = 3 then some 0 else none
        interest := fun fd => if fd = 3 then some { events, ptr := 0 } else none }
    bound := fun _ _ => true
    tied := fun _ => false
    owned := fun _ => false
    phase := .polling
    log := [] }

/-- A channel that asks for reading only and is reported readable. -/
theorem dispatch_faithful_reading : ∃ last,
    Run Step (oneChannel kReadEvent)
      [.poll [{ events := pollIn, ptr := 0 }], .handle (oneChannel kReadEvent).toSurroundings,
        .handle (oneChannel kReadEvent).toSurroundings,
        .handle (oneChannel kReadEvent).toSurroundings,
        .handle (oneChannel kReadEvent).toSurroundings] last ∧
      last.log = [{ callback := .read, target := 0, revents := pollIn }] ∧ last.Faithful := by
  have run : ∃ last, Run (Guarded Step Asked) (oneChannel kReadEvent)
      [.poll [{ events := pollIn, ptr := 0 }], .handle (oneChannel kReadEvent).toSurroundings,
        .handle (oneChannel kReadEvent).toSurroundings,
        .handle (oneChannel kReadEvent).toSurroundings,
        .handle (oneChannel kReadEvent).toSurroundings] last ∧
      last.log = [{ callback := .read, target := 0, revents := pollIn }] := by
    refine ⟨_, .cons ⟨.poll rfl rfl, ?_⟩ (.cons ⟨.enter rfl, ?_⟩ (.cons ⟨.handle rfl, ?_⟩
      (.cons ⟨.handle rfl, ?_⟩ (.cons ⟨.handle rfl, ?_⟩ (.nil _))))), rfl⟩
    · intro target rest
      exact ⟨fun testing => (by cases testing), fun testing => (by cases testing)⟩
    · intro target rest
      exact ⟨fun testing => (by cases testing), fun testing => (by cases testing)⟩
    · intro target rest
      exact ⟨fun testing => (by cases testing), fun testing => (by cases testing)⟩
    · intro target rest
      exact ⟨fun testing => (by cases testing), fun testing => (by cases testing)⟩
    · intro target rest
      refine ⟨fun testing => ?_, fun testing => (by cases testing)⟩
      cases testing
      exact fun _ _ => .inl (show pollIn.getLsbD 0 = true by decide)
  obtain ⟨last, guarded, log⟩ := run
  exact ⟨last, guarded.unguarded, log,
    (dispatch_faithful_iff _ rfl _ last guarded.unguarded).mpr guarded⟩

/-- A channel that asks for reading and writing and is reported writable only has its read callback
invoked. -/
theorem writable_invokes_read : ∃ last,
    Run Step (oneChannel (kReadEvent ||| kWriteEvent))
      [.poll [{ events := pollOut, ptr := 0 }],
        .handle (oneChannel (kReadEvent ||| kWriteEvent)).toSurroundings,
        .handle (oneChannel (kReadEvent ||| kWriteEvent)).toSurroundings,
        .handle (oneChannel (kReadEvent ||| kWriteEvent)).toSurroundings,
        .handle (oneChannel (kReadEvent ||| kWriteEvent)).toSurroundings] last ∧
      last.log = [{ callback := .read, target := 0, revents := pollOut }] ∧ ¬last.Faithful := by
  refine ⟨_, .cons (.poll rfl rfl) (.cons (.enter rfl) (.cons (.handle rfl)
    (.cons (.handle rfl) (.cons (.handle rfl) (.nil _))))), rfl, fun faithful => ?_⟩
  have reported := faithful { callback := .read, target := 0, revents := pollOut }
    (List.mem_singleton_self _)
  exact reported rfl

end Dispatcher

end Muduo
