import Muduo.Net.Dispatch
import Muduo.Net.TcpFrame
import Muduo.Net.TcpTeardown

/-!
# A closed connection in its loop

The connection together with the loop that serves it: the poller reports the channel only while the
kernel watches it, `handleEvent` makes its four tests one after the other, and functors run when no
events are handled. `connectDestroyed` is two steps, with the calls of the connection callback
between them. The object that a channel is tied to is alive as long as its functions run.

A connection that has closed stays out of the poller unless `startReadInLoop` runs after the close,
or `stopReadInLoop` with `is_reading` still set, or the connection closes while it asks for nothing:
`EpollPoller::updateChannel` adds a channel that was deleted whatever its mask is.
-/

open Outcome Transition

namespace Muduo

namespace TcpConnection

/-- The kernel watches the descriptor of the connection. -/
def Registered (c : TcpConnection) : Prop := c.poller.interest c.channel.fd ≠ none

/-- The first part of `connectDestroyed`, up to the return of the connection callback. -/
def disconnectDestroyed (c : TcpConnection) : Except Fault TcpConnection :=
  if c.state == .kConnected then do
    let disabled ← { c with state := .kDisconnected }.setInterest .disableAll
    .ok disabled.connectionCallback
  else
    .ok c

/-- `connectDestroyed` in its two parts. -/
theorem connectDestroyed_eq (c : TcpConnection) :
    c.connectDestroyed = c.disconnectDestroyed >>= removeChannel := rfl

/-- The functions that work on the channel of a closed connection, or close one, find it as they
need it. -/
structure Respects (c : TcpConnection) (action : Action) : Prop where
  /-- Reading is not started on a closed connection. -/
  starts : c.runs action = some .startReadInLoop → c.state ≠ .kDisconnected
  /-- Reading is not stopped on a closed connection that has `is_reading` set. -/
  stops : c.runs action = some .stopReadInLoop → c.state = .kDisconnected → c.reading = false
  /-- A connection that is force-closed is registered. -/
  closes : c.runs action = some .forceCloseInLoop →
    c.state = .kConnected ∨ c.state = .kDisconnecting → c.Registered

variable {c after : TcpConnection}

/-- A tracked channel is registered exactly when it is added. -/
theorem registered_iff (tracks : c.poller.Tracks c.channel) :
    c.Registered ↔ c.channel.index = kAdded := by
  rw [Registered, tracks.watched]
  by_cases added : c.channel.index = kAdded
  · simp [added]
  · simp [added]

/-- Only a registered channel asks for something. -/
theorem registered_of_asks (tracks : c.poller.Tracks c.channel) (asks : c.channel.events ≠ 0) :
    c.Registered := by
  rw [registered_iff tracks]
  by_contra apart
  exact asks (tracks.asleep apart)

/-- A tracked channel whose interest changed is registered unless it was and asks for nothing. -/
theorem registered_change {call : Interest} (tracks : c.poller.Tracks c.channel)
    (changed : c.channel.change call c.poller = .ok (after.poller, after.channel)) :
    after.Registered ↔ ¬(c.Registered ∧ after.channel.events = 0) := by
  obtain ⟨kept, index⟩ := Channel.change_tracks tracks changed
  have deleted : kDeleted ≠ kAdded := by decide
  rw [registered_iff kept, registered_iff tracks, index, EpollPoller.nextIndex]
  split
  next both => simp [both, deleted]
  next other => exact ⟨fun _ => other, fun _ => rfl⟩

/-- A channel that is disabled asks for nothing. -/
theorem events_disableAll
    (changed : c.channel.change .disableAll c.poller = .ok (after.poller, after.channel)) :
    after.channel.events = 0 := by
  obtain ⟨index, same⟩ := Channel.change_same changed
  rw [same]
  rfl

/-- A connection that closes is out of the poller exactly when it was registered. -/
theorem Closes.registered (closes : c.Closes after) (tracks : c.poller.Tracks c.channel) :
    after.Registered ↔ ¬c.Registered := by
  rw [registered_change tracks closes.changed]
  simp [events_disableAll closes.changed]

/-- The first part of `connectDestroyed` closes a connected connection. -/
theorem disconnectDestroyed_closes (done : c.disconnectDestroyed = .ok after) :
    c.Closes after ∧ c.state = .kConnected ∨ after = c ∧ c.state ≠ .kConnected := by
  rw [disconnectDestroyed] at done
  split at done
  next connected =>
    left
    have up : c.state = .kConnected := beq_iff_eq.mp connected
    obtain ⟨disabled, disabling, rest⟩ := bind_eq_ok.mp done
    obtain ⟨poller, channel, changed, rfl⟩ := setInterest_eq_ok.mp disabling
    cases rest
    exact ⟨⟨.inl up, rfl, changed, rfl⟩, up⟩
  next other =>
    right
    cases done
    exact ⟨rfl, by simpa using other⟩

/-- The first part of `connectDestroyed` keeps the stream in order. -/
theorem disconnectDestroyed_flows (flows : c.Flows) (done : c.disconnectDestroyed = .ok after) :
    after.Flows := by
  rw [disconnectDestroyed] at done
  split at done
  next connected =>
    obtain ⟨disabled, disabling, rest⟩ := bind_eq_ok.mp done
    obtain ⟨poller, channel, changed, rfl⟩ := setInterest_eq_ok.mp disabling
    cases rest
    have move : Move .nothing c _ :=
      .close (.inl (beq_iff_eq.mp connected)) changed
    exact move.flows flows
  next => rwa [← Except.ok.inj done]

/-- What `m_channel->remove()` does when it fails no assertion. -/
theorem removeChannel_ok (tracks : c.poller.Tracks c.channel) (done : c.removeChannel = .ok after) :
    ∃ poller, poller.Tracks { c.channel with addedToLoop := false, index := kNew } ∧
      after = { c with
        poller, channel := { c.channel with addedToLoop := false, index := kNew } } := by
  have removable := (removeChannel_eq_ok done).2
  have parts := done
  rw [removeChannel] at parts
  obtain ⟨_, quiet, rest⟩ := bind_eq_ok.mp parts
  have none : c.channel.events = 0 := by simpa [Channel.isNoneEvent, kNoneEvent] using quiet
  have known : c.channel.index ≠ kNew := by
    intro fresh
    have unlisted := tracks.listed
    rw [if_pos fresh] at unlisted
    obtain ⟨removed, removing, -⟩ := bind_eq_ok.mp rest
    have stopped : EpollPoller.removeChannel c.poller { c.channel with addedToLoop := false } =
        .error (.assertion "m_channels.find(fd) != m_channels.end()") := by
      rw [EpollPoller.removeChannel, unlisted]
      rfl
    rw [EventLoop.removeChannel.eq_def] at removing
    split at removing
    · obtain ⟨_, -, removing⟩ := bind_eq_ok.mp removing
      cases stopped.symm.trans removing
    · cases stopped.symm.trans removing
  obtain ⟨poller, removed, left⟩ := removeChannel_quiet tracks known none removable
  exact ⟨poller, left, Except.ok.inj (done.symm.trans removed)⟩

end TcpConnection

/-- The handler of a connection behind a callback of its channel. -/
def Callback.action (received : Except Int (List UInt8)) (result : WriteResult) :
    Callback → TcpConnection.Action
  | .close => .close
  | .error => .error
  | .read => .read received
  | .write => .write result

/-- A connection and the loop that serves it. -/
structure ConnectionLoop where
  /-- The connection. -/
  conn : TcpConnection
  /-- The test that `handleEventWithGuard` of the connection's channel makes next. -/
  next : Option Callback
  /-- The active channels that are not handled yet. -/
  rest : List ChannelId
  /-- `connectDestroyed` is at its connection callback. -/
  destroying : Bool

namespace ConnectionLoop

/-- A connection that the loop has not seen. -/
def start (conn : TcpConnection) : ConnectionLoop :=
  { conn, next := none, rest := [], destroying := false }

/-- The loop turns to the first of the channels left, or ends the handling of events. -/
def handleNext (w : ConnectionLoop) (active : List ChannelId) : List ChannelId → ConnectionLoop
  | [] => { w with conn := { w.conn with turn := none }, rest := [] }
  | target :: rest => { w with
      conn := { w.conn with turn := some { active, current := target } }
      next := if target = w.conn.channel.address then some .close else none
      rest }

/-- The poller stores what it reports in the active channels. -/
def store (w : ConnectionLoop) (active : List ChannelId) (revents : Mask) : ConnectionLoop :=
  if w.conn.channel.address ∈ active then
    { w with conn := { w.conn with channel := { w.conn.channel with revents } } }
  else
    w

/-- What happens to the connection. -/
inductive Action
  /-- A call of one of its functions, a functor or a timer. -/
  | call (action : TcpConnection.Action)
  /-- The poller reports the active channels, and these events for the connection's own. -/
  | poll (active : List ChannelId) (revents : Mask)
  /-- The next test of `handleEventWithGuard`, with what the system calls of a handler return. -/
  | test (received : Except Int (List UInt8)) (result : WriteResult)
  /-- The loop goes on to the next active channel. -/
  | next
  /-- The first part of `connectDestroyed`. -/
  | destroy
  /-- The rest of `connectDestroyed`. -/
  | remove

/-- One step of the connection in its loop. No channel is reported twice, and the connection's own
only while the kernel watches it. -/
inductive Step : ConnectionLoop → Action → ConnectionLoop → Prop
  | call {w : ConnectionLoop} {action : TcpConnection.Action} {conn : TcpConnection}
      (step : TcpConnection.Step w.conn action conn) (outside : ¬action.Dispatched)
      (callback : w.destroying = true → (∀ result, action ≠ .task result) ∧ action ≠ .timer) :
      Step w (.call action) { w with conn }
  | poll {w : ConnectionLoop} {active : List ChannelId} {revents : Mask}
      (idle : w.conn.turn = none) (free : w.destroying = false) (once : active.Nodup)
      (watched : w.conn.channel.address ∈ active → w.conn.Registered) :
      Step w (.poll active revents) ((w.store active revents).handleNext active active)
  | invoke {w : ConnectionLoop} {callback : Callback} {received : Except Int (List UInt8)}
      {result : WriteResult} {conn : TcpConnection} (testing : w.next = some callback)
      (free : w.destroying = false) (passed : callback.test w.conn.channel = true)
      (step : TcpConnection.Step w.conn (callback.action received result) conn) :
      Step w (.test received result) { w with conn, next := callback.next }
  | skip {w : ConnectionLoop} {callback : Callback} {received : Except Int (List UInt8)}
      {result : WriteResult} (testing : w.next = some callback) (free : w.destroying = false)
      (failed : callback.test w.conn.channel = false) :
      Step w (.test received result) { w with next := callback.next }
  | next {w : ConnectionLoop} {turn : LoopTurn} (tested : w.next = none)
      (free : w.destroying = false) (handling : w.conn.turn = some turn) :
      Step w .next (w.handleNext turn.active w.rest)
  | destroy {w : ConnectionLoop} {conn : TcpConnection} (free : w.destroying = false)
      (inside : w.next ≠ some .close) (done : w.conn.disconnectDestroyed = .ok conn) :
      Step w .destroy { w with conn, destroying := true }
  | remove {w : ConnectionLoop} {conn : TcpConnection} (destroying : w.destroying = true)
      (done : w.conn.removeChannel = .ok conn) :
      Step w .remove { w with conn, destroying := false }

/-- The channel asks for nothing, the kernel does not watch it, and the loop is not about to invoke
its read, write or close callback. -/
structure Quiet (w : ConnectionLoop) : Prop where
  /-- The mask is empty. -/
  events : w.conn.channel.events = 0
  /-- The descriptor is not registered. -/
  unregistered : ¬w.conn.Registered
  /-- Only the error callback, which logs, may be invoked. -/
  callbacks : ∀ callback, w.next = some callback → callback.test w.conn.channel = true →
    callback = .error

/-- The condition under which a step leaves a closed connection quiet. -/
def Respects (w : ConnectionLoop) : Action → Prop
  | .call action => w.conn.Respects action
  | .test _ _ => w.next = some .close → Callback.close.test w.conn.channel = true →
      w.conn.Registered
  | .destroy => w.conn.state = .kConnected → w.conn.Registered
  | .poll _ _ => True
  | .next => True
  | .remove => True

/-- The loop handles the active channels in order, and tests the connection's own only when it is
the current one. -/
structure Placed (w : ConnectionLoop) : Prop where
  /-- Outside the handling of events nothing is left to handle. -/
  idle : w.conn.turn = none → w.next = none ∧ w.rest = []
  /-- The active channels are those handled, the current one and those left, each once. -/
  order : ∀ turn, w.conn.turn = some turn →
    turn.active.Nodup ∧ ∃ handled, turn.active = handled ++ turn.current :: w.rest
  /-- The tests are made on the current channel. -/
  own : w.next ≠ none → w.conn.Handling

variable {w after : ConnectionLoop}

/-- The current channel is not among those left. -/
theorem Placed.current (placed : w.Placed) (handling : w.conn.Handling) :
    w.conn.channel.address ∉ w.rest := by
  obtain ⟨turn, handled, current⟩ := handling
  obtain ⟨once, before, order⟩ := placed.order turn handled
  rw [order, current] at once
  have tail := (List.nodup_append.mp once).2.1
  exact (List.nodup_cons.mp tail).1

/-- Channels left are active. -/
theorem Placed.rest_active (placed : w.Placed) {turn : LoopTurn} {target : ChannelId}
    (handling : w.conn.turn = some turn) (left : target ∈ w.rest) : target ∈ turn.active := by
  obtain ⟨-, before, order⟩ := placed.order turn handling
  rw [order]
  exact List.mem_append_right _ (List.mem_cons_of_mem _ left)

/-- A step that leaves the loop where it is. -/
theorem Placed.kept (placed : w.Placed) (turn : after.conn.turn = w.conn.turn)
    (address : after.conn.channel.address = w.conn.channel.address)
    (next : after.next ≠ none → w.next ≠ none) (rest : after.rest = w.rest) : after.Placed where
  idle idle := by
    obtain ⟨none, nothing⟩ := placed.idle (turn.symm.trans idle)
    refine ⟨?_, rest.trans nothing⟩
    by_contra some
    exact next some none
  order := by
    rw [turn, rest]
    exact placed.order
  own some := by
    obtain ⟨handling, handled, current⟩ := placed.own (next some)
    exact ⟨handling, turn.trans handled, current.trans address.symm⟩

/-- The loop goes on. -/
theorem placed_handleNext {active before left : List ChannelId} (once : active.Nodup)
    (order : active = before ++ left) (tested : w.next = none) :
    (w.handleNext active left).Placed := by
  cases left with
  | nil => exact ⟨fun _ => ⟨tested, rfl⟩, nofun, fun some => absurd tested some⟩
  | cons target rest =>
    refine ⟨nofun, ?_, ?_⟩
    · intro turn handling
      cases handling
      exact ⟨once, before, order⟩
    · intro some
      dsimp only [handleNext] at some
      split at some
      next own => exact ⟨_, rfl, own⟩
      next => exact absurd rfl some

/-- A loop that has nothing to do with the connection's channel goes on without it. -/
theorem handleNext_away {active left : List ChannelId} (tested : w.next = none)
    (away : w.conn.channel.address ∉ left) :
    (w.handleNext active left).next = none ∧
      w.conn.channel.address ∉ (w.handleNext active left).rest := by
  cases left with
  | nil => exact ⟨tested, List.not_mem_nil⟩
  | cons target rest =>
    obtain ⟨other, others⟩ := List.ne_and_not_mem_of_not_mem_cons away
    exact ⟨if_neg (Ne.symm other), others⟩

/-- Where the loop is does not concern the connection. -/
theorem handleNext_conn (w : ConnectionLoop) (active left : List ChannelId) :
    ∃ turn, (w.handleNext active left).conn = { w.conn with turn } := by
  cases left with
  | nil => exact ⟨_, rfl⟩
  | cons target rest => exact ⟨_, rfl⟩

/-- A closed connection is quiet, and the loop will not come to its channel any more. -/
structure Hushed (w : ConnectionLoop) : Prop where
  /-- The output stream is in order. -/
  flows : w.conn.Flows
  /-- The loop handles the active channels in order. -/
  placed : w.Placed
  /-- A closed connection asks for nothing. -/
  asleep : w.conn.state = .kDisconnected → w.conn.channel.events = 0
  /-- A closed connection is not registered. -/
  unregistered : w.conn.state = .kDisconnected → ¬w.conn.Registered
  /-- The channel of a closed connection is not about to be tested for a hang-up. -/
  passed : w.conn.state = .kDisconnected → w.next ≠ some .close
  /-- The channel of a closed connection is not left to be handled. -/
  away : w.conn.state = .kDisconnected → w.destroying = false →
    w.conn.channel.address ∉ w.rest

/-- A closed connection is quiet. -/
theorem Hushed.quiet (hushed : w.Hushed) (down : w.conn.state = .kDisconnected) : w.Quiet where
  events := hushed.asleep down
  unregistered := hushed.unregistered down
  callbacks callback testing passed := by
    have none := hushed.asleep down
    cases callback with
    | close => exact absurd testing (hushed.passed down)
    | error => rfl
    | read =>
      rw [Callback.test, none] at passed
      exact absurd passed (by decide)
    | write =>
      rw [Callback.test, none] at passed
      exact absurd passed (by decide)

/-- The loop goes on with a connection whose output stream is in order. -/
theorem flows_handleNext (flows : w.conn.Flows) (active left : List ChannelId) :
    (w.handleNext active left).conn.Flows := by
  obtain ⟨turn, same⟩ := w.handleNext_conn active left
  rw [same]
  exact ⟨flows.valid, flows.tracks, flows.agrees, flows.closed, flows.stream⟩

/-- The poller stores events for a connection whose output stream is in order. -/
theorem flows_store (flows : w.conn.Flows) (active : List ChannelId) (revents : Mask) :
    (w.store active revents).conn.Flows := by
  rw [store]
  split
  · have tracks := flows.tracks
    exact ⟨flows.valid, ⟨tracks.index, tracks.listed, tracks.watched, tracks.asleep⟩,
      flows.agrees, flows.closed, flows.stream⟩
  · exact flows

/-- The loop goes on past a closed connection. -/
theorem Hushed.handleNext {active before left : List ChannelId} (hushed : w.Hushed)
    (once : active.Nodup) (order : active = before ++ left) (tested : w.next = none)
    (away : w.conn.state = .kDisconnected → w.conn.channel.address ∉ left) :
    (w.handleNext active left).Hushed := by
  obtain ⟨turn, same⟩ := w.handleNext_conn active left
  refine ⟨flows_handleNext hushed.flows _ _, placed_handleNext once order tested, ?_, ?_, ?_, ?_⟩
  · rw [same]
    exact hushed.asleep
  · rw [same]
    exact hushed.unregistered
  · rw [same]
    intro down
    rw [(handleNext_away tested (away down)).1]
    simp
  · rw [same]
    intro down _
    exact (handleNext_away tested (away down)).2

/-- The poller stores events for channels that are registered. -/
theorem Hushed.store {active : List ChannelId} (hushed : w.Hushed)
    (watched : w.conn.channel.address ∈ active → w.conn.Registered) (revents : Mask) :
    (w.store active revents).Hushed := by
  have flows := flows_store hushed.flows active revents
  rw [ConnectionLoop.store] at flows ⊢
  split at flows
  next reported =>
    rw [if_pos reported]
    have up : w.conn.state ≠ .kDisconnected := fun down =>
      hushed.unregistered down (watched reported)
    exact ⟨flows, hushed.placed.kept rfl rfl id rfl, fun down => absurd down up,
      fun down => absurd down up, fun down => absurd down up, fun down => absurd down up⟩
  next absent =>
    rw [if_neg absent]
    exact hushed

/-- The channel of a connection that closes. -/
theorem closes_same {c conn : TcpConnection} (closes : c.Closes conn) :
    conn.channel.address = c.channel.address := by
  obtain ⟨index, same⟩ := Channel.change_same closes.changed
  rw [same]
  rfl

/-- A connection that was registered closes while the loop is past its channel. -/
theorem Hushed.closed (hushed : w.Hushed) {conn : TcpConnection} (closes : w.conn.Closes conn)
    (flows : conn.Flows) (watched : w.conn.Registered) (conn' : after.conn = conn)
    (next : after.next ≠ none → w.next ≠ none) (rest : after.rest = w.rest)
    (passed : after.next ≠ some .close)
    (away : after.destroying = false → w.conn.channel.address ∉ w.rest) : after.Hushed := by
  have same := closes_same closes
  subst conn'
  refine ⟨flows, hushed.placed.kept closes.turn same next rest, ?_, ?_, fun _ => passed, ?_⟩
  · exact fun _ => TcpConnection.events_disableAll closes.changed
  · intro _ registered
    exact (closes.registered hushed.flows.tracks).mp registered watched
  · intro _ free
    rw [same, rest]
    exact away free

/-- A connection that stays as open as it was, and out of the poller when it is closed. -/
theorem Hushed.stays (hushed : w.Hushed) {conn : TcpConnection} (stays : w.conn.Stays conn)
    (flows : conn.Flows) (conn' : after.conn = conn)
    (next : after.next ≠ none → w.next ≠ none) (rest : after.rest = w.rest)
    (destroying : after.destroying = w.destroying)
    (closed : w.conn.state = .kDisconnected → conn.channel.events = 0 ∧ ¬conn.Registered ∧
      after.next ≠ some .close) : after.Hushed := by
  subst conn'
  have down : after.conn.state = .kDisconnected → w.conn.state = .kDisconnected := by
    intro closed
    by_contra up
    exact stays.opened up closed
  refine ⟨flows, hushed.placed.kept stays.turn stays.address next rest, ?_, ?_, ?_, ?_⟩
  · exact fun now => (closed (down now)).1
  · exact fun now => (closed (down now)).2.1
  · exact fun now => (closed (down now)).2.2
  · intro now free
    rw [stays.address, rest]
    exact hushed.away (down now) (destroying.symm.trans free)

/-- Only functors force a close, when no events are handled, and an open connection closes. -/
theorem forceClose_idle {c conn : TcpConnection} {action : TcpConnection.Action}
    (step : TcpConnection.Step c action conn) (run : c.runs action = some .forceCloseInLoop) :
    c.turn = none ∧ (c.state = .kConnected ∨ c.state = .kDisconnecting →
      conn.state = .kDisconnected) := by
  have attempt : TcpConnection.Attempt c action (.ok conn) := step
  generalize outcome : Except.ok conn = result at attempt
  symm at outcome
  cases attempt with
  | @task task rest written first idle fits =>
    have head : c.tasks.head? = some .forceCloseInLoop := run
    rw [first] at head
    cases head
    refine ⟨idle.resolve_right (by simp), fun up => ?_⟩
    have closed : TcpConnection.forceCloseInLoop { c with tasks := rest } = .ok conn := outcome
    rw [TcpConnection.forceCloseInLoop, if_pos (by simpa using up)] at closed
    exact (TcpConnection.handleClose_closes closed).down
  | @startRead caller =>
    cases caller with
    | loop => cases run
    | other => cases run
  | @stopRead caller =>
    cases caller with
    | loop => cases run
    | other => cases run
  | _ => cases run

/-- Only force-closes close a connection among the calls and functors. -/
theorem mayClose_outside {c : TcpConnection} {action : TcpConnection.Action}
    (may : c.MayClose action) (outside : ¬action.Dispatched) :
    c.runs action = some .forceCloseInLoop := by
  cases action with
  | read => exact absurd trivial outside
  | close => exact absurd trivial outside
  | _ => exact may

/-- A call or a functor that respects a closed connection keeps it quiet. -/
theorem hushed_call {action : TcpConnection.Action} {conn : TcpConnection} (hushed : w.Hushed)
    (step : TcpConnection.Step w.conn action conn) (outside : ¬action.Dispatched)
    (respects : w.conn.Respects action) : Hushed { w with conn } := by
  have flows := step.flows hushed.flows
  have inside : ∀ next, action ≠ .turn next := by
    rintro next rfl
    exact outside trivial
  obtain stays | ⟨closes, may⟩ := step.stays inside
  · refine hushed.stays stays flows rfl id rfl rfl fun down => ?_
    have asleep := hushed.asleep down
    cases step.stirs outside down asleep with
    | still channel poller =>
      rw [TcpConnection.Registered, channel, poller]
      exact ⟨asleep, hushed.unregistered down, hushed.passed down⟩
    | starts run => exact absurd down (respects.starts run)
    | stops run reading => cases reading.symm.trans (respects.stops run down)
  · have run := mayClose_outside may outside
    obtain ⟨tested, nothing⟩ := hushed.placed.idle (forceClose_idle step run).1
    refine hushed.closed closes flows (respects.closes run closes.up) rfl id rfl ?_ fun _ => ?_
    · rw [tested]
      simp
    · rw [nothing]
      exact List.not_mem_nil

/-- The close callback is tested for first. -/
theorem next_ne_close (callback : Callback) : callback.next ≠ some .close := by
  cases callback <;> simp [Callback.next]

/-- The error callback does nothing to the connection. -/
theorem error_same {c conn : TcpConnection} (step : TcpConnection.Step c .error conn) :
    conn = c := by
  have attempt : TcpConnection.Attempt c .error (.ok conn) := step
  generalize outcome : Except.ok conn = result at attempt
  cases attempt with
  | error => exact Except.ok.inj outcome

/-- The close callback closes the connection. -/
theorem close_closes {c conn : TcpConnection} (step : TcpConnection.Step c .close conn) :
    c.Closes conn := by
  have attempt : TcpConnection.Attempt c .close (.ok conn) := step
  generalize outcome : Except.ok conn = result at attempt
  cases attempt with
  | close => exact TcpConnection.handleClose_closes outcome.symm

/-- A handler of a registered connection keeps it quiet once it is closed. -/
theorem hushed_invoke {callback : Callback} {received : Except Int (List UInt8)}
    {result : WriteResult} {conn : TcpConnection} (hushed : w.Hushed)
    (testing : w.next = some callback) (passed : callback.test w.conn.channel = true)
    (step : TcpConnection.Step w.conn (callback.action received result) conn)
    (watched : callback = .close → w.conn.Registered) :
    Hushed { w with conn, next := callback.next } := by
  have flows := step.flows hushed.flows
  have some : w.next ≠ none := by
    rw [testing]
    simp
  have inside : ∀ next, callback.action received result ≠ .turn next := by
    cases callback <;> simp [Callback.action]
  by_cases down : w.conn.state = .kDisconnected
  · obtain rfl := (hushed.quiet down).callbacks callback testing passed
    obtain rfl := error_same step
    exact hushed.stays (.refl _) flows rfl (fun _ => some) rfl rfl fun _ =>
      ⟨hushed.asleep down, hushed.unregistered down, next_ne_close .error⟩
  · obtain stays | ⟨closes, may⟩ := step.stays inside
    · exact hushed.stays stays flows rfl (fun _ => some) rfl rfl fun closed => absurd closed down
    · have registered : w.conn.Registered := by
        cases callback with
        | close => exact watched rfl
        | read =>
          refine TcpConnection.registered_of_asks hushed.flows.tracks fun none => ?_
          rw [Callback.test, none] at passed
          exact absurd passed (by decide)
        | error => cases may
        | write => cases may
      exact hushed.closed closes flows registered rfl (fun _ => some) rfl (next_ne_close _)
        fun _ => hushed.placed.current (hushed.placed.own some)

/-- `m_channel->remove()` takes a connection out of the poller and keeps everything else. -/
theorem hushed_remove {conn : TcpConnection} (hushed : w.Hushed)
    (done : w.conn.removeChannel = .ok conn) : Hushed { w with conn, destroying := false } := by
  have flows := hushed.flows
  have removable := (TcpConnection.removeChannel_eq_ok done).2
  obtain ⟨poller, tracks, rfl⟩ := TcpConnection.removeChannel_ok flows.tracks done
  refine ⟨⟨flows.valid, tracks, flows.agrees, flows.closed, flows.stream⟩,
    hushed.placed.kept rfl rfl id rfl, hushed.asleep, fun _ => ?_, hushed.passed,
    fun _ _ left => ?_⟩
  · rw [TcpConnection.registered_iff tracks]
    exact show kNew ≠ kAdded by decide
  · change w.conn.channel.address ∈ w.rest at left
    cases handled : w.conn.turn with
    | none =>
      rw [(hushed.placed.idle handled).2] at left
      cases left
    | some turn =>
      obtain current | inactive := removable turn handled
      · exact hushed.placed.current ⟨turn, handled, current⟩ left
      · exact inactive (hushed.placed.rest_active handled left)

/-- Every step that respects a closed connection keeps it quiet. -/
theorem Step.hushed {action : Action} (step : Step w action after) (hushed : w.Hushed)
    (respects : w.Respects action) : after.Hushed := by
  cases step with
  | call step outside => exact hushed_call hushed step outside respects
  | @poll active revents idle free once watched =>
    have stored := hushed.store watched revents
    have tested : (w.store active revents).next = none := by
      rw [store]
      split
      · exact (hushed.placed.idle idle).1
      · exact (hushed.placed.idle idle).1
    refine stored.handleNext once (List.nil_append _).symm tested fun down reported => ?_
    apply stored.unregistered down
    rw [store] at reported ⊢
    split at reported
    next own =>
      rw [if_pos own]
      exact watched own
    next other => exact absurd reported other
  | invoke testing free passed step =>
    refine hushed_invoke hushed testing passed step ?_
    rintro rfl
    exact respects testing passed
  | @skip callback _ _ testing free failed =>
    have some : w.next ≠ none := by
      rw [testing]
      simp
    exact hushed.stays (.refl _) hushed.flows rfl (fun _ => some) rfl rfl fun down =>
      ⟨hushed.asleep down, hushed.unregistered down, next_ne_close _⟩
  | next tested free handling =>
    obtain ⟨once, handled, order⟩ := hushed.placed.order _ handling
    rw [List.append_cons] at order
    exact hushed.handleNext once order tested fun down => hushed.away down free
  | destroy free inside done =>
    have flows := TcpConnection.disconnectDestroyed_flows hushed.flows done
    obtain ⟨closes, connected⟩ | ⟨rfl, -⟩ := TcpConnection.disconnectDestroyed_closes done
    · exact hushed.closed closes flows (respects connected) rfl id rfl inside (fun free => by
        cases free)
    · refine ⟨hushed.flows, hushed.placed.kept rfl rfl id rfl, hushed.asleep, hushed.unregistered,
        hushed.passed, fun _ free => ?_⟩
      cases free
  | remove destroying done => exact hushed_remove hushed done

/-- A call or a functor after which a closed connection is quiet respects that it is closed. -/
theorem call_respects {action : TcpConnection.Action} {conn : TcpConnection} (hushed : w.Hushed)
    (step : TcpConnection.Step w.conn action conn) (outside : ¬action.Dispatched)
    (quiet : conn.state = .kDisconnected → Quiet { w with conn }) : w.conn.Respects action := by
  have tracks := hushed.flows.tracks
  have inside : ∀ next, action ≠ .turn next := by
    rintro next rfl
    exact outside trivial
  refine ⟨fun run down => ?_, fun run down => ?_, fun run up => ?_⟩
  · have closed := quiet (step.down hushed.flows down)
    cases step.stirs outside down (hushed.asleep down) with
    | still _ _ unstarted => exact unstarted run
    | starts _ changed =>
      obtain ⟨index, same⟩ := Channel.change_same changed
      have empty : conn.channel.events = 0 := closed.events
      have asks : Interest.enableReading.apply w.conn.channel.events ≠ 0 :=
        Interest.apply_ne_zero _ rfl
      rw [same] at empty
      exact asks empty
    | stops other => cases run.symm.trans other
  · have closed := quiet (step.down hushed.flows down)
    cases step.stirs outside down (hushed.asleep down) with
    | still _ _ _ unstopped => exact unstopped run
    | starts other => cases run.symm.trans other
    | stops _ _ changed =>
      have registered : conn.Registered := (TcpConnection.registered_change tracks changed).mpr
        fun both => hushed.unregistered down both.1
      exact absurd registered closed.unregistered
  · have down := (forceClose_idle step run).2 up
    obtain stays | ⟨closes, -⟩ := step.stays inside
    · refine absurd down (stays.opened ?_)
      rintro already
      rw [already] at up
      simp at up
    · by_contra unregistered
      exact (quiet down).unregistered ((closes.registered tracks).mpr unregistered)

/-- Every step after which a closed connection is quiet respects that it is closed. -/
theorem Step.respects {action : Action} (step : Step w action after) (hushed : w.Hushed)
    (quiet : after.conn.state = .kDisconnected → after.Quiet) : w.Respects action := by
  have tracks := hushed.flows.tracks
  cases step with
  | call step outside => exact call_respects hushed step outside quiet
  | poll => trivial
  | invoke testing free passed step =>
    intro close _
    cases testing.symm.trans close
    have closes := close_closes step
    by_contra unregistered
    exact (quiet closes.down).unregistered ((closes.registered tracks).mpr unregistered)
  | skip testing free failed =>
    intro close passed
    cases testing.symm.trans close
    cases failed.symm.trans passed
  | next => trivial
  | destroy free inside done =>
    intro connected
    obtain ⟨closes, -⟩ | ⟨-, other⟩ := TcpConnection.disconnectDestroyed_closes done
    · by_contra unregistered
      exact (quiet closes.down).unregistered ((closes.registered tracks).mpr unregistered)
    · exact absurd connected other
  | remove => trivial

/-- A new connection is open, and the loop has not seen it. -/
theorem start_hushed {address : ChannelId} {fd : Int} {poller : EpollPoller} {highWaterMark : Nat}
    {writeComplete highWater : Bool} {first : TcpConnection} (unknown : poller.channels fd = none)
    (unwatched : poller.interest fd = none)
    (made : TcpConnection.new address fd poller highWaterMark writeComplete highWater =
      .ok first) : (start first).Hushed := by
  have flows := TcpConnection.new_flows unknown unwatched made
  obtain ⟨_, _, rest⟩ := bind_eq_ok.mp made
  obtain ⟨_, _, rest⟩ := bind_eq_ok.mp rest
  obtain rfl := Except.ok.inj rest
  refine ⟨flows, ⟨fun _ => ⟨rfl, rfl⟩, fun turn handling => ?_, fun some => absurd rfl some⟩,
    ?_, ?_, ?_, ?_⟩
  · cases handling
  · intro down
    cases down
  · intro down
    cases down
  · intro down
    cases down
  · intro down
    cases down

/-- No step opens a closed connection. -/
theorem Step.down {action : Action} (step : Step w action after) (hushed : w.Hushed)
    (down : w.conn.state = .kDisconnected) : after.conn.state = .kDisconnected := by
  cases step with
  | call step => exact step.down hushed.flows down
  | @poll active revents =>
    obtain ⟨turn, same⟩ := (w.store active revents).handleNext_conn active active
    rw [same, store]
    split
    · exact down
    · exact down
  | invoke _ _ _ step => exact step.down hushed.flows down
  | skip => exact down
  | @next turn =>
    obtain ⟨now, same⟩ := w.handleNext_conn turn.active w.rest
    rw [same]
    exact down
  | destroy _ _ done =>
    obtain ⟨closes, -⟩ | ⟨rfl, -⟩ := TcpConnection.disconnectDestroyed_closes done
    · exact closes.down
    · exact down
  | remove _ done => exact (TcpConnection.removeChannel_eq_ok done).1.trans down

/-- A closed connection stays silent: in every run in which reading is not started on a closed
connection, nor stopped with `is_reading` set, and a connection that closes through
`forceCloseInLoop`, a hang-up or `connectDestroyed` is registered with the poller, a connection that
has closed stays closed, asks for nothing, is not registered, and none of its handlers is about to
run. A step that does not meet the condition breaks this. -/
theorem closed_connection_silent (address : ChannelId) (fd : Int) (poller : EpollPoller)
    (highWaterMark : Nat) (writeComplete highWater : Bool) (first : TcpConnection)
    (unknown : poller.channels fd = none) (unwatched : poller.interest fd = none)
    (made : TcpConnection.new address fd poller highWaterMark writeComplete highWater = .ok first)
    (actions : List Action) (w : ConnectionLoop)
    (run : Run (Guarded Step Respects) (start first) actions w) :
    (w.conn.state = .kDisconnected → ∀ later last, Run (Guarded Step Respects) w later last →
      last.conn.state = .kDisconnected ∧ last.Quiet) ∧
    ∀ action after, Step w action after →
      ((after.conn.state = .kDisconnected → after.Quiet) ↔ w.Respects action) := by
  have keeps : ∀ before action after, before.Hushed →
      Guarded Step Respects before action after → after.Hushed :=
    fun _ _ _ hushed taken => taken.1.hushed hushed taken.2
  have hushed : w.Hushed := run.invariant (start_hushed unknown unwatched made) keeps
  refine ⟨fun down later last more => ?_, fun action after step => ?_⟩
  · have start : w.Hushed ∧ w.conn.state = .kDisconnected := ⟨hushed, down⟩
    have stays : ∀ before action after, before.Hushed ∧ before.conn.state = .kDisconnected →
        Guarded Step Respects before action after →
          after.Hushed ∧ after.conn.state = .kDisconnected :=
      fun _ _ _ kept taken => ⟨keeps _ _ _ kept.1 taken, taken.1.down kept.1 kept.2⟩
    have both := more.invariant start stays
    exact ⟨both.2, both.1.quiet both.2⟩
  · constructor
    · exact step.respects hushed
    · exact fun respects => (step.hushed hushed respects).quiet

/-- Another thread closes the connection by force and stops its reading: the functor that stops the
reading finds it closed. -/
theorem closed_connection_silent_stopped :
    ∃ first w, TcpConnection.new 0 3 .new 65536 false false = .ok first ∧
      Run (Guarded Step Respects) (start first)
        [.call (.task (.failed 0 0)), .call .forceClose, .call (.stopRead .other),
          .call (.task (.failed 0 0)), .call (.task (.failed 0 0))] w ∧
      w.conn.state = .kDisconnected ∧ w.Quiet := by
  have made : ∃ first w, TcpConnection.new 0 3 .new 65536 false false = .ok first ∧
      Run (Guarded Step Respects) (start first)
        [.call (.task (.failed 0 0)), .call .forceClose, .call (.stopRead .other),
          .call (.task (.failed 0 0)), .call (.task (.failed 0 0))] w ∧
      w.conn.state = .kDisconnected := by
    rw [TcpConnection.new, Buffer.new_eq (by decide)]
    refine ⟨_, _, rfl,
      .cons ⟨.call (TcpConnection.Attempt.step (.task rfl (.inl rfl) ?_) rfl) id ?_, ?_⟩
      (.cons ⟨.call (TcpConnection.Attempt.step .forceClose rfl) id ?_, ?_⟩
      (.cons ⟨.call (TcpConnection.Attempt.step .stopRead rfl) id ?_, ?_⟩
      (.cons ⟨.call (TcpConnection.Attempt.step (.task rfl (.inl rfl) ?_) rfl) id ?_, ?_⟩
      (.cons ⟨.call (TcpConnection.Attempt.step (.task rfl (.inl rfl) ?_) rfl) id ?_, ?_⟩
        (.nil _))))), rfl⟩
    · intro message other
      cases other
    · intro busy
      cases busy
    · exact ⟨fun run => (by cases run), fun run => (by cases run), fun run => (by cases run)⟩
    · intro busy
      cases busy
    · exact ⟨fun run => (by cases run), fun run => (by cases run), fun run => (by cases run)⟩
    · intro busy
      cases busy
    · exact ⟨fun run => (by cases run), fun run => (by cases run), fun run => (by cases run)⟩
    · intro message other
      cases other
    · intro busy
      cases busy
    · refine ⟨fun run => (by cases run), fun run => (by cases run), fun _ _ => ?_⟩
      exact Option.some_ne_none _
    · intro message other
      cases other
    · intro busy
      cases busy
    · exact ⟨fun run => (by cases run), fun _ _ => rfl, fun run => (by cases run)⟩
  obtain ⟨first, w, built, run, down⟩ := made
  have silent := closed_connection_silent 0 3 .new 65536 false false first rfl rfl built _ w run
  exact ⟨first, w, built, run, down, (silent.1 down [] w (.nil w)).2⟩

/-- Another thread closes the connection by force and starts its reading: the functor that starts
the reading finds it closed and registers its channel again, and the next hang-up runs `handleClose`
into its assertion. -/
theorem reading_started_after_close :
    ∃ first middle last, TcpConnection.new 0 3 .new 65536 false false = .ok first ∧
      Run Step (start first)
        [.call (.task (.failed 0 0)), .call .forceClose, .call (.startRead .other),
          .call (.task (.failed 0 0))] middle ∧
      middle.conn.state = .kDisconnected ∧
      Run Step middle [.call (.task (.failed 0 0)), .poll [0] pollHup] last ∧
      last.conn.state = .kDisconnected ∧ last.conn.channel.events = kReadEvent ∧
      last.conn.poller.interest 3 = some { events := kReadEvent, ptr := 0 } ∧
      last.next = some .close ∧ Callback.close.test last.conn.channel = true ∧
      last.conn.handleClose =
        .error (.assertion "m_state == kConnected || m_state == kDisconnecting") ∧
      ¬last.Quiet := by
  have made : ∃ first middle last, TcpConnection.new 0 3 .new 65536 false false = .ok first ∧
      Run Step (start first)
        [.call (.task (.failed 0 0)), .call .forceClose, .call (.startRead .other),
          .call (.task (.failed 0 0))] middle ∧
      middle.conn.state = .kDisconnected ∧
      Run Step middle [.call (.task (.failed 0 0)), .poll [0] pollHup] last ∧
      last.conn.state = .kDisconnected ∧ last.conn.channel.events = kReadEvent ∧
      last.conn.poller.interest 3 = some { events := kReadEvent, ptr := 0 } ∧
      last.next = some .close ∧ Callback.close.test last.conn.channel = true ∧
      last.conn.handleClose =
        .error (.assertion "m_state == kConnected || m_state == kDisconnecting") := by
    rw [TcpConnection.new, Buffer.new_eq (by decide)]
    refine ⟨_, _, _, rfl,
      .cons (.call (TcpConnection.Attempt.step (.task rfl (.inl rfl) ?_) rfl) id ?_)
      (.cons (.call (TcpConnection.Attempt.step .forceClose rfl) id ?_)
      (.cons (.call (TcpConnection.Attempt.step .startRead rfl) id ?_)
      (.cons (.call (TcpConnection.Attempt.step (.task rfl (.inl rfl) ?_) rfl) id ?_)
        (.nil _)))), rfl,
      .cons (.call (TcpConnection.Attempt.step (.task rfl (.inl rfl) ?_) rfl) id ?_)
      (.cons (.poll rfl rfl ?_ ?_) (.nil _)), rfl, rfl, rfl, rfl, rfl, rfl⟩
    · intro message other
      cases other
    · intro busy
      cases busy
    · intro busy
      cases busy
    · intro busy
      cases busy
    · intro message other
      cases other
    · intro busy
      cases busy
    · intro message other
      cases other
    · intro busy
      cases busy
    · decide
    · exact fun _ => Option.some_ne_none _
  obtain ⟨first, middle, last, built, opened, down, later, still, events, watched, next, passed,
    stopped⟩ := made
  refine ⟨first, middle, last, built, opened, down, later, still, events, watched, next, passed,
    stopped, fun quiet => ?_⟩
  cases quiet.callbacks .close next passed

end ConnectionLoop

end Muduo
