import Muduo.Net.TcpStream

/-!
# The end of a connection

`connectDestroyed` is the last thing that runs on a connection: after `handleClose`, when the server
has removed the connection, or when the server dies with the connection in any state.
-/

open Outcome Transition

namespace Muduo

namespace TcpConnection

/-- The times the connection callback was invoked with the connection up or down. -/
def callbackCount (c : TcpConnection) (up : Bool) : Nat := c.trace.count (.connectionCallback up)

/-- Effects that are not connection callbacks do not count. -/
theorem count_append {trace effects : List ConnEffect} {up : Bool}
    (none : ∀ effect ∈ effects, effect ≠ .connectionCallback up) :
    (trace ++ effects).count (.connectionCallback up) = trace.count (.connectionCallback up) := by
  rw [List.count_append, List.count_eq_zero_of_not_mem fun member => none _ member rfl,
    Nat.add_zero]

/-- What is so of a connection that is never asked to start reading. -/
structure Accounted (c : TcpConnection) : Prop where
  /-- The poller knows the channel of an established connection. -/
  known : c.state ≠ .kConnecting → c.channel.index ≠ kNew
  /-- Once closed, the connection asks for nothing. -/
  asleep : c.state = .kDisconnected → c.channel.events = 0
  /-- The connection callback was invoked once with the connection up, since it is established. -/
  ups : c.callbackCount true = if c.state = .kConnecting then 0 else 1
  /-- It was invoked with the connection down exactly when the connection is closed. -/
  downs : c.callbackCount false = if c.state = .kDisconnected then 1 else 0
  /-- Nobody has asked to start reading. -/
  tasks : .startReadInLoop ∉ c.tasks

/-- Nobody calls `startRead`. -/
def NoStart (_ : TcpConnection) (action : Action) : Prop := ∀ caller, action ≠ .startRead caller

/-- `connectDestroyed` fails no assertion, leaves the connection closed and its channel unknown to
the poller and the kernel, and the connection callback was invoked once up and once down. -/
def TornDown (c : TcpConnection) : Prop :=
  ∃ after, c.connectDestroyed = .ok after ∧ after.state = .kDisconnected ∧
    after.poller.hasChannel after.channel = false ∧
    after.poller.interest after.channel.fd = none ∧ after.channel.addedToLoop = false ∧
    after.callbackCount true = 1 ∧ after.callbackCount false = 1

/-- The loop is not handling the events of another channel with this one among the active. -/
def Removable (c : TcpConnection) : Prop :=
  ∀ turn, c.turn = some turn →
    turn.current = c.channel.address ∨ c.channel.address ∉ turn.active

variable {permits : Permits} {c after : TcpConnection}

/-- A change of interest makes the channel known to the poller. -/
theorem change_known {poller : EpollPoller} {channel : Channel} {call : Interest}
    (tracks : c.poller.Tracks c.channel)
    (changed : c.channel.change call c.poller = .ok (poller, channel)) : channel.index ≠ kNew := by
  rw [(Channel.change_tracks tracks changed).2, EpollPoller.nextIndex]
  split <;> decide

/-- Only callbacks are queued. -/
theorem Callbacks.keep {before tasks : List ConnTask} (callbacks : Callbacks before tasks)
    (absent : .startReadInLoop ∉ before) : .startReadInLoop ∉ tasks :=
  fun member => (callbacks _ member).elim absent id

/-- A connection in an open state that stays in it or begins to close, with effects that are no
connection callbacks. -/
theorem Accounted.opened (acc : c.Accounted) (up : c.state ≠ .kDisconnected)
    {effects : List ConnEffect} (known : c.state ≠ .kConnecting → after.channel.index ≠ kNew)
    (state : after.state = c.state ∨ c.state ≠ .kConnecting ∧ after.state = .kDisconnecting)
    (trace : after.trace = c.trace ++ effects)
    (silent : ∀ effect ∈ effects, ∀ up, effect ≠ .connectionCallback up)
    (tasks : .startReadInLoop ∉ after.tasks) : after.Accounted := by
  have count (up : Bool) : after.callbackCount up = c.callbackCount up := by
    rw [callbackCount, trace]
    exact count_append fun effect member => silent effect member up
  have open' : after.state ≠ .kDisconnected := by
    obtain same | ⟨_, closing⟩ := state
    · rwa [same]
    · rw [closing]
      nofun
  have begun : after.state = .kConnecting ↔ c.state = .kConnecting := by
    obtain same | ⟨established, closing⟩ := state
    · rw [same]
    · rw [closing]
      exact ⟨nofun, fun connecting => absurd connecting established⟩
  refine ⟨fun established => known (mt begun.mpr established),
    fun closed => absurd closed open', ?_, ?_, tasks⟩
  · rw [count, acc.ups]
    simp only [begun]
  · rw [count, acc.downs, if_neg up, if_neg open']

/-- The effects of a connection that keeps its state and channel, none of them connection
callbacks. -/
theorem Accounted.noted (acc : c.Accounted) {effect : ConnEffect}
    (silent : ∀ up, effect ≠ .connectionCallback up) : (c.note effect).Accounted := by
  have count (up : Bool) : (c.note effect).callbackCount up = c.callbackCount up :=
    count_append fun other member => by
      rw [List.mem_singleton.mp member]
      exact silent up
  exact ⟨acc.known, acc.asleep, (count true).trans acc.ups, (count false).trans acc.downs,
    acc.tasks⟩

/-- Every move of a step that starts no reading keeps the account. -/
theorem Move.accounted (move : Move permits c after) (still : ¬permits.starts)
    (queues : ¬permits.queues .startReadInLoop) (flows : c.Flows) (acc : c.Accounted) :
    after.Accounted := by
  have known := acc.known
  have tasks := acc.tasks
  have ups := acc.ups
  have downs := acc.downs
  have tracks := flows.tracks
  have opened (writing : c.channel.isWriting = true) : c.state ≠ .kDisconnected := fun closed => by
    rw [flows.closed closed] at writing
    cases writing
  have established (up : c.state = .kConnected ∨ c.state = .kDisconnecting) :
      c.state ≠ .kConnecting ∧ c.state ≠ .kDisconnected := by
    obtain connected | disconnecting := up
    · rw [connected]
      exact ⟨nofun, nofun⟩
    · rw [disconnecting]
      exact ⟨nofun, nofun⟩
  cases move with
  | aside state channel poller output trace queued =>
    refine ⟨by rw [state, channel]; exact known, by rw [state, channel]; exact acc.asleep,
      by rw [callbackCount, trace, state]; exact ups,
      by rw [callbackCount, trace, state]; exact downs, fun member => ?_⟩
    exact (queued _ member).elim tasks queues
  | called callback =>
    refine acc.noted fun up => ?_
    obtain rfl | rfl := callback
    · nofun
    · nofun
  | establish connecting changed =>
    rw [if_pos connecting] at ups
    rw [if_neg (by rw [connecting]; nofun)] at downs
    refine ⟨fun _ => change_known tracks changed, nofun, ?_, ?_, tasks⟩
    · rw [callbackCount] at ups ⊢
      simp [List.count_append, ups]
    · exact (count_append (by simp)).trans downs
  | disconnect up =>
    exact acc.opened (established up).2 known (.inr ⟨(established up).1, rfl⟩)
      (List.append_nil _).symm (by simp) tasks
  | close up changed =>
    rw [if_neg (established up).1] at ups
    rw [if_neg (established up).2] at downs
    refine ⟨fun _ => change_known tracks changed, fun _ => ?_, ?_, ?_, tasks⟩
    · obtain ⟨index, rfl⟩ := Channel.change_same changed
      rfl
    · exact (count_append (by simp)).trans ups
    · rw [callbackCount] at downs ⊢
      simp [List.count_append, downs]
  | start may => exact absurd may still
  | stop changed =>
    refine ⟨fun _ => change_known tracks changed, fun closed => ?_, ups, downs, tasks⟩
    obtain ⟨index, rfl⟩ := Channel.change_same changed
    dsimp only [Channel.set]
    rw [acc.asleep closed]
    exact Interest.apply_zero rfl
  | refuse down => exact acc.noted nofun
  | sendNothing up => exact acc.noted nofun
  | sendWhole up may idle whole callbacks =>
    exact acc.opened up known (.inl rfl) rfl (by simp) (callbacks.keep tasks)
  | sendPart up may idle empty parts left valid kept changed callbacks =>
    exact acc.opened up (fun _ => change_known tracks changed) (.inl rfl) rfl (by simp)
      (callbacks.keep tasks)
  | sendBehind up writing valid kept callbacks =>
    exact acc.opened up known (.inl rfl) rfl (by simp) (callbacks.keep tasks)
  | flushNothing writing none => exact acc.noted nofun
  | flushPart writing valid parts left =>
    exact acc.opened (opened writing) known (.inl rfl) rfl (by simp) tasks
  | flushAll writing notLast valid all empty changed callbacks =>
    exact acc.opened (opened writing) (fun _ => change_known tracks changed) (.inl rfl) rfl
      (by simp) (callbacks.keep tasks)
  | flushLast writing last valid all empty changed callbacks =>
    exact acc.opened (opened writing) (fun _ => change_known tracks changed) (.inl rfl) rfl
      (by simp) (callbacks.keep tasks)
  | shutdown connected idle =>
    exact acc.opened (established (.inl connected)).2 known
      (.inr ⟨(established (.inl connected)).1, rfl⟩) rfl (by simp) tasks
  | halfClose may idle => exact acc.noted nofun

/-- Steps other than `startRead` keep the account. -/
theorem Step.accounted {action : Action} (step : Step c action after) (none : c.NoStart action)
    (flows : c.Flows) (acc : c.Accounted) : after.Accounted := by
  have still : ¬(c.allowance action).starts := by
    rintro (starts | queued)
    · exact none .loop starts
    · exact acc.tasks queued
  have queues : ¬(c.allowance action).queues .startReadInLoop := by
    intro queued
    cases action with
    | startRead caller => exact none caller rfl
    | send => simp [allowance, Action.Queues] at queued
    | sendString => simp [allowance, Action.Queues] at queued
    | shutdown => simp [allowance, Action.Queues] at queued
    | forceClose => simp [allowance, Action.Queues] at queued
    | timer => simp [allowance, Action.Queues] at queued
    | stopRead => simp [allowance, Action.Queues] at queued
    | _ => exact queued
  have keeps (before next : TcpConnection) (inv : before.Flows ∧ before.Accounted)
      (move : Move (c.allowance action) before next) : next.Flows ∧ next.Accounted :=
    ⟨move.flows inv.1, move.accounted still queues inv.1 inv.2⟩
  exact ((step.moves flows.valid flows.agrees).invariant keeps ⟨flows, acc⟩).2

/-- `Channel::remove` of an established connection that asks for nothing. -/
theorem removeChannel_quiet (tracks : c.poller.Tracks c.channel) (known : c.channel.index ≠ kNew)
    (none : c.channel.events = 0) (removable : c.Removable) :
    ∃ poller, c.removeChannel =
        .ok { c with poller, channel := { c.channel with addedToLoop := false, index := kNew } } ∧
      poller.Tracks { c.channel with addedToLoop := false, index := kNew } := by
  obtain ⟨poller, removed, left, -⟩ := EpollPoller.removeChannel_tracked tracks known none
  have quiet : c.channel.isNoneEvent = true := by
    rw [Channel.isNoneEvent, none]
    rfl
  have allowed : EventLoop.removeChannel c.turn { c.channel with addedToLoop := false } c.poller =
      c.poller.removeChannel { c.channel with addedToLoop := false } := by
    rw [EventLoop.removeChannel.eq_def]
    cases handled : c.turn with
    | none => rfl
    | some turn =>
      have may : (turn.current == c.channel.address || !turn.active.contains c.channel.address) =
          true := by simpa using removable turn handled
      simp only [may, ensure_true, ok_bind]
  refine ⟨poller, ?_, left⟩
  simp only [removeChannel, quiet, ensure_true, ok_bind, allowed, removed]

/-- `Channel::remove` fails an assertion while the loop handles another channel with this one among
the active. -/
theorem removeChannel_eq_ok (done : c.removeChannel = .ok after) :
    after.state = c.state ∧ c.Removable := by
  rw [removeChannel] at done
  obtain ⟨_, _, rest⟩ := bind_eq_ok.mp done
  obtain ⟨⟨poller, channel⟩, removed, rest⟩ := bind_eq_ok.mp rest
  obtain rfl := Except.ok.inj rest
  refine ⟨rfl, fun turn handled => ?_⟩
  rw [EventLoop.removeChannel.eq_def, handled] at removed
  obtain ⟨_, may, -⟩ := bind_eq_ok.mp removed
  simpa using may

/-- A closed connection that is removed is torn down. -/
theorem removed_tornDown (flows : c.Flows) (acc : c.Accounted) (closed : c.state = .kDisconnected)
    (removable : c.Removable) :
    ∃ after, c.removeChannel = .ok after ∧ after.state = .kDisconnected ∧
      after.poller.hasChannel after.channel = false ∧
      after.poller.interest after.channel.fd = none ∧ after.channel.addedToLoop = false ∧
      after.callbackCount true = 1 ∧ after.callbackCount false = 1 := by
  have established : c.state ≠ .kConnecting := by
    rw [closed]
    nofun
  obtain ⟨poller, removed, left⟩ := removeChannel_quiet flows.tracks (acc.known established)
    (acc.asleep closed) removable
  have unknown : poller.channels c.channel.fd = none := left.listed
  refine ⟨_, removed, closed, ?_, left.watched, rfl, ?_, ?_⟩
  · rw [EpollPoller.hasChannel, unknown]
    rfl
  · exact acc.ups.trans (if_neg established)
  · exact acc.downs.trans (if_pos closed)

/-- A connected connection disables its channel and calls back before it is removed. -/
theorem connectDestroyed_connected (flows : c.Flows) (acc : c.Accounted)
    (connected : c.state = .kConnected) :
    ∃ closed : TcpConnection, c.connectDestroyed = closed.removeChannel ∧ closed.Flows ∧
      closed.Accounted ∧ closed.state = .kDisconnected ∧ closed.turn = c.turn ∧
      closed.channel.address = c.channel.address := by
  obtain ⟨poller, updated, -, -⟩ := EpollPoller.updateChannel_tracked flows.tracks
    (Interest.disableAll.apply c.channel.events)
  have changed : c.channel.change .disableAll c.poller = .ok (poller, _) := updated
  have down : (StateE.kDisconnected == StateE.kConnected) = false := rfl
  have move : Move .nothing c _ := .close (.inl connected) changed
  refine ⟨_, ?_, move.flows flows, move.accounted id id flows acc, rfl, rfl, rfl⟩
  simp only [connectDestroyed, connected, setInterest, changed, connectionCallback, note, down,
    BEq.rfl, ↓reduceIte, ok_bind]

/-- A new connection has no channel in the poller and has called nobody back. -/
theorem new_accounted {address : ChannelId} {fd : Int} {poller : EpollPoller}
    {highWaterMark : Nat} {writeComplete highWater : Bool}
    (made : new address fd poller highWaterMark writeComplete highWater = .ok c) :
    c.Accounted := by
  obtain ⟨_, _, rest⟩ := bind_eq_ok.mp made
  obtain ⟨_, _, rest⟩ := bind_eq_ok.mp rest
  obtain rfl := Except.ok.inj rest
  exact ⟨fun other => absurd rfl other, nofun, rfl, rfl, by simp⟩

/-- `connectDestroyed` as the last step of an established connection, whatever happened to it
before: the connection is torn down exactly when it is not half-way through closing and the loop
may remove its channel. -/
theorem connectDestroyed_tears_down_iff (address : ChannelId) (fd : Int) (poller : EpollPoller)
    (highWaterMark : Nat) (writeComplete highWater : Bool) (first : TcpConnection)
    (unknown : poller.channels fd = none) (unwatched : poller.interest fd = none)
    (made : new address fd poller highWaterMark writeComplete highWater = .ok first)
    (actions : List Action) (c : TcpConnection) (run : Run (Guarded Step NoStart) first actions c)
    (established : c.state ≠ .kConnecting) :
    c.TornDown ↔ c.state ≠ .kDisconnecting ∧ c.Removable := by
  have start : first.Flows ∧ first.Accounted :=
    ⟨new_flows unknown unwatched made, new_accounted made⟩
  have keeps : ∀ before action after, before.Flows ∧ before.Accounted →
      Guarded Step NoStart before action after → after.Flows ∧ after.Accounted :=
    fun _ _ _ kept taken => ⟨taken.1.flows kept.1, taken.1.accounted taken.2 kept.1 kept.2⟩
  obtain ⟨flows, acc⟩ := run.invariant start keeps
  by_cases connected : c.state = .kConnected
  · obtain ⟨closed, destroyed, closedFlows, closedAcc, down, turn, same⟩ :=
      connectDestroyed_connected flows acc connected
    have removable : closed.Removable ↔ c.Removable := by rw [Removable, Removable, turn, same]
    rw [TornDown, destroyed]
    constructor
    · rintro ⟨after, removed, -⟩
      refine ⟨?_, removable.mp (removeChannel_eq_ok removed).2⟩
      rw [connected]
      nofun
    · rintro ⟨-, may⟩
      exact removed_tornDown closedFlows closedAcc down (removable.mpr may)
  · have destroyed : c.connectDestroyed = c.removeChannel := by
      simp only [connectDestroyed, beq_false_of_ne connected, Bool.false_eq_true, ↓reduceIte,
        ok_bind]
    rw [TornDown, destroyed]
    constructor
    · rintro ⟨after, removed, down, -⟩
      obtain ⟨same, may⟩ := removeChannel_eq_ok removed
      refine ⟨?_, may⟩
      rw [← same, down]
      nofun
    · rintro ⟨closing, may⟩
      have down : c.state = .kDisconnected := by
        cases state : c.state with
        | kDisconnected => rfl
        | kConnecting => exact absurd state established
        | kConnected => exact absurd state connected
        | kDisconnecting => exact absurd state closing
      exact removed_tornDown flows acc down may

/-- The peer closes and the connection is destroyed. -/
theorem connectDestroyed_tears_down_closed :
    ∃ first c, new 0 3 .new 65536 false false = .ok first ∧
      Run (Guarded Step NoStart) first
        [.task (.failed 0 0), .turn (some ⟨[0], 0⟩), .close, .turn none] c ∧
      c.state = .kDisconnected ∧ c.TornDown := by
  have made : ∃ first c, new 0 3 .new 65536 false false = .ok first ∧
      Run (Guarded Step NoStart) first
        [.task (.failed 0 0), .turn (some ⟨[0], 0⟩), .close, .turn none] c ∧
      c.state = .kDisconnected ∧ c.turn = none := by
    rw [new, Buffer.new_eq (by decide)]
    refine ⟨_, _, rfl, .cons ⟨Attempt.step (.task rfl (.inl rfl) ?_) rfl, ?_⟩
      (.cons ⟨Attempt.step .turn rfl, ?_⟩ (.cons ⟨Attempt.step (.close ?_) rfl, ?_⟩
        (.cons ⟨Attempt.step .turn rfl, ?_⟩ (.nil _)))), rfl, rfl⟩
    · intro message other
      cases other
    · simp [NoStart]
    · simp [NoStart]
    · exact ⟨_, rfl, rfl⟩
    · simp [NoStart]
    · simp [NoStart]
  obtain ⟨first, c, built, run, down, idle⟩ := made
  have removable : c.Removable := fun turn handled => by
    rw [idle] at handled
    cases handled
  refine ⟨first, c, built, run, down,
    (connectDestroyed_tears_down_iff 0 3 .new 65536 false false first rfl rfl built _ c run ?_).mpr
      ⟨?_, removable⟩⟩
  · rw [down]
    decide
  · rw [down]
    decide

/-- A connection that shut down its side is destroyed while the peer has not closed yet: the channel
still asks for reading. -/
theorem connectDestroyed_half_closed :
    ∃ first c, new 0 3 .new 65536 false false = .ok first ∧
      Run (Guarded Step NoStart) first [.task (.failed 0 0), .shutdown .loop] c ∧
      c.state ≠ .kConnecting ∧ c.connectDestroyed = .error (.assertion "isNoneEvent()") ∧
      ¬c.TornDown := by
  have made : ∃ first c, new 0 3 .new 65536 false false = .ok first ∧
      Run (Guarded Step NoStart) first [.task (.failed 0 0), .shutdown .loop] c ∧
      c.state ≠ .kConnecting ∧ c.connectDestroyed = .error (.assertion "isNoneEvent()") := by
    rw [new, Buffer.new_eq (by decide)]
    refine ⟨_, _, rfl, .cons ⟨Attempt.step (.task rfl (.inl rfl) ?_) rfl, ?_⟩
      (.cons ⟨Attempt.step .shutdown rfl, ?_⟩ (.nil _)), ?_, rfl⟩
    · intro message other
      cases other
    · simp [NoStart]
    · simp [NoStart]
    · exact StateE.noConfusion
  obtain ⟨first, c, built, run, established, failed⟩ := made
  refine ⟨first, c, built, run, established, failed, ?_⟩
  rintro ⟨after, done, -⟩
  rw [failed] at done
  cases done

end TcpConnection

end Muduo
