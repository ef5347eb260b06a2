import Mathlib.Logic.Function.Basic
import Muduo.Net.TcpHalfClose
import Muduo.Net.TcpOutput

/-!
# Two connections and the network between them

What the kernel of one host takes from a connection arrives at the connection of the other host, in
order, until the network resets the connection. The loops of the two hosts, their other threads and
the network act in any order. A read returns zero when everything has arrived and the other end was
half-closed or its socket closed. What an end is to receive are the messages whose `sendInLoop` was
executed at the other one: a message that another thread sent and that waits in the loop is not yet
one of them.
-/

open Function Outcome Transition

namespace Muduo

namespace TcpConnection

/-- What an action reads from the socket. -/
def Action.delivered : Action → List UInt8
  | .read (.ok data) => data
  | _ => []

/-- A read that returns zero. -/
def Action.isEnd : Action → Bool
  | .read (.ok []) => true
  | _ => false

/-- What the user takes out of the input buffer. -/
def taken (c : TcpConnection) : Action → List UInt8
  | .consume len => c.inputBuffer.readable.take len
  | _ => []

/-- What the kernel takes in a step. -/
def written (c after : TcpConnection) : List UInt8 := after.accepted.drop c.accepted.length

variable {c after : TcpConnection} {action : Action}

/-- The trace only grows. -/
theorem Step.trace (step : Step c action after) (flows : c.Flows) : c.trace <+: after.trace := by
  have keeps : ∀ before next : TcpConnection, c.trace <+: before.trace →
      Move (c.allowance action) before next → c.trace <+: next.trace := by
    intro before next grown move
    cases move with
    | aside _ _ _ _ trace =>
      rw [trace]
      exact grown
    | disconnect => exact grown
    | start => exact grown
    | stop => exact grown
    | _ => exact grown.trans (List.prefix_append ..)
  exact (step.moves flows.valid flows.agrees).invariant keeps (List.prefix_refl _)

/-- What the kernel took before, and what it takes now. -/
theorem Step.accepted (step : Step c action after) (flows : c.Flows) :
    after.accepted = c.accepted ++ c.written after := by
  obtain ⟨effects, trace⟩ := step.trace flows
  have grown : after.accepted = c.accepted ++ effects.flatMap ConnEffect.accepted := by
    rw [TcpConnection.accepted, ← trace, List.flatMap_append]
    rfl
  rw [written, grown, List.drop_left]

/-- A half-close stays. -/
theorem Step.shut (step : Step c action after) (flows : c.Flows) (shut : c.Shut) : after.Shut :=
  shut.imp fun _ member => (step.trace flows).subset member

/-- `handleClose` leaves the input. -/
theorem handleClose_input (done : c.handleClose = .ok after) :
    after.inputBuffer = c.inputBuffer := by
  rw [handleClose] at done
  obtain ⟨_, -, rest⟩ := bind_eq_ok.mp done
  obtain ⟨disabled, disabling, rest⟩ := bind_eq_ok.mp rest
  obtain ⟨poller, channel, -, rfl⟩ := setInterest_eq_ok.mp disabling
  cases rest
  rfl

/-- The input buffer has what was in it and what is read, but for what the user takes. -/
theorem Step.received (step : Step c action after) (flows : c.Flows) (valid : c.inputBuffer.Valid) :
    after.inputBuffer.Valid ∧ c.taken action ++ after.inputBuffer.readable =
      c.inputBuffer.readable ++ action.delivered := by
  by_cases reads : action.Reads
  · have attempt : Attempt c action (.ok after) := step
    generalize outcome : Except.ok after = result at attempt
    symm at outcome
    cases attempt with
    | @read received handling offered =>
      obtain ⟨inputBuffer, n, read, rest⟩ := handleRead_cases outcome
      have input : after.inputBuffer = inputBuffer := by
        obtain rfl | closed | rfl := rest
        · rfl
        · exact handleClose_input closed
        · rfl
      rw [input]
      cases received with
      | ok data =>
        obtain ⟨validAfter, text, -⟩ := (Buffer.readFd_meets valid (offered data rfl)).of_ok read
        exact ⟨validAfter, text⟩
      | error errno =>
        cases read
        exact ⟨valid, (List.append_nil _).symm⟩
    | @consume len =>
      obtain ⟨inputBuffer, retrieved, rest⟩ := bind_eq_ok.mp outcome
      cases rest
      have enough : len ≤ c.inputBuffer.readableBytes := by
        rw [Buffer.retrieve] at retrieved
        obtain ⟨_, inside, -⟩ := bind_eq_ok.mp retrieved
        simpa using inside
      obtain ⟨next, done, validAfter, text⟩ := Buffer.retrieve_eq valid enough
      obtain rfl := Except.ok.inj (retrieved.symm.trans done)
      refine ⟨validAfter, ?_⟩
      show c.inputBuffer.readable.take len ++ inputBuffer.readable = _
      rw [text, List.take_append_drop]
      exact (List.append_nil _).symm
    | _ => exact reads.elim
  · rw [step.input flows.valid flows.agrees reads]
    refine ⟨valid, ?_⟩
    cases action with
    | read => exact absurd trivial reads
    | consume => exact absurd trivial reads
    | _ => exact (List.append_nil _).symm

end TcpConnection

/-- The two ends. -/
inductive Side
  | left
  | right
  deriving DecidableEq, Repr

/-- The other end. -/
def Side.other : Side → Side
  | left => right
  | right => left

/-- The other end is another one. -/
theorem Side.other_ne (side : Side) : side.other ≠ side := by cases side <;> decide

/-- The other of the other end. -/
theorem Side.other_other (side : Side) : side.other.other = side := by cases side <;> rfl

/-- An end is this one or the other one. -/
theorem Side.eq_or (one side : Side) : one = side ∨ one = side.other := by
  cases one <;> cases side <;> decide

/-- Two connections and the network between them. -/
structure TcpPair where
  /-- The connections. -/
  conn : Side → TcpConnection
  /-- The executions of `sendInLoop` at an end. -/
  executed : Side → List SendExecution
  /-- What was sent to an end and not read by it. -/
  arriving : Side → List UInt8
  /-- What the user of an end took out of its input buffer. -/
  consumed : Side → List UInt8
  /-- An end has read zero, and it was not reset. -/
  ended : Side → Bool
  /-- The network has reset the connection of an end. -/
  reset : Side → Bool
  /-- The socket of an end is closed. -/
  gone : Side → Bool

/-- What happens. -/
inductive PairAction
  /-- Something happens to a connection. -/
  | call (side : Side) (action : TcpConnection.Action)
  /-- The network resets the connection of an end. -/
  | reset (side : Side)
  /-- The last owner of a closed connection lets it go, and its socket is closed. -/
  | destroy (side : Side)

namespace TcpPair

/-- What an end has received. -/
def received (p : TcpPair) (side : Side) : List UInt8 :=
  p.consumed side ++ (p.conn side).inputBuffer.readable

/-- What the executions of `sendInLoop` at an end owe to its stream. -/
def outgoing (p : TcpPair) (side : Side) : List UInt8 :=
  (p.executed side).flatMap SendExecution.owed

/-- What the kernel of an end allows. -/
structure Kernel (p : TcpPair) (side : Side) (action : TcpConnection.Action) : Prop where
  /-- Reads return what arrives, in order. -/
  delivers : action.delivered <+: p.arriving side
  /-- They return zero when nothing more can arrive. -/
  ends : action.isEnd = true → p.reset side = true ∨
    p.arriving side = [] ∧ ((p.conn side.other).Shut ∨ p.gone side.other = true)
  /-- Nothing is written after a half-close. -/
  refuses : (p.conn side).Refuses action

/-- A connection has come to another state. -/
def called (p : TcpPair) (side : Side) (action : TcpConnection.Action) (after : TcpConnection) :
    TcpPair :=
  { p with
    conn := update p.conn side after
    executed := update p.executed side (p.executed side ++ (p.conn side).executions action)
    arriving := fun end_ =>
      if end_ = side then (p.arriving side).drop action.delivered.length
      else if p.reset end_ then p.arriving end_
      else p.arriving end_ ++ (p.conn side).written after
    consumed := update p.consumed side (p.consumed side ++ (p.conn side).taken action)
    ended := update p.ended side (p.ended side || action.isEnd && !p.reset side) }

/-- A step of a host or of the network. -/
inductive Step (p : TcpPair) : PairAction → TcpPair → Prop
  /-- A host. -/
  | call {side : Side} {action : TcpConnection.Action} {after : TcpConnection}
      (alive : p.gone side = false) (step : (p.conn side).Step action after)
      (kernel : p.Kernel side action) : Step p (.call side action) (p.called side action after)
  /-- The network. What has not been read may be lost. -/
  | reset {side : Side} {front back : List UInt8} (arriving : p.arriving side = front ++ back) :
      Step p (.reset side) { p with
        arriving := update p.arriving side front
        reset := update p.reset side true }
  /-- The end of a connection. -/
  | destroy {side : Side} (down : (p.conn side).state = .kDisconnected) :
      Step p (.destroy side) { p with gone := update p.gone side true }

/-- Two new connections. -/
structure Fresh (p : TcpPair) : Prop where
  /-- The connections are as their constructor makes them. -/
  made : ∀ side, ∃ (address : ChannelId) (fd : Int) (poller : EpollPoller) (highWaterMark : Nat)
    (writeComplete highWater : Bool), poller.channels fd = none ∧ poller.interest fd = none ∧
      TcpConnection.new address fd poller highWaterMark writeComplete highWater = .ok (p.conn side)
  /-- Nothing is on its way. -/
  blank : ∀ side, p.arriving side = [] ∧ p.consumed side = [] ∧ p.ended side = false ∧
    p.reset side = false ∧ p.gone side = false
  /-- Nothing was sent. -/
  unsent : ∀ side, p.executed side = []

/-- An end, and what it receives from the other one. -/
structure Joined (p : TcpPair) (side : Side) : Prop where
  /-- The half-close of the end comes last. -/
  ends : (p.conn side).Ends
  /-- Its stream is what was executed. -/
  messages : (p.conn side).messages = p.outgoing side
  /-- Its input buffer is valid. -/
  valid : (p.conn side).inputBuffer.Valid
  /-- Only a closed connection is let go. -/
  buried : p.gone side = true → (p.conn side).state = .kDisconnected
  /-- Nothing is received that was not sent, or out of order. -/
  front : p.received side ++ p.arriving side <+: (p.conn side.other).accepted
  /-- Without a reset nothing is lost. -/
  whole : p.reset side = false →
    p.received side ++ p.arriving side = (p.conn side.other).accepted
  /-- An end that has read zero has received everything. -/
  ended : p.ended side = true → p.arriving side = [] ∧
    ((p.conn side.other).Shut ∨ p.gone side.other = true) ∧
      p.received side = (p.conn side.other).accepted

variable {p after : TcpPair} {action : PairAction} {side : Side}

/-- New connections are joined. -/
theorem Fresh.joined (fresh : p.Fresh) (side : Side) : p.Joined side := by
  have start (one : Side) : (p.conn one).Ends ∧ (p.conn one).inputBuffer.Valid ∧
      (p.conn one).inputBuffer.readable = [] ∧ (p.conn one).accepted = [] ∧
      (p.conn one).messages = [] := by
    obtain ⟨address, fd, poller, highWaterMark, writeComplete, highWater, unknown, unwatched,
      made⟩ := fresh.made one
    have flows := TcpConnection.new_flows unknown unwatched made
    rw [TcpConnection.new] at made
    obtain ⟨input, built, rest⟩ := bind_eq_ok.mp made
    obtain ⟨output, -, rest⟩ := bind_eq_ok.mp rest
    obtain ⟨valid, empty, -⟩ := (Buffer.new_meets kInitialSize (by decide)).of_ok built
    have same := Except.ok.inj rest
    rw [← same] at flows ⊢
    exact ⟨⟨flows, by simp, by simp [TcpConnection.Shut]⟩, valid, empty, rfl, rfl⟩
  obtain ⟨ends, valid, input, -, messages⟩ := start side
  obtain ⟨-, -, -, accepted, -⟩ := start side.other
  obtain ⟨arriving, consumed, ended, -, alive⟩ := fresh.blank side
  have nothing : p.received side ++ p.arriving side = (p.conn side.other).accepted := by
    rw [received, consumed, input, arriving, accepted]
    rfl
  refine ⟨ends, ?_, valid, fun gone => ?_, ?_, fun _ => nothing, fun zero => ?_⟩
  · rw [messages, outgoing, fresh.unsent side]
    rfl
  · rw [alive] at gone
    cases gone
  · rw [nothing]
  · rw [ended] at zero
    cases zero

/-- A step of an end, seen from that end. -/
theorem Joined.acts (joined : p.Joined side) {action : TcpConnection.Action}
    {conn : TcpConnection} (alive : p.gone side = false) (step : (p.conn side).Step action conn)
    (kernel : p.Kernel side action) : (p.called side action conn).Joined side := by
  have flows := joined.ends.flows
  obtain ⟨valid, input⟩ := step.received flows joined.valid
  have here : (p.called side action conn).conn side = conn := update_self ..
  have there : (p.called side action conn).conn side.other = p.conn side.other :=
    update_of_ne (Side.other_ne side) ..
  have arriving : (p.called side action conn).arriving side =
      (p.arriving side).drop action.delivered.length := if_pos rfl
  have ended : (p.called side action conn).ended side =
      (p.ended side || action.isEnd && !p.reset side) := update_self ..
  have received : (p.called side action conn).received side =
      p.received side ++ action.delivered := by
    rw [TcpPair.received, here]
    show update p.consumed side _ side ++ _ = _
    rw [update_self, List.append_assoc, input, ← List.append_assoc]
    rfl
  obtain ⟨later, split⟩ := kernel.delivers
  have left : (p.arriving side).drop action.delivered.length = later := by
    rw [← split, List.drop_left]
  have same : p.received side ++ action.delivered ++ later =
      p.received side ++ p.arriving side := by
    rw [← split, List.append_assoc]
  refine ⟨?_, ?_, ?_, fun gone => ?_, ?_, ?_, ?_⟩
  · rw [here]
    exact (step.ends joined.ends kernel.refuses).1
  · have executed : (p.called side action conn).executed side =
        p.executed side ++ (p.conn side).executions action := update_self ..
    rw [here, outgoing, executed, List.flatMap_append, step.messages flows, joined.messages]
    rfl
  · rw [here]
    exact valid
  · exact absurd (alive.symm.trans gone) (by simp)
  · rw [received, arriving, left, there, same]
    exact joined.front
  · rw [received, arriving, left, there, same]
    exact joined.whole
  · rw [ended, received, arriving, left, there]
    intro zero
    obtain before | now := Bool.or_eq_true_iff.mp zero
    · obtain ⟨empty, closed, all⟩ := joined.ended before
      rw [empty, List.append_eq_nil_iff] at split
      rw [split.1, List.append_nil]
      exact ⟨split.2, closed, all⟩
    · obtain ⟨isEnd, unset⟩ := Bool.and_eq_true_iff.mp now
      rw [Bool.not_eq_true'] at unset
      obtain broken | ⟨empty, closed⟩ := kernel.ends isEnd
      · rw [unset] at broken
        cases broken
      · have all := joined.whole unset
        rw [empty, List.append_nil] at all
        rw [empty, List.append_eq_nil_iff] at split
        rw [split.1, List.append_nil]
        exact ⟨split.2, closed, all⟩

/-- A step of an end, seen from the other one. -/
theorem Joined.hears (joined : p.Joined side.other) (ends : (p.conn side).Ends)
    {action : TcpConnection.Action} {conn : TcpConnection} (alive : p.gone side = false)
    (step : (p.conn side).Step action conn) (kernel : p.Kernel side action) :
    (p.called side action conn).Joined side.other := by
  have different := Side.other_ne side
  have twice := Side.other_other side
  have here : (p.called side action conn).conn side.other = p.conn side.other :=
    update_of_ne different ..
  have there : (p.called side action conn).conn side.other.other = conn := by
    rw [twice]
    exact update_self ..
  have arriving : (p.called side action conn).arriving side.other =
      if p.reset side.other then p.arriving side.other
      else p.arriving side.other ++ (p.conn side).written conn := if_neg different
  have received : (p.called side action conn).received side.other = p.received side.other := by
    rw [TcpPair.received, here]
    show update p.consumed side _ side.other ++ _ = _
    rw [update_of_ne different]
    rfl
  have ended : (p.called side action conn).ended side.other = p.ended side.other :=
    update_of_ne different ..
  have accepted := step.accepted ends.flows
  have front := joined.front
  have whole := joined.whole
  have zero := joined.ended
  rw [twice] at front whole zero
  have executed : (p.called side action conn).outgoing side.other = p.outgoing side.other :=
    congrArg (List.flatMap SendExecution.owed) (update_of_ne different ..)
  refine ⟨here ▸ joined.ends, ?_, here ▸ joined.valid, here ▸ joined.buried, ?_, ?_, ?_⟩
  · rw [here, executed]
    exact joined.messages
  · rw [received, arriving, there, accepted]
    cases unset : p.reset side.other with
    | true => exact front.trans (List.prefix_append ..)
    | false =>
      rw [if_neg Bool.false_ne_true, ← List.append_assoc, whole unset]
  · intro unset
    have still : p.reset side.other = false := unset
    rw [received, arriving, there, accepted, still, if_neg Bool.false_ne_true,
      ← List.append_assoc, whole still]
  · rw [ended, received, arriving, there]
    intro before
    obtain ⟨empty, closed, all⟩ := zero before
    obtain shut | closed := closed
    · have nothing := (step.ends ends kernel.refuses).2 shut
      have none : (p.conn side).written conn = [] := by
        rw [TcpConnection.written, nothing, List.drop_length]
      rw [none, List.append_nil, empty, ite_self, nothing]
      exact ⟨rfl, .inl (step.shut ends.flows shut), all⟩
    · rw [alive] at closed
      cases closed

/-- Every step keeps the two ends joined. -/
theorem Step.joined (step : Step p action after) (joined : ∀ side, p.Joined side) (side : Side) :
    after.Joined side := by
  cases step with
  | @call actor call conn alive step kernel =>
    obtain rfl | rfl := Side.eq_or side actor
    · exact (joined side).acts alive step kernel
    · exact (joined actor.other).hears (joined actor).ends alive step kernel
  | @reset broken front back arriving =>
    have ⟨ends, messages, valid, buried, before, whole, ended⟩ := joined side
    obtain rfl | different := eq_or_ne side broken
    · have now : update p.arriving side front side = front := update_self ..
      refine ⟨ends, messages, valid, buried, ?_, ?_, ?_⟩
      · show p.received side ++ update p.arriving side front side <+: _
        rw [now]
        rw [arriving, ← List.append_assoc] at before
        exact (List.prefix_append ..).trans before
      · intro unset
        have set : update p.reset side true side = true := update_self ..
        exact absurd (set.symm.trans unset) (by simp)
      · intro zero
        obtain ⟨empty, closed, all⟩ := ended zero
        refine ⟨?_, closed, all⟩
        rw [arriving, List.append_eq_nil_iff] at empty
        exact now.trans empty.1
    · have now : update p.arriving broken front side = p.arriving side := update_of_ne different ..
      have set : update p.reset broken true side = p.reset side := update_of_ne different ..
      refine ⟨ends, messages, valid, buried, ?_, ?_, ?_⟩
      · show p.received side ++ update p.arriving broken front side <+: _
        rw [now]
        exact before
      · intro unset
        show p.received side ++ update p.arriving broken front side = _
        rw [now]
        exact whole (set.symm.trans unset)
      · intro zero
        obtain ⟨empty, rest⟩ := ended zero
        exact ⟨now.trans empty, rest⟩
  | @destroy dead down =>
    have ⟨ends, messages, valid, buried, before, whole, ended⟩ := joined side
    refine ⟨ends, messages, valid, fun gone => ?_, before, whole, fun zero => ?_⟩
    · obtain rfl | different := eq_or_ne side dead
      · exact down
      · have same : update p.gone dead true side = p.gone side := update_of_ne different ..
        exact buried (same.symm.trans gone)
    · obtain ⟨empty, closed, all⟩ := ended zero
      refine ⟨empty, closed.imp_right fun gone => ?_, all⟩
      show update p.gone dead true side.other = true
      rw [update_apply, gone, ite_self]

/-- Two connections joined by a network, in every state of every run: an end has received, in order
and without repetition, a first part of the messages whose `sendInLoop` was executed at the other
end; without a reset, what is missing is on its way or waits in the output buffer of the other end;
and then either something is on its way, or the other end is closed or asks for writing. -/
theorem messages_of_run (first : TcpPair) (fresh : first.Fresh) (actions : List PairAction)
    (p : TcpPair) (run : Run Step first actions p) (side : Side) :
    p.received side <+: p.outgoing side.other ∧
      (p.reset side = false → p.received side ++ p.arriving side ++
        (p.conn side.other).outputBuffer.readable = p.outgoing side.other) ∧
      (p.reset side = false → p.received side ≠ p.outgoing side.other →
        p.arriving side ≠ [] ∨ (p.conn side.other).state = .kDisconnected ∨
          (p.conn side.other).channel.isWriting = true) := by
  have joined : ∀ side, p.Joined side := run.invariant fresh.joined
    fun _ _ _ joined step => step.joined joined
  have here := joined side
  have flows := (joined side.other).ends.flows
  have stream : (p.conn side.other).accepted ++ (p.conn side.other).outputBuffer.readable =
      p.outgoing side.other := flows.stream.trans (joined side.other).messages
  have whole (unset : p.reset side = false) : p.received side ++ p.arriving side ++
      (p.conn side.other).outputBuffer.readable = p.outgoing side.other := by
    rw [here.whole unset, stream]
  refine ⟨?_, whole, fun unset missing => ?_⟩
  · have sent : (p.conn side.other).accepted <+: p.outgoing side.other :=
      ⟨_, stream⟩
    exact ((List.prefix_append ..).trans here.front).trans sent
  · by_contra none
    push Not at none
    obtain ⟨empty, up, silent⟩ := none
    have all := whole unset
    rw [empty, flows.agrees.empty up (Bool.eq_false_iff.mpr silent), List.append_nil,
      List.append_nil] at all
    exact missing all

/-- A connection with the descriptor 3, as its constructor makes it. -/
def newborn : TcpConnection where
  state := .kConnecting
  reading := false
  channel := .new 0 3
  inputBuffer := ⟨List.replicate (kCheapPrepend + kInitialSize) 0, kCheapPrepend, kCheapPrepend⟩
  outputBuffer := ⟨List.replicate (kCheapPrepend + kInitialSize) 0, kCheapPrepend, kCheapPrepend⟩
  highWaterMark := 65536
  hasWriteCompleteCallback := false
  hasHighWaterMarkCallback := false
  poller := .new
  tasks := [.connectEstablished]
  delayed := 0
  turn := none
  trace := []

/-- Two such connections. -/
def newborns : TcpPair where
  conn _ := newborn
  executed _ := []
  arriving _ := []
  consumed _ := []
  ended _ := false
  reset _ := false
  gone _ := false

/-- They are new. -/
theorem newborns_fresh : newborns.Fresh := by
  refine ⟨fun _ => ⟨0, 3, .new, 65536, false, false, rfl, rfl, ?_⟩,
    fun _ => ⟨rfl, rfl, rfl, rfl, rfl⟩, fun _ => rfl⟩
  rw [TcpConnection.new, Buffer.new_eq (by decide)]
  rfl

set_option maxRecDepth 20000 in
/-- Both are established; the left one sends three bytes and shuts down, and the right one reads
them and zero. -/
theorem three_bytes_and_zero : ∃ (p : TcpPair) (actions : List PairAction),
    Run Step newborns actions p ∧ p.received .right = [1, 2, 3] ∧ p.ended .right = true ∧
      p.reset .right = false ∧ (p.conn .left).state = .kDisconnecting := by
  have opened {c : TcpConnection} {action : TcpConnection.Action} (effects : List ConnEffect)
      (trace : c.trace = effects) (none : ∀ effect ∈ effects, ¬effect.IsShutdown) :
      c.Refuses action := by
    rintro ⟨pending, member⟩
    rw [trace] at member
    exact absurd trivial (none _ member)
  have calm {p : TcpPair} {side : Side} {action : TcpConnection.Action}
      (silent : action.delivered = []) (more : action.isEnd = false)
      (refuses : (p.conn side).Refuses action) : p.Kernel side action := by
    refine ⟨?_, by simp [more], refuses⟩
    rw [silent]
    exact List.nil_prefix
  refine ⟨_, [.call .left (.task (.failed 0 0)),
      .call .left (.sendString .loop [1, 2, 3] (.accepted 3)), .call .left (.shutdown .loop),
      .call .right (.task (.failed 0 0)), .call .right (.turn (some ⟨[0], 0⟩)),
      .call .right (.read (.ok [1, 2, 3])), .call .right (.read (.ok []))],
    .cons (.call rfl (TcpConnection.Attempt.step (.task rfl (.inl rfl) (by simp)) rfl)
      (calm rfl rfl (opened [] rfl (by simp)))) <|
    .cons (.call rfl (TcpConnection.Attempt.step (.sendString (by decide) (Nat.le_refl 3)) rfl)
      (calm rfl rfl (opened [.connectionCallback true] rfl (by simp)))) <|
    .cons (.call rfl .shutdown (calm rfl rfl (opened [.connectionCallback true,
      .write [1, 2, 3] (.accepted 3), .sendInLoop [1, 2, 3] .kConnected false] rfl (by simp)))) <|
    .cons (.call rfl (TcpConnection.Attempt.step (.task rfl (.inl rfl) (by simp)) rfl)
      (calm rfl rfl (opened [] rfl (by simp)))) <|
    .cons (.call rfl .turn (calm rfl rfl (opened [.connectionCallback true] rfl (by simp)))) <|
    .cons (.call rfl (TcpConnection.Attempt.step (.read ⟨_, rfl, rfl⟩ ?_) rfl)
      ⟨List.prefix_refl _, nofun, opened [.connectionCallback true] rfl (by simp)⟩) <|
    .cons (.call rfl (TcpConnection.Attempt.step (.read ⟨_, rfl, rfl⟩ ?_) rfl)
      ⟨List.nil_prefix, fun _ => .inr ⟨rfl, .inl ⟨[], ?_⟩⟩,
        opened [.connectionCallback true, .messageCallback] rfl (by simp)⟩) <|
    .nil _, by decide +kernel, rfl, rfl, rfl⟩
  · intro data same
    cases same
    decide +kernel
  · intro data same
    cases same
    exact Nat.zero_le _
  · exact List.mem_append_right _ (List.mem_singleton_self _)

/-- The right end has received what the left one sent. -/
theorem messages_of_run_three_bytes : ∃ p : TcpPair, p.received .right = [1, 2, 3] ∧
    p.received .right <+: p.outgoing .left := by
  obtain ⟨p, actions, run, bytes, -⟩ := three_bytes_and_zero
  exact ⟨p, bytes, (messages_of_run newborns newborns_fresh actions p run .right).1⟩

/-- An end that has read zero on a connection that was not reset has received everything that the
kernel of the other end took, and nothing more arrives. Of the messages whose `sendInLoop` was
executed at the other end, without being refused, it misses what waited in the output buffer at the
half-close, which is nothing as long as the other end is not closed. -/
theorem end_of_stream (first : TcpPair) (fresh : first.Fresh) (actions : List PairAction)
    (p : TcpPair) (run : Run Step first actions p) (side : Side) (ended : p.ended side = true) :
    p.arriving side = [] ∧ p.received side = (p.conn side.other).accepted ∧
      (∀ pending, .shutdownWrite pending ∈ (p.conn side.other).trace →
        p.received side ++ pending = p.outgoing side.other) ∧
      ((p.conn side.other).state ≠ .kDisconnected →
        p.received side = p.outgoing side.other) := by
  have joined : ∀ side, p.Joined side := run.invariant fresh.joined
    fun _ _ _ joined step => step.joined joined
  obtain ⟨empty, closed, all⟩ := (joined side).ended ended
  have ends := (joined side.other).ends
  have stream : (p.conn side.other).accepted ++ (p.conn side.other).outputBuffer.readable =
      p.outgoing side.other := ends.flows.stream.trans (joined side.other).messages
  refine ⟨empty, all, fun pending half => ?_, fun up => ?_⟩
  · rw [(ends.finished ⟨pending, half⟩).pending pending half, all]
    exact stream
  · have shut := closed.resolve_right fun gone => up ((joined side.other).buried gone)
    rw [ends.flows.agrees.empty up (ends.finished shut).silent, List.append_nil] at stream
    rw [all]
    exact stream

/-- After zero it has received everything. -/
theorem end_of_stream_three_bytes : ∃ p : TcpPair, p.received .right = [1, 2, 3] ∧
    p.received .right = p.outgoing .left := by
  obtain ⟨p, actions, run, bytes, ended, -, closing⟩ := three_bytes_and_zero
  obtain ⟨-, -, -, all⟩ := end_of_stream newborns newborns_fresh actions p run .right ended
  have up : (p.conn .left).state ≠ .kDisconnected := by
    rw [closing]
    decide
  exact ⟨p, bytes, all up⟩

end TcpPair

end Muduo
