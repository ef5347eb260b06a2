import Muduo.Net.TcpBooks

/-!
# Messages and the half-close

Every message that `send` accepts is either executed by `sendInLoop` or still queued in the loop.
When the half-close is made the output buffer is empty, so what the kernel has taken is everything
that was executed. A message is written before the half-close unless its functor is still queued
then, which happens because `shutdown()` in the loop thread does not wait for the functors that
other threads have queued, and because the `handleWrite` that makes a delayed half-close does not
look at them either.
-/

open Outcome Transition

namespace Muduo

namespace TcpConnection

/-- The half-close has been made. -/
def Shut (c : TcpConnection) : Prop := ∃ pending, .shutdownWrite pending ∈ c.trace

/-- What the runs here are about: only the loop thread shuts down, a piece has a length that is an
`int` and not negative, and no `::write` before the half-close fails with `EPIPE` or
`ECONNRESET`. -/
structure Graceful (c : TcpConnection) (action : Action) : Prop where
  /-- The loop thread shuts down. -/
  shuts : ∀ caller, action = .shutdown caller → caller = .loop
  /-- Pieces are well formed. -/
  pieces : ∀ caller message result, action = .send caller message result →
    0 ≤ message.length ∧ message.length < 2 ^ 31
  /-- The peer is there. -/
  writes : ¬c.Shut → ∀ result, action.Writes result → result.broken = false

end TcpConnection

/-- Whether an effect is a half-close. -/
instance (effect : ConnEffect) : Decidable effect.IsShutdown :=
  match effect with
  | .shutdownWrite _ => isTrue trivial
  | .sendInLoop _ _ _ => isFalse id
  | .write _ _ => isFalse id
  | .connectionCallback _ => isFalse id
  | .messageCallback => isFalse id
  | .closeCallback => isFalse id

/-- What was done before the half-close. -/
def beforeHalfClose (trace : List ConnEffect) : List ConnEffect :=
  trace.takeWhile fun effect => ¬effect.IsShutdown

/-- A connection with the messages that calls of `send` have accepted, in the order of the calls. -/
structure Outgoing where
  /-- The connection. -/
  conn : TcpConnection
  /-- The accepted messages. -/
  sent : List (List UInt8)

namespace Outgoing

/-- A step of the connection, with the messages it accepts. -/
def Step (before : Outgoing) (action : TcpConnection.Action) (after : Outgoing) : Prop :=
  TcpConnection.Step before.conn action after.conn ∧ before.conn.Graceful action ∧
    after.sent = before.sent ++ before.conn.takes action

/-- When the half-close has been made, `::write` had taken the accepted messages before it, each of
them whole, one after the other in some order, and nothing else. -/
def Flushed (w : Outgoing) : Prop :=
  w.conn.Shut → ∃ order : List (List UInt8), order.Perm w.sent ∧
    (beforeHalfClose w.conn.trace).flatMap ConnEffect.accepted = order.flatten

/-- The length of a string that another thread sends survives the way through `int`. -/
def Short (w : Outgoing) (action : TcpConnection.Action) : Prop :=
  ∀ message result, action = .sendString .other message result → w.conn.state = .kConnected →
    message.length < 2 ^ 31

/-- When the half-close is made, no message waits in the loop. -/
def Emptied (w : Outgoing) (action : TcpConnection.Action) : Prop :=
  w.conn.HalfCloses action → ¬w.conn.Shut → ∀ message ∈ w.conn.queued, message = []

/-- The condition under which the half-close comes after the accepted messages. -/
def Settled (w : Outgoing) (action : TcpConnection.Action) : Prop :=
  w.Short action ∧ w.Emptied action

variable {w after : Outgoing}

/-- Every accepted message is executed or queued. -/
structure Balanced (w : Outgoing) : Prop where
  /-- The output stream is in order. -/
  flows : w.conn.Flows
  /-- No half-close is queued. -/
  loopOnly : .shutdownInLoop ∉ w.conn.tasks
  /-- The length of a queued message survives the way through `int`. -/
  short : ∀ message ∈ w.conn.queued, message.length < 2 ^ 31
  /-- The messages that were accepted are those executed and those queued. -/
  account : w.sent.Perm (w.conn.executed ++ w.conn.queued)
  /-- What was executed on an open connection before the half-close is in the stream. -/
  whole : ¬w.conn.Shut → w.conn.state ≠ .kDisconnected →
    w.conn.messages = w.conn.executed.flatten
  /-- After the half-close nothing is accepted. -/
  closing : w.conn.Shut → w.conn.state = .kDisconnecting ∨ w.conn.state = .kDisconnected
  /-- The half-close came after the accepted messages. -/
  flushed : w.Flushed

/-- Later effects do not change what was done before the half-close. -/
theorem beforeHalfClose_append {trace effects : List ConnEffect}
    (shut : ∃ pending, .shutdownWrite pending ∈ trace) :
    beforeHalfClose (trace ++ effects) = beforeHalfClose trace := by
  obtain ⟨pending, member⟩ := shut
  obtain ⟨front, back, rfl⟩ := List.append_of_mem member
  have cut (rest : List ConnEffect) :
      beforeHalfClose (front ++ .shutdownWrite pending :: rest) = beforeHalfClose front := by
    rw [beforeHalfClose, beforeHalfClose, List.takeWhile_append]
    split
    next whole =>
      rw [List.takeWhile_cons_of_neg (by simp)]
      rw [List.append_nil]
      exact ((List.takeWhile_prefix _).eq_of_length whole).symm
    next => rfl
  rw [List.append_assoc, List.cons_append, cut, cut]

/-- The first half-close ends what was done before it. -/
theorem beforeHalfClose_first {front rest : List ConnEffect} {pending : List UInt8}
    (unshut : ∀ effect ∈ front, ¬effect.IsShutdown) :
    beforeHalfClose (front ++ .shutdownWrite pending :: rest) = front := by
  rw [beforeHalfClose,
    List.takeWhile_append_of_pos fun effect member => decide_eq_true (unshut effect member),
    List.takeWhile_cons_of_neg (by simp), List.append_nil]

/-- Effects on the side execute nothing. -/
theorem executed_aside {effects : List ConnEffect} (aside : TcpConnection.Aside effects) :
    effects.filterMap ConnEffect.message = [] :=
  List.filterMap_eq_nil_iff.mpr fun effect member => (aside effect member).1

/-- Effects on the side owe nothing. -/
theorem owed_aside {effects : List ConnEffect} (aside : TcpConnection.Aside effects) :
    effects.flatMap ConnEffect.owed = [] := by
  refine List.flatMap_eq_nil_iff.mpr fun effect member => ?_
  have other := (aside effect member).1
  cases effect with
  | sendInLoop => cases other
  | _ => rfl

/-- Effects on the side are no half-close. -/
theorem shut_append {c conn : TcpConnection} {effects : List ConnEffect}
    (trace : conn.trace = c.trace ++ effects)
    (none : ∀ effect ∈ effects, ¬effect.IsShutdown) : conn.Shut ↔ c.Shut := by
  rw [TcpConnection.Shut, trace]
  constructor
  · rintro ⟨pending, member⟩
    obtain old | new := List.mem_append.mp member
    · exact ⟨pending, old⟩
    · exact absurd trivial (none _ new)
  · rintro ⟨pending, member⟩
    exact ⟨pending, List.mem_append_left _ member⟩

/-- A half-close among the effects. -/
theorem shut_made {c conn : TcpConnection} {writes : List ConnEffect}
    (trace : conn.trace = c.trace ++ (writes ++ [.shutdownWrite []])) : conn.Shut := by
  refine ⟨[], ?_⟩
  rw [trace, ← List.append_assoc]
  exact List.mem_append_right _ (List.mem_singleton_self _)

/-- A connection that accepts a message is not half-closed. -/
theorem Balanced.unshut (balanced : w.Balanced) {action : TcpConnection.Action}
    {message : List UInt8} (takes : w.conn.takes action = [message]) : ¬w.conn.Shut := by
  intro shut
  have closing := balanced.closing shut
  have down : w.conn.state ≠ .kConnected := by
    intro up
    rw [up] at closing
    simp at closing
  cases action with
  | send caller piece result =>
    rw [TcpConnection.takes, if_neg down] at takes
    cases takes
  | sendString caller text result =>
    rw [TcpConnection.takes, if_neg down] at takes
    cases takes
  | _ => cases takes

/-- Effects after which the half-close is not made, or was made before with nothing accepted
since. -/
theorem Flushed.kept {effects : List ConnEffect} (flushed : w.Flushed)
    (trace : after.conn.trace = w.conn.trace ++ effects)
    (shut : after.conn.Shut → w.conn.Shut ∧ after.sent = w.sent) : after.Flushed := by
  intro now
  obtain ⟨before, same⟩ := shut now
  rw [trace, beforeHalfClose_append before, same]
  exact flushed before

/-- Messages after a step whose effects are known. -/
theorem messages_append {c conn : TcpConnection} {effects : List ConnEffect}
    (trace : conn.trace = c.trace ++ effects) :
    conn.messages = c.messages ++ effects.flatMap ConnEffect.owed := by
  rw [TcpConnection.messages, trace, List.flatMap_append]
  rfl

/-- Executions after a step whose effects are known. -/
theorem executed_append {c conn : TcpConnection} {effects : List ConnEffect}
    (trace : conn.trace = c.trace ++ effects) :
    conn.executed = c.executed ++ effects.filterMap ConnEffect.message := by
  rw [TcpConnection.executed, trace, List.filterMap_append]
  rfl

/-- What the kernel has taken when the half-close is made is everything that was executed. -/
theorem Balanced.taken (balanced : w.Balanced) {action : TcpConnection.Action}
    {conn : TcpConnection} {writes : List ConnEffect} (step : TcpConnection.Step w.conn action conn)
    (noted : w.conn.Notes conn (writes ++ [.shutdownWrite []]))
    (only : ∀ effect ∈ writes, effect.IsWrite) (made : w.conn.HalfCloses action)
    (empty : conn.outputBuffer.readable = []) (unshut : ¬w.conn.Shut) :
    (beforeHalfClose conn.trace).flatMap ConnEffect.accepted = w.conn.executed.flatten := by
  have aside := TcpConnection.aside_writes only
  have up : w.conn.state ≠ .kDisconnected := by
    cases action with
    | shutdown => rw [made.2.1]; decide
    | write => rw [made.1]; decide
    | _ => exact made.elim
  have front : ∀ effect ∈ w.conn.trace ++ writes, ¬effect.IsShutdown := by
    intro effect member shut
    obtain old | new := List.mem_append.mp member
    · cases effect with
      | shutdownWrite pending => exact unshut ⟨pending, old⟩
      | _ => exact shut
    · exact (aside effect new).2 shut
  have stream := (step.flows balanced.flows).stream
  have messages : conn.messages = w.conn.executed.flatten := by
    rw [messages_append noted.trace, List.flatMap_append, owed_aside aside,
      balanced.whole unshut up]
    simp
  rw [empty, List.append_nil, messages, TcpConnection.accepted, noted.trace, ← List.append_assoc,
    List.flatMap_append] at stream
  rw [noted.trace, ← List.append_assoc, beforeHalfClose_first front, ← stream]
  simp

/-- Effects without a half-close keep the balance if what they owe is what they execute. -/
theorem Balanced.extend {action : TcpConnection.Action} {effects : List ConnEffect}
    (balanced : w.Balanced) (step : TcpConnection.Step w.conn action after.conn)
    (loopOnly : .shutdownInLoop ∉ after.conn.tasks)
    (trace : after.conn.trace = w.conn.trace ++ effects)
    (none : ∀ effect ∈ effects, ¬effect.IsShutdown)
    (short : ∀ message ∈ after.conn.queued, message.length < 2 ^ 31)
    (account : after.sent.Perm
      (w.conn.executed ++ effects.filterMap ConnEffect.message ++ after.conn.queued))
    (owed : ¬w.conn.Shut → w.conn.state ≠ .kDisconnected →
      effects.flatMap ConnEffect.owed = (effects.filterMap ConnEffect.message).flatten)
    (sent : w.conn.Shut → after.sent = w.sent) : after.Balanced := by
  have shut := shut_append trace none
  refine ⟨step.flows balanced.flows, loopOnly, short, ?_, fun unshut now => ?_, fun now => ?_, ?_⟩
  · rw [executed_append trace]
    exact account
  · have before : ¬w.conn.Shut := fun before => unshut (shut.mpr before)
    have up : w.conn.state ≠ .kDisconnected := fun down => now (step.down balanced.flows down)
    rw [messages_append trace, executed_append trace, List.flatten_append, owed before up,
      balanced.whole before up]
  · exact step.closing balanced.flows (balanced.closing (shut.mp now))
  · exact balanced.flushed.kept trace fun now => ⟨shut.mp now, sent (shut.mp now)⟩

/-- The half-close keeps the balance when no message waits. -/
theorem Balanced.halfClose {action : TcpConnection.Action} {writes : List ConnEffect}
    (balanced : w.Balanced) (step : TcpConnection.Step w.conn action after.conn)
    (loopOnly : .shutdownInLoop ∉ after.conn.tasks)
    (noted : w.conn.Notes after.conn (writes ++ [.shutdownWrite []]))
    (only : ∀ effect ∈ writes, effect.IsWrite) (made : w.conn.HalfCloses action)
    (empty : after.conn.outputBuffer.readable = []) (closed : after.conn.state = .kDisconnecting)
    (sent : after.sent = w.sent) (emptied : w.Emptied action) : after.Balanced := by
  have shut : after.conn.Shut := shut_made noted.trace
  have executed := executed_append noted.trace
  rw [List.filterMap_append, executed_aside (TcpConnection.aside_writes only),
    List.nil_append] at executed
  have ran : after.conn.executed = w.conn.executed := executed.trans (List.append_nil _)
  refine ⟨step.flows balanced.flows, loopOnly, ?_, ?_, fun unshut _ => absurd shut unshut,
    fun _ => .inl closed, ?_⟩
  · rw [noted.queued]
    exact balanced.short
  · rw [sent, ran, noted.queued]
    exact balanced.account
  · by_cases before : w.conn.Shut
    · exact balanced.flushed.kept noted.trace fun _ => ⟨before, sent⟩
    · refine fun _ => ⟨w.conn.executed ++ w.conn.queued, ?_, ?_⟩
      · rw [sent]
        exact balanced.account.symm
      · have waiting : w.conn.queued.flatten = [] :=
          List.flatten_eq_nil_iff.mpr (emptied made before)
        rw [balanced.taken step noted only made empty before, List.flatten_append, waiting,
          List.append_nil]

/-- The functors after a step in which only the loop thread shuts down. -/
theorem Balanced.loopOnly_step {action : TcpConnection.Action} {conn : TcpConnection}
    (balanced : w.Balanced) (step : TcpConnection.Step w.conn action conn)
    (shuts : ∀ caller, action = .shutdown caller → caller = .loop) :
    .shutdownInLoop ∉ conn.tasks := by
  intro member
  obtain old | callback | queued := step.tasks balanced.flows _ member
  · exact balanced.loopOnly old
  · exact callback
  · cases action with
    | shutdown caller => cases queued.1.symm.trans (shuts caller rfl)
    | _ => simp [TcpConnection.Action.Queues] at queued

/-- A message that is accepted and queued keeps the balance. -/
theorem Balanced.queues {action : TcpConnection.Action} {message : List UInt8}
    (balanced : w.Balanced) (step : TcpConnection.Step w.conn action after.conn)
    (loopOnly : .shutdownInLoop ∉ after.conn.tasks) (trace : after.conn.trace = w.conn.trace)
    (queued : after.conn.queued = w.conn.queued ++ [message])
    (takes : w.conn.takes action = [message]) (fits : message.length < 2 ^ 31)
    (sent : after.sent = w.sent ++ [message]) : after.Balanced := by
  have unshut := balanced.unshut takes
  have added : after.conn.trace = w.conn.trace ++ [] := trace.trans (List.append_nil _).symm
  refine balanced.extend step loopOnly added (fun effect member => (by cases member)) ?_ ?_
    (fun _ _ => rfl) fun shut => absurd shut unshut
  · intro other member
    rw [queued] at member
    obtain old | new := List.mem_append.mp member
    · exact balanced.short other old
    · rw [List.mem_singleton.mp new]
      exact fits
  · rw [sent, List.filterMap_nil, List.append_nil, queued, ← List.append_assoc]
    exact balanced.account.append_right _

/-- A message that is accepted or was queued, and is executed, keeps the balance. -/
theorem Balanced.sends {action : TcpConnection.Action} {message : List UInt8}
    {writes : List ConnEffect} {broken : Bool} (balanced : w.Balanced)
    (step : TcpConnection.Step w.conn action after.conn)
    (loopOnly : .shutdownInLoop ∉ after.conn.tasks)
    (trace : after.conn.trace =
      w.conn.trace ++ (writes ++ [.sendInLoop message w.conn.state broken]))
    (only : ∀ effect ∈ writes, effect.IsWrite) (whole : ¬w.conn.Shut → broken = false)
    (moved : after.conn.queued = w.conn.queued ∧ w.conn.takes action = [message] ∨
      w.conn.queued = message :: after.conn.queued ∧ w.conn.takes action = [])
    (sent : after.sent = w.sent ++ w.conn.takes action) : after.Balanced := by
  have aside := TcpConnection.aside_writes only
  have ran : (writes ++ [ConnEffect.sendInLoop message w.conn.state broken]).filterMap
      ConnEffect.message = [message] := by
    rw [List.filterMap_append, executed_aside aside]
    rfl
  refine balanced.extend step loopOnly trace ?_ ?_ ?_ ?_ ?_
  · intro effect member
    obtain write | executed := List.mem_append.mp member
    · exact (aside effect write).2
    · rw [List.mem_singleton.mp executed]
      exact id
  · intro other member
    apply balanced.short
    obtain ⟨same, -⟩ | ⟨popped, -⟩ := moved
    · rwa [same] at member
    · rw [popped]
      exact List.mem_cons_of_mem _ member
  · rw [ran, List.append_assoc]
    obtain ⟨same, takes⟩ | ⟨popped, none⟩ := moved
    · rw [sent, takes, same]
      refine (balanced.account.append_right [message]).trans ?_
      rw [List.append_assoc]
      exact List.perm_append_comm.append_left _
    · rw [sent, none, List.append_nil]
      have account := balanced.account
      rw [popped] at account
      exact account
  · intro before open'
    rw [ran, List.flatMap_append, owed_aside aside, whole before]
    simp [open']
  · intro shut
    obtain ⟨-, takes⟩ | ⟨-, none⟩ := moved
    · exact absurd shut (balanced.unshut takes)
    · rw [sent, none, List.append_nil]

/-- Every settled step keeps the balance. -/
theorem Step.balanced {action : TcpConnection.Action} (step : Step w action after)
    (balanced : w.Balanced) (settled : w.Settled action) : after.Balanced := by
  obtain ⟨conn, graceful, sent⟩ := step
  have loopOnly := balanced.loopOnly_step conn graceful.shuts
  have books := conn.books balanced.flows balanced.loopOnly balanced.short graceful.shuts
    graceful.pieces
  cases books with
  | calm noted aside none unmade =>
    rw [none, List.append_nil] at sent
    refine balanced.extend conn loopOnly noted.trace (fun effect member => (aside effect member).2)
      ?_ ?_ ?_ fun _ => sent
    · rw [noted.queued]
      exact balanced.short
    · rw [sent, executed_aside aside, List.append_nil, noted.queued]
      exact balanced.account
    · intro _ _
      rw [owed_aside aside, executed_aside aside]
      rfl
  | @queues message trace queued takes length unmade =>
    rw [takes] at sent
    have fits : message.length < 2 ^ 31 := by
      obtain fits | ⟨result, rfl⟩ := length
      · exact fits
      · apply settled.1 message result rfl
        by_contra down
        rw [TcpConnection.takes, if_neg down] at takes
        cases takes
    exact balanced.queues conn loopOnly trace queued takes fits sent
  | @sends message writes broken trace only fault moved unmade =>
    have whole (before : ¬w.conn.Shut) : broken = false := by
      by_contra broke
      obtain ⟨result, writes, failed⟩ := fault (Bool.eq_true_of_not_eq_false broke)
      cases failed.symm.trans (graceful.writes before result writes)
    exact balanced.sends conn loopOnly trace only whole moved sent
  | halfCloses noted only none made empty closed =>
    rw [none, List.append_nil] at sent
    exact balanced.halfClose conn loopOnly noted only made empty closed sent settled.2

/-- A half-close that came after the accepted messages was made with no message queued. -/
theorem Step.emptied {action : TcpConnection.Action} (step : Step w action after)
    (balanced : w.Balanced) (flushed : after.Flushed) : w.Emptied action := by
  obtain ⟨conn, graceful, sent⟩ := step
  intro made unshut message waiting
  have books := conn.books balanced.flows balanced.loopOnly balanced.short graceful.shuts
    graceful.pieces
  cases books with
  | calm _ _ _ unmade => exact absurd made unmade
  | queues _ _ _ _ unmade => exact absurd made unmade
  | sends _ _ _ _ unmade => exact absurd made unmade
  | halfCloses noted only none _ empty closed =>
    rw [none, List.append_nil] at sent
    obtain ⟨order, same, written⟩ := flushed (shut_made noted.trace)
    rw [balanced.taken conn noted only made empty unshut] at written
    rw [sent] at same
    have total := (same.trans balanced.account).flatten.length_eq
    rw [← written, List.flatten_append, List.length_append] at total
    have nothing : w.conn.queued.flatten = [] := List.length_eq_zero_iff.mp (by omega)
    exact List.flatten_eq_nil_iff.mp nothing message waiting

/-- A new connection has accepted nothing. -/
theorem new_balanced {address : ChannelId} {fd : Int} {poller : EpollPoller} {highWaterMark : Nat}
    {writeComplete highWater : Bool} {first : TcpConnection} (unknown : poller.channels fd = none)
    (unwatched : poller.interest fd = none)
    (made : TcpConnection.new address fd poller highWaterMark writeComplete highWater =
      .ok first) : Balanced { conn := first, sent := [] } := by
  have flows := TcpConnection.new_flows unknown unwatched made
  obtain ⟨_, _, rest⟩ := bind_eq_ok.mp made
  obtain ⟨_, _, rest⟩ := bind_eq_ok.mp rest
  obtain rfl := Except.ok.inj rest
  refine ⟨flows, by simp, ?_, .nil, fun _ _ => rfl, ?_, ?_⟩
  · intro message member
    cases member
  · rintro ⟨pending, member⟩
    cases member
  · rintro ⟨pending, member⟩
    cases member

/-- Graceful shutdown flushes the accepted messages: in every run in which no string of `2^31` bytes
or more is sent by another thread, and no message waits in the loop when the half-close is made,
`::write` has taken all messages that `send` accepted before the half-close. A half-close that is
made while a message waits comes before that message. -/
theorem shutdown_flushes (address : ChannelId) (fd : Int) (poller : EpollPoller)
    (highWaterMark : Nat) (writeComplete highWater : Bool) (first : TcpConnection)
    (unknown : poller.channels fd = none) (unwatched : poller.interest fd = none)
    (made : TcpConnection.new address fd poller highWaterMark writeComplete highWater = .ok first)
    (actions : List TcpConnection.Action) (w : Outgoing)
    (run : Run (Guarded Step Settled) { conn := first, sent := [] } actions w) :
    w.Flushed ∧ ∀ action after, Step w action after → w.Short action →
      (after.Flushed ↔ w.Emptied action) := by
  have keeps : ∀ before action after, before.Balanced →
      Guarded Step Settled before action after → after.Balanced :=
    fun _ _ _ balanced taken => taken.1.balanced balanced taken.2
  have balanced : w.Balanced := run.invariant (new_balanced unknown unwatched made) keeps
  refine ⟨balanced.flushed, fun action after step short => ?_⟩
  constructor
  · exact step.emptied balanced
  · exact fun emptied => (step.balanced balanced ⟨short, emptied⟩).flushed

/-- A step of the connection in the setting here. -/
theorem takes_step {conn : TcpConnection} {action : TcpConnection.Action}
    (step : TcpConnection.Step w.conn action conn) (graceful : w.conn.Graceful action) :
    Step w action { conn, sent := w.sent ++ w.conn.takes action } :=
  ⟨step, graceful, rfl⟩

/-- Another thread sends three bytes, its functor writes them, and the loop thread shuts down. -/
theorem shutdown_flushes_three_bytes :
    ∃ first w, TcpConnection.new 0 3 .new 65536 false false = .ok first ∧
      Run (Guarded Step Settled) { conn := first, sent := [] }
        [.task (.failed 0 0), .sendString .other [1, 2, 3] (.failed 0 0), .task (.accepted 3),
          .shutdown .loop] w ∧
      w.conn.Shut ∧ w.sent = [[1, 2, 3]] ∧ w.Flushed := by
  have made : ∃ first w, TcpConnection.new 0 3 .new 65536 false false = .ok first ∧
      Run (Guarded Step Settled) { conn := first, sent := [] }
        [.task (.failed 0 0), .sendString .other [1, 2, 3] (.failed 0 0), .task (.accepted 3),
          .shutdown .loop] w ∧
      w.conn.Shut ∧ w.sent = [[1, 2, 3]] := by
    rw [TcpConnection.new, Buffer.new_eq (by decide)]
    refine ⟨_, _, rfl,
      .cons ⟨takes_step (TcpConnection.Attempt.step (.task rfl (.inl rfl) ?_) rfl) ?_, ?_⟩
      (.cons ⟨takes_step (TcpConnection.Attempt.step (.sendString ?_ trivial) rfl) ?_, ?_⟩
      (.cons ⟨takes_step (TcpConnection.Attempt.step (.task rfl (.inl rfl) ?_)
        ((TcpConnection.runTask_send (by decide) _ _).trans rfl)) ?_, ?_⟩
      (.cons ⟨takes_step (TcpConnection.Attempt.step .shutdown rfl) ?_, ?_⟩ (.nil _)))),
      ⟨[], ?_⟩, rfl⟩
    · intro message other
      cases other
    · exact ⟨fun _ other => (by cases other), fun _ _ _ other => (by cases other),
        fun _ result same => (by cases same; rfl)⟩
    · exact ⟨fun _ _ other => (by cases other), fun made => made.elim⟩
    · decide
    · exact ⟨fun _ other => (by cases other), fun _ _ _ other => (by cases other),
        fun _ result same => (by cases same; rfl)⟩
    · exact ⟨fun _ _ same _ => (by cases same; decide), fun made => made.elim⟩
    · intro message same
      cases same
      show 3 ≤ sizeOfInt (intOfSize 3)
      rw [sizeOfInt_intOfSize (by decide)]
    · exact ⟨fun _ other => (by cases other), fun _ _ _ other => (by cases other),
        fun _ result same => (by cases same; rfl)⟩
    · exact ⟨fun _ _ other => (by cases other), fun made => made.elim⟩
    · exact ⟨fun _ same => (by cases same; rfl), fun _ _ _ other => (by cases other),
        fun _ result none => none.elim⟩
    · exact ⟨fun _ _ other => (by cases other), fun _ _ message member => (by cases member)⟩
    · exact List.mem_append_right _ (List.mem_singleton_self _)
  obtain ⟨first, w, built, run, shut, sent⟩ := made
  exact ⟨first, w, built, run, shut, sent,
    (shutdown_flushes 0 3 .new 65536 false false first rfl rfl built _ w run).1⟩

/-- Another thread sends three bytes, and the loop thread shuts down before the functor runs: the
half-close is made and nothing has been written. -/
theorem half_close_before_message :
    ∃ first middle w, TcpConnection.new 0 3 .new 65536 false false = .ok first ∧
      Run Step { conn := first, sent := [] }
        [.task (.failed 0 0), .sendString .other [1, 2, 3] (.failed 0 0)] middle ∧
      middle.conn.state = .kConnected ∧ middle.sent = [[1, 2, 3]] ∧
      Run Step middle [.shutdown .loop] w ∧ w.conn.Shut ∧ w.sent = [[1, 2, 3]] ∧
      (beforeHalfClose w.conn.trace).flatMap ConnEffect.accepted = [] ∧ ¬w.Flushed := by
  have made : ∃ first middle w, TcpConnection.new 0 3 .new 65536 false false = .ok first ∧
      Run Step { conn := first, sent := [] }
        [.task (.failed 0 0), .sendString .other [1, 2, 3] (.failed 0 0)] middle ∧
      middle.conn.state = .kConnected ∧ middle.sent = [[1, 2, 3]] ∧
      Run Step middle [.shutdown .loop] w ∧ w.conn.Shut ∧ w.sent = [[1, 2, 3]] ∧
      (beforeHalfClose w.conn.trace).flatMap ConnEffect.accepted = [] := by
    rw [TcpConnection.new, Buffer.new_eq (by decide)]
    refine ⟨_, _, _, rfl,
      .cons (takes_step (TcpConnection.Attempt.step (.task rfl (.inl rfl) ?_) rfl) ?_)
      (.cons (takes_step (TcpConnection.Attempt.step (.sendString ?_ trivial) rfl) ?_) (.nil _)),
      rfl, rfl, .cons (takes_step (TcpConnection.Attempt.step .shutdown rfl) ?_) (.nil _),
      ⟨[], ?_⟩, rfl, rfl⟩
    · intro message other
      cases other
    · exact ⟨fun _ other => (by cases other), fun _ _ _ other => (by cases other),
        fun _ result same => (by cases same; rfl)⟩
    · decide
    · exact ⟨fun _ other => (by cases other), fun _ _ _ other => (by cases other),
        fun _ result same => (by cases same; rfl)⟩
    · exact ⟨fun _ same => (by cases same; rfl), fun _ _ _ other => (by cases other),
        fun _ result none => none.elim⟩
    · exact List.mem_append_right _ (List.mem_singleton_self _)
  obtain ⟨first, middle, w, built, run, connected, accepted, shuts, shut, sent, none⟩ := made
  refine ⟨first, middle, w, built, run, connected, accepted, shuts, shut, sent, none,
    fun flushed => ?_⟩
  obtain ⟨order, same, written⟩ := flushed shut
  rw [none] at written
  have length := same.flatten.length_eq
  rw [← written, sent] at length
  cases length

end Outgoing

end Muduo
