import Muduo.Net.TcpStream

/-!
# What reaches the stream of a connection

The executions of `sendInLoop` are read off the actions of a run: a call of `send` in the thread of
the loop, or the functor of a call in another thread, with the state it finds and the result of its
direct write if it makes one. The stream is what these executions owe to it.
-/

open Outcome Transition

namespace Muduo

/-- The bytes that `sendInLoop(message)` is given. -/
def StringPiece.given (piece : StringPiece) : List UInt8 :=
  piece.data.take (sizeOfInt piece.length)

/-- An execution of `sendInLoop`. -/
structure SendExecution where
  /-- The message. -/
  message : List UInt8
  /-- The state that it finds. -/
  state : StateE
  /-- The result of the direct write, if it is made. -/
  direct : Option WriteResult
  deriving DecidableEq, Repr

namespace SendExecution

/-- The bytes that must reach the stream: the message, unless the connection is closed or the direct
write fails and `errno`, read again after the failure was logged, is `EPIPE` or `ECONNRESET`. -/
def owed (execution : SendExecution) : List UInt8 :=
  if execution.state = .kDisconnected ∨ execution.direct.any WriteResult.broken then []
  else execution.message

/-- The message, unless the connection is closed or the direct write fails with `EPIPE` or
`ECONNRESET`. -/
def sent (execution : SendExecution) : List UInt8 :=
  if execution.state = .kDisconnected ∨ execution.direct.any WriteResult.hangsUp then []
  else execution.message

/-- The logger keeps `errno` when the direct write fails. -/
def LogsKeepErrno (execution : SendExecution) : Prop :=
  ∀ result ∈ execution.direct, result.KeepsErrno

/-- Where logging keeps `errno`, what must reach the stream depends on the `errno` of `::write`. -/
theorem LogsKeepErrno.owed_eq {execution : SendExecution} (keeps : execution.LogsKeepErrno) :
    execution.owed = execution.sent := by
  rw [owed, sent]
  cases direct : execution.direct with
  | none => rfl
  | some result =>
    have kept : result.KeepsErrno := keeps result direct
    rw [Option.any_some, Option.any_some, kept.broken_eq]

end SendExecution

namespace TcpConnection

/-- An execution of `sendInLoop` in a state: the direct write is made when the connection is not
closed, does not wait for writing and has nothing to write. -/
def execution (c : TcpConnection) (message : List UInt8) (result : WriteResult) :
    SendExecution where
  message
  state := c.state
  direct :=
    if c.state ≠ .kDisconnected ∧ c.channel.isWriting = false ∧ c.outputBuffer.readable = [] then
      some result
    else none

/-- The execution of `sendInLoop` that an action is, if it is one. -/
def executions (c : TcpConnection) : Action → List SendExecution
  | .send caller message result =>
    if caller = .loop ∧ c.state = .kConnected then [c.execution message.given result] else []
  | .sendString caller message result =>
    if caller = .loop ∧ c.state = .kConnected then [c.execution message result] else []
  | .task result =>
    match c.tasks with
    | .sendInLoop message :: _ => [c.execution (StringPiece.ofString message).given result]
    | _ => []
  | _ => []

/-- A step of which the executions of `sendInLoop` are noted. -/
abbrev Sending : Observed TcpConnection SendExecution → Action →
    Observed TcpConnection SendExecution → Prop :=
  Observing Step fun c action _ => c.executions action

variable {permits : Permits} {c after : TcpConnection}

/-- Moves that execute no `sendInLoop` owe nothing. -/
theorem Move.messages (move : Move permits c after) (silent : ¬permits.sends) :
    after.messages = c.messages := by
  have same {trace effects : List ConnEffect} (none : effects.flatMap ConnEffect.owed = []) :
      (trace ++ effects).flatMap ConnEffect.owed = trace.flatMap ConnEffect.owed := by
    rw [List.flatMap_append, none, List.append_nil]
  cases move with
  | aside _ _ _ _ trace =>
    rw [TcpConnection.messages, trace]
    rfl
  | called callback =>
    obtain rfl | rfl := callback
    · exact same rfl
    · exact same rfl
  | disconnect => rfl
  | start => rfl
  | stop => rfl
  | refuse _ sending => exact absurd sending silent
  | sendNothing _ sending => exact absurd sending silent
  | sendWhole _ _ _ _ _ sending => exact absurd sending silent
  | sendPart _ _ _ _ _ _ _ _ _ _ sending => exact absurd sending silent
  | sendBehind _ _ _ _ _ sending => exact absurd sending silent
  | _ => exact same rfl

/-- `keepRest` has no effect. -/
theorem keepRest_trace {data : List UInt8} {nwrote remaining : Nat}
    (done : c.keepRest data nwrote remaining = .ok after) : after.trace = c.trace := by
  obtain ⟨tasks, -, same⟩ := c.keepRest_eq data nwrote remaining
  rw [same] at done
  obtain ⟨output, -, rest⟩ := bind_eq_ok.mp done
  split at rest
  · obtain rfl := Except.ok.inj rest
    rfl
  · obtain ⟨poller, channel, -, rfl⟩ := setInterest_eq_ok.mp rest
    rfl

/-- An execution of `sendInLoop` owes its message as its record says. -/
theorem sendInLoop_messages {data : List UInt8} {len : Nat} {result : WriteResult}
    (valid : c.outputBuffer.Valid) (fits : result.Fits len)
    (done : c.sendInLoop data len result = .ok after) :
    after.messages = c.messages ++ (c.execution (data.take len) result).owed := by
  rw [sendInLoop] at done
  by_cases down : c.state = .kDisconnected
  · rw [if_pos (beq_iff_eq.mpr down)] at done
    obtain rfl := Except.ok.inj done
    simp [messages, note, SendExecution.owed, execution, down]
  rw [if_neg (by simpa using down)] at done
  obtain ⟨⟨written, nwrote, faultError⟩, direct, rest⟩ := bind_eq_ok.mp done
  obtain ⟨_, -, rest⟩ := bind_eq_ok.mp rest
  obtain ⟨kept, keeping, rest⟩ := bind_eq_ok.mp rest
  obtain rfl := Except.ok.inj rest
  have wrote : written.messages = c.messages ∧
      (c.execution (data.take len) result).direct.any WriteResult.broken = faultError := by
    by_cases idle : c.channel.isWriting = false ∧ c.outputBuffer.readable = []
    · rw [if_pos (by simp [idle.1, (readableBytes_eq_zero valid).mpr idle.2])] at direct
      obtain ⟨tasks, rfl, -, -, -, rfl, -⟩ := directWrite_ok fits direct
      refine ⟨by simp [messages], ?_⟩
      rw [execution, if_pos ⟨down, idle⟩, Option.any_some]
    · have waits : ¬(!c.channel.isWriting && c.outputBuffer.readableBytes == 0) = true := by
        rw [Bool.and_eq_true, readableBytes_eq_zero valid, Bool.not_eq_true']
        exact idle
      rw [if_neg waits] at direct
      cases direct
      refine ⟨rfl, ?_⟩
      rw [execution, if_neg fun writes => idle writes.2, Option.any_none]
  have rest : kept.trace = written.trace := by
    split at keeping
    · exact keepRest_trace keeping
    · obtain rfl := Except.ok.inj keeping
      rfl
  obtain ⟨same, fault⟩ := wrote
  rw [SendExecution.owed, fault, ← same]
  simp only [messages, note, rest, List.flatMap_append, List.flatMap_singleton]
  rfl

/-- Every step owes to the stream what the executions in it owe. -/
theorem Step.messages {action : Action} (step : Step c action after) (flows : c.Flows) :
    after.messages = c.messages ++ (c.executions action).flatMap SendExecution.owed := by
  by_cases executes : c.Executes action
  · have attempt : Attempt c action (.ok after) := step
    generalize outcome : Except.ok after = result at attempt
    symm at outcome
    cases attempt with
    | @send caller message written fits =>
      obtain ⟨rfl, up⟩ := executes
      rw [executions, if_pos ⟨rfl, up⟩, List.flatMap_singleton]
      rw [send.eq_def, if_pos (beq_iff_eq.mpr up)] at outcome
      exact sendInLoop_messages flows.valid fits outcome
    | @sendString caller message written object fits =>
      obtain ⟨rfl, up⟩ := executes
      rw [executions, if_pos ⟨rfl, up⟩, List.flatMap_singleton]
      rw [sendString, if_pos (beq_iff_eq.mpr up)] at outcome
      have sent := sendInLoop_messages flows.valid fits outcome
      rwa [List.take_length] at sent
    | @task task rest written first idle fits =>
      obtain ⟨message, others, waits⟩ := executes
      obtain ⟨rfl, rfl⟩ := List.cons.inj (first.symm.trans waits)
      rw [executions, first, List.flatMap_singleton]
      have sent := sendInLoop_messages (c := { c with tasks := rest }) flows.valid
        (fits message rfl) outcome
      exact sent
    | _ => exact executes.elim
  · have none : c.executions action = [] := by
      cases action with
      | send => exact if_neg executes
      | sendString => exact if_neg executes
      | task result =>
        rw [executions]
        split
        next message rest waits => exact absurd ⟨message, rest, waits⟩ executes
        next => rfl
      | _ => rfl
    have keeps : ∀ before next : TcpConnection, before.messages = c.messages →
        Move (c.allowance action) before next → next.messages = c.messages :=
      fun _ _ same move => (move.messages executes).trans same
    rw [none, List.flatMap_nil, List.append_nil]
    exact (step.moves flows.valid flows.agrees).invariant keeps rfl

/-- Along a run, the messages owed are those of the executions in it. -/
theorem Sending.messages {first last : Observed TcpConnection SendExecution}
    {actions : List Action} (run : Run Sending first actions last) (flows : first.state.Flows)
    (same : first.state.messages = first.notes.flatMap SendExecution.owed) :
    last.state.Flows ∧ last.state.messages = last.notes.flatMap SendExecution.owed := by
  have keeps : ∀ before action after,
      before.state.Flows ∧ before.state.messages = before.notes.flatMap SendExecution.owed →
      Sending before action after →
      after.state.Flows ∧ after.state.messages = after.notes.flatMap SendExecution.owed := by
    rintro before action after ⟨flows, same⟩ ⟨step, noted⟩
    refine ⟨Step.flows step flows, ?_⟩
    rw [Step.messages step flows, noted, List.flatMap_append, same]
  exact run.invariant ⟨flows, same⟩ keeps

/-- The output stream of a connection: in every state of every run, with any results of `::write`
and any calls from any thread, an open connection asks for writing exactly when its output buffer
is not empty. What the kernel accepted followed by the output buffer is the sequence of the messages
whose `sendInLoop` was executed in a state other than `kDisconnected`, with no direct write for
which its test found `EPIPE` or `ECONNRESET`; where logging keeps `errno`, with no direct write that
failed so. When only the loop thread calls `send` and `shutdown`, the half-close is made at most
once, with an empty output buffer, and no write follows it. -/
theorem output_stream_integrity (address : ChannelId) (fd : Int) (poller : EpollPoller)
    (highWaterMark : Nat) (writeComplete highWater : Bool) (first : TcpConnection)
    (unknown : poller.channels fd = none) (unwatched : poller.interest fd = none)
    (made : new address fd poller highWaterMark writeComplete highWater = .ok first)
    (actions : List Action) (last : Observed TcpConnection SendExecution)
    (run : Run Sending ⟨first, []⟩ actions last) :
    (last.state.state = .kConnected ∨ last.state.state = .kDisconnecting →
      (last.state.channel.isWriting = true ↔ last.state.outputBuffer.readable ≠ [])) ∧
    last.state.accepted ++ last.state.outputBuffer.readable =
      last.notes.flatMap SendExecution.owed ∧
    ((∀ execution ∈ last.notes, execution.LogsKeepErrno) →
      last.state.accepted ++ last.state.outputBuffer.readable =
        last.notes.flatMap SendExecution.sent) ∧
    (Run (Guarded Step LoopCalls) first actions last.state → Orderly last.state.trace) := by
  have start := new_flows unknown unwatched made
  have built : first.HalfClosed ∧ first.messages = [] := by
    obtain ⟨_, _, rest⟩ := bind_eq_ok.mp made
    obtain ⟨_, _, rest⟩ := bind_eq_ok.mp rest
    obtain rfl := Except.ok.inj rest
    exact ⟨⟨⟨.nil, nofun⟩, nofun, by simp [ConnTask.Sends]⟩, rfl⟩
  obtain ⟨flows, messages⟩ := Sending.messages run start built.2
  have stream := flows.stream.trans messages
  refine ⟨fun up => flows.agrees ?_, stream, fun keeps => ?_, fun own => ?_⟩
  · rintro closed
    rw [closed] at up
    simp at up
  · rw [stream]
    exact List.flatMap_congr fun execution member => (keeps execution member).owed_eq
  · have both : first.Flows ∧ first.HalfClosed := ⟨start, built.1⟩
    have kept : last.state.Flows ∧ last.state.HalfClosed := own.invariant both
      fun _ _ _ kept taken => taken.1.halfClosed taken.2 kept.1 kept.2
    exact kept.2.orderly

/-- Three bytes are sent on a new connection and written at once. -/
theorem output_stream_three_bytes :
    ∃ first last, new 0 3 .new 65536 false false = .ok first ∧
      Run Sending ⟨first, []⟩ [.task (.failed 0 0), .sendString .loop [1, 2, 3] (.accepted 3)]
        last ∧
      last.notes.flatMap SendExecution.sent = [1, 2, 3] ∧
      last.state.accepted ++ last.state.outputBuffer.readable = [1, 2, 3] := by
  have made : ∃ first last, new 0 3 .new 65536 false false = .ok first ∧
      Run Sending ⟨first, []⟩ [.task (.failed 0 0), .sendString .loop [1, 2, 3] (.accepted 3)]
        last ∧
      last.notes = [⟨[1, 2, 3], .kConnected, some (.accepted 3)⟩] := by
    rw [new, Buffer.new_eq (by decide)]
    refine ⟨_, _, rfl, .observe (Attempt.step (.task rfl (.inl rfl) ?_) rfl)
      (.observe (Attempt.step (.sendString ?_ ?_) rfl) (.nil _)), rfl⟩
    · intro message other
      cases other
    · decide
    · exact Nat.le_refl 3
  obtain ⟨first, last, built, run, noted⟩ := made
  have sent : last.notes.flatMap SendExecution.sent = [1, 2, 3] := by
    rw [noted]
    rfl
  have keeps : ∀ execution ∈ last.notes, execution.LogsKeepErrno := by
    rw [noted]
    intro execution member
    obtain rfl := List.mem_singleton.mp member
    intro result made
    obtain rfl := Option.some.inj made
    trivial
  refine ⟨first, last, built, run, sent, ?_⟩
  rw [← sent]
  exact (output_stream_integrity 0 3 .new 65536 false false first rfl rfl built _ last run).2.2.1
    keeps

end TcpConnection

end Muduo
