import Muduo.Net.TcpShutdown

/-!
# What one speaker speaks on a connection

When a single function in the loop thread is all that sends on a connection and shuts it down, the
messages of the connection are what that function sent, in order, up to its `shutdown`. Whatever
else happens to the connection leaves them alone: it writes them, makes the half-close when all of
them are written, or closes.
-/

open Outcome Transition

namespace Muduo

/-- A functor that neither sends nor closes, nor establishes the connection. -/
def ConnTask.IsQuiet : ConnTask → Prop
  | .startReadInLoop => True
  | .stopReadInLoop => True
  | task => task.IsCallback

/-- An execution of `sendInLoop` that found `EPIPE` or `ECONNRESET` behind its direct write. -/
def ConnEffect.breaks : ConnEffect → Bool
  | .sendInLoop _ _ broken => broken
  | _ => false

namespace TcpConnection

/-- The calls that send or close, and the timer that such a call leaves behind. -/
def Action.Intrudes : Action → Prop
  | .send _ _ _ => True
  | .sendString _ _ _ => True
  | .shutdown _ => True
  | .forceClose => True
  | .forceCloseWithDelay => True
  | .timer => True
  | _ => False

/-- No execution of `sendInLoop` found `EPIPE` or `ECONNRESET` behind its direct write. -/
def Unbroken (c : TcpConnection) : Prop :=
  ∀ effect ∈ c.trace, effect.breaks = false

variable {c middle after : TcpConnection}

/-- What an action does that is not a call of the speaker. -/
inductive Rests (c after : TcpConnection) : Prop
  /-- Nothing that concerns the output. -/
  | still {effects : List ConnEffect} (state : after.state = c.state)
      (output : after.outputBuffer = c.outputBuffer) (trace : after.trace = c.trace ++ effects)
      (calls : ∀ effect ∈ effects, effect = .messageCallback)
  /-- A write that leaves something, or of a connection that is not shut down. -/
  | flushes {offered : List UInt8} {result : WriteResult} (up : c.state ≠ .kDisconnected)
      (state : after.state = c.state) (trace : after.trace = c.trace ++ [.write offered result])
      (left : c.state = .kDisconnecting →
        c.outputBuffer.readable ≠ [] ∧ after.outputBuffer.readable ≠ [])
  /-- The write of the last bytes, and the half-close. -/
  | halfCloses {offered : List UInt8} {result : WriteResult} (closing : c.state = .kDisconnecting)
      (state : after.state = c.state)
      (trace : after.trace = c.trace ++ [.write offered result, .shutdownWrite []])
      (empty : after.outputBuffer.readable = [])
  /-- The connection is closed. -/
  | closes (up : c.state = .kConnected ∨ c.state = .kDisconnecting)
      (down : after.state = .kDisconnected)
      (trace : after.trace = c.trace ++ [.connectionCallback false, .closeCallback])

/-- Nothing happens. -/
theorem Rests.refl (c : TcpConnection) : c.Rests c :=
  .still rfl rfl (List.append_nil _).symm (fun _ none => (by cases none))

/-- Only surroundings change before. -/
theorem Rests.beside (rests : middle.Rests after) (same : c.Beside middle)
    (output : middle.outputBuffer = c.outputBuffer) : c.Rests after := by
  cases rests with
  | still state kept trace calls =>
    exact .still (state.trans same.state) (kept.trans output) (by rw [trace, same.trace]) calls
  | flushes up state trace left =>
    rw [same.state, output] at left
    exact .flushes (same.state ▸ up) (state.trans same.state) (by rw [trace, same.trace]) left
  | halfCloses closing state trace empty =>
    exact .halfCloses (same.state ▸ closing) (state.trans same.state) (by rw [trace, same.trace])
      empty
  | closes up down trace => exact .closes (same.state ▸ up) down (by rw [trace, same.trace])

/-- `handleClose` closes and calls back. -/
theorem handleClose_rests (done : c.handleClose = .ok after) : c.Rests after := by
  rw [handleClose] at done
  obtain ⟨_, up, rest⟩ := bind_eq_ok.mp done
  obtain ⟨disabled, disabling, rest⟩ := bind_eq_ok.mp rest
  obtain ⟨poller, channel, changed, rfl⟩ := setInterest_eq_ok.mp disabling
  cases rest
  have down : (StateE.kDisconnected == StateE.kConnected) = false := rfl
  refine .closes (by simpa using up) rfl ?_
  simp [connectionCallback, note, down]

/-- `handleWrite` writes, and makes the half-close behind the last bytes. -/
theorem handleWrite_rests {result : WriteResult} (flows : c.Flows)
    (fits : result.Fits c.outputBuffer.readable.length) (done : c.handleWrite result = .ok after) :
    c.Rests after := by
  have up (writing : c.channel.isWriting = true) : c.state ≠ .kDisconnected := by
    intro down
    cases writing.symm.trans (flows.closed down)
  have some (writing : c.channel.isWriting = true) : c.outputBuffer.readable ≠ [] :=
    (flows.agrees (up writing)).mp writing
  cases handleWrite_cases flows.valid fits done with
  | idle silent same =>
    rw [same]
    exact .refl c
  | nothing writing none same =>
    rw [same]
    exact .flushes (up writing) rfl rfl fun _ => ⟨some writing, some writing⟩
  | part writing valid parts left same =>
    rw [same]
    exact .flushes (up writing) rfl rfl fun _ => ⟨some writing, left⟩
  | @all output poller channel writing notLast valid all empty changed same =>
    obtain ⟨tasks, -, notified⟩ := notifyWriteComplete_eq { c with
      outputBuffer := output, poller, channel
      trace := c.trace ++ [.write c.outputBuffer.readable result] }
    rw [same, notified]
    exact .flushes (up writing) rfl rfl fun closing => absurd closing notLast
  | @last output poller channel writing last valid all empty changed same =>
    obtain ⟨tasks, -, notified⟩ := notifyWriteComplete_eq { c with
      outputBuffer := output, poller, channel
      trace := c.trace ++ [.write c.outputBuffer.readable result] }
    rw [same, notified]
    exact .halfCloses last rfl (List.append_assoc _ _ _) empty

/-- A change of `is_reading` and of the interest in reading. -/
theorem startReadInLoop_rests (done : c.startReadInLoop = .ok after) : c.Rests after := by
  rw [startReadInLoop] at done
  split at done
  · obtain ⟨enabled, enabling, rest⟩ := bind_eq_ok.mp done
    obtain ⟨poller, channel, changed, rfl⟩ := setInterest_eq_ok.mp enabling
    cases rest
    exact .still rfl rfl (List.append_nil _).symm (fun _ none => (by cases none))
  · cases done
    exact .refl c

/-- A change of `is_reading` and of the interest in reading. -/
theorem stopReadInLoop_rests (done : c.stopReadInLoop = .ok after) : c.Rests after := by
  rw [stopReadInLoop] at done
  split at done
  · obtain ⟨disabled, disabling, rest⟩ := bind_eq_ok.mp done
    obtain ⟨poller, channel, changed, rfl⟩ := setInterest_eq_ok.mp disabling
    cases rest
    exact .still rfl rfl (List.append_nil _).symm (fun _ none => (by cases none))
  · cases done
    exact .refl c

/-- A quiet functor concerns the reading only. -/
theorem runTask_rests {task : ConnTask} {result : WriteResult} (quiet : task.IsQuiet)
    (done : c.runTask task result = .ok after) : c.Rests after := by
  cases task with
  | startReadInLoop => exact startReadInLoop_rests done
  | stopReadInLoop => exact stopReadInLoop_rests done
  | writeCompleteCallback =>
    cases done
    exact .refl c
  | highWaterMarkCallback size =>
    cases done
    exact .refl c
  | connectEstablished => exact quiet.elim
  | sendInLoop message => exact quiet.elim
  | shutdownInLoop => exact quiet.elim
  | forceCloseInLoop => exact quiet.elim

/-- What every step does that is not a call of a speaker. -/
theorem Step.rests {action : Action} (step : Step c action after) (apart : ¬action.Intrudes)
    (flows : c.Flows) (quiet : ∀ task ∈ c.tasks, task.IsQuiet) : c.Rests after := by
  have attempt : Attempt c action (.ok after) := step
  generalize outcome : Except.ok after = result at attempt
  symm at outcome
  have still {tasks : List ConnTask} {inputBuffer : Buffer} {turn : Option LoopTurn} :
      c.Rests { c with tasks, inputBuffer, turn } :=
    .still rfl rfl (List.append_nil _).symm (fun _ none => (by cases none))
  cases attempt with
  | send => exact absurd trivial apart
  | sendString => exact absurd trivial apart
  | shutdown => exact absurd trivial apart
  | forceClose => exact absurd trivial apart
  | forceCloseWithDelay => exact absurd trivial apart
  | timer => exact absurd trivial apart
  | @startRead caller =>
    cases caller with
    | loop => exact startReadInLoop_rests outcome
    | other =>
      cases outcome
      exact still
  | @stopRead caller =>
    cases caller with
    | loop => exact stopReadInLoop_rests outcome
    | other =>
      cases outcome
      exact still
  | @task task rest result first =>
    have inside : task ∈ c.tasks := by
      rw [first]
      exact List.mem_cons_self
    have popped : c.Beside { c with tasks := rest } := ⟨rfl, rfl, rfl, rfl, rfl⟩
    exact (runTask_rests (quiet task inside) outcome).beside popped rfl
  | read =>
    obtain ⟨inputBuffer, n, -, rest⟩ := handleRead_cases outcome
    have input : c.Beside { c with inputBuffer } := ⟨rfl, rfl, rfl, rfl, rfl⟩
    obtain rfl | closed | rfl := rest
    · exact .still rfl rfl rfl fun effect member => List.mem_singleton.mp member
    · exact (handleClose_rests closed).beside input rfl
    · exact still
  | write handling fits => exact handleWrite_rests flows fits outcome
  | close => exact handleClose_rests outcome
  | error =>
    cases outcome
    exact .refl c
  | consume =>
    obtain ⟨inputBuffer, -, rest⟩ := bind_eq_ok.mp outcome
    cases rest
    exact still
  | turn =>
    cases outcome
    exact still

/-- The connection carries this text of its only speaker, who has not shut it down if `opened`. -/
structure Speaks (c : TcpConnection) (text : List UInt8) (opened : Bool) : Prop where
  /-- The output of the connection. -/
  flows : c.Flows
  /-- No functor sends or closes. -/
  quiet : ∀ task ∈ c.tasks, task.IsQuiet
  /-- The connection is established. -/
  begun : c.state ≠ .kConnecting
  /-- What was sent is the beginning of the text. -/
  front : c.Unbroken → c.messages <+: text
  /-- Until the connection is closed it is all of it. -/
  whole : c.state ≠ .kDisconnected → c.Unbroken → c.messages = text
  /-- A connection that is up is not shut down. -/
  up : c.state = .kConnected → opened = true ∧ ¬c.Shut
  /-- A connection that is shut down is half-closed once everything is written. -/
  closing : c.state = .kDisconnecting →
    opened = false ∧ (c.Shut ↔ c.outputBuffer.readable = [])

variable {text : List UInt8} {opened : Bool}

/-- Effects that are not executions of `sendInLoop` add no messages and break nothing. -/
theorem unsent_append {effects : List ConnEffect} (trace : after.trace = c.trace ++ effects)
    (none : ∀ effect ∈ effects, effect.message = none) :
    after.messages = c.messages ∧ (after.Unbroken ↔ c.Unbroken) := by
  have nothing : effects.flatMap ConnEffect.owed = [] := by
    refine List.flatMap_eq_nil_iff.mpr fun effect member => ?_
    have other := none effect member
    cases effect with
    | sendInLoop => cases other
    | _ => rfl
  constructor
  · rw [messages, trace, List.flatMap_append, nothing, List.append_nil]
    rfl
  · rw [Unbroken, trace, List.forall_mem_append]
    refine and_iff_left fun effect member => ?_
    have other := none effect member
    cases effect with
    | sendInLoop => cases other
    | _ => rfl

/-- Effects without a half-close. -/
theorem shut_append {effects : List ConnEffect} (trace : after.trace = c.trace ++ effects)
    (none : ∀ effect ∈ effects, ¬effect.IsShutdown) : after.Shut ↔ c.Shut := by
  refine exists_congr fun pending => ?_
  rw [trace, List.mem_append]
  exact ⟨fun member => member.resolve_right fun new => none _ new trivial, .inl⟩

/-- What is not a call of the speaker leaves what is said. -/
theorem Speaks.rests (speaks : c.Speaks text opened) (rests : c.Rests after) (flows : after.Flows)
    (quiet : ∀ task ∈ after.tasks, task.IsQuiet) : after.Speaks text opened := by
  cases rests with
  | @still effects state output trace calls =>
    obtain ⟨messages, unbroken⟩ := unsent_append trace fun effect member => by
      rw [calls effect member]
      rfl
    have shut := shut_append trace fun effect member => by
      rw [calls effect member]
      exact id
    refine ⟨flows, quiet, state ▸ speaks.begun, ?_, ?_, ?_, ?_⟩
    · rw [messages, unbroken]
      exact speaks.front
    · rw [messages, unbroken, state]
      exact speaks.whole
    · rw [state, shut]
      exact speaks.up
    · rw [state, shut, output]
      exact speaks.closing
  | flushes up state trace left =>
    obtain ⟨messages, unbroken⟩ := unsent_append trace fun effect member => by
      rw [List.mem_singleton.mp member]
      rfl
    have shut := shut_append trace fun effect member => by
      rw [List.mem_singleton.mp member]
      exact id
    refine ⟨flows, quiet, state ▸ speaks.begun, ?_, ?_, ?_, ?_⟩
    · rw [messages, unbroken]
      exact speaks.front
    · rw [messages, unbroken, state]
      exact speaks.whole
    · rw [state, shut]
      exact speaks.up
    · rw [state, shut]
      intro closing
      obtain ⟨ended, half⟩ := speaks.closing closing
      obtain ⟨some, later⟩ := left closing
      exact ⟨ended, half.trans (iff_of_false some later)⟩
  | halfCloses closing state trace empty =>
    obtain ⟨messages, unbroken⟩ := unsent_append trace fun effect member => by
      obtain rfl | rfl : _ ∨ _ := by simpa using member
      · rfl
      · rfl
    have made : after.Shut := by
      refine ⟨[], ?_⟩
      rw [trace]
      simp
    refine ⟨flows, quiet, state ▸ speaks.begun, ?_, ?_, ?_, ?_⟩
    · rw [messages, unbroken]
      exact speaks.front
    · rw [messages, unbroken, state]
      exact speaks.whole
    · rw [state, closing]
      exact StateE.noConfusion
    · intro _
      exact ⟨(speaks.closing closing).1, iff_of_true made empty⟩
  | closes up down trace =>
    obtain ⟨messages, unbroken⟩ := unsent_append trace fun effect member => by
      obtain rfl | rfl : _ ∨ _ := by simpa using member
      · rfl
      · rfl
    refine ⟨flows, quiet, ?_, ?_, fun open' => absurd down open', ?_, ?_⟩
    · rw [down]
      exact StateE.noConfusion
    · rw [messages, unbroken]
      exact speaks.front
    · rw [down]
      exact StateE.noConfusion
    · rw [down]
      exact StateE.noConfusion

/-- Callbacks and what starts and stops reading are quiet. -/
theorem Step.quiet {action : Action} (step : Step c action after) (flows : c.Flows)
    (quiet : ∀ task ∈ c.tasks, task.IsQuiet)
    (queues : ∀ task, action.Queues task → task.IsQuiet) : ∀ task ∈ after.tasks, task.IsQuiet := by
  intro task member
  obtain old | callback | new := step.tasks flows task member
  · exact quiet task old
  · cases task with
    | writeCompleteCallback => trivial
    | highWaterMarkCallback => trivial
    | _ => exact callback.elim
  · exact queues task new

/-- Every step that is not a call of a speaker leaves what is said. -/
theorem Speaks.step {action : Action} (speaks : c.Speaks text opened) (step : Step c action after)
    (apart : ¬action.Intrudes) : after.Speaks text opened := by
  have queues : ∀ task, action.Queues task → task.IsQuiet := by
    intro task queued
    cases action with
    | startRead caller =>
      obtain ⟨-, rfl⟩ := queued
      trivial
    | stopRead caller =>
      obtain ⟨-, rfl⟩ := queued
      trivial
    | send => exact absurd trivial apart
    | sendString => exact absurd trivial apart
    | shutdown => exact absurd trivial apart
    | forceClose => exact absurd trivial apart
    | timer => exact absurd trivial apart
    | _ => exact queued.elim
  exact speaks.rests (step.rests apart speaks.flows speaks.quiet) (step.flows speaks.flows)
    (step.quiet speaks.flows speaks.quiet queues)

/-- What is said does not depend on the input. -/
theorem Speaks.input (speaks : c.Speaks text opened) (inputBuffer : Buffer) :
    Speaks { c with inputBuffer } text opened :=
  ⟨speaks.flows.input inputBuffer, speaks.quiet, speaks.begun, speaks.front, speaks.whole,
    speaks.up, speaks.closing⟩

/-- The direct write leaves the state as it is. -/
theorem directWrite_state {data : List UInt8} {len nwrote : Nat} {result : WriteResult}
    {faultError : Bool} (done : c.directWrite data len result = .ok (after, nwrote, faultError)) :
    after.state = c.state := by
  rw [directWrite] at done
  obtain ⟨offered, -, rest⟩ := bind_eq_ok.mp done
  obtain ⟨tasks, -, same⟩ := (c.note (.write offered result)).notifyWriteComplete_eq
  cases result with
  | accepted count =>
    dsimp only at rest
    rw [same] at rest
    split at rest
    · cases rest
      rfl
    · cases rest
      rfl
  | failed errno logged =>
    cases rest
    rfl

/-- Keeping what is not written leaves the state as it is. -/
theorem keepRest_state {data : List UInt8} {nwrote remaining : Nat}
    (done : c.keepRest data nwrote remaining = .ok after) : after.state = c.state := by
  obtain ⟨tasks, -, same⟩ := c.keepRest_eq data nwrote remaining
  rw [same] at done
  obtain ⟨output, -, rest⟩ := bind_eq_ok.mp done
  split at rest
  · cases rest
    rfl
  · obtain ⟨poller, channel, -, rfl⟩ := setInterest_eq_ok.mp rest
    rfl

/-- `sendInLoop` leaves the state as it is. -/
theorem sendInLoop_state {data : List UInt8} {len : Nat} {result : WriteResult}
    (done : c.sendInLoop data len result = .ok after) : after.state = c.state := by
  rw [sendInLoop] at done
  split at done
  · cases done
    rfl
  · obtain ⟨⟨written, nwrote, faultError⟩, direct, rest⟩ := bind_eq_ok.mp done
    obtain ⟨_, -, rest⟩ := bind_eq_ok.mp rest
    obtain ⟨kept, keeping, rest⟩ := bind_eq_ok.mp rest
    cases rest
    have first : written.state = c.state := by
      split at direct
      · exact directWrite_state direct
      · cases direct
        rfl
    have second : kept.state = written.state := by
      split at keeping
      · exact keepRest_state keeping
      · cases keeping
        rfl
    exact second.trans first

/-- One call of `send` more: an open connection carries its message. -/
theorem Speaks.sendString {message : List UInt8} {result : WriteResult}
    (speaks : c.Speaks text opened) (object : message.length ≤ maxSize)
    (fits : result.Fits message.length) (done : c.sendString .loop message result = .ok after) :
    after.Speaks (text ++ if opened then message else []) opened := by
  have step : Step c (.sendString .loop message result) after :=
    Attempt.step (.sendString object fits) done
  have flows := step.flows speaks.flows
  have quiet := step.quiet speaks.flows speaks.quiet fun task queued => by cases queued.1
  obtain ⟨up, -, sent⟩ | ⟨-, other, -⟩ | ⟨down, rfl⟩ := sendString_cases done
  · obtain ⟨isOpen, unshut⟩ := speaks.up up
    obtain ⟨writes, broken, noted, only, -⟩ := sendInLoop_notes sent
    have state := sendInLoop_state sent
    rw [List.take_length, up] at noted
    have trace := noted.trace
    have said (unbroken : after.Unbroken) : after.messages = text ++ message := by
      have whole : broken = false := by
        refine unbroken (.sendInLoop message .kConnected broken) ?_
        rw [trace]
        simp
      have nothing : writes.flatMap ConnEffect.owed = [] := by
        refine List.flatMap_eq_nil_iff.mpr fun effect member => ?_
        have write := only effect member
        cases effect with
        | write => rfl
        | _ => exact write.elim
      have before : c.Unbroken := by
        intro effect member
        refine unbroken effect ?_
        rw [trace]
        exact List.mem_append_left _ member
      rw [messages, trace, List.flatMap_append, List.flatMap_append, nothing, whole,
        ← speaks.whole (by rw [up]; exact StateE.noConfusion) before]
      simp [messages]
    have shut : after.Shut ↔ c.Shut := by
      refine shut_append trace fun effect member => ?_
      obtain write | last := List.mem_append.mp member
      · cases effect with
        | write => exact id
        | _ => exact (only _ write).elim
      · rw [List.mem_singleton.mp last]
        exact id
    rw [isOpen, if_pos rfl]
    refine ⟨flows, quiet, ?_, ?_, ?_, ?_, ?_⟩
    · rw [state, up]
      exact StateE.noConfusion
    · intro unbroken
      rw [said unbroken]
    · exact fun _ => said
    · rw [shut]
      exact fun _ => ⟨rfl, unshut⟩
    · rw [state, up]
      exact StateE.noConfusion
  · cases other
  · refine ⟨flows, quiet, speaks.begun, ?_, ?_, speaks.up, speaks.closing⟩
    · exact fun unbroken => (speaks.front unbroken).trans (List.prefix_append _ _)
    · intro established unbroken
      have closing : after.state = .kDisconnecting := by
        cases state : after.state with
        | kDisconnected => exact absurd state established
        | kConnecting => exact absurd state speaks.begun
        | kConnected => exact absurd state down
        | kDisconnecting => rfl
      rw [(speaks.closing closing).1]
      simpa using speaks.whole established unbroken

/-- `shutdown` in the loop thread. -/
theorem Speaks.shutdown (speaks : c.Speaks text opened) :
    (c.shutdown .loop).Speaks text false := by
  have step : Step c (.shutdown .loop) (c.shutdown .loop) := .shutdown
  have flows := step.flows speaks.flows
  have quiet := step.quiet speaks.flows speaks.quiet fun task queued => by cases queued.1
  by_cases up : c.state = .kConnected
  · obtain ⟨isOpen, unshut⟩ := speaks.up up
    have established : c.state ≠ .kDisconnected := by
      rw [up]
      exact StateE.noConfusion
    by_cases writing : c.channel.isWriting = true
    · have some := (speaks.flows.agrees established).mp writing
      have same : c.shutdown .loop = { c with state := .kDisconnecting } := by
        rw [TcpConnection.shutdown, if_pos (beq_iff_eq.mpr up)]
        dsimp only
        rw [shutdownInLoop, if_pos writing]
      rw [same] at flows quiet ⊢
      exact ⟨flows, quiet, StateE.noConfusion, speaks.front, fun _ => speaks.whole established,
        StateE.noConfusion, fun _ => ⟨rfl, iff_of_false unshut some⟩⟩
    · have idle : c.channel.isWriting = false := Bool.eq_false_iff.mpr writing
      have empty := speaks.flows.agrees.empty established idle
      have same : c.shutdown .loop =
          note { c with state := .kDisconnecting } (.shutdownWrite c.outputBuffer.readable) := by
        rw [TcpConnection.shutdown, if_pos (beq_iff_eq.mpr up)]
        exact shutdownInLoop_idle (c := { c with state := .kDisconnecting }) idle
      have made : (c.shutdown .loop).Shut := by
        rw [same]
        exact ⟨_, List.mem_append_right _ (List.mem_singleton_self _)⟩
      have trace : (c.shutdown .loop).trace =
          c.trace ++ [.shutdownWrite c.outputBuffer.readable] := by
        rw [same]
        rfl
      obtain ⟨messages, unbroken⟩ := unsent_append trace fun effect member => by
        rw [List.mem_singleton.mp member]
        rfl
      have state : (c.shutdown .loop).state = .kDisconnecting := by
        rw [same]
        rfl
      have output : (c.shutdown .loop).outputBuffer = c.outputBuffer := by
        rw [same]
        rfl
      refine ⟨flows, quiet, ?_, ?_, ?_, ?_, ?_⟩
      · rw [state]
        exact StateE.noConfusion
      · rw [messages, unbroken]
        exact speaks.front
      · rw [messages, unbroken]
        exact fun _ => speaks.whole established
      · rw [state]
        exact StateE.noConfusion
      · rw [output]
        exact fun _ => ⟨rfl, iff_of_true made empty⟩
  · have same : c.shutdown .loop = c := by
      rw [TcpConnection.shutdown, if_neg (by simpa using up)]
    rw [same]
    exact ⟨speaks.flows, speaks.quiet, speaks.begun, speaks.front, speaks.whole,
      fun connected => absurd connected up, fun closing => ⟨rfl, (speaks.closing closing).2⟩⟩

/-- A connection that is established carries nothing yet. -/
theorem established_speaks {address : ChannelId} {fd : Int} {poller : EpollPoller}
    {highWaterMark : Nat} {writeComplete highWater : Bool} {made : TcpConnection}
    {result : WriteResult} (unknown : poller.channels fd = none)
    (unwatched : poller.interest fd = none)
    (built : new address fd poller highWaterMark writeComplete highWater = .ok made)
    (established : Step made (.task result) c) : c.Speaks [] true := by
  have start := new_flows unknown unwatched built
  have flows := established.flows start
  obtain ⟨_, _, rest⟩ := bind_eq_ok.mp built
  obtain ⟨_, _, rest⟩ := bind_eq_ok.mp rest
  obtain rfl := Except.ok.inj rest
  have attempt : Attempt _ (.task result) (.ok c) := established
  generalize outcome : Except.ok c = made at attempt
  cases attempt with
  | task first =>
    cases first
    have done := outcome.symm
    rw [runTask, connectEstablished] at done
    obtain ⟨_, -, rest⟩ := bind_eq_ok.mp done
    obtain ⟨enabled, enabling, rest⟩ := bind_eq_ok.mp rest
    obtain ⟨poller, channel, changed, rfl⟩ := setInterest_eq_ok.mp enabling
    cases rest
    refine ⟨flows, fun task none => (by cases none), StateE.noConfusion, fun _ => List.prefix_rfl,
      fun _ _ => rfl, fun _ => ⟨rfl, ?_⟩, StateE.noConfusion⟩
    rintro ⟨pending, member⟩
    simp [connectionCallback, note] at member

end TcpConnection

end Muduo
