import Muduo.Net.TcpFrame

/-!
# What a step does to the messages

A message that `send` accepts is executed by `sendInLoop` at once or queued in the loop and executed
later. Every step of a connection does one of four things to the messages: nothing, it queues one,
it executes one, or it makes the half-close.
-/

open Outcome Transition

namespace Muduo

/-- The message of a functor that sends. -/
def ConnTask.message : ConnTask → Option (List UInt8)
  | .sendInLoop message => some message
  | _ => none

/-- The message of an execution of `sendInLoop`. -/
def ConnEffect.message : ConnEffect → Option (List UInt8)
  | .sendInLoop message _ _ => some message
  | _ => none

/-- The bytes that a piece spans. -/
def StringPiece.text (piece : StringPiece) : List UInt8 := piece.data.take piece.length.toNat

namespace TcpConnection

/-- The messages that wait in the loop. -/
def queued (c : TcpConnection) : List (List UInt8) := c.tasks.filterMap ConnTask.message

/-- The messages that `sendInLoop` was executed for. -/
def executed (c : TcpConnection) : List (List UInt8) := c.trace.filterMap ConnEffect.message

variable {c middle after : TcpConnection} {effects more : List ConnEffect}

/-- These effects are added, and no message is queued or taken from the queue. -/
structure Notes (c after : TcpConnection) (effects : List ConnEffect) : Prop where
  /-- The trace grows by the effects. -/
  trace : after.trace = c.trace ++ effects
  /-- The same messages are queued. -/
  queued : after.queued = c.queued

/-- Nothing happens. -/
theorem Notes.refl (c : TcpConnection) : c.Notes c [] := ⟨(List.append_nil _).symm, rfl⟩

/-- Nothing happens that matters here. -/
theorem Notes.still (trace : after.trace = c.trace) (queued : after.queued = c.queued) :
    c.Notes after [] := ⟨trace.trans (List.append_nil _).symm, queued⟩

/-- One thing after the other. -/
theorem Notes.trans (first : c.Notes middle effects) (second : middle.Notes after more) :
    c.Notes after (effects ++ more) where
  trace := by rw [second.trace, first.trace, List.append_assoc]
  queued := second.queued.trans first.queued

/-- Something without an effect first. -/
theorem Notes.nil_trans (first : c.Notes middle []) (second : middle.Notes after effects) :
    c.Notes after effects := first.trans second

/-- Something without an effect last. -/
theorem Notes.trans_nil (first : c.Notes middle effects) (second : middle.Notes after []) :
    c.Notes after effects := by
  have both := first.trans second
  rwa [List.append_nil] at both

/-- An effect. -/
theorem note_notes (c : TcpConnection) (effect : ConnEffect) : c.Notes (c.note effect) [effect] :=
  ⟨rfl, rfl⟩

/-- A callback is queued. -/
theorem queueInLoop_notes {task : ConnTask} (other : task.message = none) :
    c.Notes (c.queueInLoop task) [] := by
  refine .still rfl ?_
  rw [queued, queueInLoop, List.filterMap_append, List.filterMap_cons_none other]
  exact List.append_nil _

/-- A change of the channel's interest. -/
theorem setInterest_notes {call : Interest} (done : c.setInterest call = .ok after) :
    c.Notes after [] := by
  obtain ⟨poller, channel, changed, rfl⟩ := setInterest_eq_ok.mp done
  exact .still rfl rfl

/-- The write complete callback. -/
theorem notifyWriteComplete_notes (c : TcpConnection) : c.Notes c.notifyWriteComplete [] := by
  rw [notifyWriteComplete]
  split
  · exact queueInLoop_notes rfl
  · exact .refl c

/-- The direct write. -/
theorem directWrite_notes {data : List UInt8} {len nwrote : Nat} {result : WriteResult}
    {faultError : Bool} (done : c.directWrite data len result = .ok (after, nwrote, faultError)) :
    ∃ offered, c.Notes after [.write offered result] ∧
      (faultError = true → result.broken = true) := by
  rw [directWrite] at done
  obtain ⟨offered, -, rest⟩ := bind_eq_ok.mp done
  have noted := c.note_notes (.write offered result)
  cases result with
  | accepted count =>
    dsimp only at rest
    split at rest
    · cases rest
      exact ⟨offered, noted.trans_nil (notifyWriteComplete_notes _), fun fault => (by cases fault)⟩
    · cases rest
      exact ⟨offered, noted, fun fault => (by cases fault)⟩
  | failed errno logged =>
    cases rest
    exact ⟨offered, noted, id⟩

/-- Keeping what is not written. -/
theorem keepRest_notes {data : List UInt8} {nwrote remaining : Nat}
    (done : c.keepRest data nwrote remaining = .ok after) : c.Notes after [] := by
  have parts : ∃ warned, c.Notes warned [] ∧ c.keepRest data nwrote remaining =
      (warned.outputBuffer.append (data.drop nwrote) remaining >>= fun outputBuffer =>
        if warned.channel.isWriting then .ok { warned with outputBuffer }
        else setInterest { warned with outputBuffer } .enableWriting) := by
    refine ⟨_, ?_, rfl⟩
    split
    · exact queueInLoop_notes rfl
    · exact .refl c
  obtain ⟨warned, first, same⟩ := parts
  rw [same] at done
  obtain ⟨output, -, rest⟩ := bind_eq_ok.mp done
  have second : warned.Notes { warned with outputBuffer := output } [] := .still rfl rfl
  split at rest
  · cases rest
    exact first.nil_trans second
  · exact first.nil_trans (second.nil_trans (setInterest_notes rest))

/-- An execution of `sendInLoop` writes at most once and is noted, with a fault only if that write
failed so. -/
theorem sendInLoop_notes {data : List UInt8} {len : Nat} {result : WriteResult}
    (done : c.sendInLoop data len result = .ok after) :
    ∃ writes broken, c.Notes after (writes ++ [.sendInLoop (data.take len) c.state broken]) ∧
      (∀ effect ∈ writes, effect.IsWrite) ∧ (broken = true → result.broken = true) := by
  rw [sendInLoop] at done
  split at done
  · cases done
    exact ⟨[], false, c.note_notes _, fun effect none => (by cases none),
      fun fault => (by cases fault)⟩
  · obtain ⟨⟨written, nwrote, faultError⟩, direct, rest⟩ := bind_eq_ok.mp done
    obtain ⟨_, -, rest⟩ := bind_eq_ok.mp rest
    obtain ⟨kept, keeping, rest⟩ := bind_eq_ok.mp rest
    cases rest
    have first : ∃ writes, c.Notes written writes ∧ (∀ effect ∈ writes, effect.IsWrite) ∧
        (faultError = true → result.broken = true) := by
      split at direct
      · obtain ⟨offered, noted, fault⟩ := directWrite_notes direct
        refine ⟨_, noted, fun effect member => ?_, fault⟩
        rw [List.mem_singleton.mp member]
        trivial
      · cases direct
        exact ⟨[], .refl c, fun effect none => (by cases none), fun fault => (by cases fault)⟩
    obtain ⟨writes, noted, only, fault⟩ := first
    have second : written.Notes kept [] := by
      split at keeping
      · exact keepRest_notes keeping
      · cases keeping
        exact .refl written
    exact ⟨writes, faultError, (noted.trans_nil second).trans (kept.note_notes _), only, fault⟩

/-- Effects that are neither executions of `sendInLoop` nor half-closes. -/
def Aside (effects : List ConnEffect) : Prop :=
  ∀ effect ∈ effects, effect.message = none ∧ ¬effect.IsShutdown

/-- No effects. -/
theorem aside_nil : Aside [] := fun _ none => (by cases none)

/-- Writes. -/
theorem aside_writes {writes : List ConnEffect} (only : ∀ effect ∈ writes, effect.IsWrite) :
    Aside writes := by
  intro effect member
  have write := only effect member
  cases effect with
  | write => exact ⟨rfl, id⟩
  | _ => exact write.elim

/-- The messages that a call of `send` accepts: those of a call that observes `kConnected`. -/
def takes (c : TcpConnection) : Action → List (List UInt8)
  | .send _ message _ => if c.state = .kConnected then [message.text] else []
  | .sendString _ message _ => if c.state = .kConnected then [message] else []
  | _ => []

/-- The actions that make the half-close: `shutdown()` in the loop thread with nothing to write, and
the `handleWrite` that writes the last of a connection that is shut down. -/
def HalfCloses (c : TcpConnection) : Action → Prop
  | .shutdown caller => caller = .loop ∧ c.state = .kConnected ∧ c.channel.isWriting = false
  | .write result => c.state = .kDisconnecting ∧ c.channel.isWriting = true ∧
      result.taken c.outputBuffer.readable = c.outputBuffer.readable
  | _ => False

/-- The result of the `::write` that an action may make. -/
def Action.Writes (result : WriteResult) : Action → Prop
  | .send _ _ written => written = result
  | .sendString _ _ written => written = result
  | .task written => written = result
  | .write written => written = result
  | _ => False

/-- `handleWrite` writes, and makes the half-close exactly when it must. -/
theorem handleWrite_notes {result : WriteResult} (valid : c.outputBuffer.Valid) (agrees : c.Agrees)
    (fits : result.Fits c.outputBuffer.readable.length) (done : c.handleWrite result = .ok after) :
    (∃ writes, c.Notes after writes ∧ (∀ effect ∈ writes, effect.IsWrite) ∧
      ¬c.HalfCloses (.write result)) ∨
    ∃ writes, c.Notes after (writes ++ [.shutdownWrite []]) ∧
      (∀ effect ∈ writes, effect.IsWrite) ∧ c.HalfCloses (.write result) ∧
      after.outputBuffer.readable = [] ∧ after.state = .kDisconnecting := by
  have noted := c.note_notes (.write c.outputBuffer.readable result)
  have only : ∀ effect ∈ [ConnEffect.write c.outputBuffer.readable result], effect.IsWrite := by
    intro effect member
    rw [List.mem_singleton.mp member]
    trivial
  have flushed (output : Buffer) (poller : EpollPoller) (channel : Channel) :
      c.Notes { c with
        outputBuffer := output, poller, channel
        trace := c.trace ++ [.write c.outputBuffer.readable result] }
        [.write c.outputBuffer.readable result] := ⟨rfl, rfl⟩
  have some (closing : c.state = .kDisconnecting) (writing : c.channel.isWriting = true) :
      c.outputBuffer.readable ≠ [] := (agrees (by rw [closing]; decide)).mp writing
  cases handleWrite_cases valid fits done with
  | idle silent same =>
    rw [same]
    exact .inl ⟨[], .refl c, fun _ none => (by cases none),
      fun half => (by cases silent.symm.trans half.2.1)⟩
  | nothing writing none same =>
    rw [same]
    exact .inl ⟨_, noted, only, fun half => some half.1 writing (half.2.2.symm.trans none)⟩
  | part writing valid parts left same =>
    rw [same]
    refine .inl ⟨_, flushed _ c.poller c.channel, only, fun half => left ?_⟩
    rw [half.2.2] at parts
    exact List.append_right_eq_self.mp parts
  | all writing notLast valid all empty changed same =>
    rw [same]
    exact .inl ⟨_, (flushed _ _ _).trans_nil (notifyWriteComplete_notes _), only,
      fun half => notLast half.1⟩
  | @last output poller channel writing last valid all empty changed same =>
    obtain ⟨tasks, -, notified⟩ := notifyWriteComplete_eq { c with
      outputBuffer := output, poller, channel
      trace := c.trace ++ [.write c.outputBuffer.readable result] }
    right
    refine ⟨_, ?_, only, ⟨last, writing, all⟩, ?_, ?_⟩
    · rw [same]
      exact ((flushed _ _ _).trans_nil (notifyWriteComplete_notes _)).trans (note_notes _ _)
    · rw [same, notified]
      exact empty
    · rw [same, notified]
      exact last

/-- The connection callback. -/
theorem connectionCallback_notes (c : TcpConnection) :
    c.Notes c.connectionCallback [.connectionCallback (c.state == .kConnected)] :=
  c.note_notes _

/-- `handleClose` calls back. -/
theorem handleClose_notes (done : c.handleClose = .ok after) :
    ∃ effects, c.Notes after effects ∧ Aside effects := by
  rw [handleClose] at done
  obtain ⟨_, -, rest⟩ := bind_eq_ok.mp done
  obtain ⟨disabled, disabling, rest⟩ := bind_eq_ok.mp rest
  cases rest
  have closing : c.Notes { c with state := .kDisconnected } [] := .still rfl rfl
  have called := (closing.nil_trans (setInterest_notes disabling)).nil_trans
    disabled.connectionCallback_notes
  refine ⟨_, called.trans (note_notes _ _), ?_⟩
  simp [Aside, ConnEffect.message]

/-- `startReadInLoop`. -/
theorem startReadInLoop_notes (done : c.startReadInLoop = .ok after) : c.Notes after [] := by
  rw [startReadInLoop] at done
  split at done
  · obtain ⟨enabled, enabling, rest⟩ := bind_eq_ok.mp done
    cases rest
    exact (setInterest_notes enabling).trans_nil (.still rfl rfl)
  · cases done
    exact .refl c

/-- `stopReadInLoop`. -/
theorem stopReadInLoop_notes (done : c.stopReadInLoop = .ok after) : c.Notes after [] := by
  rw [stopReadInLoop] at done
  split at done
  · obtain ⟨disabled, disabling, rest⟩ := bind_eq_ok.mp done
    cases rest
    exact (setInterest_notes disabling).trans_nil (.still rfl rfl)
  · cases done
    exact .refl c

/-- `connectEstablished` calls back. -/
theorem connectEstablished_notes (done : c.connectEstablished = .ok after) :
    ∃ effects, c.Notes after effects ∧ Aside effects := by
  rw [connectEstablished] at done
  obtain ⟨_, -, rest⟩ := bind_eq_ok.mp done
  obtain ⟨enabled, enabling, rest⟩ := bind_eq_ok.mp rest
  cases rest
  have connected : c.Notes { c with state := .kConnected } [] := .still rfl rfl
  refine ⟨_, (connected.nil_trans (setInterest_notes enabling)).nil_trans
    enabled.connectionCallback_notes, ?_⟩
  simp [Aside, ConnEffect.message]

/-- `forceClose` queues no message. -/
theorem forceClose_notes (c : TcpConnection) : c.Notes c.forceClose [] := by
  rw [forceClose]
  split
  · have closing : c.Notes { c with state := .kDisconnecting } [] := .still rfl rfl
    exact closing.nil_trans (queueInLoop_notes rfl)
  · exact .refl c

/-- What a step does to the messages. -/
inductive Books (c : TcpConnection) (action : Action) (after : TcpConnection) : Prop
  /-- Nothing. -/
  | calm {effects : List ConnEffect} (noted : c.Notes after effects) (aside : Aside effects)
      (none : c.takes action = []) (unmade : ¬c.HalfCloses action)
  /-- A message is accepted and queued. -/
  | queues {message : List UInt8} (trace : after.trace = c.trace)
      (queued : after.queued = c.queued ++ [message]) (takes : c.takes action = [message])
      (length : message.length < 2 ^ 31 ∨ ∃ result, action = .sendString .other message result)
      (unmade : ¬c.HalfCloses action)
  /-- A message that is accepted or was queued is executed. -/
  | sends {message : List UInt8} {writes : List ConnEffect} {broken : Bool}
      (trace : after.trace = c.trace ++ (writes ++ [.sendInLoop message c.state broken]))
      (only : ∀ effect ∈ writes, effect.IsWrite)
      (fault : broken = true → ∃ result, action.Writes result ∧ result.broken = true)
      (moved : after.queued = c.queued ∧ c.takes action = [message] ∨
        c.queued = message :: after.queued ∧ c.takes action = [])
      (unmade : ¬c.HalfCloses action)
  /-- The half-close is made. -/
  | halfCloses {writes : List ConnEffect} (noted : c.Notes after (writes ++ [.shutdownWrite []]))
      (only : ∀ effect ∈ writes, effect.IsWrite) (none : c.takes action = [])
      (made : c.HalfCloses action) (empty : after.outputBuffer.readable = [])
      (closing : after.state = .kDisconnecting)

/-- Something that happens with no effect. -/
theorem Books.idle {action : Action} (noted : c.Notes after []) (none : c.takes action = [])
    (unmade : ¬c.HalfCloses action) : c.Books action after :=
  .calm noted aside_nil none unmade

/-- `sendInLoop` for a message that is accepted by a call in the loop thread. -/
theorem books_send {data : List UInt8} {len : Nat} {result : WriteResult} {action : Action}
    (done : c.sendInLoop data len result = .ok after) (writes : action.Writes result)
    (takes : c.takes action = [data.take len]) (unmade : ¬c.HalfCloses action) :
    c.Books action after := by
  obtain ⟨effects, broken, noted, only, fault⟩ := sendInLoop_notes done
  exact .sends noted.trace only (fun broke => ⟨result, writes, fault broke⟩)
    (.inl ⟨noted.queued, takes⟩) unmade

/-- A functor that sends a message whose length survives the way through `int`. -/
theorem runTask_send {message : List UInt8} (fits : message.length < 2 ^ 31)
    (c : TcpConnection) (result : WriteResult) :
    c.runTask (.sendInLoop message) result = c.sendInLoop message message.length result := by
  rw [runTask, sendInLoopPiece, StringPiece.ofString, sizeOfInt_intOfSize fits]

/-- A functor, other than a half-close. -/
theorem books_task {task : ConnTask} {rest : List ConnTask} {result : WriteResult}
    (first : c.tasks = task :: rest) (loopOnly : .shutdownInLoop ∉ c.tasks)
    (short : ∀ message ∈ c.queued, message.length < 2 ^ 31)
    (done : { c with tasks := rest }.runTask task result = .ok after) :
    c.Books (.task result) after := by
  have popped (other : task.message = none) : c.Notes { c with tasks := rest } [] := by
    refine .still rfl ?_
    rw [queued, queued, first, List.filterMap_cons_none other]
  cases task with
  | connectEstablished =>
    obtain ⟨effects, noted, aside⟩ := connectEstablished_notes done
    exact .calm ((popped rfl).nil_trans noted) aside rfl id
  | sendInLoop message =>
    have waiting : c.queued = message :: queued { c with tasks := rest } := by
      rw [queued, queued, first]
      rfl
    have fits : message.length < 2 ^ 31 := short message (by rw [waiting]; exact List.mem_cons_self)
    rw [runTask_send fits] at done
    obtain ⟨writes, broken, noted, only, fault⟩ := sendInLoop_notes done
    have trace := noted.trace
    rw [List.take_length] at trace
    refine .sends trace only (fun broke => ⟨result, rfl, fault broke⟩) (.inr ⟨?_, rfl⟩) id
    rw [waiting, noted.queued]
  | shutdownInLoop =>
    refine absurd ?_ loopOnly
    rw [first]
    exact List.mem_cons_self
  | forceCloseInLoop =>
    have closed : forceCloseInLoop { c with tasks := rest } = .ok after := done
    rw [forceCloseInLoop] at closed
    split at closed
    · obtain ⟨effects, noted, aside⟩ := handleClose_notes closed
      exact .calm ((popped rfl).nil_trans noted) aside rfl id
    · cases closed
      exact .idle (popped rfl) rfl id
  | startReadInLoop => exact .idle ((popped rfl).nil_trans (startReadInLoop_notes done)) rfl id
  | stopReadInLoop => exact .idle ((popped rfl).nil_trans (stopReadInLoop_notes done)) rfl id
  | writeCompleteCallback =>
    cases done
    exact .idle (popped rfl) rfl id
  | highWaterMarkCallback size =>
    cases done
    exact .idle (popped rfl) rfl id

/-- A message from another thread is queued. -/
theorem books_queue {message : List UInt8} {action : Action} (takes : c.takes action = [message])
    (length : message.length < 2 ^ 31 ∨ ∃ result, action = .sendString .other message result)
    (unmade : ¬c.HalfCloses action) : c.Books action (c.queueInLoop (.sendInLoop message)) := by
  refine .queues rfl ?_ takes length unmade
  rw [queued, queueInLoop, List.filterMap_append]
  rfl

/-- `send(const StringPiece&)` with a length that is an `int` and not negative. -/
theorem books_of_send {caller : Caller} {message : StringPiece} {result : WriteResult}
    (nonneg : 0 ≤ message.length) (small : message.length < 2 ^ 31)
    (done : c.send caller message result = .ok after) :
    c.Books (.send caller message result) after := by
  have size : sizeOfInt message.length = message.length.toNat := by
    rw [sizeOfInt, Int.emod_eq_of_lt nonneg (by omega)]
  obtain ⟨up, rfl, sent⟩ | ⟨up, rfl, copy, copied, rfl⟩ | ⟨down, rfl⟩ := send_cases done
  · have takes : c.takes (.send .loop message result) = [message.text] := if_pos up
    rw [StringPiece.text, ← size] at takes
    exact books_send sent rfl takes id
  · have takes : c.takes (.send .other message result) = [message.text] := if_pos up
    rw [asString, if_neg (by omega), load] at copied
    split at copied
    next enough =>
      cases copied
      refine books_queue takes (.inl ?_) id
      rw [List.length_take]
      omega
    next => cases copied
  · exact .idle (.refl _) (if_neg down) id

/-- `send(string&&)`. -/
theorem books_of_sendString {caller : Caller} {message : List UInt8} {result : WriteResult}
    (done : c.sendString caller message result = .ok after) :
    c.Books (.sendString caller message result) after := by
  obtain ⟨up, rfl, sent⟩ | ⟨up, rfl, rfl⟩ | ⟨down, rfl⟩ := sendString_cases done
  · have takes : c.takes (.sendString .loop message result) = [message] := if_pos up
    have whole : [message] = [message.take message.length] := by rw [List.take_length]
    exact books_send sent rfl (takes.trans whole) id
  · exact books_queue (if_pos up) (.inr ⟨result, rfl⟩) id
  · exact .idle (.refl _) (if_neg down) id

/-- `shutdown()` in the loop thread. -/
theorem books_of_shutdown (flows : c.Flows) : c.Books (.shutdown .loop) (c.shutdown .loop) := by
  rw [TcpConnection.shutdown]
  split
  next up =>
    have connected : c.state = .kConnected := beq_iff_eq.mp up
    have closing : c.Notes { c with state := .kDisconnecting } [] := .still rfl rfl
    dsimp only
    by_cases writing : c.channel.isWriting = true
    · rw [shutdownInLoop, if_pos writing]
      exact .idle closing rfl fun half => (by cases writing.symm.trans half.2.2)
    · have silent : c.channel.isWriting = false := Bool.eq_false_iff.mpr writing
      have empty := flows.agrees.empty (by rw [connected]; decide) silent
      have shut : shutdownInLoop { c with state := .kDisconnecting } =
          note { c with state := .kDisconnecting } (.shutdownWrite []) := by
        rw [shutdownInLoop_idle (c := { c with state := .kDisconnecting }) silent]
        exact congrArg (fun bytes => note _ (.shutdownWrite bytes)) empty
      have noted : c.Notes (note { c with state := .kDisconnecting } (.shutdownWrite []))
          ([] ++ [.shutdownWrite []]) := closing.nil_trans (note_notes _ _)
      rw [shut]
      exact .halfCloses noted (fun _ none => (by cases none)) rfl ⟨rfl, connected, silent⟩
        empty rfl
  next down => exact .idle (.refl c) rfl fun half => down (beq_iff_eq.mpr half.2.1)

/-- `handleRead`. -/
theorem books_of_read {received : Except Int (List UInt8)}
    (done : c.handleRead received = .ok after) : c.Books (.read received) after := by
  obtain ⟨inputBuffer, n, -, rest⟩ := handleRead_cases done
  have input : c.Notes { c with inputBuffer } [] := .still rfl rfl
  obtain rfl | closed | rfl := rest
  · refine .calm (input.nil_trans (note_notes _ _)) ?_ rfl id
    simp [Aside, ConnEffect.message]
  · obtain ⟨effects, noted, aside⟩ := handleClose_notes closed
    exact .calm (input.nil_trans noted) aside rfl id
  · exact .idle input rfl id

/-- The books of every step in which other threads do not shut down and pieces have a length that is
an `int` and not negative. -/
theorem Step.books {action : Action} (step : Step c action after) (flows : c.Flows)
    (loopOnly : .shutdownInLoop ∉ c.tasks) (short : ∀ message ∈ c.queued, message.length < 2 ^ 31)
    (shuts : ∀ caller, action = .shutdown caller → caller = .loop)
    (pieces : ∀ caller message result, action = .send caller message result →
      0 ≤ message.length ∧ message.length < 2 ^ 31) : c.Books action after := by
  have attempt : Attempt c action (.ok after) := step
  generalize outcome : Except.ok after = result at attempt
  symm at outcome
  cases attempt with
  | @send caller message written fits =>
    obtain ⟨nonneg, small⟩ := pieces caller message written rfl
    exact books_of_send nonneg small outcome
  | sendString object fits => exact books_of_sendString outcome
  | @shutdown caller =>
    obtain rfl := shuts caller rfl
    cases outcome
    exact books_of_shutdown flows
  | forceClose =>
    cases outcome
    exact .idle c.forceClose_notes rfl id
  | forceCloseWithDelay =>
    cases outcome
    rw [TcpConnection.forceCloseWithDelay]
    split
    · exact .idle (.still rfl rfl) rfl id
    · exact .idle (.refl c) rfl id
  | @startRead caller =>
    cases caller with
    | loop => exact .idle (startReadInLoop_notes outcome) rfl id
    | other =>
      cases outcome
      exact .idle (queueInLoop_notes rfl) rfl id
  | @stopRead caller =>
    cases caller with
    | loop => exact .idle (stopReadInLoop_notes outcome) rfl id
    | other =>
      cases outcome
      exact .idle (queueInLoop_notes rfl) rfl id
  | task first idle fits => exact books_task first loopOnly short outcome
  | @timer delayed pending =>
    cases outcome
    have expired : c.Notes { c with delayed } [] := .still rfl rfl
    exact .idle (expired.nil_trans (forceClose_notes _)) rfl id
  | read handling offered => exact books_of_read outcome
  | write handling fits =>
    obtain ⟨writes, noted, only, unmade⟩ | ⟨writes, noted, only, made, empty, closing⟩ :=
      handleWrite_notes flows.valid flows.agrees fits outcome
    · exact .calm noted (aside_writes only) rfl unmade
    · exact .halfCloses noted only rfl made empty closing
  | close handling =>
    obtain ⟨effects, noted, aside⟩ := handleClose_notes outcome
    exact .calm noted aside rfl id
  | error handling =>
    cases outcome
    exact .idle (.refl c) rfl id
  | consume =>
    obtain ⟨inputBuffer, -, rest⟩ := bind_eq_ok.mp outcome
    cases rest
    exact .idle (.still rfl rfl) rfl id
  | turn =>
    cases outcome
    exact .idle (.still rfl rfl) rfl id

/-- New functors are callbacks, or what the action queues. -/
theorem Step.tasks {action : Action} (step : Step c action after) (flows : c.Flows) :
    ∀ task ∈ after.tasks, task ∈ c.tasks ∨ task.IsCallback ∨ action.Queues task := by
  have keeps : ∀ before next : TcpConnection,
      (∀ task ∈ before.tasks, task ∈ c.tasks ∨ task.IsCallback ∨ action.Queues task) →
      Move (c.allowance action) before next →
      ∀ task ∈ next.tasks, task ∈ c.tasks ∨ task.IsCallback ∨ action.Queues task := by
    intro before next old move task member
    have callback {tasks : List ConnTask} (callbacks : Callbacks before.tasks tasks)
        (inside : task ∈ tasks) : task ∈ c.tasks ∨ task.IsCallback ∨ action.Queues task :=
      (callbacks task inside).elim (old task) fun called => .inr (.inl called)
    cases move with
    | aside _ _ _ _ _ queued =>
      exact (queued task member).elim (old task) fun new => .inr (.inr new)
    | sendWhole _ _ _ _ callbacks => exact callback callbacks member
    | sendPart _ _ _ _ _ _ _ _ _ callbacks => exact callback callbacks member
    | sendBehind _ _ _ _ callbacks => exact callback callbacks member
    | flushAll _ _ _ _ _ _ callbacks => exact callback callbacks member
    | flushLast _ _ _ _ _ _ callbacks => exact callback callbacks member
    | _ => exact old task member
  exact (step.moves flows.valid flows.agrees).invariant keeps fun task member => .inl member

/-- A connection that is closing does not go back. -/
theorem Step.closing {action : Action} (step : Step c action after) (flows : c.Flows)
    (closing : c.state = .kDisconnecting ∨ c.state = .kDisconnected) :
    after.state = .kDisconnecting ∨ after.state = .kDisconnected := by
  have keeps : ∀ before next : TcpConnection,
      before.state = .kDisconnecting ∨ before.state = .kDisconnected →
      Move (c.allowance action) before next →
      next.state = .kDisconnecting ∨ next.state = .kDisconnected := by
    intro before next closing move
    cases move with
    | aside state =>
      rw [state]
      exact closing
    | establish connecting =>
      rw [connecting] at closing
      simp at closing
    | disconnect => exact .inl rfl
    | close => exact .inr rfl
    | shutdown => exact .inl rfl
    | _ => exact closing
  exact (step.moves flows.valid flows.agrees).invariant keeps closing

end TcpConnection

end Muduo
