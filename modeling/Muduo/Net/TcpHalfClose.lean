import Muduo.Net.TcpSpeech

/-!
# What a half-closed connection still does

After `shutdownWrite` the kernel fails every `::write` of the connection with `EPIPE`, and logging
the failure is taken to keep `errno`. Whichever threads sent and shut down: a half-closed connection
is closing or closed, asks for no writing, gives the kernel nothing more, and keeps in its output
buffer what was there at the half-close.
-/

open Outcome Transition

namespace Muduo

namespace TcpConnection

/-- A connection that is done with writing. -/
structure Finished (c : TcpConnection) : Prop where
  /-- It does not accept messages. -/
  closing : c.state = .kDisconnecting ∨ c.state = .kDisconnected
  /-- It does not ask for writing. -/
  silent : c.channel.isWriting = false
  /-- The output buffer is as it was at the half-close. -/
  pending : ∀ pending, .shutdownWrite pending ∈ c.trace → pending = c.outputBuffer.readable

/-- A connection whose half-close comes last. -/
structure Ends (c : TcpConnection) : Prop where
  /-- The output of the connection. -/
  flows : c.Flows
  /-- A half-close that waits in the loop was asked for. -/
  asked : .shutdownInLoop ∈ c.tasks → c.state = .kDisconnecting ∨ c.state = .kDisconnected
  /-- A half-closed connection is done. -/
  finished : c.Shut → c.Finished

/-- The kernel refuses what a half-closed connection writes, with an `errno` that logging keeps. -/
def Refuses (c : TcpConnection) (action : Action) : Prop :=
  c.Shut → ∀ result, action.Writes result → result = .failed ePipe ePipe

variable {c after : TcpConnection} {action : Action}

/-- What an action does that makes no half-close. -/
def Passes (c after : TcpConnection) : Prop :=
  ∃ effects, after.trace = c.trace ++ effects ∧ (∀ effect ∈ effects, ¬effect.IsShutdown) ∧
    (c.Shut → after.outputBuffer.readable = c.outputBuffer.readable ∧
      after.channel.isWriting = false ∧ effects.flatMap ConnEffect.accepted = [])

/-- Nothing is done to the socket. -/
theorem Ends.passes (ends : c.Ends) (trace : after.trace = c.trace)
    (output : after.outputBuffer = c.outputBuffer) (channel : after.channel = c.channel) :
    c.Passes after := by
  refine ⟨[], by rw [trace, List.append_nil], by simp, fun shut => ⟨by rw [output], ?_, rfl⟩⟩
  rw [channel]
  exact (ends.finished shut).silent

/-- A change of the interest in reading. -/
theorem Ends.passes_interest (ends : c.Ends) {call : Interest} {poller : EpollPoller}
    {channel : Channel} {reading : Bool}
    (quiet : call.writing c.channel.isWriting = true → c.channel.isWriting = true)
    (changed : c.channel.change call c.poller = .ok (poller, channel)) :
    c.Passes { c with poller, channel, reading } := by
  refine ⟨[], (List.append_nil _).symm, by simp, fun shut => ⟨rfl, ?_, rfl⟩⟩
  have silent := (ends.finished shut).silent
  show channel.isWriting = false
  rw [Channel.change_isWriting changed]
  cases asks : call.writing c.channel.isWriting with
  | false => rfl
  | true =>
    rw [quiet asks] at silent
    cases silent

/-- `handleClose` makes no half-close. -/
theorem handleClose_passes (done : c.handleClose = .ok after) : c.Passes after := by
  rw [handleClose] at done
  obtain ⟨_, -, rest⟩ := bind_eq_ok.mp done
  obtain ⟨disabled, disabling, rest⟩ := bind_eq_ok.mp rest
  obtain ⟨poller, channel, changed, rfl⟩ := setInterest_eq_ok.mp disabling
  cases rest
  refine ⟨[.connectionCallback false, .closeCallback], ?_, ?_, fun _ => ⟨rfl, ?_, rfl⟩⟩
  · show _ = c.trace ++ ([.connectionCallback false] ++ [.closeCallback])
    rw [← List.append_assoc]
    rfl
  · simp
  · exact Channel.change_isWriting changed

/-- `startReadInLoop` makes no half-close. -/
theorem Ends.passes_startReadInLoop (ends : c.Ends) (done : c.startReadInLoop = .ok after) :
    c.Passes after := by
  rw [startReadInLoop] at done
  split at done
  · obtain ⟨enabled, enabling, rest⟩ := bind_eq_ok.mp done
    obtain ⟨poller, channel, changed, rfl⟩ := setInterest_eq_ok.mp enabling
    cases rest
    exact ends.passes_interest id changed
  · cases done
    exact ends.passes rfl rfl rfl

/-- `stopReadInLoop` makes no half-close. -/
theorem Ends.passes_stopReadInLoop (ends : c.Ends) (done : c.stopReadInLoop = .ok after) :
    c.Passes after := by
  rw [stopReadInLoop] at done
  split at done
  · obtain ⟨disabled, disabling, rest⟩ := bind_eq_ok.mp done
    obtain ⟨poller, channel, changed, rfl⟩ := setInterest_eq_ok.mp disabling
    cases rest
    exact ends.passes_interest id changed
  · cases done
    exact ends.passes rfl rfl rfl

/-- A connection that is connected is not half-closed. -/
theorem Ends.unshut (ends : c.Ends) (connected : c.state = .kConnected) : ¬c.Shut := by
  intro shut
  have closing := (ends.finished shut).closing
  rw [connected] at closing
  simp at closing

/-- `sendInLoop` makes no half-close, and the kernel takes nothing after one. -/
theorem Ends.passes_sendInLoop (ends : c.Ends) {data : List UInt8} {len : Nat}
    {result : WriteResult} (refused : c.Shut → result = .failed ePipe ePipe)
    (done : c.sendInLoop data len result = .ok after) : c.Passes after := by
  by_cases shut : c.Shut
  · obtain rfl := refused shut
    have finished := ends.finished shut
    rw [sendInLoop] at done
    split at done
    · cases done
      refine ⟨[.sendInLoop (data.take len) c.state false], rfl, by simp, fun _ => ⟨rfl, ?_, rfl⟩⟩
      exact finished.silent
    · next up =>
      have opened : c.state ≠ .kDisconnected := by simpa using up
      have empty := ends.flows.agrees.empty opened finished.silent
      have none := (readableBytes_eq_zero ends.flows.valid).mpr empty
      obtain ⟨⟨written, nwrote, faultError⟩, direct, rest⟩ := bind_eq_ok.mp done
      rw [if_pos (by simp [finished.silent, none]), directWrite] at direct
      obtain ⟨offered, -, wrote⟩ := bind_eq_ok.mp direct
      cases wrote
      obtain ⟨_, -, rest⟩ := bind_eq_ok.mp rest
      obtain ⟨kept, keeping, rest⟩ := bind_eq_ok.mp rest
      have broke : (WriteResult.failed ePipe ePipe).broken = true := by decide
      rw [broke] at keeping rest
      cases keeping
      cases rest
      refine ⟨[.write offered (.failed ePipe ePipe), .sendInLoop (data.take len) c.state true],
        ?_, ?_, fun _ => ⟨rfl, finished.silent, rfl⟩⟩
      · simp [note]
      · simp
  · obtain ⟨writes, broken, noted, only, -⟩ := sendInLoop_notes done
    refine ⟨_, noted.trace, fun effect member => ?_, fun half => absurd half shut⟩
    obtain write | last := List.mem_append.mp member
    · have writes := only effect write
      cases effect with
      | write => exact id
      | _ => exact writes.elim
    · rw [List.mem_singleton.mp last]
      exact id

/-- What passes keeps a half-close last. -/
theorem Passes.ends (passes : c.Passes after) (ends : c.Ends) (flows : after.Flows)
    (closing : c.state = .kDisconnecting ∨ c.state = .kDisconnected →
      after.state = .kDisconnecting ∨ after.state = .kDisconnected)
    (asked : .shutdownInLoop ∈ after.tasks →
      after.state = .kDisconnecting ∨ after.state = .kDisconnected) :
    after.Ends ∧ (c.Shut → after.accepted = c.accepted) := by
  obtain ⟨effects, trace, calm, still⟩ := passes
  have same := shut_append trace calm
  constructor
  · refine ⟨flows, asked, fun shut => ?_⟩
    rw [same] at shut
    have finished := ends.finished shut
    obtain ⟨output, silent, -⟩ := still shut
    refine ⟨closing finished.closing, silent, fun pending member => ?_⟩
    rw [output]
    apply finished.pending
    rw [trace, List.mem_append] at member
    exact member.resolve_right fun new => calm _ new trivial
  · intro shut
    rw [accepted, trace, List.flatMap_append, (still shut).2.2, List.append_nil]
    rfl

/-- The half-close of a connection that is closing and asks for no writing. -/
theorem Ends.half_closed (ends : c.Ends)
    (closing : c.state = .kDisconnecting ∨ c.state = .kDisconnected)
    (silent : c.channel.isWriting = false) :
    (c.note (.shutdownWrite c.outputBuffer.readable)).Ends ∧
      (c.note (.shutdownWrite c.outputBuffer.readable)).accepted = c.accepted := by
  have nothing : (ConnEffect.shutdownWrite c.outputBuffer.readable).accepted ++
      c.outputBuffer.readable = c.outputBuffer.readable ++
        (ConnEffect.shutdownWrite c.outputBuffer.readable).owed := by
    simp
  refine ⟨⟨ends.flows.noted nothing, ends.asked, fun _ => ⟨closing, silent, ?_⟩⟩, ?_⟩
  · intro pending member
    obtain old | new := List.mem_append.mp member
    · exact (ends.finished ⟨pending, old⟩).pending pending old
    · rw [List.mem_singleton] at new
      cases new
      rfl
  · simp [accepted, note, List.flatMap_append]

/-- Other functors wait in the loop. -/
theorem Ends.functors (ends : c.Ends) {tasks : List ConnTask}
    (asked : .shutdownInLoop ∈ tasks → c.state = .kDisconnecting ∨ c.state = .kDisconnected) :
    Ends { c with tasks } := by
  have ⟨valid, tracks, agrees, closed, stream⟩ := ends.flows
  refine ⟨⟨valid, tracks, agrees, closed, stream⟩, asked, fun shut => ?_⟩
  have finished := ends.finished shut
  exact ⟨finished.closing, finished.silent, finished.pending⟩

/-- `shutdown()` makes the half-close, or asks for it. -/
theorem Ends.shutdown (ends : c.Ends) (caller : Caller) :
    (c.shutdown caller).Ends ∧ (c.Shut → (c.shutdown caller).accepted = c.accepted) := by
  rw [TcpConnection.shutdown]
  split
  next up =>
    have connected : c.state = .kConnected := beq_iff_eq.mp up
    have opened := ends.unshut connected
    have closing : Ends { c with state := .kDisconnecting } := by
      have flows := ends.flows
      refine ⟨⟨flows.valid, flows.tracks, fun _ => flows.agrees ?_, by simp, flows.stream⟩,
        fun _ => .inl rfl, fun shut => absurd shut opened⟩
      simp [connected]
    refine ⟨?_, fun shut => absurd shut opened⟩
    cases caller with
    | loop =>
      dsimp only
      rw [shutdownInLoop]
      split
      next => exact closing
      next idle => exact (closing.half_closed (.inl rfl) (Bool.eq_false_iff.mpr idle)).1
    | other => exact closing.functors fun _ => .inl rfl
  next => exact ⟨ends, fun _ => rfl⟩

/-- A functor makes no half-close, but for the one that is to make it. -/
theorem Ends.passes_runTask (ends : c.Ends) {task : ConnTask} {result : WriteResult}
    (refused : c.Shut → result = .failed ePipe ePipe) (other : task ≠ .shutdownInLoop)
    (done : c.runTask task result = .ok after) : c.Passes after := by
  cases task with
  | connectEstablished =>
    have established : c.connectEstablished = .ok after := done
    rw [connectEstablished] at established
    obtain ⟨_, connecting, rest⟩ := bind_eq_ok.mp established
    obtain ⟨enabled, enabling, rest⟩ := bind_eq_ok.mp rest
    obtain ⟨poller, channel, changed, rfl⟩ := setInterest_eq_ok.mp enabling
    cases rest
    refine ⟨[.connectionCallback true], rfl, by simp, fun shut => ?_⟩
    have closing := (ends.finished shut).closing
    have waiting : c.state = .kConnecting := by simpa using connecting
    rw [waiting] at closing
    simp at closing
  | sendInLoop message => exact ends.passes_sendInLoop refused done
  | shutdownInLoop => exact absurd rfl other
  | forceCloseInLoop =>
    have closed : c.forceCloseInLoop = .ok after := done
    rw [forceCloseInLoop] at closed
    split at closed
    · exact handleClose_passes closed
    · cases closed
      exact ends.passes rfl rfl rfl
  | startReadInLoop => exact ends.passes_startReadInLoop done
  | stopReadInLoop => exact ends.passes_stopReadInLoop done
  | writeCompleteCallback =>
    cases done
    exact ends.passes rfl rfl rfl
  | highWaterMarkCallback size =>
    cases done
    exact ends.passes rfl rfl rfl

/-- A functor keeps a half-close last, or makes it. -/
theorem Ends.runTask (ends : c.Ends) {task : ConnTask} {result : WriteResult}
    (refused : c.Shut → result = .failed ePipe ePipe)
    (closing : task = .shutdownInLoop → c.state = .kDisconnecting ∨ c.state = .kDisconnected)
    (done : c.runTask task result = .ok after) :
    c.Passes after ∨ after.Ends ∧ after.accepted = c.accepted := by
  by_cases half : task = .shutdownInLoop
  · subst half
    cases done
    right
    show c.shutdownInLoop.Ends ∧ c.shutdownInLoop.accepted = c.accepted
    rw [shutdownInLoop]
    split
    next => exact ⟨ends, rfl⟩
    next idle => exact ends.half_closed (closing rfl) (Bool.eq_false_iff.mpr idle)
  · exact .inl (ends.passes_runTask refused half done)

/-- `handleWrite` keeps a half-close last, or makes it. -/
theorem Ends.handleWrite (ends : c.Ends) {result : WriteResult}
    (fits : result.Fits c.outputBuffer.readable.length) (done : c.handleWrite result = .ok after)
    (flows : after.Flows) (asked : .shutdownInLoop ∈ after.tasks →
      after.state = .kDisconnecting ∨ after.state = .kDisconnected) :
    c.Passes after ∨ after.Ends ∧ ¬c.Shut := by
  by_cases writing : c.channel.isWriting = true
  · have opened : ¬c.Shut := by
      intro shut
      rw [(ends.finished shut).silent] at writing
      cases writing
    obtain ⟨writes, noted, only, -⟩ | ⟨writes, noted, only, -, empty, closing⟩ :=
      handleWrite_notes ends.flows.valid ends.flows.agrees fits done
    · refine .inl ⟨writes, noted.trace, fun effect member => ?_, fun shut => absurd shut opened⟩
      exact (aside_writes only effect member).2
    · refine .inr ⟨⟨flows, asked, fun _ => ⟨.inl closing, ?_, fun pending member => ?_⟩⟩, opened⟩
      · have agrees := flows.agrees (by rw [closing]; decide)
        rw [empty] at agrees
        simpa using agrees
      · rw [noted.trace, List.mem_append, List.mem_append] at member
        obtain old | write | last := member
        · exact absurd ⟨pending, old⟩ opened
        · exact absurd trivial (aside_writes only _ write).2
        · rw [List.mem_singleton] at last
          cases last
          exact empty.symm
  · rw [TcpConnection.handleWrite, if_neg writing] at done
    cases done
    exact .inl (ends.passes rfl rfl rfl)

/-- Every step that the kernel refuses after a half-close keeps the half-close last, and the kernel
takes nothing after it. -/
theorem Step.ends (step : Step c action after) (ends : c.Ends) (refuses : c.Refuses action) :
    after.Ends ∧ (c.Shut → after.accepted = c.accepted) := by
  have flows := step.flows ends.flows
  have closing := step.closing ends.flows
  have asked (other : ∀ caller, action ≠ .shutdown caller)
      (queued : .shutdownInLoop ∈ after.tasks) :
      after.state = .kDisconnecting ∨ after.state = .kDisconnected := by
    obtain old | callback | queues := step.tasks ends.flows _ queued
    · exact closing (ends.asked old)
    · exact callback.elim
    · cases action with
      | shutdown caller => exact absurd rfl (other caller)
      | send => simp [Action.Queues] at queues
      | sendString => simp [Action.Queues] at queues
      | forceClose => cases queues
      | timer => cases queues
      | startRead => cases queues.2
      | stopRead => cases queues.2
      | _ => exact queues.elim
  have attempt : Attempt c action (.ok after) := step
  generalize outcome : Except.ok after = result at attempt
  symm at outcome
  cases attempt with
  | send =>
    refine Passes.ends ?_ ends flows closing (asked (by simp))
    obtain ⟨up, rfl, sent⟩ | ⟨_, rfl, copy, _, rfl⟩ | ⟨_, rfl⟩ := send_cases outcome
    · exact ends.passes_sendInLoop (fun shut => absurd shut (ends.unshut up)) sent
    · exact ends.passes rfl rfl rfl
    · exact ends.passes rfl rfl rfl
  | sendString =>
    refine Passes.ends ?_ ends flows closing (asked (by simp))
    obtain ⟨up, rfl, sent⟩ | ⟨_, rfl, rfl⟩ | ⟨_, rfl⟩ := sendString_cases outcome
    · exact ends.passes_sendInLoop (fun shut => absurd shut (ends.unshut up)) sent
    · exact ends.passes rfl rfl rfl
    · exact ends.passes rfl rfl rfl
  | @shutdown caller =>
    cases outcome
    exact ends.shutdown caller
  | forceClose =>
    cases outcome
    refine Passes.ends ?_ ends flows closing (asked (by simp))
    rw [forceClose]
    split <;> exact ends.passes rfl rfl rfl
  | forceCloseWithDelay =>
    cases outcome
    refine Passes.ends ?_ ends flows closing (asked (by simp))
    rw [forceCloseWithDelay]
    split <;> exact ends.passes rfl rfl rfl
  | @startRead caller =>
    refine Passes.ends ?_ ends flows closing (asked (by simp))
    cases caller with
    | loop => exact ends.passes_startReadInLoop outcome
    | other =>
      cases outcome
      exact ends.passes rfl rfl rfl
  | @stopRead caller =>
    refine Passes.ends ?_ ends flows closing (asked (by simp))
    cases caller with
    | loop => exact ends.passes_stopReadInLoop outcome
    | other =>
      cases outcome
      exact ends.passes rfl rfl rfl
  | @task task rest result first =>
    have popped : Ends { c with tasks := rest } := by
      refine ends.functors fun queued => ends.asked ?_
      rw [first]
      exact List.mem_cons_of_mem _ queued
    have ready : task = .shutdownInLoop → c.state = .kDisconnecting ∨ c.state = .kDisconnected := by
      rintro rfl
      apply ends.asked
      rw [first]
      exact List.mem_cons_self
    obtain passes | ⟨half, same⟩ :=
      popped.runTask (fun shut => refuses shut result rfl) ready outcome
    · exact Passes.ends passes ends flows closing (asked (by simp))
    · exact ⟨half, fun _ => same⟩
  | timer =>
    cases outcome
    refine Passes.ends ?_ ends flows closing (asked (by simp))
    rw [forceClose]
    split <;> exact ends.passes rfl rfl rfl
  | read =>
    refine Passes.ends ?_ ends flows closing (asked (by simp))
    obtain ⟨inputBuffer, n, -, rest⟩ := handleRead_cases outcome
    obtain rfl | closed | rfl := rest
    · refine ⟨[.messageCallback], rfl, by simp, fun shut => ⟨rfl, ?_, rfl⟩⟩
      exact (ends.finished shut).silent
    · have passes : Passes { c with inputBuffer } after := handleClose_passes closed
      exact passes
    · exact ends.passes rfl rfl rfl
  | write handling fits =>
    obtain passes | ⟨half, opened⟩ := ends.handleWrite fits outcome flows (asked (by simp))
    · exact Passes.ends passes ends flows closing (asked (by simp))
    · exact ⟨half, fun shut => absurd shut opened⟩
  | close =>
    refine Passes.ends ?_ ends flows closing (asked (by simp))
    exact handleClose_passes outcome
  | error =>
    cases outcome
    exact ⟨ends, fun _ => rfl⟩
  | consume =>
    refine Passes.ends ?_ ends flows closing (asked (by simp))
    obtain ⟨inputBuffer, -, rest⟩ := bind_eq_ok.mp outcome
    cases rest
    exact ends.passes rfl rfl rfl
  | turn =>
    cases outcome
    exact Passes.ends (ends.passes rfl rfl rfl) ends flows closing (asked (by simp))

end TcpConnection

end Muduo
