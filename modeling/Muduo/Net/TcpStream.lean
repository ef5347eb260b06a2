import Muduo.Lib.Run
import Muduo.Net.TcpMoves

/-!
# The output stream of a connection

What the kernel accepted, followed by what waits in the output buffer, is the sequence of the
messages that were sent. The output buffer holds something exactly when writing is asked for, and
the half-close comes after everything else.
-/

open Outcome Transition

namespace Muduo

namespace ConnEffect

/-- The bytes the kernel accepted. -/
@[simp] def accepted : ConnEffect → List UInt8
  | write offered result => result.taken offered
  | _ => []

/-- The message that must reach the stream: its `sendInLoop` found a state other than
`kDisconnected`, and its direct write did not fail with `EPIPE` or `ECONNRESET`. -/
@[simp] def owed : ConnEffect → List UInt8
  | sendInLoop message state broken =>
    if state = .kDisconnected ∨ broken = true then [] else message
  | _ => []

/-- A call of `::write`. -/
@[simp] def IsWrite : ConnEffect → Prop
  | write _ _ => True
  | _ => False

/-- A call of `shutdownWrite`. -/
@[simp] def IsShutdown : ConnEffect → Prop
  | shutdownWrite _ => True
  | _ => False

end ConnEffect

/-- A functor that sends or shuts down. -/
def ConnTask.Sends : ConnTask → Prop
  | .sendInLoop _ => True
  | .shutdownInLoop => True
  | _ => False

namespace TcpConnection

/-- The bytes accepted by the kernel so far. -/
def accepted (c : TcpConnection) : List UInt8 := c.trace.flatMap ConnEffect.accepted

/-- The messages sent so far. -/
def messages (c : TcpConnection) : List UInt8 := c.trace.flatMap ConnEffect.owed

/-- The half-close is made at most once, with nothing left to write, and no write follows it. -/
structure Orderly (trace : List ConnEffect) : Prop where
  /-- Nothing is written after a half-close, and it is not made again. -/
  last : trace.Pairwise fun earlier later =>
    earlier.IsShutdown → ¬later.IsWrite ∧ ¬later.IsShutdown
  /-- The output buffer is empty at a half-close. -/
  empty : ∀ pending, .shutdownWrite pending ∈ trace → pending = []

variable {permits : Permits} {c after : TcpConnection}

/-- A write that breaks the connection takes nothing. -/
theorem taken_of_broken {result : WriteResult} (broken : result.broken = true)
    (offered : List UInt8) : result.taken offered = [] := by
  cases result with
  | accepted count => cases broken
  | failed errno logged => rfl

/-- The output buffer, the interest in writing and the stream fit together. -/
structure Flows (c : TcpConnection) : Prop where
  /-- The output buffer is valid. -/
  valid : c.outputBuffer.Valid
  /-- The poller tracks the channel. -/
  tracks : c.poller.Tracks c.channel
  /-- Writing is asked for exactly when there is something to write. -/
  agrees : c.Agrees
  /-- A closed connection does not ask for writing. -/
  closed : c.state = .kDisconnected → c.channel.isWriting = false
  /-- Nothing is lost, repeated or out of order. -/
  stream : c.accepted ++ c.outputBuffer.readable = c.messages

/-- The order of the output does not depend on the input. -/
theorem Flows.input (flows : c.Flows) (inputBuffer : Buffer) : Flows { c with inputBuffer } :=
  ⟨flows.valid, flows.tracks, flows.agrees, flows.closed, flows.stream⟩

/-- Effects that concern no bytes. -/
theorem stream_append {output : Buffer} {effects : List ConnEffect}
    (stream : c.accepted ++ c.outputBuffer.readable = c.messages)
    (added : effects.flatMap ConnEffect.accepted ++ output.readable =
      c.outputBuffer.readable ++ effects.flatMap ConnEffect.owed) :
    (c.trace ++ effects).flatMap ConnEffect.accepted ++ output.readable =
      (c.trace ++ effects).flatMap ConnEffect.owed := by
  rw [List.flatMap_append, List.flatMap_append, List.append_assoc, added, ← List.append_assoc]
  exact congrArg (· ++ _) stream

/-- An effect that adds to what is owed what it adds to what is accepted. -/
theorem Flows.noted (flows : c.Flows) {effect : ConnEffect}
    (added : effect.accepted ++ c.outputBuffer.readable =
      c.outputBuffer.readable ++ effect.owed) : (c.note effect).Flows := by
  refine ⟨flows.valid, flows.tracks, flows.agrees, flows.closed, stream_append flows.stream ?_⟩
  rw [List.flatMap_singleton, List.flatMap_singleton]
  exact added

/-- A change of interest that does not concern writing. -/
theorem Flows.interest (flows : c.Flows) {call : Interest} {poller : EpollPoller}
    {channel : Channel} {reading : Bool}
    (kept : call.writing c.channel.isWriting = c.channel.isWriting)
    (changed : c.channel.change call c.poller = .ok (poller, channel)) :
    Flows { c with poller, channel, reading } := by
  have same : channel.isWriting = c.channel.isWriting :=
    (Channel.change_isWriting changed).trans kept
  refine ⟨flows.valid, (Channel.change_tracks flows.tracks changed).1, fun up => ?_, fun down => ?_,
    flows.stream⟩
  · rw [same]
    exact flows.agrees up
  · rw [same]
    exact flows.closed down

/-- Every move keeps the stream in order. -/
theorem Move.flows (move : Move permits c after) (flows : c.Flows) : after.Flows := by
  have ⟨valid, tracks, agrees, closed, stream⟩ := flows
  cases move with
  | aside state channel poller output trace =>
    refine ⟨by rw [output]; exact valid, by rw [poller, channel]; exact tracks, ?_, ?_, ?_⟩
    · rw [Agrees, state, channel, output]
      exact agrees
    · rw [state, channel]
      exact closed
    · rw [accepted, messages, output, trace]
      exact stream
  | called callback =>
    obtain rfl | rfl := callback
    · exact flows.noted (by simp)
    · exact flows.noted (by simp)
  | establish connecting changed =>
    have same : _ = c.channel.isWriting := Channel.change_isWriting changed
    refine ⟨valid, (Channel.change_tracks tracks changed).1, fun _ => ?_,
      (fun closed => by cases closed), stream_append stream (by simp)⟩
    rw [same]
    exact agrees (by rw [connecting]; decide)
  | disconnect up =>
    refine ⟨valid, tracks, fun _ => agrees ?_, (fun closed => by cases closed), stream⟩
    obtain connected | disconnecting := up
    · rw [connected]
      decide
    · rw [disconnecting]
      decide
  | close up changed =>
    exact ⟨valid, (Channel.change_tracks tracks changed).1, fun other => absurd rfl other,
      fun _ => Channel.change_isWriting changed, stream_append stream (by simp)⟩
  | start may changed => exact flows.interest rfl changed
  | stop changed => exact flows.interest rfl changed
  | refuse down => exact flows.noted (by simp [down])
  | sendNothing up => exact flows.noted (by simp)
  | @sendWhole message result tasks up may idle whole =>
    have empty := agrees.empty up idle
    refine ⟨valid, tracks, agrees, closed, stream_append stream ?_⟩
    obtain broken | whole := whole
    · simp [taken_of_broken broken, broken]
    · by_cases broken : result.broken = true
      · simp [taken_of_broken broken, broken]
      · simp [whole, broken, up, empty]
  | sendPart up may idle empty parts left outputValid kept changed =>
    have writing : _ = true := Channel.change_isWriting changed
    refine ⟨outputValid, (Channel.change_tracks tracks changed).1, fun _ => ?_,
      fun down => absurd down up, stream_append stream ?_⟩
    · rw [writing, kept]
      exact ⟨fun _ => left, fun _ => rfl⟩
    · simp [up, empty, kept, parts]
  | sendBehind up writing outputValid kept =>
    refine ⟨outputValid, tracks, fun _ => ?_, fun down => absurd down up,
      stream_append stream ?_⟩
    · have some := (agrees up).mp writing
      rw [kept]
      exact ⟨fun _ => by simp [some], fun _ => writing⟩
    · simp [up, kept]
  | flushNothing writing none => exact flows.noted (by simp [none])
  | flushPart writing outputValid parts left =>
    refine ⟨outputValid, tracks, fun _ => ⟨fun _ => left, fun _ => writing⟩, closed,
      stream_append stream (by simp [parts])⟩
  | flushAll writing notLast outputValid all empty changed =>
    have stopped : _ = false := Channel.change_isWriting changed
    refine ⟨outputValid, (Channel.change_tracks tracks changed).1, fun _ => ?_, fun _ => stopped,
      stream_append stream (by simp [all, empty])⟩
    rw [stopped, empty]
    simp
  | flushLast writing last outputValid all empty changed =>
    have stopped : _ = false := Channel.change_isWriting changed
    refine ⟨outputValid, (Channel.change_tracks tracks changed).1, fun _ => ?_, fun _ => stopped,
      stream_append stream (by simp [all, empty])⟩
    rw [stopped, empty]
    simp
  | shutdown connected idle =>
    exact ⟨valid, tracks, fun _ => agrees (by rw [connected]; decide),
      (fun closed => by cases closed), stream_append stream (by simp)⟩
  | halfClose may idle => exact flows.noted (by simp)

/-- Every step keeps the stream in order. -/
theorem Step.flows {action : Action} (step : Step c action after) (flows : c.Flows) :
    after.Flows :=
  (step.moves flows.valid flows.agrees).invariant (fun _ _ kept move => move.flows kept) flows

/-- A new connection has an empty stream. -/
theorem new_flows {address : ChannelId} {fd : Int} {poller : EpollPoller} {highWaterMark : Nat}
    {writeComplete highWater : Bool} (unknown : poller.channels fd = none)
    (unwatched : poller.interest fd = none)
    (made : new address fd poller highWaterMark writeComplete highWater = .ok c) : c.Flows := by
  rw [new] at made
  obtain ⟨input, _, rest⟩ := bind_eq_ok.mp made
  obtain ⟨output, built, rest⟩ := bind_eq_ok.mp rest
  obtain rfl := Except.ok.inj rest
  obtain ⟨valid, empty, -⟩ := (Buffer.new_meets kInitialSize (by decide)).of_ok built
  have tracks : poller.Tracks (.new address fd) := ⟨.inl rfl, unknown, unwatched, fun _ => rfl⟩
  have idle : (Channel.new address fd).isWriting = false := Channel.isWriting_of_none rfl
  refine ⟨valid, tracks, fun _ => ?_, nofun, ?_⟩
  · dsimp only
    rw [idle, empty]
    simp
  · simp [accepted, messages, empty]

/-- A change of interest of a tracked channel fails no assertion. -/
theorem setInterest_done (tracks : c.poller.Tracks c.channel) (call : Interest) :
    ∃ after, c.setInterest call = .ok after := by
  obtain ⟨poller, updated, -⟩ :=
    EpollPoller.updateChannel_tracked tracks (call.apply c.channel.events)
  have changed : c.channel.change call c.poller = .ok (poller, _) := updated
  exact ⟨_, setInterest_eq_ok.mpr ⟨poller, _, changed, rfl⟩⟩

/-- Keeping what is not written stops only when the output buffer cannot grow. -/
theorem keepRest_stops {data : List UInt8} {nwrote remaining : Nat} (valid : c.outputBuffer.Valid)
    (tracks : c.poller.Tracks c.channel) (count : remaining ≤ (data.drop nwrote).length)
    (object : data.length ≤ maxSize) :
    Meets (c.keepRest data nwrote remaining) (fun _ => True) (· = .lengthError) := by
  have limit : maxSize = 2 ^ 63 - 1 := rfl
  have eight : kCheapPrepend = 8 := rfl
  have size := valid.size_lt
  have inside := valid.writer_le
  have bound : remaining ≤ data.length := by
    rw [List.length_drop] at count
    omega
  have appended := Buffer.append_meets valid count (by omega)
  obtain ⟨tasks, -, same⟩ := c.keepRest_eq data nwrote remaining
  rw [same]
  refine (appended.mono (fun _ => id) fun _ stop => stop.1).bind fun output _ => ?_
  split
  · exact .ok trivial
  · obtain ⟨kept, done⟩ :=
      setInterest_done (c := { c with tasks, outputBuffer := output }) tracks .enableWriting
    rw [done]
    exact .ok trivial

/-- The direct write of a whole object does not stop. -/
theorem directWrite_done (c : TcpConnection) (data : List UInt8) (result : WriteResult) :
    ∃ written, c.directWrite data data.length result = .ok written := by
  rw [directWrite, load, if_pos (Nat.le_refl _)]
  simp only [ok_bind]
  split
  · split
    · exact ⟨_, rfl⟩
    · exact ⟨_, rfl⟩
  · exact ⟨_, rfl⟩

/-- Sending in the loop thread stops only when the output buffer cannot grow. -/
theorem sendInLoop_stops {data : List UInt8} {result : WriteResult} (flows : c.Flows)
    (object : data.length ≤ maxSize) (fits : result.Fits data.length) :
    Meets (c.sendInLoop data data.length result) (fun _ => True) (· = .lengthError) := by
  have limit : maxSize = 2 ^ 63 - 1 := rfl
  have direct : Meets (if !c.channel.isWriting && c.outputBuffer.readableBytes == 0 then
        c.directWrite data data.length result
      else .ok (c, 0, false))
      (fun written => written.1.outputBuffer = c.outputBuffer ∧ written.1.poller = c.poller ∧
        written.1.channel = c.channel ∧ written.2.1 ≤ data.length) (· = .lengthError) := by
    split
    · obtain ⟨⟨written, nwrote, faultError⟩, done⟩ := c.directWrite_done data result
      obtain ⟨tasks, rfl, -, -, bound, -⟩ := directWrite_ok fits done
      rw [done]
      exact .ok ⟨rfl, rfl, rfl, bound⟩
    · exact .ok ⟨rfl, rfl, rfl, Nat.zero_le _⟩
  rw [sendInLoop]
  split
  · exact .ok trivial
  · refine direct.bind fun step same => ?_
    obtain ⟨written, nwrote, faultError⟩ := step
    obtain ⟨output, poller, channel, bound⟩ := same
    have remaining : sizeSub data.length nwrote = data.length - nwrote :=
      sizeSub_of_le bound (by omega)
    have some : decide (sizeSub data.length nwrote ≤ data.length) = true := by
      rw [remaining]
      exact decide_eq_true (Nat.sub_le _ _)
    dsimp only at output poller channel ⊢
    rw [some, ensure_true, ok_bind, remaining]
    have kept : Meets (if !faultError && decide (0 < data.length - nwrote) then
        written.keepRest data nwrote (data.length - nwrote) else .ok written) (fun _ => True)
        (· = .lengthError) := by
      split
      · exact keepRest_stops (by rw [output]; exact flows.valid)
          (by rw [poller, channel]; exact flows.tracks) (by rw [List.length_drop]) object
      · exact .ok trivial
    exact kept.bind fun _ _ => .ok trivial

/-- `send` of a string in the loop thread keeps the stream in order and leaves the input alone; it
stops only when the output buffer cannot grow. -/
theorem sendString_meets {message : List UInt8} {result : WriteResult} (flows : c.Flows)
    (object : message.length ≤ maxSize) (fits : result.Fits message.length) :
    Meets (c.sendString .loop message result)
      (fun after => after.Flows ∧ after.inputBuffer = c.inputBuffer) (· = .lengthError) := by
  cases outcome : c.sendString .loop message result with
  | ok after =>
    have step : Step c (.sendString .loop message result) after :=
      Attempt.step (.sendString object fits) outcome
    exact .ok ⟨step.flows flows, step.input flows.valid flows.agrees id⟩
  | error fault =>
    rw [sendString.eq_def] at outcome
    split at outcome
    · exact .error ((sendInLoop_stops flows object fits).of_error outcome)
    · cases outcome

/-- `shutdown` in the loop thread keeps the stream in order and leaves the input alone. -/
theorem shutdown_meets (flows : c.Flows) :
    (c.shutdown .loop).Flows ∧ (c.shutdown .loop).inputBuffer = c.inputBuffer := by
  have step : Step c (.shutdown .loop) (c.shutdown .loop) := .shutdown
  exact ⟨step.flows flows, step.input flows.valid flows.agrees id⟩

/-- Only the loop thread calls `send` and `shutdown`. -/
def LoopCalls (_ : TcpConnection) : Action → Prop
  | .send caller _ _ => caller = .loop
  | .sendString caller _ _ => caller = .loop
  | .shutdown caller => caller = .loop
  | _ => True

/-- A half-closed connection writes no more, and nobody but the loop thread sends. -/
structure HalfClosed (c : TcpConnection) : Prop where
  /-- The half-close comes last. -/
  orderly : Orderly c.trace
  /-- After the half-close the connection is closing or closed, and asks for no writing. -/
  done : (∃ pending, .shutdownWrite pending ∈ c.trace) →
    (c.state = .kDisconnecting ∨ c.state = .kDisconnected) ∧ c.channel.isWriting = false
  /-- No functor sends or shuts down. -/
  tasks : ∀ task ∈ c.tasks, ¬task.Sends

/-- Effects that are neither writes nor half-closes. -/
def Plain (effects : List ConnEffect) : Prop :=
  ∀ effect ∈ effects, ¬effect.IsWrite ∧ ¬effect.IsShutdown

/-- No effects. -/
theorem plain_nil : Plain [] := nofun

/-- Effects that leave the half-close last. -/
theorem Orderly.append {trace effects : List ConnEffect} (orderly : Orderly trace)
    (more : Orderly effects)
    (after : (∃ pending, .shutdownWrite pending ∈ trace) → Plain effects) :
    Orderly (trace ++ effects) where
  last := by
    refine List.pairwise_append.mpr ⟨orderly.last, more.last, ?_⟩
    intro earlier member later new shut
    cases earlier with
    | shutdownWrite pending => exact after ⟨pending, member⟩ later new
    | sendInLoop => exact shut.elim
    | write => exact shut.elim
    | connectionCallback => exact shut.elim
    | messageCallback => exact shut.elim
    | closeCallback => exact shut.elim
  empty pending member := by
    obtain old | new := List.mem_append.mp member
    · exact orderly.empty pending old
    · exact more.empty pending new

/-- Plain effects are in order. -/
theorem Plain.orderly {effects : List ConnEffect} (plain : Plain effects) : Orderly effects where
  last := List.pairwise_of_forall_mem_list fun earlier member _ _ shut =>
    absurd shut (plain earlier member).2
  empty _ member := absurd trivial (plain _ member).2

/-- Plain effects that change neither the state nor the interest in writing. -/
theorem HalfClosed.plain {effects : List ConnEffect} (half : c.HalfClosed) (plain : Plain effects)
    (trace : after.trace = c.trace ++ effects) (state : after.state = c.state)
    (writing : after.channel.isWriting = c.channel.isWriting)
    (tasks : ∀ task ∈ after.tasks, ¬task.Sends) : after.HalfClosed where
  orderly := by
    rw [trace]
    exact half.orderly.append plain.orderly fun _ => plain
  done := by
    rintro ⟨pending, member⟩
    rw [trace] at member
    rw [state, writing]
    obtain old | new := List.mem_append.mp member
    · exact half.done ⟨pending, old⟩
    · exact absurd trivial (plain _ new).2
  tasks := tasks

/-- Effects in order on a connection that is not half-closed. -/
theorem HalfClosed.fresh {effects : List ConnEffect} (half : c.HalfClosed)
    (none : ¬∃ pending, .shutdownWrite pending ∈ c.trace) (more : Orderly effects)
    (trace : after.trace = c.trace ++ effects)
    (done : (∃ pending, .shutdownWrite pending ∈ effects) →
      (after.state = .kDisconnecting ∨ after.state = .kDisconnected) ∧
        after.channel.isWriting = false)
    (tasks : ∀ task ∈ after.tasks, ¬task.Sends) : after.HalfClosed where
  orderly := by
    rw [trace]
    exact half.orderly.append more fun shut => absurd shut none
  done := by
    rintro ⟨pending, member⟩
    rw [trace] at member
    obtain old | new := List.mem_append.mp member
    · exact absurd ⟨pending, old⟩ none
    · exact done ⟨pending, new⟩
  tasks := tasks

/-- Callbacks do not send. -/
theorem Callbacks.quiet {before tasks : List ConnTask} (callbacks : Callbacks before tasks)
    (quiet : ∀ task ∈ before, ¬task.Sends) : ∀ task ∈ tasks, ¬task.Sends := by
  intro task member sends
  obtain old | callback := callbacks task member
  · exact quiet task old sends
  · cases task with
    | sendInLoop => exact callback
    | shutdownInLoop => exact callback
    | connectEstablished => exact sends
    | forceCloseInLoop => exact sends
    | startReadInLoop => exact sends
    | stopReadInLoop => exact sends
    | writeCompleteCallback => exact sends
    | highWaterMarkCallback => exact sends

/-- Every move of a step in which only the loop thread sends keeps the half-close last. -/
theorem Move.halfClosed (move : Move permits c after) (own : ¬permits.foreign)
    (queues : ∀ task, permits.queues task → ¬task.Sends) (flows : c.Flows)
    (half : c.HalfClosed) : after.HalfClosed := by
  have tasks := half.tasks
  have writingFresh : c.channel.isWriting = true →
      ¬∃ pending, .shutdownWrite pending ∈ c.trace := by
    intro writing shut
    cases writing.symm.trans (half.done shut).2
  have stateFresh : c.state = .kConnected ∨ c.state = .kConnecting →
      ¬∃ pending, .shutdownWrite pending ∈ c.trace := by
    intro early shut
    obtain closing | closed := (half.done shut).1
    · rw [closing] at early
      simp at early
    · rw [closed] at early
      simp at early
  cases move with
  | aside state channel poller output trace queued =>
    refine half.plain plain_nil (by rw [trace, List.append_nil]) state
      (by rw [channel]) fun task member => ?_
    exact (queued task member).elim (tasks task) (queues task)
  | called callback =>
    refine half.plain ?_ rfl rfl rfl tasks
    obtain rfl | rfl := callback
    · simp [Plain]
    · simp [Plain]
  | establish connecting changed =>
    exact half.fresh (stateFresh (.inr connecting))
      (Plain.orderly (by simp [Plain])) rfl (by simp) tasks
  | disconnect up =>
    exact ⟨half.orderly, fun shut => ⟨.inl rfl, (half.done shut).2⟩, tasks⟩
  | close up changed =>
    have plain : Plain [.connectionCallback false] := by
      simp [Plain]
    exact ⟨half.orderly.append plain.orderly fun _ => plain,
      fun _ => ⟨.inr rfl, Channel.change_isWriting changed⟩, tasks⟩
  | start may changed =>
    exact half.plain plain_nil (List.append_nil _).symm rfl
      (Channel.change_isWriting changed) tasks
  | stop changed =>
    exact half.plain plain_nil (List.append_nil _).symm rfl
      (Channel.change_isWriting changed) tasks
  | refuse down => exact half.plain (by simp [Plain]) rfl rfl rfl tasks
  | sendNothing up => exact half.plain (by simp [Plain]) rfl rfl rfl tasks
  | sendWhole up may idle whole callbacks =>
    refine half.fresh (stateFresh (.inl (may.resolve_right own))) ?_ rfl (by simp)
      (callbacks.quiet tasks)
    constructor <;> simp
  | sendPart up may idle empty parts left valid kept changed callbacks =>
    refine half.fresh (stateFresh (.inl (may.resolve_right own))) ?_ rfl (by simp)
      (callbacks.quiet tasks)
    constructor <;> simp
  | sendBehind up writing valid kept callbacks =>
    exact half.plain (by simp [Plain]) rfl rfl rfl
      (callbacks.quiet tasks)
  | flushNothing writing =>
    refine half.fresh (writingFresh writing) ?_ rfl (by simp) tasks
    constructor <;> simp
  | flushPart writing =>
    refine half.fresh (writingFresh writing) ?_ rfl (by simp) tasks
    constructor <;> simp
  | flushAll writing notLast valid all empty changed callbacks =>
    refine half.fresh (writingFresh writing) ?_ rfl (by simp) (callbacks.quiet tasks)
    constructor <;> simp
  | flushLast writing last valid all empty changed callbacks =>
    refine half.fresh (writingFresh writing) ?_ rfl
      (fun _ => ⟨.inl last, Channel.change_isWriting changed⟩) (callbacks.quiet tasks)
    constructor <;> simp
  | shutdown connected idle =>
    have empty := flows.agrees.empty (by rw [connected]; nofun) idle
    refine half.fresh (stateFresh (.inl connected)) ?_ rfl (fun _ => ⟨.inl rfl, idle⟩) tasks
    constructor <;> simp [empty]
  | halfClose may => exact absurd may own

/-- Every step in which only the loop thread sends keeps the half-close last. -/
theorem Step.halfClosed {action : Action} (step : Step c action after) (own : c.LoopCalls action)
    (flows : c.Flows) (half : c.HalfClosed) : after.Flows ∧ after.HalfClosed := by
  have inside : ¬(c.allowance action).foreign := by
    rintro (member | ⟨message, member⟩)
    · exact half.tasks _ member trivial
    · exact half.tasks _ member trivial
  have queues : ∀ task, (c.allowance action).queues task → ¬task.Sends := by
    intro task queued sends
    cases action with
    | send caller => cases own.symm.trans queued.1
    | sendString caller => cases own.symm.trans queued.1
    | shutdown caller => cases own.symm.trans queued.1
    | forceClose =>
      obtain rfl : task = .forceCloseInLoop := queued
      exact sends
    | timer =>
      obtain rfl : task = .forceCloseInLoop := queued
      exact sends
    | startRead caller =>
      obtain rfl := queued.2
      exact sends
    | stopRead caller =>
      obtain rfl := queued.2
      exact sends
    | _ => exact queued
  have start : c.Flows ∧ c.HalfClosed := ⟨flows, half⟩
  have keeps : ∀ before next, before.Flows ∧ before.HalfClosed →
      Move (c.allowance action) before next → next.Flows ∧ next.HalfClosed :=
    fun _ _ kept move => ⟨move.flows kept.1, move.halfClosed inside queues kept.1 kept.2⟩
  exact (step.moves flows.valid flows.agrees).invariant keeps start

end TcpConnection

end Muduo
