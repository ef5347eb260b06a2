import Muduo.Net.Buffer
import Muduo.Net.EpollPoller

/-!
# `dc::net::TcpConnection`

A connection with what its functions touch: its channel and the poller, the functors it queued in
its loop, its delayed closes, and where the loop is in the handling of events. What the connection
does to the socket and which callbacks it invokes is kept in a trace. A failing `::write` has two
values of `errno`: `sendInLoop` reads it once more after the failure was logged, and a logger may
change it.

A call from outside is one step, whichever thread makes it. Calls made by a callback follow the
function that invoked the callback: nothing of that function is left to do but, in `handleClose`,
the call of the close callback, which only hands the connection to its server.
-/

open Outcome Transition

namespace Muduo

/-- `TcpConnection::StateE`. -/
inductive StateE
  | kDisconnected
  | kConnecting
  | kConnected
  | kDisconnecting
  deriving DecidableEq, Repr

/-- `EWOULDBLOCK`. -/
def eWouldBlock : Nat := 11
/-- `EPIPE`. -/
def ePipe : Nat := 32
/-- `ECONNRESET`. -/
def eConnReset : Nat := 104

/-- The result of `::write`. -/
inductive WriteResult
  /-- The number of bytes taken from the front. -/
  | accepted (count : Nat)
  /-- `-1` with `errno`, and `errno` as it is when the record of the failure is logged. -/
  | failed (errno logged : Nat)
  deriving DecidableEq, Repr

/-- `::write` takes at most what is offered. -/
def WriteResult.Fits (offered : Nat) : WriteResult → Prop
  | accepted count => count ≤ offered
  | failed _ _ => True

/-- The bytes taken. -/
def WriteResult.taken (offered : List UInt8) : WriteResult → List UInt8
  | accepted count => offered.take count
  | failed _ _ => []

/-- The test of `sendInLoop` for `EPIPE` and `ECONNRESET`, which reads `errno` again after
`LOG_SYSERR` wrote its record. -/
def WriteResult.broken : WriteResult → Bool
  | accepted _ => false
  | failed errno logged => errno != eWouldBlock && (logged == ePipe || logged == eConnReset)

/-- `::write` failed with `EPIPE` or `ECONNRESET`. -/
def WriteResult.hangsUp : WriteResult → Bool
  | accepted _ => false
  | failed errno _ => errno == ePipe || errno == eConnReset

/-- Logging the failure, which is done unless it is `EWOULDBLOCK`, keeps `errno`. -/
def WriteResult.KeepsErrno : WriteResult → Prop
  | accepted _ => True
  | failed errno logged => errno = eWouldBlock ∨ logged = errno

/-- Where logging keeps `errno`, the test of `sendInLoop` is made on the `errno` of `::write`. -/
theorem WriteResult.KeepsErrno.broken_eq {result : WriteResult} (keeps : result.KeepsErrno) :
    result.broken = result.hangsUp := by
  cases result with
  | accepted count => rfl
  | failed errno logged =>
    obtain rfl | rfl := keeps
    · rfl
    · by_cases again : logged = eWouldBlock
      · subst again
        rfl
      · simp [broken, hangsUp, again]

/-- The functors a connection queues in its loop. -/
inductive ConnTask
  | connectEstablished
  | sendInLoop (message : List UInt8)
  | shutdownInLoop
  | forceCloseInLoop
  | startReadInLoop
  | stopReadInLoop
  | writeCompleteCallback
  | highWaterMarkCallback (size : Nat)
  deriving DecidableEq, Repr

/-- What a connection does. -/
inductive ConnEffect
  /-- An execution of `sendInLoop`, with the state it found, and whether its direct write failed
  with `EPIPE` or `ECONNRESET`. -/
  | sendInLoop (message : List UInt8) (state : StateE) (broken : Bool)
  /-- A call of `::write`. -/
  | write (offered : List UInt8) (result : WriteResult)
  /-- A call of `shutdownWrite`, with the bytes in the output buffer. -/
  | shutdownWrite (pending : List UInt8)
  /-- A call of `m_connectionCallback`, with `connected()`. -/
  | connectionCallback (up : Bool)
  /-- A call of `m_messageCallback`. -/
  | messageCallback
  /-- A call of `m_closeCallback`. -/
  | closeCallback
  deriving DecidableEq, Repr

/-- The loop in the handling of events. -/
structure LoopTurn where
  /-- `m_activeChannels`. -/
  active : List ChannelId
  /-- `m_currentActiveChannel`. -/
  current : ChannelId
  deriving DecidableEq, Repr

/-- `class TcpConnection` with its surroundings. -/
structure TcpConnection where
  /-- `m_state`. -/
  state : StateE
  /-- `is_reading`. -/
  reading : Bool
  /-- `m_channel`. -/
  channel : Channel
  /-- `m_inputBuffer`. -/
  inputBuffer : Buffer
  /-- `m_outputBuffer`. -/
  outputBuffer : Buffer
  /-- `m_highWaterMark`. -/
  highWaterMark : Nat
  /-- `m_writeCompleteCallback` is set. -/
  hasWriteCompleteCallback : Bool
  /-- `m_highWaterMarkCallback` is set. -/
  hasHighWaterMarkCallback : Bool
  /-- The poller of the loop. -/
  poller : EpollPoller
  /-- The functors queued in the loop. -/
  tasks : List ConnTask
  /-- The timers of `forceCloseWithDelay`. -/
  delayed : Nat
  /-- The loop handles events. -/
  turn : Option LoopTurn
  /-- What the connection did so far. -/
  trace : List ConnEffect

/-- `removeChannel(channel)` of `EventLoop` in the given turn. -/
def EventLoop.removeChannel (turn : Option LoopTurn) (c : Channel) (p : EpollPoller) :
    Except Fault (EpollPoller × Channel) := do
  match turn with
  | some handling =>
    ensure (handling.current == c.address || !handling.active.contains c.address)
      "(m_currentActiveChannel == channel) || (std::find(..) == m_activeChannels.end())"
    p.removeChannel c
  | none => p.removeChannel c

namespace TcpConnection

/-- A connection as `TcpServer::newConnection` leaves it: a new channel for its descriptor, its
callbacks set, and `connectEstablished` on its way to the loop. -/
def new (address : ChannelId) (fd : Int) (poller : EpollPoller) (highWaterMark : Nat)
    (writeComplete highWater : Bool) : Except Fault TcpConnection := do
  let inputBuffer ← Buffer.new kInitialSize
  let outputBuffer ← Buffer.new kInitialSize
  .ok {
    state := .kConnecting
    reading := false
    channel := .new address fd
    inputBuffer
    outputBuffer
    highWaterMark
    hasWriteCompleteCallback := writeComplete
    hasHighWaterMarkCallback := highWater
    poller
    tasks := [.connectEstablished]
    delayed := 0
    turn := none
    trace := [] }

/-- Adds to the trace. -/
def note (c : TcpConnection) (effect : ConnEffect) : TcpConnection :=
  { c with trace := c.trace ++ [effect] }

/-- `m_loop->queueInLoop(task)`. -/
def queueInLoop (c : TcpConnection) (task : ConnTask) : TcpConnection :=
  { c with tasks := c.tasks ++ [task] }

/-- `m_connectionCallback(shared_from_this())`. -/
def connectionCallback (c : TcpConnection) : TcpConnection :=
  c.note (.connectionCallback (c.state == .kConnected))

/-- A change of the interest of `m_channel`. -/
def setInterest (c : TcpConnection) (call : Interest) : Except Fault TcpConnection := do
  let (poller, channel) ← c.channel.change call c.poller
  .ok { c with poller, channel }

/-- The queueing of `m_writeCompleteCallback`, if it is set. -/
def notifyWriteComplete (c : TcpConnection) : TcpConnection :=
  if c.hasWriteCompleteCallback then c.queueInLoop .writeCompleteCallback else c

/-- The direct write of `sendInLoop`: the bytes written, and `faultError`. -/
def directWrite (c : TcpConnection) (data : List UInt8) (len : Nat) (result : WriteResult) :
    Except Fault (TcpConnection × Nat × Bool) := do
  let offered ← load data len
  let written := c.note (.write offered result)
  match result with
  | .accepted nwrote =>
    if sizeSub len nwrote == 0 then
      .ok (written.notifyWriteComplete, nwrote, false)
    else
      .ok (written, nwrote, false)
  | .failed _ _ => .ok (written, 0, result.broken)

/-- The end of `sendInLoop`, which keeps what is not written. -/
def keepRest (c : TcpConnection) (data : List UInt8) (nwrote remaining : Nat) :
    Except Fault TcpConnection := do
  let oldlen := c.outputBuffer.readableBytes
  let warned := if c.highWaterMark ≤ sizeAdd oldlen remaining && oldlen < c.highWaterMark &&
      c.hasHighWaterMarkCallback then
    c.queueInLoop (.highWaterMarkCallback (sizeAdd oldlen remaining)) else c
  let outputBuffer ← warned.outputBuffer.append (data.drop nwrote) remaining
  let kept := { warned with outputBuffer }
  if kept.channel.isWriting then .ok kept else kept.setInterest .enableWriting

/-- `sendInLoop(data, len)`, with the result of the direct write if there is one. -/
def sendInLoop (c : TcpConnection) (data : List UInt8) (len : Nat) (result : WriteResult) :
    Except Fault TcpConnection := do
  if c.state == .kDisconnected then
    .ok (c.note (.sendInLoop (data.take len) c.state false))
  else
    let (written, nwrote, faultError) ←
      (if !c.channel.isWriting && c.outputBuffer.readableBytes == 0 then
        c.directWrite data len result
      else
        .ok (c, 0, false))
    let remaining := sizeSub len nwrote
    ensure (remaining ≤ len) "remaining <= len"
    let kept ← (if !faultError && decide (0 < remaining) then
        written.keepRest data nwrote remaining
      else
        .ok written)
    .ok (kept.note (.sendInLoop (data.take len) c.state faultError))

/-- `sendInLoop(const StringPiece& message)`. -/
def sendInLoopPiece (c : TcpConnection) (message : StringPiece) (result : WriteResult) :
    Except Fault TcpConnection :=
  c.sendInLoop message.data (sizeOfInt message.length) result

/-- `shutdownInLoop()`. -/
def shutdownInLoop (c : TcpConnection) : TcpConnection :=
  if c.channel.isWriting then c else c.note (.shutdownWrite c.outputBuffer.readable)

/-- `handleClose()`. -/
def handleClose (c : TcpConnection) : Except Fault TcpConnection := do
  ensure (c.state == .kConnected || c.state == .kDisconnecting)
    "m_state == kConnected || m_state == kDisconnecting"
  let disabled ← { c with state := .kDisconnected }.setInterest .disableAll
  .ok (disabled.connectionCallback.note .closeCallback)

/-- `forceCloseInLoop()`. -/
def forceCloseInLoop (c : TcpConnection) : Except Fault TcpConnection :=
  if c.state == .kConnected || c.state == .kDisconnecting then c.handleClose else .ok c

/-- `startReadInLoop()`. -/
def startReadInLoop (c : TcpConnection) : Except Fault TcpConnection := do
  if !c.reading || !c.channel.isReading then
    let enabled ← c.setInterest .enableReading
    .ok { enabled with reading := true }
  else
    .ok c

/-- `stopReadInLoop()`. -/
def stopReadInLoop (c : TcpConnection) : Except Fault TcpConnection := do
  if c.reading || c.channel.isReading then
    let disabled ← c.setInterest .disableReading
    .ok { disabled with reading := false }
  else
    .ok c

/-- `connectEstablished()`. -/
def connectEstablished (c : TcpConnection) : Except Fault TcpConnection := do
  ensure (c.state == .kConnecting) "m_state == kConnecting"
  let enabled ← { c with state := .kConnected }.setInterest .enableReading
  .ok enabled.connectionCallback

/-- `m_channel->remove()`. -/
def removeChannel (c : TcpConnection) : Except Fault TcpConnection := do
  ensure c.channel.isNoneEvent "isNoneEvent()"
  let (poller, channel) ←
    EventLoop.removeChannel c.turn { c.channel with addedToLoop := false } c.poller
  .ok { c with poller, channel }

/-- `connectDestroyed()`. -/
def connectDestroyed (c : TcpConnection) : Except Fault TcpConnection := do
  let closed ← (if c.state == .kConnected then do
      let disabled ← { c with state := .kDisconnected }.setInterest .disableAll
      .ok disabled.connectionCallback
    else
      .ok c)
  closed.removeChannel

/-- `handleRead(receiveTime)`, with the result of `readv`. -/
def handleRead (c : TcpConnection) (received : Except Int (List UInt8)) :
    Except Fault TcpConnection := do
  let (inputBuffer, n) ← c.inputBuffer.readFd received
  let read := { c with inputBuffer }
  if 0 < n then
    .ok (read.note .messageCallback)
  else if n = 0 then
    read.handleClose
  else
    .ok read

/-- `handleWrite()`, with the result of `::write`. -/
def handleWrite (c : TcpConnection) (result : WriteResult) : Except Fault TcpConnection := do
  if c.channel.isWriting then
    let written := c.note (.write c.outputBuffer.readable result)
    match result with
    | .accepted n =>
      if 0 < n then
        let outputBuffer ← written.outputBuffer.retrieve n
        let retrieved := { written with outputBuffer }
        if retrieved.outputBuffer.readableBytes == 0 then
          let disabled ← retrieved.setInterest .disableWriting
          let notified := disabled.notifyWriteComplete
          if notified.state == .kDisconnecting then
            .ok notified.shutdownInLoop
          else
            .ok notified
        else
          .ok retrieved
      else
        .ok written
    | .failed _ _ => .ok written
  else
    .ok c

/-- Runs a queued functor. User callbacks do what the steps after this one do. -/
def runTask (c : TcpConnection) (task : ConnTask) (result : WriteResult) :
    Except Fault TcpConnection :=
  match task with
  | .connectEstablished => c.connectEstablished
  | .sendInLoop message => c.sendInLoopPiece (.ofString message) result
  | .shutdownInLoop => .ok c.shutdownInLoop
  | .forceCloseInLoop => c.forceCloseInLoop
  | .startReadInLoop => c.startReadInLoop
  | .stopReadInLoop => c.stopReadInLoop
  | .writeCompleteCallback => .ok c
  | .highWaterMarkCallback _ => .ok c

/-- The thread that makes a call. -/
inductive Caller
  /-- The thread of the connection's loop. -/
  | loop
  /-- Any other thread. -/
  | other
  deriving DecidableEq, Repr

/-- `message.as_string()`. -/
def asString (message : StringPiece) : Except Fault (List UInt8) :=
  if message.length < 0 then .error .lengthError else load message.data message.length.toNat

/-- `send(const StringPiece& message)`. -/
def send (c : TcpConnection) (caller : Caller) (message : StringPiece) (result : WriteResult) :
    Except Fault TcpConnection := do
  if c.state == .kConnected then
    match caller with
    | .loop => c.sendInLoopPiece message result
    | .other =>
      let copy ← asString message
      .ok (c.queueInLoop (.sendInLoop copy))
  else
    .ok c

/-- `send(string&& message)`, and `send(Buffer* message)` for the bytes of the buffer. -/
def sendString (c : TcpConnection) (caller : Caller) (message : List UInt8)
    (result : WriteResult) : Except Fault TcpConnection :=
  if c.state == .kConnected then
    match caller with
    | .loop => c.sendInLoop message message.length result
    | .other => .ok (c.queueInLoop (.sendInLoop message))
  else
    .ok c

/-- `shutdown()`. -/
def shutdown (c : TcpConnection) (caller : Caller) : TcpConnection :=
  if c.state == .kConnected then
    let disconnecting := { c with state := .kDisconnecting }
    match caller with
    | .loop => disconnecting.shutdownInLoop
    | .other => disconnecting.queueInLoop .shutdownInLoop
  else
    c

/-- `forceClose()`. -/
def forceClose (c : TcpConnection) : TcpConnection :=
  if c.state == .kConnected || c.state == .kDisconnecting then
    { c with state := .kDisconnecting }.queueInLoop .forceCloseInLoop
  else
    c

/-- `forceCloseWithDelay(seconds)`. -/
def forceCloseWithDelay (c : TcpConnection) : TcpConnection :=
  if c.state == .kConnected || c.state == .kDisconnecting then
    { c with state := .kDisconnecting, delayed := c.delayed + 1 }
  else
    c

/-- `startRead()`. -/
def startRead (c : TcpConnection) (caller : Caller) : Except Fault TcpConnection :=
  match caller with
  | .loop => c.startReadInLoop
  | .other => .ok (c.queueInLoop .startReadInLoop)

/-- `stopRead()`. -/
def stopRead (c : TcpConnection) (caller : Caller) : Except Fault TcpConnection :=
  match caller with
  | .loop => c.stopReadInLoop
  | .other => .ok (c.queueInLoop .stopReadInLoop)

/-- What happens to a connection. -/
inductive Action
  /-- `send(const StringPiece&)`. -/
  | send (caller : Caller) (message : StringPiece) (result : WriteResult)
  /-- `send(string&&)` or `send(Buffer*)`. -/
  | sendString (caller : Caller) (message : List UInt8) (result : WriteResult)
  /-- `shutdown()`. -/
  | shutdown (caller : Caller)
  /-- `forceClose()`. -/
  | forceClose
  /-- `forceCloseWithDelay(seconds)`. -/
  | forceCloseWithDelay
  /-- `startRead()`. -/
  | startRead (caller : Caller)
  /-- `stopRead()`. -/
  | stopRead (caller : Caller)
  /-- The loop runs the first queued functor. -/
  | task (result : WriteResult)
  /-- A timer of `forceCloseWithDelay` expires. -/
  | timer
  /-- The channel's read callback. -/
  | read (received : Except Int (List UInt8))
  /-- The channel's write callback. -/
  | write (result : WriteResult)
  /-- The channel's close callback. -/
  | close
  /-- The channel's error callback, which only logs. -/
  | error
  /-- The user takes bytes from the input buffer. -/
  | consume (len : Nat)
  /-- The loop turns to another channel, or ends or begins the handling of events. -/
  | turn (next : Option LoopTurn)

/-- The loop handles the events of this connection's channel. -/
def Handling (c : TcpConnection) : Prop :=
  ∃ turn, c.turn = some turn ∧ turn.current = c.channel.address

/-- An action that is possible, with its result. Functors run when no events are handled, except
`connectEstablished`, which may run at once where `newConnection` is called. -/
inductive Attempt : TcpConnection → Action → Except Fault TcpConnection → Prop
  | send {c : TcpConnection} {caller : Caller} {message : StringPiece} {result : WriteResult}
      (fits : result.Fits (sizeOfInt message.length)) :
      Attempt c (.send caller message result) (c.send caller message result)
  | sendString {c : TcpConnection} {caller : Caller} {message : List UInt8} {result : WriteResult}
      (object : message.length ≤ maxSize) (fits : result.Fits message.length) :
      Attempt c (.sendString caller message result) (c.sendString caller message result)
  | shutdown {c : TcpConnection} {caller : Caller} :
      Attempt c (.shutdown caller) (.ok (c.shutdown caller))
  | forceClose {c : TcpConnection} : Attempt c .forceClose (.ok c.forceClose)
  | forceCloseWithDelay {c : TcpConnection} :
      Attempt c .forceCloseWithDelay (.ok c.forceCloseWithDelay)
  | startRead {c : TcpConnection} {caller : Caller} :
      Attempt c (.startRead caller) (c.startRead caller)
  | stopRead {c : TcpConnection} {caller : Caller} :
      Attempt c (.stopRead caller) (c.stopRead caller)
  | task {c : TcpConnection} {task : ConnTask} {rest : List ConnTask} {result : WriteResult}
      (first : c.tasks = task :: rest) (idle : c.turn = none ∨ task = .connectEstablished)
      (fits : ∀ message, task = .sendInLoop message →
        result.Fits (sizeOfInt (StringPiece.ofString message).length)) :
      Attempt c (.task result) ({ c with tasks := rest }.runTask task result)
  | timer {c : TcpConnection} {delayed : Nat} (pending : c.delayed = delayed + 1) :
      Attempt c .timer (.ok { c with delayed }.forceClose)
  | read {c : TcpConnection} {received : Except Int (List UInt8)} (handling : c.Handling)
      (offered : ∀ data, received = .ok data → data.length ≤ c.inputBuffer.readvOffer) :
      Attempt c (.read received) (c.handleRead received)
  | write {c : TcpConnection} {result : WriteResult} (handling : c.Handling)
      (fits : result.Fits c.outputBuffer.readable.length) :
      Attempt c (.write result) (c.handleWrite result)
  | close {c : TcpConnection} (handling : c.Handling) : Attempt c .close c.handleClose
  | error {c : TcpConnection} (handling : c.Handling) : Attempt c .error (.ok c)
  | consume {c : TcpConnection} {len : Nat} :
      Attempt c (.consume len) (do
        let inputBuffer ← c.inputBuffer.retrieve len
        .ok { c with inputBuffer })
  | turn {c : TcpConnection} {next : Option LoopTurn} :
      Attempt c (.turn next) (.ok { c with turn := next })

/-- An action that does not stop the program. -/
def Step (before : TcpConnection) (action : Action) (after : TcpConnection) : Prop :=
  Attempt before action (.ok after)

/-- An attempt that succeeds is a step. -/
theorem Attempt.step {c after : TcpConnection} {action : Action}
    {result : Except Fault TcpConnection} (attempt : Attempt c action result)
    (done : result = .ok after) : Step c action after := by
  rw [done] at attempt
  exact attempt

end TcpConnection

end Muduo
