import Muduo.Base.Fault
import Muduo.Lib.Run
import Muduo.Net.Channel

/-!
# `dc::net::Connector`

A connector with what its functions touch: the functors it queued in its loop, the retry timers, and
the connection it handed over. The loop alternates between the handling of events and the functors
that were pending at the end of it; functors run in the order in which they were queued.

`start`, `stop` and the user's calls on a connection come from any thread, `restart` from the loop
thread. Each call is one step. What a poller does with the channel is modelled with the poller.
-/

open Outcome Transition

namespace Muduo

/-- `EINTR`. -/
def eIntr : Nat := 4
/-- `EAGAIN`. -/
def eAgain : Nat := 11
/-- `EADDRINUSE`. -/
def eAddrInUse : Nat := 98
/-- `ENETUNREACH`. -/
def eNetUnreach : Nat := 101
/-- `EISCONN`. -/
def eIsConn : Nat := 106
/-- `ECONNREFUSED`. -/
def eConnRefused : Nat := 111
/-- `EINPROGRESS`. -/
def eInProgress : Nat := 115

/-- `Connector::State`. -/
inductive ConnectorState
  | kDisconnected
  | kConnecting
  | kConnected
  deriving DecidableEq, Repr

/-- A socket and what `::connect` on it left in `errno`, or `0`. -/
structure ConnectResult where
  /-- The descriptor from `createNonblockingOrDie`. -/
  sockfd : Int
  /-- `saveErrno`. -/
  errno : Nat
  deriving DecidableEq, Repr

/-- The functors that concern a connector. -/
inductive ConnectorTask
  | startInLoop
  | stopInLoop
  /-- `resetChannel`, with the attempt whose channel was removed. -/
  | resetChannel (attempt : Nat)
  /-- `forceCloseInLoop` of the connection of an attempt. -/
  | forceCloseInLoop (attempt : Nat)
  deriving DecidableEq, Repr

/-- The connection of the last attempt. -/
inductive HandedOver
  /-- There is none. -/
  | none
  /-- It was handed over and is open; its channel was polled since, or not. -/
  | opened (polled : Bool)
  /-- It was handed over and is closed. -/
  | closed
  deriving DecidableEq, Repr

/-- `class Connector` with its surroundings. -/
structure Connector where
  /-- `is_connect`. -/
  isConnect : Bool
  /-- `m_state`. -/
  state : ConnectorState
  /-- `m_channel`. The address of a channel is the number of its attempt. -/
  channel : Option Channel
  /-- `m_retryDelayMs`. -/
  retryDelayMs : Nat
  /-- The retry timers that have not fired, with their delays. -/
  timers : List Nat
  /-- `m_pendingFunctors` of the loop. -/
  pending : List ConnectorTask
  /-- The functors that `doPendingFunctors` still has to run. -/
  functors : List ConnectorTask
  /-- The loop handles events. -/
  handling : Bool
  /-- The number of channels made so far. -/
  attempts : Nat
  /-- What became of the last attempt. -/
  connection : HandedOver

namespace Connector

/-- `kMaxRetryDelayMs`. -/
def kMaxRetryDelayMs : Nat := 30 * 1000
/-- `kInitRetryDelayMs`. -/
def kInitRetryDelayMs : Nat := 500

/-- The constructor, before the loop runs. -/
def new : Connector where
  isConnect := false
  state := .kDisconnected
  channel := none
  retryDelayMs := kInitRetryDelayMs
  timers := []
  pending := []
  functors := []
  handling := false
  attempts := 0
  connection := .none

/-- `m_loop->queueInLoop(task)`. -/
def queueInLoop (c : Connector) (task : ConnectorTask) : Connector :=
  { c with pending := c.pending ++ [task] }

/-- The functors in the order in which they will run. -/
def queue (c : Connector) : List ConnectorTask := c.functors ++ c.pending

/-- `connecting(sockfd)`. -/
def connecting (c : Connector) (sockfd : Int) : Except Fault Connector := do
  ensure c.channel.isNone "!m_channel"
  let channel := (Channel.new (c.attempts + 1) sockfd).set .enableWriting
  .ok { c with
    state := .kConnecting
    channel := some { channel with addedToLoop := true }
    attempts := c.attempts + 1 }

/-- `retry(sockfd)`, which has closed the socket. -/
def retry (c : Connector) : Connector :=
  if c.isConnect then
    { c with
      state := .kDisconnected
      timers := c.timers ++ [c.retryDelayMs]
      retryDelayMs := min (c.retryDelayMs * 2) kMaxRetryDelayMs }
  else
    { c with state := .kDisconnected }

/-- `connect()`, with the outcome of the system calls. -/
def connect (c : Connector) (result : ConnectResult) : Except Fault Connector :=
  if result.errno ∈ [0, eInProgress, eIntr, eIsConn] then
    c.connecting result.sockfd
  else if result.errno ∈ [eAgain, eAddrInUse, eConnRefused, eNetUnreach] then
    .ok c.retry
  else
    .ok c

/-- `startInLoop()`. -/
def startInLoop (c : Connector) (result : ConnectResult) : Except Fault Connector := do
  ensure (c.state == .kDisconnected) "m_state == kDisconnected"
  if c.isConnect then c.connect result else .ok c

/-- The thread that makes a call. -/
inductive Caller
  /-- The thread of the loop. -/
  | loop
  /-- Any other thread. -/
  | other
  deriving DecidableEq, Repr

/-- `start()`. -/
def start (c : Connector) (caller : Caller) (result : ConnectResult) : Except Fault Connector :=
  let wanted := { c with isConnect := true }
  match caller with
  | .loop => wanted.startInLoop result
  | .other => .ok (wanted.queueInLoop .startInLoop)

/-- `stop()`. -/
def stop (c : Connector) : Connector := { c with isConnect := false }.queueInLoop .stopInLoop

/-- `restart()`. -/
def restart (c : Connector) (result : ConnectResult) : Except Fault Connector :=
  { c with
    state := .kDisconnected
    retryDelayMs := kInitRetryDelayMs
    isConnect := true
    connection := .none }.startInLoop result

/-- `removeAndResetChannel()`. -/
def removeAndResetChannel (c : Connector) : Except Fault (Connector × Int) :=
  match c.channel with
  | none => .error .nullPointer
  | some channel => do
    let disabled := channel.set .disableAll
    ensure disabled.isNoneEvent "isNoneEvent()"
    let removed := { c with channel := some { disabled with addedToLoop := false } }
    .ok (removed.queueInLoop (.resetChannel channel.address), channel.fd)

/-- `stopInLoop()`. -/
def stopInLoop (c : Connector) : Except Fault Connector := do
  if c.state == .kConnecting then
    let (removed, _) ← { c with state := .kDisconnected }.removeAndResetChannel
    .ok removed.retry
  else
    .ok c

/-- `resetChannel()`, with the assertion of `~Channel`. -/
def resetChannel (c : Connector) : Except Fault Connector := do
  match c.channel with
  | none => .ok c
  | some channel =>
    ensure (!channel.addedToLoop) "!is_addedToLoop"
    .ok { c with channel := none }

/-- `handleWrite()`, with the pending error of the socket and whether it is connected to itself. -/
def handleWrite (c : Connector) (err : Nat) (selfConnect : Bool) : Except Fault Connector := do
  if c.state == .kConnecting then
    let (removed, _) ← c.removeAndResetChannel
    if err ≠ 0 then
      .ok removed.retry
    else if selfConnect then
      .ok removed.retry
    else if removed.isConnect then
      .ok { removed with state := .kConnected, connection := .opened false }
    else
      .ok { removed with state := .kConnected }
  else
    ensure (c.state == .kDisconnected) "m_state == kDisconnected"
    .ok c

/-- `handleError()`. -/
def handleError (c : Connector) : Except Fault Connector := do
  if c.state == .kConnecting then
    let (removed, _) ← c.removeAndResetChannel
    .ok removed.retry
  else
    .ok c

/-- The connection of the last attempt closes. -/
def closeConnection (c : Connector) : Connector :=
  match c.connection with
  | .opened _ => { c with connection := .closed }
  | .none => c
  | .closed => c

/-- Runs a functor, with the outcome of `connect` if it is called. -/
def runTask (c : Connector) (task : ConnectorTask) (result : ConnectResult) :
    Except Fault Connector :=
  match task with
  | .startInLoop => c.startInLoop result
  | .stopInLoop => c.stopInLoop
  | .resetChannel _ => c.resetChannel
  | .forceCloseInLoop attempt => .ok (if attempt = c.attempts then c.closeConnection else c)

/-- The loop polls: what was handed over before is polled from now on. -/
def poll (c : Connector) : Connector :=
  match c.connection with
  | .opened _ => { c with handling := true, connection := .opened true }
  | .none => { c with handling := true }
  | .closed => { c with handling := true }

/-- What happens to a connector. -/
inductive Action
  /-- `start()`. -/
  | start (caller : Caller) (result : ConnectResult)
  /-- `stop()`. -/
  | stop
  /-- `restart()`. -/
  | restart (result : ConnectResult)
  /-- The user calls `forceClose` of the connection. -/
  | forceClose
  /-- An event closes the connection. -/
  | close
  /-- The connecting socket is writable. -/
  | write (err : Nat) (selfConnect : Bool)
  /-- The connecting socket has an error. -/
  | error
  /-- The retry timer at a position fires. -/
  | timer (position : Nat) (result : ConnectResult)
  /-- The functors have run and the loop polls. -/
  | poll
  /-- The events are handled and the loop turns to its functors. -/
  | doPendingFunctors
  /-- The loop runs a functor. -/
  | functor (result : ConnectResult)

/-- The poller watches the connecting socket. -/
def Registered (c : Connector) : Prop :=
  ∃ channel, c.channel = some channel ∧ channel.addedToLoop = true

/-- An action that is possible, with its result. -/
inductive Attempt : Connector → Action → Except Fault Connector → Prop
  | start {c : Connector} {caller : Caller} {result : ConnectResult} :
      Attempt c (.start caller result) (c.start caller result)
  | stop {c : Connector} : Attempt c .stop (.ok c.stop)
  | restart {c : Connector} {result : ConnectResult} (closed : c.connection = .closed) :
      Attempt c (.restart result) (c.restart result)
  | forceClose {c : Connector} {polled : Bool} (opened : c.connection = .opened polled) :
      Attempt c .forceClose (.ok (c.queueInLoop (.forceCloseInLoop c.attempts)))
  | close {c : Connector} (handling : c.handling = true) (opened : c.connection = .opened true) :
      Attempt c .close (.ok c.closeConnection)
  | write {c : Connector} {err : Nat} {selfConnect : Bool} (handling : c.handling = true)
      (registered : c.Registered) :
      Attempt c (.write err selfConnect) (c.handleWrite err selfConnect)
  | error {c : Connector} (handling : c.handling = true) (registered : c.Registered) :
      Attempt c .error c.handleError
  | timer {c : Connector} {position : Nat} {result : ConnectResult} (handling : c.handling = true)
      (scheduled : position < c.timers.length) :
      Attempt c (.timer position result)
        ({ c with timers := c.timers.eraseIdx position }.startInLoop result)
  | poll {c : Connector} (idle : c.handling = false) (done : c.functors = []) :
      Attempt c .poll (.ok c.poll)
  | doPendingFunctors {c : Connector} (handling : c.handling = true) :
      Attempt c .doPendingFunctors
        (.ok { c with handling := false, functors := c.pending, pending := [] })
  | functor {c : Connector} {task : ConnectorTask} {rest : List ConnectorTask}
      {result : ConnectResult} (idle : c.handling = false) (first : c.functors = task :: rest) :
      Attempt c (.functor result) ({ c with functors := rest }.runTask task result)

/-- An action that does not stop the program. -/
def Step (before : Connector) (action : Action) (after : Connector) : Prop :=
  Attempt before action (.ok after)

/-- An attempt that succeeds is a step. -/
theorem Attempt.step {c after : Connector} {action : Action} {result : Except Fault Connector}
    (attempt : Attempt c action result) (done : result = .ok after) : Step c action after := by
  rw [done] at attempt
  exact attempt

end Connector

end Muduo
