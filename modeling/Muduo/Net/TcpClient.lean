import Muduo.Base.Printf
import Muduo.Net.ConnectorRuns

/-!
# `dc::net::TcpClient`

A client with its connector and the connections it made, which are numbered in the order in which
they were made. The client holds one of them in `m_connection`; it lets go of it in the close
callback of the connection, which leaves the connection to a `connectDestroyed` in the loop, and
begins to connect again if it should. A connection is open from `newConnection` to its close
callback.

What a connection does while it is open is modelled with the connection. The functors of the
connector and those of the connections are in the queue of the connector, but for
`connectDestroyed`, which touches neither the client nor the connector.
-/

open Outcome Transition

namespace Muduo

/-- `handleWrite` calls `m_newConnectionCallback`. -/
def Connector.callsBack (c : Connector) (err : Nat) (selfConnect : Bool) : Bool :=
  c.state == .kConnecting && err == 0 && !selfConnect && c.isConnect

/-- A connection of a client. -/
structure ClientConnection where
  /-- `m_name`. -/
  name : List UInt8
  /-- `toIpPort()` of `m_peerAddr`. -/
  peer : List UInt8
  /-- The attempt of the connector that made its socket. -/
  attempt : Nat
  deriving DecidableEq, Repr

/-- `class TcpClient` with its connections. -/
structure TcpClient where
  /-- `m_name`. -/
  name : List UInt8
  /-- `m_connector`. -/
  connector : Connector
  /-- `is_retry`. -/
  isRetry : Bool
  /-- `is_connect`. -/
  isConnect : Bool
  /-- `m_nextConnId`. -/
  nextConnId : Int
  /-- `m_connection`. -/
  connection : Option Nat
  /-- The connections that were made. -/
  made : List ClientConnection
  /-- The open ones. -/
  opened : List Nat
  /-- Those that were open when the loop polled last. -/
  polled : List Nat
  /-- The `connectDestroyed` functors in the loop. -/
  destroys : List Nat
  /-- The connections for which `connectDestroyed` ran. -/
  destroyed : List Nat

namespace TcpClient

/-- `TcpClient(loop, serverAddr, nameArg)`. -/
def new (name : List UInt8) : TcpClient where
  name
  connector := .new
  isRetry := false
  isConnect := true
  nextConnId := 1
  connection := none
  made := []
  opened := []
  polled := []
  destroys := []
  destroyed := []

/-- `connName` in `newConnection`, which is put together in `char buf[32]`. -/
def connName (name peer : List UInt8) (connId : Int) : List UInt8 :=
  name ++ snprintf 32 (bytes ":" ++ peer.takeWhile (· ≠ 0) ++ bytes "#" ++ formatInt connId)

/-- `newConnection(sockfd)`, with `toIpPort()` of the peer. -/
def newConnection (s : TcpClient) (peer : List UInt8) : TcpClient :=
  { s with
    nextConnId := wrapInt (s.nextConnId + 1)
    connection := some s.made.length
    made := s.made ++ [⟨connName s.name peer s.nextConnId, peer, s.connector.attempts⟩]
    opened := s.opened ++ [s.made.length] }

/-- `removeConnection(conn)`, with the outcome of `connect` if the connector is restarted. -/
def removeConnection (s : TcpClient) (i : Nat) (result : ConnectResult) :
    Except Fault TcpClient := do
  ensure (s.connection == some i) "m_connection == conn"
  let removed := { s with connection := none, destroys := s.destroys ++ [i] }
  if removed.isRetry && removed.isConnect then
    let connector ← removed.connector.restart result
    .ok { removed with connector }
  else
    .ok removed

/-- A connection closes, and calls its close callback. -/
def closeConnection (s : TcpClient) (i : Nat) (conn : ClientConnection) (result : ConnectResult) :
    Except Fault TcpClient :=
  let connector :=
    if conn.attempt = s.connector.attempts then s.connector.closeConnection else s.connector
  { s with connector, opened := s.opened.erase i }.removeConnection i result

/-- `connect()`. -/
def connect (s : TcpClient) (caller : Connector.Caller) (result : ConnectResult) :
    Except Fault TcpClient := do
  let connector ← s.connector.start caller result
  .ok { s with isConnect := true, connector }

/-- `disconnect()`; what the `shutdown()` of the connection does is modelled with the connection. -/
def disconnect (s : TcpClient) : TcpClient := { s with isConnect := false }

/-- `stop()`. -/
def stop (s : TcpClient) : TcpClient :=
  { s with isConnect := false, connector := s.connector.stop }

/-- `enableRetry()`. -/
def enableRetry (s : TcpClient) : TcpClient := { s with isRetry := true }

/-- `Connector::handleWrite()`, and `newConnection` if it is called. -/
def handleWrite (s : TcpClient) (err : Nat) (selfConnect : Bool) (peer : List UInt8) :
    Except Fault TcpClient := do
  let connector ← s.connector.handleWrite err selfConnect
  let handled := { s with connector }
  .ok (if s.connector.callsBack err selfConnect then handled.newConnection peer else handled)

/-- The open connection whose socket an attempt made. -/
def openOf (s : TcpClient) (attempt : Nat) : Option (Nat × ClientConnection) :=
  s.opened.findSome? fun i =>
    s.made[i]?.bind fun conn => if conn.attempt = attempt then some (i, conn) else none

/-- Runs a functor of the connector or of a connection. -/
def runTask (s : TcpClient) (task : ConnectorTask) (result : ConnectResult) :
    Except Fault TcpClient :=
  match task with
  | .forceCloseInLoop attempt =>
    match s.openOf attempt with
    | some (i, conn) => s.closeConnection i conn result
    | none => .ok s
  | task => do
    let connector ← s.connector.runTask task result
    .ok { s with connector }

/-- What happens to a client. -/
inductive Action
  /-- `connect()`. -/
  | connect (caller : Connector.Caller) (result : ConnectResult)
  /-- `disconnect()`. -/
  | disconnect
  /-- `stop()`. -/
  | stop
  /-- `enableRetry()`. -/
  | enableRetry
  /-- The user calls `forceClose` of a connection. -/
  | forceClose (i : Nat)
  /-- An event closes a connection. -/
  | close (i : Nat) (result : ConnectResult)
  /-- The connecting socket is writable. -/
  | write (err : Nat) (selfConnect : Bool) (peer : List UInt8)
  /-- The connecting socket has an error. -/
  | error
  /-- A retry timer fires. -/
  | timer (position : Nat) (result : ConnectResult)
  /-- The functors have run and the loop polls. -/
  | poll
  /-- The events are handled and the loop turns to its functors. -/
  | doPendingFunctors
  /-- The loop runs a functor of the connector or of a connection. -/
  | functor (result : ConnectResult)
  /-- The loop runs a `connectDestroyed`. -/
  | connectDestroyed

/-- An action that is possible, with its result. -/
inductive Attempt : TcpClient → Action → Except Fault TcpClient → Prop
  | connect {s : TcpClient} {caller : Connector.Caller} {result : ConnectResult} :
      Attempt s (.connect caller result) (s.connect caller result)
  | disconnect {s : TcpClient} : Attempt s .disconnect (.ok s.disconnect)
  | stop {s : TcpClient} : Attempt s .stop (.ok s.stop)
  | enableRetry {s : TcpClient} : Attempt s .enableRetry (.ok s.enableRetry)
  | forceClose {s : TcpClient} {i : Nat} {conn : ClientConnection} (opened : i ∈ s.opened)
      (found : s.made[i]? = some conn) :
      Attempt s (.forceClose i) (.ok { s with
        connector := s.connector.queueInLoop (.forceCloseInLoop conn.attempt) })
  | close {s : TcpClient} {i : Nat} {conn : ClientConnection} {result : ConnectResult}
      (handling : s.connector.handling = true) (opened : i ∈ s.opened) (polled : i ∈ s.polled)
      (found : s.made[i]? = some conn) :
      Attempt s (.close i result) (s.closeConnection i conn result)
  | write {s : TcpClient} {err : Nat} {selfConnect : Bool} {peer : List UInt8}
      (handling : s.connector.handling = true) (registered : s.connector.Registered) :
      Attempt s (.write err selfConnect peer) (s.handleWrite err selfConnect peer)
  | error {s : TcpClient} (handling : s.connector.handling = true)
      (registered : s.connector.Registered) :
      Attempt s .error (do
        let connector ← s.connector.handleError
        .ok { s with connector })
  | timer {s : TcpClient} {position : Nat} {result : ConnectResult}
      (handling : s.connector.handling = true) (scheduled : position < s.connector.timers.length) :
      Attempt s (.timer position result) (do
        let connector ← { s.connector with
          timers := s.connector.timers.eraseIdx position }.startInLoop result
        .ok { s with connector })
  | poll {s : TcpClient} (idle : s.connector.handling = false) (done : s.connector.functors = []) :
      Attempt s .poll (.ok { s with connector := s.connector.poll, polled := s.opened })
  | doPendingFunctors {s : TcpClient} (handling : s.connector.handling = true) :
      Attempt s .doPendingFunctors (.ok { s with
        connector := { s.connector with
          handling := false, functors := s.connector.pending, pending := [] } })
  | functor {s : TcpClient} {task : ConnectorTask} {rest : List ConnectorTask}
      {result : ConnectResult} (idle : s.connector.handling = false)
      (first : s.connector.functors = task :: rest) :
      Attempt s (.functor result)
        ({ s with connector := { s.connector with functors := rest } }.runTask task result)
  | connectDestroyed {s : TcpClient} {i : Nat} {rest : List Nat}
      (idle : s.connector.handling = false) (first : s.destroys = i :: rest) :
      Attempt s .connectDestroyed
        (.ok { s with destroys := rest, destroyed := s.destroyed ++ [i] })

/-- An action that does not stop the program. -/
def Step (before : TcpClient) (action : Action) (after : TcpClient) : Prop :=
  Attempt before action (.ok after)

/-- An attempt that succeeds is a step. -/
theorem Attempt.step {s after : TcpClient} {action : Action} {result : Except Fault TcpClient}
    (attempt : Attempt s action result) (done : result = .ok after) : Step s action after := by
  rw [done] at attempt
  exact attempt

/-- `connect()` comes when the connector may start, and a retry timer fires only after the channel
of the last attempt is reset. -/
def Careful (s : TcpClient) : Action → Prop
  | .connect caller result => s.connector.Careful (.start caller result)
  | .timer position result => s.connector.Careful (.timer position result)
  | _ => True

end TcpClient

end Muduo
