import Muduo.Lib.Ledger
import Muduo.Net.ConnectorRuns

/-!
# The sockets of a connector

The functions of `Connector` with the system calls on sockets that they make: `connect()` creates a
socket, `sockets::close` closes one, and `m_newConnectionCallback` hands one over to a connection,
which closes it some time later. Without the sockets they are the functions of `Connector`.

While the state is `kConnecting` the channel has the socket of the attempt, so that whoever leaves
this state must close the socket or hand it over. `restart()` does neither.
-/

open Outcome Transition

namespace Muduo

/-- A connector with the sockets that it created. -/
structure SocketConnector where
  /-- The connector. -/
  connector : Connector
  /-- The sockets by descriptor. -/
  sockets : Ledger Int

namespace SocketConnector

/-- The constructor. -/
def new : SocketConnector := { connector := .new, sockets := .new }

/-- `retry(sockfd)`. -/
def retry (k : SocketConnector) (sockfd : Int) : SocketConnector :=
  { connector := k.connector.retry, sockets := k.sockets.close sockfd }

/-- `connect()`, with the outcome of the system calls. -/
def connect (k : SocketConnector) (result : ConnectResult) : Except Fault SocketConnector :=
  let created := k.sockets.create result.sockfd
  if result.errno ∈ [0, eInProgress, eIntr, eIsConn] then do
    let connector ← k.connector.connecting result.sockfd
    .ok { connector, sockets := created }
  else if result.errno ∈ [eAgain, eAddrInUse, eConnRefused, eNetUnreach] then
    .ok (retry { k with sockets := created } result.sockfd)
  else
    .ok { k with sockets := created.close result.sockfd }

/-- `startInLoop()`. -/
def startInLoop (k : SocketConnector) (result : ConnectResult) : Except Fault SocketConnector := do
  ensure (k.connector.state == .kDisconnected) "m_state == kDisconnected"
  if k.connector.isConnect then k.connect result else .ok k

/-- `start()`. -/
def start (k : SocketConnector) (caller : Connector.Caller) (result : ConnectResult) :
    Except Fault SocketConnector :=
  let wanted := { k with connector := { k.connector with isConnect := true } }
  match caller with
  | .loop => wanted.startInLoop result
  | .other => .ok { wanted with connector := wanted.connector.queueInLoop .startInLoop }

/-- `restart()`. -/
def restart (k : SocketConnector) (result : ConnectResult) : Except Fault SocketConnector :=
  let reset := { k.connector with
    state := .kDisconnected
    retryDelayMs := Connector.kInitRetryDelayMs
    isConnect := true
    connection := .none }
  { k with connector := reset }.startInLoop result

/-- `stopInLoop()`. -/
def stopInLoop (k : SocketConnector) : Except Fault SocketConnector := do
  if k.connector.state == .kConnecting then
    let (removed, sockfd) ← { k.connector with state := .kDisconnected }.removeAndResetChannel
    .ok (retry { k with connector := removed } sockfd)
  else
    .ok k

/-- `handleWrite()`, with the pending error of the socket and whether it is connected to itself. -/
def handleWrite (k : SocketConnector) (err : Nat) (selfConnect : Bool) :
    Except Fault SocketConnector := do
  if k.connector.state == .kConnecting then
    let (removed, sockfd) ← k.connector.removeAndResetChannel
    if err ≠ 0 then
      .ok (retry { k with connector := removed } sockfd)
    else if selfConnect then
      .ok (retry { k with connector := removed } sockfd)
    else if removed.isConnect then
      .ok { connector := { removed with state := .kConnected, connection := .opened false }
            sockets := k.sockets.give sockfd }
    else
      .ok { connector := { removed with state := .kConnected }, sockets := k.sockets.close sockfd }
  else
    ensure (k.connector.state == .kDisconnected) "m_state == kDisconnected"
    .ok k

/-- `handleError()`. -/
def handleError (k : SocketConnector) : Except Fault SocketConnector := do
  if k.connector.state == .kConnecting then
    let (removed, sockfd) ← k.connector.removeAndResetChannel
    .ok (retry { k with connector := removed } sockfd)
  else
    .ok k

/-- Runs a functor, with the outcome of `connect` if it is called. -/
def runTask (k : SocketConnector) (task : ConnectorTask) (result : ConnectResult) :
    Except Fault SocketConnector :=
  match task with
  | .startInLoop => k.startInLoop result
  | .stopInLoop => k.stopInLoop
  | .resetChannel attempt => do
    let connector ← k.connector.runTask (.resetChannel attempt) result
    .ok { k with connector }
  | .forceCloseInLoop attempt => do
    let connector ← k.connector.runTask (.forceCloseInLoop attempt) result
    .ok { k with connector }

variable {k after : SocketConnector}

/-- Without the sockets, `connect` is that of the connector. -/
theorem connect_connector (k : SocketConnector) (result : ConnectResult) :
    (k.connect result).map connector = k.connector.connect result := by
  rw [connect, Connector.connect]
  split
  · cases k.connector.connecting result.sockfd <;> rfl
  · split <;> rfl

/-- Without the sockets, `startInLoop` is that of the connector. -/
theorem startInLoop_connector (k : SocketConnector) (result : ConnectResult) :
    (k.startInLoop result).map connector = k.connector.startInLoop result := by
  rw [startInLoop, Connector.startInLoop]
  cases k.connector.state == .kDisconnected with
  | false => rfl
  | true =>
    rw [ensure_true, ok_bind, ok_bind]
    split
    · exact k.connect_connector result
    · rfl

/-- Without the sockets, `start` is that of the connector. -/
theorem start_connector (k : SocketConnector) (caller : Connector.Caller)
    (result : ConnectResult) :
    (k.start caller result).map connector = k.connector.start caller result := by
  cases caller with
  | loop => exact startInLoop_connector _ result
  | other => rfl

/-- Without the sockets, `restart` is that of the connector. -/
theorem restart_connector (k : SocketConnector) (result : ConnectResult) :
    (k.restart result).map connector = k.connector.restart result :=
  startInLoop_connector _ result

/-- Without the sockets, `stopInLoop` is that of the connector. -/
theorem stopInLoop_connector (k : SocketConnector) :
    k.stopInLoop.map connector = k.connector.stopInLoop := by
  rw [stopInLoop, Connector.stopInLoop]
  split
  · cases Connector.removeAndResetChannel _ <;> rfl
  · rfl

/-- Without the sockets, `handleWrite` is that of the connector. -/
theorem handleWrite_connector (k : SocketConnector) (err : Nat) (selfConnect : Bool) :
    (k.handleWrite err selfConnect).map connector = k.connector.handleWrite err selfConnect := by
  rw [handleWrite, Connector.handleWrite]
  split
  · cases k.connector.removeAndResetChannel with
    | error fault => rfl
    | ok result =>
      obtain ⟨removed, sockfd⟩ := result
      rw [ok_bind, ok_bind]
      dsimp only
      split
      · rfl
      · split
        · rfl
        · split <;> rfl
  · cases k.connector.state == .kDisconnected <;> rfl

/-- Without the sockets, `handleError` is that of the connector. -/
theorem handleError_connector (k : SocketConnector) :
    k.handleError.map connector = k.connector.handleError := by
  rw [handleError, Connector.handleError]
  split
  · cases k.connector.removeAndResetChannel <;> rfl
  · rfl

/-- Without the sockets, functors are those of the connector. -/
theorem runTask_connector (k : SocketConnector) (task : ConnectorTask) (result : ConnectResult) :
    (k.runTask task result).map connector = k.connector.runTask task result := by
  cases task with
  | startInLoop => exact k.startInLoop_connector result
  | stopInLoop => exact k.stopInLoop_connector
  | resetChannel attempt =>
    rw [runTask]
    cases k.connector.runTask (.resetChannel attempt) result <;> rfl
  | forceCloseInLoop attempt => rfl

/-- What happens to a connector and its sockets. -/
inductive Action
  /-- Something happens to the connector. -/
  | call (action : Connector.Action)
  /-- A connection closes the socket that was handed over to it. -/
  | release (sockfd : Int)

/-- An action that is possible, with its result. A new socket has a descriptor that is free. -/
inductive Attempt : SocketConnector → Action → Except Fault SocketConnector → Prop
  | start {k : SocketConnector} {caller : Connector.Caller} {result : ConnectResult}
      (free : k.sockets.table result.sockfd = none) :
      Attempt k (.call (.start caller result)) (k.start caller result)
  | stop {k : SocketConnector} :
      Attempt k (.call .stop) (.ok { k with connector := k.connector.stop })
  | restart {k : SocketConnector} {result : ConnectResult}
      (free : k.sockets.table result.sockfd = none) :
      Attempt k (.call (.restart result)) (k.restart result)
  | forceClose {k : SocketConnector} {polled : Bool}
      (opened : k.connector.connection = .opened polled) :
      Attempt k (.call .forceClose) (.ok { k with
        connector := k.connector.queueInLoop (.forceCloseInLoop k.connector.attempts) })
  | close {k : SocketConnector} (handling : k.connector.handling = true)
      (opened : k.connector.connection = .opened true) :
      Attempt k (.call .close) (.ok { k with connector := k.connector.closeConnection })
  | write {k : SocketConnector} {err : Nat} {selfConnect : Bool}
      (handling : k.connector.handling = true) (held : k.connector.channel.isSome) :
      Attempt k (.call (.write err selfConnect)) (k.handleWrite err selfConnect)
  | error {k : SocketConnector} (handling : k.connector.handling = true)
      (held : k.connector.channel.isSome) : Attempt k (.call .error) k.handleError
  | timer {k : SocketConnector} {position : Nat} {result : ConnectResult}
      (handling : k.connector.handling = true) (scheduled : position < k.connector.timers.length)
      (free : k.sockets.table result.sockfd = none) :
      Attempt k (.call (.timer position result)) (startInLoop { k with
        connector := { k.connector with timers := k.connector.timers.eraseIdx position } } result)
  | poll {k : SocketConnector} (idle : k.connector.handling = false)
      (done : k.connector.functors = []) :
      Attempt k (.call .poll) (.ok { k with connector := k.connector.poll })
  | doPendingFunctors {k : SocketConnector} (handling : k.connector.handling = true) :
      Attempt k (.call .doPendingFunctors) (.ok { k with
        connector := { k.connector with
          handling := false
          functors := k.connector.pending
          pending := [] } })
  | functor {k : SocketConnector} {task : ConnectorTask} {rest : List ConnectorTask}
      {result : ConnectResult} (idle : k.connector.handling = false)
      (first : k.connector.functors = task :: rest)
      (free : k.sockets.table result.sockfd = none) :
      Attempt k (.call (.functor result)) (runTask { k with
        connector := { k.connector with functors := rest } } task result)
  | release {k : SocketConnector} {sockfd : Int} {socket : Nat}
      (found : k.sockets.table sockfd = some socket) (given : k.sockets.gifts socket = 1) :
      Attempt k (.release sockfd) (.ok { k with sockets := k.sockets.release sockfd })

/-- An action that does not stop the program. -/
def Step (before : SocketConnector) (action : Action) (after : SocketConnector) : Prop :=
  Attempt before action (.ok after)

/-- The descriptor of the socket that an action may create. -/
def creates : Connector.Action → Option Int
  | .start _ result | .restart result | .timer _ result | .functor result => some result.sockfd
  | _ => none

/-- Whatever the connector can do, it can do with its sockets, when the descriptor of a new socket
is free, and without the sockets the result is the same. -/
theorem Attempt.of_connector {action : Connector.Action} {result : Except Fault Connector}
    (attempt : Connector.Attempt k.connector action result)
    (free : ∀ sockfd ∈ creates action, k.sockets.table sockfd = none) :
    ∃ done, Attempt k (.call action) done ∧ done.map connector = result := by
  cases attempt with
  | start => exact ⟨_, .start (free _ rfl), k.start_connector _ _⟩
  | stop => exact ⟨_, .stop, rfl⟩
  | restart => exact ⟨_, .restart (free _ rfl), k.restart_connector _⟩
  | forceClose opened => exact ⟨_, .forceClose opened, rfl⟩
  | close handling opened => exact ⟨_, .close handling opened, rfl⟩
  | write handling registered =>
    obtain ⟨channel, held, -⟩ := registered
    exact ⟨_, .write handling (Option.isSome_of_eq_some held), k.handleWrite_connector _ _⟩
  | error handling registered =>
    obtain ⟨channel, held, -⟩ := registered
    exact ⟨_, .error handling (Option.isSome_of_eq_some held), k.handleError_connector⟩
  | timer handling scheduled =>
    exact ⟨_, .timer handling scheduled (free _ rfl), startInLoop_connector _ _⟩
  | poll idle done => exact ⟨_, .poll idle done, rfl⟩
  | doPendingFunctors handling => exact ⟨_, .doPendingFunctors handling, rfl⟩
  | functor idle first => exact ⟨_, .functor idle first (free _ rfl), runTask_connector _ _ _⟩

/-- The socket that the channel has while the state is `kConnecting`. -/
def holding (c : Connector) : Option Int :=
  if c.state = .kConnecting then c.channel.map Channel.fd else none

/-- Every socket is held by the channel in `kConnecting`, or was closed once, or was handed over
once, and nothing else was closed or handed over. -/
def Owned (k : SocketConnector) : Prop :=
  k.sockets.stray = 0 ∧
    ∀ socket < k.sockets.opened, k.sockets.Accounted (holding k.connector) socket

/-- `restart()` does not come in `kConnecting`. -/
def Calm (k : SocketConnector) : Action → Prop
  | .call (.restart _) => k.connector.state ≠ .kConnecting
  | _ => True

/-- The poller watches the channel in `kConnecting` only. -/
structure Tidy (c : Connector) : Prop where
  /-- In `kConnecting` a channel is watched. -/
  connecting : c.state = .kConnecting →
    ∃ channel, c.channel = some channel ∧ channel.addedToLoop = true
  /-- In other states none is. -/
  settled : c.state ≠ .kConnecting →
    ∀ channel, c.channel = some channel → channel.addedToLoop = false

/-- The sockets agree with the channel. -/
structure Sound (k : SocketConnector) : Prop where
  /-- The channel. -/
  tidy : Tidy k.connector
  /-- The sockets. -/
  balanced : Ledger.Balanced (holding k.connector) k.sockets

/-- A new connector has no sockets. -/
theorem new_sound : new.Sound where
  tidy := ⟨nofun, nofun⟩
  balanced := Ledger.new_balanced

/-- Every socket of a sound connector is owned. -/
theorem Sound.owned (sound : k.Sound) : k.Owned :=
  ⟨sound.balanced.stray, fun _ before => sound.balanced.account before⟩

/-- Outside `kConnecting` nothing is held. -/
theorem holding_of_ne {c : Connector} (other : c.state ≠ .kConnecting) : holding c = none :=
  if_neg other

/-- What is held in `kConnecting`. -/
theorem holding_of_connecting {c : Connector} {channel : Channel} (state : c.state = .kConnecting)
    (held : c.channel = some channel) : holding c = some channel.fd := by
  rw [holding, if_pos state, held]
  rfl

/-- What concerns neither the state nor the channel keeps the connector sound. -/
theorem Sound.congr (sound : k.Sound) {c : Connector} (state : c.state = k.connector.state)
    (channel : c.channel = k.connector.channel) : Sound { k with connector := c } where
  tidy := by
    constructor
    · rw [state, channel]
      exact sound.tidy.connecting
    · rw [state, channel]
      exact sound.tidy.settled
  balanced := by
    have same : holding c = holding k.connector := by rw [holding, holding, state, channel]
    rw [same]
    exact sound.balanced

/-- The end of an attempt in which the socket is not held any longer. -/
theorem sound_of_ended {c : Connector} {sockets : Ledger Int} (ended : c.state ≠ .kConnecting)
    (settled : ∀ channel, c.channel = some channel → channel.addedToLoop = false)
    (balanced : Ledger.Balanced none sockets) : Sound { connector := c, sockets } where
  tidy := ⟨fun connecting => absurd connecting ended, fun _ => settled⟩
  balanced := by
    rw [holding_of_ne ended]
    exact balanced

/-- `retry` disconnects and leaves the channel. -/
theorem retry_state_channel (c : Connector) :
    c.retry.state = .kDisconnected ∧ c.retry.channel = c.channel := by
  rw [Connector.retry]
  split <;> exact ⟨rfl, rfl⟩

/-- `retry` closes the socket. -/
theorem retry_sound {sockfd : Int}
    (settled : ∀ channel, k.connector.channel = some channel → channel.addedToLoop = false)
    (balanced : Ledger.Balanced (some sockfd) k.sockets) : (k.retry sockfd).Sound := by
  obtain ⟨state, channel⟩ := retry_state_channel k.connector
  refine sound_of_ended ?_ ?_ balanced.close
  · rw [state]
    decide
  · rw [channel]
    exact settled

/-- `startInLoop` closes the socket that it creates, or holds it. -/
theorem startInLoop_sound {result : ConnectResult} (sound : k.Sound)
    (done : k.startInLoop result = .ok after) : after.Sound := by
  obtain ⟨_, down, rest⟩ := bind_eq_ok.mp done
  rw [ensure_eq_ok, beq_iff_eq] at down
  have other : k.connector.state ≠ .kConnecting := by
    rw [down]
    decide
  have settled := sound.tidy.settled other
  have balanced := sound.balanced
  rw [holding_of_ne other] at balanced
  have created := balanced.create result.sockfd
  split at rest
  · rw [connect] at rest
    split at rest
    · obtain ⟨connector, connected, same⟩ := bind_eq_ok.mp rest
      obtain rfl := Except.ok.inj same
      obtain ⟨_, _, rest⟩ := bind_eq_ok.mp connected
      obtain rfl := Except.ok.inj rest
      exact ⟨⟨fun _ => ⟨_, rfl, rfl⟩, fun other => absurd rfl other⟩, created⟩
    · split at rest
      · obtain rfl := Except.ok.inj rest
        exact retry_sound settled created
      · obtain rfl := Except.ok.inj rest
        exact sound_of_ended other settled created.close
  · obtain rfl := Except.ok.inj rest
    exact sound

/-- What `removeAndResetChannel` leaves in `kConnecting`: the channel is removed, and the socket is
open. -/
theorem Sound.removed (sound : k.Sound) (connecting : k.connector.state = .kConnecting)
    {c removed : Connector} {sockfd : Int}
    (done : c.removeAndResetChannel = .ok (removed, sockfd))
    (same : c.channel = k.connector.channel) :
    (∀ channel, removed.channel = some channel → channel.addedToLoop = false) ∧
      Ledger.Balanced (some sockfd) k.sockets := by
  obtain ⟨channel, held, -⟩ := sound.tidy.connecting connecting
  have balanced := sound.balanced
  rw [holding_of_connecting connecting held] at balanced
  rw [Connector.removeAndResetChannel_eq (same.trans held)] at done
  obtain ⟨rfl, rfl⟩ := Prod.mk.inj (Except.ok.inj done)
  refine ⟨fun other there => ?_, balanced⟩
  obtain rfl := Option.some.inj there
  rfl

/-- Whoever removes the channel in `kConnecting` and retries closes the socket. -/
theorem Sound.retried (sound : k.Sound) (connecting : k.connector.state = .kConnecting)
    {c removed : Connector} {sockfd : Int}
    (done : c.removeAndResetChannel = .ok (removed, sockfd))
    (same : c.channel = k.connector.channel) :
    (retry { k with connector := removed } sockfd).Sound := by
  obtain ⟨settled, balanced⟩ := sound.removed connecting done same
  exact retry_sound settled balanced

/-- `stopInLoop` closes the socket of an attempt. -/
theorem stopInLoop_sound (sound : k.Sound) (done : k.stopInLoop = .ok after) : after.Sound := by
  rw [stopInLoop] at done
  split at done
  next connecting =>
    obtain ⟨⟨removed, sockfd⟩, gone, rest⟩ := bind_eq_ok.mp done
    obtain rfl := Except.ok.inj rest
    exact sound.retried (beq_iff_eq.mp connecting) gone rfl
  next =>
    obtain rfl := Except.ok.inj done
    exact sound

/-- `handleError` closes the socket of an attempt. -/
theorem handleError_sound (sound : k.Sound) (done : k.handleError = .ok after) : after.Sound := by
  rw [handleError] at done
  split at done
  next connecting =>
    obtain ⟨⟨removed, sockfd⟩, gone, rest⟩ := bind_eq_ok.mp done
    obtain rfl := Except.ok.inj rest
    exact sound.retried (beq_iff_eq.mp connecting) gone rfl
  next =>
    obtain rfl := Except.ok.inj done
    exact sound

/-- `handleWrite` closes the socket of an attempt or hands it over. -/
theorem handleWrite_sound {err : Nat} {selfConnect : Bool} (sound : k.Sound)
    (done : k.handleWrite err selfConnect = .ok after) : after.Sound := by
  rw [handleWrite] at done
  split at done
  next connecting =>
    obtain ⟨⟨removed, sockfd⟩, gone, rest⟩ := bind_eq_ok.mp done
    have retried := sound.retried (beq_iff_eq.mp connecting) gone rfl
    obtain ⟨settled, balanced⟩ := sound.removed (beq_iff_eq.mp connecting) gone rfl
    dsimp only at rest
    split at rest
    · obtain rfl := Except.ok.inj rest
      exact retried
    split at rest
    · obtain rfl := Except.ok.inj rest
      exact retried
    split at rest
    · obtain rfl := Except.ok.inj rest
      exact sound_of_ended nofun settled balanced.give
    · obtain rfl := Except.ok.inj rest
      exact sound_of_ended nofun settled balanced.close
  next =>
    obtain ⟨_, _, rest⟩ := bind_eq_ok.mp done
    obtain rfl := Except.ok.inj rest
    exact sound

/-- The end of a connection concerns neither the state nor the channel. -/
theorem closeConnection_state_channel (c : Connector) :
    c.closeConnection.state = c.state ∧ c.closeConnection.channel = c.channel := by
  rw [Connector.closeConnection]
  split <;> exact ⟨rfl, rfl⟩

/-- Functors keep a connector sound. -/
theorem runTask_sound {task : ConnectorTask} {result : ConnectResult} (sound : k.Sound)
    (done : k.runTask task result = .ok after) : after.Sound := by
  cases task with
  | startInLoop => exact startInLoop_sound sound done
  | stopInLoop => exact stopInLoop_sound sound done
  | resetChannel attempt =>
    obtain ⟨connector, reset, rest⟩ := bind_eq_ok.mp done
    obtain rfl := Except.ok.inj rest
    change k.connector.resetChannel = .ok connector at reset
    rw [Connector.resetChannel] at reset
    cases held : k.connector.channel with
    | none =>
      rw [held] at reset
      obtain rfl := Except.ok.inj reset
      exact sound
    | some channel =>
      rw [held] at reset
      obtain ⟨_, removed, rest⟩ := bind_eq_ok.mp reset
      obtain rfl := Except.ok.inj rest
      rw [ensure_eq_ok, Bool.not_eq_true'] at removed
      have ended : k.connector.state ≠ .kConnecting := by
        intro connecting
        obtain ⟨watched, there, added⟩ := sound.tidy.connecting connecting
        obtain rfl := Option.some.inj (held.symm.trans there)
        rw [added] at removed
        cases removed
      have balanced := sound.balanced
      rw [holding_of_ne ended] at balanced
      exact sound_of_ended ended nofun balanced
  | forceCloseInLoop attempt =>
    obtain ⟨connector, closed, rest⟩ := bind_eq_ok.mp done
    obtain rfl := Except.ok.inj rest
    obtain rfl := Except.ok.inj closed
    split
    · exact sound.congr (closeConnection_state_channel _).1 (closeConnection_state_channel _).2
    · exact sound

/-- An action keeps a connector sound unless it is a `restart()` in `kConnecting`. -/
theorem Attempt.sound {action : Action} {result : Except Fault SocketConnector}
    (attempt : Attempt k action result) (sound : k.Sound) (calm : k.Calm action)
    (done : result = .ok after) : after.Sound := by
  cases attempt with
  | @start caller =>
    cases caller with
    | loop =>
      refine startInLoop_sound ?_ done
      exact sound.congr rfl rfl
    | other =>
      obtain rfl := Except.ok.inj done
      exact sound.congr rfl rfl
  | stop =>
    obtain rfl := Except.ok.inj done
    exact sound.congr rfl rfl
  | restart =>
    have balanced := sound.balanced
    rw [holding_of_ne calm] at balanced
    refine startInLoop_sound ?_ done
    exact sound_of_ended nofun (sound.tidy.settled calm) balanced
  | forceClose =>
    obtain rfl := Except.ok.inj done
    exact sound.congr rfl rfl
  | close =>
    obtain rfl := Except.ok.inj done
    exact sound.congr (closeConnection_state_channel _).1 (closeConnection_state_channel _).2
  | write => exact handleWrite_sound sound done
  | error => exact handleError_sound sound done
  | timer =>
    refine startInLoop_sound ?_ done
    exact sound.congr rfl rfl
  | poll =>
    obtain rfl := Except.ok.inj done
    refine sound.congr ?_ ?_ <;> rw [Connector.poll] <;> split <;> rfl
  | doPendingFunctors =>
    obtain rfl := Except.ok.inj done
    exact sound.congr rfl rfl
  | functor =>
    refine runTask_sound ?_ done
    exact sound.congr rfl rfl
  | release found given =>
    obtain rfl := Except.ok.inj done
    exact ⟨sound.tidy, sound.balanced.release found given⟩

/-- A socket that is created and closed at once leaves the others as they are. -/
theorem created_closed (sockets : Ledger Int) (sockfd : Int) {socket : Nat}
    (old : socket ≠ sockets.opened) :
    ((sockets.create sockfd).close sockfd).closes socket = sockets.closes socket ∧
      ((sockets.create sockfd).close sockfd).gifts socket = sockets.gifts socket ∧
      ((sockets.create sockfd).close sockfd).opened = sockets.opened + 1 := by
  have found : (sockets.create sockfd).table sockfd = some sockets.opened :=
    Function.update_self _ _ _
  rw [Ledger.close, found]
  exact ⟨Function.update_of_ne old _ _, rfl, rfl⟩

/-- `restart()` in `kConnecting` leaves the socket of the attempt to nobody. -/
theorem restart_leaks {result : ConnectResult} (sound : k.Sound)
    (connecting : k.connector.state = .kConnecting) (done : k.restart result = .ok after) :
    ¬after.Owned := by
  obtain ⟨channel, held, -⟩ := sound.tidy.connecting connecting
  have balanced := sound.balanced
  rw [holding_of_connecting connecting held] at balanced
  obtain ⟨socket, found⟩ := balanced.live rfl
  obtain ⟨before, unclosed, kept⟩ := balanced.held found
  obtain ⟨closes, gifts, opened⟩ :=
    created_closed k.sockets result.sockfd (Nat.ne_of_lt before)
  obtain ⟨_, _, rest⟩ := bind_eq_ok.mp done
  have ended : after.connector.state = .kDisconnected ∧
      after.sockets = (k.sockets.create result.sockfd).close result.sockfd := by
    rw [if_pos rfl, connect] at rest
    split at rest
    · obtain ⟨connector, connected, -⟩ := bind_eq_ok.mp rest
      obtain ⟨_, bare, -⟩ := bind_eq_ok.mp connected
      rw [ensure_eq_ok, held] at bare
      cases bare
    · split at rest
      · obtain rfl := Except.ok.inj rest
        exact ⟨(retry_state_channel _).1, rfl⟩
      · obtain rfl := Except.ok.inj rest
        exact ⟨rfl, rfl⟩
  obtain ⟨state, sockets⟩ := ended
  rintro ⟨-, account⟩
  rw [sockets, opened, holding_of_ne (by rw [state]; decide)] at account
  obtain ⟨-, -, _, impossible, -⟩ | ⟨once, -⟩ := account socket (Nat.lt_succ_of_lt before)
  · cases impossible
  · rw [closes, gifts, unclosed, kept] at once
    omega

/-- An action that leaves every socket owned is not a `restart()` in `kConnecting`. -/
theorem Attempt.calm {action : Action} {result : Except Fault SocketConnector}
    (attempt : Attempt k action result) (sound : k.Sound) (done : result = .ok after)
    (owned : after.Owned) : k.Calm action := by
  cases attempt with
  | restart =>
    intro connecting
    exact restart_leaks sound connecting done owned
  | _ => trivial

/-- The runs of a connector along which every socket is owned after every action are those in which
no `restart()` comes in `kConnecting`. -/
theorem sockets_owned_iff (actions : List Action) (last : SocketConnector) :
    Run (Reaching Step Owned) new actions last ↔ Run (Guarded Step Calm) new actions last := by
  refine Run.reaching_iff new_sound ?_ ?_
  · intro before action after sound stepped
    exact ⟨Attempt.calm stepped sound rfl,
      fun calm => (Attempt.sound stepped sound calm rfl).owned⟩
  · rintro before action after sound ⟨stepped, calm⟩
    exact Attempt.sound stepped sound calm rfl

/-- `restart()` while the first attempt is in progress, with a `connect` that is refused: the
channel of the first attempt keeps its socket, which is open, in `kDisconnected`. -/
theorem restart_connecting_leaks :
    ∃ last, Run Step new [.call (.start .loop ⟨7, eInProgress⟩),
        .call (.restart ⟨8, eConnRefused⟩)] last ∧
      last.connector.state = .kDisconnected ∧
      last.connector.channel.map Channel.fd = some 7 ∧ last.sockets.table 7 = some 0 ∧
      last.sockets.closes 0 = 0 ∧ last.sockets.gifts 0 = 0 ∧ ¬last.Owned := by
  have ran : ∃ last, Run Step new [.call (.start .loop ⟨7, eInProgress⟩),
      .call (.restart ⟨8, eConnRefused⟩)] last ∧ last.connector.state = .kDisconnected ∧
      last.connector.channel.map Channel.fd = some 7 ∧ last.sockets.table 7 = some 0 ∧
      last.sockets.opened = 2 ∧ last.sockets.closes 0 = 0 ∧ last.sockets.gifts 0 = 0 :=
    ⟨_, .cons (Attempt.start rfl) (.cons (Attempt.restart rfl) (.nil _)), rfl, rfl, rfl, rfl, rfl,
      rfl⟩
  obtain ⟨last, run, state, channel, found, opened, closes, gifts⟩ := ran
  refine ⟨last, run, state, channel, found, closes, gifts, fun owned => ?_⟩
  have account := owned.2 0 (by omega)
  rw [Ledger.Accounted, holding_of_ne (by rw [state]; decide), closes, gifts] at account
  simp at account

end SocketConnector

end Muduo
