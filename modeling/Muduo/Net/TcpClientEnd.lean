import Muduo.Net.TcpClientRuns

/-!
# The end of a `TcpClient`

`~TcpClient()` in the thread of the loop. A client that has a connection leaves it with
`detail::removeConnection` as its close callback, and lets go of its connector. One that has none
stops its connector and keeps it for a second in the timer of `removeConnector`, which stops it once
more. A retry timer keeps the connector too; the functors of the connector and its channel do not.
When nobody keeps it any longer it is deleted, and a functor of it that runs after that touches
memory that is freed.

The user calls no function of a client that is destroyed, and may still close its connection. The
user also keeps a pointer to an open connection that nobody else keeps: the assertion of
`~TcpConnection()` is left out.
-/

open Outcome Transition

namespace Muduo

/-- A client that may be destroyed. -/
structure MortalClient where
  /-- The client with its connector and its connections. -/
  client : TcpClient
  /-- The client is not destroyed. -/
  alive : Bool
  /-- The connector is not deleted. -/
  connectorAlive : Bool
  /-- The timers of `removeConnector` that have not fired. -/
  removers : Nat

/-- What happens. -/
inductive MortalClient.Action
  /-- What happens to a client, its connector and its connections. -/
  | client (action : TcpClient.Action)
  /-- `~TcpClient()`. The user holds no pointer to the connection if the client's is `unique`. -/
  | destroy (unique : Bool)
  /-- The timer of `removeConnector` fires. -/
  | remove

namespace Connector

variable {c after : Connector}

/-- What the functions of a connector leave as it is: the functors that run, the phase of the loop,
and the timers of a connector that is not wanted. -/
structure Leaves (c after : Connector) : Prop where
  /-- The functors that run. -/
  functors : after.functors = c.functors
  /-- The phase of the loop. -/
  handling : after.handling = c.handling
  /-- No timer is scheduled. -/
  unwanted : c.isConnect = false → after.isConnect = false ∧ after.timers = c.timers

/-- One after the other. -/
theorem Leaves.trans {middle : Connector} (first : c.Leaves middle) (second : middle.Leaves after) :
    c.Leaves after where
  functors := second.functors.trans first.functors
  handling := second.handling.trans first.handling
  unwanted off := by
    obtain ⟨still, timers⟩ := first.unwanted off
    obtain ⟨last, same⟩ := second.unwanted still
    exact ⟨last, same.trans timers⟩

/-- `retry()`. -/
theorem retry_leaves (c : Connector) : c.Leaves c.retry := by
  rw [retry]
  split
  · exact ⟨rfl, rfl, fun off => by simp_all⟩
  · exact ⟨rfl, rfl, fun off => ⟨off, rfl⟩⟩

/-- `removeAndResetChannel()`. -/
theorem removeAndResetChannel_leaves {fd : Int}
    (done : c.removeAndResetChannel = .ok (after, fd)) : c.Leaves after := by
  rw [removeAndResetChannel.eq_def] at done
  split at done
  · cases done
  · obtain ⟨_, -, rest⟩ := bind_eq_ok.mp done
    cases rest
    exact ⟨rfl, rfl, fun off => ⟨off, rfl⟩⟩

/-- `startInLoop()`. -/
theorem startInLoop_leaves {result : ConnectResult} (done : c.startInLoop result = .ok after) :
    c.Leaves after := by
  obtain ⟨_, -, rest⟩ := bind_eq_ok.mp done
  split at rest
  next wanted =>
    have on {P : Prop} (off : c.isConnect = false) : P := by
      rw [wanted] at off
      cases off
    rw [connect] at rest
    split at rest
    · obtain ⟨_, -, last⟩ := bind_eq_ok.mp rest
      cases last
      exact ⟨rfl, rfl, on⟩
    · split at rest
      · cases rest
        exact c.retry_leaves
      · cases rest
        exact ⟨rfl, rfl, on⟩
  next =>
    cases rest
    exact ⟨rfl, rfl, fun off => ⟨off, rfl⟩⟩

/-- A functor. -/
theorem runTask_leaves {task : ConnectorTask} {result : ConnectResult}
    (done : c.runTask task result = .ok after) : c.Leaves after := by
  cases task with
  | startInLoop => exact startInLoop_leaves done
  | stopInLoop =>
    rw [runTask, stopInLoop] at done
    split at done
    · obtain ⟨⟨removed, fd⟩, removing, rest⟩ := bind_eq_ok.mp done
      cases rest
      have first : c.Leaves { c with state := .kDisconnected } :=
        ⟨rfl, rfl, fun off => ⟨off, rfl⟩⟩
      exact (first.trans (removeAndResetChannel_leaves removing)).trans removed.retry_leaves
    · cases done
      exact ⟨rfl, rfl, fun off => ⟨off, rfl⟩⟩
  | resetChannel attempt =>
    rw [runTask, resetChannel.eq_def] at done
    split at done
    · cases done
      exact ⟨rfl, rfl, fun off => ⟨off, rfl⟩⟩
    · obtain ⟨_, -, rest⟩ := bind_eq_ok.mp done
      cases rest
      exact ⟨rfl, rfl, fun off => ⟨off, rfl⟩⟩
  | forceCloseInLoop attempt =>
    rw [runTask] at done
    cases done
    split
    · rw [closeConnection]
      split
      · exact ⟨rfl, rfl, fun off => ⟨off, rfl⟩⟩
      · exact ⟨rfl, rfl, fun off => ⟨off, rfl⟩⟩
      · exact ⟨rfl, rfl, fun off => ⟨off, rfl⟩⟩
    · exact ⟨rfl, rfl, fun off => ⟨off, rfl⟩⟩

end Connector

namespace MortalClient

/-- A client that is not destroyed. -/
def living (client : TcpClient) : MortalClient := ⟨client, true, true, 0⟩

/-- The connector is deleted if neither the client nor a timer keeps it, with the assertion of
`~Connector`. -/
def release (s : MortalClient) : Except Fault MortalClient := do
  if s.connectorAlive && !s.alive && s.removers == 0 && s.client.connector.timers.isEmpty then
    ensure s.client.connector.channel.isNone "!m_channel"
    return { s with connectorAlive := false }
  else
    return s

/-- `~TcpClient()`. The open connection is connected, so `forceClose` queues its functor. -/
def destroy (s : MortalClient) (unique : Bool) : Except Fault MortalClient :=
  match s.client.connection with
  | some _ =>
    let connector :=
      if unique then s.client.connector.queueInLoop (.forceCloseInLoop s.client.connector.attempts)
      else s.client.connector
    { s with client := { s.client with connector, connection := none }, alive := false }.release
  | none =>
    { s with
      client := { s.client with connector := s.client.connector.stop }
      alive := false
      removers := s.removers + 1 }.release

/-- The timer of `removeConnector` fires and is deleted. -/
def remove (s : MortalClient) : Except Fault MortalClient :=
  { s with
    client := { s.client with connector := s.client.connector.stop }
    removers := s.removers - 1 }.release

/-- A connection closes whose close callback is `detail::removeConnection`. -/
def closeConnection (s : TcpClient) (i : Nat) (conn : ClientConnection) : TcpClient :=
  let connector :=
    if conn.attempt = s.connector.attempts then s.connector.closeConnection else s.connector
  { s with connector, opened := s.opened.erase i, destroys := s.destroys ++ [i] }

/-- `Connector::handleWrite()` without a client to call back. -/
def handleWrite (s : MortalClient) (err : Nat) (selfConnect : Bool) :
    Except Fault MortalClient := do
  let connector ← s.client.connector.handleWrite err selfConnect
  if s.client.connector.callsBack err selfConnect then .error .useAfterFree
  else return { s with client := { s.client with connector } }

/-- A functor of the connector is bound to it by a plain pointer. -/
def useConnector (s : MortalClient) : Except Fault Unit :=
  if s.connectorAlive then .ok () else .error .useAfterFree

/-- A functor of the connector. -/
def runOwn (s : MortalClient) (task : ConnectorTask) (result : ConnectResult) :
    Except Fault MortalClient := do
  s.useConnector
  let connector ← s.client.connector.runTask task result
  return { s with client := { s.client with connector } }

/-- A functor runs after the client is destroyed. -/
def runTask (s : MortalClient) (task : ConnectorTask) (result : ConnectResult) :
    Except Fault MortalClient :=
  match task with
  | .forceCloseInLoop attempt =>
    match s.client.openOf attempt with
    | some (i, conn) => .ok { s with client := closeConnection s.client i conn }
    | none => .ok s
  | task => s.runOwn task result

/-- What the user may do after the client is destroyed, and what the loop does. -/
inductive Orphaned (s : MortalClient) : TcpClient.Action → Except Fault MortalClient → Prop
  /-- The user calls `forceClose` of a connection. -/
  | forceClose {i : Nat} {conn : ClientConnection} (opened : i ∈ s.client.opened)
      (found : s.client.made[i]? = some conn) :
      Orphaned s (.forceClose i) (.ok { s with client := { s.client with
        connector := s.client.connector.queueInLoop (.forceCloseInLoop conn.attempt) } })
  /-- An event closes a connection. -/
  | close {i : Nat} {conn : ClientConnection} {result : ConnectResult}
      (handling : s.client.connector.handling = true) (opened : i ∈ s.client.opened)
      (polled : i ∈ s.client.polled) (found : s.client.made[i]? = some conn) :
      Orphaned s (.close i result) (.ok { s with client := closeConnection s.client i conn })
  /-- The connecting socket is writable. -/
  | write {err : Nat} {selfConnect : Bool} {peer : List UInt8}
      (handling : s.client.connector.handling = true)
      (registered : s.client.connector.Registered) :
      Orphaned s (.write err selfConnect peer) (s.handleWrite err selfConnect)
  /-- The connecting socket has an error. -/
  | error (handling : s.client.connector.handling = true)
      (registered : s.client.connector.Registered) :
      Orphaned s .error (do
        let connector ← s.client.connector.handleError
        return { s with client := { s.client with connector } })
  /-- A retry timer fires and is deleted. -/
  | timer {position : Nat} {result : ConnectResult}
      (handling : s.client.connector.handling = true)
      (scheduled : position < s.client.connector.timers.length) :
      Orphaned s (.timer position result) (do
        let connector ← { s.client.connector with
          timers := s.client.connector.timers.eraseIdx position }.startInLoop result
        { s with client := { s.client with connector } }.release)
  /-- The loop polls. -/
  | poll (idle : s.client.connector.handling = false) (done : s.client.connector.functors = []) :
      Orphaned s .poll (.ok { s with client := { s.client with
        connector := s.client.connector.poll, polled := s.client.opened } })
  /-- The loop turns to its functors. -/
  | doPendingFunctors (handling : s.client.connector.handling = true) :
      Orphaned s .doPendingFunctors (.ok { s with client := { s.client with
        connector := { s.client.connector with
          handling := false, functors := s.client.connector.pending, pending := [] } } })
  /-- The loop runs a functor. -/
  | functor {task : ConnectorTask} {rest : List ConnectorTask} {result : ConnectResult}
      (idle : s.client.connector.handling = false)
      (first : s.client.connector.functors = task :: rest) :
      Orphaned s (.functor result)
        (runTask { s with client := { s.client with
          connector := { s.client.connector with functors := rest } } } task result)
  /-- The loop runs a `connectDestroyed`. -/
  | connectDestroyed {i : Nat} {rest : List Nat} (idle : s.client.connector.handling = false)
      (first : s.client.destroys = i :: rest) :
      Orphaned s .connectDestroyed (.ok { s with client := { s.client with
        destroys := rest, destroyed := s.client.destroyed ++ [i] } })

/-- An action that is possible, with its result. -/
inductive Attempt (s : MortalClient) : Action → Except Fault MortalClient → Prop
  /-- The client is not destroyed. -/
  | living {action : TcpClient.Action} {result : Except Fault TcpClient} (alive : s.alive = true)
      (attempt : s.client.Attempt action result) :
      Attempt s (.client action) (result.map fun client => { s with client })
  /-- The client is destroyed. -/
  | orphaned {action : TcpClient.Action} {result : Except Fault MortalClient}
      (destroyed : s.alive = false) (attempt : s.Orphaned action result) :
      Attempt s (.client action) result
  /-- `~TcpClient()`. -/
  | destroy {unique : Bool} (alive : s.alive = true) :
      Attempt s (.destroy unique) (s.destroy unique)
  /-- The timer of `removeConnector`. -/
  | remove (handling : s.client.connector.handling = true) (scheduled : 0 < s.removers) :
      Attempt s .remove s.remove

/-- An action that does not stop the program. -/
def Step (before : MortalClient) (action : Action) (after : MortalClient) : Prop :=
  Attempt before action (.ok after)

/-- No run from here comes to an action that stops the program. -/
def Safe (s : MortalClient) : Prop :=
  ∀ actions after, Run Step s actions after →
    ∀ action result, Attempt after action result → ∃ next, result = .ok next

/-- A functor that touches no connector. -/
def Foreign (task : ConnectorTask) : Prop := ∃ attempt, task = .forceCloseInLoop attempt

variable {s after : MortalClient} {action : Action} {result : Except Fault MortalClient}

/-- A step from a safe state leads to a safe one. -/
theorem Safe.step (safe : s.Safe) (step : Step s action after) : after.Safe :=
  fun actions last run => safe (action :: actions) last (.cons step run)

/-- An attempt in a safe state succeeds, and leads to a safe one. -/
theorem Safe.attempt (safe : s.Safe) (attempt : Attempt s action result) :
    ∃ next, result = .ok next ∧ next.Safe := by
  obtain ⟨next, done⟩ := safe [] s (.nil s) action result attempt
  rw [done] at attempt
  exact ⟨next, done, safe.step attempt⟩

/-- The client and the connector are gone, and nothing of them will run. -/
structure Gone (s : MortalClient) : Prop where
  /-- The client is destroyed. -/
  client : s.alive = false
  /-- The connector is deleted. -/
  connector : s.connectorAlive = false
  /-- Nothing would keep it. -/
  removers : s.removers = 0
  /-- No retry timer. -/
  timers : s.client.connector.timers = []
  /-- No channel. -/
  channel : s.client.connector.channel = none
  /-- No functor. -/
  queue : ∀ task ∈ s.client.connector.queue, Foreign task
  /-- Every connection is open, waits for its end, or has come to it. -/
  parts : (s.client.opened ++ s.client.destroys ++ s.client.destroyed).Perm
    (List.range s.client.made.length)

/-- Closing a connection touches no member of the connector. -/
theorem closeConnection_connector (s : TcpClient) (i : Nat) (conn : ClientConnection) :
    ∃ connection, (closeConnection s i conn).connector = { s.connector with connection } := by
  unfold closeConnection
  dsimp only
  split
  · rw [Connector.closeConnection]
    split
    · exact ⟨.closed, rfl⟩
    · exact ⟨_, rfl⟩
    · exact ⟨_, rfl⟩
  · exact ⟨_, rfl⟩

/-- Polling touches no member of the connector. -/
theorem poll_connector (c : Connector) :
    ∃ connection, c.poll = { c with handling := true, connection } := by
  rw [Connector.poll]
  split
  · exact ⟨_, rfl⟩
  · exact ⟨_, rfl⟩
  · exact ⟨_, rfl⟩

/-- Only the timers, the channel, the functors and the connections count. -/
theorem Gone.congr (gone : s.Gone) {client : TcpClient}
    (timers : client.connector.timers = s.client.connector.timers)
    (channel : client.connector.channel = s.client.connector.channel)
    (queue : ∀ task ∈ client.connector.queue, Foreign task)
    (parts : (client.opened ++ client.destroys ++ client.destroyed).Perm
      (List.range client.made.length)) : Gone { s with client } where
  client := gone.client
  connector := gone.connector
  removers := gone.removers
  timers := timers.trans gone.timers
  channel := channel.trans gone.channel
  queue := queue
  parts := parts

/-- A connection that closes waits for its end. -/
theorem Gone.closes (gone : s.Gone) {i : Nat} {conn : ClientConnection}
    (opened : i ∈ s.client.opened) :
    Gone { s with client := closeConnection s.client i conn } := by
  obtain ⟨connection, same⟩ := closeConnection_connector s.client i conn
  apply gone.congr
  · rw [same]
  · rw [same]
  · rw [same]
    exact gone.queue
  · change (s.client.opened.erase i ++ (s.client.destroys ++ [i]) ++ s.client.destroyed).Perm _
    refine .trans (List.Perm.append_right _ ?_) gone.parts
    have back := (List.perm_cons_erase opened).symm
    rw [← List.append_assoc]
    refine (List.perm_append_singleton i _).trans ?_
    exact back.append_right s.client.destroys

/-- Without a channel nothing is registered. -/
theorem Gone.unregistered (gone : s.Gone) : ¬ s.client.connector.Registered := by
  rintro ⟨channel, held, -⟩
  rw [gone.channel] at held
  cases held

/-- Nothing can go wrong any more. -/
theorem Gone.attempt (gone : s.Gone) (attempt : Attempt s action result) :
    ∃ next, result = .ok next ∧ next.Gone := by
  cases attempt with
  | living alive =>
    rw [gone.client] at alive
    cases alive
  | destroy alive =>
    rw [gone.client] at alive
    cases alive
  | remove handling scheduled =>
    rw [gone.removers] at scheduled
    cases scheduled
  | orphaned destroyed attempt =>
    cases attempt with
    | @forceClose i conn opened found =>
      refine ⟨_, rfl, gone.congr rfl rfl (fun task member => ?_) gone.parts⟩
      simp only [Connector.queue, Connector.queueInLoop, ← List.append_assoc] at member
      obtain earlier | now := List.mem_append.mp member
      · exact gone.queue task earlier
      · exact ⟨conn.attempt, List.mem_singleton.mp now⟩
    | @close i conn _ handling opened polled found =>
      exact ⟨_, rfl, gone.closes opened⟩
    | write handling registered => exact absurd registered gone.unregistered
    | error handling registered => exact absurd registered gone.unregistered
    | timer handling scheduled =>
      rw [gone.timers] at scheduled
      cases scheduled
    | poll idle done =>
      obtain ⟨connection, same⟩ := poll_connector s.client.connector
      refine ⟨_, rfl, gone.congr ?_ ?_ ?_ gone.parts⟩
      · rw [same]
      · rw [same]
      · rw [same]
        exact gone.queue
    | doPendingFunctors handling =>
      refine ⟨_, rfl, gone.congr rfl rfl (fun task member => ?_) gone.parts⟩
      simp only [Connector.queue, List.append_nil] at member
      exact gone.queue task (List.mem_append_right _ member)
    | @functor task rest outcome idle first =>
      have left : ∀ other ∈ rest ++ s.client.connector.pending, Foreign other := by
        intro other member
        apply gone.queue
        rw [Connector.queue, first]
        exact List.mem_cons_of_mem _ member
      have popped : Gone { s with client := { s.client with
          connector := { s.client.connector with functors := rest } } } :=
        gone.congr rfl rfl left gone.parts
      obtain ⟨attempt, rfl⟩ : Foreign task := by
        apply gone.queue
        rw [Connector.queue, first]
        exact List.mem_cons_self
      rw [runTask]
      split
      case h_1 i conn found =>
        obtain ⟨opened, -⟩ := TcpClient.openOf_eq_some found
        exact ⟨_, rfl, popped.closes opened⟩
      case h_2 => exact ⟨_, rfl, popped⟩
    | @connectDestroyed i rest idle first =>
      refine ⟨_, rfl, gone.congr rfl rfl gone.queue (.trans ?_ gone.parts)⟩
      change (s.client.opened ++ rest ++ (s.client.destroyed ++ [i])).Perm _
      rw [first, List.append_assoc, List.append_assoc]
      refine List.Perm.append_left _ ?_
      rw [← List.append_assoc]
      exact List.perm_append_singleton i (rest ++ s.client.destroyed)

/-- Where the client and the connector are gone, everything is safe. -/
theorem Gone.safe (gone : s.Gone) : s.Safe := by
  intro actions after run action result attempt
  have kept : after.Gone := run.invariant gone fun before action next gone step => by
    obtain ⟨other, same, kept⟩ := gone.attempt step
    cases same
    exact kept
  obtain ⟨next, done, -⟩ := kept.attempt attempt
  exact ⟨next, done⟩

/-- What the loop leaves as it is when it runs functors. -/
structure Leaves (s next : MortalClient) : Prop where
  /-- The client. -/
  alive : next.alive = s.alive
  /-- The connector. -/
  connectorAlive : next.connectorAlive = s.connectorAlive
  /-- The timers of `removeConnector`. -/
  removers : next.removers = s.removers
  /-- A connector that is not wanted schedules no timer. -/
  unwanted : s.client.connector.isConnect = false → next.client.connector.isConnect = false ∧
    next.client.connector.timers = s.client.connector.timers
  /-- Only a connector that is not deleted queues functors. -/
  pending : s.connectorAlive = false →
    next.client.connector.pending = s.client.connector.pending

/-- Nothing runs. -/
theorem Leaves.refl (s : MortalClient) : s.Leaves s :=
  ⟨rfl, rfl, rfl, fun off => ⟨off, rfl⟩, fun _ => rfl⟩

/-- One after the other. -/
theorem Leaves.trans {next : MortalClient} (first : s.Leaves next) (second : next.Leaves after) :
    s.Leaves after where
  alive := second.alive.trans first.alive
  connectorAlive := second.connectorAlive.trans first.connectorAlive
  removers := second.removers.trans first.removers
  unwanted off := by
    obtain ⟨still, timers⟩ := first.unwanted off
    obtain ⟨last, same⟩ := second.unwanted still
    exact ⟨last, same.trans timers⟩
  pending dead :=
    (second.pending (first.connectorAlive.trans dead)).trans (first.pending dead)

/-- What a functor leaves. -/
structure Ran (s : MortalClient) (task : ConnectorTask) (rest : List ConnectorTask)
    (next : MortalClient) : Prop where
  /-- What is left as it is. -/
  leaves : s.Leaves next
  /-- The functors after it. -/
  functors : next.client.connector.functors = rest
  /-- The loop is at its functors. -/
  handling : next.client.connector.handling = s.client.connector.handling
  /-- It was not the connector's if that is deleted. -/
  foreign : s.connectorAlive = false → Foreign task

/-- A functor of the connector that returns. -/
theorem ran_of_own {task : ConnectorTask} {rest : List ConnectorTask} {outcome : ConnectResult}
    {next : MortalClient} (done : runOwn { s with client := { s.client with
      connector := { s.client.connector with functors := rest } } } task outcome = .ok next) :
    Ran s task rest next := by
  obtain ⟨_, used, rest⟩ := bind_eq_ok.mp done
  obtain ⟨connector, ran, last⟩ := bind_eq_ok.mp rest
  cases last
  have alive : s.connectorAlive = true := by
    rw [useConnector] at used
    by_contra dead
    rw [if_neg dead] at used
    cases used
  obtain ⟨functors, handling, unwanted⟩ := Connector.runTask_leaves ran
  have living {P : Prop} (dead : s.connectorAlive = false) : P := by
    rw [alive] at dead
    cases dead
  exact ⟨⟨rfl, rfl, rfl, unwanted, living⟩, functors, handling, living⟩

/-- A functor in a safe state. -/
theorem Safe.functor (safe : s.Safe) (destroyed : s.alive = false)
    (idle : s.client.connector.handling = false) {task : ConnectorTask}
    {rest : List ConnectorTask} (batch : s.client.connector.functors = task :: rest) :
    ∃ next, Ran s task rest next ∧ next.Safe := by
  have attempt : Attempt s (.client (.functor ⟨0, 0⟩)) _ :=
    .orphaned destroyed (.functor idle batch)
  obtain ⟨next, done, later⟩ := safe.attempt attempt
  refine ⟨next, ?_, later⟩
  cases task with
  | forceCloseInLoop number =>
    rw [runTask] at done
    split at done
    case h_1 i conn found =>
      cases done
      obtain ⟨connection, same⟩ := closeConnection_connector { s.client with
        connector := { s.client.connector with functors := rest } } i conn
      refine ⟨⟨rfl, rfl, rfl, fun off => ?_, fun _ => ?_⟩, ?_, ?_, fun _ => ⟨number, rfl⟩⟩
      · rw [same]
        exact ⟨off, rfl⟩
      · rw [same]
      · rw [same]
      · rw [same]
    case h_2 =>
      cases done
      exact ⟨⟨rfl, rfl, rfl, fun off => ⟨off, rfl⟩, fun _ => rfl⟩, rfl, rfl,
        fun _ => ⟨number, rfl⟩⟩
  | startInLoop => exact ran_of_own done
  | stopInLoop => exact ran_of_own done
  | resetChannel number => exact ran_of_own done

/-- The connector is deleted, and one of its functors is among those that the loop is running. -/
theorem not_safe_of_functors (dead : s.connectorAlive = false) (destroyed : s.alive = false)
    (idle : s.client.connector.handling = false) {task : ConnectorTask}
    (member : task ∈ s.client.connector.functors) (own : ¬ Foreign task) : ¬ s.Safe := by
  intro safe
  generalize batch : s.client.connector.functors = functors at member
  induction functors generalizing s with
  | nil => cases member
  | cons first rest ih =>
    obtain ⟨next, ran, later⟩ := safe.functor destroyed idle batch
    obtain rfl | inside := List.mem_cons.mp member
    · exact own (ran.foreign dead)
    · exact ih (ran.leaves.connectorAlive.trans dead) (ran.leaves.alive.trans destroyed)
        (ran.handling.trans idle) later ran.functors inside

/-- The loop runs its functors to the end. -/
theorem Safe.drain (safe : s.Safe) (destroyed : s.alive = false)
    (idle : s.client.connector.handling = false) : ∃ next : MortalClient, next.Safe ∧
      s.Leaves next ∧ next.client.connector.functors = [] ∧
      next.client.connector.handling = false := by
  generalize batch : s.client.connector.functors = functors
  induction functors generalizing s with
  | nil => exact ⟨s, safe, .refl s, batch, idle⟩
  | cons first rest ih =>
    obtain ⟨next, ran, later⟩ := safe.functor destroyed idle batch
    obtain ⟨last, good, leaves, none, still⟩ :=
      ih later (ran.leaves.alive.trans destroyed) (ran.handling.trans idle) ran.functors
    exact ⟨last, good, ran.leaves.trans leaves, none, still⟩

/-- The loop comes to its next events. -/
theorem Safe.polled (safe : s.Safe) (destroyed : s.alive = false)
    (batch : s.client.connector.handling = true → s.client.connector.functors = []) :
    ∃ next : MortalClient, next.Safe ∧ s.Leaves next ∧ next.client.connector.functors = [] ∧
      next.client.connector.handling = true := by
  cases idle : s.client.connector.handling with
  | true => exact ⟨s, safe, .refl s, batch idle, idle⟩
  | false =>
    obtain ⟨last, good, leaves, none, still⟩ := safe.drain destroyed idle
    have attempt : Attempt last (.client .poll) _ :=
      .orphaned (leaves.alive.trans destroyed) (.poll still none)
    obtain ⟨next, done, later⟩ := good.attempt attempt
    cases done
    obtain ⟨connection, same⟩ := poll_connector last.client.connector
    refine ⟨_, later, leaves.trans ⟨rfl, rfl, rfl, fun off => ?_, fun _ => ?_⟩, ?_, ?_⟩
    · rw [same]
      exact ⟨off, rfl⟩
    · rw [same]
    · rw [same]
      exact none
    · rw [same]

/-- The connector is deleted, and one of its functors is to run. -/
theorem not_safe_of_queue (dead : s.connectorAlive = false) (destroyed : s.alive = false)
    (batch : s.client.connector.handling = true → s.client.connector.functors = [])
    {task : ConnectorTask} (member : task ∈ s.client.connector.queue) (own : ¬ Foreign task) :
    ¬ s.Safe := by
  intro safe
  cases idle : s.client.connector.handling with
  | false =>
    obtain now | later := List.mem_append.mp member
    · exact not_safe_of_functors dead destroyed idle now own safe
    · obtain ⟨next, good, leaves, -, handling⟩ := safe.polled destroyed batch
      have gone : next.alive = false := leaves.alive.trans destroyed
      have attempt : Attempt next (.client .doPendingFunctors) _ :=
        .orphaned gone (.doPendingFunctors handling)
      obtain ⟨last, done, runs⟩ := good.attempt attempt
      cases done
      refine not_safe_of_functors ?_ ?_ ?_ ?_ own runs
      · exact leaves.connectorAlive.trans dead
      · exact gone
      · rfl
      · change task ∈ next.client.connector.pending
        rw [leaves.pending dead]
        exact later
  | true =>
    have attempt : Attempt s (.client .doPendingFunctors) _ :=
      .orphaned destroyed (.doPendingFunctors idle)
    obtain ⟨last, done, runs⟩ := safe.attempt attempt
    cases done
    refine not_safe_of_functors ?_ ?_ ?_ ?_ own runs
    · exact dead
    · exact destroyed
    · rfl
    change task ∈ s.client.connector.pending
    rw [Connector.queue, batch idle] at member
    exact member

/-- The connector is deleted when nobody keeps it. -/
theorem release_deletes (keeps : s.connectorAlive = true) (destroyed : s.alive = false)
    (removers : s.removers = 0) (timers : s.client.connector.timers = []) :
    s.release = (do
      ensure s.client.connector.channel.isNone "!m_channel"
      return { s with connectorAlive := false }) := by
  simp [release, keeps, destroyed, removers, timers]

/-- The connector after `~TcpClient()` of a client with a connection, with its last queue. -/
def lastQueue (c : TcpClient) (unique : Bool) : Connector :=
  if unique then c.connector.queueInLoop (.forceCloseInLoop c.connector.attempts) else c.connector

/-- Only a functor of the connection is added. -/
theorem mem_lastQueue (c : TcpClient) (unique : Bool) {task : ConnectorTask} :
    task ∈ (lastQueue c unique).queue ↔ task ∈ c.connector.queue ∨
      unique = true ∧ task = .forceCloseInLoop c.connector.attempts := by
  cases unique <;> simp [lastQueue, Connector.queue, Connector.queueInLoop, or_assoc]

/-- `~TcpClient()` of a client with a connection. -/
theorem destroy_held {c : TcpClient} {i : Nat} (unique : Bool) (held : c.connection = some i)
    (noTimer : c.connector.timers = []) : (living c).destroy unique = (do
      ensure c.connector.channel.isNone "!m_channel"
      return ⟨{ c with
        connector := lastQueue c unique
        connection := none }, false, false, 0⟩) := by
  rw [destroy]
  simp only [living, held]
  rw [release_deletes rfl rfl rfl]
  · cases unique <;> rfl
  · cases unique
    · exact noTimer
    · exact noTimer

/-- A client without a connection leaves a connector that is deleted too soon. -/
theorem not_safe_of_unheld {c : TcpClient} {unique : Bool} {dead : MortalClient}
    (batch : c.connector.handling = true → c.connector.functors = [])
    (noTimer : c.connector.timers = []) (held : c.connection = none)
    (destroyed : (living c).destroy unique = .ok dead) : ¬ dead.Safe := by
  intro safe
  have kept : (living c).destroy unique = .ok ⟨{ c with connector := c.connector.stop },
      false, true, 1⟩ := by
    simp [destroy, living, held, release]
  rw [kept] at destroyed
  cases destroyed
  obtain ⟨next, good, leaves, drained, handling⟩ := safe.polled rfl batch
  obtain ⟨-, timers⟩ := leaves.unwanted rfl
  have one : next.removers = 1 := leaves.removers
  have fires : 0 < next.removers := by
    rw [one]
    exact Nat.one_pos
  have attempt : Attempt next .remove _ := .remove handling fires
  obtain ⟨last, done, later⟩ := good.attempt attempt
  rw [remove, release_deletes] at done
  · obtain ⟨_, -, rest⟩ := bind_eq_ok.mp done
    cases rest
    have queued : .stopInLoop ∈ next.client.connector.stop.queue := by
      simp [Connector.stop, Connector.queueInLoop, Connector.queue]
    refine absurd later (not_safe_of_queue ?_ ?_ ?_ queued ?_)
    · rfl
    · exact leaves.alive
    · exact fun _ => drained
    · rintro ⟨attempt, same⟩
      cases same
  · exact leaves.connectorAlive
  · exact leaves.alive
  · simp [one]
  · exact timers.trans noTimer

/-- The destructor is one step. -/
theorem destroy_of_attempt {unique : Bool} (attempt : Attempt s (.destroy unique) result) :
    s.destroy unique = result := by
  cases attempt with
  | destroy alive => rfl

/-- When `~TcpClient()` is safe: of a client that makes careful calls of `connect()` and has no
retry timer, exactly if it has a connection and no functor of its connector is to run. A client
without a connection leaves a connector that is deleted when the timer of `removeConnector` has
fired, right after that queued one more `stopInLoop` for it. -/
theorem destroy_safe_iff (name : List UInt8) (actions : List TcpClient.Action) (c : TcpClient)
    (run : Run (Guarded TcpClient.Step TcpClient.Careful) (.new name) actions c)
    (noTimer : c.connector.timers = []) (unique : Bool) :
    (∃ dead, Step (living c) (.destroy unique) dead ∧ dead.Safe) ↔
      c.connection ≠ none ∧ ∀ task ∈ c.connector.queue, Foreign task := by
  have sound : c.Sound := run.invariant (TcpClient.new_sound name) fun _ _ _ sound taken =>
    taken.1.sound taken.2 sound
  constructor
  · rintro ⟨dead, step, safe⟩
    have done := destroy_of_attempt step
    cases held : c.connection with
    | none => exact absurd safe (not_safe_of_unheld sound.single.batch noTimer held done)
    | some i =>
      refine ⟨Option.some_ne_none i, fun task member => ?_⟩
      by_contra own
      rw [destroy_held unique held noTimer] at done
      obtain ⟨_, -, rest⟩ := bind_eq_ok.mp done
      cases rest
      refine not_safe_of_queue rfl rfl ?_ ((mem_lastQueue c unique).mpr (.inl member)) own safe
      cases unique
      · exact sound.single.batch
      · exact sound.single.batch
  · rintro ⟨held, foreign⟩
    obtain ⟨i, held⟩ := Option.ne_none_iff_exists'.mp held
    have up : c.connector.state = .kConnected := by
      cases sound.linked with
      | free unopened unmade unheld =>
        rw [unheld] at held
        cases held
      | holds handed only _ found last polls =>
        apply sound.single.handed
        rw [handed]
        exact nofun
    have clear : c.connector.channel = none := by
      refine (sound.single.settled ?_).clear fun attempt member => ?_
      · rw [up]
        decide
      · obtain ⟨_, same⟩ := foreign _ member
        cases same
    have done : (living c).destroy unique =
        .ok ⟨{ c with connector := lastQueue c unique, connection := none }, false, false, 0⟩ := by
      rw [destroy_held unique held noTimer, clear]
      rfl
    have step : Attempt (living c) (.destroy unique) _ := .destroy rfl
    rw [done] at step
    refine ⟨_, step, Gone.safe ⟨rfl, rfl, rfl, ?_, ?_, fun task member => ?_, sound.parts⟩⟩
    · cases unique
      · exact noTimer
      · exact noTimer
    · cases unique
      · exact clear
      · exact clear
    · obtain before | ⟨-, rfl⟩ := (mem_lastQueue c unique).mp member
      · exact foreign task before
      · exact ⟨_, rfl⟩

/-- A client that is connected may be destroyed once the channel of its connector is reset; one
that has never connected may not. -/
theorem destroy_safe_iff_connected :
    (¬ ∃ dead, Step (living (.new (bytes "client"))) (.destroy true) dead ∧ dead.Safe) ∧
      ∃ c, Run (Guarded TcpClient.Step TcpClient.Careful) (.new (bytes "client"))
          [.connect .loop ⟨3, eInProgress⟩, .poll, .write 0 false (bytes "10.0.0.1:80"),
            .doPendingFunctors, .functor ⟨0, 0⟩] c ∧
        ∃ dead, Step (living c) (.destroy true) dead ∧ dead.Safe := by
  refine ⟨fun safe => ?_, ?_⟩
  · obtain ⟨held, -⟩ := (destroy_safe_iff (bytes "client") [] _ (.nil _) rfl true).mp safe
    exact held rfl
  · have reached : ∃ c, Run (Guarded TcpClient.Step TcpClient.Careful) (.new (bytes "client"))
          [.connect .loop ⟨3, eInProgress⟩, .poll, .write 0 false (bytes "10.0.0.1:80"),
            .doPendingFunctors, .functor ⟨0, 0⟩] c ∧
        c.connector.timers = [] ∧ c.connection = some 0 ∧ c.connector.queue = [] := by
      exact ⟨_, .cons ⟨TcpClient.Attempt.step .connect rfl, rfl, rfl, nofun, fun _ => nofun⟩
        (.cons ⟨.poll rfl rfl, trivial⟩
        (.cons ⟨TcpClient.Attempt.step (.write rfl ⟨_, rfl, rfl⟩) rfl, trivial⟩
        (.cons ⟨.doPendingFunctors rfl, trivial⟩
        (.cons ⟨TcpClient.Attempt.step (.functor rfl rfl) rfl, trivial⟩ (.nil _))))), rfl, rfl, rfl⟩
    obtain ⟨c, run, noTimer, held, empty⟩ := reached
    refine ⟨c, run, (destroy_safe_iff _ _ c run noTimer true).mpr ⟨?_, fun task member => ?_⟩⟩
    · rw [held]
      exact Option.some_ne_none 0
    · rw [empty] at member
      cases member

end MortalClient

end Muduo
