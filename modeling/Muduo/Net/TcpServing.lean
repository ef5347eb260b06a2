import Muduo.Net.Acceptor
import Muduo.Net.EventLoopThreadPool
import Muduo.Net.TcpServer

/-!
# A `dc::net::TcpServer` with its acceptor and its loops

The acceptor hands an accepted descriptor to `newConnection`, which takes the next loop of the pool
and makes a connection of the descriptor. The connection goes its own way; when the registry has let
it go and `connectDestroyed` has run, its last owner deletes it and closes the descriptor, which the
kernel may then give out again. `start()` is called in the thread of the loop, as the pool asserts
it to be.
-/

open Outcome Transition

namespace Muduo

namespace TcpConnection

variable {c after : TcpConnection}

/-- `handleClose` keeps the descriptor. -/
theorem Closes.fd (closes : c.Closes after) : after.channel.fd = c.channel.fd := by
  obtain ⟨index, same⟩ := Channel.change_same closes.changed
  rw [same]
  rfl

/-- A connection keeps its descriptor. -/
theorem Step.fd {action : Action} (step : Step c action after) :
    after.channel.fd = c.channel.fd := by
  by_cases inside : ∀ next, action ≠ .turn next
  · obtain stays | ⟨closes, -⟩ := step.stays inside
    · exact stays.fd
    · exact closes.fd
  · obtain ⟨next, turning⟩ := not_forall.mp inside
    rw [not_not] at turning
    subst turning
    cases step with
    | turn => rfl

/-- `connectDestroyed` keeps the descriptor. -/
theorem connectDestroyed_fd (done : c.connectDestroyed = .ok after) :
    after.channel.fd = c.channel.fd := by
  rw [connectDestroyed] at done
  obtain ⟨closed, closing, rest⟩ := bind_eq_ok.mp done
  have kept : closed.channel.fd = c.channel.fd := by
    split at closing
    · obtain ⟨disabled, disabling, called⟩ := bind_eq_ok.mp closing
      obtain ⟨poller, channel, changed, rfl⟩ := setInterest_eq_ok.mp disabling
      obtain ⟨index, same⟩ := Channel.change_same changed
      cases called
      show channel.fd = _
      rw [same]
      rfl
    · cases closing
      rfl
  rw [removeChannel] at rest
  obtain ⟨_, -, rest⟩ := bind_eq_ok.mp rest
  obtain ⟨⟨poller, channel⟩, removing, rest⟩ := bind_eq_ok.mp rest
  cases rest
  have removed (p : EpollPoller) (d : Channel) (done : p.removeChannel d = .ok (poller, channel)) :
      channel.fd = d.fd := by
    rw [EpollPoller.removeChannel] at done
    obtain ⟨_, -, rest⟩ := bind_eq_ok.mp done
    obtain ⟨_, -, rest⟩ := bind_eq_ok.mp rest
    obtain ⟨_, -, rest⟩ := bind_eq_ok.mp rest
    obtain ⟨_, -, rest⟩ := bind_eq_ok.mp rest
    cases rest
    rfl
  unfold EventLoop.removeChannel at removing
  split at removing
  · obtain ⟨_, -, removing⟩ := bind_eq_ok.mp removing
    exact (removed _ _ removing).trans kept
  · exact (removed _ _ removing).trans kept

end TcpConnection

namespace TcpServer

/-- Where a connection lives: its loop and its descriptor. -/
def place (served : ServedConnection) : Nat × Int := (served.ioLoop, served.conn.channel.fd)

/-- Where the connections live. -/
def places (s : TcpServer) : List (Nat × Int) := s.accepted.map place

variable {s after : TcpServer} {i : Nat} {served : ServedConnection}

/-- A connection in a new state lives where it lived. -/
theorem put_places (found : s.accepted[i]? = some served) {conn : TcpConnection}
    (fd : conn.channel.fd = served.conn.channel.fd) : (s.put i served conn).places = s.places := by
  have same : place { served with conn } = place served := by rw [place, fd, place]
  have inside := (List.getElem?_eq_some_iff.mp found).1
  rw [places, put, List.map_set, same, places]
  apply List.ext_getElem?
  intro j
  rw [List.getElem?_set, List.length_map]
  by_cases here : i = j
  · subst here
    rw [if_pos rfl, if_pos inside, List.getElem?_map, found]
    rfl
  · rw [if_neg here]

/-- `removeConnectionInLoop` moves no connection. -/
theorem removeConnectionInLoop_places (done : s.removeConnectionInLoop i served = .ok after) :
    after.places = s.places := by
  obtain rfl := removeConnectionInLoop_eq_ok done
  rfl

/-- `removeConnection` moves no connection. -/
theorem removeConnection_places (done : s.removeConnection i served = .ok after) :
    after.places = s.places := by
  rw [removeConnection] at done
  split at done
  · exact removeConnectionInLoop_places done
  · cases done
    rfl

/-- The close callbacks move no connection. -/
theorem closeCallbacks_places {calls : Nat} (done : s.closeCallbacks i served calls = .ok after) :
    after.places = s.places := by
  induction calls generalizing s with
  | zero =>
    cases done
    rfl
  | succ calls ih =>
    obtain ⟨middle, first, rest⟩ := bind_eq_ok.mp done
    exact (ih rest).trans (removeConnection_places first)

/-- Connections stay where they are. -/
theorem Step.places {action : Action} (step : Step s action after)
    (old : ∀ ioLoop conn, action ≠ .newConnection ioLoop conn) : after.places = s.places := by
  have attempt : Attempt s action (.ok after) := step
  generalize outcome : Except.ok after = result at attempt
  symm at outcome
  cases attempt with
  | newConnection => exact absurd rfl (old _ _)
  | @call i served action result found attempt =>
    cases result with
    | error fault => cases outcome
    | ok conn =>
      have moved := put_places found (TcpConnection.Step.fd attempt)
      exact (closeCallbacks_places outcome).trans moved
  | elsewhere found =>
    cases outcome
    exact put_places found rfl
  | @removeConnectionInLoop i rest served =>
    have removed : TcpServer.places { s with removals := rest } = s.places := rfl
    exact (removeConnectionInLoop_places outcome).trans removed
  | @connectDestroyed i served queued found =>
    rw [TcpServer.connectDestroyed] at outcome
    split at outcome
    next => cases outcome
    next conn destroyed =>
      cases outcome
      exact put_places found (TcpConnection.connectDestroyed_fd destroyed)

end TcpServer

namespace Acceptor

variable {a after : Acceptor} {action : AcceptAction} {fd other : Int} {peer : Nat}

/-- What the acceptor and others do apart from the server: the end of a connection and what the
server calls are not among it. -/
def Alone (a : Acceptor) : AcceptAction → Prop
  | .listen => False
  | .deliver => False
  | .destroy => False
  | .closeOther fd => a.table fd = some .foreign
  | _ => True

/-- A connection that was passed on is not closed by an acceptor that does no harm. -/
theorem close_served (harmless : (a.close fd).trespasses = 0)
    (there : a.table other = some (.served peer)) :
    (a.close fd).table other = some (.served peer) := by
  unfold close at harmless ⊢
  by_cases same : other = fd
  · subst same
    simp [there, OpenFile.isForeign] at harmless
  · split
    · exact there
    · exact (Function.update_of_ne same ..).trans there
    · exact (Function.update_of_ne same ..).trans there

/-- What is left alone. -/
structure Leaves (a after : Acceptor) : Prop where
  /-- The connections that were passed on stay open. -/
  open_ : ∀ fd peer, a.table fd = some (.served peer) → after.table fd = some (.served peer)
  /-- The same peers were passed on. -/
  served : after.served = a.served
  /-- It listens or not. -/
  listening : after.isListening = a.isListening
  /-- It has its callback. -/
  callback : after.hasCallback = a.hasCallback

/-- What `close` changes. -/
theorem close_leaves (harmless : (a.close fd).trespasses = 0) : a.Leaves (a.close fd) := by
  refine ⟨fun _ _ there => close_served harmless there, ?_, ?_, ?_⟩
  all_goals
    unfold close
    split <;> rfl

/-- The acceptor and others leave what the server has. -/
theorem Step.leaves (step : Step a action after) (sound : a.Sound) (alone : a.Alone action) :
    a.Leaves after := by
  have harmless := (step.sound sound).harmless
  have opened {free : Int} {file : OpenFile} (unused : a.Free free) (fd : Int) (peer : Nat)
      (there : a.table fd = some (.served peer)) :
      Function.update a.table free (some file) fd = some (.served peer) :=
    table_of_ne there unused.2.2 file
  cases step with
  | listen => exact alone.elim
  | deliver => exact alone.elim
  | destroy => exact alone.elim
  | accept accepting waits free => exact ⟨opened free, rfl, rfl, rfl⟩
  | acceptAgain accepting waits free => exact ⟨opened free, rfl, rfl, rfl⟩
  | reopen reopening free => exact ⟨opened free, rfl, rfl, rfl⟩
  | openOther free => exact ⟨opened free, rfl, rfl, rfl⟩
  | closeIdle =>
    have leaves : a.Leaves (a.close a.idleFd) := close_leaves harmless
    exact ⟨leaves.open_, leaves.served, leaves.listening, leaves.callback⟩
  | closeAccepted =>
    have leaves : a.Leaves (a.close a.idleFd) := close_leaves harmless
    exact ⟨leaves.open_, leaves.served, leaves.listening, leaves.callback⟩
  | @closeOther closed file there owns =>
    refine ⟨fun fd peer found => ?_, rfl, rfl, rfl⟩
    have foreign : a.table closed = some .foreign := alone
    have apart : fd ≠ closed := by
      intro same
      rw [same, foreign] at found
      cases found
    exact (Function.update_of_ne apart ..).trans found
  | _ => exact ⟨fun _ _ => id, rfl, rfl, rfl⟩

end Acceptor

/-- A server with its acceptor and its loops. -/
structure TcpServing where
  /-- `m_connections` and the connections. -/
  server : TcpServer
  /-- `m_threadPool`. -/
  pool : EventLoopThreadPool
  /-- `m_acceptor`. -/
  acceptor : Acceptor
  /-- `is_started`. -/
  isStarted : Bool
  /-- `m_threadInitCallback` is set. -/
  hasThreadInitCallback : Bool
  /-- The connections that were deleted, and their descriptors closed. -/
  closed : List Nat

/-- What happens. -/
inductive ServingAction
  /-- `setThreadNum(numThreads)`. -/
  | setThreadNum (numThreads : Int)
  /-- `start()`. -/
  | start
  /-- The user calls `threadPool()->getNextLoop()`. -/
  | getNextLoop
  /-- Something happens to the acceptor. -/
  | acceptor (action : AcceptAction)
  /-- `newConnection`, with the connection that it makes. -/
  | newConnection (conn : TcpConnection)
  /-- Something happens to the connections. -/
  | server (action : TcpServer.Action)
  /-- The last owner of a connection deletes it. -/
  | closeSocket (i : Nat)

namespace TcpServing

/-- `start()`, in the thread of the loop: `Acceptor::listen` is called at once. -/
def start (s : TcpServing) : Except Fault TcpServing := do
  if s.isStarted then
    .ok s
  else
    let pool ← s.pool.start s.hasThreadInitCallback
    ensure (!s.acceptor.isListening) "!m_acceptor->listening()"
    .ok { s with
      isStarted := true
      pool
      acceptor := { s.acceptor with isListening := true } }

/-- `newConnection(sockfd, peerAddr)`, with the connection as its constructor makes it. -/
def newConnection (s : TcpServing) (sockfd : Int) (conn : TcpConnection) :
    Except Fault TcpServing := do
  let (pool, ioLoop) ← s.pool.getNextLoop
  .ok { s with
    server := s.server.newConnection ioLoop conn
    pool
    acceptor := { s.acceptor.handOver sockfd with stage := .idle } }

/-- A step that does not stop the program. -/
inductive Step (s : TcpServing) : ServingAction → TcpServing → Prop
  /-- `assert( 0 <= numThreads )`. -/
  | setThreadNum {numThreads : Int} (fits : 0 ≤ numThreads ∧ numThreads < 2 ^ 31) :
      Step s (.setThreadNum numThreads) { s with pool := s.pool.setThreadNum numThreads }
  /-- `start()`. -/
  | start {after : TcpServing} (done : s.start = .ok after) : Step s .start after
  /-- The user takes a loop. -/
  | getNextLoop {pool : EventLoopThreadPool} {loop : Nat}
      (done : s.pool.getNextLoop = .ok (pool, loop)) : Step s .getNextLoop { s with pool }
  /-- The acceptor, its peers and other owners of descriptors. -/
  | acceptor {action : AcceptAction} {acceptor : Acceptor} (alone : s.acceptor.Alone action)
      (step : s.acceptor.Step action acceptor) : Step s (.acceptor action) { s with acceptor }
  /-- The acceptor calls `newConnection`. -/
  | newConnection {sockfd : Int} {address : ChannelId} {poller : EpollPoller}
      {writeComplete highWater : Bool} {conn : TcpConnection} {after : TcpServing}
      (delivering : s.acceptor.stage = .delivering sockfd)
      (made : TcpConnection.new address sockfd poller (64 * 1024 * 1024) writeComplete highWater =
        .ok conn)
      (done : s.newConnection sockfd conn = .ok after) : Step s (.newConnection conn) after
  /-- The connections and the registry. -/
  | server {action : TcpServer.Action} {server : TcpServer}
      (old : ∀ ioLoop conn, action ≠ .newConnection ioLoop conn)
      (step : s.server.Step action server) : Step s (.server action) { s with server }
  /-- `~TcpConnection()` and `~Socket()`, after `connectDestroyed`. -/
  | closeSocket {i : Nat} {served : ServedConnection} {acceptor : Acceptor}
      (found : s.server.accepted[i]? = some served)
      (ran : i ∈ s.server.removed ∧ i ∉ s.server.destroys) (once : i ∉ s.closed)
      (step : s.acceptor.Step (.closeOther served.conn.channel.fd) acceptor) :
      Step s (.closeSocket i) { s with acceptor, closed := s.closed ++ [i] }

/-- A new server, in a process with any descriptors of others. -/
structure Fresh (s : TcpServing) : Prop where
  /-- The registry is empty. -/
  server : s.server.accepted = []
  /-- The pool is new. -/
  pool : s.pool = .new
  /-- The acceptor is new. -/
  acceptor : s.acceptor.Fresh
  /-- `m_acceptor->setNewConnectionCallback(..)`. -/
  callback : s.acceptor.hasCallback = true
  /-- Nothing has happened. -/
  blank : s.isStarted = false ∧ s.closed = []

/-- The parts of a server fit together. -/
structure Fits (s : TcpServing) : Prop where
  /-- The acceptor. -/
  sound : s.acceptor.Sound
  /-- The acceptor calls `newConnection`. -/
  callback : s.acceptor.hasCallback = true
  /-- The loops. -/
  inTurn : s.pool.InTurn
  /-- The pool is started with the server. -/
  started : s.pool.started = s.isStarted
  /-- A server that listens or accepts is started. -/
  listening : s.acceptor.isListening = true ∨ s.acceptor.stage ≠ .idle → s.isStarted = true
  /-- One connection for each peer. -/
  peers : s.acceptor.served.length = s.server.places.length
  /-- The descriptor of a connection is open for its peer until the connection is deleted. -/
  files : ∀ i place, s.server.places[i]? = some place → i ∉ s.closed →
    ∃ peer, s.acceptor.served[i]? = some peer ∧ s.acceptor.table place.2 = some (.served peer)
  /-- What is deleted was accepted. -/
  past : ∀ i ∈ s.closed, i < s.server.places.length

variable {s after : TcpServing} {action : ServingAction}

/-- A new server. -/
theorem Fresh.fits (fresh : s.Fresh) : s.Fits := by
  obtain ⟨stage, listening, -⟩ := fresh.acceptor.start
  have nobody : s.acceptor.served = [] := fresh.acceptor.nobody.2.2.1
  have none : s.server.places = [] := by rw [TcpServer.places, fresh.server, List.map_nil]
  refine ⟨fresh.acceptor.sound, fresh.callback, ?_, ?_, ?_, ?_, ?_, ?_⟩
  · rw [fresh.pool]
    exact EventLoopThreadPool.new_inTurn
  · rw [fresh.pool, fresh.blank.1]
    rfl
  · simp [stage, listening]
  · simp [nobody, none]
  · simp [none]
  · simp [fresh.blank.2]

/-- No peer is passed on twice. -/
theorem Fits.nodup (fits : s.Fits) : s.acceptor.served.Nodup := by
  rw [List.nodup_iff_count_le_one]
  intro peer
  have once := fits.sound.peers peer
  split at once <;> omega

/-- Connections that are not deleted have descriptors of their own. -/
theorem Fits.apart (fits : s.Fits) {i j : Nat} {one two : Nat × Int}
    (first : s.server.places[i]? = some one) (second : s.server.places[j]? = some two)
    (alive : i ∉ s.closed) (living : j ∉ s.closed) (same : one.2 = two.2) : i = j := by
  obtain ⟨peer, here, file⟩ := fits.files i one first alive
  obtain ⟨other, there, again⟩ := fits.files j two second living
  rw [same, again, Option.some.injEq, OpenFile.served.injEq] at file
  subst file
  obtain ⟨inside, value⟩ := List.getElem?_eq_some_iff.mp here
  obtain ⟨within, equal⟩ := List.getElem?_eq_some_iff.mp there
  exact (fits.nodup.getElem_inj_iff).mp (value.trans equal.symm)

/-- The acceptor passes a connection on. -/
theorem Fits.delivers (fits : s.Fits) {sockfd : Int}
    (delivering : s.acceptor.stage = .delivering sockfd) :
    s.acceptor.Step .deliver { s.acceptor.handOver sockfd with stage := .idle } ∧
      ∃ peer, s.acceptor.table sockfd = some (.accepted peer) := by
  have step := Acceptor.Step.deliver delivering
  rw [if_pos fits.callback] at step
  have holds := fits.sound.holds
  simp only [Acceptor.Holds, delivering] at holds
  exact ⟨step, holds.2⟩

/-- `newConnection` finds a loop. -/
theorem Fits.newConnection (fits : s.Fits) {sockfd : Int}
    (delivering : s.acceptor.stage = .delivering sockfd) (conn : TcpConnection) :
    ∃ next, s.newConnection sockfd conn = .ok { s with
      server := s.server.newConnection (s.pool.turn s.pool.given.length) conn
      pool := { s.pool with
        next, given := s.pool.given ++ [s.pool.turn s.pool.given.length] }
      acceptor := { s.acceptor.handOver sockfd with stage := .idle } } ∧
        EventLoopThreadPool.InTurn { s.pool with
          next, given := s.pool.given ++ [s.pool.turn s.pool.given.length] } := by
  have started : s.pool.started = true := by
    rw [fits.started]
    exact fits.listening (.inr (by simp [delivering]))
  obtain ⟨next, done, inTurn⟩ := fits.inTurn.getNextLoop started
  refine ⟨next, ?_, inTurn⟩
  rw [TcpServing.newConnection, done]
  rfl

/-- `start()` starts the pool and the acceptor, once. -/
theorem Fits.start (fits : s.Fits) : ∃ after, s.start = .ok after ∧ after.Fits := by
  by_cases started : s.isStarted = true
  · exact ⟨s, by rw [TcpServing.start, if_pos started], fits⟩
  · have off : s.pool.started = false := by
      rw [fits.started]
      exact Bool.eq_false_iff.mpr started
    have silent : s.acceptor.isListening = false := by
      by_contra listening
      exact started (fits.listening (.inl (by simpa using listening)))
    have idle : s.acceptor.stage = .idle := by
      by_contra busy
      exact started (fits.listening (.inr busy))
    have poolStarts : ∃ pool, s.pool.start s.hasThreadInitCallback = .ok pool ∧
        pool.started = true := by
      rw [EventLoopThreadPool.start, off]
      exact ⟨_, rfl, rfl⟩
    obtain ⟨pool, starting, on⟩ := poolStarts
    have inTurn : pool.InTurn := (EventLoopThreadPool.Step.start starting).inTurn fits.inTurn
    have sound := (Acceptor.Step.listen idle).sound fits.sound
    refine ⟨{ s with
        isStarted := true
        pool
        acceptor := { s.acceptor with isListening := true } }, ?_, sound, fits.callback, inTurn, on,
      fun _ => rfl, fits.peers, fits.files, fits.past⟩
    rw [TcpServing.start, if_neg started, starting, ok_bind, silent]
    rfl

/-- The server goes on with another acceptor that left its connections alone. -/
theorem Fits.accepts (fits : s.Fits) {acceptor : Acceptor} (sound : acceptor.Sound)
    (leaves : s.acceptor.Leaves acceptor)
    (listening : acceptor.stage ≠ .idle → s.isStarted = true) :
    Fits { s with acceptor } := by
  refine ⟨sound, leaves.callback.trans fits.callback, fits.inTurn, fits.started, ?_, ?_, ?_,
    fits.past⟩
  · rintro (on | busy)
    · exact fits.listening (.inl (leaves.listening.symm.trans on))
    · exact listening busy
  · exact (congrArg List.length leaves.served).trans fits.peers
  · intro i place found alive
    obtain ⟨peer, here, file⟩ := fits.files i place found alive
    refine ⟨peer, ?_, leaves.open_ _ _ file⟩
    show acceptor.served[i]? = _
    rw [leaves.served, here]

/-- An acceptor that is not called stays idle. -/
theorem stays_idle {a b : Acceptor} {action : AcceptAction} (step : a.Step action b)
    (alone : a.Alone action) (idle : a.stage = .idle) (busy : b.stage ≠ .idle) :
    a.isListening = true := by
  cases step with
  | handleRead _ listening => exact listening
  | destroy => exact alone.elim
  | deliver => exact alone.elim
  | accept accepting => simp [idle] at accepting
  | acceptNone accepting => simp [idle] at accepting
  | acceptFull accepting => simp [idle] at accepting
  | acceptFails accepting => simp [idle] at accepting
  | log logging => simp [idle] at logging
  | closeIdle closing => simp [idle] at closing
  | acceptAgain accepting => simp [idle] at accepting
  | acceptAgainNone accepting => simp [idle] at accepting
  | acceptAgainFails accepting => simp [idle] at accepting
  | closeAccepted closing => simp [idle] at closing
  | reopen reopening => simp [idle] at reopening
  | reopenNone reopening => simp [idle] at reopening
  | reopenFails reopening => simp [idle] at reopening
  | _ => exact absurd idle busy

/-- A new connection lives on its descriptor in the loop whose turn it is. -/
theorem places_newConnection (server : TcpServer) (ioLoop : Nat) {conn : TcpConnection}
    {address : ChannelId} {sockfd : Int} {poller : EpollPoller} {highWaterMark : Nat}
    {writeComplete highWater : Bool}
    (made : TcpConnection.new address sockfd poller highWaterMark writeComplete highWater =
      .ok conn) :
    (server.newConnection ioLoop conn).places = server.places ++ [(ioLoop, sockfd)] := by
  rw [TcpConnection.new_eq] at made
  cases made
  rw [TcpServer.places, TcpServer.newConnection, List.map_append]
  rfl

/-- The new connection of a peer. -/
theorem Fits.accepted (fits : s.Fits) {sockfd : Int} {address : ChannelId} {poller : EpollPoller}
    {writeComplete highWater : Bool} {conn : TcpConnection}
    (delivering : s.acceptor.stage = .delivering sockfd)
    (made : TcpConnection.new address sockfd poller (64 * 1024 * 1024) writeComplete highWater =
      .ok conn) (done : s.newConnection sockfd conn = .ok after) : after.Fits := by
  obtain ⟨next, again, inTurn⟩ := fits.newConnection delivering conn
  obtain rfl := Except.ok.inj (done.symm.trans again)
  obtain ⟨step, peer, there⟩ := fits.delivers delivering
  have sound := step.sound fits.sound
  have places := places_newConnection s.server (s.pool.turn s.pool.given.length) made
  have handed := Acceptor.handOver_accepted there
  rw [handed] at sound ⊢
  have size := fits.peers
  refine ⟨sound, fits.callback, inTurn, fits.started, ?_, ?_, ?_, ?_⟩
  · intro _
    exact fits.listening (.inr (by simp [delivering]))
  · dsimp only
    rw [places, List.length_append, List.length_append, size]
    rfl
  · intro i place found alive
    dsimp only at found alive ⊢
    rw [places, List.getElem?_append] at found
    split at found
    next old =>
      obtain ⟨other, here, file⟩ := fits.files i place found alive
      refine ⟨other, ?_, ?_⟩
      · rw [List.getElem?_append_left (by omega), here]
      · have apart : place.2 ≠ sockfd := by
          intro same
          rw [same, there] at file
          cases file
        rw [Function.update_of_ne apart, file]
    next new =>
      have last : i = s.server.places.length := by
        have inside := (List.getElem?_eq_some_iff.mp found).1
        simp at inside
        omega
      rw [last, Nat.sub_self] at found
      cases found
      refine ⟨peer, ?_, Function.update_self ..⟩
      rw [last, ← size, List.getElem?_append_right (Nat.le_refl _), Nat.sub_self]
      rfl
  · intro i gone
    dsimp only
    rw [places, List.length_append]
    exact Nat.lt_add_right _ (fits.past i gone)

/-- A connection is deleted. -/
theorem Fits.closeSocket (fits : s.Fits) {i : Nat} {served : ServedConnection}
    {acceptor : Acceptor} (found : s.server.accepted[i]? = some served) (once : i ∉ s.closed)
    (step : s.acceptor.Step (.closeOther served.conn.channel.fd) acceptor) :
    Fits { s with acceptor, closed := s.closed ++ [i] } := by
  have sound := step.sound fits.sound
  have here : s.server.places[i]? = some (TcpServer.place served) := by
    rw [TcpServer.places, List.getElem?_map, found]
    rfl
  cases step with
  | @closeOther _ file there owns =>
    refine ⟨sound, fits.callback, fits.inTurn, fits.started, fits.listening, fits.peers, ?_, ?_⟩
    · intro j place other alive
      have living : j ∉ s.closed := fun gone => alive (List.mem_append_left _ gone)
      have different : j ≠ i := by
        rintro rfl
        exact alive (List.mem_append_right _ (List.mem_singleton_self _))
      obtain ⟨peer, same, file⟩ := fits.files j place other living
      refine ⟨peer, same, ?_⟩
      have apart : place.2 ≠ served.conn.channel.fd :=
        fun equal => different (fits.apart other here living once equal)
      exact (Function.update_of_ne apart ..).trans file
    · intro j gone
      obtain old | new := List.mem_append.mp gone
      · exact fits.past j old
      · rw [List.mem_singleton.mp new]
        exact (List.getElem?_eq_some_iff.mp here).1

/-- Every step keeps the parts together. -/
theorem Step.fits (step : Step s action after) (fits : s.Fits) : after.Fits := by
  cases step with
  | @setThreadNum numThreads bounds =>
    have inTurn : (s.pool.setThreadNum numThreads).InTurn :=
      (EventLoopThreadPool.Step.setThreadNum bounds.2).inTurn fits.inTurn
    exact ⟨fits.sound, fits.callback, inTurn, fits.started, fits.listening, fits.peers, fits.files,
      fits.past⟩
  | start done =>
    obtain ⟨other, again, kept⟩ := fits.start
    obtain rfl := Except.ok.inj (done.symm.trans again)
    exact kept
  | @getNextLoop pool loop done =>
    have inTurn := (EventLoopThreadPool.Step.getNextLoop done).inTurn fits.inTurn
    have started : s.pool.started = true := by
      rw [EventLoopThreadPool.getNextLoop] at done
      obtain ⟨_, on, -⟩ := bind_eq_ok.mp done
      simpa using on
    obtain ⟨next, again, -⟩ := fits.inTurn.getNextLoop started
    rw [done, Except.ok.injEq, Prod.mk.injEq] at again
    refine ⟨fits.sound, fits.callback, inTurn, ?_, fits.listening, fits.peers, fits.files,
      fits.past⟩
    rw [again.1]
    exact fits.started
  | acceptor alone step =>
    refine fits.accepts (step.sound fits.sound) (step.leaves fits.sound alone) fun busy => ?_
    by_cases idle : s.acceptor.stage = .idle
    · exact fits.listening (.inl (stays_idle step alone idle busy))
    · exact fits.listening (.inr idle)
  | newConnection delivering made done => exact fits.accepted delivering made done
  | server old step =>
    have places := step.places old
    have peers := fits.peers
    have files := fits.files
    have past := fits.past
    rw [← places] at peers files past
    exact ⟨fits.sound, fits.callback, fits.inTurn, fits.started, fits.listening, peers, files, past⟩
  | closeSocket found ran once step => exact fits.closeSocket found once step

/-- The registry goes the way of a server. -/
theorem Step.refines (step : Step s action after) (fits : s.Fits) :
    after.server = s.server ∨ ∃ call, s.server.Step call after.server := by
  cases step with
  | start done =>
    rw [TcpServing.start] at done
    split at done
    · cases done
      exact .inl rfl
    · obtain ⟨pool, -, rest⟩ := bind_eq_ok.mp done
      obtain ⟨_, -, rest⟩ := bind_eq_ok.mp rest
      cases rest
      exact .inl rfl
  | @newConnection sockfd address poller writeComplete highWater conn _ delivering made done =>
    obtain ⟨next, again, -⟩ := fits.newConnection delivering conn
    obtain rfl := Except.ok.inj (done.symm.trans again)
    exact .inr ⟨_, TcpServer.Attempt.newConnection made⟩
  | server old step => exact .inr ⟨_, step⟩
  | _ => exact .inl rfl

/-- The registry goes the way of a server along every run. -/
theorem Fits.of_run {actions : List ServingAction} {last : TcpServing} (fits : s.Fits)
    (run : Run Step s actions last) :
    last.Fits ∧ ∃ calls, Run TcpServer.Step s.server calls last.server := by
  induction run with
  | nil state => exact ⟨fits, [], .nil _⟩
  | cons head tail ih =>
    obtain ⟨kept, calls, reached⟩ := ih (head.fits fits)
    obtain same | ⟨call, called⟩ := head.refines fits
    · exact ⟨kept, calls, same ▸ reached⟩
    · exact ⟨kept, call :: calls, .cons called reached⟩

/-- The user does not take loops. -/
def Unshared : ServingAction → Prop
  | .getNextLoop => False
  | _ => True

/-- A server in a process that has room for two connections. -/
def roomy : TcpServing where
  server := .new (bytes "s") .inet (bytes "0.0.0.0") 80
  pool := .new
  acceptor := { Acceptor.cramped with limit := 4 }
  isStarted := false
  hasThreadInitCallback := false
  closed := []

/-- It is new. -/
theorem roomy_fresh : roomy.Fresh := by
  have fresh := Acceptor.cramped_fresh
  refine ⟨rfl, rfl, ⟨fun fd file there => ?_, fresh.socket, fresh.idle, fresh.others, fresh.nobody,
    fresh.start⟩, rfl, rfl, rfl⟩
  have bounds := fresh.bounds fd file there
  have small : Acceptor.cramped.limit = 2 := rfl
  show 0 ≤ fd ∧ fd < 4
  omega

/-- Two peers are accepted by a server with two threads. -/
theorem two_peers : ∃ (actions : List ServingAction) (s : TcpServing),
    Run (Guarded Step fun _ => Unshared) roomy actions s ∧
      s.server.accepted.map ServedConnection.ioLoop = [1, 2] := by
  refine ⟨[.setThreadNum 2, .start, .acceptor .connect, .acceptor .connect, .acceptor .handleRead,
      .acceptor .accept, .newConnection _, .acceptor .handleRead, .acceptor .accept,
      .newConnection _], _,
    .cons ⟨.setThreadNum ⟨by decide, by decide⟩, trivial⟩ <|
    .cons ⟨.start rfl, trivial⟩ <|
    .cons ⟨.acceptor trivial .connect, trivial⟩ <|
    .cons ⟨.acceptor trivial .connect, trivial⟩ <|
    .cons ⟨.acceptor trivial (.handleRead rfl rfl), trivial⟩ <|
    .cons ⟨.acceptor trivial
      (.accept rfl rfl (show Acceptor.Free _ 2 from ⟨by decide, by decide, rfl⟩)), trivial⟩ <|
    .cons ⟨.newConnection rfl (TcpConnection.new_eq 0 2 .new _ false false) rfl, trivial⟩ <|
    .cons ⟨.acceptor trivial (.handleRead rfl rfl), trivial⟩ <|
    .cons ⟨.acceptor trivial
      (.accept rfl rfl (show Acceptor.Free _ 3 from ⟨by decide, by decide, rfl⟩)), trivial⟩ <|
    .cons ⟨.newConnection rfl (TcpConnection.new_eq 0 3 .new _ false false) rfl, trivial⟩ <|
    .nil _, rfl⟩

/-- In every state of every run of a server with its acceptor and its loops: the connections and
their registry have come there by a run of their own; there is one connection for each peer that the
acceptor passed on, in the same order; the descriptor of a connection is open for the peer of that
connection until the connection is deleted, so connections that are not deleted have descriptors of
their own; and neither `start()` nor `newConnection` fails an assertion or finds no loop. -/
theorem connections_of_run (first : TcpServing) (fresh : first.Fresh)
    (actions : List ServingAction) (s : TcpServing) (run : Run Step first actions s) :
    (∃ calls, Run TcpServer.Step first.server calls s.server) ∧
      s.acceptor.served.length = s.server.accepted.length ∧
      (∀ (i : Nat) (served : ServedConnection), s.server.accepted[i]? = some served →
        i ∉ s.closed → ∃ peer, s.acceptor.served[i]? = some peer ∧
          s.acceptor.table served.conn.channel.fd = some (.served peer)) ∧
      (∀ (i j : Nat) (one two : ServedConnection), s.server.accepted[i]? = some one →
        s.server.accepted[j]? = some two → i ∉ s.closed → j ∉ s.closed →
          one.conn.channel.fd = two.conn.channel.fd → i = j) ∧
      (∃ after, s.start = .ok after) ∧
      ∀ sockfd conn, s.acceptor.stage = .delivering sockfd →
        ∃ after, s.newConnection sockfd conn = .ok after := by
  obtain ⟨fits, reached⟩ := fresh.fits.of_run run
  have place {i : Nat} {served : ServedConnection} (found : s.server.accepted[i]? = some served) :
      s.server.places[i]? = some (TcpServer.place served) := by
    rw [TcpServer.places, List.getElem?_map, found]
    rfl
  refine ⟨reached, ?_, fun i served found alive => ?_,
    fun i j one two here there alive living same =>
      fits.apart (place here) (place there) alive living same,
    ?_, fun sockfd conn delivering => ?_⟩
  · rw [fits.peers, TcpServer.places, List.length_map]
  · exact fits.files i _ (place found) alive
  · obtain ⟨after, done, -⟩ := fits.start
    exact ⟨after, done⟩
  · obtain ⟨next, done, -⟩ := fits.newConnection delivering conn
    exact ⟨_, done⟩

/-- Two peers have two connections on two descriptors. -/
theorem connections_of_run_two_peers : ∃ s : TcpServing,
    s.server.accepted.map ServedConnection.ioLoop = [1, 2] ∧ s.acceptor.served.length = 2 := by
  obtain ⟨actions, s, run, loops⟩ := two_peers
  obtain ⟨-, size, -⟩ := connections_of_run roomy roomy_fresh actions s run.unguarded
  have two := congrArg List.length loops
  rw [List.length_map] at two
  exact ⟨s, loops, size.trans two⟩

/-- Every loop that was given out has its connection. -/
def Assigned (s : TcpServing) : Prop := s.server.places.map Prod.fst = s.pool.given

/-- Where the user takes no loops, every loop goes to a connection. -/
theorem Step.assigned (step : Step s action after) (fits : s.Fits) (unshared : Unshared action)
    (assigned : s.Assigned) : after.Assigned := by
  cases step with
  | start done =>
    rw [TcpServing.start] at done
    split at done
    · cases done
      exact assigned
    · obtain ⟨pool, starting, rest⟩ := bind_eq_ok.mp done
      obtain ⟨_, -, rest⟩ := bind_eq_ok.mp rest
      cases rest
      rw [EventLoopThreadPool.start] at starting
      obtain ⟨_, -, rest⟩ := bind_eq_ok.mp starting
      cases rest
      exact assigned
  | getNextLoop => exact unshared.elim
  | @newConnection sockfd address poller writeComplete highWater conn _ delivering made done =>
    obtain ⟨next, again, -⟩ := fits.newConnection delivering conn
    obtain rfl := Except.ok.inj (done.symm.trans again)
    have places := places_newConnection s.server (s.pool.turn s.pool.given.length) made
    show (s.server.newConnection _ conn).places.map Prod.fst = _
    rw [places, List.map_append, assigned]
    rfl
  | server old step =>
    unfold Assigned
    rw [← assigned, ← step.places old]
  | _ => exact assigned

/-- As long as the user of the server takes no loops from its pool, the connections are spread over
the loops in turn: two loops have been given equally many connections, or one of them one more than
the other, whatever happens to the connections. -/
theorem connections_in_turn (first : TcpServing) (fresh : first.Fresh)
    (actions : List ServingAction) (s : TcpServing)
    (run : Run (Guarded Step fun _ => Unshared) first actions s) :
    (∀ (i : Nat) (served : ServedConnection), s.server.accepted[i]? = some served →
      served.ioLoop = s.pool.turn i) ∧
      ∀ one ∈ s.pool.loops, ∀ other ∈ s.pool.loops,
        (s.server.accepted.map ServedConnection.ioLoop).count one ≤
          (s.server.accepted.map ServedConnection.ioLoop).count other + 1 := by
  have unassigned : first.Assigned := by
    rw [Assigned, TcpServer.places, fresh.server, fresh.pool]
    rfl
  have start : first.Fits ∧ first.Assigned := ⟨fresh.fits, unassigned⟩
  have keeps (before : TcpServing) (action : ServingAction) (after : TcpServing)
      (kept : before.Fits ∧ before.Assigned)
      (taken : Guarded Step (fun _ => Unshared) before action after) :
      after.Fits ∧ after.Assigned :=
    ⟨taken.1.fits kept.1, taken.1.assigned kept.1 taken.2 kept.2⟩
  have kept := run.invariant start keeps
  have loops : s.server.accepted.map ServedConnection.ioLoop = s.pool.given := by
    rw [← kept.2, TcpServer.places, List.map_map]
    rfl
  rw [loops]
  refine ⟨fun i served found => ?_, kept.1.inTurn.even⟩
  apply kept.1.inTurn.given_eq
  rw [← loops, List.getElem?_map, found]
  rfl

/-- The first of two connections is in the first loop. -/
theorem connections_in_turn_two_peers : ∃ s : TcpServing,
    s.server.accepted.map ServedConnection.ioLoop = [1, 2] ∧ s.pool.turn 0 = 1 := by
  obtain ⟨actions, s, run, loops⟩ := two_peers
  obtain ⟨turn, -⟩ := connections_in_turn roomy roomy_fresh actions s run
  refine ⟨s, loops, ?_⟩
  have first : (s.server.accepted.map ServedConnection.ioLoop)[0]? = some 1 := by
    rw [loops]
    rfl
  rw [List.getElem?_map, Option.map_eq_some_iff] at first
  obtain ⟨served, found, loop⟩ := first
  rw [← turn 0 served found, loop]

end TcpServing

end Muduo
