import Mathlib.Data.List.AList
import Muduo.Net.TcpFrame

/-!
# The registry of `dc::net::TcpServer`

The server keeps its connections by name. A name is the name of the server, the address it listens
to and a number, put together in a buffer of 64 bytes. A connection calls its close callback in its
own loop; the callback takes the connection out of the registry, at once when the loop is that of
the server, and else through a functor. Loops do not wait for each other: a step is a call, an event
or a functor of one of them.
-/

open Outcome Transition

namespace Muduo

namespace TcpConnection

/-- How often the close callback was called. -/
def closeCalls (c : TcpConnection) : Nat := c.trace.count .closeCallback

/-- The close callback was called once, when the connection was closed. -/
def Marked (c : TcpConnection) : Prop :=
  c.closeCalls = if c.state = .kDisconnected then 1 else 0

/-- The close callback is not called, and the connection is as closed as it was. -/
structure Uncalled (c after : TcpConnection) : Prop where
  /-- The same number of calls. -/
  calls : after.closeCalls = c.closeCalls
  /-- Closed or not closed. -/
  state : after.state = .kDisconnected ↔ c.state = .kDisconnected

variable {c after : TcpConnection}

/-- A new connection. -/
theorem new_eq (address : ChannelId) (fd : Int) (poller : EpollPoller) (highWaterMark : Nat)
    (writeComplete highWater : Bool) :
    TcpConnection.new address fd poller highWaterMark writeComplete highWater = .ok {
      state := .kConnecting
      reading := false
      channel := .new address fd
      inputBuffer :=
        ⟨List.replicate (kCheapPrepend + kInitialSize) 0, kCheapPrepend, kCheapPrepend⟩
      outputBuffer :=
        ⟨List.replicate (kCheapPrepend + kInitialSize) 0, kCheapPrepend, kCheapPrepend⟩
      highWaterMark
      hasWriteCompleteCallback := writeComplete
      hasHighWaterMarkCallback := highWater
      poller
      tasks := [.connectEstablished]
      delayed := 0
      turn := none
      trace := [] } := by
  rw [TcpConnection.new, Buffer.new_eq (by decide)]
  rfl

/-- What is not `handleClose` does not call the close callback. -/
theorem uncalled_frame : Frame Uncalled where
  trans first second := ⟨second.calls.trans first.calls, second.state.trans first.state⟩
  aside same := ⟨by rw [closeCalls, same.trace]; rfl, by rw [same.state]⟩
  note other := by
    refine ⟨?_, Iff.rfl⟩
    rw [closeCalls, TcpConnection.note, List.count_append, List.count_singleton]
    simp [closeCalls, other]
  interest done := by
    obtain ⟨poller, channel, -, rfl⟩ := setInterest_eq_ok.mp done
    exact ⟨rfl, Iff.rfl⟩
  connect connecting := ⟨rfl, by simp [connecting]⟩
  disconnect up := by
    refine ⟨rfl, iff_of_false (by simp) fun down => ?_⟩
    rw [down] at up
    simp at up

/-- `handleClose` calls the close callback of a connection that was not closed. -/
theorem handleClose_calls (done : c.handleClose = .ok after) :
    c.state ≠ .kDisconnected ∧ after.state = .kDisconnected ∧
      after.closeCalls = c.closeCalls + 1 := by
  have closes := handleClose_closes done
  rw [handleClose] at done
  obtain ⟨_, -, rest⟩ := bind_eq_ok.mp done
  obtain ⟨disabled, disabling, rest⟩ := bind_eq_ok.mp rest
  obtain ⟨poller, channel, -, rfl⟩ := setInterest_eq_ok.mp disabling
  obtain rfl := Except.ok.inj rest
  refine ⟨?_, closes.down, ?_⟩
  · obtain up | up := closes.up <;> rw [up] <;> decide
  · simp [closeCalls, connectionCallback, TcpConnection.note, List.count_append]

/-- The close callback was called at most once. -/
theorem Marked.le_one (marked : c.Marked) : c.closeCalls ≤ 1 := by
  rw [marked]
  split <;> decide

/-- What does not call the close callback keeps its mark. -/
theorem Uncalled.marked (uncalled : c.Uncalled after) (marked : c.Marked) : after.Marked := by
  rw [Marked, uncalled.calls, marked]
  simp only [uncalled.state]

/-- A step calls the close callback at most once, when it closes the connection. -/
theorem Step.marked {action : Action} (step : Step c action after) (marked : c.Marked) :
    after.Marked ∧ (after.closeCalls = c.closeCalls ∨
      c.closeCalls = 0 ∧ after.closeCalls = 1) := by
  have quiet (uncalled : c.Uncalled after) : after.Marked ∧ (after.closeCalls = c.closeCalls ∨
      c.closeCalls = 0 ∧ after.closeCalls = 1) :=
    ⟨uncalled.marked marked, .inl uncalled.calls⟩
  by_cases inside : ∀ next, action ≠ .turn next
  · obtain uncalled | ⟨⟨middle, same, closed⟩, -⟩ := Attempt.framed uncalled_frame step rfl inside
    · exact quiet uncalled
    · obtain ⟨up, down, calls⟩ := handleClose_calls closed
      rw [same.state] at up
      have none : c.closeCalls = 0 := by rw [marked, if_neg up]
      have once : after.closeCalls = 1 := by
        rw [calls, closeCalls, same.trace]
        exact congrArg (· + 1) none
      exact ⟨by rw [Marked, once, if_pos down], .inr ⟨none, once⟩⟩
  · obtain ⟨next, turning⟩ := not_forall.mp inside
    rw [not_not] at turning
    subst turning
    cases step with
    | turn => exact quiet ⟨rfl, Iff.rfl⟩

/-- The end of a closed connection calls nothing. -/
theorem connectDestroyed_uncalled (down : c.state = .kDisconnected)
    (done : c.connectDestroyed = .ok after) : c.Uncalled after := by
  rw [connectDestroyed, if_neg (by rw [down]; decide), ok_bind, removeChannel] at done
  obtain ⟨_, -, rest⟩ := bind_eq_ok.mp done
  obtain ⟨⟨poller, channel⟩, -, rest⟩ := bind_eq_ok.mp rest
  obtain rfl := Except.ok.inj rest
  exact ⟨rfl, Iff.rfl⟩

end TcpConnection

/-- `sa_family`. -/
inductive Family
  | inet
  | inet6
  deriving DecidableEq, Repr

/-- The most characters that `inet_ntop` writes for an address of a family. -/
def Family.maxLength : Family → Nat
  | inet => 15
  | inet6 => 39

/-- `InetAddress::toIpPort()`, with the text that `inet_ntop` writes for the address. -/
def toIpPort (family : Family) (ip : List UInt8) (port : UInt16) : List UInt8 :=
  match family with
  | .inet6 =>
    let buf := bytes "[" ++ ip
    buf ++ snprintf (64 - buf.length) (bytes "]:" ++ decimal port.toNat)
  | .inet => ip ++ snprintf (64 - ip.length) (bytes ":" ++ decimal port.toNat)

/-- A connection of a server. -/
structure ServedConnection where
  /-- `m_name`. -/
  name : List UInt8
  /-- `m_loop`. The loop of the server has the number 0. -/
  ioLoop : Nat
  /-- The rest of the connection. -/
  conn : TcpConnection

/-- What stops the program. -/
inductive ServerFault
  /-- A function of a connection fails. -/
  | connection (fault : Fault)
  /-- An assertion of the server fails. -/
  | assertion (text : String)

/-- `class TcpServer` with its connections, which are numbered in the order in which they were
accepted, and the functors that concern them. -/
structure TcpServer where
  /-- `m_name`. -/
  name : List UInt8
  /-- `m_ipPort`. -/
  ipPort : List UInt8
  /-- `m_nextConnId`. -/
  nextConnId : Int
  /-- `m_connections`. -/
  connections : AList fun _ : List UInt8 => Nat
  /-- The connections that were accepted. -/
  accepted : List ServedConnection
  /-- The `removeConnectionInLoop` functors in the loop of the server. -/
  removals : List Nat
  /-- The `connectDestroyed` functors in the loops of the connections. -/
  destroys : List Nat
  /-- The connections that `removeConnectionInLoop` took out of the registry. -/
  removed : List Nat

namespace TcpServer

/-- `TcpServer(loop, listenAddr, nameArg, option)`. -/
def new (name : List UInt8) (family : Family) (ip : List UInt8) (port : UInt16) : TcpServer where
  name
  ipPort := toIpPort family ip port
  nextConnId := 1
  connections := ∅
  accepted := []
  removals := []
  destroys := []
  removed := []

/-- `connName` in `newConnection`. -/
def connName (name ipPort : List UInt8) (connId : Int) : List UInt8 :=
  name ++ snprintf 64 (bytes "-" ++ ipPort.takeWhile (· ≠ 0) ++ formatInt connId)

/-- `newConnection(sockfd, peerAddr)`, with the loop from `getNextLoop()` and the connection as its
constructor makes it. -/
def newConnection (s : TcpServer) (ioLoop : Nat) (conn : TcpConnection) : TcpServer :=
  let connName := connName s.name s.ipPort s.nextConnId
  { s with
    nextConnId := wrapInt (s.nextConnId + 1)
    connections := s.connections.insert connName s.accepted.length
    accepted := s.accepted ++ [{ name := connName, ioLoop, conn }] }

/-- `removeConnectionInLoop(conn)`. -/
def removeConnectionInLoop (s : TcpServer) (i : Nat) (served : ServedConnection) :
    Except ServerFault TcpServer :=
  let n := if (s.connections.lookup served.name).isSome then 1 else 0
  if n == 1 then
    .ok { s with
      connections := s.connections.erase served.name
      destroys := s.destroys ++ [i]
      removed := s.removed ++ [i] }
  else
    .error (.assertion "n == 1")

/-- `removeConnection(conn)`, called in the loop of the connection. -/
def removeConnection (s : TcpServer) (i : Nat) (served : ServedConnection) :
    Except ServerFault TcpServer :=
  if served.ioLoop = 0 then s.removeConnectionInLoop i served
  else .ok { s with removals := s.removals ++ [i] }

/-- The calls of the close callback of a connection. -/
def closeCallbacks (s : TcpServer) (i : Nat) (served : ServedConnection) :
    Nat → Except ServerFault TcpServer
  | 0 => .ok s
  | calls + 1 => do
    let after ← s.removeConnection i served
    after.closeCallbacks i served calls

/-- A connection in a new state. -/
def put (s : TcpServer) (i : Nat) (served : ServedConnection) (conn : TcpConnection) : TcpServer :=
  { s with accepted := s.accepted.set i { served with conn } }

/-- Something happens to a connection; its close callback calls the server. -/
def call (s : TcpServer) (i : Nat) (served : ServedConnection) :
    Except Fault TcpConnection → Except ServerFault TcpServer
  | .error fault => .error (.connection fault)
  | .ok conn =>
    (s.put i served conn).closeCallbacks i { served with conn }
      (conn.closeCalls - served.conn.closeCalls)

/-- `connectDestroyed()` of a connection. -/
def connectDestroyed (s : TcpServer) (i : Nat) (served : ServedConnection) :
    Except ServerFault TcpServer :=
  match served.conn.connectDestroyed with
  | .error fault => .error (.connection fault)
  | .ok conn => .ok { s.put i served conn with destroys := s.destroys.erase i }

/-- What happens to a server and its connections. -/
inductive Action
  /-- `newConnection`, with the loop and the connection. -/
  | newConnection (ioLoop : Nat) (conn : TcpConnection)
  /-- Something happens to a connection. -/
  | call (i : Nat) (action : TcpConnection.Action)
  /-- Other channels of the loop of a connection use the poller. -/
  | elsewhere (i : Nat) (poller : EpollPoller)
  /-- The loop of the server runs the first `removeConnectionInLoop`. -/
  | removeConnectionInLoop
  /-- The loop of a connection runs its `connectDestroyed`. -/
  | connectDestroyed (i : Nat)

/-- An action that is possible, with its result. -/
inductive Attempt : TcpServer → Action → Except ServerFault TcpServer → Prop
  | newConnection {s : TcpServer} {ioLoop : Nat} {conn : TcpConnection} {address : ChannelId}
      {fd : Int} {poller : EpollPoller} {writeComplete highWater : Bool}
      (made : TcpConnection.new address fd poller (64 * 1024 * 1024) writeComplete highWater =
        .ok conn) :
      Attempt s (.newConnection ioLoop conn) (.ok (s.newConnection ioLoop conn))
  | call {s : TcpServer} {i : Nat} {served : ServedConnection} {action : TcpConnection.Action}
      {result : Except Fault TcpConnection} (found : s.accepted[i]? = some served)
      (attempt : TcpConnection.Attempt served.conn action result) :
      Attempt s (.call i action) (s.call i served result)
  | elsewhere {s : TcpServer} {i : Nat} {served : ServedConnection} {poller : EpollPoller}
      (found : s.accepted[i]? = some served)
      (other : served.conn.poller.Elsewhere poller served.conn.channel.fd) :
      Attempt s (.elsewhere i poller) (.ok (s.put i served { served.conn with poller }))
  | removeConnectionInLoop {s : TcpServer} {i : Nat} {rest : List Nat} {served : ServedConnection}
      (first : s.removals = i :: rest) (found : s.accepted[i]? = some served) :
      Attempt s .removeConnectionInLoop
        ({ s with removals := rest }.removeConnectionInLoop i served)
  | connectDestroyed {s : TcpServer} {i : Nat} {served : ServedConnection}
      (queued : i ∈ s.destroys) (found : s.accepted[i]? = some served) :
      Attempt s (.connectDestroyed i) (s.connectDestroyed i served)

/-- An action that does not stop the program. -/
def Step (before : TcpServer) (action : Action) (after : TcpServer) : Prop :=
  Attempt before action (.ok after)

/-- An attempt that succeeds is a step. -/
theorem Attempt.step {s after : TcpServer} {action : Action}
    {result : Except ServerFault TcpServer} (attempt : Attempt s action result)
    (done : result = .ok after) : Step s action after := by
  rw [done] at attempt
  exact attempt

/-- The name of a connection by its number. -/
def nameOf (s : TcpServer) (i : Nat) : List UInt8 := connName s.name s.ipPort (wrapInt (i + 1))

/-- The server keeps its books on its connections. The close callbacks of some of them were called
and have not reached it yet. -/
structure Kept (owing : List Nat) (s : TcpServer) : Prop where
  /-- The address fits the buffer. -/
  short : s.ipPort.length ≤ 47
  /-- The next number. -/
  next : s.nextConnId = wrapInt (s.accepted.length + 1)
  /-- The names. -/
  names : ∀ {i : Nat} {served : ServedConnection}, s.accepted[i]? = some served →
    served.name = s.nameOf i
  /-- The close callback of a connection is called once, when it is closed. -/
  marked : ∀ {i : Nat} {served : ServedConnection}, s.accepted[i]? = some served →
    served.conn.Marked
  /-- Every call of a close callback has its `removeConnectionInLoop`, which ran or will run. -/
  calls : ∀ {i : Nat} {served : ServedConnection}, s.accepted[i]? = some served →
    served.conn.closeCalls = owing.count i + s.removals.count i + s.removed.count i
  /-- Only accepted connections are removed. -/
  past : ∀ {i : Nat}, i ∈ owing ++ s.removals ++ s.removed → i < s.accepted.length
  /-- Connections are destroyed after they are removed. -/
  destroys : ∀ {i : Nat}, i ∈ s.destroys → i ∈ s.removed

/-- The registry has the connections that are not removed, by name. -/
def Registry (s : TcpServer) : Prop :=
  ∀ name i, s.connections.lookup name = some i ↔
    i < s.accepted.length ∧ name = s.nameOf i ∧ i ∉ s.removed

variable {s after : TcpServer} {i : Nat} {served : ServedConnection} {owing : List Nat}

/-- The address and the port have at most 47 characters. -/
theorem toIpPort_length {family : Family} {ip : List UInt8} (bound : ip.length ≤ family.maxLength)
    (port : UInt16) : (toIpPort family ip port).length ≤ 47 := by
  have digits : (decimal port.toNat).length ≤ 5 :=
    decimal_length_le (by decide) (Nat.lt_of_lt_of_le port.toNat_lt (by decide))
  have colon : (bytes ":").length = 1 := by decide
  have bracket : (bytes "[").length = 1 := by decide
  have closing : (bytes "]:").length = 2 := by decide
  cases family with
  | inet =>
    rw [Family.maxLength] at bound
    simp only [toIpPort, snprintf, List.length_append, List.length_take]
    omega
  | inet6 =>
    rw [Family.maxLength] at bound
    simp only [toIpPort, snprintf, List.length_append, List.length_take]
    omega

/-- The names of fewer than `2^31` connections are distinct. -/
theorem nameOf_injective (short : s.ipPort.length ≤ 47) {j : Nat} (first : i + 1 < 2 ^ 31)
    (second : j + 1 < 2 ^ 31) (same : s.nameOf i = s.nameOf j) : i = j := by
  have whole (number : Nat) (small : number + 1 < 2 ^ 31) : s.nameOf number =
      s.name ++ (bytes "-" ++ s.ipPort.takeWhile (· ≠ 0) ++ decimal (number + 1)) := by
    have digits : (decimal (number + 1)).length ≤ 10 :=
      decimal_length_le (by decide) (Nat.lt_trans small (by decide))
    have address : (s.ipPort.takeWhile (· ≠ 0)).length ≤ 47 :=
      (List.takeWhile_sublist _).length_le.trans short
    have shown : formatInt (wrapInt (number + 1)) = decimal (number + 1) := by
      rw [wrapInt_of_lt (by omega) (by omega), formatInt, if_neg (by omega)]
      rfl
    have dash : (bytes "-").length = 1 := by decide
    rw [nameOf, connName, shown, snprintf_of_lt]
    rw [List.length_append, List.length_append]
    omega
  rw [whole i first, whole j second, List.append_right_inj, List.append_right_inj] at same
  have equal := decimal_injective same
  omega

/-- A new server has no connections. -/
theorem new_kept (name : List UInt8) {family : Family} {ip : List UInt8}
    (bound : ip.length ≤ family.maxLength) (port : UInt16) :
    (new name family ip port).Kept [] ∧ (new name family ip port).Registry := by
  have first : (1 : Int) = wrapInt ((0 : Nat) + 1) := by decide
  refine ⟨⟨toIpPort_length bound port, first, nofun, nofun, nofun, nofun, nofun⟩, ?_⟩
  intro text i
  exact ⟨nofun, fun found => absurd found.1 (Nat.not_lt_zero i)⟩

/-- A connection in a new state in which its close callback was called for the server to know. -/
theorem Kept.put (kept : s.Kept []) (found : s.accepted[i]? = some served) {conn : TcpConnection}
    (marked : conn.Marked)
    (calls : conn.closeCalls = owing.count i + served.conn.closeCalls)
    (others : ∀ j, j ≠ i → owing.count j = 0) : (s.put i served conn).Kept owing := by
  have inside := (List.getElem?_eq_some_iff.mp found).1
  have entry {j : Nat} {other : ServedConnection}
      (there : (s.accepted.set i { served with conn })[j]? = some other) :
      j = i ∧ other = { served with conn } ∨ j ≠ i ∧ s.accepted[j]? = some other := by
    by_cases same : j = i
    · subst same
      rw [List.getElem?_set_self inside] at there
      exact .inl ⟨rfl, (Option.some.inj there).symm⟩
    · rw [List.getElem?_set_ne (Ne.symm same)] at there
      exact .inr ⟨same, there⟩
  refine ⟨kept.short, ?_, fun {j other} there => ?_, fun {j other} there => ?_,
    fun {j other} there => ?_, fun {j} member => ?_, kept.destroys⟩
  · dsimp only [TcpServer.put]
    rw [List.length_set]
    exact kept.next
  · obtain ⟨rfl, rfl⟩ | ⟨-, there⟩ := entry there
    · exact (kept.names found :)
    · exact kept.names there
  · obtain ⟨rfl, rfl⟩ | ⟨-, there⟩ := entry there
    · exact marked
    · exact kept.marked there
  · obtain ⟨rfl, rfl⟩ | ⟨different, there⟩ := entry there
    · dsimp only [TcpServer.put]
      rw [calls, kept.calls found, List.count_nil]
      omega
    · rw [kept.calls there, others j different]
      rfl
  · dsimp only [TcpServer.put] at member ⊢
    rw [List.length_set]
    rw [List.append_assoc, List.mem_append] at member
    obtain owed | old := member
    · have same : j = i := by
        by_contra different
        exact absurd (List.count_pos_iff.mpr owed) (by rw [others j different]; decide)
      exact same ▸ inside
    · exact kept.past old

/-- What concerns the registry and the functors only. -/
theorem Kept.congr (kept : s.Kept owing) {less : List Nat} (name : after.name = s.name)
    (ipPort : after.ipPort = s.ipPort) (next : after.nextConnId = s.nextConnId)
    (accepted : after.accepted = s.accepted)
    (calls : ∀ j, less.count j + after.removals.count j + after.removed.count j =
      owing.count j + s.removals.count j + s.removed.count j)
    (destroys : ∀ j ∈ after.destroys, j ∈ after.removed) : after.Kept less := by
  have nameOf (j : Nat) : after.nameOf j = s.nameOf j := by
    rw [TcpServer.nameOf, TcpServer.nameOf, name, ipPort]
  refine ⟨ipPort ▸ kept.short, ?_, ?_, ?_, ?_, fun {j} member => ?_, destroys _⟩
  · rw [next, accepted]
    exact kept.next
  · intro j other there
    rw [accepted] at there
    rw [nameOf]
    exact kept.names there
  · intro j other there
    rw [accepted] at there
    exact kept.marked there
  · intro j other there
    rw [accepted] at there
    rw [kept.calls there, calls]
  · rw [accepted]
    apply kept.past
    rw [← List.count_pos_iff, List.count_append, List.count_append] at member ⊢
    rwa [← calls]

/-- A connection whose close callback has not reached the server is not removed. -/
theorem Kept.unremoved (kept : s.Kept [i]) (found : s.accepted[i]? = some served) :
    i ∉ s.removed := by
  have calls := kept.calls found
  rw [List.count_singleton_self] at calls
  have once := (kept.marked found).le_one
  rw [← List.count_eq_zero]
  omega

/-- `removeConnectionInLoop` of a connection in the registry. -/
theorem removeConnectionInLoop_found (found : (s.connections.lookup served.name).isSome) :
    s.removeConnectionInLoop i served = .ok { s with
      connections := s.connections.erase served.name
      destroys := s.destroys ++ [i]
      removed := s.removed ++ [i] } := by
  rw [removeConnectionInLoop, if_pos found]
  rfl

/-- `removeConnectionInLoop` that fails no assertion finds the connection in the registry. -/
theorem removeConnectionInLoop_eq_ok (done : s.removeConnectionInLoop i served = .ok after) :
    after = { s with
      connections := s.connections.erase served.name
      destroys := s.destroys ++ [i]
      removed := s.removed ++ [i] } := by
  by_cases found : (s.connections.lookup served.name).isSome = true
  · rw [removeConnectionInLoop_found found] at done
    exact (Except.ok.inj done).symm
  · rw [removeConnectionInLoop, if_neg found] at done
    cases done

/-- `removeConnectionInLoop` keeps the books. -/
theorem Kept.removal (kept : s.Kept [i]) (done : s.removeConnectionInLoop i served = .ok after) :
    after.Kept [] := by
  obtain rfl := removeConnectionInLoop_eq_ok done
  refine kept.congr rfl rfl rfl rfl (fun j => ?_) fun j member => ?_
  · dsimp only
    rw [List.count_append, List.count_nil]
    omega
  · dsimp only at member ⊢
    rw [List.mem_append] at member ⊢
    exact member.imp_left kept.destroys

/-- With the registry right, `removeConnectionInLoop` finds its connection, and leaves the registry
right. -/
theorem Registry.removal (registry : s.Registry) (kept : s.Kept [i])
    (few : s.accepted.length < 2 ^ 31) (found : s.accepted[i]? = some served) :
    ∃ after, s.removeConnectionInLoop i served = .ok after ∧ after.Registry := by
  have inside := (List.getElem?_eq_some_iff.mp found).1
  have listed := (registry served.name i).mpr ⟨inside, kept.names found, kept.unremoved found⟩
  refine ⟨_, removeConnectionInLoop_found (by rw [listed]; rfl), fun name j => ?_⟩
  dsimp only
  rw [List.mem_append, List.mem_singleton]
  by_cases same : name = served.name
  · rw [same, AList.lookup_erase]
    refine ⟨nofun, fun both => ?_⟩
    obtain ⟨before, equal, gone⟩ := both
    have number : j = i := by
      refine nameOf_injective kept.short (by omega) (by omega) ?_
      rw [← kept.names found]
      exact equal.symm
    exact absurd (.inr number) gone
  · rw [AList.lookup_erase_ne same, registry name j]
    refine ⟨fun both => ⟨both.1, both.2.1, fun either => ?_⟩,
      fun both => ⟨both.1, both.2.1, fun gone => both.2.2 (.inl gone)⟩⟩
    obtain gone | number := either
    · exact both.2.2 gone
    · apply same
      rw [both.2.1, number]
      exact (kept.names found).symm

/-- The books and, for fewer than `2^31` connections, the registry are right. -/
structure Orderly (s : TcpServer) : Prop where
  /-- The books. -/
  kept : s.Kept []
  /-- The registry. -/
  registry : s.accepted.length < 2 ^ 31 → s.Registry

/-- What an orderly server may do next: go on in order, or stop for a fault of a connection. -/
def Sound (s : TcpServer) : Except ServerFault TcpServer → Prop
  | .ok after => after.Orderly ∧ s.accepted.length ≤ after.accepted.length
  | .error (.connection _) => True
  | .error (.assertion _) => 2 ^ 31 ≤ s.accepted.length

/-- Only the number of connections counts. -/
theorem Sound.congr {t : TcpServer} {result : Except ServerFault TcpServer}
    (sound : t.Sound result) (size : t.accepted.length = s.accepted.length) : s.Sound result := by
  cases result with
  | ok after => exact ⟨sound.1, size ▸ sound.2⟩
  | error fault =>
    cases fault with
    | connection fault => trivial
    | assertion text =>
      have large : 2 ^ 31 ≤ t.accepted.length := sound
      rw [size] at large
      exact large

/-- A new connection is one more. -/
theorem length_newConnection (s : TcpServer) (ioLoop : Nat) (conn : TcpConnection) :
    (s.newConnection ioLoop conn).accepted.length = s.accepted.length + 1 := List.length_append

/-- The name of a new connection is that of its number. -/
theorem Kept.connName_eq (kept : s.Kept owing) :
    connName s.name s.ipPort s.nextConnId = s.nameOf s.accepted.length := by
  rw [nameOf, kept.next]

/-- A connection after `newConnection` is an old one or the new one. -/
theorem Kept.entry_newConnection (kept : s.Kept owing) {ioLoop : Nat} {conn : TcpConnection}
    {j : Nat} {other : ServedConnection}
    (there : (s.newConnection ioLoop conn).accepted[j]? = some other) :
    s.accepted[j]? = some other ∨
      j = s.accepted.length ∧ other = ⟨s.nameOf s.accepted.length, ioLoop, conn⟩ := by
  have inside := (List.getElem?_eq_some_iff.mp there).1
  rw [length_newConnection] at inside
  by_cases old : j < s.accepted.length
  · exact .inl ((List.getElem?_append_left old).symm.trans there)
  · have last : j = s.accepted.length := by omega
    subst last
    refine .inr ⟨rfl, ?_⟩
    rw [← kept.connName_eq]
    exact Option.some.inj (there.symm.trans List.getElem?_concat_length)

/-- The number of a new connection is in no list of those that are removed. -/
theorem Kept.new_unremoved (kept : s.Kept owing) :
    s.removals.count s.accepted.length = 0 ∧ s.removed.count s.accepted.length = 0 := by
  constructor
  · rw [List.count_eq_zero]
    intro member
    have before := kept.past (List.mem_append_left _ (List.mem_append_right _ member))
    exact absurd before (Nat.lt_irrefl _)
  · rw [List.count_eq_zero]
    intro member
    exact absurd (kept.past (List.mem_append_right _ member)) (Nat.lt_irrefl _)

/-- A new connection that is not closed enters the books. -/
theorem Kept.newConnection (kept : s.Kept []) {conn : TcpConnection} (ioLoop : Nat)
    (unmarked : conn.closeCalls = 0) (up : conn.state ≠ .kDisconnected) :
    (s.newConnection ioLoop conn).Kept [] := by
  obtain ⟨removals, removed⟩ := kept.new_unremoved
  refine ⟨kept.short, ?_, ?_, ?_, ?_, fun {j} member => ?_, kept.destroys⟩
  · rw [length_newConnection, Nat.cast_add, Nat.cast_one, ← wrapInt_add_wrapInt, ← kept.next]
    rfl
  · intro j other there
    obtain old | ⟨rfl, rfl⟩ := kept.entry_newConnection there
    · exact kept.names old
    · rfl
  · intro j other there
    obtain old | ⟨rfl, rfl⟩ := kept.entry_newConnection there
    · exact kept.marked old
    · exact unmarked.trans (if_neg up).symm
  · intro j other there
    obtain old | ⟨rfl, rfl⟩ := kept.entry_newConnection there
    · exact kept.calls old
    · dsimp only [TcpServer.newConnection]
      rw [unmarked, removals, removed, List.count_nil]
  · rw [length_newConnection]
    exact Nat.lt_succ_of_lt (kept.past member)

/-- A new connection enters the registry under its name. -/
theorem Registry.newConnection (registry : s.Registry) (kept : s.Kept owing)
    {conn : TcpConnection} (ioLoop : Nat) (few : s.accepted.length + 1 < 2 ^ 31) :
    (s.newConnection ioLoop conn).Registry := by
  intro text j
  dsimp only [TcpServer.newConnection]
  rw [kept.connName_eq, List.length_append, List.length_singleton]
  show _ ↔ j < s.accepted.length + 1 ∧ text = s.nameOf j ∧ j ∉ s.removed
  by_cases same : text = s.nameOf s.accepted.length
  · rw [same, AList.lookup_insert, Option.some_inj]
    constructor
    · rintro rfl
      exact ⟨Nat.lt_succ_self _, rfl, List.count_eq_zero.mp kept.new_unremoved.2⟩
    · rintro ⟨inside, equal, -⟩
      exact nameOf_injective kept.short (by omega) (by omega) equal
  · rw [AList.lookup_insert_ne same, registry text j]
    refine ⟨fun both => ⟨Nat.lt_succ_of_lt both.1, both.2⟩, fun both => ⟨?_, both.2⟩⟩
    have different : j ≠ s.accepted.length := by
      rintro rfl
      exact same both.2.1
    omega

/-- A new connection is entered under its name. -/
theorem Orderly.newConnection (orderly : s.Orderly) {conn : TcpConnection} (ioLoop : Nat)
    (unmarked : conn.closeCalls = 0) (up : conn.state ≠ .kDisconnected) :
    (s.newConnection ioLoop conn).Orderly where
  kept := orderly.kept.newConnection ioLoop unmarked up
  registry few := by
    rw [length_newConnection] at few
    exact (orderly.registry (Nat.lt_of_succ_lt few)).newConnection orderly.kept ioLoop few

/-- The registry does not depend on the states of the connections. -/
theorem Registry.put (registry : s.Registry) (i : Nat) (served : ServedConnection)
    (conn : TcpConnection) : (s.put i served conn).Registry := by
  intro name j
  dsimp only [TcpServer.put]
  rw [List.length_set]
  exact registry name j

/-- A connection that goes on without a call of its close callback. -/
theorem Orderly.put (orderly : s.Orderly) (found : s.accepted[i]? = some served)
    {conn : TcpConnection} (marked : conn.Marked)
    (calls : conn.closeCalls = served.conn.closeCalls) : (s.put i served conn).Orderly where
  kept := orderly.kept.put found marked (by rw [calls, List.count_nil, Nat.zero_add])
    fun _ _ => List.count_nil
  registry few := by
    rw [TcpServer.put, List.length_set] at few
    exact (orderly.registry few).put i served conn

/-- `removeConnectionInLoop` of a connection whose close callback was called. -/
theorem removeConnectionInLoop_sound (kept : s.Kept [i])
    (registry : s.accepted.length < 2 ^ 31 → s.Registry) (found : s.accepted[i]? = some served) :
    s.Sound (s.removeConnectionInLoop i served) := by
  cases outcome : s.removeConnectionInLoop i served with
  | ok after =>
    have accepted : after.accepted = s.accepted := by rw [removeConnectionInLoop_eq_ok outcome]
    refine ⟨⟨kept.removal outcome, fun few => ?_⟩, by rw [accepted]⟩
    rw [accepted] at few
    obtain ⟨next, done, right⟩ := (registry few).removal kept few found
    obtain rfl := Except.ok.inj (outcome.symm.trans done)
    exact right
  | error fault =>
    cases fault with
    | connection fault => trivial
    | assertion text =>
      by_contra few
      obtain ⟨next, done, -⟩ := (registry (not_le.mp few)).removal kept (not_le.mp few) found
      cases outcome.symm.trans done

/-- `removeConnection` of a connection whose close callback was just called. -/
theorem removeConnection_sound (kept : s.Kept [i])
    (registry : s.accepted.length < 2 ^ 31 → s.Registry) (found : s.accepted[i]? = some served) :
    s.Sound (s.removeConnection i served) := by
  rw [removeConnection]
  split
  · exact removeConnectionInLoop_sound kept registry found
  · refine ⟨⟨kept.congr rfl rfl rfl rfl (fun j => ?_) fun _ => kept.destroys, registry⟩,
      Nat.le_refl _⟩
    dsimp only
    rw [List.count_append, List.count_nil]
    omega

/-- What happens to a connection of an orderly server. -/
theorem call_sound (orderly : s.Orderly) (found : s.accepted[i]? = some served)
    {action : TcpConnection.Action} {result : Except Fault TcpConnection}
    (attempt : TcpConnection.Attempt served.conn action result) :
    s.Sound (s.call i served result) := by
  cases result with
  | error fault => trivial
  | ok conn =>
    have inside := (List.getElem?_eq_some_iff.mp found).1
    have size : (s.put i served conn).accepted.length = s.accepted.length := List.length_set
    have there : (s.put i served conn).accepted[i]? = some { served with conn } :=
      List.getElem?_set_self inside
    obtain ⟨marked, same | ⟨none, once⟩⟩ :=
      TcpConnection.Step.marked attempt (orderly.kept.marked found)
    · rw [call, same, Nat.sub_self]
      exact ⟨orderly.put found marked same, size.ge⟩
    · have one : (s.put i served conn).closeCallbacks i { served with conn } 1 =
          (s.put i served conn).removeConnection i { served with conn } := by
        rw [closeCallbacks]
        cases (s.put i served conn).removeConnection i { served with conn } <;> rfl
      have kept : (s.put i served conn).Kept [i] := by
        refine orderly.kept.put found marked ?_ fun j different => ?_
        · rw [once, none, List.count_singleton_self]
        · rw [List.count_eq_zero, List.mem_singleton]
          exact different
      have registry : (s.put i served conn).accepted.length < 2 ^ 31 →
          (s.put i served conn).Registry := by
        rw [size]
        exact fun few => (orderly.registry few).put i served conn
      rw [call, once, none, one]
      exact (removeConnection_sound kept registry there).congr size

/-- Every action of an orderly server leaves it in order, or stops for a fault of a connection. -/
theorem Attempt.sound {action : Action} {result : Except ServerFault TcpServer}
    (attempt : Attempt s action result) (orderly : s.Orderly) : s.Sound result := by
  cases attempt with
  | @newConnection ioLoop conn address fd poller writeComplete highWater made =>
    rw [TcpConnection.new_eq] at made
    obtain rfl := Except.ok.inj made
    refine ⟨orderly.newConnection ioLoop rfl nofun, ?_⟩
    rw [length_newConnection]
    exact Nat.le_succ _
  | call found attempt => exact call_sound orderly found attempt
  | elsewhere found other =>
    exact ⟨orderly.put found (orderly.kept.marked found) rfl, List.length_set.ge⟩
  | @removeConnectionInLoop i rest served first found =>
    have kept : Kept [i] { s with removals := rest } := by
      refine orderly.kept.congr rfl rfl rfl rfl (fun j => ?_) fun _ => orderly.kept.destroys
      dsimp only
      rw [first, List.count_cons, List.count_cons, List.count_nil]
      omega
    exact (removeConnectionInLoop_sound kept orderly.registry found).congr rfl
  | @connectDestroyed i served queued found =>
    rw [TcpServer.connectDestroyed]
    cases destroyed : served.conn.connectDestroyed with
    | error fault => trivial
    | ok conn =>
      have gone := orderly.kept.destroys queued
      have called := orderly.kept.calls found
      have marked := orderly.kept.marked found
      have down : served.conn.state = .kDisconnected := by
        by_contra up
        have none : served.conn.closeCalls = 0 := by rw [marked, if_neg up]
        have some := List.count_pos_iff.mpr gone
        omega
      have uncalled := TcpConnection.connectDestroyed_uncalled down destroyed
      have next := orderly.put found (uncalled.marked marked) uncalled.calls
      refine ⟨⟨next.kept.congr rfl rfl rfl rfl (fun _ => rfl)
        fun j member => next.kept.destroys (List.mem_of_mem_erase member), next.registry⟩,
        List.length_set.ge⟩

/-- What an action has the loops run of the functions of the registry. -/
inductive Ran
  /-- `newConnection`. -/
  | newConnection
  /-- `removeConnectionInLoop(conn)`. -/
  | removeConnectionInLoop (i : Nat)
  /-- `connectDestroyed()`, from the queue. -/
  | connectDestroyed (i : Nat)
  deriving DecidableEq, Repr

/-- What a step has the loops run, read off the action: `newConnection` of the acceptor, the first
functor in the loop of the server, a functor in the loop of a connection, and, where that loop is
the loop of the server, `removeConnectionInLoop` for every call of the close callback. -/
def runs (before : TcpServer) (action : Action) (after : TcpServer) : List Ran :=
  match action with
  | .newConnection _ _ => [.newConnection]
  | .call i _ =>
    match before.accepted[i]?, after.accepted[i]? with
    | some old, some new =>
      if old.ioLoop = 0 then
        List.replicate (new.conn.closeCalls - old.conn.closeCalls) (.removeConnectionInLoop i)
      else []
    | _, _ => []
  | .elsewhere _ _ => []
  | .removeConnectionInLoop => (before.removals.take 1).map .removeConnectionInLoop
  | .connectDestroyed i => [.connectDestroyed i]

/-- Accounts of what the loops ran: every `newConnection` accepted a connection, the connections
removed are those whose `removeConnectionInLoop` ran, and each of these queued `connectDestroyed`
once, which waits or ran. -/
structure Accounts (s : TcpServer) (ran : List Ran) : Prop where
  /-- The connections that were accepted. -/
  accepted : s.accepted.length = ran.count .newConnection
  /-- The connections that were removed. -/
  removed : ∀ i, s.removed.count i = ran.count (.removeConnectionInLoop i)
  /-- The functors that were queued. -/
  destroys : ∀ i, s.destroys.count i + ran.count (.connectDestroyed i) = s.removed.count i

/-- The close callbacks of a connection enter the books of the server once for each call. -/
theorem closeCallbacks_removed {calls : Nat}
    (done : s.closeCallbacks i served calls = .ok after) :
    after.accepted = s.accepted ∧
    after.removed = s.removed ++ (if served.ioLoop = 0 then List.replicate calls i else []) ∧
    after.destroys = s.destroys ++ (if served.ioLoop = 0 then List.replicate calls i else []) := by
  induction calls generalizing s with
  | zero =>
    obtain rfl := Except.ok.inj done
    simp
  | succ calls ih =>
    rw [closeCallbacks] at done
    obtain ⟨middle, called, rest⟩ := bind_eq_ok.mp done
    obtain ⟨accepted, removed, destroys⟩ := ih rest
    rw [accepted, removed, destroys]
    rw [removeConnection] at called
    split_ifs at called ⊢ with home
    · obtain rfl := removeConnectionInLoop_eq_ok called
      simp only [List.append_assoc, List.singleton_append, List.replicate_succ, and_self]
    · obtain rfl := Except.ok.inj called
      exact ⟨rfl, rfl, rfl⟩

/-- What happens to a connection keeps the accounts. -/
theorem Accounts.call {ran : List Ran} (accounts : s.Accounts ran) {conn : TcpConnection}
    {action : TcpConnection.Action} (found : s.accepted[i]? = some served)
    (done : s.call i served (.ok conn) = .ok after) :
    after.Accounts (ran ++ s.runs (.call i action) after) := by
  obtain ⟨accepted, removed, destroys⟩ := closeCallbacks_removed done
  dsimp only [put] at accepted removed destroys
  have there : after.accepted[i]? = some { served with conn } := by
    rw [accepted]
    exact List.getElem?_set_self (List.getElem?_eq_some_iff.mp found).1
  have shown : s.runs (.call i action) after = if served.ioLoop = 0 then
      List.replicate (conn.closeCalls - served.conn.closeCalls) (.removeConnectionInLoop i)
      else [] := by
    rw [runs, found, there]
  rw [shown]
  refine ⟨?_, fun j => ?_, fun j => ?_⟩
  · rw [accepted, List.length_set, accounts.accepted, List.count_append]
    split_ifs <;> simp [List.count_replicate]
  · rw [removed, List.count_append, List.count_append, accounts.removed j]
    split_ifs <;> simp [List.count_replicate]
  · rw [removed, destroys, List.count_append, List.count_append, List.count_append,
      ← accounts.destroys j]
    split_ifs
    · simp [List.count_replicate]
      omega
    · simp

/-- Every step keeps the accounts. -/
theorem Attempt.accounts {action : Action} {result : Except ServerFault TcpServer}
    {ran : List Ran} (attempt : Attempt s action result) (done : result = .ok after)
    (accounts : s.Accounts ran) : after.Accounts (ran ++ s.runs action after) := by
  cases attempt with
  | newConnection made =>
    obtain rfl := Except.ok.inj done
    refine ⟨?_, fun j => ?_, fun j => ?_⟩
    · rw [length_newConnection, accounts.accepted, List.count_append]
      rfl
    · rw [List.count_append, ← accounts.removed j]
      simp [runs, TcpServer.newConnection]
    · dsimp only [TcpServer.newConnection]
      rw [List.count_append, ← accounts.destroys j]
      simp [runs]
  | @call i served action outcome found attempt =>
    cases outcome with
    | error fault => cases done
    | ok conn => exact accounts.call found done
  | elsewhere found other =>
    obtain rfl := Except.ok.inj done
    rw [runs, List.append_nil]
    exact ⟨List.length_set.trans accounts.accepted, accounts.removed, accounts.destroys⟩
  | @removeConnectionInLoop i rest served first found =>
    obtain rfl := removeConnectionInLoop_eq_ok done
    rw [runs, first]
    refine ⟨?_, fun j => ?_, fun j => ?_⟩
    · rw [List.count_append, ← accounts.accepted]
      simp
    · dsimp only
      rw [List.count_append, List.count_append, accounts.removed j]
      simp [List.count_singleton]
    · dsimp only
      rw [List.count_append, List.count_append, List.count_append, ← accounts.destroys j]
      simp [List.count_singleton]
      omega
  | @connectDestroyed i served queued found =>
    rw [TcpServer.connectDestroyed] at done
    cases destroyed : served.conn.connectDestroyed with
    | error fault =>
      rw [destroyed] at done
      cases done
    | ok conn =>
      rw [destroyed] at done
      obtain rfl := Except.ok.inj done
      refine ⟨?_, fun j => ?_, fun j => ?_⟩
      · rw [runs, List.count_append, ← accounts.accepted]
        exact List.length_set
      · rw [runs, List.count_append, ← accounts.removed j]
        simp [put]
      · have entry := accounts.destroys j
        rw [runs, List.count_append]
        dsimp only [put]
        rw [List.count_erase, ← entry]
        by_cases same : j = i
        · subst same
          have some := List.count_pos_iff.mpr queued
          simp
          omega
        · simp [Ne.symm same]

/-- Along every run of a server that accepts fewer than `2^31` connections, the names of the
connections are distinct, the registry has exactly the connections whose `removeConnectionInLoop`
has not run, no action fails the assertion of the server, and of each connection whose
`removeConnectionInLoop` ran there is one `connectDestroyed`, which is in the queue or was run from
it. What ran is read off the actions of the run. -/
theorem registry_exact (name : List UInt8) (family : Family) (ip : List UInt8)
    (bound : ip.length ≤ family.maxLength) (port : UInt16) (actions : List Action)
    (last : Observed TcpServer Ran)
    (run : Run (Observing Step runs) ⟨new name family ip port, []⟩ actions last)
    (few : last.notes.count .newConnection < 2 ^ 31) :
    last.state.accepted.length = last.notes.count .newConnection ∧
    (∀ (i j : Nat) (one two : ServedConnection), last.state.accepted[i]? = some one →
      last.state.accepted[j]? = some two → one.name = two.name → i = j) ∧
    (∀ (key : List UInt8) (i : Nat), last.state.connections.lookup key = some i ↔
      ∃ served : ServedConnection, last.state.accepted[i]? = some served ∧ served.name = key ∧
        Ran.removeConnectionInLoop i ∉ last.notes) ∧
    (∀ action result text, Attempt last.state action result →
      result ≠ .error (.assertion text)) ∧
    ∀ i, last.state.destroys.count i + last.notes.count (.connectDestroyed i) =
      if Ran.removeConnectionInLoop i ∈ last.notes then 1 else 0 := by
  obtain ⟨start, empty⟩ := new_kept name bound port
  have begins : (new name family ip port).Orderly ∧ (new name family ip port).Accounts [] :=
    ⟨⟨start, fun _ => empty⟩, rfl, fun _ => rfl, fun _ => rfl⟩
  have keeps : ∀ before action after, before.state.Orderly ∧ before.state.Accounts before.notes →
      Observing Step runs before action after →
      after.state.Orderly ∧ after.state.Accounts after.notes := by
    rintro before action after ⟨orderly, accounts⟩ ⟨stepped, noted⟩
    rw [noted]
    exact ⟨(Attempt.sound stepped orderly).1, Attempt.accounts stepped rfl accounts⟩
  obtain ⟨orderly, accounts⟩ := run.invariant begins keeps
  have few : last.state.accepted.length < 2 ^ 31 := by rwa [accounts.accepted]
  have kept := orderly.kept
  have size {i : Nat} {served : ServedConnection} (found : last.state.accepted[i]? = some served) :
      i < last.state.accepted.length := (List.getElem?_eq_some_iff.mp found).1
  have ran (i : Nat) : Ran.removeConnectionInLoop i ∈ last.notes ↔ i ∈ last.state.removed := by
    rw [← List.count_pos_iff, ← accounts.removed i, List.count_pos_iff]
  refine ⟨accounts.accepted, fun i j one two first second same => ?_, fun key i => ?_, ?_,
    fun i => ?_⟩
  · have inside := size first
    have within := size second
    rw [kept.names first, kept.names second] at same
    exact nameOf_injective kept.short (by omega) (by omega) same
  · rw [orderly.registry few key i]
    constructor
    · rintro ⟨inside, rfl, present⟩
      exact ⟨_, List.getElem?_eq_getElem inside,
        kept.names (List.getElem?_eq_getElem inside), fun gone => present ((ran i).mp gone)⟩
    · rintro ⟨served, found, rfl, present⟩
      exact ⟨size found, kept.names found, fun gone => present ((ran i).mpr gone)⟩
  · rintro action result text attempt rfl
    exact absurd few (not_lt.mpr (Attempt.sound attempt orderly))
  · rw [accounts.destroys i]
    by_cases gone : i ∈ last.state.removed
    · have inside := kept.past (List.mem_append_right _ gone)
      have found := List.getElem?_eq_getElem inside
      have calls := kept.calls found
      have once := (kept.marked found).le_one
      have some := List.count_pos_iff.mpr gone
      rw [if_pos ((ran i).mpr gone)]
      omega
    · rw [if_neg fun noted => gone ((ran i).mp noted), List.count_eq_zero]
      exact gone

set_option maxRecDepth 20000 in
/-- A connection of another loop is established and closed by force: it is removed through the loop
of the server and destroyed in its own. -/
theorem registry_exact_closed :
    ∃ conn last, Run (Observing Step runs) ⟨new (bytes "s") .inet (bytes "0.0.0.0") 80, []⟩
        [.newConnection 1 conn, .call 0 (.task (.failed 0 0)), .call 0 .forceClose,
          .call 0 (.task (.failed 0 0)), .removeConnectionInLoop, .connectDestroyed 0] last ∧
      last.notes = [.newConnection, .removeConnectionInLoop 0, .connectDestroyed 0] ∧
      last.state.destroys.count 0 + last.notes.count (.connectDestroyed 0) = 1 := by
  have ran : ∃ conn last, Run (Observing Step runs)
        ⟨new (bytes "s") .inet (bytes "0.0.0.0") 80, []⟩
        [.newConnection 1 conn, .call 0 (.task (.failed 0 0)), .call 0 .forceClose,
          .call 0 (.task (.failed 0 0)), .removeConnectionInLoop, .connectDestroyed 0] last ∧
      last.notes = [.newConnection, .removeConnectionInLoop 0, .connectDestroyed 0] := by
    refine ⟨_, _,
      .observe (Attempt.step (.newConnection (TcpConnection.new_eq 0 3 .new _ false false)) rfl)
      (.observe (Attempt.step (.call rfl (.task rfl (.inl rfl) ?_)) rfl)
      (.observe (Attempt.step (.call rfl .forceClose) rfl)
      (.observe (Attempt.step (.call rfl (.task rfl (.inl rfl) ?_)) rfl)
      (.observe (Attempt.step (.removeConnectionInLoop rfl rfl)
        (removeConnectionInLoop_found (by decide +kernel)))
      (.observe (Attempt.step (.connectDestroyed List.mem_cons_self rfl) rfl) (.nil _)))))), rfl⟩
    · intro message other
      cases other
    · intro message other
      cases other
  obtain ⟨conn, last, run, notes⟩ := ran
  obtain ⟨-, -, -, -, once⟩ := registry_exact (bytes "s") .inet (bytes "0.0.0.0") (by decide) 80 _
    last run (by rw [notes]; decide)
  refine ⟨conn, last, run, notes, ?_⟩
  rw [once 0, notes]
  rfl

end TcpServer

end Muduo
