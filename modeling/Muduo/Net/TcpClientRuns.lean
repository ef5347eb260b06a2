import Muduo.Net.TcpClient

/-!
# One connection at a time

A client never has two open connections: the connector makes the next one only after the close
callback of the last. So the connection that calls back is the one that the client holds, and
whatever was made is open, waits for its `connectDestroyed`, or is destroyed.
-/

open Outcome Transition

namespace Muduo

namespace Connector

/-- What became of the last attempt stays. -/
structure Keeps (c after : Connector) : Prop where
  /-- The connection of the last attempt. -/
  connection : after.connection = c.connection
  /-- No new attempt. -/
  attempts : after.attempts = c.attempts

variable {c after : Connector}

/-- Nothing happens. -/
theorem Keeps.refl (c : Connector) : c.Keeps c := ⟨rfl, rfl⟩

/-- `retry` makes no attempt. -/
theorem retry_keeps (c : Connector) : c.Keeps c.retry := by
  obtain ⟨timers, delay, same, -⟩ := c.retry_eq
  rw [same]
  exact ⟨rfl, rfl⟩

/-- `removeAndResetChannel` makes no attempt. -/
theorem removeAndResetChannel_keeps {fd : Int}
    (done : c.removeAndResetChannel = .ok (after, fd)) :
    c.Keeps after ∧ after.isConnect = c.isConnect := by
  cases held : c.channel with
  | none =>
    rw [removeAndResetChannel.eq_def, held] at done
    cases done
  | some channel =>
    rw [removeAndResetChannel_eq held] at done
    cases done
    exact ⟨⟨rfl, rfl⟩, rfl⟩

/-- `startInLoop` starts in `kDisconnected` and leaves what was handed over. -/
theorem startInLoop_connection {result : ConnectResult} (done : c.startInLoop result = .ok after) :
    c.state = .kDisconnected ∧ after.connection = c.connection := by
  obtain ⟨_, down, rest⟩ := bind_eq_ok.mp done
  rw [ensure_eq_ok, beq_iff_eq] at down
  refine ⟨down, ?_⟩
  split at rest
  · rw [connect] at rest
    split at rest
    · obtain ⟨_, -, rest⟩ := bind_eq_ok.mp rest
      cases rest
      rfl
    · split at rest
      · cases rest
        exact c.retry_keeps.connection
      · cases rest
        rfl
  · cases rest
    rfl

/-- `stopInLoop` leaves what was handed over. -/
theorem stopInLoop_keeps (done : c.stopInLoop = .ok after) : c.Keeps after := by
  rw [stopInLoop] at done
  split at done
  · obtain ⟨⟨removed, fd⟩, removing, rest⟩ := bind_eq_ok.mp done
    obtain ⟨kept, -⟩ := removeAndResetChannel_keeps removing
    cases rest
    exact ⟨removed.retry_keeps.connection.trans kept.connection,
      removed.retry_keeps.attempts.trans kept.attempts⟩
  · cases done
    exact .refl c

/-- `handleError` leaves what was handed over. -/
theorem handleError_keeps (done : c.handleError = .ok after) : c.Keeps after := by
  rw [handleError] at done
  split at done
  · obtain ⟨⟨removed, fd⟩, removing, rest⟩ := bind_eq_ok.mp done
    obtain ⟨kept, -⟩ := removeAndResetChannel_keeps removing
    cases rest
    exact ⟨removed.retry_keeps.connection.trans kept.connection,
      removed.retry_keeps.attempts.trans kept.attempts⟩
  · cases done
    exact .refl c

/-- `resetChannel` leaves what was handed over. -/
theorem resetChannel_keeps (done : c.resetChannel = .ok after) : c.Keeps after := by
  rw [resetChannel.eq_def] at done
  split at done
  · cases done
    exact .refl c
  · obtain ⟨_, -, rest⟩ := bind_eq_ok.mp done
    cases rest
    exact ⟨rfl, rfl⟩

/-- `handleWrite` hands a connection over when it calls back, and leaves all as it was otherwise. -/
theorem handleWrite_hands {err : Nat} {selfConnect : Bool}
    (done : c.handleWrite err selfConnect = .ok after) :
    c.callsBack err selfConnect = true ∧ after.connection = .opened false ∧
        after.attempts = c.attempts ∨
      c.callsBack err selfConnect = false ∧ c.Keeps after := by
  rw [handleWrite] at done
  rw [callsBack]
  split at done
  next connecting =>
    obtain ⟨⟨removed, fd⟩, removing, rest⟩ := bind_eq_ok.mp done
    obtain ⟨kept, wanted⟩ := removeAndResetChannel_keeps removing
    have retried : c.Keeps removed.retry := ⟨removed.retry_keeps.connection.trans kept.connection,
      removed.retry_keeps.attempts.trans kept.attempts⟩
    dsimp only at rest
    rw [wanted] at rest
    split at rest
    next fails =>
      cases rest
      exact .inr ⟨by simp [fails], retried⟩
    next clean =>
      rw [not_not] at clean
      split at rest
      next self =>
        cases rest
        exact .inr ⟨by simp [self], retried⟩
      next apart =>
        split at rest
        next wants =>
          cases rest
          exact .inl ⟨by simp [connecting, clean, apart, wants], rfl, kept.attempts⟩
        next unwanted =>
          cases rest
          exact .inr ⟨by simp [unwanted], ⟨kept.connection, kept.attempts⟩⟩
  next other =>
    obtain ⟨_, -, rest⟩ := bind_eq_ok.mp done
    cases rest
    exact .inr ⟨by simp [other], .refl c⟩

/-- A functor that is not that of a connection leaves what was handed over, unless it starts to
connect when nothing is handed over. -/
theorem runTask_keeps {task : ConnectorTask} {result : ConnectResult}
    (other : ∀ attempt, task ≠ .forceCloseInLoop attempt)
    (done : c.runTask task result = .ok after) :
    after.connection = c.connection ∧ (c.state = .kDisconnected ∨ after.attempts = c.attempts) := by
  cases task with
  | startInLoop =>
    obtain ⟨down, same⟩ := startInLoop_connection done
    exact ⟨same, .inl down⟩
  | stopInLoop =>
    have kept := stopInLoop_keeps done
    exact ⟨kept.connection, .inr kept.attempts⟩
  | resetChannel attempt =>
    have kept := resetChannel_keeps done
    exact ⟨kept.connection, .inr kept.attempts⟩
  | forceCloseInLoop attempt => exact absurd rfl (other attempt)

end Connector

namespace TcpClient

/-- The connection that the connector handed over last and that is open is the only open one, and
the client holds it. -/
inductive Linked (s : TcpClient) : Prop
  /-- There is none. -/
  | free (unopened : ∀ polled, s.connector.connection ≠ .opened polled) (unmade : s.opened = [])
      (held : s.connection = none)
  /-- There is one. -/
  | holds {i : Nat} {conn : ClientConnection} {polled : Bool}
      (handed : s.connector.connection = .opened polled) (only : s.opened = [i])
      (held : s.connection = some i) (found : s.made[i]? = some conn)
      (last : conn.attempt = s.connector.attempts) (polls : i ∈ s.polled → polled = true)

/-- The client keeps its books on its connections. -/
structure Sound (s : TcpClient) : Prop where
  /-- The connector makes one attempt at a time. -/
  single : s.connector.Single
  /-- The open connection. -/
  linked : s.Linked
  /-- Every connection is open, waits for its end, or has come to it. -/
  parts : (s.opened ++ s.destroys ++ s.destroyed).Perm (List.range s.made.length)
  /-- Only connections that were made are polled. -/
  past : ∀ i ∈ s.polled, i < s.made.length
  /-- The next number. -/
  next : s.nextConnId = wrapInt (s.made.length + 1)
  /-- Connections are named by their numbers. -/
  names : ∀ (i : Nat) (conn : ClientConnection), s.made[i]? = some conn →
    conn.name = connName s.name conn.peer (wrapInt (i + 1))

variable {s after : TcpClient}

/-- A new client has made no connection. -/
theorem new_sound (name : List UInt8) : (new name).Sound where
  single := Connector.new_single
  linked := .free (fun _ => nofun) rfl rfl
  parts := .refl _
  past i member := by cases member
  next := by
    have one : wrapInt 1 = 1 := wrapInt_of_lt (by decide) (by decide)
    exact one.symm
  names i conn found := by cases found

/-- Only the connector and the wishes of the user change. -/
structure Beside (s after : TcpClient) : Prop where
  /-- `m_name`. -/
  name : after.name = s.name
  /-- `m_nextConnId`. -/
  nextConnId : after.nextConnId = s.nextConnId
  /-- `m_connection`. -/
  connection : after.connection = s.connection
  /-- The connections. -/
  made : after.made = s.made
  /-- The open ones. -/
  opened : after.opened = s.opened
  /-- Those that are polled. -/
  polled : after.polled = s.polled
  /-- Those that wait for their end. -/
  destroys : after.destroys = s.destroys
  /-- Those that have come to it. -/
  destroyed : after.destroyed = s.destroyed

/-- What the connector does when it hands nothing over. -/
theorem Sound.beside (sound : s.Sound) (same : s.Beside after) (single : after.connector.Single)
    (connection : after.connector.connection = s.connector.connection)
    (attempts : s.connector.state = .kDisconnected ∨
      after.connector.attempts = s.connector.attempts) : after.Sound where
  single := single
  linked := by
    cases sound.linked with
    | free unopened unmade held =>
      refine .free ?_ (same.opened.trans unmade) (same.connection.trans held)
      rw [connection]
      exact unopened
    | @holds i conn polled handed only held found last polls =>
      have up := sound.single.handed (by rw [handed]; nofun)
      have still : after.connector.attempts = s.connector.attempts := by
        refine attempts.resolve_left ?_
        rw [up]
        nofun
      refine .holds (connection.trans handed) (same.opened.trans only) (same.connection.trans held)
        ?_ (last.trans still.symm) ?_
      · rw [same.made]
        exact found
      · rw [same.polled]
        exact polls
  parts := by
    rw [same.opened, same.destroys, same.destroyed, same.made]
    exact sound.parts
  past := by
    rw [same.polled, same.made]
    exact sound.past
  next := by
    rw [same.nextConnId, same.made]
    exact sound.next
  names := by
    rw [same.made, same.name]
    exact sound.names

/-- A step of the connector that hands nothing over. -/
theorem Sound.connector (sound : s.Sound) {connector : Connector} {isRetry isConnect : Bool}
    (single : connector.Single) (connection : connector.connection = s.connector.connection)
    (attempts : s.connector.state = .kDisconnected ∨
      connector.attempts = s.connector.attempts) :
    Sound { s with connector, isRetry, isConnect } :=
  sound.beside ⟨rfl, rfl, rfl, rfl, rfl, rfl, rfl, rfl⟩ single connection attempts

/-- A connection is made when none is open. -/
theorem Sound.newConnection (sound : s.Sound) {connector : Connector} (single : connector.Single)
    (none : s.opened = []) (handed : connector.connection = .opened false)
    (peer : List UInt8) :
    (TcpClient.newConnection { s with connector } peer).Sound where
  single := single
  linked := by
    refine .holds handed ?_ rfl List.getElem?_concat_length rfl fun polled =>
      absurd (sound.past _ polled) (Nat.lt_irrefl _)
    exact congrArg (· ++ [s.made.length]) none
  parts := by
    have parts := sound.parts
    rw [none, List.nil_append] at parts
    have more := List.perm_append_singleton s.made.length (s.destroys ++ s.destroyed)
    show (s.opened ++ [s.made.length] ++ s.destroys ++ s.destroyed).Perm
      (List.range (s.made ++ [_]).length)
    rw [none, List.length_append, List.length_singleton, List.range_succ]
    exact more.symm.trans (parts.append_right [s.made.length])
  past i polled := by
    show i < (s.made ++ [_]).length
    rw [List.length_append]
    exact Nat.lt_succ_of_lt (sound.past i polled)
  next := by
    have grown : (TcpClient.newConnection { s with connector } peer).made.length =
        s.made.length + 1 := List.length_append
    have number : wrapInt (s.nextConnId + 1) = wrapInt ((s.made.length + 1 : Nat) + 1) := by
      rw [sound.next, wrapInt_add_wrapInt, Nat.cast_add, Nat.cast_one]
    rw [grown]
    exact number
  names i conn found := by
    have cases' : s.made[i]? = some conn ∨ i = s.made.length ∧
        conn = ⟨connName s.name peer s.nextConnId, peer, connector.attempts⟩ := by
      have inside := (List.getElem?_eq_some_iff.mp found).1
      by_cases old : i < s.made.length
      · exact .inl ((List.getElem?_append_left old).symm.trans found)
      · have length : (s.made ++ [(⟨connName s.name peer s.nextConnId, peer,
            connector.attempts⟩ : ClientConnection)]).length = s.made.length + 1 :=
          List.length_append
        have last : i = s.made.length := by
          have bound : i < s.made.length + 1 := length ▸ inside
          omega
        refine .inr ⟨last, ?_⟩
        rw [last] at found
        exact (Option.some.inj (List.getElem?_concat_length.symm.trans found)).symm
    obtain old | ⟨rfl, rfl⟩ := cases'
    · exact sound.names i conn old
    · exact congrArg (connName s.name peer) sound.next

/-- What an open connection is to the client. -/
theorem Sound.open_eq (sound : s.Sound) {i : Nat} {conn : ClientConnection} (member : i ∈ s.opened)
    (found : s.made[i]? = some conn) :
    ∃ polled, s.connector.connection = .opened polled ∧ s.opened = [i] ∧ s.connection = some i ∧
      conn.attempt = s.connector.attempts ∧ (i ∈ s.polled → polled = true) := by
  cases sound.linked with
  | free unopened unmade held =>
    rw [unmade] at member
    cases member
  | @holds j other polled handed only held found' last polls =>
    rw [only] at member
    obtain rfl := List.mem_singleton.mp member
    obtain rfl := Option.some.inj (found.symm.trans found')
    exact ⟨polled, handed, only, held, last, polls⟩

/-- The open connection closes: it is the one that the client holds, and the connector begins anew
if it should. -/
theorem closeConnection_sound {i : Nat} {conn : ClientConnection} {result : ConnectResult}
    (sound : s.Sound) (member : i ∈ s.opened) (found : s.made[i]? = some conn)
    (single : s.connector.closeConnection.Single) :
    ∃ after, s.closeConnection i conn result = .ok after ∧ after.Sound := by
  obtain ⟨polled, handed, only, held, last, -⟩ := sound.open_eq member found
  have closed : s.connector.closeConnection.connection = .closed := by
    rw [Connector.closeConnection.eq_def, handed]
  have emptied : s.opened.erase i = [] := by
    rw [only, List.erase_cons_head]
  have moved : (s.destroys ++ [i] ++ s.destroyed).Perm (List.range s.made.length) := by
    refine .trans ?_ sound.parts
    rw [only]
    exact (List.perm_append_singleton i s.destroys).append_right s.destroyed
  have removed (connector : Connector) (kept : connector.Single)
      (unopened : ∀ polled, connector.connection ≠ .opened polled) : Sound { s with
        connector
        opened := []
        connection := none
        destroys := s.destroys ++ [i] } :=
    ⟨kept, .free unopened rfl rfl, moved, sound.past, sound.next, sound.names⟩
  have same : (s.connection == some i) = true := beq_iff_eq.mpr held
  rw [closeConnection, if_pos last, removeConnection, same, emptied]
  simp only [ensure_true, ok_bind]
  split
  · have restarts : Connector.Attempt s.connector.closeConnection (.restart result) _ :=
      .restart closed
    obtain ⟨connector, restarted, kept⟩ := restarts.single trivial single
    rw [restarted]
    refine ⟨_, rfl, removed connector kept fun other => ?_⟩
    rw [Connector.restart] at restarted
    rw [(Connector.startInLoop_connection restarted).2]
    nofun
  · refine ⟨_, rfl, removed _ single fun other => ?_⟩
    rw [closed]
    nofun

/-- What `openOf` finds. -/
theorem openOf_eq_some {attempt i : Nat} {conn : ClientConnection}
    (found : s.openOf attempt = some (i, conn)) :
    i ∈ s.opened ∧ s.made[i]? = some conn ∧ conn.attempt = attempt := by
  obtain ⟨j, member, found⟩ := List.exists_of_findSome?_eq_some found
  obtain ⟨other, there, found⟩ := Option.bind_eq_some_iff.mp found
  split at found
  next same =>
    cases found
    exact ⟨member, there, same⟩
  next => cases found

/-- A functor of the connector or of a connection. -/
theorem runTask_sound {task : ConnectorTask} {rest : List ConnectorTask} {result : ConnectResult}
    (sound : s.Sound) (first : s.connector.functors = task :: rest) :
    ∃ after, runTask { s with connector := { s.connector with functors := rest } } task result =
      .ok after ∧ after.Sound := by
  obtain ⟨connector, done, kept⟩ :=
    @Connector.runTask_single _ task rest result sound.single first
  by_cases other : ∀ attempt, task ≠ .forceCloseInLoop attempt
  · obtain ⟨connection, attempts⟩ := Connector.runTask_keeps other done
    have ran : runTask { s with connector := { s.connector with functors := rest } } task result =
        .ok { s with connector } := by
      rw [runTask.eq_def]
      split
      next attempt => exact absurd rfl (other attempt)
      next =>
        dsimp only
        rw [done]
        rfl
    exact ⟨_, ran, sound.connector kept connection attempts⟩
  · obtain ⟨attempt, same⟩ := not_forall.mp other
    obtain rfl := not_not.mp same
    have popped := sound.single.pop first fun _ => nofun
    have before : Sound { s with connector := { s.connector with functors := rest } } :=
      sound.connector popped rfl (.inr rfl)
    rw [runTask.eq_def]
    dsimp only
    split
    next i conn found =>
      obtain ⟨member, there, rfl⟩ := openOf_eq_some found
      obtain ⟨-, -, -, -, last, -⟩ := before.open_eq member there
      have closes :
          connector = Connector.closeConnection { s.connector with functors := rest } := by
        have ran := Except.ok.inj done
        rw [if_pos last] at ran
        exact ran.symm
      rw [closes] at kept
      exact closeConnection_sound before member there kept
    next => exact ⟨_, rfl, before⟩

/-- No careful action fails an assertion, and each keeps the books of the client. -/
theorem Attempt.sound {action : Action} {result : Except Fault TcpClient}
    (attempt : Attempt s action result) (careful : s.Careful action) (sound : s.Sound) :
    ∃ after, result = .ok after ∧ after.Sound := by
  cases attempt with
  | @connect caller outcome =>
    have starts : Connector.Attempt s.connector (.start caller outcome) _ := .start
    obtain ⟨connector, done, kept⟩ := starts.single careful sound.single
    have down : s.connector.state = .kDisconnected := careful.1
    have connection : connector.connection = s.connector.connection := by
      cases caller with
      | loop => exact (Connector.startInLoop_connection done).2
      | other =>
        cases done
        rfl
    rw [TcpClient.connect, done]
    exact ⟨_, rfl, sound.connector kept connection (.inl down)⟩
  | disconnect => exact ⟨_, rfl, sound.connector sound.single rfl (.inr rfl)⟩
  | stop =>
    obtain ⟨connector, done, kept⟩ := Connector.Attempt.stop.single trivial sound.single
    cases done
    exact ⟨_, rfl, sound.connector kept rfl (.inr rfl)⟩
  | enableRetry => exact ⟨_, rfl, sound.connector sound.single rfl (.inr rfl)⟩
  | @forceClose i conn opened found =>
    obtain ⟨polled, handed, -, -, last, -⟩ := sound.open_eq opened found
    obtain ⟨connector, done, kept⟩ :=
      (Connector.Attempt.forceClose handed).single trivial sound.single
    cases done
    rw [last]
    exact ⟨_, rfl, sound.connector kept rfl (.inr rfl)⟩
  | @close i conn outcome handling opened polled found =>
    obtain ⟨polls, handed, -, -, -, seen⟩ := sound.open_eq opened found
    rw [seen polled] at handed
    obtain ⟨connector, done, kept⟩ :=
      (Connector.Attempt.close handling handed).single trivial sound.single
    cases done
    exact closeConnection_sound sound opened found kept
  | @write err selfConnect peer handling registered =>
    have writes : Connector.Attempt s.connector (.write err selfConnect) _ :=
      .write handling registered
    obtain ⟨connector, done, kept⟩ := writes.single trivial sound.single
    rw [handleWrite, done]
    refine ⟨_, rfl, ?_⟩
    obtain ⟨calls, handed, -⟩ | ⟨silent, keeps⟩ := Connector.handleWrite_hands done
    · rw [if_pos calls]
      refine sound.newConnection kept ?_ handed peer
      have connecting : s.connector.state = .kConnecting := by
        rw [Connector.callsBack] at calls
        simp only [Bool.and_eq_true, beq_iff_eq] at calls
        exact calls.1.1.1
      have unhanded := sound.single.unhanded (by rw [connecting]; nofun)
      cases sound.linked with
      | free unopened unmade held => exact unmade
      | holds handed => cases handed.symm.trans unhanded
    · rw [if_neg (Bool.eq_false_iff.mp silent)]
      exact sound.connector kept keeps.connection (.inr keeps.attempts)
  | error handling registered =>
    obtain ⟨connector, done, kept⟩ :=
      (Connector.Attempt.error handling registered).single trivial sound.single
    have keeps := Connector.handleError_keeps done
    rw [done]
    exact ⟨_, rfl, sound.connector kept keeps.connection (.inr keeps.attempts)⟩
  | @timer position outcome handling scheduled =>
    have fires : Connector.Attempt s.connector (.timer position outcome) _ :=
      .timer handling scheduled
    obtain ⟨connector, done, kept⟩ := fires.single careful sound.single
    obtain ⟨down, connection⟩ := Connector.startInLoop_connection done
    rw [done]
    exact ⟨_, rfl, sound.connector kept connection (.inl down)⟩
  | poll idle done =>
    obtain ⟨connector, polled, kept⟩ :=
      (Connector.Attempt.poll idle done).single trivial sound.single
    obtain rfl := Except.ok.inj polled
    have bound : ∀ i ∈ s.opened, i < s.made.length := fun i member =>
      List.mem_range.mp (sound.parts.subset
        (List.mem_append_left _ (List.mem_append_left _ member)))
    refine ⟨_, rfl, kept, ?_, sound.parts, bound, sound.next, sound.names⟩
    cases sound.linked with
    | free unopened unmade held =>
      refine .free (fun polled => ?_) unmade held
      dsimp only
      rw [Connector.poll.eq_def]
      split
      next opened => exact absurd opened (unopened _)
      next none =>
        rw [none]
        nofun
      next closed =>
        rw [closed]
        nofun
    | holds handed only held found last polls =>
      have polled : s.connector.poll.connection = .opened true := by
        rw [Connector.poll.eq_def, handed]
      refine .holds polled only held found ?_ fun _ => rfl
      dsimp only
      rw [Connector.poll.eq_def, handed]
      exact last
  | doPendingFunctors handling =>
    obtain ⟨connector, swapped, kept⟩ :=
      (Connector.Attempt.doPendingFunctors handling).single trivial sound.single
    obtain rfl := Except.ok.inj swapped
    exact ⟨_, rfl, sound.connector kept rfl (.inr rfl)⟩
  | functor idle first => exact runTask_sound sound first
  | @connectDestroyed i rest idle first =>
    refine ⟨_, rfl, sound.single, ?_, ?_, sound.past, sound.next, sound.names⟩
    · cases sound.linked with
      | free unopened unmade held => exact .free unopened unmade held
      | holds handed only held found last polls => exact .holds handed only held found last polls
    · refine .trans ?_ sound.parts
      rw [first, List.append_assoc, List.append_assoc]
      refine List.Perm.append_left s.opened ?_
      rw [← List.append_assoc]
      exact List.perm_append_singleton i (rest ++ s.destroyed)

/-- Every careful step keeps the books of the client. -/
theorem Step.sound {action : Action} (step : Step s action after) (careful : s.Careful action)
    (sound : s.Sound) : after.Sound := by
  obtain ⟨other, same, kept⟩ := Attempt.sound step careful sound
  obtain rfl := Except.ok.inj same
  exact kept

/-- The name of a connection with a short peer and a small number is not cut. -/
theorem connName_eq {peer : List UInt8} {i : Nat} (name : List UInt8) (short : peer.length ≤ 21)
    (small : i + 1 < 10 ^ 8) : connName name peer (wrapInt (i + 1)) =
      name ++ (bytes ":" ++ peer.takeWhile (· ≠ 0) ++ bytes "#" ++ decimal (i + 1)) := by
  have digits : (decimal (i + 1)).length ≤ 8 := decimal_length_le (by decide) small
  have address : (peer.takeWhile (· ≠ 0)).length ≤ 21 :=
    (List.takeWhile_sublist _).length_le.trans short
  have shown : formatInt (wrapInt (i + 1)) = decimal (i + 1) := by
    rw [wrapInt_of_lt (by omega) (by omega), formatInt, if_neg (by omega)]
    rfl
  have colon : (bytes ":").length = 1 := rfl
  have mark : (bytes "#").length = 1 := rfl
  rw [connName, shown, snprintf_of_lt]
  rw [List.length_append, List.length_append, List.length_append]
  omega

/-- The digits at the end of a name are its number. -/
theorem decimal_of_mark {front back : List UInt8} {one two : Nat}
    (same : front ++ bytes "#" ++ decimal one = back ++ bytes "#" ++ decimal two) : one = two := by
  have digits (text : List UInt8) (number : Nat) :
      (text ++ bytes "#" ++ decimal number).reverse.takeWhile (· ≠ 35) =
        (decimal number).reverse := by
    have all : ∀ byte ∈ (decimal number).reverse, (decide (byte ≠ 35)) = true := by
      intro byte member
      refine decide_eq_true fun mark => ?_
      have digit := le_of_mem_decimal (List.mem_reverse.mp member)
      rw [mark] at digit
      exact absurd digit (by decide)
    have mark : (bytes "#").reverse = [35] := rfl
    rw [List.reverse_append, List.reverse_append, mark, List.takeWhile_append_of_pos all]
    exact List.append_nil _
  have ends := congrArg (fun text : List UInt8 => text.reverse.takeWhile (· ≠ 35)) same
  rw [digits, digits] at ends
  exact decimal_injective (List.reverse_injective ends)

/-- One connection at a time: in every run with careful calls of `connect()`, no action fails an
assertion, that of `removeConnection` included; the client holds exactly the open connection; every
connection that was made is open, or waits for one `connectDestroyed`, or had one; and connections
with short addresses of their peers have names of their own while their numbers are small. -/
theorem client_holds_the_open_connection (name : List UInt8) (actions : List Action)
    (s : TcpClient) (run : Run (Guarded Step Careful) (new name) actions s) :
    (∀ action result, s.Careful action → Attempt s action result →
        ∃ after, result = .ok after) ∧
      s.opened = s.connection.toList ∧
      (s.opened ++ s.destroys ++ s.destroyed).Perm (List.range s.made.length) ∧
      ∀ (i j : Nat) (conn other : ClientConnection), s.made[i]? = some conn →
        s.made[j]? = some other → conn.peer.length ≤ 21 → other.peer.length ≤ 21 →
        i + 1 < 10 ^ 8 → j + 1 < 10 ^ 8 → conn.name = other.name → i = j := by
  have sound : s.Sound := run.invariant (new_sound name) fun _ _ _ sound taken =>
    taken.1.sound taken.2 sound
  refine ⟨fun action result careful attempt => ?_, ?_, sound.parts, ?_⟩
  · obtain ⟨after, done, -⟩ := attempt.sound careful sound
    exact ⟨after, done⟩
  · cases sound.linked with
    | free unopened unmade held =>
      rw [unmade, held]
      rfl
    | holds handed only held found last polls =>
      rw [only, held]
      rfl
  · intro i j conn other first second short brief small little same
    rw [sound.names i conn first, sound.names j other second, connName_eq s.name short small,
      connName_eq s.name brief little, List.append_right_inj] at same
    exact Nat.succ.inj (decimal_of_mark same)

/-- A client that connects again when its connection is closed. -/
theorem client_holds_the_open_connection_again :
    ∃ s, Run (Guarded Step Careful) (new (bytes "client")) [.enableRetry,
        .connect .loop ⟨3, eInProgress⟩, .poll, .write 0 false (bytes "10.0.0.1:80"),
        .doPendingFunctors, .functor ⟨0, 0⟩, .poll, .close 0 ⟨4, eInProgress⟩,
        .doPendingFunctors, .connectDestroyed, .poll, .write 0 false (bytes "10.0.0.1:80")] s ∧
      s.made.length = 2 ∧ s.connection = some 1 ∧ s.opened = s.connection.toList := by
  have reached : ∃ s, Run (Guarded Step Careful) (new (bytes "client")) [.enableRetry,
        .connect .loop ⟨3, eInProgress⟩, .poll, .write 0 false (bytes "10.0.0.1:80"),
        .doPendingFunctors, .functor ⟨0, 0⟩, .poll, .close 0 ⟨4, eInProgress⟩,
        .doPendingFunctors, .connectDestroyed, .poll, .write 0 false (bytes "10.0.0.1:80")] s ∧
      s.made.length = 2 ∧ s.connection = some 1 := by
    refine ⟨_, .cons ⟨.enableRetry, trivial⟩
      (.cons ⟨Attempt.step .connect rfl, rfl, rfl, nofun, fun _ => nofun⟩
      (.cons ⟨.poll rfl rfl, trivial⟩
      (.cons ⟨Attempt.step (.write rfl ⟨_, rfl, rfl⟩) rfl, trivial⟩
      (.cons ⟨.doPendingFunctors rfl, trivial⟩
      (.cons ⟨Attempt.step (.functor rfl rfl) rfl, trivial⟩
      (.cons ⟨.poll rfl rfl, trivial⟩
      (.cons ⟨Attempt.step (.close rfl ?_ ?_ rfl) rfl, trivial⟩
      (.cons ⟨.doPendingFunctors rfl, trivial⟩
      (.cons ⟨.connectDestroyed rfl rfl, trivial⟩
      (.cons ⟨.poll rfl rfl, trivial⟩
      (.cons ⟨Attempt.step (.write rfl ⟨_, rfl, rfl⟩) rfl, trivial⟩ (.nil _)))))))))))), rfl, rfl⟩
    · exact List.mem_singleton_self 0
    · exact List.mem_singleton_self 0
  obtain ⟨s, run, two, held⟩ := reached
  exact ⟨s, run, two, held, (client_holds_the_open_connection _ _ s run).2.1⟩

end TcpClient

end Muduo
