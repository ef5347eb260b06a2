import Muduo.Net.Connector

/-!
# One attempt at a time

At any time at most one thing will make the connector connect: a queued `startInLoop`, a retry
timer, or an attempt that has not ended. `start()` adds one, so it must come when there is none; and
what runs `startInLoop` at once must not come before the `resetChannel` of the last attempt.
-/

open Outcome Transition

namespace Muduo

namespace Connector

/-- No `resetChannel` among these functors. -/
def NoReset (tasks : List ConnectorTask) : Prop := ∀ attempt, .resetChannel attempt ∉ tasks

/-- `start()` comes when the connector is idle, with no retry timer and no `startInLoop` to come; in
the loop thread, only after the channel of the last attempt is reset. A retry timer, too, fires only
after the channel of the last attempt is reset. -/
def Careful (c : Connector) : Action → Prop
  | .start caller _ => c.state = .kDisconnected ∧ c.timers = [] ∧ .startInLoop ∉ c.queue ∧
      (caller = .loop → NoReset c.queue)
  | .timer _ _ => NoReset c.queue
  | _ => True

/-- What will make the connector connect, and the attempt that has not ended. -/
def tokens (c : Connector) : Nat :=
  c.queue.count .startInLoop + c.timers.length + if c.state = .kDisconnected then 0 else 1

/-- The channel of the last attempt is removed and waits for its `resetChannel`, which comes before
any `startInLoop`, and before the connection of the attempt can be closed. -/
def Awaits (c : Connector) (channel : Channel) : Prop :=
  c.channel = some channel ∧ channel.addedToLoop = false ∧
    (∃ front back, c.queue = front ++ .resetChannel channel.address :: back ∧
      .startInLoop ∉ front ∧ NoReset front ∧ NoReset back ∧
      (c.connection = .opened false → .forceCloseInLoop c.attempts ∉ front)) ∧
    c.connection ≠ .opened true ∧ c.connection ≠ .closed ∧
    (c.connection = .opened false → c.handling = false → NoReset c.pending)

/-- The channel of the last attempt is reset, or waits for it. -/
def Settled (c : Connector) : Prop :=
  c.channel = none ∧ NoReset c.queue ∨ ∃ channel, c.Awaits channel

/-- At most one attempt. -/
structure Single (c : Connector) : Prop where
  /-- At most one thing will make the connector connect. -/
  tokens : c.tokens ≤ 1
  /-- While events are handled, all functors are pending. -/
  batch : c.handling = true → c.functors = []
  /-- An attempt has a channel that is watched. -/
  connecting : c.state = .kConnecting →
    c.Registered ∧ NoReset c.queue ∧ .forceCloseInLoop c.attempts ∉ c.queue
  /-- Without an attempt, the channel of the last one is gone or will be. -/
  settled : c.state ≠ .kConnecting → c.Settled
  /-- A connection was handed over in `kConnected`. -/
  handed : c.connection ≠ .none → c.state = .kConnected
  /-- Only connections of past attempts are closed. -/
  closes : ∀ attempt, .forceCloseInLoop attempt ∈ c.queue → attempt ≤ c.attempts

variable {c after : Connector}

/-- A new connector has made no attempt. -/
theorem new_single : new.Single where
  tokens := by decide
  batch := fun _ => rfl
  connecting := nofun
  settled := fun _ => .inl ⟨rfl, nofun⟩
  handed := fun handed => absurd rfl handed
  closes := nofun

/-- Without tokens the connector is disconnected. -/
theorem tokens_eq_zero : c.tokens = 0 ↔
    .startInLoop ∉ c.queue ∧ c.timers = [] ∧ c.state = .kDisconnected := by
  rw [tokens, Nat.add_eq_zero_iff, Nat.add_eq_zero_iff, List.count_eq_zero,
    List.length_eq_zero_iff, and_assoc]
  by_cases down : c.state = .kDisconnected <;> simp [down]

/-- An attempt, or a connection, is the only token. -/
theorem Single.alone (single : c.Single) (up : c.state ≠ .kDisconnected) :
    .startInLoop ∉ c.queue ∧ c.timers = [] := by
  have bound := single.tokens
  rw [Connector.tokens, if_neg up] at bound
  exact ⟨List.count_eq_zero.mp (by omega), List.eq_nil_of_length_eq_zero (by omega)⟩

/-- Outside `kConnected` no connection is there. -/
theorem Single.unhanded (single : c.Single) (other : c.state ≠ .kConnected) :
    c.connection = .none := by
  by_contra handed
  exact other (single.handed handed)

/-- With a connection there is no attempt. -/
theorem Single.still (single : c.Single) (handed : c.connection ≠ .none) :
    c.state ≠ .kConnecting := by
  rw [single.handed handed]
  nofun

/-- A channel that is not held waits for nothing. -/
theorem Settled.bare (settled : c.Settled) (none : c.channel = none) : NoReset c.queue := by
  obtain ⟨_, clear⟩ | ⟨channel, held, _⟩ := settled
  · exact clear
  · rw [none] at held
    cases held

/-- Without a `resetChannel` to come, no channel is held. -/
theorem Settled.clear (settled : c.Settled) (clear : NoReset c.queue) : c.channel = none := by
  obtain ⟨none, _⟩ | ⟨channel, _, _, ⟨front, back, order, _⟩, _⟩ := settled
  · exact none
  · refine absurd ?_ (clear channel.address)
    rw [order]
    exact List.mem_append_right _ List.mem_cons_self

/-- `retry` schedules at most one timer. -/
theorem retry_eq (c : Connector) : ∃ timers delay,
    c.retry = { c with state := .kDisconnected, timers, retryDelayMs := delay } ∧
      timers.length ≤ c.timers.length + 1 := by
  rw [retry]
  split
  · exact ⟨_, _, rfl, by rw [List.length_append]; rfl⟩
  · exact ⟨_, _, rfl, Nat.le_succ _⟩

/-- `startInLoop` without tokens and without a channel. -/
theorem startInLoop_single {result : ConnectResult} (single : c.Single) (free : c.tokens = 0)
    (bare : c.channel = none) : ∃ after, c.startInLoop result = .ok after ∧ after.Single := by
  obtain ⟨starts, timers, down⟩ := tokens_eq_zero.mp free
  have count : c.queue.count .startInLoop = 0 := List.count_eq_zero.mpr starts
  have clear : NoReset c.queue := (single.settled (by rw [down]; nofun)).bare bare
  have none := single.unhanded (by rw [down]; nofun)
  have started : c.startInLoop result = if c.isConnect then c.connect result else .ok c := by
    rw [startInLoop, down]
    rfl
  rw [started]
  by_cases wanted : c.isConnect = true
  swap
  · rw [if_neg wanted]
    exact ⟨c, rfl, single⟩
  rw [if_pos wanted, connect]
  split
  · have fresh : .forceCloseInLoop (c.attempts + 1) ∉ c.queue := fun member =>
      absurd (single.closes _ member) (Nat.not_succ_le_self _)
    rw [connecting, bare]
    refine ⟨_, rfl, ?_, single.batch, fun _ => ⟨⟨_, rfl, rfl⟩, clear, fresh⟩, fun other =>
      absurd rfl other, fun handed => absurd none handed, fun attempt member => ?_⟩
    · rw [tokens, timers]
      exact Nat.add_le_add_right count.le _
    · exact (single.closes _ member).trans (Nat.le_succ _)
  · split
    · obtain ⟨later, delay, same, few⟩ := c.retry_eq
      rw [same]
      refine ⟨_, rfl, ?_, single.batch, nofun, fun _ => .inl ⟨bare, clear⟩, fun handed =>
        absurd none handed, single.closes⟩
      rw [timers] at few
      rw [tokens]
      exact Nat.add_le_add (Nat.add_le_add count.le few) (Nat.le_refl 0)
    · exact ⟨c, rfl, single⟩

/-- What an attempt leaves when it ends. -/
theorem Single.leave (single : c.Single) (connecting : c.state = .kConnecting)
    {channel removed : Channel} (gone : removed.addedToLoop = false)
    (same : removed.address = channel.address) {state : ConnectorState} {timers : List Nat}
    {delay : Nat} {connection : HandedOver} (ended : state ≠ .kConnecting)
    (few : timers.length + (if state = .kDisconnected then 0 else 1) ≤ 1)
    (handed : connection = .none ∨
      connection = .opened false ∧ state = .kConnected ∧ c.handling = true) :
    Single { c with
      state, timers, connection
      retryDelayMs := delay
      channel := some removed
      pending := c.pending ++ [.resetChannel channel.address] } := by
  obtain ⟨starts, -⟩ := single.alone (by rw [connecting]; nofun)
  obtain ⟨-, clear, fresh⟩ := single.connecting connecting
  have order : c.functors ++ (c.pending ++ [.resetChannel channel.address]) =
      c.queue ++ [.resetChannel channel.address] := (List.append_assoc _ _ _).symm
  refine ⟨?_, single.batch, fun still => absurd still ended, fun _ => .inr ⟨removed, rfl, gone,
    ⟨c.queue, [], ?_, starts, clear, nofun, fun _ => fresh⟩, ?_, ?_, ?_⟩, ?_, ?_⟩
  · have count : (c.queue ++ [ConnectorTask.resetChannel channel.address]).count .startInLoop =
        0 := by
      rw [List.count_eq_zero, List.mem_append]
      rintro (old | new)
      · exact starts old
      · simp at new
    rw [Connector.tokens, queue, order, count, Nat.zero_add]
    exact few
  · rw [queue, order, same]
  · obtain none | ⟨opened, -⟩ := handed
    · rw [none]
      nofun
    · rw [opened]
      nofun
  · obtain none | ⟨opened, -⟩ := handed
    · rw [none]
      nofun
    · rw [opened]
      nofun
  · intro _ idle
    obtain none | ⟨_, _, handling⟩ := handed
    · cases none.symm.trans ‹connection = .opened false›
    · cases handling.symm.trans idle
  · intro some
    obtain none | ⟨_, up, _⟩ := handed
    · exact absurd none some
    · exact up
  · intro attempt member
    rw [queue, order, List.mem_append] at member
    obtain old | new := member
    · exact single.closes attempt old
    · simp at new

/-- `removeAndResetChannel` with a channel. -/
theorem removeAndResetChannel_eq {channel : Channel} (held : c.channel = some channel) :
    c.removeAndResetChannel = .ok ({ c with
      channel := some { channel.set .disableAll with addedToLoop := false }
      pending := c.pending ++ [.resetChannel channel.address] }, channel.fd) := by
  rw [removeAndResetChannel.eq_def, held]
  rfl

/-- An attempt that ends with `retry`. -/
theorem Single.retried (single : c.Single) (connecting : c.state = .kConnecting)
    {channel removed : Channel} (gone : removed.addedToLoop = false)
    (same : removed.address = channel.address) (state : ConnectorState) :
    Single (retry { c with
      state
      channel := some removed
      pending := c.pending ++ [.resetChannel channel.address] }) := by
  have none := single.unhanded (by rw [connecting]; nofun)
  obtain ⟨timers, delay, retried, few⟩ := retry_eq { c with
    state
    channel := some removed
    pending := c.pending ++ [.resetChannel channel.address] }
  rw [(single.alone (by rw [connecting]; nofun)).2] at few
  rw [retried]
  exact single.leave connecting gone same nofun few (.inl none)

/-- `stopInLoop` ends an attempt. -/
theorem stopInLoop_single (single : c.Single) :
    ∃ after, c.stopInLoop = .ok after ∧ after.Single := by
  rw [stopInLoop]
  by_cases connecting : c.state = .kConnecting
  · obtain ⟨⟨channel, held, _⟩, -⟩ := single.connecting connecting
    have removed := removeAndResetChannel_eq (c := { c with state := .kDisconnected }) held
    rw [if_pos (beq_iff_eq.mpr connecting), removed]
    refine ⟨_, rfl, ?_⟩
    exact single.retried connecting rfl rfl .kDisconnected
  · rw [if_neg (by simpa using connecting)]
    exact ⟨c, rfl, single⟩

/-- A watched channel belongs to an attempt. -/
theorem Single.registered (single : c.Single) (registered : c.Registered) :
    c.state = .kConnecting := by
  by_contra other
  obtain ⟨channel, held, added⟩ := registered
  obtain ⟨none, -⟩ | ⟨removed, held', gone, -⟩ := single.settled other
  · cases held.symm.trans none
  · obtain rfl := Option.some.inj (held.symm.trans held')
    cases added.symm.trans gone

/-- `handleError` ends an attempt. -/
theorem handleError_single (single : c.Single) (registered : c.Registered) :
    ∃ after, c.handleError = .ok after ∧ after.Single := by
  have connecting := single.registered registered
  obtain ⟨channel, held, _⟩ := registered
  rw [handleError, if_pos (beq_iff_eq.mpr connecting), removeAndResetChannel_eq held]
  exact ⟨_, rfl, single.retried connecting rfl rfl c.state⟩

/-- `handleWrite` ends an attempt. -/
theorem handleWrite_single {err : Nat} {selfConnect : Bool} (single : c.Single)
    (handling : c.handling = true) (registered : c.Registered) :
    ∃ after, c.handleWrite err selfConnect = .ok after ∧ after.Single := by
  have connecting := single.registered registered
  have none := single.unhanded (by rw [connecting]; nofun)
  have timers := (single.alone (by rw [connecting]; nofun)).2
  have few : c.timers.length + 1 ≤ 1 := by
    rw [timers]
    rfl
  obtain ⟨channel, held, _⟩ := registered
  rw [handleWrite, if_pos (beq_iff_eq.mpr connecting), removeAndResetChannel_eq held]
  simp only [ok_bind]
  split
  · exact ⟨_, rfl, single.retried connecting rfl rfl c.state⟩
  · split
    · exact ⟨_, rfl, single.retried connecting rfl rfl c.state⟩
    · split
      · exact ⟨_, rfl, single.leave connecting rfl rfl nofun few (.inr ⟨rfl, rfl, handling⟩)⟩
      · exact ⟨_, rfl, single.leave connecting rfl rfl nofun few (.inl none)⟩

/-- A functor that is no `resetChannel` is queued. -/
theorem Single.push (single : c.Single) {task : ConnectorTask} {isConnect : Bool}
    (other : ∀ attempt, task ≠ .resetChannel attempt)
    (free : task = .startInLoop → c.tokens = 0)
    (past : ∀ attempt, task = .forceCloseInLoop attempt →
      attempt ≤ c.attempts ∧ c.state = .kConnected) :
    Single { c with isConnect, pending := c.pending ++ [task] } := by
  have order : c.functors ++ (c.pending ++ [task]) = c.queue ++ [task] :=
    (List.append_assoc _ _ _).symm
  have clear {tasks : List ConnectorTask} (none : NoReset tasks) : NoReset (tasks ++ [task]) := by
    intro attempt member
    obtain old | new := List.mem_append.mp member
    · exact none attempt old
    · exact other attempt (List.mem_singleton.mp new).symm
  refine ⟨?_, single.batch, fun connecting => ?_, fun still => ?_, single.handed, ?_⟩
  · by_cases start : task = .startInLoop
    · obtain ⟨absent, timers, down⟩ := tokens_eq_zero.mp (free start)
      have count : (c.queue ++ [task]).count .startInLoop = 1 := by
        rw [List.count_append, List.count_eq_zero.mpr absent, start]
        rfl
      rw [Connector.tokens, queue, order, count, timers, if_pos down]
      rfl
    · have count : (c.queue ++ [task]).count .startInLoop = c.queue.count .startInLoop := by
        rw [List.count_append, List.count_singleton, if_neg (by simpa using start), Nat.add_zero]
      rw [Connector.tokens, queue, order, count]
      exact single.tokens
  · obtain ⟨registered, none, fresh⟩ := single.connecting connecting
    rw [queue, order]
    refine ⟨registered, clear none, fun member => ?_⟩
    obtain old | new := List.mem_append.mp member
    · exact fresh old
    · cases connecting.symm.trans (past _ (List.mem_singleton.mp new).symm).2
  · obtain ⟨bare, none⟩ | ⟨channel, held, gone, ⟨front, back, before, starts, first, last, closes⟩,
      unpolled, unclosed, batch⟩ := single.settled still
    · refine .inl ⟨bare, ?_⟩
      rw [queue, order]
      exact clear none
    · refine .inr ⟨channel, held, gone, ⟨front, back ++ [task], ?_, starts, first, clear last,
        closes⟩, unpolled, unclosed, fun opened idle => clear (batch opened idle)⟩
      rw [queue, order, before, List.append_assoc, List.cons_append]
  · intro attempt member
    rw [queue, order] at member
    obtain old | new := List.mem_append.mp member
    · exact single.closes attempt old
    · exact (past attempt (List.mem_singleton.mp new).symm).1

variable {task : ConnectorTask} {rest : List ConnectorTask}

/-- The queue that a functor heads. -/
theorem queue_of_first (first : c.functors = task :: rest) :
    c.queue = task :: (rest ++ c.pending) := by
  rw [queue, first, List.cons_append]

/-- A functor that is no `resetChannel` is taken from the queue. -/
theorem Single.pop (single : c.Single) (first : c.functors = task :: rest)
    (other : ∀ attempt, task ≠ .resetChannel attempt) : Single { c with functors := rest } := by
  have order := queue_of_first first
  have member {inside : ConnectorTask} (later : inside ∈ rest ++ c.pending) : inside ∈ c.queue := by
    rw [order]
    exact List.mem_cons_of_mem _ later
  refine ⟨?_, fun handling => ?_, fun connecting => ?_, fun still => ?_, single.handed,
    fun attempt later => single.closes attempt (member later)⟩
  · have bound := single.tokens
    have fewer : (rest ++ c.pending).count .startInLoop ≤ c.queue.count .startInLoop := by
      rw [order]
      exact List.count_le_count_cons
    rw [Connector.tokens] at bound ⊢
    exact (Nat.add_le_add_right (Nat.add_le_add_right fewer _) _).trans bound
  · cases first.symm.trans (single.batch handling)
  · obtain ⟨registered, none, fresh⟩ := single.connecting connecting
    exact ⟨registered, fun attempt later => none attempt (member later),
      fun later => fresh (member later)⟩
  · obtain ⟨bare, none⟩ | ⟨channel, held, gone, ⟨front, back, before, starts, clear, last, closes⟩,
      unpolled, unclosed, batch⟩ := single.settled still
    · exact .inl ⟨bare, fun attempt later => none attempt (member later)⟩
    · cases front with
      | nil =>
        rw [order] at before
        exact absurd (List.cons.inj before).1 (other channel.address)
      | cons head front =>
        rw [order] at before
        obtain ⟨-, before⟩ := List.cons.inj before
        exact .inr ⟨channel, held, gone, ⟨front, back, before,
          fun later => starts (List.mem_cons_of_mem _ later),
          fun attempt later => clear attempt (List.mem_cons_of_mem _ later), last,
          fun opened later => closes opened (List.mem_cons_of_mem _ later)⟩, unpolled, unclosed,
          batch⟩

/-- Before a functor that must follow the `resetChannel`, no channel is held. -/
theorem Single.bare_of_first (single : c.Single) (still : c.state ≠ .kConnecting)
    (first : c.functors = task :: rest)
    (later : task = .startInLoop ∨
      c.connection = .opened false ∧ task = .forceCloseInLoop c.attempts) :
    c.channel = none := by
  obtain ⟨bare, -⟩ | ⟨channel, held, gone, ⟨front, back, before, starts, clear, last, closes⟩,
    -⟩ := single.settled still
  · exact bare
  · rw [queue_of_first first] at before
    cases front with
    | nil =>
      have head : task = .resetChannel channel.address := (List.cons.inj before).1
      rw [head] at later
      simp at later
    | cons head front =>
      obtain ⟨rfl, -⟩ := List.cons.inj before
      obtain rfl | ⟨opened, rfl⟩ := later
      · exact absurd List.mem_cons_self starts
      · exact absurd List.mem_cons_self (closes opened)

/-- `resetChannel` resets the channel it was queued for. -/
theorem resetChannel_single {attempt : Nat} (single : c.Single)
    (first : c.functors = .resetChannel attempt :: rest) :
    ∃ after, { c with functors := rest }.resetChannel = .ok after ∧ after.Single := by
  have order := queue_of_first first
  have queued : ¬NoReset c.queue := fun none => by
    refine none attempt ?_
    rw [order]
    exact List.mem_cons_self
  have still : c.state ≠ .kConnecting := fun connecting =>
    queued (single.connecting connecting).2.1
  obtain ⟨-, none⟩ | ⟨channel, held, gone, ⟨front, back, before, starts, clear, last, closes⟩,
    -⟩ := single.settled still
  · exact absurd none queued
  rw [order] at before
  cases front with
  | cons head front =>
    obtain ⟨rfl, -⟩ := List.cons.inj before
    exact absurd List.mem_cons_self (clear attempt)
  | nil =>
    obtain ⟨-, rfl⟩ := List.cons.inj before
    rw [resetChannel.eq_def]
    simp only [held, gone, Bool.not_false, ensure_true, ok_bind]
    refine ⟨_, rfl, ?_, fun handling => ?_, fun connecting => absurd connecting still,
      fun _ => .inl ⟨rfl, last⟩, single.handed, fun other later => single.closes other ?_⟩
    · have bound := single.tokens
      rw [Connector.tokens, order] at bound
      exact bound
    · cases first.symm.trans (single.batch handling)
    · rw [order]
      exact List.mem_cons_of_mem _ later

/-- The connection of the last attempt closes after the channel of the attempt is reset. -/
theorem closeConnection_single (single : c.Single)
    (bare : ∀ polled, c.connection = .opened polled → c.channel = none) :
    c.closeConnection.Single := by
  rw [closeConnection]
  split
  next polled opened =>
    have handed : c.connection ≠ .none := by
      rw [opened]
      nofun
    have none := (single.settled (single.still handed)).bare (bare polled opened)
    exact ⟨single.tokens, single.batch, single.connecting, fun _ => .inl ⟨bare polled opened, none⟩,
      fun _ => single.handed handed, single.closes⟩
  next => exact single
  next => exact single

/-- A connection that was polled, or is closed, has no channel of its attempt left. -/
theorem Single.bare_of_handed (single : c.Single)
    (handed : c.connection = .opened true ∨ c.connection = .closed) : c.channel = none := by
  have some : c.connection ≠ .none := by
    intro none
    rw [none] at handed
    simp at handed
  obtain ⟨bare, -⟩ | ⟨channel, _, _, _, unpolled, unclosed, -⟩ :=
    single.settled (single.still some)
  · exact bare
  · exact absurd handed (not_or.mpr ⟨unpolled, unclosed⟩)

/-- A functor keeps one attempt at a time. -/
theorem runTask_single {result : ConnectResult} (single : c.Single)
    (first : c.functors = task :: rest) :
    ∃ after, { c with functors := rest }.runTask task result = .ok after ∧ after.Single := by
  cases task with
  | startInLoop =>
    have queued : .startInLoop ∈ c.queue := by
      rw [queue_of_first first]
      exact List.mem_cons_self
    have down : c.state = .kDisconnected := by
      by_contra up
      exact (single.alone up).1 queued
    have bare := single.bare_of_first (by rw [down]; nofun) first (.inl rfl)
    have free : tokens { c with functors := rest } = 0 := by
      have bound := single.tokens
      have count : c.queue.count .startInLoop = (rest ++ c.pending).count .startInLoop + 1 := by
        rw [queue_of_first first, List.count_cons_self]
      rw [tokens, count] at bound
      rw [tokens, queue]
      dsimp only
      omega
    exact startInLoop_single (single.pop first nofun) free bare
  | stopInLoop => exact stopInLoop_single (single.pop first nofun)
  | resetChannel attempt => exact resetChannel_single single first
  | forceCloseInLoop attempt =>
    refine ⟨_, rfl, ?_⟩
    split
    next last =>
      obtain rfl : attempt = c.attempts := last
      refine closeConnection_single (single.pop first nofun) fun polled opened => ?_
      cases polled with
      | true => exact single.bare_of_handed (.inl opened)
      | false =>
        have still := single.still (by rw [opened]; nofun)
        exact single.bare_of_first still first (.inr ⟨opened, rfl⟩)
    next => exact single.pop first nofun

/-- Polling keeps one attempt at a time: all functors queued before the hand-over have run. -/
theorem poll_single (single : c.Single) (idle : c.handling = false) (done : c.functors = []) :
    c.poll.Single := by
  have order : c.queue = c.pending := by rw [queue, done, List.nil_append]
  rw [poll]
  split
  next polled opened =>
    have handed : c.connection ≠ .none := by
      rw [opened]
      nofun
    have settled := single.settled (single.still handed)
    have clear : NoReset c.queue := by
      obtain ⟨-, none⟩ | ⟨channel, _, _, _, unpolled, _, batch⟩ := settled
      · exact none
      · cases polled with
        | true => exact absurd opened unpolled
        | false =>
          rw [order]
          exact batch opened idle
    exact ⟨single.tokens, fun _ => done, single.connecting,
      fun _ => .inl ⟨settled.clear clear, clear⟩, fun _ => single.handed handed, single.closes⟩
  next none =>
    refine ⟨single.tokens, fun _ => done, single.connecting, fun still => ?_, single.handed,
      single.closes⟩
    obtain free | ⟨channel, held, gone, queued, unpolled, unclosed, -⟩ := single.settled still
    · exact .inl free
    · exact .inr ⟨channel, held, gone, queued, unpolled, unclosed, fun _ => nofun⟩
  next closed =>
    have bare := single.bare_of_handed (.inr closed)
    have settled := single.settled (single.still (by rw [closed]; nofun))
    exact ⟨single.tokens, fun _ => done, single.connecting,
      fun _ => .inl ⟨bare, settled.bare bare⟩, single.handed, single.closes⟩

/-- The swap of the pending functors keeps one attempt at a time. -/
theorem doPendingFunctors_single (single : c.Single) (handling : c.handling = true) :
    Single { c with handling := false, functors := c.pending, pending := [] } := by
  have order : c.pending ++ [] = c.queue := by
    rw [queue, single.batch handling, List.nil_append, List.append_nil]
  refine ⟨?_, nofun, fun connecting => ?_, fun still => ?_, single.handed, fun attempt member => ?_⟩
  · rw [tokens, queue, order]
    exact single.tokens
  · rw [queue, order]
    exact single.connecting connecting
  · obtain ⟨bare, none⟩ | ⟨channel, held, gone, ⟨front, back, before, starts, clear, last, closes⟩,
      unpolled, unclosed, -⟩ := single.settled still
    · refine .inl ⟨bare, ?_⟩
      rw [queue, order]
      exact none
    · refine .inr ⟨channel, held, gone, ⟨front, back, ?_, starts, clear, last, closes⟩, unpolled,
        unclosed, fun _ _ => nofun⟩
      rw [queue, order]
      exact before
  · rw [queue, order] at member
    exact single.closes attempt member

/-- No careful action fails an assertion, and each keeps one attempt at a time. -/
theorem Attempt.single {action : Action} {result : Except Fault Connector}
    (attempt : Attempt c action result) (careful : c.Careful action) (single : c.Single) :
    ∃ after, result = .ok after ∧ after.Single := by
  cases attempt with
  | @start caller outcome =>
    obtain ⟨down, timers, absent, clear⟩ := careful
    have free : c.tokens = 0 := tokens_eq_zero.mpr ⟨absent, timers, down⟩
    cases caller with
    | loop =>
      have settled := single.settled (by rw [down]; nofun)
      have wanted : Single { c with isConnect := true } :=
        ⟨single.tokens, single.batch, single.connecting, single.settled, single.handed,
          single.closes⟩
      exact startInLoop_single wanted free (settled.clear (clear rfl))
    | other => exact ⟨_, rfl, single.push nofun (fun _ => free) nofun⟩
  | stop => exact ⟨_, rfl, single.push nofun nofun nofun⟩
  | @restart outcome closed =>
    have bare := single.bare_of_handed (.inr closed)
    have up : c.state = .kConnected := single.handed (by rw [closed]; nofun)
    obtain ⟨absent, timers⟩ := single.alone (by rw [up]; nofun)
    have settled := single.settled (by rw [up]; nofun)
    have free : tokens { c with
        state := .kDisconnected
        retryDelayMs := kInitRetryDelayMs
        isConnect := true
        connection := .none } = 0 := tokens_eq_zero.mpr ⟨absent, timers, rfl⟩
    have fresh : Single { c with
        state := .kDisconnected
        retryDelayMs := kInitRetryDelayMs
        isConnect := true
        connection := .none } :=
      ⟨free.le.trans (Nat.zero_le 1), single.batch, nofun,
        fun _ => .inl ⟨bare, settled.bare bare⟩, fun handed => absurd rfl handed, single.closes⟩
    exact startInLoop_single fresh free bare
  | @forceClose polled opened =>
    have up : c.state = .kConnected := single.handed (by rw [opened]; nofun)
    refine ⟨_, rfl, single.push nofun nofun fun attempt same => ?_⟩
    obtain rfl := ConnectorTask.forceCloseInLoop.inj same
    exact ⟨Nat.le_refl _, up⟩
  | close handling opened =>
    exact ⟨_, rfl, closeConnection_single single fun _ _ => single.bare_of_handed (.inl opened)⟩
  | write handling registered => exact handleWrite_single single handling registered
  | error handling registered => exact handleError_single single registered
  | @timer position outcome handling scheduled =>
    have length : (c.timers.eraseIdx position).length = c.timers.length - 1 :=
      List.length_eraseIdx_of_lt scheduled
    have bound := single.tokens
    rw [tokens] at bound
    have free : tokens { c with timers := c.timers.eraseIdx position } = 0 := by
      rw [tokens]
      dsimp only
      rw [length]
      exact Nat.le_zero.mp (by simp only [queue] at bound ⊢; omega)
    have down : c.state = .kDisconnected := (tokens_eq_zero.mp free).2.2
    have bare := (single.settled (by rw [down]; nofun)).clear careful
    have fired : Single { c with timers := c.timers.eraseIdx position } :=
      ⟨free.le.trans (Nat.zero_le 1), single.batch, single.connecting, single.settled,
        single.handed, single.closes⟩
    exact startInLoop_single fired free bare
  | poll idle done => exact ⟨_, rfl, poll_single single idle done⟩
  | doPendingFunctors handling => exact ⟨_, rfl, doPendingFunctors_single single handling⟩
  | functor idle first => exact runTask_single single first

/-- One attempt at a time: in every state of every run of careful actions, no careful action fails
an assertion, and a `resetChannel` that is queued is that of the channel that is held. -/
theorem one_attempt_at_a_time (actions : List Action) (c : Connector)
    (run : Run (Guarded Step Careful) new actions c) :
    (∀ action result, c.Careful action → Attempt c action result → ∃ after, result = .ok after) ∧
      ∀ attempt channel, .resetChannel attempt ∈ c.queue → c.channel = some channel →
        channel.address = attempt := by
  have single : c.Single := run.invariant new_single fun _ _ _ single taken => by
    obtain ⟨after, same, kept⟩ := taken.1.single taken.2 single
    obtain rfl := Except.ok.inj same
    exact kept
  refine ⟨fun action result careful attempt => ?_, fun attempt channel queued held => ?_⟩
  · obtain ⟨after, done, -⟩ := attempt.single careful single
    exact ⟨after, done⟩
  · have still : c.state ≠ .kConnecting := fun connecting =>
      (single.connecting connecting).2.1 attempt queued
    obtain ⟨bare, -⟩ | ⟨other, held', _, ⟨front, back, order, _, clear, last, _⟩, _⟩ :=
      single.settled still
    · cases held.symm.trans bare
    · obtain rfl := Option.some.inj (held.symm.trans held')
      rw [order] at queued
      obtain inFront | same | inBack : _ ∨ _ ∨ _ := by simpa using queued
      · exact absurd inFront (clear attempt)
      · exact same.symm
      · exact absurd inBack (last attempt)

/-- A refused attempt: its timer may fire once the channel is reset. -/
theorem one_attempt_at_a_time_refused :
    ∃ c, Run (Guarded Step Careful) new [.start .loop ⟨3, eInProgress⟩, .poll,
        .write eConnRefused false, .doPendingFunctors, .functor ⟨0, 0⟩, .poll] c ∧
      c.timers = [kInitRetryDelayMs] ∧ c.Careful (.timer 0 ⟨3, eInProgress⟩) ∧
      ∃ after, Step c (.timer 0 ⟨3, eInProgress⟩) after := by
  have reached : ∃ c, Run (Guarded Step Careful) new [.start .loop ⟨3, eInProgress⟩, .poll,
        .write eConnRefused false, .doPendingFunctors, .functor ⟨0, 0⟩, .poll] c ∧
      c.timers = [kInitRetryDelayMs] ∧ c.queue = [] ∧ c.handling = true := by
    refine ⟨_, .cons ⟨Attempt.step .start rfl, rfl, rfl, nofun, fun _ => nofun⟩
      (.cons ⟨Attempt.step (.poll rfl rfl) rfl, trivial⟩
      (.cons ⟨Attempt.step (.write rfl ⟨_, rfl, rfl⟩) rfl, trivial⟩
      (.cons ⟨Attempt.step (.doPendingFunctors rfl) rfl, trivial⟩
      (.cons ⟨Attempt.step (.functor rfl rfl) rfl, trivial⟩
      (.cons ⟨Attempt.step (.poll rfl rfl) rfl, trivial⟩ (.nil _)))))), rfl, rfl, rfl⟩
  obtain ⟨c, run, timers, empty, handling⟩ := reached
  have careful : c.Careful (.timer 0 ⟨3, eInProgress⟩) := fun attempt => by
    rw [empty]
    nofun
  have fires : Attempt c (.timer 0 ⟨3, eInProgress⟩) _ :=
    .timer handling (by rw [timers]; decide)
  obtain ⟨after, done⟩ := (one_attempt_at_a_time _ c run).1 _ _ careful fires
  exact ⟨c, run, timers, careful, after, fires.step done⟩

/-- The first attempt is refused; the user stops and starts again, which begins a second attempt;
then the retry timer of the first one, which nobody cancelled, fires. -/
theorem timer_fires_into_attempt :
    ∃ c, Run Step new [.start .loop ⟨3, eConnRefused⟩, .stop, .start .loop ⟨3, eInProgress⟩,
        .poll] c ∧
      Attempt c (.timer 0 ⟨4, eInProgress⟩) (.error (.assertion "m_state == kDisconnected")) := by
  refine ⟨_, .cons (Attempt.step .start rfl) (.cons (Attempt.step .stop rfl)
    (.cons (Attempt.step .start rfl) (.cons (Attempt.step (.poll rfl rfl) rfl) (.nil _)))), ?_⟩
  have scheduled : 0 < [kInitRetryDelayMs].length := by decide
  exact .timer rfl scheduled

end Connector

end Muduo
