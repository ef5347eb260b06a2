import Mathlib.Logic.Relation
import Muduo.Net.BufferSpec
import Muduo.Net.TcpConnection

/-!
# What a step of a connection can do

Every step of a connection is a chain of moves. A move is one of the few things a connection does
between two states in which its channel and its output buffer fit together. Invariants are proved
for moves, and hold for steps through `Step.moves`.
-/

open Outcome Transition

namespace Muduo

/-- A functor that calls back the user. -/
def ConnTask.IsCallback : ConnTask → Prop
  | .writeCompleteCallback => True
  | .highWaterMarkCallback _ => True
  | .connectEstablished => False
  | .sendInLoop _ => False
  | .shutdownInLoop => False
  | .forceCloseInLoop => False
  | .startReadInLoop => False
  | .stopReadInLoop => False

/-- What the moves of a step may do besides what every step may do. -/
structure Permits where
  /-- Run a `sendInLoop` or `shutdownInLoop` that was queued. -/
  foreign : Prop
  /-- Execute `sendInLoop`. -/
  sends : Prop
  /-- Start to read. -/
  starts : Prop
  /-- Change the input buffer. -/
  reads : Prop
  /-- Queue a functor. -/
  queues : ConnTask → Prop

/-- What every step may do, and nothing besides. -/
def Permits.nothing : Permits := ⟨False, False, False, False, fun _ => False⟩

namespace TcpConnection

/-- The functors after a move are old ones or callbacks. -/
def Callbacks (before after : List ConnTask) : Prop :=
  ∀ task ∈ after, task ∈ before ∨ task.IsCallback

/-- No new functors. -/
theorem callbacks_refl (tasks : List ConnTask) : Callbacks tasks tasks := fun _ => .inl

/-- One callback more. -/
theorem callbacks_queue {before after : List ConnTask} (old : Callbacks before after)
    {task : ConnTask} (callback : task.IsCallback) : Callbacks before (after ++ [task]) := by
  intro other member
  obtain inside | last := List.mem_append.mp member
  · exact old other inside
  · rw [List.mem_singleton.mp last]
    exact .inr callback

/-- One thing that a connection does. -/
inductive Move (permits : Permits) : TcpConnection → TcpConnection → Prop
  /-- Only the surroundings or the input change. -/
  | aside {c after : TcpConnection} (state : after.state = c.state)
      (channel : after.channel = c.channel) (poller : after.poller = c.poller)
      (output : after.outputBuffer = c.outputBuffer) (trace : after.trace = c.trace)
      (tasks : ∀ task ∈ after.tasks, task ∈ c.tasks ∨ permits.queues task)
      (input : after.inputBuffer = c.inputBuffer ∨ permits.reads) : Move permits c after
  /-- The message callback or the close callback. -/
  | called {c : TcpConnection} {effect : ConnEffect}
      (callback : effect = .messageCallback ∨ effect = .closeCallback) :
      Move permits c (c.note effect)
  /-- The connection is established. -/
  | establish {c : TcpConnection} {poller : EpollPoller} {channel : Channel}
      (connecting : c.state = .kConnecting)
      (changed : c.channel.change .enableReading c.poller = .ok (poller, channel)) :
      Move permits c { c with
        state := .kConnected, poller, channel
        trace := c.trace ++ [.connectionCallback true] }
  /-- The connection begins to close. -/
  | disconnect {c : TcpConnection} (up : c.state = .kConnected ∨ c.state = .kDisconnecting) :
      Move permits c { c with state := .kDisconnecting }
  /-- The connection closes. -/
  | close {c : TcpConnection} {poller : EpollPoller} {channel : Channel}
      (up : c.state = .kConnected ∨ c.state = .kDisconnecting)
      (changed : c.channel.change .disableAll c.poller = .ok (poller, channel)) :
      Move permits c { c with
        state := .kDisconnected, poller, channel
        trace := c.trace ++ [.connectionCallback false] }
  /-- Reading starts. -/
  | start {c : TcpConnection} {poller : EpollPoller} {channel : Channel} (may : permits.starts)
      (changed : c.channel.change .enableReading c.poller = .ok (poller, channel)) :
      Move permits c { c with poller, channel, reading := true }
  /-- Reading stops. -/
  | stop {c : TcpConnection} {poller : EpollPoller} {channel : Channel}
      (changed : c.channel.change .disableReading c.poller = .ok (poller, channel)) :
      Move permits c { c with poller, channel, reading := false }
  /-- A message is given up. -/
  | refuse {c : TcpConnection} {message : List UInt8} (down : c.state = .kDisconnected)
      (sending : permits.sends) :
      Move permits c (c.note (.sendInLoop message c.state false))
  /-- An empty message behind others. -/
  | sendNothing {c : TcpConnection} (up : c.state ≠ .kDisconnected) (sending : permits.sends) :
      Move permits c (c.note (.sendInLoop [] c.state false))
  /-- A message is written at once, or lost. -/
  | sendWhole {c : TcpConnection} {message : List UInt8} {result : WriteResult}
      {tasks : List ConnTask} (up : c.state ≠ .kDisconnected)
      (may : c.state = .kConnected ∨ permits.foreign) (idle : c.channel.isWriting = false)
      (whole : result.broken = true ∨ result.taken message = message)
      (callbacks : Callbacks c.tasks tasks) (sending : permits.sends) :
      Move permits c { c with
        tasks
        trace := c.trace ++ [.write message result, .sendInLoop message c.state result.broken] }
  /-- A part of a message is written and the rest kept. -/
  | sendPart {c : TcpConnection} {message rest : List UInt8} {result : WriteResult}
      {output : Buffer} {poller : EpollPoller} {channel : Channel} {tasks : List ConnTask}
      (up : c.state ≠ .kDisconnected) (may : c.state = .kConnected ∨ permits.foreign)
      (idle : c.channel.isWriting = false) (empty : c.outputBuffer.readable = [])
      (parts : result.taken message ++ rest = message) (left : rest ≠ []) (valid : output.Valid)
      (kept : output.readable = rest)
      (changed : c.channel.change .enableWriting c.poller = .ok (poller, channel))
      (callbacks : Callbacks c.tasks tasks) (sending : permits.sends) :
      Move permits c { c with
        outputBuffer := output, poller, channel, tasks
        trace := c.trace ++ [.write message result, .sendInLoop message c.state false] }
  /-- A message is kept behind others. -/
  | sendBehind {c : TcpConnection} {message : List UInt8} {output : Buffer}
      {tasks : List ConnTask} (up : c.state ≠ .kDisconnected)
      (writing : c.channel.isWriting = true) (valid : output.Valid)
      (kept : output.readable = c.outputBuffer.readable ++ message)
      (callbacks : Callbacks c.tasks tasks) (sending : permits.sends) :
      Move permits c { c with
        outputBuffer := output, tasks
        trace := c.trace ++ [.sendInLoop message c.state false] }
  /-- A write of the output buffer takes nothing. -/
  | flushNothing {c : TcpConnection} {result : WriteResult} (writing : c.channel.isWriting = true)
      (none : result.taken c.outputBuffer.readable = []) :
      Move permits c (c.note (.write c.outputBuffer.readable result))
  /-- A write of the output buffer takes a part. -/
  | flushPart {c : TcpConnection} {result : WriteResult} {output : Buffer}
      (writing : c.channel.isWriting = true) (valid : output.Valid)
      (parts : result.taken c.outputBuffer.readable ++ output.readable = c.outputBuffer.readable)
      (left : output.readable ≠ []) :
      Move permits c { c with
        outputBuffer := output
        trace := c.trace ++ [.write c.outputBuffer.readable result] }
  /-- A write of the output buffer takes all. -/
  | flushAll {c : TcpConnection} {result : WriteResult} {output : Buffer} {poller : EpollPoller}
      {channel : Channel} {tasks : List ConnTask} (writing : c.channel.isWriting = true)
      (notLast : c.state ≠ .kDisconnecting) (valid : output.Valid)
      (all : result.taken c.outputBuffer.readable = c.outputBuffer.readable)
      (empty : output.readable = [])
      (changed : c.channel.change .disableWriting c.poller = .ok (poller, channel))
      (callbacks : Callbacks c.tasks tasks) :
      Move permits c { c with
        outputBuffer := output, poller, channel, tasks
        trace := c.trace ++ [.write c.outputBuffer.readable result] }
  /-- A write of the output buffer takes all, and the half-close that waited for it is made. -/
  | flushLast {c : TcpConnection} {result : WriteResult} {output : Buffer} {poller : EpollPoller}
      {channel : Channel} {tasks : List ConnTask} (writing : c.channel.isWriting = true)
      (last : c.state = .kDisconnecting) (valid : output.Valid)
      (all : result.taken c.outputBuffer.readable = c.outputBuffer.readable)
      (empty : output.readable = [])
      (changed : c.channel.change .disableWriting c.poller = .ok (poller, channel))
      (callbacks : Callbacks c.tasks tasks) :
      Move permits c { c with
        outputBuffer := output, poller, channel, tasks
        trace := c.trace ++ [.write c.outputBuffer.readable result, .shutdownWrite []] }
  /-- A connection with nothing to write is half-closed at once. -/
  | shutdown {c : TcpConnection} (connected : c.state = .kConnected)
      (idle : c.channel.isWriting = false) :
      Move permits c { c with
        state := .kDisconnecting
        trace := c.trace ++ [.shutdownWrite c.outputBuffer.readable] }
  /-- A half-close that was queued is made. -/
  | halfClose {c : TcpConnection} (may : permits.foreign) (idle : c.channel.isWriting = false) :
      Move permits c (c.note (.shutdownWrite c.outputBuffer.readable))

/-- A chain of moves. -/
abbrev Moves (permits : Permits) : TcpConnection → TcpConnection → Prop :=
  Relation.ReflTransGen (Move permits)

variable {permits : Permits} {c after : TcpConnection}

/-- Nothing is done. -/
theorem Moves.refl (permits : Permits) (c : TcpConnection) : Moves permits c c :=
  Relation.ReflTransGen.refl

/-- One move. -/
theorem Move.once (move : Move permits c after) : Moves permits c after :=
  Relation.ReflTransGen.single move

/-- What a chain of moves keeps. -/
theorem Moves.invariant {inv : TcpConnection → Prop} (moves : Moves permits c after)
    (keeps : ∀ before next, inv before → Move permits before next → inv next) (start : inv c) :
    inv after := by
  induction moves with
  | refl => exact start
  | tail _ move ih => exact keeps _ _ ih move

/-- A change of interest succeeds through the channel. -/
theorem setInterest_eq_ok {call : Interest} :
    c.setInterest call = .ok after ↔ ∃ poller channel,
      c.channel.change call c.poller = .ok (poller, channel) ∧
        after = { c with poller, channel } := by
  rw [setInterest, bind_eq_ok]
  constructor
  · rintro ⟨⟨poller, channel⟩, changed, done⟩
    exact ⟨poller, channel, changed, (Except.ok.inj done).symm⟩
  · rintro ⟨poller, channel, changed, rfl⟩
    exact ⟨(poller, channel), changed, rfl⟩

/-- No readable bytes are counted exactly when there are none. -/
theorem readableBytes_eq_zero {b : Buffer} (valid : b.Valid) :
    (b.readableBytes == 0) = true ↔ b.readable = [] := by
  rw [beq_iff_eq, ← valid.length_readable, List.length_eq_zero_iff]

/-- `keepRest` warns of the high water mark, appends, and asks for writing. -/
theorem keepRest_eq (c : TcpConnection) (data : List UInt8) (nwrote remaining : Nat) :
    ∃ tasks, Callbacks c.tasks tasks ∧ c.keepRest data nwrote remaining =
      (c.outputBuffer.append (data.drop nwrote) remaining >>= fun outputBuffer =>
        if c.channel.isWriting then .ok { c with tasks, outputBuffer }
        else setInterest { c with tasks, outputBuffer } .enableWriting) := by
  have callback (size : Nat) : (ConnTask.highWaterMarkCallback size).IsCallback := trivial
  have warned : ∃ tasks, Callbacks c.tasks tasks ∧
      (if c.highWaterMark ≤ sizeAdd c.outputBuffer.readableBytes remaining &&
          c.outputBuffer.readableBytes < c.highWaterMark && c.hasHighWaterMarkCallback then
        c.queueInLoop (.highWaterMarkCallback (sizeAdd c.outputBuffer.readableBytes remaining))
      else c) = { c with tasks } := by
    split
    · exact ⟨_, callbacks_queue (callbacks_refl _) (callback _), rfl⟩
    · exact ⟨_, callbacks_refl _, rfl⟩
  obtain ⟨tasks, callbacks, same⟩ := warned
  refine ⟨tasks, callbacks, ?_⟩
  rw [keepRest, same]

/-- What `keepRest` does. -/
theorem keepRest_ok {data : List UInt8} {nwrote remaining : Nat} (valid : c.outputBuffer.Valid)
    (done : c.keepRest data nwrote remaining = .ok after) :
    ∃ tasks output poller channel,
      after = { c with tasks, outputBuffer := output, poller, channel } ∧
      Callbacks c.tasks tasks ∧ remaining ≤ (data.drop nwrote).length ∧ output.Valid ∧
      output.readable = c.outputBuffer.readable ++ (data.drop nwrote).take remaining ∧
      (c.channel.isWriting = true ∧ poller = c.poller ∧ channel = c.channel ∨
        c.channel.isWriting = false ∧
          c.channel.change .enableWriting c.poller = .ok (poller, channel)) := by
  obtain ⟨tasks, callbacks, same⟩ := c.keepRest_eq data nwrote remaining
  rw [same] at done
  obtain ⟨output, appended, rest⟩ := bind_eq_ok.mp done
  obtain ⟨enough, outputValid, kept⟩ := Buffer.append_ok valid appended
  by_cases writing : c.channel.isWriting = true
  · rw [if_pos writing] at rest
    obtain rfl := Except.ok.inj rest
    exact ⟨tasks, output, c.poller, c.channel, rfl, callbacks, enough, outputValid, kept,
      .inl ⟨writing, rfl, rfl⟩⟩
  · rw [if_neg writing] at rest
    obtain ⟨poller, channel, changed, rfl⟩ := setInterest_eq_ok.mp rest
    exact ⟨tasks, output, poller, channel, rfl, callbacks, enough, outputValid, kept,
      .inr ⟨Bool.eq_false_iff.mpr writing, changed⟩⟩

/-- The write complete callback is queued or not. -/
theorem notifyWriteComplete_eq (c : TcpConnection) :
    ∃ tasks, Callbacks c.tasks tasks ∧ c.notifyWriteComplete = { c with tasks } := by
  have callback : ConnTask.writeCompleteCallback.IsCallback := trivial
  rw [notifyWriteComplete]
  split
  · exact ⟨_, callbacks_queue (callbacks_refl _) callback, rfl⟩
  · exact ⟨_, callbacks_refl _, rfl⟩

/-- What the direct write does. -/
theorem directWrite_ok {data : List UInt8} {len nwrote : Nat} {result : WriteResult}
    {faultError : Bool} (fits : result.Fits len)
    (done : c.directWrite data len result = .ok (after, nwrote, faultError)) :
    ∃ tasks, after = { c with tasks, trace := c.trace ++ [.write (data.take len) result] } ∧
      Callbacks c.tasks tasks ∧ len ≤ data.length ∧ nwrote ≤ len ∧ faultError = result.broken ∧
      result.taken (data.take len) = data.take nwrote := by
  rw [directWrite] at done
  obtain ⟨offered, loaded, rest⟩ := bind_eq_ok.mp done
  have enough : len ≤ data.length := by
    by_contra beyond
    rw [load, if_neg beyond] at loaded
    cases loaded
  rw [load, if_pos enough] at loaded
  obtain rfl := Except.ok.inj loaded
  cases result with
  | accepted count =>
    have taken : (WriteResult.accepted count).taken (data.take len) = data.take count := by
      rw [WriteResult.taken, List.take_take, Nat.min_eq_left fits]
    dsimp only at rest
    split at rest
    · obtain ⟨tasks, callbacks, same⟩ :=
        (c.note (.write (data.take len) (.accepted count))).notifyWriteComplete_eq
      rw [same] at rest
      cases rest
      exact ⟨tasks, rfl, callbacks, enough, fits, rfl, taken⟩
    · cases rest
      exact ⟨_, rfl, callbacks_refl _, enough, fits, rfl, taken⟩
  | failed errno logged =>
    cases rest
    exact ⟨_, rfl, callbacks_refl _, enough, Nat.zero_le _, rfl, rfl⟩

/-- Writing is asked for exactly when there is something to write, until the connection is
closed. -/
def Agrees (c : TcpConnection) : Prop :=
  c.state ≠ .kDisconnected → (c.channel.isWriting = true ↔ c.outputBuffer.readable ≠ [])

/-- Nothing is to be written when writing is not asked for. -/
theorem Agrees.empty (agrees : c.Agrees) (up : c.state ≠ .kDisconnected)
    (idle : c.channel.isWriting = false) : c.outputBuffer.readable = [] := by
  by_contra some
  rw [(agrees up).mpr some] at idle
  cases idle

/-- `sendInLoop` is at most one move. -/
theorem sendInLoop_moves {data : List UInt8} {len : Nat} {result : WriteResult}
    (valid : c.outputBuffer.Valid) (agrees : c.Agrees)
    (may : c.state = .kConnected ∨ permits.foreign) (sending : permits.sends)
    (word : len < 2 ^ 64) (fits : result.Fits len)
    (done : c.sendInLoop data len result = .ok after) : Moves permits c after := by
  rw [sendInLoop] at done
  by_cases down : c.state = .kDisconnected
  · rw [if_pos (beq_iff_eq.mpr down)] at done
    obtain rfl := Except.ok.inj done
    exact (Move.refuse down sending).once
  rw [if_neg (by simpa using down)] at done
  obtain ⟨⟨written, nwrote, faultError⟩, direct, rest⟩ := bind_eq_ok.mp done
  obtain ⟨_, _, rest⟩ := bind_eq_ok.mp rest
  obtain ⟨kept, keeping, rest⟩ := bind_eq_ok.mp rest
  obtain rfl := Except.ok.inj rest
  by_cases writing : c.channel.isWriting = true
  · rw [if_neg (by simp [writing])] at direct
    cases direct
    have remaining : sizeSub len 0 = len := sizeSub_of_le (Nat.zero_le _) word
    rw [remaining] at keeping
    by_cases some : 0 < len
    · rw [if_pos (by simp [some])] at keeping
      obtain ⟨tasks, output, poller, channel, rfl, callbacks, enough, outputValid, text, wants⟩ :=
        keepRest_ok valid keeping
      obtain ⟨-, rfl, rfl⟩ | ⟨idle, -⟩ := wants
      · exact (Move.sendBehind down writing outputValid text callbacks sending).once
      · cases writing.symm.trans idle
    · rw [if_neg (by simp [some])] at keeping
      obtain rfl := Except.ok.inj keeping
      have none : data.take len = [] := by
        rw [Nat.eq_zero_of_not_pos some]
        rfl
      rw [none]
      exact (Move.sendNothing down sending).once
  · have idle : c.channel.isWriting = false := Bool.eq_false_iff.mpr writing
    have empty := agrees.empty down idle
    rw [if_pos (by simp [idle, (readableBytes_eq_zero valid).mpr empty])] at direct
    obtain ⟨tasks, rfl, callbacks, enough, bound, rfl, taken⟩ := directWrite_ok fits direct
    have remaining : sizeSub len nwrote = len - nwrote := sizeSub_of_le bound word
    rw [remaining] at keeping
    by_cases keep : result.broken = false ∧ 0 < len - nwrote
    · rw [if_pos (by simp [keep.1, keep.2])] at keeping
      obtain ⟨more, output, poller, channel, rfl, further, available, outputValid, text, wants⟩ :=
        keepRest_ok (c := { c with tasks, trace := _ }) valid keeping
      obtain ⟨now, -⟩ | ⟨-, changed⟩ := wants
      · cases idle.symm.trans now
      · have parts : result.taken (data.take len) ++ (data.drop nwrote).take (len - nwrote) =
            data.take len := by
          rw [taken, ← List.take_add, Nat.add_sub_cancel' bound]
        have left : (data.drop nwrote).take (len - nwrote) ≠ [] := by
          rw [← List.length_pos_iff_ne_nil, List.length_take]
          omega
        have kept : output.readable = (data.drop nwrote).take (len - nwrote) := by
          rw [text, empty, List.nil_append]
        have all : Callbacks c.tasks more := fun task member =>
          (further task member).elim (callbacks task) .inr
        have move : Move permits c _ :=
          .sendPart down may idle empty parts left outputValid kept changed all sending
        simpa [note, keep.1] using move.once
    · rw [if_neg (by simpa using keep)] at keeping
      obtain rfl := Except.ok.inj keeping
      have whole : result.broken = true ∨ result.taken (data.take len) = data.take len := by
        by_cases broken : result.broken = true
        · exact .inl broken
        · right
          have full : len - nwrote = 0 := by
            by_contra some
            exact keep ⟨Bool.eq_false_iff.mpr broken, by omega⟩
          rw [taken, show nwrote = len by omega]
      have move : Move permits c _ := .sendWhole down may idle whole callbacks sending
      simpa [note] using move.once

/-- A write takes everything when it leaves nothing. -/
theorem taken_all_iff {bytes : List UInt8} {n : Nat} :
    (WriteResult.accepted n).taken bytes = bytes ↔ bytes.drop n = [] := by
  rw [WriteResult.taken, List.take_eq_self_iff, List.drop_eq_nil_iff]

/-- `shutdownInLoop` on a channel that does not ask for writing. -/
theorem shutdownInLoop_idle (idle : c.channel.isWriting = false) :
    c.shutdownInLoop = c.note (.shutdownWrite c.outputBuffer.readable) := by
  rw [shutdownInLoop, if_neg (by simp [idle])]

/-- What `handleWrite` does. -/
inductive WriteHandled (c : TcpConnection) (result : WriteResult) (after : TcpConnection) : Prop
  /-- The connection does not wait for writing. -/
  | idle (silent : c.channel.isWriting = false) (same : after = c)
  /-- The write takes nothing. -/
  | nothing (writing : c.channel.isWriting = true)
      (none : result.taken c.outputBuffer.readable = [])
      (same : after = c.note (.write c.outputBuffer.readable result))
  /-- The write takes a part. -/
  | part {output : Buffer} (writing : c.channel.isWriting = true) (valid : output.Valid)
      (parts : result.taken c.outputBuffer.readable ++ output.readable = c.outputBuffer.readable)
      (left : output.readable ≠ [])
      (same : after = { c with
        outputBuffer := output
        trace := c.trace ++ [.write c.outputBuffer.readable result] })
  /-- The write takes all. -/
  | all {output : Buffer} {poller : EpollPoller} {channel : Channel}
      (writing : c.channel.isWriting = true) (notLast : c.state ≠ .kDisconnecting)
      (valid : output.Valid)
      (all : result.taken c.outputBuffer.readable = c.outputBuffer.readable)
      (empty : output.readable = [])
      (changed : c.channel.change .disableWriting c.poller = .ok (poller, channel))
      (same : after = notifyWriteComplete { c with
        outputBuffer := output, poller, channel
        trace := c.trace ++ [.write c.outputBuffer.readable result] })
  /-- The write takes all, and the half-close that waited for it is made. -/
  | last {output : Buffer} {poller : EpollPoller} {channel : Channel}
      (writing : c.channel.isWriting = true) (last : c.state = .kDisconnecting)
      (valid : output.Valid)
      (all : result.taken c.outputBuffer.readable = c.outputBuffer.readable)
      (empty : output.readable = [])
      (changed : c.channel.change .disableWriting c.poller = .ok (poller, channel))
      (same : after = note (notifyWriteComplete { c with
        outputBuffer := output, poller, channel
        trace := c.trace ++ [.write c.outputBuffer.readable result] }) (.shutdownWrite []))

/-- `handleWrite` does one of these things. -/
theorem handleWrite_cases {result : WriteResult} (valid : c.outputBuffer.Valid)
    (fits : result.Fits c.outputBuffer.readable.length) (done : c.handleWrite result = .ok after) :
    c.WriteHandled result after := by
  rw [handleWrite] at done
  by_cases writing : c.channel.isWriting = true
  swap
  · rw [if_neg writing] at done
    exact .idle (Bool.eq_false_iff.mpr writing) (Except.ok.inj done).symm
  rw [if_pos writing] at done
  cases result with
  | failed errno logged => exact .nothing writing rfl (Except.ok.inj done).symm
  | accepted n =>
    dsimp only at done
    by_cases positive : 0 < n
    swap
    · rw [if_neg positive] at done
      have none : (WriteResult.accepted n).taken c.outputBuffer.readable = [] := by
        rw [WriteResult.taken, Nat.eq_zero_of_not_pos positive]
        rfl
      exact .nothing writing none (Except.ok.inj done).symm
    rw [if_pos positive] at done
    have enough : n ≤ c.outputBuffer.readableBytes := by
      rw [← valid.length_readable]
      exact fits
    obtain ⟨output, retrieved, outputValid, left⟩ := Buffer.retrieve_eq valid enough
    obtain ⟨same, also, rest⟩ := bind_eq_ok.mp done
    obtain rfl := Except.ok.inj (retrieved.symm.trans also)
    by_cases empty : output.readable = []
    · rw [if_pos ((readableBytes_eq_zero outputValid).mpr empty)] at rest
      obtain ⟨disabled, disabling, rest⟩ := bind_eq_ok.mp rest
      obtain ⟨poller, channel, changed, rfl⟩ := setInterest_eq_ok.mp disabling
      have all : (WriteResult.accepted n).taken c.outputBuffer.readable =
          c.outputBuffer.readable := taken_all_iff.mpr (left.symm.trans empty)
      have silent : channel.isWriting = false := Channel.change_isWriting changed
      obtain ⟨tasks, -, same⟩ := notifyWriteComplete_eq { c with
        outputBuffer := output, poller, channel
        trace := c.trace ++ [.write c.outputBuffer.readable (.accepted n)] }
      simp only [note, same] at rest
      by_cases last : c.state = .kDisconnecting
      · simp only [beq_iff_eq.mpr last, ↓reduceIte] at rest
        refine .last writing last outputValid all empty changed ?_
        rw [same, ← Except.ok.inj rest, shutdownInLoop_idle silent]
        dsimp only
        rw [empty]
      · simp only [beq_false_of_ne last, Bool.false_eq_true, ↓reduceIte] at rest
        refine .all writing last outputValid all empty changed ?_
        rw [same, ← Except.ok.inj rest]
    · rw [if_neg (by simpa using fun zero => empty ((readableBytes_eq_zero outputValid).mp
        (beq_iff_eq.mpr zero)))] at rest
      refine .part writing outputValid ?_ empty (Except.ok.inj rest).symm
      rw [WriteResult.taken, left, List.take_append_drop]

/-- `handleWrite` is at most one move. -/
theorem handleWrite_moves {result : WriteResult} (valid : c.outputBuffer.Valid)
    (fits : result.Fits c.outputBuffer.readable.length) (done : c.handleWrite result = .ok after) :
    Moves permits c after := by
  cases handleWrite_cases valid fits done with
  | idle silent same =>
    subst same
    exact .refl permits _
  | nothing writing none same =>
    rw [same]
    exact (Move.flushNothing writing none).once
  | part writing valid parts left same =>
    rw [same]
    exact (Move.flushPart writing valid parts left).once
  | all writing notLast valid all empty changed same =>
    obtain ⟨tasks, callbacks, notified⟩ := notifyWriteComplete_eq _
    rw [same, notified]
    exact (Move.flushAll writing notLast valid all empty changed callbacks).once
  | @last output poller channel writing last valid all empty changed same =>
    obtain ⟨tasks, callbacks, notified⟩ := notifyWriteComplete_eq { c with
      outputBuffer := output, poller, channel
      trace := c.trace ++ [.write c.outputBuffer.readable result] }
    have move : Move permits c _ := .flushLast writing last valid all empty changed callbacks
    rw [same, notified]
    simpa [note] using move.once

/-- `handleClose` is two moves. -/
theorem handleClose_moves (done : c.handleClose = .ok after) : Moves permits c after := by
  rw [handleClose] at done
  obtain ⟨_, up, rest⟩ := bind_eq_ok.mp done
  obtain ⟨disabled, disabling, rest⟩ := bind_eq_ok.mp rest
  obtain ⟨poller, channel, changed, rfl⟩ := setInterest_eq_ok.mp disabling
  obtain rfl := Except.ok.inj rest
  have opened : c.state = .kConnected ∨ c.state = .kDisconnecting := by simpa using up
  have down : (StateE.kDisconnected == StateE.kConnected) = false := rfl
  have move : Move permits c _ := .close opened changed
  have closed := move.once.tail (.called (.inr rfl))
  simpa [connectionCallback, note, down] using closed

/-- `forceCloseInLoop` is at most one move. -/
theorem forceCloseInLoop_moves (done : c.forceCloseInLoop = .ok after) :
    Moves permits c after := by
  rw [forceCloseInLoop] at done
  split at done
  · exact handleClose_moves done
  · obtain rfl := Except.ok.inj done
    exact .refl permits c

/-- `startReadInLoop` is at most one move. -/
theorem startReadInLoop_moves (may : permits.starts) (done : c.startReadInLoop = .ok after) :
    Moves permits c after := by
  rw [startReadInLoop] at done
  split at done
  · obtain ⟨enabled, enabling, rest⟩ := bind_eq_ok.mp done
    obtain ⟨poller, channel, changed, rfl⟩ := setInterest_eq_ok.mp enabling
    obtain rfl := Except.ok.inj rest
    exact (Move.start may changed).once
  · obtain rfl := Except.ok.inj done
    exact .refl permits c

/-- `stopReadInLoop` is at most one move. -/
theorem stopReadInLoop_moves (done : c.stopReadInLoop = .ok after) : Moves permits c after := by
  rw [stopReadInLoop] at done
  split at done
  · obtain ⟨disabled, disabling, rest⟩ := bind_eq_ok.mp done
    obtain ⟨poller, channel, changed, rfl⟩ := setInterest_eq_ok.mp disabling
    obtain rfl := Except.ok.inj rest
    exact (Move.stop changed).once
  · obtain rfl := Except.ok.inj done
    exact .refl permits c

/-- `connectEstablished` is one move. -/
theorem connectEstablished_moves (done : c.connectEstablished = .ok after) :
    Moves permits c after := by
  rw [connectEstablished] at done
  obtain ⟨_, connecting, rest⟩ := bind_eq_ok.mp done
  obtain ⟨enabled, enabling, rest⟩ := bind_eq_ok.mp rest
  obtain ⟨poller, channel, changed, rfl⟩ := setInterest_eq_ok.mp enabling
  obtain rfl := Except.ok.inj rest
  have move : Move permits c _ := .establish (by simpa using connecting) changed
  simpa [connectionCallback, note] using move.once

/-- Only the surroundings change. -/
theorem aside_moves (state : after.state = c.state) (channel : after.channel = c.channel)
    (poller : after.poller = c.poller) (output : after.outputBuffer = c.outputBuffer)
    (trace : after.trace = c.trace)
    (tasks : ∀ task ∈ after.tasks, task ∈ c.tasks ∨ permits.queues task)
    (input : after.inputBuffer = c.inputBuffer ∨ permits.reads) : Moves permits c after :=
  (Move.aside state channel poller output trace tasks input).once

/-- A functor is queued. -/
theorem queueInLoop_moves {task : ConnTask} (may : permits.queues task) :
    Moves permits c (c.queueInLoop task) := by
  refine aside_moves rfl rfl rfl rfl rfl (fun other member => ?_) (.inl rfl)
  obtain old | new := List.mem_append.mp member
  · exact .inl old
  · rw [List.mem_singleton.mp new]
    exact .inr may

/-- What `handleRead` does: it changes the input, and then calls back, closes, or does nothing. -/
theorem handleRead_cases {received : Except Int (List UInt8)}
    (done : c.handleRead received = .ok after) :
    ∃ inputBuffer n, c.inputBuffer.readFd received = .ok (inputBuffer, n) ∧
      (after = note { c with inputBuffer } .messageCallback ∨
        handleClose { c with inputBuffer } = .ok after ∨ after = { c with inputBuffer }) := by
  rw [handleRead] at done
  obtain ⟨⟨inputBuffer, n⟩, read, rest⟩ := bind_eq_ok.mp done
  refine ⟨inputBuffer, n, read, ?_⟩
  dsimp only at rest
  split at rest
  · exact .inl (Except.ok.inj rest).symm
  · split at rest
    · exact .inr (.inl rest)
    · exact .inr (.inr (Except.ok.inj rest).symm)

/-- What `send(const StringPiece&)` does: it sends, queues a copy, or does nothing. -/
theorem send_cases {caller : Caller} {message : StringPiece} {result : WriteResult}
    (done : c.send caller message result = .ok after) :
    c.state = .kConnected ∧ caller = .loop ∧ c.sendInLoopPiece message result = .ok after ∨
    c.state = .kConnected ∧ caller = .other ∧
      (∃ copy, asString message = .ok copy ∧ after = c.queueInLoop (.sendInLoop copy)) ∨
    c.state ≠ .kConnected ∧ after = c := by
  rw [send.eq_def] at done
  split at done
  next up =>
    have connected : c.state = .kConnected := beq_iff_eq.mp up
    cases caller with
    | loop => exact .inl ⟨connected, rfl, done⟩
    | other =>
      obtain ⟨copy, copied, queued⟩ := bind_eq_ok.mp done
      exact .inr (.inl ⟨connected, rfl, copy, copied, (Except.ok.inj queued).symm⟩)
  next down =>
    have other : c.state ≠ .kConnected := by simpa using down
    exact .inr (.inr ⟨other, (Except.ok.inj done).symm⟩)

/-- What `send(string&&)` does: it sends, queues the message, or does nothing. -/
theorem sendString_cases {caller : Caller} {message : List UInt8} {result : WriteResult}
    (done : c.sendString caller message result = .ok after) :
    c.state = .kConnected ∧ caller = .loop ∧
      c.sendInLoop message message.length result = .ok after ∨
    c.state = .kConnected ∧ caller = .other ∧ after = c.queueInLoop (.sendInLoop message) ∨
    c.state ≠ .kConnected ∧ after = c := by
  rw [sendString.eq_def] at done
  split at done
  next up =>
    have connected : c.state = .kConnected := beq_iff_eq.mp up
    cases caller with
    | loop => exact .inl ⟨connected, rfl, done⟩
    | other => exact .inr (.inl ⟨connected, rfl, (Except.ok.inj done).symm⟩)
  next down =>
    have other : c.state ≠ .kConnected := by simpa using down
    exact .inr (.inr ⟨other, (Except.ok.inj done).symm⟩)

/-- `handleRead` changes the input and then does what `handleClose` does, or calls back. -/
theorem handleRead_moves {received : Except Int (List UInt8)} (may : permits.reads)
    (done : c.handleRead received = .ok after) : Moves permits c after := by
  obtain ⟨inputBuffer, n, -, rest⟩ := handleRead_cases done
  have input : Moves permits c { c with inputBuffer } :=
    aside_moves rfl rfl rfl rfl rfl (fun _ => .inl) (.inr may)
  obtain rfl | closed | rfl := rest
  · exact input.tail (.called (.inl rfl))
  · exact input.trans (handleClose_moves closed)
  · exact input

/-- `forceClose` in an open state. -/
theorem forceClose_moves (may : permits.queues .forceCloseInLoop) :
    Moves permits c c.forceClose := by
  rw [forceClose]
  split
  next up =>
    have closing : Moves permits c { c with state := .kDisconnecting } :=
      (Move.disconnect (by simpa using up)).once
    exact closing.trans (queueInLoop_moves may)
  next => exact .refl permits c

/-- What a functor does. -/
theorem runTask_moves {task : ConnTask} {result : WriteResult} (valid : c.outputBuffer.Valid)
    (agrees : c.Agrees)
    (foreign : task = .shutdownInLoop ∨ (∃ message, task = .sendInLoop message) → permits.foreign)
    (sends : (∃ message, task = .sendInLoop message) → permits.sends)
    (starts : task = .startReadInLoop → permits.starts)
    (fits : ∀ message, task = .sendInLoop message →
      result.Fits (sizeOfInt (StringPiece.ofString message).length))
    (done : c.runTask task result = .ok after) : Moves permits c after := by
  cases task with
  | connectEstablished => exact connectEstablished_moves done
  | sendInLoop message =>
    exact sendInLoop_moves valid agrees (.inr (foreign (.inr ⟨message, rfl⟩)))
      (sends ⟨message, rfl⟩) (sizeOfInt_lt _) (fits message rfl) done
  | shutdownInLoop =>
    obtain rfl := Except.ok.inj done
    rw [shutdownInLoop]
    split
    next => exact .refl permits c
    next idle =>
      exact (Move.halfClose (foreign (.inl rfl)) (Bool.eq_false_iff.mpr idle)).once
  | forceCloseInLoop => exact forceCloseInLoop_moves done
  | startReadInLoop => exact startReadInLoop_moves (starts rfl) done
  | stopReadInLoop => exact stopReadInLoop_moves done
  | writeCompleteCallback =>
    obtain rfl := Except.ok.inj done
    exact .refl permits _
  | highWaterMarkCallback size =>
    obtain rfl := Except.ok.inj done
    exact .refl permits _

/-- The functors that an action queues, besides callbacks. -/
def Action.Queues (task : ConnTask) : Action → Prop
  | .send caller _ _ => caller = .other ∧ ∃ message, task = .sendInLoop message
  | .sendString caller _ _ => caller = .other ∧ ∃ message, task = .sendInLoop message
  | .shutdown caller => caller = .other ∧ task = .shutdownInLoop
  | .forceClose => task = .forceCloseInLoop
  | .timer => task = .forceCloseInLoop
  | .startRead caller => caller = .other ∧ task = .startReadInLoop
  | .stopRead caller => caller = .other ∧ task = .stopReadInLoop
  | _ => False

/-- The actions that change the input buffer. -/
def Action.Reads : Action → Prop
  | .read _ => True
  | .consume _ => True
  | _ => False

/-- The actions that execute `sendInLoop`: a call in the thread of the loop that observes
`kConnected`, and the functor of another call. -/
def Executes (c : TcpConnection) : Action → Prop
  | .send caller _ _ => caller = .loop ∧ c.state = .kConnected
  | .sendString caller _ _ => caller = .loop ∧ c.state = .kConnected
  | .task _ => ∃ message rest, c.tasks = .sendInLoop message :: rest
  | _ => False

/-- What an action may do in a state. -/
def allowance (c : TcpConnection) (action : Action) : Permits where
  foreign := .shutdownInLoop ∈ c.tasks ∨ ∃ message, .sendInLoop message ∈ c.tasks
  sends := c.Executes action
  starts := action = .startRead .loop ∨ .startReadInLoop ∈ c.tasks
  reads := action.Reads
  queues task := action.Queues task

/-- Every step is a chain of moves. -/
theorem Step.moves {action : Action} (step : Step c action after) (valid : c.outputBuffer.Valid)
    (agrees : c.Agrees) : Moves (c.allowance action) c after := by
  have attempt : Attempt c action (.ok after) := step
  generalize outcome : Except.ok after = result at attempt
  cases attempt with
  | send fits =>
    obtain ⟨up, rfl, sent⟩ | ⟨_, rfl, copy, _, rfl⟩ | ⟨_, rfl⟩ := send_cases outcome.symm
    · exact sendInLoop_moves valid agrees (.inl up) ⟨rfl, up⟩ (sizeOfInt_lt _) fits sent
    · exact queueInLoop_moves ⟨rfl, copy, rfl⟩
    · exact .refl _ _
  | @sendString _ message _ object fits =>
    obtain ⟨up, rfl, sent⟩ | ⟨_, rfl, rfl⟩ | ⟨_, rfl⟩ := sendString_cases outcome.symm
    · have limit : maxSize = 2 ^ 63 - 1 := rfl
      exact sendInLoop_moves valid agrees (.inl up) ⟨rfl, up⟩ (by omega) fits sent
    · exact queueInLoop_moves ⟨rfl, message, rfl⟩
    · exact .refl _ _
  | @shutdown caller =>
    obtain rfl := Except.ok.inj outcome
    rw [TcpConnection.shutdown]
    split
    next up =>
      have connected : c.state = .kConnected := beq_iff_eq.mp up
      have closing : Moves (c.allowance (.shutdown caller)) c { c with state := .kDisconnecting } :=
        (Move.disconnect (.inl connected)).once
      cases caller with
      | loop =>
        dsimp only
        rw [shutdownInLoop]
        split
        next => exact closing
        next idle => exact (Move.shutdown connected (Bool.eq_false_iff.mpr idle)).once
      | other => exact closing.trans (queueInLoop_moves ⟨rfl, rfl⟩)
    next => exact .refl _ c
  | forceClose =>
    obtain rfl := Except.ok.inj outcome
    exact forceClose_moves rfl
  | forceCloseWithDelay =>
    obtain rfl := Except.ok.inj outcome
    rw [TcpConnection.forceCloseWithDelay]
    split
    next up =>
      have closing : Moves (c.allowance .forceCloseWithDelay) c
          { c with state := .kDisconnecting } :=
        (Move.disconnect (by simpa using up)).once
      exact closing.trans (aside_moves rfl rfl rfl rfl rfl (fun _ => .inl) (.inl rfl))
    next => exact .refl _ c
  | @startRead caller =>
    cases caller with
    | loop => exact startReadInLoop_moves (.inl rfl) outcome.symm
    | other =>
      obtain rfl := Except.ok.inj outcome
      exact queueInLoop_moves ⟨rfl, rfl⟩
  | @stopRead caller =>
    cases caller with
    | loop => exact stopReadInLoop_moves outcome.symm
    | other =>
      obtain rfl := Except.ok.inj outcome
      exact queueInLoop_moves ⟨rfl, rfl⟩
  | @task task rest written first idle fits =>
    have member : task ∈ c.tasks := by
      rw [first]
      exact List.mem_cons_self
    have popped : Moves (c.allowance (.task written)) c { c with tasks := rest } := by
      refine aside_moves rfl rfl rfl rfl rfl (fun other inside => .inl ?_) (.inl rfl)
      rw [first]
      exact List.mem_cons_of_mem _ inside
    refine popped.trans (runTask_moves valid agrees ?_ ?_ ?_ fits outcome.symm)
    · rintro (rfl | ⟨message, rfl⟩)
      · exact .inl member
      · exact .inr ⟨message, member⟩
    · rintro ⟨message, rfl⟩
      exact ⟨message, rest, first⟩
    · rintro rfl
      exact .inr member
  | @timer delayed pending =>
    obtain rfl := Except.ok.inj outcome
    have expired : Moves (c.allowance .timer) c { c with delayed } :=
      aside_moves rfl rfl rfl rfl rfl (fun _ => .inl) (.inl rfl)
    exact expired.trans (forceClose_moves rfl)
  | read => exact handleRead_moves trivial outcome.symm
  | write _ fits => exact handleWrite_moves valid fits outcome.symm
  | close => exact handleClose_moves outcome.symm
  | error =>
    obtain rfl := Except.ok.inj outcome
    exact .refl _ _
  | consume =>
    obtain ⟨inputBuffer, _, rest⟩ := bind_eq_ok.mp outcome.symm
    obtain rfl := Except.ok.inj rest
    exact aside_moves rfl rfl rfl rfl rfl (fun _ => .inl) (.inr trivial)
  | turn =>
    obtain rfl := Except.ok.inj outcome
    exact aside_moves rfl rfl rfl rfl rfl (fun _ => .inl) (.inl rfl)

/-- Moves that may not read keep the input buffer. -/
theorem Move.input (move : Move permits c after) (still : ¬permits.reads) :
    after.inputBuffer = c.inputBuffer := by
  cases move with
  | aside _ _ _ _ _ _ input => exact input.resolve_right still
  | _ => rfl

/-- Actions that do not read keep the input buffer. -/
theorem Step.input {action : Action} (step : Step c action after) (valid : c.outputBuffer.Valid)
    (agrees : c.Agrees) (still : ¬action.Reads) : after.inputBuffer = c.inputBuffer := by
  have keeps : ∀ before next, before.inputBuffer = c.inputBuffer →
      Move (c.allowance action) before next → next.inputBuffer = c.inputBuffer :=
    fun _ _ same move => (move.input still).trans same
  exact (step.moves valid agrees).invariant keeps rfl

end TcpConnection

end Muduo
