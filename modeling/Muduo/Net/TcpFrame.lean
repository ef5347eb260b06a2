import Muduo.Net.TcpStream

/-!
# What a step leaves alone

A connection closes in `handleClose` only. Every other function keeps the place of the connection in
its loop and the identity of its channel, and does not close it. On a closed connection only
`startReadInLoop` and `stopReadInLoop` touch the channel.

What a function keeps is a relation between the states before and after it. Relations that allow the
few things that functions are made of, a `Frame`, are kept by every function but `handleClose`.
-/

open Outcome Transition

namespace Muduo

namespace TcpConnection

variable {c middle after : TcpConnection}

/-- The connection is not closed by the way, and keeps its place in the loop and its channel. -/
structure Stays (c after : TcpConnection) : Prop where
  /-- The loop stays where it is. -/
  turn : after.turn = c.turn
  /-- The channel is the same. -/
  address : after.channel.address = c.channel.address
  /-- Its descriptor is the same. -/
  fd : after.channel.fd = c.channel.fd
  /-- What the poller reported stays stored. -/
  revents : after.channel.revents = c.channel.revents
  /-- An open connection is not closed. -/
  opened : c.state ≠ .kDisconnected → after.state ≠ .kDisconnected

/-- The connection is closed. -/
structure Closes (c after : TcpConnection) : Prop where
  /-- It was open. -/
  up : c.state = .kConnected ∨ c.state = .kDisconnecting
  /-- It is closed. -/
  down : after.state = .kDisconnected
  /-- Its channel asks for nothing any more. -/
  changed : c.channel.change .disableAll c.poller = .ok (after.poller, after.channel)
  /-- The loop stays where it is. -/
  turn : after.turn = c.turn

/-- Only buffers, functors, timers and `is_reading` change. -/
structure Beside (c after : TcpConnection) : Prop where
  /-- The state stays. -/
  state : after.state = c.state
  /-- The channel stays. -/
  channel : after.channel = c.channel
  /-- The poller stays. -/
  poller : after.poller = c.poller
  /-- The loop stays where it is. -/
  turn : after.turn = c.turn
  /-- Nothing is done. -/
  trace : after.trace = c.trace

/-- A relation that allows what connections do outside `handleClose`. -/
structure Frame (keeps : TcpConnection → TcpConnection → Prop) : Prop where
  /-- One thing after the other. -/
  trans : ∀ {c middle after}, keeps c middle → keeps middle after → keeps c after
  /-- What does not concern the state and the channel. -/
  aside : ∀ {c after}, Beside c after → keeps c after
  /-- An effect that is not the close callback. -/
  note : ∀ {c effect}, effect ≠ .closeCallback → keeps c (c.note effect)
  /-- A change of the channel's interest. -/
  interest : ∀ {c after call}, c.setInterest call = .ok after → keeps c after
  /-- The connection is established. -/
  connect : ∀ {c}, c.state = .kConnecting → keeps c { c with state := .kConnected }
  /-- The connection begins to close. -/
  disconnect : ∀ {c}, c.state = .kConnected ∨ c.state = .kDisconnecting →
    keeps c { c with state := .kDisconnecting }

/-- Nothing happens. -/
theorem Stays.refl (c : TcpConnection) : c.Stays c := ⟨rfl, rfl, rfl, rfl, id⟩

/-- Connections stay open and in their places. -/
theorem stays_frame : Frame Stays where
  trans first second := ⟨second.turn.trans first.turn, second.address.trans first.address,
    second.fd.trans first.fd, second.revents.trans first.revents,
    fun up => second.opened (first.opened up)⟩
  aside same := ⟨same.turn, by rw [same.channel], by rw [same.channel], by rw [same.channel],
    fun up => same.state ▸ up⟩
  note _ := ⟨rfl, rfl, rfl, rfl, id⟩
  interest done := by
    obtain ⟨poller, channel, changed, rfl⟩ := setInterest_eq_ok.mp done
    obtain ⟨index, rfl⟩ := Channel.change_same changed
    exact ⟨rfl, rfl, rfl, rfl, id⟩
  connect _ := ⟨rfl, rfl, rfl, rfl, fun _ => StateE.noConfusion⟩
  disconnect _ := ⟨rfl, rfl, rfl, rfl, fun _ => StateE.noConfusion⟩

section Frame

variable {keeps : TcpConnection → TcpConnection → Prop} (frame : Frame keeps)

include frame

/-- Nothing happens. -/
theorem Frame.refl (c : TcpConnection) : keeps c c := frame.aside ⟨rfl, rfl, rfl, rfl, rfl⟩

/-- The write complete callback. -/
theorem notifyWriteComplete_frame (c : TcpConnection) : keeps c c.notifyWriteComplete := by
  obtain ⟨tasks, -, same⟩ := c.notifyWriteComplete_eq
  rw [same]
  exact frame.aside ⟨rfl, rfl, rfl, rfl, rfl⟩

/-- The direct write. -/
theorem directWrite_frame {data : List UInt8} {len nwrote : Nat} {result : WriteResult}
    {faultError : Bool} (done : c.directWrite data len result = .ok (after, nwrote, faultError)) :
    keeps c after := by
  rw [directWrite] at done
  obtain ⟨offered, -, rest⟩ := bind_eq_ok.mp done
  have noted : keeps c (c.note (.write offered result)) := frame.note (by simp)
  cases result with
  | accepted count =>
    dsimp only at rest
    split at rest
    · cases rest
      exact frame.trans noted (notifyWriteComplete_frame frame _)
    · cases rest
      exact noted
  | failed errno logged =>
    cases rest
    exact noted

/-- Keeping what is not written. -/
theorem keepRest_frame {data : List UInt8} {nwrote remaining : Nat}
    (done : c.keepRest data nwrote remaining = .ok after) : keeps c after := by
  obtain ⟨tasks, -, same⟩ := c.keepRest_eq data nwrote remaining
  rw [same] at done
  obtain ⟨output, -, rest⟩ := bind_eq_ok.mp done
  have kept : keeps c { c with tasks, outputBuffer := output } :=
    frame.aside ⟨rfl, rfl, rfl, rfl, rfl⟩
  split at rest
  · cases rest
    exact kept
  · exact frame.trans kept (frame.interest rest)

/-- `sendInLoop`. -/
theorem sendInLoop_frame {data : List UInt8} {len : Nat} {result : WriteResult}
    (done : c.sendInLoop data len result = .ok after) : keeps c after := by
  rw [sendInLoop] at done
  split at done
  · cases done
    exact frame.note (by simp)
  · obtain ⟨⟨written, nwrote, faultError⟩, direct, rest⟩ := bind_eq_ok.mp done
    obtain ⟨_, -, rest⟩ := bind_eq_ok.mp rest
    obtain ⟨kept, keeping, rest⟩ := bind_eq_ok.mp rest
    cases rest
    have first : keeps c written := by
      split at direct
      · exact directWrite_frame frame direct
      · cases direct
        exact frame.refl c
    have second : keeps written kept := by
      split at keeping
      · exact keepRest_frame frame keeping
      · cases keeping
        exact frame.refl written
    exact frame.trans first (frame.trans second (frame.note (by simp)))

/-- `shutdownInLoop`. -/
theorem shutdownInLoop_frame (c : TcpConnection) : keeps c c.shutdownInLoop := by
  rw [shutdownInLoop]
  split
  · exact frame.refl c
  · exact frame.note (by simp)

/-- `handleWrite`. -/
theorem handleWrite_frame {result : WriteResult} (done : c.handleWrite result = .ok after) :
    keeps c after := by
  rw [handleWrite] at done
  split at done
  swap
  · cases done
    exact frame.refl c
  have noted : keeps c (c.note (.write c.outputBuffer.readable result)) := frame.note (by simp)
  cases result with
  | failed errno logged =>
    cases done
    exact noted
  | accepted n =>
    dsimp only at done
    split at done
    swap
    · cases done
      exact noted
    obtain ⟨output, -, rest⟩ := bind_eq_ok.mp done
    have retrieved : keeps c { c.note (.write c.outputBuffer.readable (.accepted n)) with
        outputBuffer := output } := frame.trans noted (frame.aside ⟨rfl, rfl, rfl, rfl, rfl⟩)
    split at rest
    swap
    · cases rest
      exact retrieved
    obtain ⟨disabled, disabling, rest⟩ := bind_eq_ok.mp rest
    have notified := frame.trans (frame.trans retrieved (frame.interest disabling))
      (notifyWriteComplete_frame frame disabled)
    split at rest
    · cases rest
      exact frame.trans notified (shutdownInLoop_frame frame _)
    · cases rest
      exact notified

/-- `startReadInLoop`. -/
theorem startReadInLoop_frame (done : c.startReadInLoop = .ok after) : keeps c after := by
  rw [startReadInLoop] at done
  split at done
  · obtain ⟨enabled, enabling, rest⟩ := bind_eq_ok.mp done
    cases rest
    exact frame.trans (frame.interest enabling) (frame.aside ⟨rfl, rfl, rfl, rfl, rfl⟩)
  · cases done
    exact frame.refl c

/-- `stopReadInLoop`. -/
theorem stopReadInLoop_frame (done : c.stopReadInLoop = .ok after) : keeps c after := by
  rw [stopReadInLoop] at done
  split at done
  · obtain ⟨disabled, disabling, rest⟩ := bind_eq_ok.mp done
    cases rest
    exact frame.trans (frame.interest disabling) (frame.aside ⟨rfl, rfl, rfl, rfl, rfl⟩)
  · cases done
    exact frame.refl c

/-- `connectEstablished`. -/
theorem connectEstablished_frame (done : c.connectEstablished = .ok after) : keeps c after := by
  rw [connectEstablished] at done
  obtain ⟨_, connecting, rest⟩ := bind_eq_ok.mp done
  obtain ⟨enabled, enabling, rest⟩ := bind_eq_ok.mp rest
  cases rest
  rw [ensure_eq_ok, beq_iff_eq] at connecting
  exact frame.trans (frame.connect connecting)
    (frame.trans (frame.interest enabling) (frame.note (by simp)))

/-- `forceClose`. -/
theorem forceClose_frame (c : TcpConnection) : keeps c c.forceClose := by
  rw [forceClose]
  split
  next up =>
    rw [Bool.or_eq_true, beq_iff_eq, beq_iff_eq] at up
    exact frame.trans (frame.disconnect up) (frame.aside ⟨rfl, rfl, rfl, rfl, rfl⟩)
  next => exact frame.refl c

omit frame in
/-- `handleClose` closes. -/
theorem handleClose_closes (done : c.handleClose = .ok after) : c.Closes after := by
  rw [handleClose] at done
  obtain ⟨_, up, rest⟩ := bind_eq_ok.mp done
  obtain ⟨disabled, disabling, rest⟩ := bind_eq_ok.mp rest
  obtain ⟨poller, channel, changed, rfl⟩ := setInterest_eq_ok.mp disabling
  cases rest
  exact ⟨by simpa using up, rfl, changed, rfl⟩

/-- The in-loop function that a call in the loop thread or a functor runs. -/
def runs (c : TcpConnection) : Action → Option ConnTask
  | .startRead .loop => some .startReadInLoop
  | .stopRead .loop => some .stopReadInLoop
  | .task _ => c.tasks.head?
  | _ => none

/-- The actions that may end in `handleClose`. -/
def MayClose (c : TcpConnection) : Action → Prop
  | .read _ => True
  | .close => True
  | action => c.runs action = some .forceCloseInLoop

/-- A functor runs `handleClose` or keeps what other functions keep. -/
theorem runTask_frame {task : ConnTask} {result : WriteResult}
    (done : c.runTask task result = .ok after) :
    keeps c after ∨ c.handleClose = .ok after ∧ task = .forceCloseInLoop := by
  cases task with
  | connectEstablished => exact .inl (connectEstablished_frame frame done)
  | sendInLoop message => exact .inl (sendInLoop_frame frame done)
  | shutdownInLoop =>
    cases done
    exact .inl (shutdownInLoop_frame frame c)
  | forceCloseInLoop =>
    have run : c.forceCloseInLoop = .ok after := done
    rw [forceCloseInLoop] at run
    split at run
    · exact .inr ⟨run, rfl⟩
    · cases run
      exact .inl (frame.refl c)
  | startReadInLoop => exact .inl (startReadInLoop_frame frame done)
  | stopReadInLoop => exact .inl (stopReadInLoop_frame frame done)
  | writeCompleteCallback =>
    cases done
    exact .inl (frame.refl c)
  | highWaterMarkCallback size =>
    cases done
    exact .inl (frame.refl c)

/-- Every step but those of the loop itself ends in `handleClose` or keeps what other functions
keep. -/
theorem Attempt.framed {action : Action} {result : Except Fault TcpConnection}
    (attempt : Attempt c action result) (outcome : result = .ok after)
    (inside : ∀ next, action ≠ .turn next) :
    keeps c after ∨
      (∃ middle, c.Beside middle ∧ middle.handleClose = .ok after) ∧ c.MayClose action := by
  cases attempt with
  | send fits =>
    left
    obtain ⟨_, rfl, sent⟩ | ⟨_, rfl, copy, _, rfl⟩ | ⟨_, rfl⟩ := send_cases outcome
    · exact sendInLoop_frame frame sent
    · exact frame.aside ⟨rfl, rfl, rfl, rfl, rfl⟩
    · exact frame.refl _
  | sendString object fits =>
    left
    obtain ⟨_, rfl, sent⟩ | ⟨_, rfl, rfl⟩ | ⟨_, rfl⟩ := sendString_cases outcome
    · exact sendInLoop_frame frame sent
    · exact frame.aside ⟨rfl, rfl, rfl, rfl, rfl⟩
    · exact frame.refl _
  | @shutdown caller =>
    left
    cases outcome
    rw [TcpConnection.shutdown]
    split
    next connected =>
      have closing := frame.disconnect (c := c) (.inl (beq_iff_eq.mp connected))
      cases caller with
      | loop => exact frame.trans closing (shutdownInLoop_frame frame _)
      | other => exact frame.trans closing (frame.aside ⟨rfl, rfl, rfl, rfl, rfl⟩)
    next => exact frame.refl c
  | forceClose =>
    cases outcome
    exact .inl (forceClose_frame frame c)
  | forceCloseWithDelay =>
    left
    cases outcome
    rw [TcpConnection.forceCloseWithDelay]
    split
    next up =>
      rw [Bool.or_eq_true, beq_iff_eq, beq_iff_eq] at up
      exact frame.trans (frame.disconnect up) (frame.aside ⟨rfl, rfl, rfl, rfl, rfl⟩)
    next => exact frame.refl c
  | @startRead caller =>
    left
    cases caller with
    | loop => exact startReadInLoop_frame frame outcome
    | other =>
      cases outcome
      exact frame.aside ⟨rfl, rfl, rfl, rfl, rfl⟩
  | @stopRead caller =>
    left
    cases caller with
    | loop => exact stopReadInLoop_frame frame outcome
    | other =>
      cases outcome
      exact frame.aside ⟨rfl, rfl, rfl, rfl, rfl⟩
  | @task task rest written first idle fits =>
    have popped : c.Beside { c with tasks := rest } := ⟨rfl, rfl, rfl, rfl, rfl⟩
    obtain kept | ⟨closed, rfl⟩ := runTask_frame frame outcome
    · exact .inl (frame.trans (frame.aside popped) kept)
    · refine .inr ⟨⟨_, popped, closed⟩, ?_⟩
      show c.tasks.head? = some .forceCloseInLoop
      rw [first]
      rfl
  | @timer delayed pending =>
    left
    cases outcome
    have expired : c.Beside { c with delayed } := ⟨rfl, rfl, rfl, rfl, rfl⟩
    exact frame.trans (frame.aside expired) (forceClose_frame frame _)
  | read handling offered =>
    obtain ⟨inputBuffer, n, -, rest⟩ := handleRead_cases outcome
    have input : c.Beside { c with inputBuffer } := ⟨rfl, rfl, rfl, rfl, rfl⟩
    obtain rfl | closed | rfl := rest
    · exact .inl (frame.trans (frame.aside input) (frame.note (by simp)))
    · exact .inr ⟨⟨_, input, closed⟩, trivial⟩
    · exact .inl (frame.aside input)
  | write handling fits => exact .inl (handleWrite_frame frame outcome)
  | close handling => exact .inr ⟨⟨c, ⟨rfl, rfl, rfl, rfl, rfl⟩, outcome⟩, trivial⟩
  | error handling =>
    cases outcome
    exact .inl (frame.refl c)
  | consume =>
    obtain ⟨inputBuffer, -, rest⟩ := bind_eq_ok.mp outcome
    cases rest
    exact .inl (frame.aside ⟨rfl, rfl, rfl, rfl, rfl⟩)
  | @turn next => exact absurd rfl (inside next)

end Frame

/-- Every step but those of the loop itself closes the connection or leaves it as open as it was. -/
theorem Step.stays {action : Action} (step : Step c action after)
    (inside : ∀ next, action ≠ .turn next) :
    c.Stays after ∨ c.Closes after ∧ c.MayClose action := by
  obtain stays | ⟨⟨middle, same, closed⟩, may⟩ := Attempt.framed stays_frame step rfl inside
  · exact .inl stays
  · have closes := handleClose_closes closed
    refine .inr ⟨⟨?_, closes.down, ?_, closes.turn.trans same.turn⟩, may⟩
    · rw [← same.state]
      exact closes.up
    · rw [← same.channel, ← same.poller]
      exact closes.changed

/-- What the loop does when it handles events. -/
def Action.Dispatched : Action → Prop
  | .read _ => True
  | .write _ => True
  | .close => True
  | .error => True
  | .turn _ => True
  | _ => False

/-- `startReadInLoop` on a connection that asks for nothing. -/
theorem startReadInLoop_asleep (asleep : c.channel.events = 0)
    (done : c.startReadInLoop = .ok after) :
    c.channel.change .enableReading c.poller = .ok (after.poller, after.channel) := by
  have still : c.channel.isReading = false := by
    rw [Channel.isReading, asleep]
    decide
  rw [startReadInLoop, if_pos (by simp [still])] at done
  obtain ⟨enabled, enabling, rest⟩ := bind_eq_ok.mp done
  obtain ⟨poller, channel, changed, rfl⟩ := setInterest_eq_ok.mp enabling
  cases rest
  exact changed

/-- `stopReadInLoop` on a connection that asks for nothing does something only when `is_reading`
is set. -/
theorem stopReadInLoop_asleep (asleep : c.channel.events = 0)
    (done : c.stopReadInLoop = .ok after) :
    after.channel = c.channel ∧ after.poller = c.poller ∧ c.reading = false ∨
      c.channel.change .disableReading c.poller = .ok (after.poller, after.channel) ∧
        c.reading = true := by
  have still : c.channel.isReading = false := by
    rw [Channel.isReading, asleep]
    decide
  rw [stopReadInLoop] at done
  by_cases reading : c.reading = true
  · right
    rw [if_pos (by simp [reading])] at done
    obtain ⟨disabled, disabling, rest⟩ := bind_eq_ok.mp done
    obtain ⟨poller, channel, changed, rfl⟩ := setInterest_eq_ok.mp disabling
    cases rest
    exact ⟨changed, reading⟩
  · left
    rw [if_neg (by simp [reading, still])] at done
    cases done
    exact ⟨rfl, rfl, Bool.eq_false_iff.mpr reading⟩

/-- What happens to the channel of a closed connection that asks for nothing: nothing, or reading is
started, or it is stopped with `is_reading` still set. -/
inductive Stirs (c : TcpConnection) (action : Action) (after : TcpConnection) : Prop
  /-- The channel is left alone. -/
  | still (channel : after.channel = c.channel) (poller : after.poller = c.poller)
      (unstarted : c.runs action ≠ some .startReadInLoop)
      (unstopped : c.runs action = some .stopReadInLoop → c.reading = false)
  /-- `startReadInLoop`. -/
  | starts (run : c.runs action = some .startReadInLoop)
      (changed : c.channel.change .enableReading c.poller = .ok (after.poller, after.channel))
  /-- `stopReadInLoop`. -/
  | stops (run : c.runs action = some .stopReadInLoop) (reading : c.reading = true)
      (changed : c.channel.change .disableReading c.poller = .ok (after.poller, after.channel))

/-- A functor on a closed connection. -/
theorem runTask_stirs {task : ConnTask} {rest : List ConnTask} {result : WriteResult}
    (down : c.state = .kDisconnected) (asleep : c.channel.events = 0)
    (first : c.tasks = task :: rest)
    (done : { c with tasks := rest }.runTask task result = .ok after) :
    c.Stirs (.task result) after := by
  have run : c.runs (.task result) = some task := by
    show c.tasks.head? = some task
    rw [first]
    rfl
  cases task with
  | connectEstablished =>
    have established : connectEstablished { c with tasks := rest } = .ok after := done
    rw [connectEstablished, down] at established
    cases established
  | sendInLoop message =>
    have sent : sendInLoop { c with tasks := rest } _ _ result = .ok after := done
    rw [sendInLoop, if_pos (by rw [down]; rfl)] at sent
    cases sent
    exact .still rfl rfl (by simp [run]) (by simp [run])
  | shutdownInLoop =>
    cases done
    have idle : c.channel.isWriting = false := Channel.isWriting_of_none asleep
    rw [shutdownInLoop_idle (c := { c with tasks := rest }) idle]
    exact .still rfl rfl (by simp [run]) (by simp [run])
  | forceCloseInLoop =>
    have closed : forceCloseInLoop { c with tasks := rest } = .ok after := done
    rw [forceCloseInLoop, if_neg (by simp [down])] at closed
    cases closed
    exact .still rfl rfl (by simp [run]) (by simp [run])
  | startReadInLoop =>
    have changed := startReadInLoop_asleep (c := { c with tasks := rest }) asleep done
    exact .starts run changed
  | stopReadInLoop =>
    obtain ⟨channel, poller, unread⟩ | ⟨changed, reading⟩ :=
      stopReadInLoop_asleep (c := { c with tasks := rest }) asleep done
    · exact .still channel poller (by simp [run]) fun _ => unread
    · exact .stops run reading changed
  | writeCompleteCallback =>
    cases done
    exact .still rfl rfl (by simp [run]) (by simp [run])
  | highWaterMarkCallback size =>
    cases done
    exact .still rfl rfl (by simp [run]) (by simp [run])

/-- Every call, functor and timer on a closed connection. -/
theorem Step.stirs {action : Action} (step : Step c action after) (outside : ¬action.Dispatched)
    (down : c.state = .kDisconnected) (asleep : c.channel.events = 0) :
    c.Stirs action after := by
  have attempt : Attempt c action (.ok after) := step
  generalize outcome : Except.ok after = result at attempt
  symm at outcome
  cases attempt with
  | send =>
    rw [TcpConnection.send.eq_def, if_neg (by simp [down])] at outcome
    cases outcome
    exact .still rfl rfl (by simp [runs]) (by simp [runs])
  | sendString =>
    rw [TcpConnection.sendString.eq_def, if_neg (by simp [down])] at outcome
    cases outcome
    exact .still rfl rfl (by simp [runs]) (by simp [runs])
  | shutdown =>
    cases outcome
    rw [TcpConnection.shutdown, if_neg (by simp [down])]
    exact .still rfl rfl (by simp [runs]) (by simp [runs])
  | forceClose =>
    cases outcome
    rw [TcpConnection.forceClose, if_neg (by simp [down])]
    exact .still rfl rfl (by simp [runs]) (by simp [runs])
  | forceCloseWithDelay =>
    cases outcome
    rw [TcpConnection.forceCloseWithDelay, if_neg (by simp [down])]
    exact .still rfl rfl (by simp [runs]) (by simp [runs])
  | @startRead caller =>
    cases caller with
    | loop => exact .starts rfl (startReadInLoop_asleep asleep outcome)
    | other =>
      cases outcome
      exact .still rfl rfl (by simp [runs]) (by simp [runs])
  | @stopRead caller =>
    cases caller with
    | loop =>
      obtain ⟨channel, poller, unread⟩ | ⟨changed, reading⟩ :=
        stopReadInLoop_asleep asleep outcome
      · exact .still channel poller (by simp [runs]) fun _ => unread
      · exact .stops rfl reading changed
    | other =>
      cases outcome
      exact .still rfl rfl (by simp [runs]) (by simp [runs])
  | task first idle fits => exact runTask_stirs down asleep first outcome
  | timer pending =>
    cases outcome
    rw [TcpConnection.forceClose, if_neg (by simp [down])]
    exact .still rfl rfl (by simp [runs]) (by simp [runs])
  | consume =>
    obtain ⟨inputBuffer, -, rest⟩ := bind_eq_ok.mp outcome
    cases rest
    exact .still rfl rfl (by simp [runs]) (by simp [runs])
  | read => exact absurd trivial outside
  | write => exact absurd trivial outside
  | close => exact absurd trivial outside
  | error => exact absurd trivial outside
  | turn => exact absurd trivial outside

/-- No move opens a closed connection. -/
theorem Move.down {permits : Permits} (move : Move permits c after)
    (down : c.state = .kDisconnected) : after.state = .kDisconnected := by
  cases move with
  | aside state => rw [state, down]
  | establish connecting => cases connecting.symm.trans down
  | disconnect up =>
    rw [down] at up
    simp at up
  | close => rfl
  | shutdown connected => cases connected.symm.trans down
  | _ => exact down

/-- No step opens a closed connection. -/
theorem Step.down {action : Action} (step : Step c action after) (flows : c.Flows)
    (down : c.state = .kDisconnected) : after.state = .kDisconnected :=
  (step.moves flows.valid flows.agrees).invariant (fun _ _ closed move => move.down closed) down

end TcpConnection

end Muduo
