import Muduo.Lib.Run

/-!
# `dc::net::EventLoop` and the threads that queue work

The loop thread runs `loop()`; any number of other threads call `queueInLoop`, `runInLoop` (which
is `queueInLoop` for them) and `quit` at any time. The steps are those that other threads can see:
a push under `m_mutex`, a write or a read of the eventfd, the swap under `m_mutex`, and the stores
to `is_quit` and `is_callingPendingFunctors`. Functors are named by the number of their push.
`runInLoop` in the loop thread runs its argument at once, so it is part of the code that called it.
The functors that ran are destroyed after `is_callingPendingFunctors` is reset; what a destructor of
an object they captured might do to the loop is left out.
-/

open Transition

namespace Muduo

/-- Where the loop thread is. -/
inductive LoopPhase
  /-- Outside `loop()`. -/
  | outside
  /-- About to evaluate `!is_quit`. -/
  | test
  /-- About to call `m_poller->poll`. -/
  | poll
  /-- Handling the active channels, the wakeup channel still among those to come or not. -/
  | events (wakeup : Bool)
  /-- In `doPendingFunctors()`, about to swap. -/
  | swap
  /-- In `doPendingFunctors()`, about to call the first of these functors. -/
  | functors (rest : List Nat)
  /-- Inside a functor, with these to come. -/
  | running (rest : List Nat)
  deriving DecidableEq, Repr

/-- Where a thread is in a call on the loop. -/
inductive Caller
  /-- In no call. -/
  | idle
  /-- In `queueInLoop`, after the push of a functor. -/
  | pushed (functor : Nat)
  /-- In `quit`, after the store to `is_quit`. -/
  | quitting
  deriving DecidableEq, Repr

/-- The loop, its eventfd and the threads that use it. -/
structure LoopState (T : Type) where
  /-- Where the loop thread is. -/
  phase : LoopPhase
  /-- The call the loop thread is in. -/
  self : Caller
  /-- The calls the other threads are in. -/
  others : T → Caller
  /-- `m_pendingFunctors`. -/
  pending : List Nat
  /-- The counter of `m_wakeupFd`. -/
  counter : Nat
  /-- `is_callingPendingFunctors`. -/
  calling : Bool
  /-- `is_quit`. -/
  quit : Bool
  /-- The number of pushes so far. -/
  pushes : Nat
  /-- The functors called so far. -/
  called : List Nat

/-- What a thread does next. -/
inductive LoopAction (T : Type)
  /-- The loop thread enters `loop()`. -/
  | enter
  /-- The loop thread evaluates `!is_quit`. -/
  | test
  /-- `poll` returns, with the wakeup channel active or not. -/
  | poll (wakeup : Bool)
  /-- The loop thread handles the wakeup channel. -/
  | handleRead
  /-- The loop thread has handled all active channels. -/
  | handled
  /-- The loop thread swaps the queue. -/
  | swap
  /-- The loop thread calls the next functor. -/
  | call
  /-- The functor returns. -/
  | return
  /-- `doPendingFunctors()` returns. -/
  | finish
  /-- Code of the loop thread calls `queueInLoop`. -/
  | queue
  /-- The loop thread goes on in `queueInLoop` after the push. -/
  | queued
  /-- Code of the loop thread calls `quit`. -/
  | quit
  /-- Another thread calls `queueInLoop`. -/
  | otherQueue (thread : T)
  /-- Another thread goes on in `queueInLoop` after the push, or in `quit` after the store. -/
  | otherWakeup (thread : T)
  /-- Another thread calls `quit`. -/
  | otherQuit (thread : T)
  deriving DecidableEq, Repr

/-- A write of one to a nonblocking eventfd, which fails when the counter is at its maximum. -/
def eventfdWrite (counter : Nat) : Nat :=
  if counter + 1 ≤ 2 ^ 64 - 2 then counter + 1 else counter

/-- After a write the eventfd is readable. -/
theorem eventfdWrite_pos (counter : Nat) : 0 < eventfdWrite counter := by
  rw [eventfdWrite]
  split <;> omega

namespace LoopPhase

/-- Code of the user runs in the loop thread. -/
def RunsCode : LoopPhase → Prop
  | outside | events _ | running _ => True
  | test | poll | swap | functors _ => False

end LoopPhase

namespace LoopState

variable {T : Type} [DecidableEq T]

/-- `EventLoop()`. -/
def new : LoopState T :=
  { phase := .outside, self := .idle, others := fun _ => .idle, pending := [], counter := 0,
    calling := false, quit := false, pushes := 0, called := [] }

/-- A push to `m_pendingFunctors`. -/
def push (s : LoopState T) : LoopState T :=
  { s with pending := s.pending ++ [s.pushes], pushes := s.pushes + 1 }

/-- `wakeup()`. -/
def wakeup (s : LoopState T) : LoopState T := { s with counter := eventfdWrite s.counter }

/-- One step of a thread. -/
inductive Step : LoopState T → LoopAction T → LoopState T → Prop
  | enter {s : LoopState T} (outside : s.phase = .outside) (idle : s.self = .idle) :
      Step s .enter { s with phase := .test, quit := false }
  | stay {s : LoopState T} (testing : s.phase = .test) (running : s.quit = false) :
      Step s .test { s with phase := .poll }
  | leave {s : LoopState T} (testing : s.phase = .test) (stopped : s.quit = true) :
      Step s .test { s with phase := .outside }
  | poll {s : LoopState T} {wakeup : Bool} (polling : s.phase = .poll)
      (readable : wakeup = true → 0 < s.counter) :
      Step s (.poll wakeup) { s with phase := .events wakeup }
  | handleRead {s : LoopState T} (handling : s.phase = .events true) (idle : s.self = .idle) :
      Step s .handleRead { s with phase := .events false, counter := 0 }
  | handled {s : LoopState T} (handling : s.phase = .events false) (idle : s.self = .idle) :
      Step s .handled { s with phase := .swap, calling := true }
  | swap {s : LoopState T} (swapping : s.phase = .swap) :
      Step s .swap { s with phase := .functors s.pending, pending := [] }
  | call {s : LoopState T} {functor : Nat} {rest : List Nat}
      (calling : s.phase = .functors (functor :: rest)) :
      Step s .call { s with phase := .running rest, called := s.called ++ [functor] }
  | return {s : LoopState T} {rest : List Nat} (running : s.phase = .running rest)
      (idle : s.self = .idle) : Step s .return { s with phase := .functors rest }
  | finish {s : LoopState T} (ended : s.phase = .functors []) :
      Step s .finish { s with phase := .test, calling := false }
  | queue {s : LoopState T} (user : s.phase.RunsCode) (idle : s.self = .idle) :
      Step s .queue { s.push with self := .pushed s.pushes }
  | queuedWakeup {s : LoopState T} {functor : Nat} (pushed : s.self = .pushed functor)
      (calling : s.calling = true) : Step s .queued { s.wakeup with self := .idle }
  | queuedSilent {s : LoopState T} {functor : Nat} (pushed : s.self = .pushed functor)
      (notCalling : s.calling = false) : Step s .queued { s with self := .idle }
  | quit {s : LoopState T} (user : s.phase.RunsCode) (idle : s.self = .idle) :
      Step s .quit { s with quit := true }
  | otherQueue {s : LoopState T} {thread : T} (idle : s.others thread = .idle) :
      Step s (.otherQueue thread)
        { s.push with others := Function.update s.others thread (.pushed s.pushes) }
  | otherWakeup {s : LoopState T} {thread : T} (busy : s.others thread ≠ .idle) :
      Step s (.otherWakeup thread)
        { s.wakeup with others := Function.update s.others thread .idle }
  | otherQuit {s : LoopState T} {thread : T} (idle : s.others thread = .idle) :
      Step s (.otherQuit thread)
        { s with quit := true, others := Function.update s.others thread .quitting }

/-- The loop thread queues functors only inside `loop()`. -/
def Inside (s : LoopState T) (action : LoopAction T) : Prop :=
  action = .queue → s.phase ≠ .outside

/-- The eventfd is readable, or the thread that pushed the functor is about to write to it. -/
def Announced (s : LoopState T) (functor : Nat) : Prop :=
  0 < s.counter ∨ (∃ thread, s.others thread = .pushed functor) ∨ s.self = .pushed functor

end LoopState

namespace LoopPhase

/-- Callbacks or functors run in the loop thread. -/
def Calls : LoopPhase → Prop
  | events _ | running _ => True
  | outside | test | poll | swap | functors _ => False

/-- The phases of `doPendingFunctors()`. -/
def Pending : LoopPhase → Prop
  | swap | functors _ | running _ => True
  | outside | test | poll | events _ => False

/-- The phases between a return of `poll` and the swap. -/
def Unsettled : LoopPhase → Prop
  | events _ | swap => True
  | outside | test | poll | functors _ | running _ => False

end LoopPhase

namespace LoopState

variable {T : Type}

/-- Work in the queue is announced, except between a return of `poll` and the swap that will
fetch it. -/
structure Awake (s : LoopState T) : Prop where
  /-- The flag is set in `doPendingFunctors()` only. -/
  calling : s.calling = true ↔ s.phase.Pending
  /-- The loop thread is in a call of its own only when code of the user runs inside `loop()`. -/
  idle : ¬s.phase.Calls → s.self = .idle
  /-- Every functor in the queue is announced. -/
  announced : ¬s.phase.Unsettled → ∀ functor ∈ s.pending, s.Announced functor

/-- A new loop has no work. -/
theorem new_awake : (new : LoopState T).Awake where
  calling := by simp [new, LoopPhase.Pending]
  idle _ := rfl
  announced _ _ queued := by cases queued

/-- A write to the eventfd announces everything. -/
theorem wakeup_announced (s : LoopState T) (self : Caller) (others : T → Caller) (functor : Nat) :
    { s.wakeup with self, others }.Announced functor :=
  .inl (eventfdWrite_pos s.counter)

variable [DecidableEq T]

/-- A call by a thread that was idle leaves the other announcements as they are. -/
theorem Announced.update {s : LoopState T} {functor : Nat} (announced : s.Announced functor)
    {thread : T} (idle : s.others thread = .idle) (caller : Caller) :
    { s with others := Function.update s.others thread caller }.Announced functor := by
  obtain readable | ⟨other, pushed⟩ | pushed := announced
  · exact .inl readable
  · have apart : other ≠ thread := by
      rintro rfl
      cases idle.symm.trans pushed
    exact .inr (.inl ⟨other, (Function.update_of_ne apart _ _).trans pushed⟩)
  · exact .inr (.inr pushed)

/-- Every step with which the loop thread queues inside `loop()` only keeps the loop awake. -/
theorem Step.awake {before after : LoopState T} {action : LoopAction T}
    (step : Step before action after) (inside : before.Inside action) (awake : before.Awake) :
    after.Awake := by
  obtain ⟨calling, idle, announced⟩ := awake
  cases step with
  | enter outside =>
    rw [outside] at calling announced
    exact ⟨calling, fun _ => idle (by rw [outside]; exact id), fun _ => announced id⟩
  | stay testing =>
    rw [testing] at calling announced
    exact ⟨calling, fun _ => idle (by rw [testing]; exact id), fun _ => announced id⟩
  | leave testing =>
    rw [testing] at calling announced
    exact ⟨calling, fun _ => idle (by rw [testing]; exact id), fun _ => announced id⟩
  | poll polling =>
    rw [polling] at calling
    exact ⟨calling, fun other => absurd trivial other, fun settled => absurd trivial settled⟩
  | handleRead handling =>
    rw [handling] at calling
    exact ⟨calling, fun other => absurd trivial other, fun settled => absurd trivial settled⟩
  | handled handling quiet =>
    exact ⟨⟨fun _ => trivial, fun _ => rfl⟩, fun _ => quiet, fun settled => absurd trivial settled⟩
  | swap swapping =>
    rw [swapping] at calling
    refine ⟨calling, fun _ => idle (by rw [swapping]; exact id), fun _ functor queued => ?_⟩
    cases queued
  | call called =>
    rw [called] at calling announced
    exact ⟨calling, fun other => absurd trivial other, fun _ => announced id⟩
  | «return» running quiet =>
    rw [running] at calling announced
    exact ⟨calling, fun _ => quiet, fun _ => announced id⟩
  | finish ended =>
    rw [ended] at announced
    exact ⟨⟨nofun, fun pending => pending.elim⟩, fun _ => idle (by rw [ended]; exact id),
      fun _ => announced id⟩
  | queue user quiet =>
    have entered : before.phase ≠ .outside := inside rfl
    have calls : before.phase.Calls := by
      cases phase : before.phase with
      | outside => exact absurd phase entered
      | events _ => trivial
      | running _ => trivial
      | test => exact (phase ▸ user : LoopPhase.RunsCode .test).elim
      | poll => exact (phase ▸ user : LoopPhase.RunsCode .poll).elim
      | swap => exact (phase ▸ user : LoopPhase.RunsCode .swap).elim
      | functors rest => exact (phase ▸ user : LoopPhase.RunsCode (.functors rest)).elim
    refine ⟨calling, fun other => absurd calls other, fun settled functor queued => ?_⟩
    obtain old | rfl := List.mem_append.mp queued |>.imp_right List.mem_singleton.mp
    · obtain readable | other | pushed := announced settled functor old
      · exact .inl readable
      · exact .inr (.inl other)
      · cases quiet.symm.trans pushed
    · exact .inr (.inr rfl)
  | queuedWakeup =>
    exact ⟨calling, fun _ => rfl, fun _ functor _ => wakeup_announced before _ _ functor⟩
  | queuedSilent pushed notCalling =>
    refine ⟨calling, fun _ => rfl, fun settled => absurd ?_ settled⟩
    have entered : before.phase.Calls := by
      by_contra outside
      cases (idle outside).symm.trans pushed
    cases phase : before.phase with
    | events wakeup => trivial
    | running rest =>
      rw [calling.mpr (by rw [phase]; trivial)] at notCalling
      cases notCalling
    | outside => exact (phase ▸ entered : LoopPhase.Calls .outside).elim
    | test => exact (phase ▸ entered : LoopPhase.Calls .test).elim
    | poll => exact (phase ▸ entered : LoopPhase.Calls .poll).elim
    | swap => trivial
    | functors rest => exact (phase ▸ entered : LoopPhase.Calls (.functors rest)).elim
  | quit => exact ⟨calling, idle, announced⟩
  | otherQueue quiet =>
    refine ⟨calling, idle, fun settled functor queued => ?_⟩
    obtain old | rfl := List.mem_append.mp queued |>.imp_right List.mem_singleton.mp
    · exact (announced settled functor old).update quiet _
    · exact .inr (.inl ⟨_, Function.update_self _ _ _⟩)
  | otherWakeup =>
    exact ⟨calling, idle, fun _ functor _ => wakeup_announced before _ _ functor⟩
  | otherQuit quiet =>
    exact ⟨calling, idle, fun settled functor queued => (announced settled functor queued).update
      quiet _⟩

/-- In every interleaving of the loop thread, which queues functors inside `loop()` only, with any
number of other threads, when the loop thread is about to call `poll` with work in the queue the
eventfd is readable or another thread is between its push and its write; and it is readable
unless each functor in the queue is one whose `queueInLoop` has not returned. -/
theorem no_lost_wakeup (actions : List (LoopAction T)) (s : LoopState T)
    (run : Run (Guarded Step Inside) new actions s) (about : s.phase = .poll) :
    (s.pending ≠ [] → 0 < s.counter ∨ ∃ thread functor, s.others thread = .pushed functor) ∧
      ∀ functor ∈ s.pending, (∀ thread, s.others thread ≠ .pushed functor) → 0 < s.counter := by
  have awake : s.Awake := run.invariant new_awake
    fun before action after awake taken => taken.1.awake taken.2 awake
  have announced : ∀ functor ∈ s.pending,
      0 < s.counter ∨ ∃ thread, s.others thread = .pushed functor := by
    intro functor queued
    have quiet : s.self = .idle := awake.idle (by rw [about]; exact id)
    obtain readable | pushed | pushed := awake.announced (by rw [about]; exact id) functor queued
    · exact .inl readable
    · exact .inr pushed
    · cases quiet.symm.trans pushed
  constructor
  · intro work
    obtain ⟨functor, queued⟩ := List.exists_mem_of_ne_nil _ work
    obtain readable | ⟨thread, pushed⟩ := announced functor queued
    · exact .inl readable
    · exact .inr ⟨thread, functor, pushed⟩
  · intro functor queued returned
    obtain readable | ⟨thread, pushed⟩ := announced functor queued
    · exact readable
    · exact absurd pushed (returned thread)

/-- A thread pushes while the loop thread enters `loop()`, and has not written yet. -/
theorem no_lost_wakeup_push :
    ∃ s : LoopState Unit, Run (Guarded Step Inside) new [.enter, .otherQueue (), .test] s ∧
      s.phase = .poll ∧ s.pending ≠ [] ∧ s.counter = 0 ∧
      (0 < s.counter ∨ ∃ thread functor, s.others thread = .pushed functor) := by
  have reached : ∃ s : LoopState Unit,
      Run (Guarded Step Inside) new [.enter, .otherQueue (), .test] s ∧
      s.phase = .poll ∧ s.pending ≠ [] ∧ s.counter = 0 :=
    ⟨_, .cons ⟨.enter rfl rfl, nofun⟩ (.cons ⟨.otherQueue rfl, nofun⟩
      (.cons ⟨.stay rfl rfl, nofun⟩ (.nil _))), rfl, List.cons_ne_nil _ _, rfl⟩
  obtain ⟨s, run, about, work, empty⟩ := reached
  exact ⟨s, run, about, work, empty, (no_lost_wakeup _ s run about).1 work⟩

end LoopState

end Muduo
