import Muduo.Base.Fault
import Muduo.Base.Machine
import Muduo.Lib.Handoff
import Muduo.Lib.Run

/-!
# Thread pool

`ThreadPool` is a monitor: `run()`, `take()` and `stop()` are critical sections of one mutex, which
a thread inside `wait()` of a condition has given away. The steps of the pool are these sections,
each up to its return or to its next `wait()`, in any order of the threads. Which thread a
`notify()` wakes is not known, and a thread may also wake up by itself.
-/

open Transition

namespace Muduo

/-- `ThreadPool`: `m_queue`, `_notEmpty` and `_notFull` with the threads that use them, and the
other members. -/
structure ThreadPool (τ α : Type) extends Handoff τ α where
  /-- `m_threads`. -/
  workers : List τ
  /-- `_maxQueueSize`. -/
  maxQueueSize : Nat
  /-- `is_running`. -/
  running : Bool

/-- What a thread does with the pool. -/
inductive PoolAction (τ α : Type)
  /-- A thread enters `run(task)`. -/
  | run (thread : τ) (task : α)
  /-- A worker enters `take()`. -/
  | take (thread : τ)
  /-- A thread inside `wait()` wakes up by itself. -/
  | wake (thread : τ)
  /-- A thread returns from `wait()` with the mutex. -/
  | resume (thread : τ)
  /-- The critical section of `stop()`. -/
  | stop
  deriving DecidableEq, Repr

namespace ThreadPool

variable {τ α : Type}

/-- The constructor. -/
def new : ThreadPool τ α := { Handoff.new with workers := [], maxQueueSize := 0, running := false }

/-- `setMaxQueueSize()`. -/
def setMaxQueueSize (pool : ThreadPool τ α) (maxSize : Int) : ThreadPool τ α :=
  { pool with maxQueueSize := sizeOfInt maxSize }

/-- `start()` with the threads that it creates. -/
def start (pool : ThreadPool τ α) (workers : List τ) : Except Fault (ThreadPool τ α) := do
  ensure pool.workers.isEmpty "m_threads.empty()"
  return { pool with running := true, workers }

/-- `isFull()`. -/
def isFull (pool : ThreadPool τ α) : Bool :=
  decide (0 < pool.maxQueueSize) && decide (pool.maxQueueSize ≤ pool.queue.length)

/-- The critical section of `stop()`. -/
def stop (pool : ThreadPool τ α) : ThreadPool τ α :=
  { pool with
    running := false
    notEmpty := pool.notEmpty.notifyAll
    notFull := pool.notFull.notifyAll }

variable {pool : ThreadPool τ α}

/-- The pool is full when there is a limit and the queue has reached it. -/
theorem isFull_eq_true :
    pool.isFull = true ↔ 0 < pool.maxQueueSize ∧ pool.maxQueueSize ≤ pool.queue.length := by
  simp [isFull]

/-- A pool that is not full has room. -/
theorem room_of_not_full (room : pool.isFull = false) :
    pool.maxQueueSize ≠ 0 → pool.queue.length < pool.maxQueueSize := by
  intro limited
  by_contra full
  have holds := isFull_eq_true.mpr ⟨Nat.pos_of_ne_zero limited, Nat.le_of_not_lt full⟩
  rw [room] at holds
  exact nomatch holds

/-- Nobody waits in a pool that is stopped, and no producer waits where there is no limit. -/
structure Quiet (pool : ThreadPool τ α) : Prop where
  /-- No worker waits after `stop()`. -/
  takers : pool.running = false → pool.notEmpty.waiting = []
  /-- No producer waits after `stop()`. -/
  putters : pool.running = false → pool.notFull.waiting = []
  /-- No producer waits without a limit. -/
  unlimited : pool.maxQueueSize = 0 → pool.notFull.waiting = []

/-- What holds while no thread has the mutex. -/
structure Sound (pool : ThreadPool τ α) : Prop where
  /-- The queue and its threads. -/
  handoff : pool.toHandoff.Sound pool.maxQueueSize
  /-- Those that do not wait. -/
  quiet : pool.Quiet

/-- What a step leaves as it is, and what a pool that is stopped stays. -/
structure Keeps (before after : ThreadPool τ α) : Prop where
  /-- The workers are the same. -/
  workers : after.workers = before.workers
  /-- The limit is the same. -/
  maxQueueSize : after.maxQueueSize = before.maxQueueSize
  /-- Nothing starts the pool again. -/
  running : before.running = false → after.running = false

/-- A pool that was just started is sound. -/
theorem start_sound {maxSize : Int} {workers : List τ} {first : ThreadPool τ α}
    (started : (new.setMaxQueueSize maxSize).start workers = .ok first) :
    first.Sound ∧ first.maxQueueSize = sizeOfInt maxSize := by
  cases started
  refine ⟨⟨Handoff.new_sound _, ?_⟩, rfl⟩
  exact ⟨fun _ => rfl, fun _ => rfl, fun _ => rfl⟩

variable [DecidableEq τ]

/-- `run()` from the test of its loop on. The argument is what `_notEmpty` is after its `notify()`,
if that is reached. -/
def runLoop (pool : ThreadPool τ α) (thread : τ) (task : α) (notified : Condition τ) :
    Except Fault (ThreadPool τ α) :=
  if pool.isFull && pool.running then
    .ok { pool with toHandoff := pool.blockPut thread task }
  else if !pool.running then
    .ok { pool with toHandoff := pool.leave thread }
  else do
    ensure (!pool.isFull) "!isFull()"
    return { pool with toHandoff := pool.push thread task notified }

/-- `run()`, which calls the task itself if there are no workers. -/
def run (pool : ThreadPool τ α) (thread : τ) (task : α) (notified : Condition τ) :
    Except Fault (ThreadPool τ α) :=
  if pool.workers.isEmpty then .ok pool else pool.runLoop thread task notified

/-- `take()` from the test of its loop on. The argument is what `_notFull` is after its `notify()`,
if that is reached. -/
def take (pool : ThreadPool τ α) (thread : τ) (notified : Condition τ) : ThreadPool τ α :=
  match pool.queue with
  | [] =>
    if pool.running then { pool with toHandoff := pool.blockTake thread }
    else { pool with toHandoff := pool.leave thread }
  | task :: rest =>
    { pool with
      toHandoff := pool.pop thread task rest
        (if 0 < pool.maxQueueSize then notified else pool.notFull) }

/-- How a step of a thread ends. -/
inductive Attempt (pool : ThreadPool τ α) : PoolAction τ α → Except Fault (ThreadPool τ α) → Prop
  /-- A thread enters `run()`. -/
  | run {thread : τ} {task : α} {notified : Condition τ} (idle : pool.threads thread = .idle)
      (notifies : pool.notEmpty.Notifies notified) :
      Attempt pool (.run thread task) (pool.run thread task notified)
  /-- A worker enters `take()`. -/
  | take {thread : τ} {notified : Condition τ} (worker : thread ∈ pool.workers)
      (idle : pool.threads thread = .idle) (notifies : pool.notFull.Notifies notified) :
      Attempt pool (.take thread) (.ok (pool.take thread notified))
  /-- A thread inside `run()` wakes up by itself. -/
  | wakeRun {thread : τ} {notFull : Condition τ} (wakes : pool.notFull.Wakes thread notFull) :
      Attempt pool (.wake thread) (.ok { pool with notFull })
  /-- A worker inside `take()` wakes up by itself. -/
  | wakeTake {thread : τ} {notEmpty : Condition τ} (wakes : pool.notEmpty.Wakes thread notEmpty) :
      Attempt pool (.wake thread) (.ok { pool with notEmpty })
  /-- A thread inside `run()` goes on. -/
  | resumeRun {thread : τ} {task : α} {notFull notified : Condition τ}
      (putting : pool.threads thread = .putting task)
      (returns : pool.notFull.Returns thread notFull)
      (notifies : pool.notEmpty.Notifies notified) :
      Attempt pool (.resume thread) ({ pool with notFull }.runLoop thread task notified)
  /-- A worker inside `take()` goes on. -/
  | resumeTake {thread : τ} {notEmpty notified : Condition τ}
      (taking : pool.threads thread = .taking) (returns : pool.notEmpty.Returns thread notEmpty)
      (notifies : pool.notFull.Notifies notified) :
      Attempt pool (.resume thread) (.ok ({ pool with notEmpty }.take thread notified))
  /-- The critical section of `stop()`. -/
  | stop : Attempt pool .stop (.ok pool.stop)

/-- A step that returns. -/
def Step (before : ThreadPool τ α) (action : PoolAction τ α) (after : ThreadPool τ α) : Prop :=
  Attempt before action (.ok after)

/-- An attempt that returns is a step. -/
theorem Step.of_attempt {before after : ThreadPool τ α} {action : PoolAction τ α}
    {result : Except Fault (ThreadPool τ α)} (attempt : Attempt before action result)
    (returns : result = .ok after) : Step before action after := by
  rw [returns] at attempt
  exact attempt

variable {thread : τ}

/-- `run()` passes its assertion and leaves a sound pool, whether it waits, gives up or pushes. -/
theorem runLoop_sound {notified : Condition τ} (quiet : pool.Quiet)
    (producing : pool.toHandoff.Producing pool.maxQueueSize thread)
    (notifies : pool.notEmpty.Notifies notified) (task : α) :
    ∃ after, pool.runLoop thread task notified = .ok after ∧ after.Sound ∧ Keeps pool after := by
  cases running : pool.running with
  | false =>
    have left := producing.leave (quiet.takers running) (quiet.putters running)
    refine ⟨{ pool with toHandoff := pool.leave thread }, ?_, ⟨left, ?_⟩, rfl, rfl, id⟩
    · simp [runLoop, running]
    · exact ⟨quiet.takers, quiet.putters, quiet.unlimited⟩
  | true =>
    cases full : pool.isFull with
    | true =>
      obtain ⟨limited, reached⟩ := isFull_eq_true.mp full
      refine ⟨{ pool with toHandoff := pool.blockPut thread task }, ?_,
        ⟨producing.block reached task, ?_⟩, rfl, rfl, id⟩
      · simp [runLoop, running, full]
      · refine ⟨fun stopped => ?_, fun stopped => ?_, fun none => absurd none limited.ne'⟩
        · exact nomatch running.symm.trans stopped
        · exact nomatch running.symm.trans stopped
    | false =>
      refine ⟨{ pool with toHandoff := pool.push thread task notified }, ?_,
        ⟨producing.push (room_of_not_full full) task notifies, ?_⟩, rfl, rfl, id⟩
      · simp [runLoop, running, full]
      · refine ⟨fun stopped => ?_, quiet.putters, quiet.unlimited⟩
        exact nomatch running.symm.trans stopped

/-- `take()` leaves a sound pool, whether it waits, gives up or pops. -/
theorem take_sound {notified : Condition τ} (quiet : pool.Quiet)
    (consuming : pool.toHandoff.Consuming pool.maxQueueSize thread)
    (notifies : pool.notFull.Notifies notified) :
    (pool.take thread notified).Sound ∧ Keeps pool (pool.take thread notified) := by
  unfold take
  split
  case h_1 empty =>
    by_cases running : pool.running
    · rw [if_pos running]
      refine ⟨⟨consuming.block empty, ?_⟩, rfl, rfl, id⟩
      refine ⟨fun stopped => ?_, quiet.putters, quiet.unlimited⟩
      exact nomatch running.symm.trans stopped
    · rw [if_neg running]
      rw [Bool.not_eq_true] at running
      refine ⟨⟨consuming.leave (quiet.takers running) (quiet.putters running), ?_⟩, rfl, rfl, id⟩
      exact ⟨quiet.takers, quiet.putters, quiet.unlimited⟩
  case h_2 task rest first =>
    by_cases limited : 0 < pool.maxQueueSize
    · rw [if_pos limited]
      refine ⟨⟨consuming.pop first (.inr notifies), quiet.takers, ?_, ?_⟩, rfl, rfl, id⟩
      · exact fun stopped => notifies.nobody_waits (quiet.putters stopped)
      · exact fun none => notifies.nobody_waits (quiet.unlimited none)
    · rw [if_neg limited]
      have none := Nat.eq_zero_of_not_pos limited
      refine ⟨⟨consuming.pop first (.inl ⟨none, rfl⟩), ?_⟩, rfl, rfl, id⟩
      exact ⟨quiet.takers, quiet.putters, quiet.unlimited⟩

/-- Every step of every thread returns and leaves a sound pool. -/
theorem Attempt.sound {action : PoolAction τ α} {result : Except Fault (ThreadPool τ α)}
    (attempt : Attempt pool action result) (sound : pool.Sound) :
    ∃ after, result = .ok after ∧ after.Sound ∧ Keeps pool after := by
  obtain ⟨handoff, quiet⟩ := sound
  cases attempt with
  | run idle notifies =>
    unfold ThreadPool.run
    split
    case isTrue inline => exact ⟨pool, rfl, ⟨handoff, quiet⟩, rfl, rfl, id⟩
    case isFalse => exact runLoop_sound quiet (handoff.producing idle) notifies _
  | take worker idle notifies =>
    exact ⟨_, rfl, take_sound quiet (handoff.consuming idle) notifies⟩
  | wakeRun wakes =>
    refine ⟨_, rfl, ⟨handoff.wakes_putting wakes, quiet.takers, ?_, ?_⟩, rfl, rfl, id⟩
    · exact fun stopped => absurd (quiet.putters stopped) wakes.somebody_waited
    · exact fun none => absurd (quiet.unlimited none) wakes.somebody_waited
  | wakeTake wakes =>
    refine ⟨_, rfl, ⟨handoff.wakes_taking wakes, ?_, quiet.putters, quiet.unlimited⟩, rfl, rfl, id⟩
    exact fun stopped => absurd (quiet.takers stopped) wakes.somebody_waited
  | @resumeRun thread task notFull notified putting returns notifies =>
    have entered : Quiet { pool with notFull } := by
      refine ⟨quiet.takers, fun stopped => ?_, fun none => ?_⟩
      · exact returns.waiting_eq.trans (quiet.putters stopped)
      · exact returns.waiting_eq.trans (quiet.unlimited none)
    obtain ⟨after, done, sound, keeps⟩ :=
      runLoop_sound entered (handoff.resumes_putting putting returns) notifies task
    exact ⟨after, done, sound, keeps.workers, keeps.maxQueueSize, keeps.running⟩
  | @resumeTake thread notEmpty notified taking returns notifies =>
    have entered : Quiet { pool with notEmpty } := by
      refine ⟨fun stopped => ?_, quiet.putters, quiet.unlimited⟩
      exact returns.waiting_eq.trans (quiet.takers stopped)
    obtain ⟨sound, keeps⟩ := take_sound entered (handoff.resumes_taking taking returns) notifies
    exact ⟨_, rfl, sound, keeps.workers, keeps.maxQueueSize, keeps.running⟩
  | stop =>
    refine ⟨_, rfl, ⟨handoff.notifyAll, ?_⟩, rfl, rfl, fun _ => rfl⟩
    exact ⟨fun _ => rfl, fun _ => rfl, fun _ => rfl⟩

/-- What a run leads to: a sound pool with the workers and the limit of the first one, which is
stopped if `stop()` was among the actions. -/
structure Reached (first : ThreadPool τ α) (done : List (PoolAction τ α))
    (pool : ThreadPool τ α) : Prop where
  /-- The pool is sound. -/
  sound : pool.Sound
  /-- The workers and the limit are the same. -/
  keeps : Keeps first pool
  /-- The pool is stopped. -/
  stopped : .stop ∈ done → pool.running = false

/-- A step that returns leads on. -/
theorem Reached.step {first before after : ThreadPool τ α} {done : List (PoolAction τ α)}
    {action : PoolAction τ α} (reached : Reached first done before)
    (step : Step before action after) : Reached first (done ++ [action]) after := by
  obtain ⟨_, same, sound, next⟩ := step.sound reached.sound
  cases same
  refine ⟨sound, ⟨next.workers.trans reached.keeps.workers,
    next.maxQueueSize.trans reached.keeps.maxQueueSize,
    fun stopped => next.running (reached.keeps.running stopped)⟩, fun member => ?_⟩
  obtain earlier | now := List.mem_append.mp member
  · exact next.running (reached.stopped earlier)
  · obtain rfl := List.mem_singleton.mp now
    cases step
    rfl

/-- Every run from a sound pool leads to what it should. -/
theorem reached_of_run {first : ThreadPool τ α} {actions : List (PoolAction τ α)}
    (sound : first.Sound) (run : Run Step first actions pool) : Reached first actions pool := by
  have begins : Reached first [] first := ⟨sound, ⟨rfl, rfl, id⟩, nofun⟩
  have reached : Reached first ([] ++ actions) pool := run.history begins
    fun _ _ _ _ reached step => reached.step step
  exact reached

/-- In every state that any interleaving reaches: tasks are taken in the order in which they were
accepted, each once; the queue keeps its limit and no step fails an assertion; as long as a worker
waits without a signal there are no more tasks than signalled workers, and as long as a producer
waits without a signal there is a limit and there are no more free places than signalled producers;
no thread is in a condition twice; and after `stop()` nobody waits without a signal. -/
theorem monitor_of_run {maxSize : Int} {workers : List τ} {first : ThreadPool τ α}
    {actions : List (PoolAction τ α)}
    (started : (new.setMaxQueueSize maxSize).start workers = .ok first)
    (run : Run Step first actions pool) :
    pool.taken ++ pool.queue = pool.given ∧
      (0 < sizeOfInt maxSize → pool.queue.length ≤ sizeOfInt maxSize) ∧
      (∀ action result, Attempt pool action result → ∃ after, result = .ok after) ∧
      (pool.notEmpty.waiting ≠ [] → pool.queue.length ≤ pool.notEmpty.signalled.length) ∧
      (pool.notFull.waiting ≠ [] → 0 < sizeOfInt maxSize ∧
        sizeOfInt maxSize - pool.queue.length ≤ pool.notFull.signalled.length) ∧
      pool.notEmpty.members.Nodup ∧ pool.notFull.members.Nodup ∧
      (.stop ∈ actions → pool.notEmpty.waiting = [] ∧ pool.notFull.waiting = []) := by
  obtain ⟨startSound, limit⟩ := start_sound started
  obtain ⟨sound, keeps, stopped⟩ := reached_of_run startSound run
  have same : pool.maxQueueSize = sizeOfInt maxSize := keeps.maxQueueSize.trans limit
  have handoff := sound.handoff
  rw [same] at handoff
  refine ⟨handoff.fifo, fun limited => handoff.bounded limited.ne', ?_, handoff.consumers,
    fun waits => ⟨?_, handoff.producers waits⟩, handoff.taking.nodup, handoff.putting.nodup, ?_⟩
  · intro action result attempt
    obtain ⟨after, done, -, -⟩ := attempt.sound sound
    exact ⟨after, done⟩
  · refine Nat.pos_of_ne_zero fun none => waits (sound.quiet.unlimited ?_)
    rw [same]
    exact none
  · intro member
    exact ⟨sound.quiet.takers (stopped member), sound.quiet.putters (stopped member)⟩

/-- A pool with one worker and one place: the second producer waits for the first task to be taken,
is signalled and puts its task, and then the pool is stopped. -/
theorem monitor_of_run_blocked_producer :
    ∃ first pool : ThreadPool Nat Nat, (new.setMaxQueueSize 1).start [0] = .ok first ∧
      Run Step first [.run 1 10, .run 2 11, .take 0, .resume 2, .stop] pool ∧
      pool.taken ++ pool.queue = [10, 11] ∧ pool.queue.length ≤ 1 := by
  have run : ∃ pool, Run Step ({ new.setMaxQueueSize 1 with running := true, workers := [0] })
      [.run 1 10, .run 2 11, .take 0, .resume 2, .stop] pool ∧ pool.given = [10, 11] :=
    ⟨_, .cons (.of_attempt (.run rfl (.nobody rfl)) rfl) <|
      .cons (.of_attempt (.run rfl (.nobody rfl)) rfl) <|
      .cons (.take List.mem_cons_self rfl (@Condition.Notifies.somebody _ _ [] [] 2 rfl)) <|
      .cons (.of_attempt (.resumeRun rfl (@Condition.Returns.signalled _ _ 2 [] [] rfl)
        (.nobody rfl)) rfl) <|
      .cons .stop (.nil _), rfl⟩
  obtain ⟨pool, run, given⟩ := run
  have monitor := monitor_of_run rfl run
  exact ⟨_, pool, rfl, run, monitor.1.trans given, monitor.2.1 (by decide)⟩

end ThreadPool

end Muduo
