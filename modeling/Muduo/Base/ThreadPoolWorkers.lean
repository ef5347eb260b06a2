import Muduo.Base.ThreadPool
import Muduo.Lib.Roster

/-!
# The threads of a thread pool

`runInThread()` calls the initial callback and then, as long as the pool is running, takes tasks and
calls them; `start()` creates the workers one by one, and `stop()` joins them one by one. The owner
calls `start()` and `stop()`, any thread may call `run()`, and a task may do so as well. A worker
reads `is_running` without the mutex, and that read is a step of its own.
-/

open Function Outcome Transition

namespace Muduo

/-- Where a thread is in `runInThread()`. -/
inductive WorkerStage (α : Type)
  /-- It is no thread of the pool. -/
  | outside
  /-- In `_threadInitCallback()`. -/
  | starting
  /-- Before the test of `while(is_running)`. -/
  | testing
  /-- Before `take()`. -/
  | calling
  /-- In `take()`, inside `wait()`. -/
  | taking
  /-- In `task()`. -/
  | working (task : α)
  /-- It has ended. -/
  | finished
  deriving DecidableEq

/-- Where the owner of the pool is. -/
inductive OwnerStage (τ : Type)
  /-- In no function of the pool. -/
  | idle
  /-- In the loop of `start()`, with so many threads to create. -/
  | starting (more : Nat)
  /-- In the loop of `stop()`, with these threads to join. -/
  | joining (rest : List τ)
  /-- In `join()` of a thread, in `pthread_join`, with these threads to join after it. -/
  | waiting (worker : τ) (rest : List τ)
  deriving DecidableEq

/-- A `ThreadPool` with its threads and its owner. -/
structure PoolThreads (τ α : Type) where
  /-- The pool. -/
  pool : ThreadPool τ α
  /-- The threads. -/
  stages : τ → WorkerStage α
  /-- The owner. -/
  owner : OwnerStage τ
  /-- The threads with `is_joined`. -/
  joined : List τ
  /-- The tasks whose calls by the workers have returned, in that order. -/
  ran : List α

/-- What happens. -/
inductive PoolThreads.Action (τ α : Type)
  /-- The owner calls `start(numThreads)`. -/
  | start (numThreads : Nat)
  /-- A turn of the loop of `start()`. -/
  | create (worker : τ)
  /-- `start()` returns. -/
  | started
  /-- The initial callback returns. -/
  | callback (worker : τ)
  /-- A worker tests `is_running`. -/
  | test (worker : τ)
  /-- A worker enters `take()`. -/
  | take (worker : τ)
  /-- A worker inside `take()` returns from `wait()`. -/
  | resume (worker : τ)
  /-- A task returns. -/
  | finish (worker : τ)
  /-- A thread inside or before `run()`, or one that wakes up by itself. -/
  | pool (action : PoolAction τ α)
  /-- The owner calls `stop()`, up to the end of its critical section. -/
  | stop
  /-- The owner calls `join()` of a thread. -/
  | join (worker : τ)
  /-- `join()` of a thread returns. -/
  | joined (worker : τ)
  /-- `stop()` returns. -/
  | stopped
  deriving DecidableEq

namespace WorkerStage

variable {α : Type}

/-- The task that a worker is in. -/
def task : WorkerStage α → Option α
  | working task => some task
  | _ => none

/-- The worker is in no function of the pool that waits, and in no code of the user. -/
def Resting (stage : WorkerStage α) : Prop :=
  stage = testing ∨ stage = calling ∨ stage = finished

/-- The worker is in code of the user, which may call `run()`. -/
def InUserCode (stage : WorkerStage α) : Prop :=
  stage = starting ∨ ∃ task, stage = working task

/-- How many steps of its own a worker takes at most in a pool that is stopped. -/
def stepsLeft : WorkerStage α → Nat
  | outside | finished => 0
  | testing => 1
  | starting | working _ => 2
  | calling | taking => 3

/-- How many tasks a worker may still take in a pool that is stopped. -/
def takesLeft : WorkerStage α → Nat
  | calling | taking => 1
  | _ => 0

/-- A worker takes three steps at most. -/
theorem stepsLeft_le (stage : WorkerStage α) : stage.stepsLeft ≤ 3 := by
  cases stage <;> simp [stepsLeft]

/-- A worker takes one task at most. -/
theorem takesLeft_le (stage : WorkerStage α) : stage.takesLeft ≤ 1 := by
  cases stage <;> simp [takesLeft]

end WorkerStage

namespace OwnerStage

variable {τ : Type}

/-- The owner is in `join()` of a thread. -/
def Waits (owner : OwnerStage τ) (worker : τ) : Prop := ∃ rest, owner = waiting worker rest

/-- The owner is in the loop of `stop()`, with these threads to join later. -/
def Stopping (owner : OwnerStage τ) (rest : List τ) : Prop :=
  owner = joining rest ∨ ∃ worker, owner = waiting worker rest

/-- How many steps the owner takes until `stop()` returns. -/
def stepsLeft : OwnerStage τ → Nat
  | idle | starting _ => 0
  | joining rest => 2 * rest.length + 1
  | waiting _ rest => 2 * rest.length + 2

variable {rest : List τ}

/-- An owner outside the pool is not in `stop()`. -/
theorem not_stopping_idle : ¬ (idle : OwnerStage τ).Stopping rest := by
  rintro (joining | ⟨worker, waiting⟩)
  · cases joining
  · cases waiting

/-- An owner outside the pool waits for nobody. -/
theorem not_waits_idle {worker : τ} : ¬ (idle : OwnerStage τ).Waits worker := by
  rintro ⟨rest, waits⟩
  cases waits

/-- An owner in `start()` is not in `stop()`. -/
theorem not_stopping_starting {more : Nat} : ¬ (starting more : OwnerStage τ).Stopping rest := by
  rintro (joining | ⟨worker, waiting⟩)
  · cases joining
  · cases waiting

end OwnerStage

namespace PoolThreads

variable {τ α : Type}

/-- A pool before `start()`. -/
def new (pool : ThreadPool τ α) : PoolThreads τ α := ⟨pool, fun _ => .outside, .idle, [], []⟩

/-- The beginning of `start()`. -/
def start (s : PoolThreads τ α) (numThreads : Nat) : Except Fault (PoolThreads τ α) := do
  ensure s.pool.workers.isEmpty "m_threads.empty()"
  return { s with pool := { s.pool with running := true }, owner := .starting numThreads }

/-- Where a worker is after `take()` went on from the test of its loop. -/
def afterTake (callable : α → Bool) (pool : ThreadPool τ α) : WorkerStage α :=
  match pool.queue with
  | [] => if pool.running then .taking else .testing
  | task :: _ => if callable task then .working task else .testing

/-- The tasks that the workers are in. -/
def inHand (s : PoolThreads τ α) : List α :=
  (Roster.stages s.pool.workers s.stages).filterMap WorkerStage.task

/-- How many steps of their own the workers take at most in a pool that is stopped. -/
def stepsLeft (s : PoolThreads τ α) : Nat :=
  ((Roster.stages s.pool.workers s.stages).map WorkerStage.stepsLeft).sum

/-- How many tasks the workers may still take in a pool that is stopped. -/
def takesLeft (s : PoolThreads τ α) : Nat :=
  ((Roster.stages s.pool.workers s.stages).map WorkerStage.takesLeft).sum

variable [DecidableEq τ]

/-- A worker is at a stage. -/
def goto (s : PoolThreads τ α) (worker : τ) (stage : WorkerStage α) : PoolThreads τ α :=
  { s with stages := update s.stages worker stage }

/-- A turn of the loop of `start()`: the thread is created and is in `runInThread()`. -/
def create (s : PoolThreads τ α) (worker : τ) (more : Nat) : PoolThreads τ α :=
  { s with
    pool := { s.pool with workers := s.pool.workers ++ [worker] }
    stages := update s.stages worker .starting
    owner := .starting more }

/-- `Thread::join()` up to `pthread_join`, in a turn of the loop of `stop()`. -/
def join (s : PoolThreads τ α) (worker : τ) (rest : List τ) : Except Fault (PoolThreads τ α) := do
  ensure (decide (worker ∈ s.pool.workers)) "is_started"
  ensure (decide (worker ∉ s.joined)) "!is_joined"
  return { s with joined := s.joined ++ [worker], owner := .waiting worker rest }

/-- What a thread does with the pool but for the workers' calls of `take()`. -/
def Ordinary (s : PoolThreads τ α) : PoolAction τ α → Prop
  | .run thread _ => s.stages thread = .outside ∨ (s.stages thread).InUserCode
  | .take _ => False
  | .wake _ => True
  | .resume thread => s.stages thread ≠ .taking
  | .stop => False

/-- How an action ends. The tasks that are not empty functions are `callable`. -/
inductive Attempt (callable : α → Bool) (s : PoolThreads τ α) :
    Action τ α → Except Fault (PoolThreads τ α) → Prop
  /-- `start()`. -/
  | start {numThreads : Nat} (idle : s.owner = .idle) :
      Attempt callable s (.start numThreads) (s.start numThreads)
  /-- A thread is created. -/
  | create {worker : τ} {more : Nat} (starting : s.owner = .starting (more + 1))
      (fresh : s.stages worker = .outside) (unused : s.pool.threads worker = .idle) :
      Attempt callable s (.create worker) (.ok (s.create worker more))
  /-- `start()` returns. -/
  | started (starting : s.owner = .starting 0) :
      Attempt callable s .started (.ok { s with owner := .idle })
  /-- The initial callback returns. -/
  | callback {worker : τ} (starting : s.stages worker = .starting)
      (idle : s.pool.threads worker = .idle) :
      Attempt callable s (.callback worker) (.ok (s.goto worker .testing))
  /-- The test of the loop. -/
  | test {worker : τ} (testing : s.stages worker = .testing) :
      Attempt callable s (.test worker)
        (.ok (s.goto worker (if s.pool.running then .calling else .finished)))
  /-- `take()` up to its return or to `wait()`. -/
  | take {worker : τ} {pool : ThreadPool τ α} (calling : s.stages worker = .calling)
      (step : s.pool.Step (.take worker) pool) :
      Attempt callable s (.take worker)
        (.ok ({ s with pool }.goto worker (afterTake callable s.pool)))
  /-- `take()` from `wait()` on. -/
  | resume {worker : τ} {pool : ThreadPool τ α} (taking : s.stages worker = .taking)
      (step : s.pool.Step (.resume worker) pool) :
      Attempt callable s (.resume worker)
        (.ok ({ s with pool }.goto worker (afterTake callable s.pool)))
  /-- A task returns. -/
  | finish {worker : τ} {task : α} (working : s.stages worker = .working task)
      (idle : s.pool.threads worker = .idle) :
      Attempt callable s (.finish worker)
        (.ok { s.goto worker .testing with ran := s.ran ++ [task] })
  /-- `run()`, and waking up. -/
  | pool {action : PoolAction τ α} {result : Except Fault (ThreadPool τ α)}
      (ordinary : s.Ordinary action) (attempt : s.pool.Attempt action result) :
      Attempt callable s (.pool action) (result.map fun pool => { s with pool })
  /-- `stop()`. -/
  | stop (idle : s.owner = .idle) :
      Attempt callable s .stop
        (.ok { s with pool := s.pool.stop, owner := .joining s.pool.workers })
  /-- `join()`. -/
  | join {worker : τ} {rest : List τ} (joining : s.owner = .joining (worker :: rest)) :
      Attempt callable s (.join worker) (s.join worker rest)
  /-- `pthread_join` returns once the thread has ended. -/
  | joined {worker : τ} {rest : List τ} (waiting : s.owner = .waiting worker rest)
      (finished : s.stages worker = .finished) :
      Attempt callable s (.joined worker) (.ok { s with owner := .joining rest })
  /-- `stop()` returns. -/
  | stopped (joining : s.owner = .joining []) :
      Attempt callable s .stopped (.ok { s with owner := .idle })

/-- An action that does not fail. -/
def Step (callable : α → Bool) (before : PoolThreads τ α) (action : Action τ α)
    (after : PoolThreads τ α) : Prop :=
  Attempt callable before action (.ok after)

end PoolThreads

namespace ThreadPool

variable {τ α : Type} [DecidableEq τ] {pool after : ThreadPool τ α} {thread : τ}

/-- `run()` takes no task, and its thread does not wait for one. -/
theorem runLoop_frame {task : α} {notified : Condition τ}
    (done : pool.runLoop thread task notified = .ok after) :
    after.taken = pool.taken ∧
      ∃ role, role ≠ .taking ∧ after.threads = update pool.threads thread role := by
  unfold runLoop at done
  split at done
  case isTrue =>
    cases done
    exact ⟨rfl, .putting task, by simp, rfl⟩
  case isFalse =>
    split at done
    case isTrue =>
      cases done
      exact ⟨rfl, .idle, by simp, rfl⟩
    case isFalse =>
      obtain ⟨_, -, rest⟩ := bind_eq_ok.mp done
      cases rest
      exact ⟨rfl, .idle, by simp, rfl⟩

/-- `take()` returns the first task, if there is one, and waits if there is none and the pool is
running. -/
theorem take_frame (pool : ThreadPool τ α) (thread : τ) (notified : Condition τ) :
    (pool.take thread notified).taken = pool.taken ++ pool.queue.head?.toList ∧
      (pool.take thread notified).threads = update pool.threads thread
        (if pool.queue = [] ∧ pool.running = true then .taking else .idle) := by
  unfold take
  split
  case h_1 empty =>
    rw [empty]
    by_cases running : pool.running
    · simp [running, Handoff.blockTake]
    · simp [running, Handoff.leave]
  case h_2 task rest first =>
    rw [first]
    simp [Handoff.pop]

end ThreadPool

namespace PoolThreads

variable {τ α : Type} {callable : α → Bool} {s after : PoolThreads τ α} {action : Action τ α}
  {pool : ThreadPool τ α} {worker : τ}

/-- Where a worker waits after `take()` went on. -/
theorem afterTake_eq_taking (callable : α → Bool) (pool : ThreadPool τ α) :
    afterTake callable pool = .taking ↔ pool.queue = [] ∧ pool.running = true := by
  unfold afterTake
  split
  case h_1 empty => by_cases running : pool.running <;> simp [empty, running]
  case h_2 task rest first => by_cases called : callable task <;> simp [first, called]

/-- What a worker is in after `take()` is what it took, if that can be called. -/
theorem afterTake_task :
    (afterTake callable pool).task.toList = pool.queue.head?.toList.filter callable := by
  unfold afterTake
  split
  case h_1 empty =>
    by_cases running : pool.running <;> simp [empty, running, WorkerStage.task]
  case h_2 task rest first =>
    by_cases called : callable task <;> simp [first, called, WorkerStage.task]

/-- After `take()` a worker waits, tests or works. -/
theorem afterTake_cases (callable : α → Bool) (pool : ThreadPool τ α) :
    afterTake callable pool = .taking ∨ afterTake callable pool = .testing ∨
      ∃ task, afterTake callable pool = .working task := by
  unfold afterTake
  split
  case h_1 empty => by_cases running : pool.running <;> simp [running]
  case h_2 task rest first => by_cases called : callable task <;> simp [called]

/-- What `take()` does to the pool and returns. -/
structure Takes (before after : ThreadPool τ α) (worker : τ) : Prop where
  /-- The pool is sound. -/
  sound : after.Sound
  /-- The workers and the limit are the same. -/
  keeps : ThreadPool.Keeps before after
  /-- What is taken. -/
  taken : after.taken = before.taken ++ before.queue.head?.toList
  /-- The worker waits if `take()` has not returned. -/
  role : after.threads worker =
    if before.queue = [] ∧ before.running = true then .taking else .idle
  /-- The others are where they were. -/
  others : ∀ other, other ≠ worker → after.threads other = before.threads other

/-- What holds in every state. -/
structure Sound (callable : α → Bool) (s : PoolThreads τ α) : Prop where
  /-- The pool. -/
  pool : s.pool.Sound
  /-- Each worker is one. -/
  nodup : s.pool.workers.Nodup
  /-- The workers are the threads in `runInThread()`. -/
  members : ∀ worker, worker ∈ s.pool.workers ↔ s.stages worker ≠ .outside
  /-- Those that wait in `take()` are workers that called it. -/
  taking : ∀ worker, s.pool.threads worker = .taking ↔ s.stages worker = .taking
  /-- A worker between its calls does not wait. -/
  resting : ∀ worker, (s.stages worker).Resting → s.pool.threads worker = .idle
  /-- The tasks that were called are those taken. -/
  tasks : (s.ran ++ s.inHand).Perm (s.pool.taken.filter callable)
  /-- Nobody ends while the pool is running. -/
  finished : s.pool.running = true → ∀ worker, s.stages worker ≠ .finished
  /-- Who was joined has ended. -/
  joined : ∀ worker ∈ s.joined, s.owner.Waits worker ∨ s.stages worker = .finished
  /-- The pool is not running during the joins of `stop()`, which are of workers. -/
  stopping : ∀ rest, s.owner.Stopping rest →
    s.pool.running = false ∧
      (∀ worker, worker ∈ rest ∨ s.owner.Waits worker → worker ∈ s.pool.workers) ∧
      ∀ worker ∈ s.pool.workers, worker ∈ rest ∨ worker ∈ s.joined

/-- The owner goes on when a worker has ended, or after the last one. -/
theorem Sound.returns {owner : OwnerStage τ} (sound : s.Sound callable)
    (waited : ∀ worker, s.owner.Waits worker → s.stages worker = .finished)
    (leaves : ∀ worker, ¬ owner.Waits worker)
    (stops : ∀ rest, owner.Stopping rest → s.owner.Stopping rest) :
    Sound callable { s with owner } := by
  refine ⟨sound.pool, sound.nodup, sound.members, sound.taking, sound.resting, sound.tasks,
    sound.finished, fun worker member => ?_, fun rest stopping => ?_⟩
  · obtain waits | ended := sound.joined worker member
    · exact .inr (waited worker waits)
    · exact .inr ended
  · obtain ⟨stopped, inside, all⟩ := sound.stopping rest (stops rest stopping)
    refine ⟨stopped, fun worker member => ?_, all⟩
    obtain later | waits := member
    · exact inside worker (.inl later)
    · exact absurd waits (leaves worker)

/-- `start()` keeps the invariant. -/
theorem Sound.start {numThreads : Nat} (sound : s.Sound callable) (idle : s.owner = .idle)
    (done : s.start numThreads = .ok after) : after.Sound callable := by
  rw [PoolThreads.start] at done
  obtain ⟨_, empty, rest⟩ := bind_eq_ok.mp done
  cases rest
  have none : s.pool.workers = [] := by simpa using empty
  refine ⟨⟨sound.pool.handoff, ?_⟩, sound.nodup, sound.members, sound.taking, sound.resting,
    sound.tasks, ?_, ?_, ?_⟩
  · exact ⟨by simp, by simp, sound.pool.quiet.unlimited⟩
  · intro _ worker ended
    have stage : s.stages worker = .finished := ended
    have inside := (sound.members worker).mpr (by simp [stage])
    rw [none] at inside
    cases inside
  · intro worker member
    obtain ⟨rest, waits⟩ | ended := sound.joined worker member
    · rw [idle] at waits
      cases waits
    · exact .inr ended
  · exact fun rest stopping => absurd stopping OwnerStage.not_stopping_starting

/-- A pool before `start()` is sound. -/
theorem new_sound (maxSize : Int) :
    Sound callable (new (ThreadPool.new.setMaxQueueSize maxSize : ThreadPool τ α)) where
  pool := ⟨Handoff.new_sound _, fun _ => rfl, fun _ => rfl, fun _ => rfl⟩
  nodup := List.nodup_nil
  members _ := iff_of_false (List.not_mem_nil) (by simp [new])
  taking _ := iff_of_false (show Role.idle ≠ .taking by simp) (by simp [new])
  resting _ _ := rfl
  tasks := .refl _
  finished _ _ := by simp [new]
  joined _ member := absurd member List.not_mem_nil
  stopping _ stopping := absurd stopping OwnerStage.not_stopping_idle

/-- A call of `start()`. -/
def Action.isStart : Action τ α → Bool
  | start _ => true
  | _ => false

/-- A call of `stop()`. -/
def Action.isStop : Action τ α → Bool
  | stop => true
  | _ => false

/-- A step of the owner. -/
def Action.ofOwner : Action τ α → Bool
  | start _ | create _ | started | stop | join _ | joined _ | stopped => true
  | _ => false

/-- What the calls of `start()` and `stop()` so far tell. -/
structure Called (done : List (Action τ α)) (s : PoolThreads τ α) : Prop where
  /-- Before `start()` there are no workers. -/
  start : done.countP Action.isStart = 0 →
    s.pool.workers = [] ∧ ∀ more, s.owner ≠ .starting more
  /-- Before `stop()` nobody is joined. -/
  stop : done.countP Action.isStop = 0 → s.joined = [] ∧ ∀ rest, ¬ s.owner.Stopping rest
  /-- In the first `stop()` nobody is joined twice. -/
  join : done.countP Action.isStop ≤ 1 → ∀ rest, s.owner.Stopping rest →
    rest.Nodup ∧ ∀ worker ∈ rest, worker ∉ s.joined

/-- A step other than those of the owner leaves what the owner does and has done. -/
theorem Called.congr {done : List (Action τ α)} (called : Called done s)
    (workers : after.pool.workers = s.pool.workers) (owner : after.owner = s.owner)
    (joined : after.joined = s.joined) (start : action.isStart = false)
    (stop : action.isStop = false) : Called (done ++ [action]) after := by
  have starts : (done ++ [action]).countP Action.isStart = done.countP Action.isStart := by
    simp [List.countP_append, start]
  have stops : (done ++ [action]).countP Action.isStop = done.countP Action.isStop := by
    simp [List.countP_append, stop]
  refine ⟨?_, ?_, ?_⟩
  · rw [starts, workers, owner]
    exact called.start
  · rw [stops, owner, joined]
    exact called.stop
  · rw [stops, owner, joined]
    exact called.join

/-- A pool with workers that is stopped. -/
structure Stopped (s : PoolThreads τ α) : Prop where
  /-- The pool is not running. -/
  running : s.pool.running = false
  /-- There are workers. -/
  workers : s.pool.workers ≠ []
  /-- Nobody is in `start()`. -/
  started : ∀ more, s.owner ≠ .starting more

/-- Once `stop()` has returned in a pool with workers, all of them have ended, for good. -/
structure Over (s : PoolThreads τ α) : Prop where
  /-- The pool is stopped. -/
  stopped : s.Stopped
  /-- The workers have ended. -/
  finished : ∀ worker ∈ s.pool.workers, s.stages worker = .finished

/-- A pool that is over is in no task. -/
theorem Over.inHand (closed : s.Over) : s.inHand = [] := by
  rw [PoolThreads.inHand, Roster.stages, List.filterMap_map]
  apply List.filterMap_eq_nil_iff.mpr
  intro worker inside
  rw [Function.comp_apply, closed.finished worker inside]
  rfl

variable [DecidableEq τ]

/-- The sections of `take()` have one effect. -/
theorem takes_of_take {notified : Condition τ} {before : ThreadPool τ α}
    (queue : pool.queue = before.queue) (running : pool.running = before.running)
    (taken : pool.taken = before.taken) (threads : pool.threads = before.threads)
    (sound : (pool.take worker notified).Sound)
    (keeps : ThreadPool.Keeps before (pool.take worker notified)) :
    Takes before (pool.take worker notified) worker := by
  have frame := pool.take_frame worker notified
  rw [queue, running, taken, threads] at frame
  refine ⟨sound, keeps, frame.1, ?_, fun other different => ?_⟩
  · rw [frame.2, update_self]
  · rw [frame.2, update_of_ne different]

/-- `take()` up to its return or to `wait()`. -/
theorem takes_of_step (sound : pool.Sound) {next : ThreadPool τ α}
    (step : pool.Step (.take worker) next) : Takes pool next worker := by
  obtain ⟨_, same, good, keeps⟩ := step.sound sound
  cases same
  cases step with
  | take inside idle notifies => exact takes_of_take rfl rfl rfl rfl good keeps

/-- `take()` from `wait()` on. -/
theorem takes_of_resume (sound : pool.Sound) {next : ThreadPool τ α}
    (taking : pool.threads worker = .taking) (step : pool.Step (.resume worker) next) :
    Takes pool next worker := by
  obtain ⟨_, same, good, keeps⟩ := step.sound sound
  cases same
  have attempt : pool.Attempt (.resume worker) (.ok next) := step
  generalize outcome : Except.ok next = result at attempt
  cases attempt with
  | resumeRun putting returns notifies =>
    rw [taking] at putting
    cases putting
  | resumeTake waiting returns notifies =>
    cases outcome
    exact takes_of_take rfl rfl rfl rfl good keeps

/-- A worker moves to a stage by a step of its own. -/
structure Moves (callable : α → Bool) (before : PoolThreads τ α) (worker : τ)
    (stage : WorkerStage α) (after : PoolThreads τ α) : Prop where
  /-- The worker. -/
  stages : after.stages = update before.stages worker stage
  /-- The owner stays. -/
  owner : after.owner = before.owner
  /-- Nobody is joined. -/
  joined : after.joined = before.joined
  /-- The pool. -/
  sound : after.pool.Sound
  /-- The workers and the limit are the same. -/
  keeps : ThreadPool.Keeps before.pool after.pool
  /-- The others stay. -/
  others : ∀ other, other ≠ worker → after.pool.threads other = before.pool.threads other
  /-- The worker was in `runInThread()`. -/
  inside : before.stages worker ≠ .outside ∧ before.stages worker ≠ .finished
  /-- It still is, or it has ended. -/
  remains : stage ≠ .outside
  /-- It waits if it is in `take()`. -/
  taking : after.pool.threads worker = .taking ↔ stage = .taking
  /-- It does not wait between its calls. -/
  resting : stage.Resting → after.pool.threads worker = .idle
  /-- It ends in a pool that is not running. -/
  ends : stage = .finished → before.pool.running = false
  /-- What it takes it calls, what it called has run, and a pool that is not running lets it come
  closer to its end. -/
  tasks : ∃ more new, after.ran = before.ran ++ more ∧ after.pool.taken = before.pool.taken ++ new ∧
    (more ++ stage.task.toList).Perm ((before.stages worker).task.toList ++ new.filter callable) ∧
    (before.pool.running = false → stage.stepsLeft < (before.stages worker).stepsLeft ∧
      new.length + stage.takesLeft ≤ (before.stages worker).takesLeft)

/-- A move keeps the invariant. -/
theorem Moves.sound_after {stage : WorkerStage α} (moves : Moves callable s worker stage after)
    (sound : s.Sound callable) : after.Sound callable where
  pool := moves.sound
  nodup := by
    rw [moves.keeps.workers]
    exact sound.nodup
  members other := by
    rw [moves.keeps.workers, moves.stages, sound.members]
    by_cases same : other = worker
    · subst same
      rw [update_self]
      exact iff_of_true moves.inside.1 moves.remains
    · rw [update_of_ne same]
  taking other := by
    rw [moves.stages]
    by_cases same : other = worker
    · subst same
      rw [update_self]
      exact moves.taking
    · rw [update_of_ne same, moves.others other same]
      exact sound.taking other
  resting other := by
    rw [moves.stages]
    by_cases same : other = worker
    · subst same
      rw [update_self]
      exact moves.resting
    · rw [update_of_ne same, moves.others other same]
      exact sound.resting other
  tasks := by
    classical
    obtain ⟨more, new, ran, taken, gives, -⟩ := moves.tasks
    obtain ⟨rest, held, holds⟩ := Roster.filterMap_update sound.nodup
      ((sound.members worker).mpr moves.inside.1) s.stages stage WorkerStage.task
    have known := sound.tasks
    rw [inHand] at known
    rw [inHand, ran, taken, moves.keeps.workers, moves.stages, List.filter_append]
    rw [List.perm_iff_count] at gives held holds known ⊢
    intro task
    have one := gives task
    have two := held task
    have three := holds task
    have four := known task
    simp only [List.count_append] at one two three four ⊢
    omega
  finished running other := by
    rw [moves.stages]
    have before : s.pool.running = true := by
      by_contra stopped
      rw [moves.keeps.running (by simpa using stopped)] at running
      cases running
    by_cases same : other = worker
    · subst same
      rw [update_self]
      intro ended
      rw [moves.ends ended] at before
      cases before
    · rw [update_of_ne same]
      exact sound.finished before other
  joined other member := by
    rw [moves.owner, moves.stages]
    rw [moves.joined] at member
    obtain waits | ended := sound.joined other member
    · exact .inl waits
    · have different : other ≠ worker := by
        rintro rfl
        exact moves.inside.2 ended
      rw [update_of_ne different]
      exact .inr ended
  stopping rest stopping := by
    rw [moves.owner] at stopping
    obtain ⟨stopped, workers, all⟩ := sound.stopping rest stopping
    rw [moves.owner, moves.keeps.workers, moves.joined]
    exact ⟨moves.keeps.running stopped, workers, all⟩

/-- A worker goes on without the pool. -/
theorem Sound.moves_alone (sound : s.Sound callable) {stage : WorkerStage α} {more : List α}
    (inside : s.stages worker ≠ .outside ∧ s.stages worker ≠ .finished)
    (idle : s.pool.threads worker = .idle) (remains : stage ≠ .outside ∧ stage ≠ .taking)
    (ends : stage = .finished → s.pool.running = false)
    (gives : more ++ stage.task.toList = (s.stages worker).task.toList)
    (less : s.pool.running = false → stage.stepsLeft < (s.stages worker).stepsLeft ∧
      stage.takesLeft ≤ (s.stages worker).takesLeft) :
    Moves callable s worker stage { s.goto worker stage with ran := s.ran ++ more } where
  stages := rfl
  owner := rfl
  joined := rfl
  sound := sound.pool
  keeps := ⟨rfl, rfl, id⟩
  others _ _ := rfl
  inside := inside
  remains := remains.1
  taking := by
    change s.pool.threads worker = .taking ↔ _
    rw [idle]
    exact iff_of_false (by simp) remains.2
  resting _ := idle
  ends := ends
  tasks := by
    refine ⟨more, [], rfl, (List.append_nil _).symm, ?_, fun stopped => ?_⟩
    · rw [gives, List.filter_nil, List.append_nil]
    · rw [List.length_nil, Nat.zero_add]
      exact less stopped

/-- A worker goes on in `take()`. -/
theorem Takes.moves (takes : Takes s.pool pool worker)
    (inside : s.stages worker = .calling ∨ s.stages worker = .taking) :
    Moves callable s worker (afterTake callable s.pool)
      ({ s with pool }.goto worker (afterTake callable s.pool)) where
  stages := rfl
  owner := rfl
  joined := rfl
  sound := takes.sound
  keeps := takes.keeps
  others := takes.others
  inside := by
    obtain calling | taking := inside
    · simp [calling]
    · simp [taking]
  remains := by
    obtain waits | tests | ⟨task, works⟩ := afterTake_cases callable s.pool
    · simp [waits]
    · simp [tests]
    · simp [works]
  taking := by
    change pool.threads worker = .taking ↔ _
    rw [takes.role, afterTake_eq_taking]
    split
    case isTrue waits => exact iff_of_true rfl waits
    case isFalse returns => exact iff_of_false (by simp) returns
  resting rests := by
    change pool.threads worker = .idle
    rw [takes.role, if_neg]
    rw [← afterTake_eq_taking callable]
    intro waits
    rw [waits] at rests
    simp [WorkerStage.Resting] at rests
  ends ended := by
    obtain waits | tests | ⟨task, works⟩ := afterTake_cases callable s.pool
    · simp [waits] at ended
    · simp [tests] at ended
    · simp [works] at ended
  tasks := by
    refine ⟨[], s.pool.queue.head?.toList, (List.append_nil _).symm, takes.taken, ?_,
      fun stopped => ?_⟩
    · rw [afterTake_task]
      obtain calling | taking := inside
      · rw [calling]
        exact .refl _
      · rw [taking]
        exact .refl _
    · have most : (s.stages worker).stepsLeft = 3 ∧ (s.stages worker).takesLeft = 1 := by
        obtain calling | taking := inside
        · rw [calling]
          exact ⟨rfl, rfl⟩
        · rw [taking]
          exact ⟨rfl, rfl⟩
      rw [most.1, most.2]
      have atMostOne : s.pool.queue.head?.toList.length ≤ 1 := by
        cases s.pool.queue.head? <;> simp
      obtain waits | tests | ⟨task, works⟩ :=
        afterTake_cases callable s.pool
      · have running := ((afterTake_eq_taking callable s.pool).mp waits).2
        rw [stopped] at running
        cases running
      · rw [tests]
        exact ⟨by simp [WorkerStage.stepsLeft], atMostOne⟩
      · rw [works]
        exact ⟨by simp [WorkerStage.stepsLeft], atMostOne⟩

/-- The worker whose step an action is. -/
def Action.actor : Action τ α → Option τ
  | callback worker | test worker | take worker | resume worker | finish worker => some worker
  | _ => none

/-- A step of a worker is a move. -/
theorem Step.moves (step : Step callable s action after) (sound : s.Sound callable)
    (own : action.actor = some worker) : ∃ stage, Moves callable s worker stage after := by
  have attempt : Attempt callable s action (.ok after) := step
  generalize outcome : Except.ok after = result at attempt
  cases attempt with
  | callback starting idle =>
    cases own
    cases outcome
    have moves : Moves callable s worker .testing
        { s.goto worker .testing with ran := s.ran ++ [] } := by
      apply sound.moves_alone _ idle
      all_goals simp [starting, WorkerStage.task, WorkerStage.stepsLeft, WorkerStage.takesLeft]
    rw [List.append_nil] at moves
    exact ⟨_, moves⟩
  | test testing =>
    cases own
    cases outcome
    have idle := sound.resting worker (.inl testing)
    cases running : s.pool.running with
    | false =>
      have moves : Moves callable s worker .finished
          { s.goto worker .finished with ran := s.ran ++ [] } := by
        apply sound.moves_alone _ idle
        all_goals simp [testing, running, WorkerStage.task, WorkerStage.stepsLeft,
          WorkerStage.takesLeft]
      rw [List.append_nil] at moves
      exact ⟨_, moves⟩
    | true =>
      have moves : Moves callable s worker .calling
          { s.goto worker .calling with ran := s.ran ++ [] } := by
        apply sound.moves_alone _ idle
        all_goals simp [testing, running, WorkerStage.task]
      rw [List.append_nil] at moves
      exact ⟨_, moves⟩
  | take calling enters =>
    cases own
    cases outcome
    exact ⟨_, (takes_of_step sound.pool enters).moves (.inl calling)⟩
  | resume taking returns =>
    cases own
    cases outcome
    have waits := (sound.taking worker).mpr taking
    exact ⟨_, (takes_of_resume sound.pool waits returns).moves (.inr taking)⟩
  | @finish _ task working idle =>
    cases own
    cases outcome
    refine ⟨.testing, ?_⟩
    apply sound.moves_alone _ idle
    all_goals simp [working, WorkerStage.task, WorkerStage.stepsLeft, WorkerStage.takesLeft]
  | _ => cases own

/-- A thread that is not in `take()` and no worker between its calls moves. -/
theorem frame_of_update {thread : τ} {role : Role α} (same : pool.taken = s.pool.taken)
    (free : s.pool.threads thread ≠ .taking) (other : role ≠ .taking)
    (moved : pool.threads = update s.pool.threads thread role)
    (busy : ¬ (s.stages thread).Resting) :
    pool.taken = s.pool.taken ∧
      (∀ other, pool.threads other = .taking ↔ s.pool.threads other = .taking) ∧
      ∀ other, (s.stages other).Resting → pool.threads other = s.pool.threads other := by
  refine ⟨same, fun one => ?_, fun one rests => ?_⟩
  · rw [moved]
    by_cases it : one = thread
    · subst it
      rw [update_self]
      exact iff_of_false other free
    · rw [update_of_ne it]
  · rw [moved, update_of_ne]
    rintro rfl
    exact busy rests

/-- `run()`, and waking up, as the workers see it. -/
theorem Ordinary.frame {call : PoolAction τ α} (ordinary : s.Ordinary call)
    (sound : s.Sound callable) (step : s.pool.Step call pool) :
    pool.taken = s.pool.taken ∧
      (∀ other, pool.threads other = .taking ↔ s.pool.threads other = .taking) ∧
      ∀ other, (s.stages other).Resting → pool.threads other = s.pool.threads other := by
  have attempt : s.pool.Attempt call (.ok pool) := step
  generalize outcome : Except.ok pool = result at attempt
  cases attempt with
  | @run thread task notified idle notifies =>
    rw [ThreadPool.run] at outcome
    split at outcome
    case isTrue =>
      cases outcome
      exact ⟨rfl, fun _ => .rfl, fun _ _ => rfl⟩
    case isFalse =>
      obtain ⟨same, role, other, moved⟩ := ThreadPool.runLoop_frame outcome.symm
      apply frame_of_update same (by simp [idle]) other moved
      obtain outside | user | ⟨task, works⟩ := ordinary
      · simp [outside, WorkerStage.Resting]
      · simp [user, WorkerStage.Resting]
      · simp [works, WorkerStage.Resting]
  | take => cases ordinary
  | wakeRun =>
    cases outcome
    exact ⟨rfl, fun _ => .rfl, fun _ _ => rfl⟩
  | wakeTake =>
    cases outcome
    exact ⟨rfl, fun _ => .rfl, fun _ _ => rfl⟩
  | @resumeRun thread task notFull notified putting returns notifies =>
    obtain ⟨same, role, other, moved⟩ := ThreadPool.runLoop_frame outcome.symm
    apply frame_of_update same (by simp [putting]) other moved
    intro rests
    have idle := sound.resting thread rests
    rw [putting] at idle
    cases idle
  | @resumeTake thread notEmpty notified taking =>
    exact absurd ((sound.taking thread).mp taking) ordinary
  | stop => cases ordinary

/-- An ordinary call keeps the invariant. -/
theorem Sound.ordinary {call : PoolAction τ α} (sound : s.Sound callable)
    (ordinary : s.Ordinary call) (step : s.pool.Step call pool) :
    Sound callable { s with pool } := by
  obtain ⟨_, same, good, keeps⟩ := step.sound sound.pool
  cases same
  obtain ⟨taken, taking, resting⟩ := ordinary.frame sound step
  have workers : pool.workers = s.pool.workers := keeps.workers
  refine ⟨good, ?_, ?_, fun other => (taking other).trans (sound.taking other), ?_, ?_, ?_,
    sound.joined, ?_⟩
  · rw [workers]
    exact sound.nodup
  · rw [workers]
    exact sound.members
  · intro other rests
    exact (resting other rests).trans (sound.resting other rests)
  · rw [taken, inHand, workers]
    exact sound.tasks
  · intro running
    apply sound.finished
    by_contra stopped
    rw [keeps.running (by simpa using stopped)] at running
    cases running
  · intro rest stopping
    obtain ⟨stopped, inside, all⟩ := sound.stopping rest stopping
    rw [workers]
    exact ⟨keeps.running stopped, inside, all⟩

/-- A new worker keeps the invariant. -/
theorem Sound.create {more : Nat} (sound : s.Sound callable) (starting : s.owner = .starting more)
    (fresh : s.stages worker = .outside) (unused : s.pool.threads worker = .idle) (fewer : Nat) :
    (s.create worker fewer).Sound callable := by
  have outside : worker ∉ s.pool.workers := fun inside =>
    (sound.members worker).mp inside fresh
  have stage {other : τ} (different : other ≠ worker) :
      update s.stages worker .starting other = s.stages other := update_of_ne different _ _
  refine ⟨⟨sound.pool.handoff, ?_⟩, ?_, fun other => ?_, fun other => ?_, fun other => ?_, ?_,
    fun running other => ?_, fun other member => ?_, ?_⟩
  · exact ⟨sound.pool.quiet.takers, sound.pool.quiet.putters, sound.pool.quiet.unlimited⟩
  · exact List.nodup_append_comm.mp (List.nodup_cons.mpr ⟨outside, sound.nodup⟩)
  · change other ∈ s.pool.workers ++ [worker] ↔ update s.stages worker .starting other ≠ _
    by_cases same : other = worker
    · subst same
      simp
    · rw [stage same, ← sound.members]
      simp [same]
  · change s.pool.threads other = _ ↔ update s.stages worker .starting other = _
    by_cases same : other = worker
    · subst same
      simp [unused]
    · rw [stage same]
      exact sound.taking other
  · change (update s.stages worker .starting other).Resting → s.pool.threads other = _
    by_cases same : other = worker
    · subst same
      exact fun _ => unused
    · rw [stage same]
      exact sound.resting other
  · have last : update s.stages worker .starting worker = .starting := update_self ..
    have held : (s.create worker fewer).inHand = s.inHand := by
      change (Roster.stages (s.pool.workers ++ [worker]) _).filterMap _ = _
      rw [Roster.stages_append, List.filterMap_append]
      change (Roster.stages s.pool.workers (update s.stages worker .starting)).filterMap _ ++
        (Roster.stages [worker] (update s.stages worker .starting)).filterMap _ = _
      rw [Roster.stages_update_of_notMem outside]
      simp [inHand, Roster.stages, WorkerStage.task]
    rw [held]
    exact sound.tasks
  · change update s.stages worker .starting other ≠ _
    by_cases same : other = worker
    · subst same
      simp
    · rw [stage same]
      exact sound.finished running other
  · obtain ⟨rest, waits⟩ | ended := sound.joined other member
    · rw [starting] at waits
      cases waits
    · refine .inr ?_
      change update s.stages worker .starting other = _
      rw [stage, ended]
      rintro rfl
      rw [fresh] at ended
      cases ended
  · exact fun rest stopping => absurd stopping OwnerStage.not_stopping_starting

/-- `stop()` keeps the invariant. -/
theorem Sound.stop (sound : s.Sound callable) (idle : s.owner = .idle) :
    Sound callable { s with pool := s.pool.stop, owner := .joining s.pool.workers } := by
  have stops : s.pool.Attempt .stop _ := .stop
  obtain ⟨_, same, good, keeps⟩ := stops.sound sound.pool
  cases same
  refine ⟨good, sound.nodup, sound.members, sound.taking, sound.resting, sound.tasks, ?_, ?_, ?_⟩
  · intro running
    cases running
  · intro worker member
    obtain ⟨rest, waits⟩ | ended := sound.joined worker member
    · rw [idle] at waits
      cases waits
    · exact .inr ended
  · intro rest stopping
    obtain joining | ⟨worker, waiting⟩ := stopping
    · cases joining
      refine ⟨rfl, fun worker inside => ?_, fun _ inside => .inl inside⟩
      obtain inside | ⟨rest, waits⟩ := inside
      · exact inside
      · cases waits
    · cases waiting

/-- `join()` keeps the invariant. -/
theorem Sound.join {rest : List τ} (sound : s.Sound callable)
    (joining : s.owner = .joining (worker :: rest)) (done : s.join worker rest = .ok after) :
    after.Sound callable := by
  rw [PoolThreads.join] at done
  obtain ⟨_, -, next⟩ := bind_eq_ok.mp done
  obtain ⟨_, -, last⟩ := bind_eq_ok.mp next
  cases last
  obtain ⟨stopped, inside, all⟩ := sound.stopping (worker :: rest) (.inl joining)
  refine ⟨sound.pool, sound.nodup, sound.members, sound.taking, sound.resting, sound.tasks,
    sound.finished, ?_, ?_⟩
  · intro other member
    obtain earlier | now := List.mem_append.mp member
    · obtain ⟨_, waits⟩ | ended := sound.joined other earlier
      · rw [joining] at waits
        cases waits
      · exact .inr ended
    · obtain rfl := List.mem_singleton.mp now
      exact .inl ⟨rest, rfl⟩
  · intro others stopping
    obtain joins | ⟨one, waiting⟩ := stopping
    · cases joins
    · cases waiting
      refine ⟨stopped, fun other member => ?_, fun other member => ?_⟩
      · obtain later | ⟨_, waits⟩ := member
        · exact inside other (.inl (List.mem_cons_of_mem _ later))
        · cases waits
          exact inside worker (.inl List.mem_cons_self)
      · obtain later | earlier := all other member
        · obtain rfl | later := List.mem_cons.mp later
          · exact .inr (List.mem_append_right _ List.mem_cons_self)
          · exact .inl later
        · exact .inr (List.mem_append_left _ earlier)

/-- Every step keeps the invariant. -/
theorem Step.sound (step : Step callable s action after) (sound : s.Sound callable) :
    after.Sound callable := by
  cases own : action.actor with
  | some worker =>
    obtain ⟨stage, moves⟩ := step.moves sound own
    exact moves.sound_after sound
  | none =>
    have attempt : Attempt callable s action (.ok after) := step
    generalize outcome : Except.ok after = result at attempt
    cases attempt with
    | start idle => exact sound.start idle outcome.symm
    | create starting fresh unused =>
      cases outcome
      exact sound.create starting fresh unused _
    | started starting =>
      cases outcome
      apply sound.returns
      · rintro worker ⟨rest, waits⟩
        rw [starting] at waits
        cases waits
      · exact fun worker => OwnerStage.not_waits_idle
      · exact fun rest stopping => absurd stopping OwnerStage.not_stopping_idle
    | pool ordinary attempt =>
      obtain ⟨pool, rfl, -, -⟩ := attempt.sound sound.pool
      cases outcome
      exact sound.ordinary ordinary attempt
    | stop idle =>
      cases outcome
      exact sound.stop idle
    | join joining => exact sound.join joining outcome.symm
    | joined waiting finished =>
      cases outcome
      apply sound.returns
      · rintro worker ⟨rest, waits⟩
        rw [waiting] at waits
        cases waits
        exact finished
      · rintro worker ⟨rest, waits⟩
        cases waits
      · rintro rest (joining | ⟨worker, waits⟩)
        · cases joining
          exact .inr ⟨_, waiting⟩
        · cases waits
    | stopped joining =>
      cases outcome
      apply sound.returns
      · rintro worker ⟨rest, waits⟩
        rw [joining] at waits
        cases waits
      · exact fun worker => OwnerStage.not_waits_idle
      · exact fun rest stopping => absurd stopping OwnerStage.not_stopping_idle
    | _ => cases own

/-- Every step keeps what the calls tell. -/
theorem Step.called {done : List (Action τ α)} (step : Step callable s action after)
    (sound : s.Sound callable) (called : Called done s) : Called (done ++ [action]) after := by
  cases own : action.actor with
  | some worker =>
    obtain ⟨stage, moves⟩ := step.moves sound own
    apply called.congr moves.keeps.workers moves.owner moves.joined
    · cases action <;> first | rfl | cases own
    · cases action <;> first | rfl | cases own
  | none =>
    have attempt : Attempt callable s action (.ok after) := step
    generalize outcome : Except.ok after = result at attempt
    cases attempt with
    | start idle =>
      rw [PoolThreads.start] at outcome
      obtain ⟨_, -, rest⟩ := bind_eq_ok.mp outcome.symm
      cases rest
      refine ⟨fun none => ?_, fun none => ?_, fun _ rest stopping => ?_⟩
      · simp [List.countP_append, Action.isStart] at none
      · refine ⟨(called.stop ?_).1, fun rest => OwnerStage.not_stopping_starting⟩
        simpa [List.countP_append, Action.isStop] using none
      · exact absurd stopping OwnerStage.not_stopping_starting
    | @create worker more starting fresh unused =>
      cases outcome
      refine ⟨fun none => ?_, fun none => ?_, fun _ rest stopping => ?_⟩
      · refine absurd starting ((called.start ?_).2 _)
        simpa [List.countP_append, Action.isStart] using none
      · refine ⟨(called.stop ?_).1, fun rest => OwnerStage.not_stopping_starting⟩
        simpa [List.countP_append, Action.isStop] using none
      · exact absurd stopping OwnerStage.not_stopping_starting
    | started starting =>
      cases outcome
      refine ⟨fun none => ?_, fun none => ?_, fun _ rest stopping => ?_⟩
      · refine absurd starting ((called.start ?_).2 _)
        simpa [List.countP_append, Action.isStart] using none
      · refine ⟨(called.stop ?_).1, fun rest => OwnerStage.not_stopping_idle⟩
        simpa [List.countP_append, Action.isStop] using none
      · exact absurd stopping OwnerStage.not_stopping_idle
    | pool ordinary attempt =>
      obtain ⟨pool, rfl, -, keeps⟩ := attempt.sound sound.pool
      cases outcome
      exact called.congr keeps.workers rfl rfl rfl rfl
    | stop idle =>
      cases outcome
      refine ⟨fun none => ?_, fun none => ?_, fun once rest stopping => ?_⟩
      · refine ⟨(called.start ?_).1, by simp⟩
        simpa [List.countP_append, Action.isStart] using none
      · simp [List.countP_append, Action.isStop] at none
      · have first : done.countP Action.isStop = 0 := by
          simpa [List.countP_append, Action.isStop] using once
        obtain joining | ⟨worker, waiting⟩ := stopping
        · cases joining
          refine ⟨sound.nodup, fun worker _ member => ?_⟩
          change worker ∈ s.joined at member
          rw [(called.stop first).1] at member
          cases member
        · cases waiting
    | @join worker rest joining =>
      rw [PoolThreads.join] at outcome
      obtain ⟨_, -, next⟩ := bind_eq_ok.mp outcome.symm
      obtain ⟨_, -, last⟩ := bind_eq_ok.mp next
      cases last
      refine ⟨fun none => ?_, fun none => ?_, fun once others stopping => ?_⟩
      · refine ⟨(called.start ?_).1, by simp⟩
        simpa [List.countP_append, Action.isStart] using none
      · refine absurd (.inl joining) ((called.stop ?_).2 _)
        simpa [List.countP_append, Action.isStop] using none
      · have first : done.countP Action.isStop ≤ 1 := by
          simpa [List.countP_append, Action.isStop] using once
        obtain ⟨nodup, fresh⟩ := called.join first _ (.inl joining)
        obtain ⟨gone, rest⟩ := List.nodup_cons.mp nodup
        obtain joins | ⟨one, waiting⟩ := stopping
        · cases joins
        · cases waiting
          refine ⟨rest, fun other member joined => ?_⟩
          obtain earlier | now := List.mem_append.mp joined
          · exact fresh other (List.mem_cons_of_mem _ member) earlier
          · obtain rfl := List.mem_singleton.mp now
            exact gone member
    | @joined worker rest waiting finished =>
      cases outcome
      refine ⟨fun none => ?_, fun none => ?_, fun once others stopping => ?_⟩
      · refine ⟨(called.start ?_).1, by simp⟩
        simpa [List.countP_append, Action.isStart] using none
      · refine absurd (.inr ⟨worker, waiting⟩) ((called.stop ?_).2 rest)
        simpa [List.countP_append, Action.isStop] using none
      · have first : done.countP Action.isStop ≤ 1 := by
          simpa [List.countP_append, Action.isStop] using once
        obtain joins | ⟨one, waits⟩ := stopping
        · cases joins
          exact called.join first _ (.inr ⟨worker, waiting⟩)
        · cases waits
    | stopped joining =>
      cases outcome
      refine ⟨fun none => ?_, fun none => ?_, fun _ rest stopping => ?_⟩
      · refine ⟨(called.start ?_).1, by simp⟩
        simpa [List.countP_append, Action.isStart] using none
      · refine absurd (.inl joining) ((called.stop ?_).2 _)
        simpa [List.countP_append, Action.isStop] using none
      · exact absurd stopping OwnerStage.not_stopping_idle
    | _ => cases own

/-- Where `start()` and `stop()` are called once, no assertion fails. -/
theorem Attempt.succeeds {done : List (Action τ α)} {result : Except Fault (PoolThreads τ α)}
    (attempt : Attempt callable s action result) (sound : s.Sound callable) (called : Called done s)
    (startOnce : (done ++ [action]).countP Action.isStart ≤ 1)
    (stopOnce : (done ++ [action]).countP Action.isStop ≤ 1) : ∃ after, result = .ok after := by
  cases attempt with
  | start idle =>
    have first : done.countP Action.isStart = 0 := by
      simpa [List.countP_append, Action.isStart] using startOnce
    simp [PoolThreads.start, (called.start first).1]
  | pool ordinary attempt =>
    obtain ⟨pool, rfl, -, -⟩ := attempt.sound sound.pool
    exact ⟨_, rfl⟩
  | @join worker rest joining =>
    have first : done.countP Action.isStop ≤ 1 := by
      simpa [List.countP_append, Action.isStop] using stopOnce
    have fresh := (called.join first _ (.inl joining)).2 worker List.mem_cons_self
    have inside := (sound.stopping _ (.inl joining)).2.1 worker (.inl List.mem_cons_self)
    simp [PoolThreads.join, fresh, inside]
  | _ => exact ⟨_, rfl⟩

/-- What a run leads to. -/
theorem reached_of_run {maxSize : Int} {actions : List (Action τ α)}
    (run : Run (Step callable) (new (ThreadPool.new.setMaxQueueSize maxSize)) actions s) :
    s.Sound callable ∧ Called actions s := by
  have begins : Called [] (new (ThreadPool.new.setMaxQueueSize maxSize : ThreadPool τ α)) := by
    refine ⟨fun _ => ⟨rfl, by simp [new]⟩, fun _ => ⟨rfl, fun rest => ?_⟩,
      fun _ rest stopping => ?_⟩
    · exact OwnerStage.not_stopping_idle
    · exact absurd stopping OwnerStage.not_stopping_idle
  have keeps (done : List (Action τ α)) (before : PoolThreads τ α) (action : Action τ α)
      (after : PoolThreads τ α) (kept : before.Sound callable ∧ Called done before)
      (step : Step callable before action after) :
      after.Sound callable ∧ Called (done ++ [action]) after :=
    ⟨step.sound kept.1, step.called kept.1 kept.2⟩
  have reached := run.history ⟨new_sound maxSize, begins⟩ keeps
  exact reached

/-- What a step changes in a pool that is stopped, when it is no worker's. -/
structure Passes (before after : PoolThreads τ α) : Prop where
  /-- The pool is stopped. -/
  stopped : after.Stopped
  /-- The workers stay. -/
  stages : after.stages = before.stages
  /-- No worker comes. -/
  workers : after.pool.workers = before.pool.workers
  /-- No task is taken. -/
  taken : after.pool.taken = before.pool.taken
  /-- No task returns. -/
  ran : after.ran = before.ran

/-- A step that is no worker's passes a pool that is stopped. -/
theorem Step.passes (step : Step callable s action after) (sound : s.Sound callable)
    (stopped : s.Stopped) (own : action.actor = none) : Passes s after := by
  have attempt : Attempt callable s action (.ok after) := step
  generalize outcome : Except.ok after = result at attempt
  cases attempt with
  | start idle =>
    rw [PoolThreads.start] at outcome
    obtain ⟨_, empty, rest⟩ := bind_eq_ok.mp outcome.symm
    exact absurd (by simpa using empty) stopped.workers
  | create starting fresh unused => exact absurd starting (stopped.started _)
  | started starting => exact absurd starting (stopped.started _)
  | pool ordinary attempt =>
    obtain ⟨pool, rfl, -, keeps⟩ := attempt.sound sound.pool
    cases outcome
    refine ⟨⟨keeps.running stopped.running, ?_, stopped.started⟩, rfl, keeps.workers,
      (ordinary.frame sound attempt).1, rfl⟩
    have workers : pool.workers = s.pool.workers := keeps.workers
    rw [workers]
    exact stopped.workers
  | stop idle =>
    cases outcome
    exact ⟨⟨rfl, stopped.workers, by simp⟩, rfl, rfl, rfl, rfl⟩
  | join joining =>
    rw [PoolThreads.join] at outcome
    obtain ⟨_, -, next⟩ := bind_eq_ok.mp outcome.symm
    obtain ⟨_, -, last⟩ := bind_eq_ok.mp next
    cases last
    exact ⟨⟨stopped.running, stopped.workers, by simp⟩, rfl, rfl, rfl, rfl⟩
  | joined waiting finished =>
    cases outcome
    exact ⟨⟨stopped.running, stopped.workers, by simp⟩, rfl, rfl, rfl, rfl⟩
  | stopped joining =>
    cases outcome
    exact ⟨⟨stopped.running, stopped.workers, by simp⟩, rfl, rfl, rfl, rfl⟩
  | _ => cases own

/-- A worker's step in a pool that is stopped. -/
theorem Moves.stopped {stage : WorkerStage α} (moves : Moves callable s worker stage after)
    (stopped : s.Stopped) : after.Stopped := by
  refine ⟨moves.keeps.running stopped.running, ?_, ?_⟩
  · rw [moves.keeps.workers]
    exact stopped.workers
  · rw [moves.owner]
    exact stopped.started

/-- A worker's step in a pool that is stopped brings it closer to its end. -/
theorem Moves.less {stage : WorkerStage α} (moves : Moves callable s worker stage after)
    (sound : s.Sound callable) (stopped : s.Stopped) : after.stepsLeft + 1 ≤ s.stepsLeft ∧
      after.pool.taken.length + after.takesLeft ≤ s.pool.taken.length + s.takesLeft := by
  obtain ⟨more, new, -, taken, -, less⟩ := moves.tasks
  obtain ⟨fewer, atMost⟩ := less stopped.running
  have inside := (sound.members worker).mpr moves.inside.1
  have steps := Roster.sum_update sound.nodup inside s.stages stage WorkerStage.stepsLeft
  have takes := Roster.sum_update sound.nodup inside s.stages stage WorkerStage.takesLeft
  rw [stepsLeft, stepsLeft, takesLeft, takesLeft, moves.keeps.workers, moves.stages, taken,
    List.length_append]
  omega

/-- After `stop()` the workers take few steps and few tasks. -/
theorem stopped_run {actions : List (Action τ α)} (run : Run (Step callable) s actions after)
    (sound : s.Sound callable) (stopped : s.Stopped) :
    after.Stopped ∧ after.pool.workers = s.pool.workers ∧
      actions.countP (fun action => action.actor.isSome) + after.stepsLeft ≤ s.stepsLeft ∧
      after.pool.taken.length + after.takesLeft ≤ s.pool.taken.length + s.takesLeft := by
  induction run with
  | nil => exact ⟨stopped, rfl, by simp, le_rfl⟩
  | @cons first second last action actions step tail ih =>
    rw [List.countP_cons]
    cases own : action.actor with
    | some worker =>
      obtain ⟨stage, moves⟩ := Step.moves step sound own
      obtain ⟨goes, same, steps, takes⟩ := ih (moves.sound_after sound) (moves.stopped stopped)
      obtain ⟨fewer, atMost⟩ := moves.less sound stopped
      refine ⟨goes, same.trans moves.keeps.workers, ?_, takes.trans atMost⟩
      simp only [Option.isSome_some, if_true]
      omega
    | none =>
      have passes := Step.passes step sound stopped own
      obtain ⟨goes, same, steps, takes⟩ := ih (Step.sound step sound) passes.stopped
      have stay : second.stepsLeft = first.stepsLeft := by
        rw [stepsLeft, stepsLeft, passes.workers, passes.stages]
      have keep : second.takesLeft = first.takesLeft := by
        rw [takesLeft, takesLeft, passes.workers, passes.stages]
      rw [stay] at steps
      rw [passes.taken, keep] at takes
      refine ⟨goes, same.trans passes.workers, ?_, takes⟩
      simpa using steps

/-- A worker of a pool that is stopped has ended, is in code of the user, or can go on. -/
theorem Stopped.goes_on (stopped : s.Stopped) (sound : s.Sound callable)
    (inside : worker ∈ s.pool.workers) : s.stages worker = .finished ∨
      (s.stages worker).InUserCode ∨
      ∃ action after, action.actor = some worker ∧ Step callable s action after := by
  cases stage : s.stages worker with
  | outside => exact absurd stage ((sound.members worker).mp inside)
  | starting => exact .inr (.inl (.inl rfl))
  | testing => exact .inr (.inr ⟨.test worker, _, rfl, .test stage⟩)
  | calling =>
    obtain ⟨notified, notifies⟩ := s.pool.notFull.exists_notifies
    have idle := sound.resting worker (.inr (.inl stage))
    exact .inr (.inr ⟨.take worker, _, rfl, .take stage (.take inside idle notifies)⟩)
  | taking =>
    obtain ⟨notified, notifies⟩ := s.pool.notFull.exists_notifies
    have waits := (sound.taking worker).mpr stage
    have member := (sound.pool.handoff.taking.mem worker).mpr waits
    have nobody := sound.pool.quiet.takers stopped.running
    obtain ⟨notEmpty, returns⟩ := Condition.exists_returns_of_mem nobody member
    exact .inr (.inr ⟨.resume worker, _, rfl, .resume stage (.resumeTake waits returns notifies)⟩)
  | working task => exact .inr (.inl (.inr ⟨task, rfl⟩))
  | finished => exact .inl rfl

/-- A thread that is in `run()` of a pool that is stopped can go on. -/
theorem Stopped.put_goes_on (stopped : s.Stopped) (sound : s.Sound callable) {thread : τ} {task : α}
    (putting : s.pool.threads thread = .putting task) :
    ∃ after, Step callable s (.pool (.resume thread)) after := by
  obtain ⟨notified, notifies⟩ := s.pool.notEmpty.exists_notifies
  have member := (sound.pool.handoff.putting.mem thread).mpr ⟨task, putting⟩
  have nobody := sound.pool.quiet.putters stopped.running
  obtain ⟨notFull, returns⟩ := Condition.exists_returns_of_mem nobody member
  have attempt := ThreadPool.Attempt.resumeRun putting returns notifies
  obtain ⟨pool, done, -, -⟩ := attempt.sound sound.pool
  rw [done] at attempt
  have ordinary : s.Ordinary (.resume thread) := by
    intro taking
    rw [← sound.taking, putting] at taking
    cases taking
  exact ⟨{ s with pool }, .pool ordinary attempt⟩

/-- The owner in `stop()` can go on, unless it waits for a worker that has not ended. -/
theorem Sound.owner_goes_on {done : List (Action τ α)} (sound : s.Sound callable)
    (called : Called done s) (once : done.countP Action.isStop ≤ 1) {rest : List τ}
    (stopping : s.owner.Stopping rest) :
    (∃ action next, action.ofOwner ∧ Step callable s action next) ∨
      ∃ worker ∈ s.pool.workers, s.stages worker ≠ .finished := by
  obtain joining | ⟨worker, waiting⟩ := stopping
  · cases rest with
    | nil => exact .inl ⟨.stopped, _, rfl, .stopped joining⟩
    | cons worker rest =>
      have fresh := (called.join once _ (.inl joining)).2 worker List.mem_cons_self
      have inside := (sound.stopping _ (.inl joining)).2.1 worker (.inl List.mem_cons_self)
      have done : s.join worker rest = .ok { s with
          joined := s.joined ++ [worker], owner := .waiting worker rest } := by
        simp [PoolThreads.join, fresh, inside]
      have attempt : Attempt callable s (.join worker) _ := .join joining
      rw [done] at attempt
      exact .inl ⟨.join worker, _, rfl, attempt⟩
  · by_cases ended : s.stages worker = .finished
    · exact .inl ⟨.joined worker, _, rfl, .joined waiting ended⟩
    · have inside := (sound.stopping _ (.inr ⟨worker, waiting⟩)).2.1 worker (.inr ⟨rest, waiting⟩)
      exact .inr ⟨worker, inside, ended⟩

/-- A pool that is over stays so, and no task is taken or called. -/
theorem Over.step (closed : s.Over) (step : Step callable s action after)
    (sound : s.Sound callable) :
    after.Over ∧ after.pool.taken = s.pool.taken ∧ after.ran = s.ran := by
  cases own : action.actor with
  | some worker =>
    obtain ⟨stage, moves⟩ := step.moves sound own
    have inside := (sound.members worker).mpr moves.inside.1
    exact absurd (closed.finished worker inside) moves.inside.2
  | none =>
    have passes := step.passes sound closed.stopped own
    refine ⟨⟨passes.stopped, fun worker inside => ?_⟩, passes.taken, passes.ran⟩
    rw [passes.workers] at inside
    rw [passes.stages]
    exact closed.finished worker inside

/-- An attempt that returns is a step. -/
theorem Step.of_attempt {result : Except Fault (PoolThreads τ α)}
    (attempt : Attempt callable s action result) (returns : result = .ok after) :
    Step callable s action after := by
  rw [returns] at attempt
  exact attempt

/-- A pool with one worker: a task is put and is being run when `stop()` is called; the worker
ends after it, and is joined. -/
theorem one_task : ∃ working stopping last closed : PoolThreads Nat Nat,
    Run (Step fun _ => true) (new (ThreadPool.new.setMaxQueueSize 1))
      [.start 1, .create 0, .started, .callback 0, .test 0, .pool (.run 1 10), .take 0] working ∧
    Step (fun _ => true) working .stop stopping ∧
    Run (Step fun _ => true) stopping [.finish 0, .test 0, .join 0, .joined 0] last ∧
    Step (fun _ => true) last .stopped closed ∧ working.inHand = [10] ∧
    stopping.pool.workers = [0] ∧ closed.pool.workers = [0] ∧ closed.ran = [10] :=
  ⟨_, _, _, _, .cons (.of_attempt (.start rfl) rfl) <|
      .cons (.create rfl rfl rfl) <|
      .cons (.started rfl) <|
      .cons (.callback rfl rfl) <|
      .cons (.test rfl) <|
      .cons (.of_attempt (.pool (.inl rfl) (.run rfl (.nobody rfl))) rfl) <|
      .cons (.take rfl (.take List.mem_cons_self rfl (.nobody rfl))) (.nil _),
    .stop rfl,
    .cons (.finish rfl rfl) <|
      .cons (.test rfl) <|
      .cons (.of_attempt (.join rfl) rfl) <|
      .cons (.joined rfl rfl) (.nil _),
    .stopped rfl, rfl, rfl, rfl, rfl⟩

/-- In every state that any interleaving reaches: tasks are taken in the order in which they were
accepted; those whose calls by a worker have returned and those that the workers are in are those
taken that are not empty; nobody ends while the pool is running; and where `start()` and `stop()`
are called once, no assertion fails. -/
theorem tasks_of_run {maxSize : Int} {actions : List (Action τ α)}
    (run : Run (Step callable) (new (ThreadPool.new.setMaxQueueSize maxSize)) actions s) :
    s.pool.taken ++ s.pool.queue = s.pool.given ∧
      (s.ran ++ s.inHand).Perm (s.pool.taken.filter callable) ∧
      (s.pool.running = true → ∀ worker, s.stages worker ≠ .finished) ∧
      ∀ action result, Attempt callable s action result →
        (actions ++ [action]).countP Action.isStart ≤ 1 →
        (actions ++ [action]).countP Action.isStop ≤ 1 → ∃ after, result = .ok after := by
  obtain ⟨sound, called⟩ := reached_of_run run
  refine ⟨sound.pool.handoff.fifo, sound.tasks, sound.finished, ?_⟩
  intro action result attempt startOnce stopOnce
  exact attempt.succeeds sound called startOnce stopOnce

/-- A pool of one worker that is in its first task. -/
theorem tasks_of_run_one_task : ∃ (actions : List (Action Nat Nat)) (s : PoolThreads Nat Nat),
    Run (Step fun _ => true) (new (ThreadPool.new.setMaxQueueSize 1)) actions s ∧
      s.inHand = [10] ∧ (s.ran ++ s.inHand).Perm (s.pool.taken.filter fun _ => true) := by
  obtain ⟨working, stopping, last, closed, run, -, -, -, held, -⟩ := one_task
  exact ⟨_, working, run, held, (tasks_of_run run).2.1⟩

/-- Once `stop()` of a pool with workers has returned, in every later state: every worker has ended,
no task is taken or called any more, and those that were taken and are not empty have all run. -/
theorem silent_of_run {maxSize : Int} {front back : List (Action τ α)} {middle : PoolThreads τ α}
    (before : Run (Step callable) (new (ThreadPool.new.setMaxQueueSize maxSize))
      (front ++ [.stopped]) middle)
    (workers : middle.pool.workers ≠ []) (after : Run (Step callable) middle back s) :
    (∀ worker ∈ s.pool.workers, s.stages worker = .finished) ∧
      s.pool.taken = middle.pool.taken ∧ s.ran = middle.ran ∧
      s.ran.Perm (s.pool.taken.filter callable) := by
  have sound := (reached_of_run before).1
  have closed : middle.Over := by
    obtain ⟨last, start, returning⟩ := before.split
    have reached := (reached_of_run start).1
    cases returning with
    | cons step rest =>
      cases rest
      cases step with
      | stopped joining =>
        obtain ⟨stopped, -, all⟩ := reached.stopping [] (.inl joining)
        refine ⟨⟨stopped, workers, by simp⟩, fun worker inside => ?_⟩
        obtain rest | joined := all worker inside
        · cases rest
        · obtain ⟨_, waits⟩ | ended := reached.joined worker joined
          · rw [joining] at waits
            cases waits
          · exact ended
  have keeps (one : PoolThreads τ α) (action : Action τ α) (next : PoolThreads τ α)
      (kept : one.Sound callable ∧ one.Over ∧ one.pool.taken = middle.pool.taken ∧
        one.ran = middle.ran)
      (step : Step callable one action next) : next.Sound callable ∧ next.Over ∧
        next.pool.taken = middle.pool.taken ∧ next.ran = middle.ran := by
    obtain ⟨good, past, taken, ran⟩ := kept
    obtain ⟨later, sameTaken, sameRan⟩ := past.step step good
    exact ⟨step.sound good, later, sameTaken.trans taken, sameRan.trans ran⟩
  obtain ⟨good, past, taken, ran⟩ := after.invariant ⟨sound, closed, rfl, rfl⟩ keeps
  refine ⟨past.finished, taken, ran, ?_⟩
  have tasks := good.tasks
  rw [past.inHand, List.append_nil] at tasks
  exact tasks

/-- A pool of one worker that has run one task. -/
theorem silent_of_run_one_task : ∃ (actions : List (Action Nat Nat)) (s : PoolThreads Nat Nat),
    Run (Step fun _ => true) (new (ThreadPool.new.setMaxQueueSize 1)) (actions ++ [.stopped]) s ∧
      s.pool.workers ≠ [] ∧ s.ran = [10] ∧ s.ran.Perm (s.pool.taken.filter fun _ => true) := by
  obtain ⟨working, stopping, last, closed, run, stop, rest, stopped, -, -, workers, ran⟩ := one_task
  have some : closed.pool.workers ≠ [] := by simp [workers]
  have whole := ((run.append (.cons stop (.nil _))).append rest).append (.cons stopped (.nil _))
  exact ⟨_, closed, whole, some, ran, (silent_of_run whole some (.nil _)).2.2.2⟩

/-- What a step does to the owner in a pool that is stopped, if it is no call of `stop()`. -/
theorem Step.owner (step : Step callable s action after) (sound : s.Sound callable)
    (stopped : s.Stopped) (first : action.isStop = false) :
    (if action.ofOwner then 1 else 0) + after.owner.stepsLeft ≤ s.owner.stepsLeft ∧
      (action ≠ .stopped → (∃ rest, s.owner.Stopping rest) →
        ∃ rest, after.owner.Stopping rest) := by
  cases own : action.actor with
  | some worker =>
    obtain ⟨stage, moves⟩ := step.moves sound own
    have others : action.ofOwner = false := by
      cases action <;> first | rfl | cases own
    rw [others, moves.owner]
    exact ⟨by simp, fun _ stopping => stopping⟩
  | none =>
    have attempt : Attempt callable s action (.ok after) := step
    generalize outcome : Except.ok after = result at attempt
    cases attempt with
    | start idle =>
      rw [PoolThreads.start] at outcome
      obtain ⟨_, empty, rest⟩ := bind_eq_ok.mp outcome.symm
      exact absurd (by simpa using empty) stopped.workers
    | create starting fresh unused => exact absurd starting (stopped.started _)
    | started starting => exact absurd starting (stopped.started _)
    | pool ordinary attempt =>
      obtain ⟨pool, rfl, -, -⟩ := attempt.sound sound.pool
      cases outcome
      exact ⟨by simp [Action.ofOwner], fun _ stopping => stopping⟩
    | stop idle => cases first
    | @join worker rest joining =>
      rw [PoolThreads.join] at outcome
      obtain ⟨_, -, next⟩ := bind_eq_ok.mp outcome.symm
      obtain ⟨_, -, last⟩ := bind_eq_ok.mp next
      cases last
      refine ⟨?_, fun _ _ => ⟨rest, .inr ⟨worker, rfl⟩⟩⟩
      simp only [joining, OwnerStage.stepsLeft, Action.ofOwner, if_true, List.length_cons]
      omega
    | @joined worker rest waiting finished =>
      cases outcome
      refine ⟨?_, fun _ _ => ⟨rest, .inl rfl⟩⟩
      simp only [waiting, OwnerStage.stepsLeft, Action.ofOwner, if_true]
      omega
    | stopped joining =>
      cases outcome
      refine ⟨?_, fun other => absurd rfl other⟩
      simp [joining, OwnerStage.stepsLeft, Action.ofOwner]
    | _ => cases own

/-- The owner takes few steps in a pool that is stopped, and is in `stop()` until it returns. -/
theorem owner_run {actions : List (Action τ α)} (run : Run (Step callable) s actions after)
    (sound : s.Sound callable) (stopped : s.Stopped)
    (none : actions.countP Action.isStop = 0) :
    actions.countP Action.ofOwner + after.owner.stepsLeft ≤ s.owner.stepsLeft ∧
      (.stopped ∉ actions → (∃ rest, s.owner.Stopping rest) →
        ∃ rest, after.owner.Stopping rest) := by
  induction run with
  | nil => exact ⟨by simp, fun _ stopping => stopping⟩
  | @cons first second last action actions step tail ih =>
    have free : action.isStop = false := by
      rw [List.countP_eq_zero] at none
      simpa using none action List.mem_cons_self
    have rest : actions.countP Action.isStop = 0 := by
      rw [List.countP_cons] at none
      omega
    obtain ⟨less, stays⟩ := Step.owner step sound stopped free
    have goes := (stopped_run (.cons step (.nil _)) sound stopped).1
    obtain ⟨fewer, remains⟩ := ih (Step.sound step sound) goes rest
    constructor
    · rw [List.countP_cons]
      omega
    · intro inside stopping
      obtain ⟨now, later⟩ := List.ne_and_not_mem_of_not_mem_cons inside
      exact remains later (stays (Ne.symm now) stopping)

/-- After the critical section of `stop()` in a pool with workers, in a run that calls it once: the
workers take three steps each at most and one task each at most, and the owner two for each worker
and one; each worker has ended, is in code of the user, or can go on; so can a thread in `run()`;
and so can the owner until `stop()` has returned, unless a worker has not ended. So `stop()` returns
if the tasks do. -/
theorem ends_of_run {maxSize : Int} {front back : List (Action τ α)} {middle : PoolThreads τ α}
    (before : Run (Step callable) (new (ThreadPool.new.setMaxQueueSize maxSize))
      (front ++ [.stop]) middle)
    (workers : middle.pool.workers ≠ []) (after : Run (Step callable) middle back s)
    (once : (front ++ .stop :: back).countP Action.isStop ≤ 1) :
    back.countP (fun action => action.actor.isSome) ≤ 3 * middle.pool.workers.length ∧
      s.pool.taken.length ≤ middle.pool.taken.length + middle.pool.workers.length ∧
      back.countP Action.ofOwner ≤ 2 * middle.pool.workers.length + 1 ∧
      (∀ worker ∈ s.pool.workers, s.stages worker = .finished ∨ (s.stages worker).InUserCode ∨
        ∃ action next, action.actor = some worker ∧ Step callable s action next) ∧
      (∀ thread task, s.pool.threads thread = .putting task →
        ∃ next, Step callable s (.pool (.resume thread)) next) ∧
      (.stopped ∉ back → (∃ action next, action.ofOwner ∧ Step callable s action next) ∨
        ∃ worker ∈ s.pool.workers, s.stages worker ≠ .finished) := by
  have sound := (reached_of_run before).1
  obtain ⟨owner, stopped⟩ : middle.owner = .joining middle.pool.workers ∧ middle.Stopped := by
    obtain ⟨last, start, stopping⟩ := before.split
    cases stopping with
    | cons step rest =>
      cases rest
      cases step with
      | stop idle => exact ⟨rfl, rfl, workers, by simp⟩
  obtain ⟨goes, same, steps, takes⟩ := stopped_run after sound stopped
  obtain ⟨good, called⟩ := reached_of_run (before.append after)
  rw [List.append_assoc, List.singleton_append] at called
  have none : back.countP Action.isStop = 0 := by
    have counts := once
    rw [List.countP_append, List.countP_cons] at counts
    simp only [Action.isStop, if_true] at counts
    omega
  obtain ⟨fewer, remains⟩ := owner_run after sound stopped none
  have three : middle.stepsLeft ≤ 3 * middle.pool.workers.length :=
    Roster.sum_le _ _ _ WorkerStage.stepsLeft_le
  have one : middle.takesLeft ≤ 1 * middle.pool.workers.length :=
    Roster.sum_le _ _ _ WorkerStage.takesLeft_le
  rw [owner, OwnerStage.stepsLeft] at fewer
  refine ⟨by omega, by omega, by omega, fun worker inside => goes.goes_on good inside,
    fun thread task putting => goes.put_goes_on good putting, fun inside => ?_⟩
  obtain ⟨rest, stopping⟩ := remains inside ⟨_, .inl owner⟩
  exact good.owner_goes_on called once stopping

/-- A pool of one worker that ends its task after `stop()`. -/
theorem ends_of_run_one_task : ∃ (front back : List (Action Nat Nat))
    (middle s : PoolThreads Nat Nat),
    Run (Step fun _ => true) (new (ThreadPool.new.setMaxQueueSize 1)) (front ++ [.stop]) middle ∧
      middle.pool.workers = [0] ∧ Run (Step fun _ => true) middle back s ∧
      back.countP (fun action => action.actor.isSome) ≤ 3 * middle.pool.workers.length := by
  obtain ⟨working, stopping, last, closed, run, stop, rest, stopped, -, workers, -⟩ := one_task
  have some : stopping.pool.workers ≠ [] := by simp [workers]
  have before := run.append (.cons stop (.nil _))
  exact ⟨_, _, stopping, last, before, workers, rest,
    (ends_of_run before some rest (by decide)).1⟩

end PoolThreads

end Muduo
