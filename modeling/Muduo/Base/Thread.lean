import Muduo.Base.CountDownLatch

/-!
# Threads

`Thread::start()` creates the thread and waits on a latch until the new thread has stored its id,
which `start()` asserts afterwards. The latch is the statements of `CountDownLatch`, so the two
threads interleave inside it as well. A `pthread_create` that fails ends the program.
-/

open Function Outcome Transition

namespace Muduo

/-- The two threads. -/
inductive Party
  /-- The thread that has the `Thread` object. -/
  | user
  /-- The thread that the object stands for. -/
  | runner
  deriving DecidableEq

/-- Where the user of a `Thread` is. -/
inductive UserStage
  /-- In no function of the object. -/
  | idle
  /-- In `start()`, before `pthread_create`. -/
  | creating
  /-- Before `m_latch.wait()`. -/
  | calling
  /-- In `m_latch.wait()`. -/
  | waiting
  /-- Before `assert(m_pid > 0 )`. -/
  | checking
  /-- In `join()`, in `pthread_join`. -/
  | joining
  deriving DecidableEq

/-- Where the thread itself is. -/
inductive RunnerStage
  /-- It is not created. -/
  | unborn
  /-- In `runInThread()`, before `*tid_ = CurrentThread::tid()`. -/
  | storing
  /-- Before `latch_->countDown()`. -/
  | calling
  /-- In `latch_->countDown()`. -/
  | counting
  /-- In `func_()`. -/
  | running
  /-- It has ended. -/
  | finished
  deriving DecidableEq

/-- `class Thread` and its two threads. -/
structure Thread where
  /-- `is_started`. -/
  isStarted : Bool
  /-- `is_joined`. -/
  isJoined : Bool
  /-- `m_pid`. -/
  pid : Int
  /-- `m_latch`. -/
  latch : Monitor Party CountDownLatch.Contents CountDownLatch.Signal CountDownLatch.Place
  /-- The user. -/
  user : UserStage
  /-- The thread. -/
  runner : RunnerStage

/-- What happens. -/
inductive Thread.Action
  /-- The user calls `start()`. -/
  | start
  /-- `pthread_create`. -/
  | create
  /-- The user calls `m_latch.wait()`. -/
  | wait
  /-- A thread stores its id. -/
  | store
  /-- A thread calls `countDown()`. -/
  | countDown
  /-- A statement of the latch. -/
  | latch (party : Party)
  /-- `m_latch.wait()` returns. -/
  | waited
  /-- The user checks the id. -/
  | check
  /-- `countDown()` returns, and the thread runs its function. -/
  | run
  /-- The function returns. -/
  | finish
  /-- The user calls `join()`. -/
  | join
  /-- `pthread_join` returns. -/
  | joined
  deriving DecidableEq

namespace Thread

open CountDownLatch (Contents Place)

/-- The constructor. -/
def new : Thread := ⟨false, false, 0, .new (.new 1), .idle, .unborn⟩

/-- The beginning of `start()`. -/
def start (t : Thread) : Except Fault Thread := do
  ensure (!t.isStarted) "!is_started"
  return { t with isStarted := true, user := .creating }

/-- The end of `start()`. -/
def check (t : Thread) : Except Fault Thread := do
  ensure (decide (0 < t.pid)) "m_pid > 0"
  return { t with user := .idle }

/-- The beginning of `join()`. -/
def join (t : Thread) : Except Fault Thread := do
  ensure t.isStarted "is_started"
  ensure (!t.isJoined) "!is_joined"
  return { t with isJoined := true, user := .joining }

/-- How an action ends. The id of the thread is `tid`. -/
inductive Attempt (tid : Int) (t : Thread) : Thread.Action → Except Fault Thread → Prop
  /-- `start()`. -/
  | start (idle : t.user = .idle) : Attempt tid t .start t.start
  /-- `pthread_create`. -/
  | create (creating : t.user = .creating) :
      Attempt tid t .create (.ok { t with user := .calling, runner := .storing })
  /-- `m_latch.wait()` begins. -/
  | wait (calling : t.user = .calling) :
      Attempt tid t .wait (.ok { t with
        user := .waiting, latch := t.latch.goto .user (.entering .whilePositive) })
  /-- `*tid_ = CurrentThread::tid()`. -/
  | store (storing : t.runner = .storing) :
      Attempt tid t .store (.ok { t with pid := tid, runner := .calling })
  /-- `latch_->countDown()` begins. -/
  | countDown (calling : t.runner = .calling) :
      Attempt tid t .countDown (.ok { t with
        runner := .counting, latch := t.latch.goto .runner (.entering .decrement) })
  /-- A statement of `m_latch.wait()` or of `latch_->countDown()`. -/
  | latch {party : Party} {result : Except Fault (Monitor Party _ _ _)}
      (called : t.latch.phases party ≠ .outside)
      (attempt : Monitor.Attempt CountDownLatch.code CountDownLatch.Entry t.latch party result) :
      Attempt tid t (.latch party) (result.map fun latch => { t with latch })
  /-- `m_latch.wait()` returns. -/
  | waited (waiting : t.user = .waiting) (outside : t.latch.phases .user = .outside) :
      Attempt tid t .waited (.ok { t with user := .checking })
  /-- `assert(m_pid > 0 )`. -/
  | check (checking : t.user = .checking) : Attempt tid t .check t.check
  /-- `latch_->countDown()` returns. -/
  | run (counting : t.runner = .counting) (outside : t.latch.phases .runner = .outside) :
      Attempt tid t .run (.ok { t with runner := .running })
  /-- `func_()` returns. -/
  | finish (running : t.runner = .running) :
      Attempt tid t .finish (.ok { t with runner := .finished })
  /-- `join()`. -/
  | join (idle : t.user = .idle) : Attempt tid t .join t.join
  /-- `pthread_join` returns. -/
  | joined (joining : t.user = .joining) (finished : t.runner = .finished) :
      Attempt tid t .joined (.ok { t with user := .idle })

/-- An action that does not fail. -/
def Step (tid : Int) (before : Thread) (action : Thread.Action) (after : Thread) : Prop :=
  Attempt tid before action (.ok after)

/-- `start()` is called once, and `join()` once and after it. -/
def Careful (t : Thread) : Thread.Action → Prop
  | .start => t.isStarted = false
  | .join => t.isStarted = true ∧ t.isJoined = false
  | _ => True

/-- The user is in `m_latch.wait()`. -/
def Waiting (passed : Nat) : Phase CountDownLatch.Signal Place → Prop
  | .outside => 0 < passed
  | .entering place => place = .whilePositive
  | .admitted place => place = .whilePositive
  | .inside place => place = .whilePositive ∨ place = .waitCond ∨ place = .done ∧ 0 < passed
  | .forgotten place => place = .waitCond ∨ place = .done ∧ 0 < passed
  | .parked _ next => next = .whilePositive

/-- The thread is in `latch_->countDown()`. -/
def Counting (downs : Nat) : Phase CountDownLatch.Signal Place → Prop
  | .outside => 0 < downs
  | .entering place => place = .decrement
  | .admitted place => place = .decrement
  | .inside place =>
    place = .decrement ∨ (place = .ifZero ∨ place = .notifyAllCond ∨ place = .done) ∧ 0 < downs
  | .forgotten place => place = .done ∧ 0 < downs
  | .parked _ _ => False

variable {tid : Int} {t after : Thread} {action : Thread.Action}
  {latch next : Monitor Party Contents CountDownLatch.Signal Place}

/-- A statement of `m_latch.wait()`. -/
theorem waiting_step
    (step : Monitor.Step CountDownLatch.code CountDownLatch.Entry latch .user next)
    (called : latch.phases .user ≠ .outside)
    (waiting : Waiting latch.data.passed (latch.phases .user)) :
    Waiting next.data.passed (next.phases .user) ∧ latch.data.passed ≤ next.data.passed ∧
      next.data.downs = latch.data.downs := by
  have attempt : Monitor.Attempt CountDownLatch.code CountDownLatch.Entry latch .user
    (.ok next) := step
  generalize outcome : Except.ok next = result at attempt
  cases attempt with
  | call outside => exact absurd outside called
  | lock entering =>
    cases outcome
    rw [entering] at waiting
    refine ⟨?_, le_rfl, rfl⟩
    simpa [Monitor.goto, Waiting] using waiting
  | assign admitted =>
    cases outcome
    rw [admitted] at waiting
    refine ⟨?_, le_rfl, rfl⟩
    simp only [Monitor.goto, update_self]
    exact .inl waiting
  | @act place change inside statement =>
    rw [inside] at waiting
    obtain rfl | rfl | ⟨rfl, -⟩ := waiting
    · cases statement
      by_cases positive : 0 < latch.data.count
      · simp only [positive, if_true, Except.map] at outcome
        cases outcome
        refine ⟨?_, le_rfl, rfl⟩
        simp [Monitor.goto, Waiting]
      · simp only [positive, if_false, Except.map] at outcome
        cases outcome
        refine ⟨?_, Nat.le_succ _, rfl⟩
        simp [Monitor.goto, Waiting]
    · cases statement
    · cases statement
  | @notify place next condition changed inside statement =>
    rw [inside] at waiting
    obtain rfl | rfl | ⟨rfl, -⟩ := waiting <;> cases statement
  | @notifyAll place next condition inside statement =>
    rw [inside] at waiting
    obtain rfl | rfl | ⟨rfl, -⟩ := waiting <;> cases statement
  | @unassign place inside gives =>
    cases outcome
    rw [inside] at waiting
    refine ⟨?_, le_rfl, rfl⟩
    simp only [Monitor.goto, update_self]
    obtain rfl | last := waiting
    · obtain leaves | ⟨condition, next, waits⟩ := gives
      · cases leaves
      · cases waits
    · exact last
  | @sleep place there condition forgotten statement =>
    cases outcome
    rw [forgotten] at waiting
    refine ⟨?_, le_rfl, rfl⟩
    obtain rfl | ⟨rfl, -⟩ := waiting
    · cases statement
      simp [Monitor.goto, Monitor.turn, Waiting]
    · cases statement
  | wake wakes =>
    cases outcome
    exact ⟨waiting, le_rfl, rfl⟩
  | relock parked returns =>
    cases outcome
    rw [parked] at waiting
    refine ⟨?_, le_rfl, rfl⟩
    simpa [Monitor.goto, Monitor.turn, Waiting] using waiting
  | @unlock place forgotten statement =>
    cases outcome
    rw [forgotten] at waiting
    refine ⟨?_, le_rfl, rfl⟩
    obtain rfl | ⟨-, passed⟩ := waiting
    · cases statement
    · simpa [Monitor.goto, Waiting] using passed

/-- A statement of `latch_->countDown()`. -/
theorem counting_step
    (step : Monitor.Step CountDownLatch.code CountDownLatch.Entry latch .runner next)
    (called : latch.phases .runner ≠ .outside)
    (counting : Counting latch.data.downs (latch.phases .runner)) :
    Counting next.data.downs (next.phases .runner) ∧ latch.data.downs ≤ next.data.downs ∧
      next.data.passed = latch.data.passed := by
  have attempt : Monitor.Attempt CountDownLatch.code CountDownLatch.Entry latch .runner
    (.ok next) := step
  generalize outcome : Except.ok next = result at attempt
  cases attempt with
  | call outside => exact absurd outside called
  | lock entering =>
    cases outcome
    rw [entering] at counting
    refine ⟨?_, le_rfl, rfl⟩
    simpa [Monitor.goto, Counting] using counting
  | assign admitted =>
    cases outcome
    rw [admitted] at counting
    refine ⟨?_, le_rfl, rfl⟩
    simp only [Monitor.goto, update_self]
    exact .inl counting
  | @act place change inside statement =>
    rw [inside] at counting
    obtain rfl | ⟨rfl | rfl | rfl, positive⟩ := counting
    · cases statement
      cases outcome
      refine ⟨?_, Nat.le_succ _, rfl⟩
      simp [Monitor.goto, Counting]
    · cases statement
      cases outcome
      refine ⟨?_, le_rfl, rfl⟩
      by_cases zero : latch.data.count = 0 <;> simp [Monitor.goto, Counting, zero, positive]
    · cases statement
    · cases statement
  | @notify place there condition changed inside statement =>
    rw [inside] at counting
    obtain rfl | ⟨rfl | rfl | rfl, -⟩ := counting <;> cases statement
  | @notifyAll place there condition inside statement =>
    cases outcome
    rw [inside] at counting
    refine ⟨?_, le_rfl, rfl⟩
    obtain rfl | ⟨rfl | rfl | rfl, positive⟩ := counting <;> cases statement
    simp [Monitor.goto, Monitor.turn, Counting, positive]
  | @unassign place inside gives =>
    cases outcome
    rw [inside] at counting
    refine ⟨?_, le_rfl, rfl⟩
    simp only [Monitor.goto, update_self]
    obtain rfl | ⟨rfl | rfl | rfl, positive⟩ := counting <;>
      obtain leaves | ⟨condition, next, waits⟩ := gives
    · cases leaves
    · cases waits
    · cases leaves
    · cases waits
    · cases leaves
    · cases waits
    · exact ⟨rfl, positive⟩
    · cases waits
  | @sleep place there condition forgotten statement =>
    rw [forgotten] at counting
    obtain ⟨rfl, -⟩ := counting
    cases statement
  | wake wakes =>
    cases outcome
    exact ⟨counting, le_rfl, rfl⟩
  | relock parked returns =>
    rw [parked] at counting
    exact absurd counting id
  | @unlock place forgotten statement =>
    cases outcome
    rw [forgotten] at counting
    refine ⟨?_, le_rfl, rfl⟩
    simpa [Monitor.goto, Counting] using counting.2

/-- What the stage of the user says about the object, the latch and the thread. -/
def UserFits (t : Thread) : Prop :=
  match t.user with
  | .idle => t.latch.phases .user = .outside ∧
    (t.isStarted = true → 0 < t.latch.data.passed) ∧
    (t.isStarted = false → t.runner = .unborn ∧ t.isJoined = false) ∧
    (t.isJoined = true → t.runner = .finished)
  | .creating => t.latch.phases .user = .outside ∧ t.isStarted = true ∧ t.isJoined = false ∧
    t.runner = .unborn
  | .calling => t.latch.phases .user = .outside ∧ t.isStarted = true ∧ t.isJoined = false ∧
    t.runner ≠ .unborn
  | .waiting => Waiting t.latch.data.passed (t.latch.phases .user) ∧ t.isStarted = true ∧
    t.isJoined = false ∧ t.runner ≠ .unborn
  | .checking => t.latch.phases .user = .outside ∧ t.isStarted = true ∧ t.isJoined = false ∧
    0 < t.latch.data.passed
  | .joining => t.latch.phases .user = .outside ∧ t.isStarted = true ∧ 0 < t.latch.data.passed

/-- What the stage of the thread says about the latch and the id. -/
def RunnerFits (tid : Int) (t : Thread) : Prop :=
  match t.runner with
  | .unborn => t.latch.phases .runner = .outside ∧ t.latch.data.downs = 0
  | .storing => t.latch.phases .runner = .outside ∧ t.latch.data.downs = 0
  | .calling => t.latch.phases .runner = .outside ∧ t.latch.data.downs = 0 ∧ t.pid = tid
  | .counting => Counting t.latch.data.downs (t.latch.phases .runner) ∧ t.pid = tid
  | .running => t.latch.phases .runner = .outside ∧ 0 < t.latch.data.downs ∧ t.pid = tid
  | .finished => t.latch.phases .runner = .outside ∧ 0 < t.latch.data.downs ∧ t.pid = tid

/-- The latch is kept, and both threads are where they can be. -/
structure Sound (tid : Int) (t : Thread) : Prop where
  /-- The latch. -/
  kept : t.latch.Kept CountDownLatch.code CountDownLatch.Entry (CountDownLatch.Free 1)
    (CountDownLatch.Relies 1)
  /-- The user. -/
  user : t.UserFits
  /-- The thread. -/
  runner : t.RunnerFits tid

/-- At the beginning. -/
theorem new_sound (tid : Int) : new.Sound tid where
  kept := Monitor.new_kept (CountDownLatch.new_free 1)
  user := ⟨rfl, nofun, fun _ => ⟨rfl, rfl⟩, nofun⟩
  runner := ⟨rfl, rfl⟩

/-- The thread goes on, which the user does not notice. -/
theorem UserFits.runs (fits : t.UserFits) (user : after.user = t.user)
    (isStarted : after.isStarted = t.isStarted) (isJoined : after.isJoined = t.isJoined)
    (phase : after.latch.phases .user = t.latch.phases .user)
    (passed : after.latch.data.passed = t.latch.data.passed) (born : t.runner ≠ .unborn)
    (unfinished : t.runner ≠ .finished) (alive : after.runner ≠ .unborn) : after.UserFits := by
  unfold UserFits at fits ⊢
  rw [user, phase, passed, isStarted, isJoined]
  cases stage : t.user <;> simp only [stage] at fits ⊢
  case idle =>
    obtain ⟨outside, started, unstarted, joined⟩ := fits
    exact ⟨outside, started, fun no => absurd (unstarted no).1 born,
      fun yes => absurd (joined yes) unfinished⟩
  case creating => exact absurd fits.2.2.2 born
  case calling => exact ⟨fits.1, fits.2.1, fits.2.2.1, alive⟩
  case waiting => exact ⟨fits.1, fits.2.1, fits.2.2.1, alive⟩
  case checking => exact fits
  case joining => exact fits

/-- The user goes on, which the thread does not notice. -/
theorem RunnerFits.uses (fits : t.RunnerFits tid) (runner : after.runner = t.runner)
    (pid : after.pid = t.pid) (phase : after.latch.phases .runner = t.latch.phases .runner)
    (downs : after.latch.data.downs = t.latch.data.downs) : after.RunnerFits tid := by
  unfold RunnerFits at fits ⊢
  rw [runner, pid, phase, downs]
  exact fits

/-- Once the count was decremented the id is there. -/
theorem RunnerFits.pid_eq (fits : t.RunnerFits tid) (down : 0 < t.latch.data.downs) :
    t.pid = tid := by
  unfold RunnerFits at fits
  cases stage : t.runner <;> simp only [stage] at fits
  case unborn => omega
  case storing => omega
  case calling => omega
  case counting => exact fits.2
  case running => exact fits.2.2
  case finished => exact fits.2.2

/-- A call of `wait()` passes only after the count was decremented. -/
theorem Sound.down (sound : t.Sound tid) (passed : 0 < t.latch.data.passed) :
    0 < t.latch.data.downs := by
  have counted := (CountDownLatch.counted_of_kept sound.kept).passed passed
  have enough : (1 : Int) ≤ t.latch.data.downs := counted
  omega

/-- A statement of the latch. -/
theorem Sound.statement (sound : t.Sound tid) {party : Party}
    {result : Except Fault (Monitor Party Contents CountDownLatch.Signal Place)}
    (called : t.latch.phases party ≠ .outside)
    (attempt : Monitor.Attempt CountDownLatch.code CountDownLatch.Entry t.latch party result) :
    ∃ latch, result = .ok latch ∧ Sound tid { t with latch } := by
  obtain ⟨latch, rfl, kept⟩ := (CountDownLatch.outline 1).attempt sound.kept attempt
  refine ⟨latch, rfl, kept, ?_, ?_⟩
  · cases party with
    | user =>
      have fits := sound.user
      unfold UserFits at fits ⊢
      cases stage : t.user <;> simp only [stage] at fits ⊢
      case waiting =>
        obtain ⟨waiting, rest⟩ := fits
        exact ⟨(waiting_step attempt called waiting).1, rest⟩
      all_goals exact absurd fits.1 called
    | runner =>
      have fits := sound.runner
      have others : latch.phases .user = t.latch.phases .user :=
        Monitor.Step.others attempt nofun
      unfold RunnerFits at fits
      cases stage : t.runner <;> simp only [stage] at fits
      case counting =>
        obtain ⟨-, -, passed⟩ := counting_step attempt called fits.1
        exact sound.user.runs rfl rfl rfl others passed (by simp [stage]) (by simp [stage])
          (by simp)
      all_goals exact absurd fits.1 called
  · cases party with
    | user =>
      have fits := sound.user
      have others : latch.phases .runner = t.latch.phases .runner :=
        Monitor.Step.others attempt nofun
      unfold UserFits at fits
      cases stage : t.user <;> simp only [stage] at fits
      case waiting =>
        obtain ⟨-, -, downs⟩ := waiting_step attempt called fits.1
        exact sound.runner.uses rfl rfl others downs
      all_goals exact absurd fits.1 called
    | runner =>
      have fits := sound.runner
      unfold RunnerFits at fits ⊢
      cases stage : t.runner <;> simp only [stage] at fits ⊢
      case counting =>
        obtain ⟨counting, pid⟩ := fits
        exact ⟨(counting_step attempt called counting).1, pid⟩
      all_goals exact absurd fits.1 called

/-- Careful actions do not fail and keep everything. -/
theorem Attempt.sound {result : Except Fault Thread} (attempt : Attempt tid t action result)
    (positive : 0 < tid) (careful : t.Careful action) (sound : t.Sound tid) :
    ∃ after, result = .ok after ∧ after.Sound tid := by
  have user := sound.user
  have runner := sound.runner
  cases attempt with
  | start idle =>
    have fresh : t.isStarted = false := careful
    simp only [UserFits, idle] at user
    obtain ⟨unborn, unjoined⟩ := user.2.2.1 fresh
    refine ⟨{ t with isStarted := true, user := .creating }, ?_, sound.kept,
      ⟨user.1, rfl, unjoined, unborn⟩, runner.uses rfl rfl rfl rfl⟩
    simp [Thread.start, fresh]
  | create creating =>
    simp only [UserFits, creating] at user
    obtain ⟨outside, started, unjoined, unborn⟩ := user
    simp only [RunnerFits, unborn] at runner
    exact ⟨_, rfl, sound.kept, ⟨outside, started, unjoined, by simp⟩, runner⟩
  | wait calling =>
    simp only [UserFits, calling] at user
    obtain ⟨outside, started, unjoined, born⟩ := user
    refine ⟨_, rfl, sound.kept.call outside trivial, ⟨?_, started, unjoined, born⟩,
      runner.uses rfl rfl ?_ rfl⟩
    · simp [Monitor.goto, Waiting]
    · simp [Monitor.goto]
  | store storing =>
    simp only [RunnerFits, storing] at runner
    refine ⟨_, rfl, sound.kept, user.runs rfl rfl rfl rfl rfl ?_ ?_ (by simp), runner.1, runner.2,
      rfl⟩
    · simp [storing]
    · simp [storing]
  | countDown calling =>
    simp only [RunnerFits, calling] at runner
    obtain ⟨outside, none, pid⟩ := runner
    refine ⟨_, rfl, sound.kept.call outside trivial,
      user.runs rfl rfl rfl ?_ rfl ?_ ?_ (by simp), ?_, pid⟩
    · simp [Monitor.goto]
    · simp [calling]
    · simp [calling]
    · simp [Monitor.goto, Counting]
  | latch called attempt =>
    obtain ⟨latch, rfl, sound'⟩ := sound.statement called attempt
    exact ⟨_, rfl, sound'⟩
  | waited waiting outside =>
    simp only [UserFits, waiting, outside] at user
    obtain ⟨passed, started, unjoined, -⟩ := user
    exact ⟨_, rfl, sound.kept, ⟨outside, started, unjoined, passed⟩,
      runner.uses rfl rfl rfl rfl⟩
  | check checking =>
    simp only [UserFits, checking] at user
    obtain ⟨outside, started, unjoined, passed⟩ := user
    have id : t.pid = tid := runner.pid_eq (sound.down passed)
    refine ⟨{ t with user := .idle }, ?_, sound.kept, ⟨outside, fun _ => passed, ?_, ?_⟩,
      runner.uses rfl rfl rfl rfl⟩
    · simp [Thread.check, id, positive]
    · intro no
      exact absurd (started.symm.trans no) Bool.true_eq_false_eq_False
    · intro yes
      exact absurd (unjoined.symm.trans yes) Bool.false_ne_true
  | run counting outside =>
    simp only [RunnerFits, counting, outside] at runner
    refine ⟨_, rfl, sound.kept, user.runs rfl rfl rfl rfl rfl ?_ ?_ (by simp), outside,
      runner.1, runner.2⟩
    · simp [counting]
    · simp [counting]
  | finish running =>
    simp only [RunnerFits, running] at runner
    refine ⟨_, rfl, sound.kept, user.runs rfl rfl rfl rfl rfl ?_ ?_ (by simp), runner⟩
    · simp [running]
    · simp [running]
  | join idle =>
    obtain ⟨started, unjoined⟩ := careful
    simp only [UserFits, idle] at user
    refine ⟨{ t with isJoined := true, user := .joining }, ?_, sound.kept,
      ⟨user.1, started, user.2.1 started⟩, runner.uses rfl rfl rfl rfl⟩
    simp [Thread.join, started, unjoined]
  | joined joining finished =>
    simp only [UserFits, joining] at user
    obtain ⟨outside, started, passed⟩ := user
    refine ⟨_, rfl, sound.kept, ⟨outside, fun _ => passed, ?_, fun _ => finished⟩,
      runner.uses rfl rfl rfl rfl⟩
    intro no
    exact absurd (started.symm.trans no) Bool.true_eq_false_eq_False

/-- A step of the latch is a step of the two threads. -/
theorem Step.of_latch {party : Party} (called : t.latch.phases party ≠ .outside)
    (step : Monitor.Step CountDownLatch.code CountDownLatch.Entry t.latch party next) :
    Step tid t (.latch party) { t with latch := next } := by
  have attempt : Attempt tid t (.latch party) _ := .latch called step
  exact attempt

/-- A thread in `countDown()` can go on while the mutex is free. -/
theorem Sound.counting_goes (sound : t.Sound tid) (free : t.latch.holder = none)
    (stage : t.runner = .counting) : ∃ action after, Step tid t action after := by
  have runner := sound.runner
  simp only [RunnerFits, stage] at runner
  have nobody := sound.kept.nobody free .runner
  cases phase : t.latch.phases .runner with
  | outside => exact ⟨.run, _, .run stage phase⟩
  | entering => exact ⟨_, _, Step.of_latch (by simp [phase]) (.lock phase free)⟩
  | parked => exact absurd runner.1 (by simp [phase, Counting])
  | admitted => simp [phase, Phase.held] at nobody
  | inside => simp [phase, Phase.held] at nobody
  | forgotten => simp [phase, Phase.held] at nobody

/-- A thread that was created can go on until the count is decremented. -/
theorem Sound.runner_goes (sound : t.Sound tid) (free : t.latch.holder = none)
    (born : t.runner ≠ .unborn) (up : t.latch.data.downs = 0) :
    ∃ action after, Step tid t action after := by
  have runner := sound.runner
  cases stage : t.runner with
  | unborn => exact absurd stage born
  | storing => exact ⟨.store, _, .store stage⟩
  | calling => exact ⟨.countDown, _, .countDown stage⟩
  | counting => exact sound.counting_goes free stage
  | running =>
    simp only [RunnerFits, stage] at runner
    omega
  | finished =>
    simp only [RunnerFits, stage] at runner
    omega

/-- A user in `m_latch.wait()` can go on, or the thread can, while the mutex is free. -/
theorem Sound.waiting_goes (sound : t.Sound tid) (free : t.latch.holder = none)
    (stage : t.user = .waiting) : ∃ action after, Step tid t action after := by
  have user := sound.user
  simp only [UserFits, stage] at user
  obtain ⟨waiting, -, -, born⟩ := user
  have nobody := sound.kept.nobody free .user
  cases phase : t.latch.phases .user with
  | outside => exact ⟨.waited, _, .waited stage phase⟩
  | entering => exact ⟨_, _, Step.of_latch (by simp [phase]) (.lock phase free)⟩
  | admitted => simp [phase, Phase.held] at nobody
  | inside => simp [phase, Phase.held] at nobody
  | forgotten => simp [phase, Phase.held] at nobody
  | parked condition place =>
    by_cases up : t.latch.data.downs = 0
    · exact sound.runner_goes free born up
    · have enough : (1 : Int) ≤ t.latch.data.downs := by omega
      rw [phase] at waiting
      cases condition
      obtain rfl : place = .whilePositive := waiting
      obtain ⟨latch, step, -⟩ := CountDownLatch.exists_resume sound.kept free enough phase
      exact ⟨_, _, Step.of_latch (by simp [phase]) step⟩

/-- A user in `pthread_join` can go on, or the thread can, while the mutex is free. -/
theorem Sound.joining_goes (sound : t.Sound tid) (free : t.latch.holder = none)
    (stage : t.user = .joining) : ∃ action after, Step tid t action after := by
  have user := sound.user
  simp only [UserFits, stage] at user
  have down := sound.down user.2.2
  have runner := sound.runner
  cases there : t.runner with
  | unborn =>
    simp only [RunnerFits, there] at runner
    omega
  | storing => exact ⟨.store, _, .store there⟩
  | calling => exact ⟨.countDown, _, .countDown there⟩
  | counting => exact sound.counting_goes free there
  | running => exact ⟨.finish, _, .finish there⟩
  | finished => exact ⟨.joined, _, .joined stage there⟩

/-- As long as the user is in a function, somebody can go on. -/
theorem Sound.goes_on (sound : t.Sound tid) (positive : 0 < tid) (busy : t.user ≠ .idle) :
    ∃ action after, Step tid t action after := by
  cases held : t.latch.holder with
  | some party =>
    obtain ⟨latch, step⟩ := (CountDownLatch.outline 1).goes_on sound.kept held
    obtain ⟨place, there, -⟩ := sound.kept.here party held
    have called : t.latch.phases party ≠ .outside := by
      intro outside
      simp [outside, Phase.held] at there
    exact ⟨_, _, Step.of_latch called step⟩
  | none =>
    cases stage : t.user with
    | idle => exact absurd stage busy
    | creating => exact ⟨.create, _, .create stage⟩
    | calling => exact ⟨.wait, _, .wait stage⟩
    | waiting => exact sound.waiting_goes held stage
    | joining => exact sound.joining_goes held stage
    | checking =>
      have attempt : Attempt tid t .check t.check := .check stage
      obtain ⟨after, done, -⟩ := attempt.sound positive trivial sound
      rw [done] at attempt
      exact ⟨.check, after, attempt⟩

/-- A thread with any id, in every interleaving of the statements of the two threads: nothing fails
if `start()` is called once and `join()` once after it, so that the id is always there when
`start()` asserts it; after `start()` the object has the id of the thread, which is beyond storing
it; after `join()` the thread has ended; and neither of the two functions ever blocks for good. -/
theorem thread_of_run (tid : Int) (positive : 0 < tid) (actions : List Thread.Action) (t : Thread)
    (run : Run (Guarded (Step tid) Careful) new actions t) :
    (∀ action result, t.Careful action → Attempt tid t action result →
        ∃ after, result = .ok after) ∧
      (t.user = .idle → t.isStarted = true → t.pid = tid ∧
        (t.runner = .counting ∨ t.runner = .running ∨ t.runner = .finished)) ∧
      (t.user = .idle → t.isJoined = true → t.runner = .finished) ∧
      (t.user ≠ .idle → ∃ action after, Step tid t action after) := by
  have sound : t.Sound tid := by
    apply run.invariant (new_sound tid)
    intro before action after sound step
    obtain ⟨after', same, sound'⟩ := step.1.sound positive step.2 sound
    cases same
    exact sound'
  have user := sound.user
  refine ⟨?_, ?_, ?_, sound.goes_on positive⟩
  · intro action result careful attempt
    obtain ⟨after, done, -⟩ := attempt.sound positive careful sound
    exact ⟨after, done⟩
  · intro idle started
    simp only [UserFits, idle] at user
    have down := sound.down (user.2.1 started)
    refine ⟨sound.runner.pid_eq down, ?_⟩
    have runner := sound.runner
    cases stage : t.runner <;> simp only [RunnerFits, stage] at runner
    case unborn => omega
    case storing => omega
    case calling => omega
    case counting => exact .inl rfl
    case running => exact .inr (.inl rfl)
    case finished => exact .inr (.inr rfl)
  · intro idle joined
    simp only [UserFits, idle] at user
    exact user.2.2.2 joined

/-- An action that does not fail is a step. -/
theorem Step.of_attempt {result : Except Fault Thread} (attempt : Attempt tid t action result)
    (done : result = .ok after) : Step tid t action after := by
  rw [done] at attempt
  exact attempt

/-- The user sleeps in the latch when the thread decrements its count. -/
theorem thread_of_run_sleeping :
    ∃ t, Run (Guarded (Step 7) Careful) new [.start, .create, .store, .wait, .latch .user,
        .latch .user, .latch .user, .latch .user, .latch .user, .countDown, .latch .runner,
        .latch .runner, .latch .runner, .latch .runner, .latch .runner, .latch .runner,
        .latch .runner, .latch .user, .latch .user, .latch .user, .latch .user, .latch .user,
        .waited, .check] t ∧ t.user = .idle ∧ t.isStarted = true ∧ t.pid = 7 := by
  have reached : ∃ t, Run (Guarded (Step 7) Careful) new [.start, .create, .store, .wait,
        .latch .user, .latch .user, .latch .user, .latch .user, .latch .user, .countDown,
        .latch .runner, .latch .runner, .latch .runner, .latch .runner, .latch .runner,
        .latch .runner, .latch .runner, .latch .user, .latch .user, .latch .user, .latch .user,
        .latch .user, .waited, .check] t ∧ t.user = .idle ∧ t.isStarted = true := by
    refine ⟨_,
      .cons ⟨.of_attempt (.start rfl) rfl, rfl⟩ <| .cons ⟨.create rfl, trivial⟩ <|
      .cons ⟨.store rfl, trivial⟩ <| .cons ⟨.wait rfl, trivial⟩ <|
      .cons ⟨.of_latch nofun (.lock rfl rfl), trivial⟩ <|
      .cons ⟨.of_latch nofun (.assign rfl), trivial⟩ <|
      .cons ⟨.of_latch nofun (.of_attempt (.act rfl rfl) rfl), trivial⟩ <|
      .cons ⟨.of_latch nofun (.unassign rfl (.inr ⟨_, _, rfl⟩)), trivial⟩ <|
      .cons ⟨.of_latch nofun (.sleep rfl rfl), trivial⟩ <|
      .cons ⟨.countDown rfl, trivial⟩ <|
      .cons ⟨.of_latch nofun (.lock rfl rfl), trivial⟩ <|
      .cons ⟨.of_latch nofun (.assign rfl), trivial⟩ <|
      .cons ⟨.of_latch nofun (.of_attempt (.act rfl rfl) rfl), trivial⟩ <|
      .cons ⟨.of_latch nofun (.of_attempt (.act rfl rfl) rfl), trivial⟩ <|
      .cons ⟨.of_latch nofun (.notifyAll rfl rfl), trivial⟩ <|
      .cons ⟨.of_latch nofun (.unassign rfl (.inl rfl)), trivial⟩ <|
      .cons ⟨.of_latch nofun (.unlock rfl rfl), trivial⟩ <|
      .cons ⟨.of_latch nofun (.relock rfl
        (@Condition.Returns.signalled _ _ Party.user [] [] rfl) rfl), trivial⟩ <|
      .cons ⟨.of_latch nofun (.assign rfl), trivial⟩ <|
      .cons ⟨.of_latch nofun (.of_attempt (.act rfl rfl) rfl), trivial⟩ <|
      .cons ⟨.of_latch nofun (.unassign rfl (.inl rfl)), trivial⟩ <|
      .cons ⟨.of_latch nofun (.unlock rfl rfl), trivial⟩ <|
      .cons ⟨.waited rfl rfl, trivial⟩ <|
      .cons ⟨.of_attempt (.check rfl) rfl, trivial⟩ <| .nil _, rfl, rfl⟩
  obtain ⟨t, run, idle, started⟩ := reached
  have after := thread_of_run 7 (by decide) _ t run
  exact ⟨t, run, idle, started, (after.2.1 idle started).1⟩

end Thread

end Muduo
