import Muduo.Base.Fault
import Muduo.Lib.Monitor

/-!
# Countdown latch

`CountDownLatch` signals the threads that wait only when its count comes to zero, and never again.
This is enough: the count does not go up, so nobody begins to wait afterwards. Every statement is a
step of its own. The count is an integer without a bound: it is the `int` of the source up to `2^31`
decrements after it came to zero.
-/

open Function Transition

namespace Muduo

namespace CountDownLatch

variable {τ : Type}

/-- `m_count`, and what was done with it. -/
structure Contents where
  /-- `m_count`. -/
  count : Int
  /-- How often it was decremented. -/
  downs : Nat
  /-- How many calls of `wait()` found it at zero or below. -/
  passed : Nat

/-- The condition. -/
inductive Signal
  /-- `m_cond`. -/
  | cond
  deriving DecidableEq

/-- The statements of `wait()`, `countDown()` and `getCount()`. -/
inductive Place
  /-- `while( m_count > 0)`. -/
  | whilePositive
  /-- `m_cond.wait()`. -/
  | waitCond
  /-- `--m_count`. -/
  | decrement
  /-- `if( m_count == 0 )`. -/
  | ifZero
  /-- `m_cond.notifyAll()`. -/
  | notifyAllCond
  /-- `return m_count`. -/
  | getCount
  /-- The end of the block. -/
  | done
  deriving DecidableEq

/-- The constructor. -/
def Contents.new (count : Int) : Contents := ⟨count, 0, 0⟩

/-- The functions start here. -/
def Entry : Place → Prop
  | .whilePositive => True
  | .decrement => True
  | .getCount => True
  | _ => False

/-- The statements. -/
def code : Place → Statement Fault Contents Signal Place
  | .whilePositive => .act fun c =>
    .ok (if 0 < c.count then (c, .waitCond) else ({ c with passed := c.passed + 1 }, .done))
  | .waitCond => .wait .cond .whilePositive
  | .decrement => .act fun c =>
    .ok ({ c with count := c.count - 1, downs := c.downs + 1 }, .ifZero)
  | .ifZero => .act fun c => .ok (c, if c.count = 0 then .notifyAllCond else .done)
  | .notifyAllCond => .notifyAll .cond .done
  | .getCount => .act fun c => .ok (c, .done)
  | .done => .leave

/-- The count goes down by one at a time, calls of `wait()` pass only after it came to zero, and the
threads inside `wait()` are those that wait in the loop. -/
structure Counted (initial : Int) (s : Scene τ Contents Signal Place) : Prop where
  /-- The count. -/
  count : s.data.count = initial - s.data.downs
  /-- The calls that passed. -/
  passed : 0 < s.data.passed → initial ≤ s.data.downs
  /-- The threads inside `wait()`. -/
  loops : s.Loops .cond .whilePositive

/-- Nobody waits for a signal once the count is at zero or below. -/
def Open (s : Scene τ Contents Signal Place) : Prop :=
  0 < s.data.count ∨ (s.conditions .cond).waiting = []

/-- While the mutex is free. -/
def Free (initial : Int) (s : Scene τ Contents Signal Place) : Prop := Counted initial s ∧ Open s

/-- What a thread that has the mutex finds at the places of the code. -/
def Finds (place : Place) (s : Scene τ Contents Signal Place) : Prop :=
  match place with
  | .waitCond => 0 < s.data.count
  | .ifZero => s.data.count = 0 ∨ Open s
  | .notifyAllCond => True
  | _ => Open s

/-- A thread that has the mutex does not wait. -/
structure Relies (initial : Int) (thread : τ) (place : Place) (s : Scene τ Contents Signal Place) :
    Prop where
  /-- It does not wait. -/
  awake : s.parked thread = none
  /-- The count and the threads. -/
  counted : Counted initial s
  /-- What it finds. -/
  finds : Finds place s

variable {s : Scene τ Contents Signal Place} {thread other : τ} {signal : Signal}
  {changed : Condition τ} {initial : Int}

/-- Threads that wake up do not matter for the count. -/
theorem Counted.wakes (counted : Counted initial s)
    (wakes : (s.conditions signal).Wakes other changed) :
    Counted initial (s.turn signal changed) := by
  cases signal
  exact ⟨counted.count, counted.passed, counted.loops.turn (counted.loops.inside.wakes wakes)⟩

/-- Nobody wakes up where nobody waits. -/
theorem Open.wakes (isOpen : Open s) (wakes : (s.conditions signal).Wakes other changed) :
    Open (s.turn signal changed) := by
  cases signal
  obtain positive | nobody := isOpen
  · exact .inl positive
  · exact absurd nobody wakes.somebody_waited

/-- Threads that wake up leave what a thread finds. -/
theorem Finds.wakes {place : Place} (finds : Finds place s)
    (wakes : (s.conditions signal).Wakes other changed) : Finds place (s.turn signal changed) := by
  cases place with
  | waitCond => exact finds
  | notifyAllCond => exact finds
  | ifZero => exact finds.imp id fun isOpen => isOpen.wakes wakes
  | whilePositive => exact Open.wakes finds wakes
  | decrement => exact Open.wakes finds wakes
  | getCount => exact Open.wakes finds wakes
  | done => exact Open.wakes finds wakes

/-- At the beginning nothing was counted. -/
theorem new_free (initial : Int) :
    Free initial (Monitor.new (.new initial) : Monitor τ Contents Signal Place).scene := by
  constructor
  · refine ⟨?_, ?_, Monitor.new_loops _ _ _⟩
    · exact (Int.sub_zero initial).symm
    · exact fun none => absurd none (Nat.lt_irrefl 0)
  · exact .inr rfl

/-- The count is right at every moment. -/
theorem counted_of_kept {initial : Int} {m : Monitor τ Contents Signal Place}
    (kept : m.Kept code Entry (Free initial) (Relies initial)) : Counted initial m.scene := by
  cases held : m.holder with
  | none => exact (kept.free held).1
  | some thread =>
    obtain ⟨place, -, relies⟩ := kept.here thread held
    exact relies.counted

/-- Nobody waits for a signal once there were enough decrements. -/
theorem nobody_waits {m : Monitor τ Contents Signal Place}
    (kept : m.Kept code Entry (Free initial) (Relies initial)) (free : m.holder = none)
    (enough : initial ≤ m.data.downs) : (m.conditions .cond).waiting = [] := by
  have count : m.data.count = initial - m.data.downs := (counted_of_kept kept).count
  obtain positive | nobody := (kept.free free).2
  · have above : 0 < m.data.count := positive
    omega
  · exact nobody

variable [DecidableEq τ]

/-- What holds where in the code of the latch. -/
theorem outline (initial : Int) :
    Monitor.Outline code Entry (Free initial) (Relies (τ := τ) initial) where
  enter := by
    rintro s thread place ⟨counted, isOpen⟩ awake begins
    cases place with
    | whilePositive => exact ⟨awake, counted, isOpen⟩
    | decrement => exact ⟨awake, counted, isOpen⟩
    | getCount => exact ⟨awake, counted, isOpen⟩
    | _ => exact absurd begins id
  resume := by
    rintro s thread next signal changed ⟨counted, isOpen⟩ waits returns
    obtain ⟨rfl, rfl⟩ := counted.loops.condition_eq waits
    refine ⟨by simp [Scene.unpark], ⟨counted.count, counted.passed,
      counted.loops.unpark returns⟩, ?_⟩
    obtain positive | nobody := isOpen
    · exact .inl positive
    · refine .inr ?_
      simp only [Scene.unpark, Scene.turn, update_self]
      rw [returns.waiting_eq, nobody]
  act := by
    rintro s thread place change ⟨awake, counted, finds⟩ statement
    cases place with
    | whilePositive =>
      cases statement
      by_cases positive : 0 < s.data.count
      · exact ⟨s.data, .waitCond, by simp [positive], awake, counted, positive⟩
      · refine ⟨{ s.data with passed := s.data.passed + 1 }, .done, by simp [positive], awake,
          ⟨counted.count, fun _ => ?_, counted.loops.act _⟩, finds⟩
        have count := counted.count
        show initial ≤ s.data.downs
        omega
    | decrement =>
      cases statement
      have count := counted.count
      refine ⟨_, _, rfl, awake, ⟨?_, fun some => ?_, counted.loops.act _⟩, ?_⟩
      · show s.data.count - 1 = initial - (s.data.downs + 1 : Nat)
        omega
      · have before := counted.passed some
        show initial ≤ (s.data.downs + 1 : Nat)
        omega
      · obtain positive | nobody := finds
        · by_cases zero : s.data.count - 1 = 0
          · exact .inl zero
          · refine .inr (.inl ?_)
            show 0 < s.data.count - 1
            omega
        · exact .inr (.inr nobody)
    | ifZero =>
      cases statement
      by_cases zero : s.data.count = 0
      · exact ⟨s.data, .notifyAllCond, by simp [zero], awake, counted, trivial⟩
      · exact ⟨s.data, .done, by simp [zero], awake, counted, finds.resolve_left zero⟩
    | getCount =>
      cases statement
      exact ⟨s.data, .done, rfl, awake, counted, finds⟩
    | _ => cases statement
  notify := by
    intro s thread place next signal changed relies statement
    cases place <;> cases statement
  notifyAll := by
    rintro s thread place next signal ⟨awake, counted, finds⟩ statement
    cases place with
    | notifyAllCond =>
      cases statement
      refine ⟨awake, ⟨counted.count, counted.passed,
        counted.loops.turn counted.loops.inside.notifyAll⟩, .inr ?_⟩
      simp [Scene.turn, Condition.notifyAll]
    | _ => cases statement
  wait := by
    rintro s thread place next signal ⟨awake, counted, finds⟩ statement
    cases place with
    | waitCond =>
      cases statement
      exact ⟨⟨counted.count, counted.passed, counted.loops.park awake⟩, .inl finds⟩
    | _ => cases statement
  leave := by
    rintro s thread place ⟨awake, counted, finds⟩ statement
    cases place with
    | done => exact ⟨counted, finds⟩
    | _ => cases statement
  wakes := by
    rintro s thread signal changed ⟨counted, isOpen⟩ wakes
    exact ⟨counted.wakes wakes, isOpen.wakes wakes⟩
  disturbed := by
    rintro s thread other place signal changed ⟨awake, counted, finds⟩ wakes
    exact ⟨awake, counted.wakes wakes, finds.wakes wakes⟩

/-- Every thread in `wait()` can go on once there were enough decrements. -/
theorem exists_resume {m : Monitor τ Contents Signal Place}
    (kept : m.Kept code Entry (Free initial) (Relies initial)) (free : m.holder = none)
    (enough : initial ≤ m.data.downs) (waits : m.phases thread = .parked .cond .whilePositive) :
    ∃ after, Monitor.Step code Entry m thread after ∧ after.holder = some thread := by
  have parked : m.scene.parked thread ≠ none := by simp [Monitor.scene, waits, Phase.waits]
  have member : thread ∈ (m.conditions .cond).members :=
    ((counted_of_kept kept).loops.inside.mem thread).mpr parked
  obtain ⟨changed, returns⟩ :=
    Condition.exists_returns_of_mem (nobody_waits kept free enough) member
  exact ⟨_, .relock waits returns free, rfl⟩

/-- Every schedule of the single statements: the count is the initial one less one for each
decrement; a call of `wait()` passes only after as many decrements as the initial count; once there
were so many, whenever the mutex is free nobody is left waiting for a signal and each thread in
`wait()` can go on; and `isLockedByThisThread()` is true in exactly the thread that executes a
statement of a section. -/
theorem latch_of_schedule (initial : Int) (schedule : List τ)
    (m : Monitor τ Contents Signal Place)
    (run : Run (Monitor.Step code Entry) (.new (.new initial)) schedule m) :
    m.data.count = initial - m.data.downs ∧
      (0 < m.data.passed → initial ≤ m.data.downs) ∧
      (m.holder = none → initial ≤ m.data.downs → (m.conditions .cond).waiting = [] ∧
        ∀ thread, m.phases thread = .parked .cond .whilePositive →
          ∃ after, Monitor.Step code Entry m thread after ∧ after.holder = some thread) ∧
      ∀ thread, m.owner = some thread ↔ ∃ place, m.phases thread = .inside place := by
  have kept := (outline initial).run (new_free initial) run
  have counted := counted_of_kept kept
  refine ⟨counted.count, counted.passed, fun free enough => ?_, kept.owner⟩
  exact ⟨nobody_waits kept free enough, fun thread => exists_resume kept free enough⟩

/-- As long as there were no more than `2^31` decrements beyond the initial count, which is an
`int`, the count is an `int`. -/
theorem count_fits (initial : Int) (schedule : List τ) (m : Monitor τ Contents Signal Place)
    (run : Run (Monitor.Step code Entry) (.new (.new initial)) schedule m)
    (word : initial < 2 ^ 31) (few : m.data.downs ≤ initial + 2 ^ 31) :
    -2 ^ 31 ≤ m.data.count ∧ m.data.count < 2 ^ 31 := by
  have count : m.data.count = initial - m.data.downs :=
    (counted_of_kept ((outline initial).run (new_free initial) run)).count
  omega

/-- One thread waits for two others. -/
theorem latch_of_schedule_two :
    ∃ m : Monitor Nat Contents Signal Place,
      Run (Monitor.Step code Entry) (.new (.new 2))
          [0, 0, 0, 0, 0, 0, 1, 1, 1, 1, 1, 1, 1, 2, 2, 2, 2, 2, 2, 2, 2] m ∧
        m.data.downs = 2 ∧ (m.conditions .cond).signalled = [0] ∧
        (m.conditions .cond).waiting = [] := by
  have reached : ∃ m : Monitor Nat Contents Signal Place,
      Run (Monitor.Step code Entry) (.new (.new 2))
          [0, 0, 0, 0, 0, 0, 1, 1, 1, 1, 1, 1, 1, 2, 2, 2, 2, 2, 2, 2, 2] m ∧
        m.data.downs = 2 ∧ (m.conditions .cond).signalled = [0] ∧ m.holder = none := by
    refine ⟨_,
      .cons (.call Place.whilePositive rfl trivial) <|
      .cons (.lock rfl rfl) <| .cons (.assign rfl) <| .cons (.of_attempt (.act rfl rfl) rfl) <|
      .cons (.unassign rfl (.inr ⟨_, _, rfl⟩)) <| .cons (.sleep rfl rfl) <|
      .cons (.call Place.decrement rfl trivial) <|
      .cons (.lock rfl rfl) <| .cons (.assign rfl) <| .cons (.of_attempt (.act rfl rfl) rfl) <|
      .cons (.of_attempt (.act rfl rfl) rfl) <|
      .cons (.unassign rfl (.inl rfl)) <| .cons (.unlock rfl rfl) <|
      .cons (.call Place.decrement rfl trivial) <|
      .cons (.lock rfl rfl) <| .cons (.assign rfl) <| .cons (.of_attempt (.act rfl rfl) rfl) <|
      .cons (.of_attempt (.act rfl rfl) rfl) <| .cons (.notifyAll rfl rfl) <|
      .cons (.unassign rfl (.inl rfl)) <| .cons (.unlock rfl rfl) <| .nil _, rfl, rfl, rfl⟩
  obtain ⟨m, run, downs, signalled, free⟩ := reached
  have enough : (2 : Int) ≤ m.data.downs := by simp [downs]
  exact ⟨m, run, downs, signalled, ((latch_of_schedule 2 _ m run).2.2.1 free enough).1⟩

end CountDownLatch

end Muduo
