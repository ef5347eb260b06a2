import Muduo.Base.Fault
import Muduo.Lib.Monitor

/-!
# Blocking queue

`BlockingQueue` has no limit: `put()` never waits. `drain()` moves the whole deque out, also from
under the consumers that were signalled for its elements, which find nothing and wait again. A deque
that was moved from is empty, which the assertion behind the move relies on and libstdc++ grants.
Every statement is a step of its own.
-/

open Function Outcome Transition

namespace Muduo

namespace BlockingQueue

variable {τ α : Type}

/-- `m_queue`, and what went in and out. -/
structure Contents (α : Type) where
  /-- The elements in the deque. -/
  queue : List α
  /-- All elements that were put. -/
  given : List α
  /-- All elements that `take()` and `drain()` took out. -/
  taken : List α

/-- The condition. -/
inductive Signal
  /-- `m_notEmpty`. -/
  | notEmpty
  deriving DecidableEq

/-- The statements of `put()`, `take()`, `drain()` and `size()`. -/
inductive Place (α : Type)
  /-- `m_queue.push_back(x)` and `m_queue.emplace_back(std::move(x))`. -/
  | pushBack (x : α)
  /-- `m_notEmpty.notify()`. -/
  | notifyNotEmpty
  /-- `while(m_queue.empty())`. -/
  | whileEmpty
  /-- `m_notEmpty.wait()`. -/
  | waitNotEmpty
  /-- `assert(!m_queue.empty())`. -/
  | assertNotEmpty
  /-- `T front(std::move(m_queue.front()))`. -/
  | front
  /-- `m_queue.pop_front()`. -/
  | popFront (front : α)
  /-- `queue = std::move(m_queue)`. -/
  | moveOut
  /-- `assert(m_queue.empty())`. -/
  | assertEmpty
  /-- `m_queue.size()`. -/
  | size
  /-- The end of the block. -/
  | done

/-- An empty deque. -/
def Contents.new : Contents α := ⟨[], [], []⟩

/-- The functions start here. -/
def Entry : Place α → Prop
  | .pushBack _ => True
  | .whileEmpty => True
  | .moveOut => True
  | .size => True
  | _ => False

/-- The statements. A deque that was moved from is empty. -/
def code : Place α → Statement Fault (Contents α) Signal (Place α)
  | .pushBack x => .act fun c =>
    .ok ({ c with queue := c.queue ++ [x], given := c.given ++ [x] }, .notifyNotEmpty)
  | .notifyNotEmpty => .notify .notEmpty .done
  | .whileEmpty => .act fun c =>
    .ok (c, if c.queue.isEmpty then .waitNotEmpty else .assertNotEmpty)
  | .waitNotEmpty => .wait .notEmpty .whileEmpty
  | .assertNotEmpty => .act fun c => do
    ensure (!c.queue.isEmpty) "!m_queue.empty()"
    return (c, .front)
  | .front => .act fun c =>
    match c.queue with
    | [] => .error .outOfRange
    | front :: _ => .ok (c, .popFront front)
  | .popFront front => .act fun c =>
    match c.queue with
    | [] => .error .outOfRange
    | _ :: rest => .ok ({ c with queue := rest, taken := c.taken ++ [front] }, .done)
  | .moveOut => .act fun c =>
    .ok ({ c with queue := [], taken := c.taken ++ c.queue }, .assertEmpty)
  | .assertEmpty => .act fun c => do
    ensure c.queue.isEmpty "m_queue.empty()"
    return (c, .done)
  | .size => .act fun c => .ok (c, .done)
  | .done => .leave

/-- Elements leave in the order in which they came, so many of them are covered by signals, and the
threads inside `wait()` are those that wait in `take()`. -/
structure Covered (count : Nat) (s : Scene τ (Contents α) Signal (Place α)) : Prop where
  /-- First in, first out. -/
  fifo : s.data.taken ++ s.data.queue = s.data.given
  /-- The elements are covered. -/
  covers : (s.conditions .notEmpty).Covers count
  /-- The threads inside `wait()`. -/
  loops : s.Loops .notEmpty .whileEmpty

/-- While the mutex is free, every element is covered. -/
def Free (s : Scene τ (Contents α) Signal (Place α)) : Prop := Covered s.data.queue.length s

/-- What a thread that has the mutex finds at the places of the code. A consumer may have used up a
signal. -/
def Finds (place : Place α) (s : Scene τ (Contents α) Signal (Place α)) : Prop :=
  match place with
  | .pushBack _ => Free s
  | .notifyNotEmpty => Covered (s.data.queue.length - 1) s ∧ s.data.queue ≠ []
  | .whileEmpty => Covered (s.data.queue.length - 1) s
  | .waitNotEmpty => Covered (s.data.queue.length - 1) s ∧ s.data.queue = []
  | .assertNotEmpty => Covered (s.data.queue.length - 1) s ∧ s.data.queue ≠ []
  | .front => Covered (s.data.queue.length - 1) s ∧ s.data.queue ≠ []
  | .popFront front => Covered (s.data.queue.length - 1) s ∧ ∃ rest, s.data.queue = front :: rest
  | .moveOut => Free s
  | .assertEmpty => Free s ∧ s.data.queue = []
  | .size => Free s
  | .done => Free s

/-- A thread that has the mutex does not wait. -/
def Relies (thread : τ) (place : Place α) (s : Scene τ (Contents α) Signal (Place α)) : Prop :=
  s.parked thread = none ∧ Finds place s

variable {s : Scene τ (Contents α) Signal (Place α)} {thread other : τ} {signal : Signal}
  {changed : Condition τ} {count : Nat}

/-- Fewer elements are covered as well. -/
theorem Covered.mono {fewer : Nat} (covered : Covered count s) (less : fewer ≤ count) :
    Covered fewer s :=
  { covered with covers := covered.covers.mono less }

/-- Threads that wake up use up no signals. -/
theorem Covered.wakes (covered : Covered count s)
    (wakes : (s.conditions signal).Wakes other changed) :
    Covered count (s.turn signal changed) := by
  cases signal
  refine ⟨covered.fifo, ?_, covered.loops.turn (covered.loops.inside.wakes wakes)⟩
  simp only [Scene.turn, update_self]
  exact covered.covers.wakes wakes

/-- A signal covers one element more. -/
theorem Covered.notify (covered : Covered count s)
    (notifies : (s.conditions .notEmpty).Notifies changed) :
    Covered (count + 1) (s.turn .notEmpty changed) := by
  refine ⟨covered.fifo, ?_, covered.loops.turn (covered.loops.inside.notify notifies)⟩
  simp only [Scene.turn, update_self]
  exact covered.covers.notify notifies

/-- What threads that wake up leave of what a thread finds. -/
theorem Finds.wakes {place : Place α} (finds : Finds place s)
    (wakes : (s.conditions signal).Wakes other changed) : Finds place (s.turn signal changed) := by
  cases place with
  | pushBack => exact Covered.wakes finds wakes
  | whileEmpty => exact Covered.wakes finds wakes
  | moveOut => exact Covered.wakes finds wakes
  | size => exact Covered.wakes finds wakes
  | done => exact Covered.wakes finds wakes
  | notifyNotEmpty => exact ⟨finds.1.wakes wakes, finds.2⟩
  | waitNotEmpty => exact ⟨finds.1.wakes wakes, finds.2⟩
  | assertNotEmpty => exact ⟨finds.1.wakes wakes, finds.2⟩
  | front => exact ⟨finds.1.wakes wakes, finds.2⟩
  | popFront => exact ⟨finds.1.wakes wakes, finds.2⟩
  | assertEmpty => exact ⟨Covered.wakes finds.1 wakes, finds.2⟩

/-- Whatever a thread finds, nothing was lost, doubled or put out of order. -/
theorem Finds.fifo {place : Place α} (finds : Finds place s) :
    s.data.taken ++ s.data.queue = s.data.given := by
  cases place with
  | pushBack => exact Covered.fifo finds
  | whileEmpty => exact Covered.fifo finds
  | moveOut => exact Covered.fifo finds
  | size => exact Covered.fifo finds
  | done => exact Covered.fifo finds
  | notifyNotEmpty => exact finds.1.fifo
  | waitNotEmpty => exact finds.1.fifo
  | assertNotEmpty => exact finds.1.fifo
  | front => exact finds.1.fifo
  | popFront => exact finds.1.fifo
  | assertEmpty => exact Covered.fifo finds.1

variable [DecidableEq τ]

/-- A consumer waits. -/
theorem Covered.park (covered : Covered count s) (awake : s.parked thread = none) :
    Covered 0 (s.park thread .notEmpty .whileEmpty) :=
  ⟨covered.fifo, Condition.covers_zero _, covered.loops.park awake⟩

/-- A consumer is back. -/
theorem Covered.unpark (covered : Covered count s)
    (returns : (s.conditions .notEmpty).Returns thread changed) :
    Covered (count - 1) (s.unpark thread .notEmpty changed) := by
  refine ⟨covered.fifo, ?_, covered.loops.unpark returns⟩
  simp only [Scene.unpark, Scene.turn, update_self]
  exact covered.covers.returns returns

/-- What holds where in the code of the queue. -/
theorem outline : Monitor.Outline (code : Place α → Statement Fault (Contents α) Signal (Place α))
    Entry Free (Relies (τ := τ)) where
  enter := by
    intro s thread place free awake begins
    cases place with
    | pushBack => exact ⟨awake, free⟩
    | whileEmpty => exact ⟨awake, Covered.mono free (Nat.sub_le _ 1)⟩
    | moveOut => exact ⟨awake, free⟩
    | size => exact ⟨awake, free⟩
    | _ => exact absurd begins id
  resume := by
    intro s thread next signal changed free waits returns
    obtain ⟨rfl, rfl⟩ := free.loops.condition_eq waits
    refine ⟨?_, Covered.unpark free returns⟩
    simp [Scene.unpark]
  act := by
    rintro s thread place change ⟨awake, finds⟩ statement
    cases place with
    | pushBack x =>
      cases statement
      refine ⟨_, _, rfl, awake, ⟨?_, ?_, finds.loops.act _⟩, by simp⟩
      · simp [← finds.fifo]
      · simpa using finds.covers
    | whileEmpty =>
      cases statement
      refine ⟨s.data, _, rfl, awake, ?_⟩
      cases elements : s.data.queue with
      | nil => exact ⟨finds, elements⟩
      | cons front rest => exact ⟨finds, by simp [elements]⟩
    | assertNotEmpty =>
      cases statement
      have more : s.data.queue.isEmpty = false := List.isEmpty_eq_false_iff.mpr finds.2
      refine ⟨s.data, .front, ?_, awake, finds⟩
      simp [more]
    | front =>
      cases statement
      obtain ⟨front, rest, first⟩ := List.exists_cons_of_ne_nil finds.2
      refine ⟨s.data, .popFront front, ?_, awake, finds.1, rest, first⟩
      simp [first]
    | popFront front =>
      cases statement
      obtain ⟨covered, rest, first⟩ := finds
      refine ⟨{ s.data with queue := rest, taken := s.data.taken ++ [front] }, .done, ?_, awake,
        ?_, ?_, covered.loops.act _⟩
      · simp [first]
      · simp [← covered.fifo, first]
      · simpa [first] using covered.covers
    | moveOut =>
      cases statement
      refine ⟨_, _, rfl, awake, ⟨?_, Condition.covers_zero _, finds.loops.act _⟩, rfl⟩
      simp [finds.fifo]
    | assertEmpty =>
      cases statement
      refine ⟨s.data, .done, ?_, awake, finds.1⟩
      simp [finds.2]
    | size =>
      cases statement
      exact ⟨s.data, .done, rfl, awake, finds⟩
    | _ => cases statement
  notify := by
    rintro s thread place next signal changed ⟨awake, finds⟩ statement notifies
    cases place with
    | notifyNotEmpty =>
      cases statement
      have covered := finds.1.notify notifies
      rw [Nat.sub_add_cancel (List.length_pos_iff.mpr finds.2)] at covered
      exact ⟨awake, covered⟩
    | _ => cases statement
  notifyAll := by
    intro s thread place next signal relies statement
    cases place <;> cases statement
  wait := by
    rintro s thread place next signal ⟨awake, finds⟩ statement
    cases place with
    | waitNotEmpty =>
      cases statement
      have parked := finds.1.park awake
      have empty : (s.park thread .notEmpty .whileEmpty).data.queue.length = 0 := by
        simp [Scene.park, Scene.turn, finds.2]
      rw [Free, empty]
      exact parked
    | _ => cases statement
  leave := by
    rintro s thread place ⟨-, finds⟩ statement
    cases place with
    | done => exact finds
    | _ => cases statement
  wakes := Covered.wakes
  disturbed := by
    rintro s thread other place signal changed ⟨awake, finds⟩ wakes
    exact ⟨awake, finds.wakes wakes⟩

end BlockingQueue

end Muduo
