import Muduo.Base.Fault
import Muduo.Lib.Handoff
import Muduo.Lib.Run

/-!
# Bounded blocking queue

`BoundedBlockingQueue` keeps its elements in a `boost::circular_buffer`, which overwrites its oldest
element when something is pushed while it is full. The steps are the critical sections of `put()`
and `take()`, each up to its return or to its next `wait()`, in any order of the threads.
-/

open Transition

namespace Muduo

/-- `BoundedBlockingQueue`: `m_queue`, `m_notEmpty` and `m_notFull` with the threads that use them,
and the capacity of the circular buffer. -/
structure BoundedBlockingQueue (τ α : Type) extends Handoff τ α where
  /-- `m_queue.capacity()`. -/
  capacity : Nat

/-- What a thread does with the queue. -/
inductive QueueAction (τ α : Type)
  /-- A thread enters one of the two `put(x)`. -/
  | put (thread : τ) (x : α)
  /-- A thread enters `take()`. -/
  | take (thread : τ)
  /-- A thread inside `wait()` wakes up by itself. -/
  | wake (thread : τ)
  /-- A thread returns from `wait()` with the mutex. -/
  | resume (thread : τ)
  deriving DecidableEq, Repr

/-- `push_back` of a `boost::circular_buffer`: a full one loses its oldest element. -/
def circularPush {α : Type} (capacity : Nat) (elements : List α) (x : α) : List α :=
  if elements.length = capacity then (elements ++ [x]).tail else elements ++ [x]

namespace BoundedBlockingQueue

variable {τ α : Type}

/-- The constructor. -/
def new (maxSize : Nat) : BoundedBlockingQueue τ α := { Handoff.new with capacity := maxSize }

/-- `m_queue.full()`. -/
def full (q : BoundedBlockingQueue τ α) : Bool := decide (q.queue.length = q.capacity)

variable [DecidableEq τ]

/-- `put()` from the test of its loop on. The argument is what `m_notEmpty` is after its
`notify()`, if that is reached. -/
def put (q : BoundedBlockingQueue τ α) (thread : τ) (x : α) (notified : Condition τ) :
    Except Fault (BoundedBlockingQueue τ α) :=
  if q.full then .ok { q with toHandoff := q.blockPut thread x }
  else do
    ensure (!q.full) "!m_queue.full()"
    return { q with
      toHandoff := { q.push thread x notified with queue := circularPush q.capacity q.queue x } }

/-- `take()` from the test of its loop on. The argument is what `m_notFull` is after its
`notify()`, if that is reached. -/
def take (q : BoundedBlockingQueue τ α) (thread : τ) (notified : Condition τ) :
    Except Fault (BoundedBlockingQueue τ α) :=
  if q.queue.isEmpty then .ok { q with toHandoff := q.blockTake thread }
  else do
    ensure (!q.queue.isEmpty) "!m_queue.empty()"
    match q.queue with
    | [] => .error .outOfRange
    | front :: rest => return { q with toHandoff := q.pop thread front rest notified }

/-- How a step of a thread ends. -/
inductive Attempt (q : BoundedBlockingQueue τ α) :
    QueueAction τ α → Except Fault (BoundedBlockingQueue τ α) → Prop
  /-- A thread enters `put()`. -/
  | put {thread : τ} {x : α} {notified : Condition τ} (idle : q.threads thread = .idle)
      (notifies : q.notEmpty.Notifies notified) :
      Attempt q (.put thread x) (q.put thread x notified)
  /-- A thread enters `take()`. -/
  | take {thread : τ} {notified : Condition τ} (idle : q.threads thread = .idle)
      (notifies : q.notFull.Notifies notified) :
      Attempt q (.take thread) (q.take thread notified)
  /-- A thread inside `put()` wakes up by itself. -/
  | wakePut {thread : τ} {notFull : Condition τ} (wakes : q.notFull.Wakes thread notFull) :
      Attempt q (.wake thread) (.ok { q with notFull })
  /-- A thread inside `take()` wakes up by itself. -/
  | wakeTake {thread : τ} {notEmpty : Condition τ} (wakes : q.notEmpty.Wakes thread notEmpty) :
      Attempt q (.wake thread) (.ok { q with notEmpty })
  /-- A thread inside `put()` goes on. -/
  | resumePut {thread : τ} {x : α} {notFull notified : Condition τ}
      (putting : q.threads thread = .putting x) (returns : q.notFull.Returns thread notFull)
      (notifies : q.notEmpty.Notifies notified) :
      Attempt q (.resume thread) ({ q with notFull }.put thread x notified)
  /-- A thread inside `take()` goes on. -/
  | resumeTake {thread : τ} {notEmpty notified : Condition τ}
      (taking : q.threads thread = .taking) (returns : q.notEmpty.Returns thread notEmpty)
      (notifies : q.notFull.Notifies notified) :
      Attempt q (.resume thread) ({ q with notEmpty }.take thread notified)

/-- A step that returns. -/
def Step (before : BoundedBlockingQueue τ α) (action : QueueAction τ α)
    (after : BoundedBlockingQueue τ α) : Prop :=
  Attempt before action (.ok after)

/-- An attempt that returns is a step. -/
theorem Step.of_attempt {before after : BoundedBlockingQueue τ α} {action : QueueAction τ α}
    {result : Except Fault (BoundedBlockingQueue τ α)} (attempt : Attempt before action result)
    (returns : result = .ok after) : Step before action after := by
  rw [returns] at attempt
  exact attempt

variable {q : BoundedBlockingQueue τ α} {thread : τ} {maxSize : Nat}

/-- The queue is a sound handoff whose limit is the capacity of the circular buffer. -/
structure Sound (maxSize : Nat) (q : BoundedBlockingQueue τ α) : Prop where
  /-- The capacity stays what it was. -/
  capacity : q.capacity = maxSize
  /-- The queue and its threads. -/
  handoff : q.toHandoff.Sound maxSize

/-- `put()` passes its assertion, overwrites nothing and leaves a sound queue. -/
theorem put_sound {notified : Condition τ} (capacity : q.capacity = maxSize)
    (positive : 1 ≤ maxSize) (producing : q.toHandoff.Producing maxSize thread)
    (notifies : q.notEmpty.Notifies notified) (x : α) :
    ∃ after, q.put thread x notified = .ok after ∧ after.Sound maxSize := by
  subst capacity
  cases full : q.full with
  | true =>
    have reached : q.queue.length = q.capacity := of_decide_eq_true full
    refine ⟨{ q with toHandoff := q.blockPut thread x }, ?_, rfl, producing.block reached.ge x⟩
    simp [put, full]
  | false =>
    have different : q.queue.length ≠ q.capacity := of_decide_eq_false full
    have room : q.queue.length < q.capacity :=
      lt_of_le_of_ne (producing.bounded (Nat.pos_iff_ne_zero.mp positive)) different
    refine ⟨{ q with toHandoff := q.push thread x notified }, ?_, rfl,
      producing.push (fun _ => room) x notifies⟩
    simp [put, full, circularPush, different, Handoff.push]

/-- `take()` passes its assertion and leaves a sound queue. -/
theorem take_sound {notified : Condition τ} (capacity : q.capacity = maxSize)
    (consuming : q.toHandoff.Consuming maxSize thread) (notifies : q.notFull.Notifies notified) :
    ∃ after, q.take thread notified = .ok after ∧ after.Sound maxSize := by
  cases elements : q.queue with
  | nil =>
    refine ⟨{ q with toHandoff := q.blockTake thread }, ?_, capacity, consuming.block elements⟩
    simp [take, elements]
  | cons front rest =>
    refine ⟨{ q with toHandoff := q.pop thread front rest notified }, ?_, capacity,
      consuming.pop elements (.inr notifies)⟩
    simp [take, elements]

/-- Every step of every thread returns and leaves a sound queue. -/
theorem Attempt.sound {action : QueueAction τ α} {result : Except Fault (BoundedBlockingQueue τ α)}
    (attempt : Attempt q action result) (positive : 1 ≤ maxSize) (sound : q.Sound maxSize) :
    ∃ after, result = .ok after ∧ after.Sound maxSize := by
  obtain ⟨capacity, handoff⟩ := sound
  cases attempt with
  | put idle notifies => exact put_sound capacity positive (handoff.producing idle) notifies _
  | take idle notifies => exact take_sound capacity (handoff.consuming idle) notifies
  | wakePut wakes => exact ⟨_, rfl, capacity, handoff.wakes_putting wakes⟩
  | wakeTake wakes => exact ⟨_, rfl, capacity, handoff.wakes_taking wakes⟩
  | @resumePut thread x notFull notified putting returns notifies =>
    have entered : ({ q with notFull } : BoundedBlockingQueue τ α).capacity = maxSize := capacity
    exact put_sound entered positive (handoff.resumes_putting putting returns) notifies x
  | @resumeTake thread notEmpty notified taking returns notifies =>
    have entered : ({ q with notEmpty } : BoundedBlockingQueue τ α).capacity = maxSize := capacity
    exact take_sound entered (handoff.resumes_taking taking returns) notifies

/-- Every run leads to a sound queue. -/
theorem sound_of_run {actions : List (QueueAction τ α)} (positive : 1 ≤ maxSize)
    (run : Run Step (new maxSize) actions q) : q.Sound maxSize := by
  have begins : (new maxSize : BoundedBlockingQueue τ α).Sound maxSize :=
    ⟨rfl, Handoff.new_sound maxSize⟩
  refine run.invariant begins ?_
  intro before action after sound step
  obtain ⟨_, same, kept⟩ := step.sound positive sound
  cases same
  exact kept

end BoundedBlockingQueue

end Muduo
