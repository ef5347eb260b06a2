import Mathlib.Logic.Function.Basic
import Mathlib.Order.BooleanAlgebra.Set
import Muduo.Lib.Condition

/-!
# A queue between producers and consumers

Producers put elements into a queue and consumers take them out, each in a critical section of one
mutex. A producer waits on `notFull` while there is no room, a consumer waits on `notEmpty` while
there is nothing to take, and whoever has changed the queue signals one thread of the other side.

A thread that has the mutex may have been counted as signalled before, so that while it holds the
mutex one element or one free place less is covered by signals than there is. The rules say for each
end of a critical section that everything is covered again.
-/

open Function

/-- What a thread does with the queue. -/
inductive Role (α : Type)
  /-- Nothing. -/
  | idle
  /-- It waits until it can put an element. -/
  | putting (element : α)
  /-- It waits until it can take an element. -/
  | taking
  deriving DecidableEq, Repr

/-- The queue, its two conditions, its threads and what went in and out. -/
structure Handoff (τ α : Type) where
  /-- The elements that are in the queue. -/
  queue : List α
  /-- Where consumers wait. -/
  notEmpty : Condition τ
  /-- Where producers wait. -/
  notFull : Condition τ
  /-- What the threads do. -/
  threads : τ → Role α
  /-- All elements that were put, in the order of the mutex. -/
  given : List α
  /-- All elements that were taken, in the order of the mutex. -/
  taken : List α

namespace Handoff

variable {τ α : Type}

/-- An empty queue. -/
def new : Handoff τ α := ⟨[], .new, .new, fun _ => .idle, [], []⟩

/-- The threads that wait to take an element. -/
def takers (h : Handoff τ α) : Set τ := { thread | h.threads thread = .taking }

/-- The threads that wait to put an element. -/
def putters (h : Handoff τ α) : Set τ := { thread | ∃ element, h.threads thread = .putting element }

/-- Elements are taken in the order in which they were put, there are not more of them than the
limit unless it is zero, which means none, every element and every free place is covered by a
signal, and the threads inside `wait` are those that wait. -/
structure Sound (h : Handoff τ α) (limit : Nat) : Prop where
  /-- First in, first out. -/
  fifo : h.taken ++ h.queue = h.given
  /-- The limit. -/
  bounded : limit ≠ 0 → h.queue.length ≤ limit
  /-- Elements are covered. -/
  consumers : h.notEmpty.Covers h.queue.length
  /-- Free places are covered. -/
  producers : h.notFull.Covers (limit - h.queue.length)
  /-- The consumers inside `wait`. -/
  taking : h.notEmpty.Has h.takers
  /-- The producers inside `wait`. -/
  putting : h.notFull.Has h.putters

/-- The same while a thread has the mutex: so many elements and places are covered. -/
structure Serving (h : Handoff τ α) (limit : Nat) (thread : τ) (elements places : Nat) :
    Prop where
  /-- First in, first out. -/
  fifo : h.taken ++ h.queue = h.given
  /-- The limit. -/
  bounded : limit ≠ 0 → h.queue.length ≤ limit
  /-- Elements that are covered. -/
  consumers : h.notEmpty.Covers elements
  /-- Free places that are covered. -/
  producers : h.notFull.Covers places
  /-- The consumers inside `wait`. -/
  taking : h.notEmpty.Has (h.takers \ {thread})
  /-- The producers inside `wait`. -/
  putting : h.notFull.Has (h.putters \ {thread})

variable {h : Handoff τ α} {limit elements places : Nat} {thread : τ}

/-- An empty queue is sound. -/
theorem new_sound (limit : Nat) : (new : Handoff τ α).Sound limit where
  fifo := rfl
  bounded _ := Nat.zero_le _
  consumers := Condition.covers_zero _
  producers := Condition.covers_of_nobody rfl _
  taking := Condition.new_has.congr (Set.eq_empty_of_forall_notMem nofun).symm
  putting := Condition.new_has.congr (Set.eq_empty_of_forall_notMem nofun).symm

/-- A producer has the mutex, and a signal it may have got is used up. -/
def Producing (h : Handoff τ α) (limit : Nat) (thread : τ) : Prop :=
  h.Serving limit thread h.queue.length (limit - h.queue.length - 1)

/-- A consumer has the mutex, and a signal it may have got is used up. -/
def Consuming (h : Handoff τ α) (limit : Nat) (thread : τ) : Prop :=
  h.Serving limit thread (h.queue.length - 1) (limit - h.queue.length)

/-- A thread that does not wait to take is not among those that do. -/
theorem takers_sdiff (other : h.threads thread ≠ .taking) : h.takers \ {thread} = h.takers :=
  Set.sdiff_singleton_eq_self other

/-- A thread that does not wait to put is not among those that do. -/
theorem putters_sdiff (other : ∀ element, h.threads thread ≠ .putting element) :
    h.putters \ {thread} = h.putters :=
  Set.sdiff_singleton_eq_self fun ⟨element, putting⟩ => other element putting

/-- A thread that did nothing gets the mutex. -/
theorem Sound.serving (sound : h.Sound limit) (idle : h.threads thread = .idle) {less fewer : Nat}
    (elements : less ≤ h.queue.length) (places : fewer ≤ limit - h.queue.length) :
    h.Serving limit thread less fewer where
  fifo := sound.fifo
  bounded := sound.bounded
  consumers := sound.consumers.mono elements
  producers := sound.producers.mono places
  taking := sound.taking.congr (takers_sdiff (by rw [idle]; exact nofun)).symm
  putting := sound.putting.congr (putters_sdiff (by rw [idle]; exact nofun)).symm

/-- A thread begins to put. -/
theorem Sound.producing (sound : h.Sound limit) (idle : h.threads thread = .idle) :
    h.Producing limit thread := sound.serving idle le_rfl (Nat.sub_le _ _)

/-- A thread begins to take. -/
theorem Sound.consuming (sound : h.Sound limit) (idle : h.threads thread = .idle) :
    h.Consuming limit thread := sound.serving idle (Nat.sub_le _ _) le_rfl

/-- A producer is back from `wait`. -/
theorem Sound.resumes_putting (sound : h.Sound limit) {element : α} {notFull : Condition τ}
    (putting : h.threads thread = .putting element) (returns : h.notFull.Returns thread notFull) :
    { h with notFull }.Producing limit thread where
  fifo := sound.fifo
  bounded := sound.bounded
  consumers := sound.consumers
  producers := sound.producers.returns returns
  taking := sound.taking.congr (takers_sdiff (by rw [putting]; exact nofun)).symm
  putting := (sound.putting.returns returns).2

/-- A consumer is back from `wait`. -/
theorem Sound.resumes_taking (sound : h.Sound limit) {notEmpty : Condition τ}
    (taking : h.threads thread = .taking) (returns : h.notEmpty.Returns thread notEmpty) :
    { h with notEmpty }.Consuming limit thread where
  fifo := sound.fifo
  bounded := sound.bounded
  consumers := sound.consumers.returns returns
  producers := sound.producers
  taking := (sound.taking.returns returns).2
  putting := sound.putting.congr (putters_sdiff (by rw [taking]; exact nofun)).symm

/-- A producer wakes up by itself. -/
theorem Sound.wakes_putting (sound : h.Sound limit) {notFull : Condition τ}
    (wakes : h.notFull.Wakes thread notFull) : { h with notFull }.Sound limit where
  fifo := sound.fifo
  bounded := sound.bounded
  consumers := sound.consumers
  producers := sound.producers.wakes wakes
  taking := sound.taking
  putting := sound.putting.wakes wakes

/-- A consumer wakes up by itself. -/
theorem Sound.wakes_taking (sound : h.Sound limit) {notEmpty : Condition τ}
    (wakes : h.notEmpty.Wakes thread notEmpty) : { h with notEmpty }.Sound limit where
  fifo := sound.fifo
  bounded := sound.bounded
  consumers := sound.consumers.wakes wakes
  producers := sound.producers
  taking := sound.taking.wakes wakes
  putting := sound.putting

/-- Everybody is signalled. -/
theorem Sound.notifyAll (sound : h.Sound limit) :
    { h with notEmpty := h.notEmpty.notifyAll, notFull := h.notFull.notifyAll }.Sound limit where
  fifo := sound.fifo
  bounded := sound.bounded
  consumers := Condition.covers_of_nobody rfl _
  producers := Condition.covers_of_nobody rfl _
  taking := sound.taking.notifyAll
  putting := sound.putting.notifyAll

variable [DecidableEq τ]

/-- A producer waits. -/
def blockPut (h : Handoff τ α) (thread : τ) (element : α) : Handoff τ α :=
  { h with
    notFull := h.notFull.wait thread
    threads := update h.threads thread (.putting element) }

/-- A consumer waits. -/
def blockTake (h : Handoff τ α) (thread : τ) : Handoff τ α :=
  { h with
    notEmpty := h.notEmpty.wait thread
    threads := update h.threads thread .taking }

/-- A producer leaves with its element in the queue, and `notEmpty` signalled. -/
def push (h : Handoff τ α) (thread : τ) (element : α) (notEmpty : Condition τ) : Handoff τ α :=
  { h with
    queue := h.queue ++ [element]
    notEmpty
    threads := update h.threads thread .idle
    given := h.given ++ [element] }

/-- A consumer leaves with the first element, and `notFull` signalled. -/
def pop (h : Handoff τ α) (thread : τ) (element : α) (rest : List α) (notFull : Condition τ) :
    Handoff τ α :=
  { h with
    queue := rest
    notFull
    threads := update h.threads thread .idle
    taken := h.taken ++ [element] }

/-- A thread leaves without an element. -/
def leave (h : Handoff τ α) (thread : τ) : Handoff τ α :=
  { h with threads := update h.threads thread .idle }

/-- A thread turns to something else than taking. -/
theorem takers_of_update {after : Handoff τ α} {role : Role α}
    (changed : after.threads = update h.threads thread role) (other : role ≠ .taking) :
    h.takers \ {thread} = after.takers := by
  ext one
  by_cases same : one = thread
  · subst same
    simp [takers, changed, other]
  · simp [takers, changed, same]

/-- A thread turns to something else than putting. -/
theorem putters_of_update {after : Handoff τ α} {role : Role α}
    (changed : after.threads = update h.threads thread role)
    (other : ∀ element, role ≠ .putting element) :
    h.putters \ {thread} = after.putters := by
  ext one
  by_cases same : one = thread
  · subst same
    simp [putters, changed, other]
  · simp [putters, changed, same]

/-- A thread turns to taking. -/
theorem takers_of_taking {after : Handoff τ α}
    (changed : after.threads = update h.threads thread .taking) :
    insert thread (h.takers \ {thread}) = after.takers := by
  ext one
  by_cases same : one = thread
  · subst same
    simp [takers, changed]
  · simp [takers, changed, same]

/-- A thread turns to putting. -/
theorem putters_of_putting {after : Handoff τ α} {element : α}
    (changed : after.threads = update h.threads thread (.putting element)) :
    insert thread (h.putters \ {thread}) = after.putters := by
  ext one
  by_cases same : one = thread
  · subst same
    simp [putters, changed]
  · simp [putters, changed, same]

/-- A producer that finds no room waits. -/
theorem Producing.block (producing : h.Producing limit thread) (full : limit ≤ h.queue.length)
    (element : α) : (h.blockPut thread element).Sound limit where
  fifo := producing.fifo
  bounded := producing.bounded
  consumers := producing.consumers
  producers := by
    have none : limit - (h.blockPut thread element).queue.length = 0 := Nat.sub_eq_zero_of_le full
    rw [none]
    exact Condition.covers_zero _
  taking := producing.taking.congr (takers_of_update rfl nofun)
  putting := (producing.putting.wait fun inside => inside.2 rfl).congr (putters_of_putting rfl)

/-- A consumer that finds nothing waits. -/
theorem Consuming.block (consuming : h.Consuming limit thread) (empty : h.queue = []) :
    (h.blockTake thread).Sound limit where
  fifo := consuming.fifo
  bounded := consuming.bounded
  consumers := by
    have none : (h.blockTake thread).queue.length = 0 := congrArg List.length empty
    rw [none]
    exact Condition.covers_zero _
  producers := consuming.producers
  taking := (consuming.taking.wait fun inside => inside.2 rfl).congr (takers_of_taking rfl)
  putting := consuming.putting.congr (putters_of_update rfl nofun)

/-- A producer that finds room puts its element and signals a consumer. -/
theorem Producing.push (producing : h.Producing limit thread)
    (room : limit ≠ 0 → h.queue.length < limit) (element : α) {notEmpty : Condition τ}
    (notifies : h.notEmpty.Notifies notEmpty) :
    (h.push thread element notEmpty).Sound limit where
  fifo := by
    rw [Handoff.push, ← List.append_assoc, producing.fifo]
  bounded limited := by
    rw [Handoff.push, List.length_append]
    exact room limited
  consumers := by
    rw [Handoff.push, List.length_append]
    exact producing.consumers.notify notifies
  producers := by
    rw [Handoff.push, List.length_append]
    exact producing.producers
  taking := (producing.taking.notify notifies).congr (takers_of_update rfl nofun)
  putting := producing.putting.congr (putters_of_update rfl nofun)

/-- A consumer that finds an element takes it and signals a producer, if there is a limit. -/
theorem Consuming.pop (consuming : h.Consuming limit thread) {element : α} {rest : List α}
    (first : h.queue = element :: rest) {notFull : Condition τ}
    (notifies : limit = 0 ∧ notFull = h.notFull ∨ h.notFull.Notifies notFull) :
    (h.pop thread element rest notFull).Sound limit where
  fifo := by
    rw [Handoff.pop, List.append_assoc, List.singleton_append, ← first]
    exact consuming.fifo
  bounded limited := by
    have fits := consuming.bounded limited
    rw [first, List.length_cons] at fits
    exact Nat.le_of_succ_le fits
  consumers := by
    have covers := consuming.consumers
    rw [first, List.length_cons, Nat.add_sub_cancel] at covers
    exact covers
  producers := by
    obtain ⟨rfl, rfl⟩ | notifies := notifies
    · rw [Nat.zero_sub]
      exact Condition.covers_zero _
    · refine (consuming.producers.notify notifies).mono ?_
      rw [first, List.length_cons]
      change limit - rest.length ≤ _
      omega
  taking := consuming.taking.congr (takers_of_update rfl nofun)
  putting := by
    obtain ⟨rfl, rfl⟩ | notifies := notifies
    · exact consuming.putting.congr (putters_of_update rfl nofun)
    · exact (consuming.putting.notify notifies).congr (putters_of_update rfl nofun)

/-- A thread leaves without an element when nobody waits. -/
theorem Serving.leave (serving : h.Serving limit thread elements places)
    (consumers : h.notEmpty.waiting = []) (producers : h.notFull.waiting = []) :
    (h.leave thread).Sound limit where
  fifo := serving.fifo
  bounded := serving.bounded
  consumers := Condition.covers_of_nobody consumers _
  producers := Condition.covers_of_nobody producers _
  taking := serving.taking.congr (takers_of_update rfl nofun)
  putting := serving.putting.congr (putters_of_update rfl nofun)

end Handoff
