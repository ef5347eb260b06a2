import Muduo.Base.BoundedBlockingQueue
import Muduo.Lib.Monitor

/-!
# Bounded blocking queue, statement by statement

The statements of `BoundedBlockingQueue` between `lock()` and `unlock()` are steps of their own
here, with `m_tid` of the mutex and with `UnassignGuard` in `wait()`. Between them other threads
call, wake up and ask for the mutex. Whenever the mutex is free, the queue is in a state that whole
critical sections lead to.
-/

open Function Outcome Transition

namespace Muduo

namespace BoundedBlockingQueue

variable {τ α : Type}

/-- `m_queue`, and what went in and out. -/
structure Contents (α : Type) where
  /-- The elements in the buffer. -/
  queue : List α
  /-- `m_queue.capacity()`. -/
  capacity : Nat
  /-- All elements that were put. -/
  given : List α
  /-- All elements that were taken. -/
  taken : List α

/-- `m_notEmpty` and `m_notFull`. -/
inductive Signal
  /-- `m_notEmpty`. -/
  | notEmpty
  /-- `m_notFull`. -/
  | notFull
  deriving DecidableEq

/-- The statements of `put()` and `take()`. -/
inductive Place (α : Type)
  /-- `while(m_queue.full())`. -/
  | whileFull (x : α)
  /-- `m_notFull.wait()`. -/
  | waitNotFull (x : α)
  /-- `assert(!m_queue.full())`. -/
  | assertNotFull (x : α)
  /-- `m_queue.push_back(x)`. -/
  | pushBack (x : α)
  /-- `m_notEmpty.notify()`. -/
  | notifyNotEmpty
  /-- `while(m_queue.empty())`. -/
  | whileEmpty
  /-- `m_notEmpty.wait()`. -/
  | waitNotEmpty
  /-- `assert(!m_queue.empty())`. -/
  | assertNotEmpty
  /-- `T front(std::move(m_queue.front()))`. -/
  | front
  /-- `m_queue.pop_front()`. -/
  | popFront (front : α)
  /-- `m_notFull.notify()`. -/
  | notifyNotFull
  /-- `empty()`, `full()`, `size()` and `capacity()` read the queue. -/
  | read
  /-- The end of the block. -/
  | done

/-- An empty buffer. -/
def Contents.new (maxSize : Nat) : Contents α := ⟨[], maxSize, [], []⟩

/-- `m_queue.full()`. -/
def Contents.full (c : Contents α) : Bool := decide (c.queue.length = c.capacity)

/-- The functions start here. -/
def Entry : Place α → Prop
  | .whileFull _ => True
  | .whileEmpty => True
  | .read => True
  | _ => False

/-- The statements. -/
def code : Place α → Statement Fault (Contents α) Signal (Place α)
  | .whileFull x => .act fun c => .ok (c, if c.full then .waitNotFull x else .assertNotFull x)
  | .waitNotFull x => .wait .notFull (.whileFull x)
  | .assertNotFull x => .act fun c => do
    ensure (!c.full) "!m_queue.full()"
    return (c, .pushBack x)
  | .pushBack x => .act fun c =>
    .ok ({ c with queue := circularPush c.capacity c.queue x, given := c.given ++ [x] },
      .notifyNotEmpty)
  | .notifyNotEmpty => .notify .notEmpty .done
  | .whileEmpty => .act fun c =>
    .ok (c, if c.queue.isEmpty then .waitNotEmpty else .assertNotEmpty)
  | .waitNotEmpty => .wait .notEmpty .whileEmpty
  | .assertNotEmpty => .act fun c => do
    ensure (!c.queue.isEmpty) "!m_queue.empty()"
    return (c, .front)
  | .front => .act fun c =>
    match c.queue with
    | [] => .error .outOfRange
    | front :: _ => .ok (c, .popFront front)
  | .popFront front => .act fun c =>
    match c.queue with
    | [] => .error .outOfRange
    | _ :: rest => .ok ({ c with queue := rest, taken := c.taken ++ [front] }, .notifyNotFull)
  | .notifyNotFull => .notify .notFull .done
  | .read => .act fun c => .ok (c, .done)
  | .done => .leave

/-- What is in the queue, and what went in and out. -/
def contents (q : BoundedBlockingQueue τ α) : Contents α :=
  ⟨q.queue, q.capacity, q.given, q.taken⟩

/-- The conditions by their names. -/
def conditions (q : BoundedBlockingQueue τ α) : Signal → Condition τ
  | .notEmpty => q.notEmpty
  | .notFull => q.notFull

/-- A condition changes. -/
def turn (q : BoundedBlockingQueue τ α) (signal : Signal) (changed : Condition τ) :
    BoundedBlockingQueue τ α :=
  match signal with
  | .notEmpty => { q with notEmpty := changed }
  | .notFull => { q with notFull := changed }

/-- What a thread in `wait()` does. -/
inductive Waits : Option (Signal × Place α) → Role α → Prop
  /-- It does not wait. -/
  | idle : Waits none .idle
  /-- It is in `put()`. -/
  | putting (x : α) : Waits (some (.notFull, .whileFull x)) (.putting x)
  /-- It is in `take()`. -/
  | taking : Waits (some (.notEmpty, .whileEmpty)) .taking

/-- The queue of the critical sections is what a thread would find. -/
structure Shows (q : BoundedBlockingQueue τ α) (s : Scene τ (Contents α) Signal (Place α)) :
    Prop where
  /-- The elements. -/
  data : s.data = q.contents
  /-- The conditions. -/
  conditions : s.conditions = q.conditions
  /-- The threads in `wait()`. -/
  waits : ∀ thread, Waits (s.parked thread) (q.threads thread)

/-- The queue of the critical sections is what a thread finds that has the mutex. -/
structure Beside (thread : τ) (q : BoundedBlockingQueue τ α)
    (s : Scene τ (Contents α) Signal (Place α)) : Prop where
  /-- The elements. -/
  data : s.data = q.contents
  /-- The conditions. -/
  conditions : s.conditions = q.conditions
  /-- The thread itself. -/
  awake : s.parked thread = none
  /-- The other threads in `wait()`. -/
  waits : ∀ other, other ≠ thread → Waits (s.parked other) (q.threads other)

variable {q : BoundedBlockingQueue τ α} {s : Scene τ (Contents α) Signal (Place α)}
  {maxSize : Nat} {thread other : τ} {x : α} {signal : Signal} {changed : Condition τ}

/-- The conditions after one of them changed. -/
theorem turn_conditions (q : BoundedBlockingQueue τ α) (signal : Signal) (changed : Condition τ) :
    (q.turn signal changed).conditions = update q.conditions signal changed := by
  funext other
  cases signal <;> cases other <;> simp [turn, conditions]

/-- A condition changes for those inside the sections as for those outside. -/
theorem Shows.turn (shows : q.Shows s) (signal : Signal) (changed : Condition τ) :
    (q.turn signal changed).Shows (s.turn signal changed) where
  data := by
    cases signal <;> exact shows.data
  conditions := by
    rw [turn_conditions, ← shows.conditions]
    rfl
  waits := by
    cases signal <;> exact shows.waits

/-- The same while a thread has the mutex. -/
theorem Beside.turn (beside : Beside thread q s) (signal : Signal) (changed : Condition τ) :
    Beside thread (q.turn signal changed) (s.turn signal changed) where
  data := by
    cases signal <;> exact beside.data
  conditions := by
    rw [turn_conditions, ← beside.conditions]
    rfl
  awake := beside.awake
  waits := by
    cases signal <;> exact beside.waits

/-- A thread that does not wait gets the mutex. -/
theorem Shows.beside (shows : q.Shows s) (awake : s.parked thread = none) : Beside thread q s :=
  ⟨shows.data, shows.conditions, awake, fun other _ => shows.waits other⟩

/-- A thread that does not wait has nothing to do with the queue. -/
theorem Shows.idle (shows : q.Shows s) (awake : s.parked thread = none) :
    q.threads thread = .idle := by
  have waits := shows.waits thread
  rw [awake] at waits
  generalize q.threads thread = role at waits
  cases waits
  rfl

/-- A thread that waits is in one of the two loops. -/
theorem Shows.parked (shows : q.Shows s) {next : Place α}
    (waits : s.parked thread = some (signal, next)) :
    (∃ x, signal = .notFull ∧ next = .whileFull x ∧ q.threads thread = .putting x) ∨
      signal = .notEmpty ∧ next = .whileEmpty ∧ q.threads thread = .taking := by
  have does := shows.waits thread
  rw [waits] at does
  generalize q.threads thread = role at does
  cases does with
  | putting x => exact .inl ⟨x, rfl, rfl, rfl⟩
  | taking => exact .inr ⟨rfl, rfl, rfl⟩

variable [DecidableEq τ]

/-- Whole critical sections lead here. -/
def Reachable (maxSize : Nat) (q : BoundedBlockingQueue τ α) : Prop :=
  ∃ actions, Run Step (new maxSize) actions q

/-- A thread has the mutex in `put()`. -/
inductive PutsNext (maxSize : Nat) (thread : τ) (x : α) : BoundedBlockingQueue τ α → Prop
  /-- It has called `put()`. -/
  | entered {q : BoundedBlockingQueue τ α} (reachable : Reachable maxSize q)
      (idle : q.threads thread = .idle) : PutsNext maxSize thread x q
  /-- It is back from `wait()`. -/
  | returned {q : BoundedBlockingQueue τ α} {notFull : Condition τ}
      (reachable : Reachable maxSize q) (putting : q.threads thread = .putting x)
      (returns : q.notFull.Returns thread notFull) : PutsNext maxSize thread x { q with notFull }

/-- A thread has the mutex in `take()`. -/
inductive TakesNext (maxSize : Nat) (thread : τ) : BoundedBlockingQueue τ α → Prop
  /-- It has called `take()`. -/
  | entered {q : BoundedBlockingQueue τ α} (reachable : Reachable maxSize q)
      (idle : q.threads thread = .idle) : TakesNext maxSize thread q
  /-- It is back from `wait()`. -/
  | returned {q : BoundedBlockingQueue τ α} {notEmpty : Condition τ}
      (reachable : Reachable maxSize q) (taking : q.threads thread = .taking)
      (returns : q.notEmpty.Returns thread notEmpty) :
      TakesNext maxSize thread { q with notEmpty }

/-- While the mutex is free. -/
def Free (maxSize : Nat) (s : Scene τ (Contents α) Signal (Place α)) : Prop :=
  ∃ q : BoundedBlockingQueue τ α, Reachable maxSize q ∧ q.Shows s

/-- A thread in `put()` has the mutex and finds contents of which something holds. -/
def Putting (maxSize : Nat) (thread : τ) (x : α) (holds : Contents α → Prop)
    (s : Scene τ (Contents α) Signal (Place α)) : Prop :=
  ∃ q, PutsNext maxSize thread x q ∧ Beside thread q s ∧ holds q.contents

/-- A thread in `take()` has the mutex and finds contents of which something holds. -/
def Taking (maxSize : Nat) (thread : τ) (holds : Contents α → Prop)
    (s : Scene τ (Contents α) Signal (Place α)) : Prop :=
  ∃ q, TakesNext maxSize thread q ∧ Beside thread q s ∧ holds q.contents

/-- What a thread finds at the places of the code. -/
def Relies (maxSize : Nat) (thread : τ) (place : Place α)
    (s : Scene τ (Contents α) Signal (Place α)) : Prop :=
  match place with
  | .whileFull x => Putting maxSize thread x (fun _ => True) s
  | .waitNotFull x => Putting maxSize thread x (fun c => c.full = true) s
  | .assertNotFull x => Putting maxSize thread x (fun c => c.full = false) s
  | .pushBack x => Putting maxSize thread x (fun c => c.full = false) s
  | .notifyNotEmpty => ∃ q x, PutsNext maxSize thread x q ∧ q.full = false ∧
    Beside thread { q with queue := circularPush q.capacity q.queue x, given := q.given ++ [x] } s
  | .whileEmpty => Taking maxSize thread (fun _ => True) s
  | .waitNotEmpty => Taking maxSize thread (fun c => c.queue = []) s
  | .assertNotEmpty => Taking maxSize thread (fun c => c.queue ≠ []) s
  | .front => Taking maxSize thread (fun c => c.queue ≠ []) s
  | .popFront front => Taking maxSize thread (fun c => ∃ rest, c.queue = front :: rest) s
  | .notifyNotFull => ∃ q front rest, TakesNext maxSize thread q ∧ q.queue = front :: rest ∧
    Beside thread { q with queue := rest, taken := q.taken ++ [front] } s
  | .read => Free maxSize s
  | .done => Free maxSize s

/-- A thread that waited gets the mutex. -/
theorem Shows.unpark (shows : q.Shows s) (signal : Signal) (changed : Condition τ) :
    Beside thread (q.turn signal changed) (s.unpark thread signal changed) where
  data := (shows.turn signal changed).data
  conditions := (shows.turn signal changed).conditions
  awake := by
    simp only [Scene.unpark, update_self]
  waits other different := by
    simp only [Scene.unpark, update_of_ne different]
    exact (shows.turn signal changed).waits other

/-- A thread that has the mutex waits in `put()`. -/
theorem Beside.parkPut (beside : Beside thread q s) :
    Shows { q with toHandoff := q.blockPut thread x } (s.park thread .notFull (.whileFull x)) where
  data := beside.data
  conditions := by
    have waits : s.conditions .notFull = q.notFull := congrFun beside.conditions .notFull
    simp only [Scene.park, Scene.turn, waits, beside.conditions]
    exact (turn_conditions q .notFull (q.notFull.wait thread)).symm
  waits other := by
    by_cases same : other = thread
    · subst same
      simp only [Scene.park, Handoff.blockPut, update_self]
      exact .putting x
    · simp only [Scene.park, Handoff.blockPut, update_of_ne same]
      exact beside.waits other same

/-- A thread that has the mutex waits in `take()`. -/
theorem Beside.parkTake (beside : Beside thread q s) :
    Shows { q with toHandoff := q.blockTake thread } (s.park thread .notEmpty .whileEmpty) where
  data := beside.data
  conditions := by
    have waits : s.conditions .notEmpty = q.notEmpty := congrFun beside.conditions .notEmpty
    simp only [Scene.park, Scene.turn, waits, beside.conditions]
    exact (turn_conditions q .notEmpty (q.notEmpty.wait thread)).symm
  waits other := by
    by_cases same : other = thread
    · subst same
      simp only [Scene.park, Handoff.blockTake, update_self]
      exact .taking
    · simp only [Scene.park, Handoff.blockTake, update_of_ne same]
      exact beside.waits other same

/-- A thread that has the mutex is done. -/
theorem Beside.release (beside : Beside thread q s) :
    Shows { q with threads := update q.threads thread .idle } s where
  data := beside.data
  conditions := beside.conditions
  waits other := by
    by_cases same : other = thread
    · subst same
      rw [beside.awake]
      simp only [update_self]
      exact .idle
    · simp only [update_of_ne same]
      exact beside.waits other same

/-- One critical section more. -/
theorem Reachable.step {after : BoundedBlockingQueue τ α} {action : QueueAction τ α}
    (reachable : Reachable maxSize q) (step : Step q action after) : Reachable maxSize after := by
  obtain ⟨actions, run⟩ := reachable
  exact ⟨actions ++ [action], run.append (.cons step (.nil after))⟩

/-- A thread wakes up by itself. -/
theorem Reachable.wakes (reachable : Reachable maxSize q)
    (wakes : (q.conditions signal).Wakes other changed) :
    Reachable maxSize (q.turn signal changed) := by
  cases signal with
  | notEmpty => exact reachable.step (.of_attempt (.wakeTake wakes) rfl)
  | notFull => exact reachable.step (.of_attempt (.wakePut wakes) rfl)

/-- A thread wakes up while another one is in `put()`. -/
theorem PutsNext.wakes (puts : PutsNext maxSize thread x q)
    (wakes : (q.conditions signal).Wakes other changed) :
    PutsNext maxSize thread x (q.turn signal changed) := by
  cases puts with
  | entered reachable idle =>
    refine .entered (reachable.wakes wakes) ?_
    cases signal <;> exact idle
  | @returned q notFull reachable putting returns =>
    cases signal with
    | notEmpty =>
      have first := reachable.step (.of_attempt (.wakeTake wakes) rfl)
      exact PutsNext.returned first putting returns
    | notFull =>
      obtain ⟨middle, sooner, later⟩ := returns.wakes wakes
      have first := reachable.step (.of_attempt (.wakePut sooner) rfl)
      exact PutsNext.returned (q := { q with notFull := middle }) first putting later

/-- A thread wakes up while another one is in `take()`. -/
theorem TakesNext.wakes (takes : TakesNext maxSize thread q)
    (wakes : (q.conditions signal).Wakes other changed) :
    TakesNext maxSize thread (q.turn signal changed) := by
  cases takes with
  | entered reachable idle =>
    refine .entered (reachable.wakes wakes) ?_
    cases signal <;> exact idle
  | @returned q notEmpty reachable taking returns =>
    cases signal with
    | notEmpty =>
      obtain ⟨middle, sooner, later⟩ := returns.wakes wakes
      have first := reachable.step (.of_attempt (.wakeTake sooner) rfl)
      exact TakesNext.returned (q := { q with notEmpty := middle }) first taking later
    | notFull =>
      have first := reachable.step (.of_attempt (.wakePut wakes) rfl)
      exact TakesNext.returned first taking returns

/-- The rest of `put()` as a critical section. -/
theorem PutsNext.put (puts : PutsNext maxSize thread x q) {notified : Condition τ}
    {after : BoundedBlockingQueue τ α} (notifies : q.notEmpty.Notifies notified)
    (done : q.put thread x notified = .ok after) : Reachable maxSize after := by
  cases puts with
  | entered reachable idle => exact reachable.step (.of_attempt (.put idle notifies) done)
  | returned reachable putting returns =>
    exact reachable.step (.of_attempt (.resumePut putting returns notifies) done)

/-- The rest of `take()` as a critical section. -/
theorem TakesNext.take (takes : TakesNext maxSize thread q) {notified : Condition τ}
    {after : BoundedBlockingQueue τ α} (notifies : q.notFull.Notifies notified)
    (done : q.take thread notified = .ok after) : Reachable maxSize after := by
  cases takes with
  | entered reachable idle => exact reachable.step (.of_attempt (.take idle notifies) done)
  | returned reachable taking returns =>
    exact reachable.step (.of_attempt (.resumeTake taking returns notifies) done)

/-- `put()` finds no room and waits. -/
theorem PutsNext.blocks (puts : PutsNext maxSize thread x q) (full : q.full = true) :
    Reachable maxSize { q with toHandoff := q.blockPut thread x } := by
  obtain ⟨notified, notifies⟩ := q.notEmpty.exists_notifies
  apply puts.put notifies
  simp [BoundedBlockingQueue.put, full]

/-- `put()` finds room. -/
theorem PutsNext.pushes (puts : PutsNext maxSize thread x q) (room : q.full = false)
    {notified : Condition τ} (notifies : q.notEmpty.Notifies notified) :
    Reachable maxSize { q with toHandoff :=
      { q.push thread x notified with queue := circularPush q.capacity q.queue x } } := by
  apply puts.put notifies
  simp [BoundedBlockingQueue.put, room]

/-- `take()` finds nothing and waits. -/
theorem TakesNext.blocks (takes : TakesNext maxSize thread q) (empty : q.queue = []) :
    Reachable maxSize { q with toHandoff := q.blockTake thread } := by
  obtain ⟨notified, notifies⟩ := q.notFull.exists_notifies
  apply takes.take notifies
  simp [BoundedBlockingQueue.take, empty]

/-- `take()` finds an element. -/
theorem TakesNext.pops (takes : TakesNext maxSize thread q) {front : α} {rest : List α}
    (first : q.queue = front :: rest) {notified : Condition τ}
    (notifies : q.notFull.Notifies notified) :
    Reachable maxSize { q with toHandoff := q.pop thread front rest notified } := by
  apply takes.take notifies
  simp [BoundedBlockingQueue.take, first]

/-- Threads that wake up leave a free queue as it is. -/
theorem Free.wakes (free : Free maxSize s)
    (wakes : (s.conditions signal).Wakes other changed) :
    Free maxSize (s.turn signal changed) := by
  obtain ⟨q, reachable, shows⟩ := free
  rw [shows.conditions] at wakes
  exact ⟨q.turn signal changed, reachable.wakes wakes, shows.turn signal changed⟩

/-- Threads that wake up leave what a thread in `put()` finds. -/
theorem Putting.wakes {holds : Contents α → Prop} (puts : Putting maxSize thread x holds s)
    (wakes : (s.conditions signal).Wakes other changed) :
    Putting maxSize thread x holds (s.turn signal changed) := by
  obtain ⟨q, next, beside, some⟩ := puts
  rw [beside.conditions] at wakes
  refine ⟨q.turn signal changed, next.wakes wakes, beside.turn signal changed, ?_⟩
  cases signal <;> exact some

/-- Threads that wake up leave what a thread in `take()` finds. -/
theorem Taking.wakes {holds : Contents α → Prop} (takes : Taking maxSize thread holds s)
    (wakes : (s.conditions signal).Wakes other changed) :
    Taking maxSize thread holds (s.turn signal changed) := by
  obtain ⟨q, next, beside, some⟩ := takes
  rw [beside.conditions] at wakes
  refine ⟨q.turn signal changed, next.wakes wakes, beside.turn signal changed, ?_⟩
  cases signal <;> exact some

/-- The statements of the queue carry out its critical sections. -/
theorem outline (maxSize : Nat) :
    Monitor.Outline (code : Place α → Statement Fault (Contents α) Signal (Place α)) Entry
      (Free maxSize) (Relies (τ := τ) maxSize) where
  enter := by
    intro s thread place free awake begins
    obtain ⟨q, reachable, shows⟩ := free
    have idle : q.threads thread = .idle := shows.idle awake
    cases place with
    | whileFull x => exact ⟨q, .entered reachable idle, shows.beside awake, trivial⟩
    | whileEmpty => exact ⟨q, .entered reachable idle, shows.beside awake, trivial⟩
    | read => exact ⟨q, reachable, shows⟩
    | _ => exact absurd begins id
  resume := by
    intro s thread next signal changed free waits returns
    obtain ⟨q, reachable, shows⟩ := free
    rw [shows.conditions] at returns
    obtain ⟨x, rfl, rfl, putting⟩ | ⟨rfl, rfl, taking⟩ := shows.parked waits
    · exact ⟨_, .returned reachable putting returns, shows.unpark .notFull changed, trivial⟩
    · exact ⟨_, .returned reachable taking returns, shows.unpark .notEmpty changed, trivial⟩
  act := by
    intro s thread place change relies statement
    cases place with
    | whileFull x =>
      cases statement
      obtain ⟨q, puts, beside, -⟩ := relies
      refine ⟨_, _, rfl, ?_⟩
      have same : s.data.full = q.contents.full := by rw [beside.data]
      rw [same]
      cases full : q.contents.full with
      | true => exact ⟨q, puts, beside, full⟩
      | false => exact ⟨q, puts, beside, full⟩
    | assertNotFull x =>
      cases statement
      obtain ⟨q, puts, beside, room⟩ := relies
      refine ⟨s.data, .pushBack x, ?_, q, puts, beside, room⟩
      simp [beside.data, room]
    | pushBack x =>
      cases statement
      obtain ⟨q, puts, beside, room⟩ := relies
      refine ⟨_, _, rfl, q, x, puts, room, ?_, beside.conditions, beside.awake, beside.waits⟩
      simp [beside.data, contents]
    | whileEmpty =>
      cases statement
      obtain ⟨q, takes, beside, -⟩ := relies
      refine ⟨_, _, rfl, ?_⟩
      have same : s.data.queue = q.contents.queue := by rw [beside.data]
      rw [same]
      cases elements : q.contents.queue with
      | nil => exact ⟨q, takes, beside, elements⟩
      | cons front rest => exact ⟨q, takes, beside, by simp [elements]⟩
    | assertNotEmpty =>
      cases statement
      obtain ⟨q, takes, beside, some⟩ := relies
      have more : q.contents.queue.isEmpty = false := List.isEmpty_eq_false_iff.mpr some
      refine ⟨s.data, .front, ?_, q, takes, beside, some⟩
      simp [beside.data, more]
    | front =>
      cases statement
      obtain ⟨q, takes, beside, some⟩ := relies
      obtain ⟨front, rest, first⟩ := List.exists_cons_of_ne_nil some
      refine ⟨s.data, .popFront front, ?_, q, takes, beside, rest, first⟩
      simp [beside.data, first]
    | popFront front =>
      cases statement
      obtain ⟨q, takes, beside, rest, first⟩ := relies
      refine ⟨{ s.data with queue := rest, taken := s.data.taken ++ [front] }, .notifyNotFull, ?_,
        q, front, rest, takes, first, ?_, beside.conditions, beside.awake, beside.waits⟩
      · simp [beside.data, first]
      · simp [beside.data, contents]
    | read =>
      cases statement
      exact ⟨_, _, rfl, relies⟩
    | _ => cases statement
  notify := by
    intro s thread place next signal changed relies statement notifies
    cases place with
    | notifyNotEmpty =>
      cases statement
      obtain ⟨q, x, puts, room, beside⟩ := relies
      rw [beside.conditions] at notifies
      exact ⟨_, puts.pushes room notifies, (beside.turn .notEmpty changed).release⟩
    | notifyNotFull =>
      cases statement
      obtain ⟨q, front, rest, takes, first, beside⟩ := relies
      rw [beside.conditions] at notifies
      exact ⟨_, takes.pops first notifies, (beside.turn .notFull changed).release⟩
    | _ => cases statement
  notifyAll := by
    intro s thread place next signal relies statement
    cases place <;> cases statement
  wait := by
    intro s thread place next signal relies statement
    cases place with
    | waitNotFull x =>
      cases statement
      obtain ⟨q, puts, beside, full⟩ := relies
      exact ⟨_, puts.blocks full, beside.parkPut⟩
    | waitNotEmpty =>
      cases statement
      obtain ⟨q, takes, beside, empty⟩ := relies
      exact ⟨_, takes.blocks empty, beside.parkTake⟩
    | _ => cases statement
  leave := by
    intro s thread place relies statement
    cases place with
    | done => exact relies
    | _ => cases statement
  wakes := Free.wakes
  disturbed := by
    intro s thread other place signal changed relies wakes
    cases place <;> dsimp only [Relies] at relies ⊢
    case notifyNotEmpty =>
      obtain ⟨q, x, puts, room, beside⟩ := relies
      rw [beside.conditions] at wakes
      refine ⟨q.turn signal changed, x, puts.wakes wakes, ?_, ?_⟩
      · cases signal <;> exact room
      · have turned := beside.turn signal changed
        cases signal <;> exact turned
    case notifyNotFull =>
      obtain ⟨q, front, rest, takes, first, beside⟩ := relies
      rw [beside.conditions] at wakes
      refine ⟨q.turn signal changed, front, rest, takes.wakes wakes, ?_, ?_⟩
      · cases signal <;> exact first
      · have turned := beside.turn signal changed
        cases signal <;> exact turned
    all_goals exact relies.wakes wakes

/-- Every schedule of the single statements: whenever the mutex is free, the queue and the threads
in `wait()` are what some run of whole critical sections leads to; no assertion of the code fails;
`isLockedByThisThread()` is true in exactly the thread that executes a statement of a section, and
there is one such thread at most; and the thread that has the mutex can always go on. -/
theorem statements_refine_sections (maxSize : Nat) (schedule : List τ)
    (m : Monitor τ (Contents α) Signal (Place α))
    (run : Run (Monitor.Step code Entry) (.new (.new maxSize)) schedule m) :
    (m.holder = none → ∃ actions q, Run Step (new maxSize) actions q ∧ q.Shows m.scene) ∧
      (∀ thread result, Monitor.Attempt code Entry m thread result →
        ∃ after, result = .ok after) ∧
      (∀ thread, m.owner = some thread ↔ ∃ place, m.phases thread = .inside place) ∧
      ∀ thread, m.holder = some thread → ∃ after, Monitor.Step code Entry m thread after := by
  have begins : Free maxSize (Monitor.new (.new maxSize) : Monitor τ (Contents α) _ _).scene := by
    refine ⟨new maxSize, ⟨[], .nil _⟩, rfl, ?_, fun thread => .idle⟩
    funext signal
    cases signal <;> rfl
  have kept := (outline maxSize).run begins run
  refine ⟨?_, ?_, kept.owner, fun thread => (outline maxSize).goes_on kept⟩
  · intro free
    obtain ⟨q, ⟨actions, sections⟩, shows⟩ := kept.free free
    exact ⟨actions, q, sections, shows⟩
  · intro thread result attempt
    obtain ⟨after, done, -⟩ := (outline maxSize).attempt kept attempt
    exact ⟨after, done⟩

/-- A consumer waits, and a producer has put an element and signalled it. -/
theorem statements_refine_sections_signalled :
    ∃ m : Monitor Nat (Contents Nat) Signal (Place Nat),
      Run (Monitor.Step code Entry) (.new (.new 1))
          [0, 0, 0, 0, 0, 0, 1, 1, 1, 1, 1, 1, 1, 1, 1] m ∧
        (m.conditions .notEmpty).signalled = [0] ∧ ∃ actions,
          ∃ q : BoundedBlockingQueue Nat Nat, Run Step (new 1) actions q ∧ q.queue = [10] := by
  have reached : ∃ m : Monitor Nat (Contents Nat) Signal (Place Nat),
      Run (Monitor.Step code Entry) (.new (.new 1))
          [0, 0, 0, 0, 0, 0, 1, 1, 1, 1, 1, 1, 1, 1, 1] m ∧
        (m.conditions .notEmpty).signalled = [0] ∧ m.holder = none ∧ m.data.queue = [10] := by
    refine ⟨_,
      .cons (.call Place.whileEmpty rfl trivial) <|
      .cons (.lock rfl rfl) <| .cons (.assign rfl) <|
      .cons (.of_attempt (.act rfl rfl) rfl) <|
      .cons (.unassign rfl (.inr ⟨_, _, rfl⟩)) <| .cons (.sleep rfl rfl) <|
      .cons (.call (Place.whileFull 10) rfl trivial) <|
      .cons (.lock rfl rfl) <| .cons (.assign rfl) <|
      .cons (.of_attempt (.act rfl rfl) rfl) <|
      .cons (.of_attempt (.act rfl rfl) rfl) <|
      .cons (.of_attempt (.act rfl rfl) rfl) <|
      .cons (.notify rfl rfl (@Condition.Notifies.somebody _ _ [] [] 0 rfl)) <|
      .cons (.unassign rfl (.inl rfl)) <| .cons (.unlock rfl rfl) <| .nil _, rfl, rfl, rfl⟩
  obtain ⟨m, run, signalled, free, queue⟩ := reached
  obtain ⟨actions, q, sections, shows⟩ := (statements_refine_sections 1 _ m run).1 free
  refine ⟨m, run, signalled, actions, q, sections, ?_⟩
  rw [← queue, show m.data.queue = m.scene.data.queue from rfl, shows.data]
  rfl

end BoundedBlockingQueue

end Muduo
