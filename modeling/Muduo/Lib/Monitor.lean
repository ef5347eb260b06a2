import Muduo.Lib.Condition
import Muduo.Lib.Run

/-!
# Monitors, statement by statement

The threads of a monitor execute sections of code under one mutex and wait on its conditions. Every
statement is a step of its own, and between two steps of one thread all the others may go on. The
mutex remembers the thread that has it: a thread is remembered after it got the mutex and forgotten
before it gives the mutex away, also by `wait`.

An outline says what holds in a scene of which nobody is a part, and at which place of the code a
thread may rely on what. The rule for outlines is that nothing else has to be known about the other
threads than that they may wake up and may call.
-/

open Function Transition

/-- A statement of a section. -/
inductive Statement (ε σ κ π : Type)
  /-- The data is read and changed, which says what comes next, or an assertion fails. -/
  | act (change : σ → Except ε (σ × π))
  /-- The thread waits on a condition. -/
  | wait (condition : κ) (next : π)
  /-- One thread of a condition is signalled. -/
  | notify (condition : κ) (next : π)
  /-- All threads of a condition are signalled. -/
  | notifyAll (condition : κ) (next : π)
  /-- The section ends. -/
  | leave

/-- Where a thread is. -/
inductive Phase (κ π : Type)
  /-- It is in no section. -/
  | outside
  /-- It asks for the mutex. -/
  | entering (place : π)
  /-- It has got the mutex and is not remembered yet. -/
  | admitted (place : π)
  /-- It is remembered and comes to a statement. -/
  | inside (place : π)
  /-- It is forgotten, in a statement that gives the mutex away. -/
  | forgotten (place : π)
  /-- It is in `wait`. -/
  | parked (condition : κ) (next : π)
  deriving DecidableEq

namespace Phase

variable {κ π : Type}

/-- The place of a thread that has the mutex. -/
def held : Phase κ π → Option π
  | .admitted place => some place
  | .inside place => some place
  | .forgotten place => some place
  | _ => none

/-- The thread that the mutex remembers, of those that have or had it. -/
def remembers {τ : Type} (thread : τ) : Phase κ π → Option τ
  | .inside _ => some thread
  | _ => none

/-- A thread is called at an entry and forgotten in a statement that gives the mutex away. -/
def Fits {ε σ : Type} (code : π → Statement ε σ κ π) (entry : π → Prop) : Phase κ π → Prop
  | .entering place => entry place
  | .forgotten place =>
    code place = .leave ∨ ∃ condition next, code place = .wait condition next
  | _ => True

/-- Where a thread waits, and where it goes on. -/
def waits : Phase κ π → Option (κ × π)
  | .parked condition next => some (condition, next)
  | _ => none

end Phase

/-- What threads find when they get the mutex. -/
structure Scene (τ σ κ π : Type) where
  /-- The data. -/
  data : σ
  /-- The conditions. -/
  conditions : κ → Condition τ
  /-- Where the threads wait. -/
  parked : τ → Option (κ × π)

/-- The data, the conditions, the mutex and the threads. -/
structure Monitor (τ σ κ π : Type) where
  /-- The data. -/
  data : σ
  /-- The conditions. -/
  conditions : κ → Condition τ
  /-- The thread that has the mutex. -/
  holder : Option τ
  /-- The thread that the mutex remembers. -/
  owner : Option τ
  /-- Where the threads are. -/
  phases : τ → Phase κ π

section

variable {τ ε σ κ π : Type}

namespace Scene

/-- All threads in `wait` wait on one condition, and go on at the head of one loop. -/
structure Loops (condition : κ) (next : π) (s : Scene τ σ κ π) : Prop where
  /-- The threads inside the condition. -/
  inside : (s.conditions condition).Has { thread | s.parked thread ≠ none }
  /-- Where they go on. -/
  parked : ∀ thread, s.parked thread ≠ none → s.parked thread = some (condition, next)

variable {s : Scene τ σ κ π} {condition : κ} {next : π} {thread : τ} {changed : Condition τ}

/-- The data does not matter. -/
theorem Loops.act (loops : s.Loops condition next) (data : σ) :
    Loops condition next { s with data } :=
  ⟨loops.inside, loops.parked⟩

/-- The condition of a thread that is in `wait`. -/
theorem Loops.condition_eq (loops : s.Loops condition next) {other : κ} {there : π}
    (waits : s.parked thread = some (other, there)) : other = condition ∧ there = next := by
  have same := loops.parked thread (by simp [waits])
  simpa [waits] using same

variable [DecidableEq κ]

/-- A condition changes. -/
def turn (s : Scene τ σ κ π) (condition : κ) (changed : Condition τ) : Scene τ σ κ π :=
  { s with conditions := update s.conditions condition changed }

/-- A thread waits. -/
def park [DecidableEq τ] (s : Scene τ σ κ π) (thread : τ) (condition : κ) (next : π) :
    Scene τ σ κ π :=
  { s.turn condition ((s.conditions condition).wait thread) with
    parked := update s.parked thread (some (condition, next)) }

/-- A thread is back from `wait`. -/
def unpark [DecidableEq τ] (s : Scene τ σ κ π) (thread : τ) (condition : κ)
    (changed : Condition τ) : Scene τ σ κ π :=
  { s.turn condition changed with parked := update s.parked thread none }

/-- A change of the condition that leaves the threads inside. -/
theorem Loops.turn (loops : s.Loops condition next)
    (inside : changed.Has { thread | s.parked thread ≠ none }) :
    (s.turn condition changed).Loops condition next := by
  refine ⟨?_, loops.parked⟩
  simp only [Scene.turn, update_self]
  exact inside

variable [DecidableEq τ]

/-- A thread begins to wait. -/
theorem Loops.park (loops : s.Loops condition next) (awake : s.parked thread = none) :
    (s.park thread condition next).Loops condition next := by
  have inside : insert thread { one | s.parked one ≠ none } =
      { one | (s.park thread condition next).parked one ≠ none } := by
    ext one
    by_cases same : one = thread <;> simp [Scene.park, same]
  constructor
  · simp only [Scene.park, Scene.turn, update_self]
    exact (loops.inside.wait (fun waits => waits awake)).congr inside
  · intro one waits
    by_cases same : one = thread
    · simp [Scene.park, same]
    · simp only [Scene.park, update_of_ne same] at waits ⊢
      exact loops.parked one waits

/-- A thread is back from `wait`. -/
theorem Loops.unpark (loops : s.Loops condition next)
    (returns : (s.conditions condition).Returns thread changed) :
    (s.unpark thread condition changed).Loops condition next := by
  have inside : { one | s.parked one ≠ none } \ {thread} =
      { one | (s.unpark thread condition changed).parked one ≠ none } := by
    ext one
    by_cases same : one = thread <;> simp [Scene.unpark, same]
  constructor
  · simp only [Scene.unpark, Scene.turn, update_self]
    exact (loops.inside.returns returns).2.congr inside
  · intro one waits
    by_cases same : one = thread
    · simp [Scene.unpark, same] at waits
    · simp only [Scene.unpark, update_of_ne same] at waits ⊢
      exact loops.parked one waits

end Scene

namespace Monitor

variable {m after : Monitor τ σ κ π} {thread : τ}

/-- All threads are outside. -/
def new (data : σ) : Monitor τ σ κ π := ⟨data, fun _ => .new, none, none, fun _ => .outside⟩

/-- What a thread would find. -/
def scene (m : Monitor τ σ κ π) : Scene τ σ κ π :=
  ⟨m.data, m.conditions, Phase.waits ∘ m.phases⟩

/-- At most one thread has the mutex, it is remembered while it executes its statements, and what
the outline says holds. -/
structure Kept (code : π → Statement ε σ κ π) (entry : π → Prop) (inv : Scene τ σ κ π → Prop)
    (relies : τ → π → Scene τ σ κ π → Prop) (m : Monitor τ σ κ π) : Prop where
  /-- Only one thread has a place. -/
  exclusive : ∀ thread, (m.phases thread).held ≠ none → m.holder = some thread
  /-- The invariant holds while the mutex is free. -/
  free : m.holder = none → inv m.scene
  /-- The thread that has the mutex can rely on the outline. -/
  here : ∀ thread, m.holder = some thread →
    ∃ place, (m.phases thread).held = some place ∧ relies thread place m.scene
  /-- The thread that is remembered comes to a statement. -/
  owner : ∀ thread, m.owner = some thread ↔ ∃ place, m.phases thread = .inside place
  /-- The threads are where they can be. -/
  fits : ∀ thread, (m.phases thread).Fits code entry

variable {code : π → Statement ε σ κ π} {entry : π → Prop} {inv : Scene τ σ κ π → Prop}
  {relies : τ → π → Scene τ σ κ π → Prop} {phase : Phase κ π}

/-- At the beginning nobody has the mutex. -/
theorem new_kept {data : σ} (begins : inv (new data : Monitor τ σ κ π).scene) :
    (new data : Monitor τ σ κ π).Kept code entry inv relies where
  exclusive thread some := absurd rfl some
  free _ := begins
  here thread none := by simp [new] at none
  owner thread := by simp [new]
  fits _ := trivial

/-- At the beginning nobody waits. -/
theorem new_loops (data : σ) (condition : κ) (next : π) :
    (new data : Monitor τ σ κ π).scene.Loops condition next where
  inside := by
    apply Condition.new_has.congr
    ext thread
    simp [scene, new, Phase.waits]
  parked thread some := by simp [scene, new, Phase.waits] at some

/-- Nobody else has a place while a thread has the mutex. -/
theorem Kept.others (kept : m.Kept code entry inv relies) (mine : m.holder = some thread)
    {other : τ} (different : other ≠ thread) : (m.phases other).held = none := by
  by_contra some
  have both := (kept.exclusive other some).symm.trans mine
  exact different (Option.some.inj both)

/-- Nobody has a place while the mutex is free. -/
theorem Kept.nobody (kept : m.Kept code entry inv relies) (free : m.holder = none) (other : τ) :
    (m.phases other).held = none := by
  by_contra some
  have held := kept.exclusive other some
  simp [free] at held

/-- A thread at a place has the mutex. -/
theorem Kept.mine (kept : m.Kept code entry inv relies) {place : π}
    (held : (m.phases thread).held = some place) : m.holder = some thread := by
  apply kept.exclusive
  simp [held]

/-- A thread at a place can rely on the outline there. -/
theorem Kept.reliance (kept : m.Kept code entry inv relies) {place : π}
    (held : (m.phases thread).held = some place) : relies thread place m.scene := by
  obtain ⟨other, same, holds⟩ := kept.here thread (kept.mine held)
  rw [held, Option.some.injEq] at same
  rw [same]
  exact holds

/-- The mutex remembers nobody else than a thread that has it. -/
theorem Kept.owner_eq (kept : m.Kept code entry inv relies) {other : τ}
    (owner : m.owner = some other) : m.holder = some other := by
  obtain ⟨place, inside⟩ := (kept.owner other).mp owner
  apply kept.mine
  rw [inside]
  rfl

/-- The mutex remembers nobody while it is free. -/
theorem Kept.unowned (kept : m.Kept code entry inv relies) (free : m.holder = none) :
    m.owner = none := by
  by_contra owned
  obtain ⟨other, owner⟩ := Option.ne_none_iff_exists'.mp owned
  have held := kept.owner_eq owner
  simp [free] at held

/-- The mutex remembers nobody while the thread that has it is forgotten. -/
theorem Kept.forgets (kept : m.Kept code entry inv relies) {place : π}
    (forgotten : m.phases thread = .forgotten place) : m.owner = none := by
  by_contra owned
  obtain ⟨other, owner⟩ := Option.ne_none_iff_exists'.mp owned
  have mine : m.holder = some thread := kept.mine (by rw [forgotten]; rfl)
  rw [kept.owner_eq owner, Option.some.injEq] at mine
  subst mine
  obtain ⟨there, inside⟩ := (kept.owner other).mp owner
  simp [forgotten] at inside

variable [DecidableEq τ]

/-- A thread goes on. -/
def goto (m : Monitor τ σ κ π) (thread : τ) (phase : Phase κ π) : Monitor τ σ κ π :=
  { m with phases := update m.phases thread phase }

/-- A thread that waits as before changes nothing for the others. -/
theorem goto_scene (same : phase.waits = (m.phases thread).waits) :
    (m.goto thread phase).scene = m.scene := by
  simp only [scene, goto, comp_update, same]
  congr 1
  exact update_eq_self thread (Phase.waits ∘ m.phases)

/-- A thread that has the mutex, or gets it, goes on. -/
theorem kept_of_goto (phases : after.phases = update m.phases thread phase)
    (others : ∀ other, other ≠ thread → (m.phases other).held = none)
    (before : ∀ other, (m.phases other).Fits code entry) (fits : phase.Fits code entry)
    (holder : after.holder = if phase.held.isSome then some thread else none)
    (owner : after.owner = phase.remembers thread)
    (here : ∀ place, phase.held = some place → relies thread place after.scene)
    (free : phase.held = none → inv after.scene) : after.Kept code entry inv relies where
  exclusive other some := by
    by_cases same : other = thread
    · subst same
      rw [phases, update_self] at some
      rw [holder, if_pos (Option.isSome_iff_ne_none.mpr some)]
    · rw [phases, update_of_ne same] at some
      exact absurd (others other same) some
  free none := by
    apply free
    by_contra some
    rw [holder, if_pos (Option.isSome_iff_ne_none.mpr some)] at none
    simp at none
  here other has := by
    have some : phase.held.isSome = true := by
      by_contra none
      simp [holder, none] at has
    rw [holder, if_pos some, Option.some.injEq] at has
    subst has
    obtain ⟨place, held⟩ := Option.isSome_iff_exists.mp some
    refine ⟨place, ?_, here place held⟩
    rw [phases, update_self, held]
  owner other := by
    rw [owner, phases]
    by_cases same : other = thread
    · subst same
      rw [update_self]
      cases phase <;> simp [Phase.remembers]
    · rw [update_of_ne same]
      have none := others other same
      constructor
      · intro remembered
        cases phase with
        | inside => exact absurd (Option.some.inj remembered).symm same
        | _ => simp [Phase.remembers] at remembered
      · rintro ⟨place, inside⟩
        simp [inside, Phase.held] at none
  fits other := by
    rw [phases]
    by_cases same : other = thread
    · subst same
      rw [update_self]
      exact fits
    · rw [update_of_ne same]
      exact before other

/-- A thread that has no place and gets none changes nothing. -/
theorem Kept.call (kept : m.Kept code entry inv relies) {place : π}
    (outside : m.phases thread = .outside) (begins : entry place) :
    (m.goto thread (.entering place)).Kept code entry inv relies := by
  have same : (m.goto thread (.entering place)).scene = m.scene :=
    goto_scene (by rw [outside]; rfl)
  have held (other : τ) :
      ((m.goto thread (.entering place)).phases other).held = (m.phases other).held := by
    by_cases mover : other = thread
    · subst mover
      simp [goto, outside, Phase.held]
    · simp [goto, mover]
  constructor
  · intro other some
    rw [held] at some
    exact kept.exclusive other some
  · intro free
    rw [same]
    exact kept.free free
  · intro other has
    rw [held, same]
    exact kept.here other has
  · intro other
    show m.owner = some other ↔ _
    rw [kept.owner]
    by_cases mover : other = thread
    · subst mover
      simp [goto, outside]
    · simp [goto, mover]
  · intro other
    by_cases mover : other = thread
    · subst mover
      simpa [goto, Phase.Fits] using begins
    · simp only [goto, update_of_ne mover]
      exact kept.fits other

variable [DecidableEq κ]

/-- A condition changes. -/
def turn (m : Monitor τ σ κ π) (condition : κ) (changed : Condition τ) : Monitor τ σ κ π :=
  { m with conditions := update m.conditions condition changed }

/-- How the next step of a thread ends. -/
inductive Attempt (code : π → Statement ε σ κ π) (entry : π → Prop) (m : Monitor τ σ κ π)
    (thread : τ) : Except ε (Monitor τ σ κ π) → Prop
  /-- The thread calls a function. -/
  | call {place : π} (outside : m.phases thread = .outside) (begins : entry place) :
      Attempt code entry m thread (.ok (m.goto thread (.entering place)))
  /-- The thread gets the mutex. -/
  | lock {place : π} (entering : m.phases thread = .entering place) (free : m.holder = none) :
      Attempt code entry m thread
        (.ok { m.goto thread (.admitted place) with holder := some thread })
  /-- The thread is remembered. -/
  | assign {place : π} (admitted : m.phases thread = .admitted place) :
      Attempt code entry m thread
        (.ok { m.goto thread (.inside place) with owner := some thread })
  /-- The thread reads and changes the data. -/
  | act {place : π} {change : σ → Except ε (σ × π)} (inside : m.phases thread = .inside place)
      (statement : code place = .act change) :
      Attempt code entry m thread ((change m.data).map fun done =>
        { m.goto thread (.inside done.2) with data := done.1 })
  /-- The thread signals one thread. -/
  | notify {place next : π} {condition : κ} {changed : Condition τ}
      (inside : m.phases thread = .inside place) (statement : code place = .notify condition next)
      (notifies : (m.conditions condition).Notifies changed) :
      Attempt code entry m thread (.ok ((m.goto thread (.inside next)).turn condition changed))
  /-- The thread signals all threads. -/
  | notifyAll {place next : π} {condition : κ} (inside : m.phases thread = .inside place)
      (statement : code place = .notifyAll condition next) :
      Attempt code entry m thread
        (.ok ((m.goto thread (.inside next)).turn condition (m.conditions condition).notifyAll))
  /-- The thread is forgotten, because it will wait or leave. -/
  | unassign {place : π} (inside : m.phases thread = .inside place)
      (gives : code place = .leave ∨ ∃ condition next, code place = .wait condition next) :
      Attempt code entry m thread (.ok { m.goto thread (.forgotten place) with owner := none })
  /-- The thread gives the mutex away and waits. -/
  | sleep {place next : π} {condition : κ} (forgotten : m.phases thread = .forgotten place)
      (statement : code place = .wait condition next) :
      Attempt code entry m thread (.ok { (m.goto thread (.parked condition next)).turn condition
        ((m.conditions condition).wait thread) with holder := none })
  /-- The thread wakes up by itself. -/
  | wake {condition : κ} {changed : Condition τ}
      (wakes : (m.conditions condition).Wakes thread changed) :
      Attempt code entry m thread (.ok (m.turn condition changed))
  /-- The thread gets the mutex back. -/
  | relock {next : π} {condition : κ} {changed : Condition τ}
      (parked : m.phases thread = .parked condition next)
      (returns : (m.conditions condition).Returns thread changed) (free : m.holder = none) :
      Attempt code entry m thread (.ok { (m.goto thread (.admitted next)).turn condition changed
        with holder := some thread })
  /-- The thread releases the mutex. -/
  | unlock {place : π} (forgotten : m.phases thread = .forgotten place)
      (statement : code place = .leave) :
      Attempt code entry m thread (.ok { m.goto thread .outside with holder := none })

/-- A step of a thread. -/
def Step (code : π → Statement ε σ κ π) (entry : π → Prop) (before : Monitor τ σ κ π) (thread : τ)
    (after : Monitor τ σ κ π) : Prop :=
  Attempt code entry before thread (.ok after)

/-- An attempt that succeeds is a step. -/
theorem Step.of_attempt {result : Except ε (Monitor τ σ κ π)}
    (attempt : Attempt code entry m thread result) (done : result = .ok after) :
    Step code entry m thread after := by
  rw [done] at attempt
  exact attempt

/-- A thread may call any function. -/
theorem Step.call (place : π) (outside : m.phases thread = .outside) (begins : entry place) :
    Step code entry m thread (m.goto thread (.entering place)) :=
  Attempt.call outside begins

/-- A step of a thread leaves the others where they are. -/
theorem Step.others (step : Step code entry m thread after) {other : τ}
    (different : other ≠ thread) : after.phases other = m.phases other := by
  have attempt : Attempt code entry m thread (.ok after) := step
  generalize outcome : Except.ok after = result at attempt
  cases attempt with
  | @act place change inside statement =>
    cases done : change m.data with
    | error => simp [done, Except.map] at outcome
    | ok next =>
      rw [done] at outcome
      cases outcome
      exact update_of_ne different _ _
  | wake wakes =>
    cases outcome
    rfl
  | _ =>
    cases outcome
    exact update_of_ne different _ _

/-- What holds while nobody has the mutex, and what a thread that has it relies on at the places of
the code. -/
structure Outline (code : π → Statement ε σ κ π) (entry : π → Prop)
    (inv : Scene τ σ κ π → Prop) (relies : τ → π → Scene τ σ κ π → Prop) : Prop where
  /-- A function begins. -/
  enter : ∀ {s : Scene τ σ κ π} {thread : τ} {place : π}, inv s → s.parked thread = none →
    entry place → relies thread place s
  /-- A thread is back from `wait`. -/
  resume : ∀ {s : Scene τ σ κ π} {thread : τ} {next : π} {condition : κ} {changed : Condition τ},
    inv s → s.parked thread = some (condition, next) →
    (s.conditions condition).Returns thread changed →
    relies thread next (s.unpark thread condition changed)
  /-- No assertion fails. -/
  act : ∀ {s : Scene τ σ κ π} {thread : τ} {place : π} {change : σ → Except ε (σ × π)},
    relies thread place s → code place = .act change →
    ∃ data next, change s.data = .ok (data, next) ∧ relies thread next { s with data }
  /-- One thread is signalled. -/
  notify : ∀ {s : Scene τ σ κ π} {thread : τ} {place next : π} {condition : κ}
    {changed : Condition τ}, relies thread place s → code place = .notify condition next →
    (s.conditions condition).Notifies changed → relies thread next (s.turn condition changed)
  /-- All threads are signalled. -/
  notifyAll : ∀ {s : Scene τ σ κ π} {thread : τ} {place next : π} {condition : κ},
    relies thread place s → code place = .notifyAll condition next →
    relies thread next (s.turn condition (s.conditions condition).notifyAll)
  /-- A thread waits. -/
  wait : ∀ {s : Scene τ σ κ π} {thread : τ} {place next : π} {condition : κ},
    relies thread place s → code place = .wait condition next →
    inv (s.park thread condition next)
  /-- A function ends. -/
  leave : ∀ {s : Scene τ σ κ π} {thread : τ} {place : π}, relies thread place s →
    code place = .leave → inv s
  /-- A thread may wake up while nobody has the mutex. -/
  wakes : ∀ {s : Scene τ σ κ π} {thread : τ} {condition : κ} {changed : Condition τ}, inv s →
    (s.conditions condition).Wakes thread changed → inv (s.turn condition changed)
  /-- A thread may wake up while another one has the mutex. -/
  disturbed : ∀ {s : Scene τ σ κ π} {thread other : τ} {place : π} {condition : κ}
    {changed : Condition τ}, relies thread place s →
    (s.conditions condition).Wakes other changed → relies thread place (s.turn condition changed)

/-- A thread that wakes up changes the condition in which it waits. -/
theorem Outline.wake (outline : Outline code entry inv relies)
    (kept : m.Kept code entry inv relies) {condition : κ} {changed : Condition τ}
    (wakes : (m.conditions condition).Wakes thread changed) :
    (m.turn condition changed).Kept code entry inv relies where
  exclusive := kept.exclusive
  free none := outline.wakes (kept.free none) wakes
  here other mine := by
    obtain ⟨place, held, holds⟩ := kept.here other mine
    exact ⟨place, held, outline.disturbed holds wakes⟩
  owner := kept.owner
  fits := kept.fits

/-- Every attempt of every thread succeeds and keeps the outline. -/
theorem Outline.attempt (outline : Outline code entry inv relies)
    (kept : m.Kept code entry inv relies) {result : Except ε (Monitor τ σ κ π)}
    (attempt : Attempt code entry m thread result) :
    ∃ after, result = .ok after ∧ after.Kept code entry inv relies := by
  have fits := kept.fits thread
  cases attempt with
  | call outside begins => exact ⟨_, rfl, kept.call outside begins⟩
  | @lock place entering free =>
    have same : (m.goto thread (.admitted place)).scene = m.scene :=
      goto_scene (by rw [entering]; rfl)
    have alone : m.scene.parked thread = none := by simp [scene, entering, Phase.waits]
    rw [entering] at fits
    refine ⟨_, rfl, kept_of_goto rfl (fun other _ => kept.nobody free other) kept.fits trivial rfl
      (kept.unowned free) ?_ nofun⟩
    rintro place' held
    cases held
    show relies thread place (m.goto thread (.admitted place)).scene
    rw [same]
    exact outline.enter (kept.free free) alone fits
  | @assign place admitted =>
    have held : (m.phases thread).held = some place := by rw [admitted]; rfl
    have same : (m.goto thread (.inside place)).scene = m.scene :=
      goto_scene (by rw [admitted]; rfl)
    refine ⟨_, rfl, kept_of_goto rfl (fun _ => kept.others (kept.mine held)) kept.fits trivial
      (kept.mine held) rfl ?_ nofun⟩
    rintro place' held'
    cases held'
    show relies thread place (m.goto thread (.inside place)).scene
    rw [same]
    exact kept.reliance held
  | @act place change inside statement =>
    have held : (m.phases thread).held = some place := by rw [inside]; rfl
    have owner : m.owner = some thread := (kept.owner thread).mpr ⟨place, inside⟩
    obtain ⟨data, next, done, holds⟩ := outline.act (kept.reliance held) statement
    have found : change m.data = .ok (data, next) := done
    have same : (m.goto thread (.inside next)).scene = m.scene :=
      goto_scene (by rw [inside]; rfl)
    rw [found]
    refine ⟨_, rfl, kept_of_goto rfl (fun _ => kept.others (kept.mine held)) kept.fits trivial
      (kept.mine held) owner ?_ nofun⟩
    rintro place' held'
    cases held'
    show relies thread next { (m.goto thread (.inside next)).scene with data }
    rw [same]
    exact holds
  | @notify place next condition changed inside statement notifies =>
    have held : (m.phases thread).held = some place := by rw [inside]; rfl
    have owner : m.owner = some thread := (kept.owner thread).mpr ⟨place, inside⟩
    have same : (m.goto thread (.inside next)).scene = m.scene :=
      goto_scene (by rw [inside]; rfl)
    refine ⟨_, rfl, kept_of_goto rfl (fun _ => kept.others (kept.mine held)) kept.fits trivial
      (kept.mine held) owner ?_ nofun⟩
    rintro place' held'
    cases held'
    show relies thread next ((m.goto thread (.inside next)).scene.turn condition changed)
    rw [same]
    exact outline.notify (kept.reliance held) statement notifies
  | @notifyAll place next condition inside statement =>
    have held : (m.phases thread).held = some place := by rw [inside]; rfl
    have owner : m.owner = some thread := (kept.owner thread).mpr ⟨place, inside⟩
    have same : (m.goto thread (.inside next)).scene = m.scene :=
      goto_scene (by rw [inside]; rfl)
    refine ⟨_, rfl, kept_of_goto rfl (fun _ => kept.others (kept.mine held)) kept.fits trivial
      (kept.mine held) owner ?_ nofun⟩
    rintro place' held'
    cases held'
    show relies thread next ((m.goto thread (.inside next)).scene.turn condition
      (m.conditions condition).notifyAll)
    rw [same]
    exact outline.notifyAll (kept.reliance held) statement
  | @unassign place inside gives =>
    have held : (m.phases thread).held = some place := by rw [inside]; rfl
    have same : (m.goto thread (.forgotten place)).scene = m.scene :=
      goto_scene (by rw [inside]; rfl)
    refine ⟨_, rfl, kept_of_goto rfl (fun _ => kept.others (kept.mine held)) kept.fits gives
      (kept.mine held) rfl ?_ nofun⟩
    rintro place' held'
    cases held'
    show relies thread place (m.goto thread (.forgotten place)).scene
    rw [same]
    exact kept.reliance held
  | @sleep place next condition forgotten statement =>
    have held : (m.phases thread).held = some place := by rw [forgotten]; rfl
    refine ⟨_, rfl, kept_of_goto rfl (fun _ => kept.others (kept.mine held)) kept.fits trivial rfl
      (kept.forgets forgotten) nofun ?_⟩
    intro _
    have parks := outline.wait (kept.reliance held) statement
    have same : (m.scene.park thread condition next) =
        ((m.goto thread (.parked condition next)).turn condition
          ((m.conditions condition).wait thread)).scene := by
      simp [Scene.park, scene, goto, turn, Scene.turn, comp_update, Phase.waits]
    rw [same] at parks
    exact parks
  | wake wakes => exact ⟨_, rfl, outline.wake kept wakes⟩
  | @relock next condition changed parked returns free =>
    refine ⟨_, rfl, kept_of_goto rfl (fun other _ => kept.nobody free other) kept.fits trivial rfl
      (kept.unowned free) ?_ nofun⟩
    rintro place' held'
    cases held'
    have waits : m.scene.parked thread = some (condition, next) := by
      simp [scene, parked, Phase.waits]
    have resumes := outline.resume (kept.free free) waits returns
    have same : m.scene.unpark thread condition changed =
        ((m.goto thread (.admitted next)).turn condition changed).scene := by
      simp [Scene.unpark, scene, goto, turn, Scene.turn, comp_update, Phase.waits]
    rw [same] at resumes
    exact resumes
  | @unlock place forgotten statement =>
    have held : (m.phases thread).held = some place := by rw [forgotten]; rfl
    have same : (m.goto thread .outside).scene = m.scene := goto_scene (by rw [forgotten]; rfl)
    refine ⟨_, rfl, kept_of_goto rfl (fun _ => kept.others (kept.mine held)) kept.fits trivial rfl
      (kept.forgets forgotten) nofun ?_⟩
    intro _
    show inv (m.goto thread .outside).scene
    rw [same]
    exact outline.leave (kept.reliance held) statement

/-- Every schedule keeps the outline. -/
theorem Outline.run (outline : Outline code entry inv relies) {data : σ}
    (begins : inv (new data : Monitor τ σ κ π).scene) {schedule : List τ}
    (run : Run (Step code entry) (new data) schedule m) : m.Kept code entry inv relies := by
  apply run.invariant (new_kept begins)
  intro before thread after kept step
  obtain ⟨after', same, kept'⟩ := outline.attempt kept step
  cases same
  exact kept'

/-- The thread that has the mutex can always go on. -/
theorem Outline.goes_on (outline : Outline code entry inv relies)
    (kept : m.Kept code entry inv relies) (mine : m.holder = some thread) :
    ∃ after, Step code entry m thread after := by
  obtain ⟨place, held, holds⟩ := kept.here thread mine
  have fits := kept.fits thread
  cases phase : m.phases thread with
  | outside => simp [phase, Phase.held] at held
  | entering => simp [phase, Phase.held] at held
  | parked => simp [phase, Phase.held] at held
  | admitted => exact ⟨_, .assign phase⟩
  | inside there =>
    rw [phase] at held
    cases held
    cases statement : code place with
    | act change =>
      obtain ⟨data, next, done, -⟩ := outline.act holds statement
      have found : change m.data = .ok (data, next) := done
      exact ⟨_, Step.of_attempt (.act phase statement) (by rw [found]; rfl)⟩
    | wait condition next => exact ⟨_, .unassign phase (.inr ⟨condition, next, statement⟩)⟩
    | notify condition next =>
      obtain ⟨changed, notifies⟩ := (m.conditions condition).exists_notifies
      exact ⟨_, .notify phase statement notifies⟩
    | notifyAll => exact ⟨_, .notifyAll phase statement⟩
    | leave => exact ⟨_, .unassign phase (.inl statement)⟩
  | forgotten there =>
    rw [phase] at fits
    obtain leaves | ⟨condition, next, waits⟩ := fits
    · exact ⟨_, .unlock phase leaves⟩
    · exact ⟨_, .sleep phase waits⟩

/-- Where something is covered and somebody waits, somebody can go on while the mutex is free. -/
theorem exists_resume {condition : κ} {next : π} {count : Nat}
    (loops : m.scene.Loops condition next) (covers : (m.conditions condition).Covers count)
    (positive : 0 < count) (free : m.holder = none)
    (waits : m.phases thread = .parked condition next) :
    ∃ other after, m.phases other = .parked condition next ∧
      Step code entry m other after ∧ after.holder = some other := by
  have waiting : m.scene.parked thread ≠ none := by simp [scene, waits, Phase.waits]
  have inside : (m.conditions condition).members ≠ [] :=
    List.ne_nil_of_mem ((loops.inside.mem thread).mpr waiting)
  obtain ⟨other, changed, returns⟩ := covers.exists_returns positive inside
  have parked := loops.parked other ((loops.inside.mem other).mp returns.mem)
  have phase : m.phases other = .parked condition next := by
    cases is : m.phases other <;>
      simp only [scene, comp_apply, is, Phase.waits, reduceCtorEq, Option.some.injEq,
        Prod.mk.injEq] at parked
    rw [parked.1, parked.2]
  exact ⟨other, _, phase, .relock phase returns free, rfl⟩

end Monitor

end
