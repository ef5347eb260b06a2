import Mathlib.Data.List.Perm.Basic
import Mathlib.Data.Set.Insert
import Mathlib.Tactic.Common

/-!
# Condition variables

A thread that waits on a condition is signalled by somebody else, or wakes up by itself. Either way
it has to get the mutex before it goes on, and others may be faster. So a condition has three kinds
of threads: those that wait, those that were signalled and those that woke up by themselves.

A signal is not lost as long as there are no more things to wait for than there are signalled
threads, or nobody waits. The rules for `Covers` follow this through every operation.
-/

/-- The threads inside `wait` of a condition. -/
structure Condition (τ : Type) where
  /-- Those that nobody has signalled. -/
  waiting : List τ
  /-- Those that were signalled and do not have the mutex yet. -/
  signalled : List τ
  /-- Those that woke up without a signal and do not have the mutex yet. -/
  awake : List τ
  deriving DecidableEq, Repr

namespace Condition

variable {τ : Type}

/-- Nobody waits. -/
def new : Condition τ := ⟨[], [], []⟩

/-- A thread gives the mutex away and waits. -/
def wait (c : Condition τ) (thread : τ) : Condition τ :=
  { c with waiting := c.waiting ++ [thread] }

/-- Every thread that waits is signalled. -/
def notifyAll (c : Condition τ) : Condition τ :=
  { c with waiting := [], signalled := c.signalled ++ c.waiting }

/-- One of the threads that wait is signalled, whichever it is, if there is one. -/
inductive Notifies (c : Condition τ) : Condition τ → Prop
  /-- Nobody waits. -/
  | nobody (none : c.waiting = []) : Notifies c c
  /-- Somebody waits. -/
  | somebody {front back : List τ} {thread : τ} (some : c.waiting = front ++ thread :: back) :
      Notifies c { c with waiting := front ++ back, signalled := c.signalled ++ [thread] }

/-- A thread that waits wakes up by itself. -/
inductive Wakes (c : Condition τ) (thread : τ) : Condition τ → Prop
  /-- A thread that nobody has signalled. -/
  | wakes {front back : List τ} (some : c.waiting = front ++ thread :: back) :
      Wakes c thread { c with waiting := front ++ back, awake := c.awake ++ [thread] }

/-- A thread gets the mutex back and `wait` returns. -/
inductive Returns (c : Condition τ) (thread : τ) : Condition τ → Prop
  /-- The thread was signalled. -/
  | signalled {front back : List τ} (some : c.signalled = front ++ thread :: back) :
      Returns c thread { c with signalled := front ++ back }
  /-- The thread woke up by itself. -/
  | awake {front back : List τ} (some : c.awake = front ++ thread :: back) :
      Returns c thread { c with awake := front ++ back }

/-- If anybody waits, as many threads as that are signalled. -/
def Covers (c : Condition τ) (count : Nat) : Prop :=
  c.waiting ≠ [] → count ≤ c.signalled.length

variable {c after : Condition τ} {thread : τ} {count : Nat}

/-- Nothing needs no signals. -/
theorem covers_zero (c : Condition τ) : c.Covers 0 := fun _ => Nat.zero_le _

/-- Where nobody waits, no signals are needed. -/
theorem covers_of_nobody (none : c.waiting = []) (count : Nat) : c.Covers count :=
  fun some => absurd none some

/-- Fewer things need fewer signals. -/
theorem Covers.mono {fewer : Nat} (covers : c.Covers count) (less : fewer ≤ count) :
    c.Covers fewer := fun some => less.trans (covers some)

/-- One more thing and a signal. -/
theorem Covers.notify (covers : c.Covers count) (notifies : c.Notifies after) :
    after.Covers (count + 1) := by
  cases notifies with
  | nobody none => exact covers_of_nobody none _
  | @somebody front back thread some =>
    intro _
    have enough := covers (by rw [some]; exact List.append_ne_nil_of_right_ne_nil _ nofun)
    rw [List.length_append, List.length_singleton]
    exact Nat.add_le_add_right enough 1

/-- A thread that wakes up by itself takes no signal. -/
theorem Covers.wakes (covers : c.Covers count) (wakes : c.Wakes thread after) :
    after.Covers count := by
  cases wakes with
  | wakes some =>
    intro _
    exact covers (by rw [some]; exact List.append_ne_nil_of_right_ne_nil _ nofun)

/-- A thread that goes on takes one signal at most. -/
theorem Covers.returns (covers : c.Covers count) (returns : c.Returns thread after) :
    after.Covers (count - 1) := by
  cases returns with
  | @signalled front back some =>
    intro waits
    have enough := covers waits
    rw [some, List.length_append, List.length_cons] at enough
    rw [List.length_append]
    omega
  | awake some =>
    intro waits
    exact (Nat.sub_le _ _).trans (covers waits)

/-- All threads inside `wait`. -/
def members (c : Condition τ) : List τ := c.waiting ++ c.signalled ++ c.awake

/-- The threads inside `wait` are those of a set, each once. -/
structure Has (c : Condition τ) (inside : Set τ) : Prop where
  /-- Each once. -/
  nodup : c.members.Nodup
  /-- Those of the set. -/
  mem : ∀ thread, thread ∈ c.members ↔ thread ∈ inside

/-- Nobody is inside a new condition. -/
theorem new_has : (new : Condition τ).Has ∅ where
  nodup := List.nodup_nil
  mem _ := ⟨nofun, nofun⟩

/-- The set may be written in another way. -/
theorem Has.congr {inside other : Set τ} (has : c.Has inside) (same : inside = other) :
    c.Has other := same ▸ has

/-- The order does not matter. -/
theorem Has.perm {inside : Set τ} (has : c.Has inside) (perm : after.members.Perm c.members) :
    after.Has inside :=
  ⟨perm.nodup_iff.mpr has.nodup, fun thread => perm.mem_iff.trans (has.mem thread)⟩

/-- A thread begins to wait. -/
theorem Has.wait {inside : Set τ} (has : c.Has inside) (outside : thread ∉ inside) :
    (c.wait thread).Has (insert thread inside) := by
  have perm : (c.wait thread).members.Perm (thread :: c.members) := by
    simp only [Condition.wait, members, List.append_assoc]
    exact List.perm_middle
  refine ⟨perm.nodup_iff.mpr (List.nodup_cons.mpr ⟨?_, has.nodup⟩), fun other => ?_⟩
  · rw [has.mem]
    exact outside
  · rw [perm.mem_iff, List.mem_cons, has.mem, Set.mem_insert_iff]

/-- A signal moves nobody in or out. -/
theorem Has.notify {inside : Set τ} (has : c.Has inside) (notifies : c.Notifies after) :
    after.Has inside := by
  cases notifies with
  | nobody => exact has
  | @somebody front back thread some =>
    refine has.perm ?_
    simp only [members, some, List.append_assoc, List.cons_append]
    refine List.Perm.append_left front ?_
    have moved : (back ++ (c.signalled ++ thread :: c.awake)).Perm
        (thread :: (back ++ (c.signalled ++ c.awake))) := by
      rw [← List.append_assoc, ← List.append_assoc]
      exact List.perm_middle
    exact moved

/-- Signals to all move nobody in or out. -/
theorem Has.notifyAll {inside : Set τ} (has : c.Has inside) : c.notifyAll.Has inside := by
  refine has.perm ?_
  simp only [members, Condition.notifyAll, List.nil_append]
  exact List.perm_append_comm.append_right _

/-- Waking up moves nobody in or out. -/
theorem Has.wakes {inside : Set τ} (has : c.Has inside) (wakes : c.Wakes thread after) :
    after.Has inside := by
  cases wakes with
  | @wakes front back some =>
    refine has.perm ?_
    simp only [members, some, List.append_assoc, List.cons_append]
    refine List.Perm.append_left front ?_
    have moved : (back ++ (c.signalled ++ (c.awake ++ [thread]))).Perm
        (thread :: (back ++ (c.signalled ++ c.awake))) := by
      rw [← List.append_assoc, ← List.append_assoc, ← List.append_assoc]
      exact List.perm_append_singleton _ _
    exact moved

/-- A thread that goes on was inside, and is not any longer. -/
theorem Has.returns {inside : Set τ} (has : c.Has inside) (returns : c.Returns thread after) :
    thread ∈ inside ∧ after.Has (inside \ {thread}) := by
  have perm : c.members.Perm (thread :: after.members) := by
    cases returns with
    | @signalled front back some =>
      simp only [members, some, List.append_assoc, List.cons_append]
      rw [← List.append_assoc, ← List.append_assoc]
      exact List.perm_middle
    | @awake front back some =>
      simp only [members, some, List.append_assoc]
      rw [← List.append_assoc, ← List.append_assoc, ← List.append_assoc, ← List.append_assoc]
      exact List.perm_middle
  obtain ⟨gone, rest⟩ := List.nodup_cons.mp (perm.nodup_iff.mp has.nodup)
  refine ⟨(has.mem thread).mp (perm.mem_iff.mpr List.mem_cons_self), rest, fun other => ?_⟩
  rw [Set.mem_sdiff, Set.mem_singleton_iff, ← has.mem, perm.mem_iff, List.mem_cons]
  constructor
  · intro member
    refine ⟨.inr member, ?_⟩
    rintro rfl
    exact gone member
  · rintro ⟨same | member, different⟩
    · exact absurd same different
    · exact member

/-- Where nobody waits, nobody waits after a signal. -/
theorem Notifies.nobody_waits (notifies : c.Notifies after) (none : c.waiting = []) :
    after.waiting = [] := by
  cases notifies with
  | nobody => exact none
  | somebody some => simp [some] at none

/-- Somebody waited before a thread woke up by itself. -/
theorem Wakes.somebody_waited (wakes : c.Wakes thread after) : c.waiting ≠ [] := by
  cases wakes with
  | wakes some => simp [some]

/-- The thread that goes on was not waiting any longer. -/
theorem Returns.waiting_eq (returns : c.Returns thread after) : after.waiting = c.waiting := by
  cases returns <;> rfl

/-- There is somebody to signal, or there is not. -/
theorem exists_notifies (c : Condition τ) : ∃ after, c.Notifies after := by
  cases waits : c.waiting with
  | nil => exact ⟨c, .nobody waits⟩
  | cons thread rest => exact ⟨_, @Notifies.somebody τ c [] rest thread waits⟩

/-- A thread that goes on was inside. -/
theorem Returns.mem (returns : c.Returns thread after) : thread ∈ c.members := by
  cases returns with
  | signalled signal => simp [members, signal]
  | awake up => simp [members, up]

/-- Where nobody waits for a signal, everybody inside can go on. -/
theorem exists_returns_of_mem (nobody : c.waiting = []) (inside : thread ∈ c.members) :
    ∃ after, c.Returns thread after := by
  rw [members, nobody, List.nil_append, List.mem_append] at inside
  cases inside with
  | inl signal =>
    obtain ⟨front, back, split⟩ := List.append_of_mem signal
    exact ⟨_, .signalled split⟩
  | inr up =>
    obtain ⟨front, back, split⟩ := List.append_of_mem up
    exact ⟨_, .awake split⟩

/-- Where something is covered, somebody inside can go on. -/
theorem Covers.exists_returns (covers : c.Covers count) (positive : 0 < count)
    (inside : c.members ≠ []) : ∃ thread after, c.Returns thread after := by
  by_cases signalled : c.signalled = []
  · have nobody : c.waiting = [] := by
      by_contra waits
      have enough := covers waits
      simp only [signalled, List.length_nil] at enough
      omega
    have up : c.awake ≠ [] := by simpa [members, nobody, signalled] using inside
    obtain ⟨thread, rest, first⟩ := List.exists_cons_of_ne_nil up
    exact ⟨thread, _, @Returns.awake τ c thread [] rest first⟩
  · obtain ⟨thread, rest, first⟩ := List.exists_cons_of_ne_nil signalled
    exact ⟨thread, _, @Returns.signalled τ c thread [] rest first⟩

/-- A thread may as well wake up before another one goes on. -/
theorem Returns.wakes {other : τ} {last : Condition τ} (returns : c.Returns thread after)
    (wakes : after.Wakes other last) :
    ∃ middle, c.Wakes other middle ∧ middle.Returns thread last := by
  cases wakes with
  | @wakes front back waits =>
    have waits' : c.waiting = front ++ other :: back := by rw [← returns.waiting_eq, waits]
    refine ⟨_, .wakes waits', ?_⟩
    cases returns with
    | signalled signal => exact .signalled signal
    | @awake first rest up =>
      have moved : c.awake ++ [other] = first ++ thread :: (rest ++ [other]) := by simp [up]
      have back : first ++ rest ++ [other] = first ++ (rest ++ [other]) := by simp
      dsimp only
      rw [back]
      exact @Returns.awake τ { c with waiting := front ++ _, awake := c.awake ++ [other] } thread
        first (rest ++ [other]) moved

end Condition
