import Mathlib.Data.Int.CardIntervalMod
import Muduo.Base.Fault
import Muduo.Base.Machine
import Muduo.Lib.Run

/-!
# `dc::net::EventLoopThreadPool`

The pool starts one loop for each of its threads and gives them out in turn. The base loop has the
number 0, and the loops of the threads have the numbers from 1 on, in the order in which the threads
are started. A pool without threads gives out the base loop.
-/

open Outcome Transition

namespace Muduo

/-- `class EventLoopThreadPool`. -/
structure EventLoopThreadPool where
  /-- `is_started`. -/
  started : Bool
  /-- `m_numThreads`. -/
  numThreads : Int
  /-- `m_next`. -/
  next : Int
  /-- `m_loops`. -/
  loops : List Nat
  /-- The loops that the callback was called with. -/
  initialised : List Nat
  /-- What `getNextLoop()` has returned. -/
  given : List Nat
  deriving DecidableEq, Repr

namespace EventLoopThreadPool

/-- `EventLoopThreadPool(loop, nameArg)`. -/
def new : EventLoopThreadPool := ⟨false, 0, 0, [], [], []⟩

/-- `setThreadNum(numThreads)`. -/
def setThreadNum (pool : EventLoopThreadPool) (numThreads : Int) : EventLoopThreadPool :=
  { pool with numThreads }

/-- `start(cb)`. A thread calls the callback before it hands its loop over. -/
def start (pool : EventLoopThreadPool) (hasCallback : Bool) : Except Fault EventLoopThreadPool := do
  ensure (!pool.started) "!is_started"
  let loops := List.range' 1 pool.numThreads.toNat
  let initialised :=
    if hasCallback then (if pool.numThreads = 0 then [0] else loops) else []
  .ok { pool with
    started := true
    loops := pool.loops ++ loops
    initialised := pool.initialised ++ initialised }

/-- `m_loops[index]`. -/
def loopAt (pool : EventLoopThreadPool) (index : Nat) : Except Fault Nat :=
  match pool.loops[index]? with
  | some loop => .ok loop
  | none => .error .outOfRange

/-- `getNextLoop()`. -/
def getNextLoop (pool : EventLoopThreadPool) : Except Fault (EventLoopThreadPool × Nat) := do
  ensure pool.started "is_started"
  if pool.loops.isEmpty then
    .ok ({ pool with given := pool.given ++ [0] }, 0)
  else
    let loop ← pool.loopAt (sizeOfInt pool.next)
    let next := wrapInt (pool.next + 1)
    .ok ({ pool with
      next := if pool.loops.length ≤ sizeOfInt next then 0 else next
      given := pool.given ++ [loop] }, loop)

/-- What happens to a pool. -/
inductive Action
  /-- `setThreadNum(numThreads)`. -/
  | setThreadNum (numThreads : Int)
  /-- `start(cb)`. -/
  | start (hasCallback : Bool)
  /-- `getNextLoop()`. -/
  | getNextLoop

/-- A call that does not stop the program. -/
inductive Step (pool : EventLoopThreadPool) : Action → EventLoopThreadPool → Prop
  /-- `setThreadNum` of an `int`. -/
  | setThreadNum {numThreads : Int} (fits : numThreads < 2 ^ 31) :
      Step pool (.setThreadNum numThreads) (pool.setThreadNum numThreads)
  /-- `start`. -/
  | start {hasCallback : Bool} {after : EventLoopThreadPool}
      (done : pool.start hasCallback = .ok after) : Step pool (.start hasCallback) after
  /-- `getNextLoop`. -/
  | getNextLoop {after : EventLoopThreadPool} {loop : Nat}
      (done : pool.getNextLoop = .ok (after, loop)) : Step pool .getNextLoop after

/-- The loops in turn. -/
def turn (pool : EventLoopThreadPool) (k : Nat) : Nat :=
  if pool.loops.isEmpty then 0 else 1 + k % pool.loops.length

/-- The loops are given out in turn. -/
structure InTurn (pool : EventLoopThreadPool) : Prop where
  /-- The number of threads is an `int`. -/
  fits : pool.numThreads < 2 ^ 31
  /-- The loops of the threads. -/
  loops : pool.loops = List.range' 1 pool.loops.length
  /-- There are not more than an `int` can count. -/
  few : pool.loops.length < 2 ^ 31
  /-- Nothing is there before the start. -/
  unstarted : pool.started = false → pool.loops = [] ∧ pool.given = []
  /-- There is no next one. -/
  none : pool.loops = [] → pool.next = 0
  /-- The next one. -/
  next : pool.loops ≠ [] → pool.next = (pool.given.length % pool.loops.length : Nat)
  /-- What was given out. -/
  given : pool.given = (List.range pool.given.length).map pool.turn

variable {pool after : EventLoopThreadPool} {action : Action}

/-- At the beginning. -/
theorem new_inTurn : new.InTurn := by
  refine ⟨by decide, rfl, by decide, fun _ => ⟨rfl, rfl⟩, fun _ => rfl, ?_, rfl⟩
  exact fun some => absurd rfl some

/-- A loop of the pool. -/
theorem InTurn.loopAt (inTurn : pool.InTurn) {index : Nat} (inside : index < pool.loops.length) :
    pool.loopAt index = .ok (1 + index) := by
  have found : pool.loops[index]? = some (1 + index) := by
    rw [inTurn.loops, List.getElem?_range' inside, Nat.one_mul]
  rw [EventLoopThreadPool.loopAt, found]

/-- A started pool gives out the loop whose turn it is. -/
theorem InTurn.getNextLoop (inTurn : pool.InTurn) (started : pool.started = true) :
    ∃ next, pool.getNextLoop = .ok ({ pool with
      next, given := pool.given ++ [pool.turn pool.given.length] }, pool.turn pool.given.length) ∧
        InTurn { pool with
          next, given := pool.given ++ [pool.turn pool.given.length] } := by
  have grown : pool.given ++ [pool.turn pool.given.length] =
      (List.range (pool.given ++ [pool.turn pool.given.length]).length).map pool.turn := by
    rw [List.length_append, List.length_singleton, List.range_succ, List.map_append,
      ← inTurn.given]
    rfl
  rw [EventLoopThreadPool.getNextLoop, started, ensure_true, ok_bind]
  by_cases empty : pool.loops.isEmpty = true
  · have first : pool.turn pool.given.length = 0 := if_pos empty
    rw [if_pos empty, first]
    rw [first] at grown
    refine ⟨pool.next, by rw [← started], inTurn.fits, inTurn.loops, inTurn.few,
      by simp, inTurn.none, fun some => ?_, grown⟩
    exact absurd (List.isEmpty_iff.mp empty) some
  · have some : pool.loops ≠ [] := by simpa using empty
    have positive := List.length_pos_iff.mpr some
    have few := inTurn.few
    have next := inTurn.next some
    have inside := Nat.mod_lt pool.given.length positive
    have index : sizeOfInt pool.next = pool.given.length % pool.loops.length := by
      rw [next, sizeOfInt]
      omega
    have turn : pool.turn pool.given.length = 1 + pool.given.length % pool.loops.length :=
      if_neg empty
    have wrapped : wrapInt (pool.next + 1) = (pool.given.length % pool.loops.length + 1 : Nat) := by
      rw [next, wrapInt_of_lt] <;> omega
    have size : sizeOfInt (wrapInt (pool.next + 1)) =
        pool.given.length % pool.loops.length + 1 := by
      rw [wrapped, sizeOfInt]
      omega
    rw [if_neg empty, index, inTurn.loopAt inside, ok_bind, ← turn]
    refine ⟨_, by rw [← started], inTurn.fits, inTurn.loops, inTurn.few,
      by simp, fun none => absurd none some, fun _ => ?_, grown⟩
    dsimp only
    have later : (pool.given.length + 1) % pool.loops.length =
        (pool.given.length % pool.loops.length + 1) % pool.loops.length :=
      (Nat.mod_add_mod ..).symm
    rw [size, wrapped, List.length_append, List.length_singleton, later]
    split
    next last =>
      have whole : pool.given.length % pool.loops.length + 1 = pool.loops.length := by omega
      rw [whole, Nat.mod_self]
      rfl
    next before =>
      have within : pool.given.length % pool.loops.length + 1 < pool.loops.length := by omega
      rw [Nat.mod_eq_of_lt within]

/-- Every call keeps the turn. -/
theorem Step.inTurn (step : Step pool action after) (inTurn : pool.InTurn) : after.InTurn := by
  cases step with
  | setThreadNum fits =>
    exact ⟨fits, inTurn.loops, inTurn.few, inTurn.unstarted, inTurn.none, inTurn.next, inTurn.given⟩
  | start done =>
    rw [EventLoopThreadPool.start] at done
    obtain ⟨_, unstarted, rest⟩ := bind_eq_ok.mp done
    cases rest
    have off : pool.started = false := by simpa using unstarted
    obtain ⟨none, nothing⟩ := inTurn.unstarted off
    have fits := inTurn.fits
    have zero := inTurn.none none
    refine ⟨fits, ?_, ?_, by simp, fun _ => zero, fun _ => ?_, ?_⟩
    · simp [none]
    · simp only [none, List.nil_append, List.length_range']
      omega
    · simp [nothing, zero]
    · simp [nothing]
  | @getNextLoop after loop done =>
    have started : pool.started = true := by
      rw [EventLoopThreadPool.getNextLoop] at done
      obtain ⟨_, on, -⟩ := bind_eq_ok.mp done
      simpa using on
    obtain ⟨next, again, kept⟩ := inTurn.getNextLoop started
    rw [done, Except.ok.injEq, Prod.mk.injEq] at again
    rw [again.1]
    exact kept

/-- How often a loop was given out. -/
theorem InTurn.count (inTurn : pool.InTurn) {i : Nat} (inside : i < pool.loops.length) :
    pool.given.count (1 + i) = pool.given.length / pool.loops.length +
      if i < pool.given.length % pool.loops.length then 1 else 0 := by
  have positive : 0 < pool.loops.length := Nat.zero_lt_of_lt inside
  have some : ¬pool.loops.isEmpty = true := by
    intro empty
    rw [List.isEmpty_iff.mp empty] at positive
    exact absurd positive (Nat.lt_irrefl 0)
  have same (k : Nat) : (pool.turn k == 1 + i) = decide (k ≡ i [MOD pool.loops.length]) := by
    have residue : k ≡ i [MOD pool.loops.length] ↔ k % pool.loops.length = i := by
      unfold Nat.ModEq
      rw [Nat.mod_eq_of_lt inside]
    rw [turn, if_neg some, beq_eq_decide, decide_eq_decide, residue]
    omega
  have shown : pool.given.count (1 + i) =
      pool.given.length.count (· ≡ i [MOD pool.loops.length]) := by
    conv_lhs => rw [inTurn.given]
    rw [List.count, List.countP_map, Nat.count]
    exact List.countP_congr fun k _ => by simp [same k]
  rw [shown, Nat.count_modEq_card _ positive, Nat.mod_eq_of_lt inside]

/-- A call returns the loop whose turn it was. -/
theorem InTurn.given_eq (inTurn : pool.InTurn) {k loop : Nat} (found : pool.given[k]? = some loop) :
    loop = pool.turn k := by
  rw [inTurn.given, List.getElem?_map, Option.map_eq_some_iff] at found
  obtain ⟨index, inside, rfl⟩ := found
  obtain ⟨_, rfl⟩ := List.getElem?_eq_some_iff.mp inside
  rw [List.getElem_range]

/-- No loop is given out more than once more than another one. -/
theorem InTurn.even (inTurn : pool.InTurn) (one : Nat) (first : one ∈ pool.loops) (other : Nat)
    (second : other ∈ pool.loops) : pool.given.count one ≤ pool.given.count other + 1 := by
  rw [inTurn.loops, List.mem_range'_1] at first second
  obtain ⟨i, rfl⟩ := Nat.exists_eq_add_of_le first.1
  obtain ⟨j, rfl⟩ := Nat.exists_eq_add_of_le second.1
  rw [inTurn.count (by omega), inTurn.count (by omega)]
  split <;> split <;> omega

end EventLoopThreadPool

end Muduo
