import Mathlib.Algebra.Order.Ring.Int
import Mathlib.Data.List.Infix
import Mathlib.Logic.Function.Basic
import Mathlib.Logic.Relation
import Mathlib.Tactic.Common

/-!
# Runs of a labelled transition relation

A step relates a state, the action taken in it and the state after it. A `Run` takes a list of
actions one after the other. Runs whose every step meets a condition on the state before it are
the runs of the `Guarded` relation, so an invariant that only guarded steps keep is an invariant
of a transition relation like any other. Where a record of the actions so far tells which actions
are possible, the lists of actions that have a run are those that follow the record. An observer
notes what each step shows without taking part in it.
-/

namespace Transition

variable {σ α : Type}

/-- Taking the listed actions in order leads from the first state to the last. -/
inductive Run (step : σ → α → σ → Prop) : σ → List α → σ → Prop
  | nil (state : σ) : Run step state [] state
  | cons {first second last : σ} {action : α} {actions : List α}
      (head : step first action second) (tail : Run step second actions last) :
      Run step first (action :: actions) last

/-- A step taken only in a state that meets the condition for its action. -/
def Guarded (step : σ → α → σ → Prop) (guard : σ → α → Prop) (before : σ) (action : α)
    (after : σ) : Prop :=
  step before action after ∧ guard before action

/-- A step taken only into a state that is good. -/
def Reaching (step : σ → α → σ → Prop) (good : σ → Prop) (before : σ) (action : α)
    (after : σ) : Prop :=
  step before action after ∧ good after

variable {step : σ → α → σ → Prop} {guard : σ → α → Prop} {first last : σ} {actions : List α}

/-- What every step keeps, every run keeps. -/
theorem Run.invariant {inv : σ → Prop} (run : Run step first actions last) (start : inv first)
    (keeps : ∀ before action after, inv before → step before action after → inv after) :
    inv last := by
  induction run with
  | nil => exact start
  | cons head _ ih => exact ih (keeps _ _ _ start head)

/-- What every step keeps of a state and the actions that led to it, every run keeps. -/
theorem Run.history {inv : List α → σ → Prop} {done : List α} (run : Run step first actions last)
    (start : inv done first)
    (keeps : ∀ done before action after, inv done before → step before action after →
      inv (done ++ [action]) after) : inv (done ++ actions) last := by
  induction run generalizing done with
  | nil =>
    rw [List.append_nil]
    exact start
  | cons head _ ih =>
    rw [← List.singleton_append, ← List.append_assoc]
    exact ih (keeps _ _ _ _ start head)

/-- A run of a longer list of actions passes through a state after its first part. -/
theorem Run.split {front back : List α} (run : Run step first (front ++ back) last) :
    ∃ middle, Run step first front middle ∧ Run step middle back last := by
  induction front generalizing first with
  | nil => exact ⟨first, .nil first, run⟩
  | cons action front ih =>
    cases run with
    | cons head tail =>
      obtain ⟨middle, before, after⟩ := ih tail
      exact ⟨middle, .cons head before, after⟩

/-- A run can go on from where another one ends. -/
theorem Run.append {middle : σ} {front back : List α} (before : Run step first front middle)
    (after : Run step middle back last) : Run step first (front ++ back) last := by
  induction before with
  | nil => exact after
  | cons head _ ih => exact .cons head (ih after)

/-- When an action leads to one state only, so does a list of actions. -/
theorem Run.unique {other : σ} (run : Run step first actions last)
    (again : Run step first actions other)
    (deterministic : ∀ before action after next, step before action after →
      step before action next → after = next) : last = other := by
  induction run with
  | nil =>
    cases again with
    | nil => rfl
  | cons head _ ih =>
    cases again with
    | cons head' tail' =>
      obtain rfl := deterministic _ _ _ _ head head'
      exact ih tail'

/-- A run of a smaller relation is a run of a larger one. -/
theorem Run.mono {larger : σ → α → σ → Prop} (run : Run step first actions last)
    (included : ∀ before action after, step before action after → larger before action after) :
    Run larger first actions last := by
  induction run with
  | nil => exact .nil _
  | cons head _ ih => exact .cons (included _ _ _ head) ih

/-- Guarded runs are runs. -/
theorem Run.unguarded (run : Run (Guarded step guard) first actions last) :
    Run step first actions last :=
  run.mono fun _ _ _ taken => taken.1

/-- A run of allowed actions is a run guarded by what is allowed. -/
theorem Run.allowed {allowed : α → Prop} (run : Run step first actions last)
    (all : ∀ action ∈ actions, allowed action) :
    Run (Guarded step fun _ => allowed) first actions last := by
  induction run with
  | nil => exact .nil _
  | cons head _ ih =>
    obtain ⟨now, later⟩ := List.forall_mem_cons.mp all
    exact .cons ⟨head, now⟩ (ih later)

/-- When a step that leads from an invariant state to a good one must have met its guard, a run
through good states only is guarded. The invariant is what guarded steps keep. -/
theorem Run.guarded {inv good : σ → Prop} (run : Run step first actions last) (start : inv first)
    (keeps : ∀ before action after, inv before → Guarded step guard before action after →
      inv after)
    (needed : ∀ before action after, inv before → step before action after → good after →
      guard before action)
    (through : ∀ front back middle, actions = front ++ back → Run step first front middle →
      Run step middle back last → good middle) :
    Run (Guarded step guard) first actions last := by
  induction run with
  | nil => exact .nil _
  | @cons first second last action actions head tail ih =>
    have reached : good second := through [action] actions second rfl (.cons head (.nil _)) tail
    have met : guard first action := needed _ _ _ start head reached
    refine .cons ⟨head, met⟩ (ih (keeps _ _ _ start ⟨head, met⟩) ?_)
    intro front back middle split before after
    exact through (action :: front) back middle (by rw [split, List.cons_append])
      (.cons head before) after

/-- When the steps that lead from an invariant state to a good one are those that meet their guard,
the runs through good states are the guarded runs. The invariant is what guarded steps keep. -/
theorem Run.reaching_iff {inv good : σ → Prop} (start : inv first)
    (same : ∀ before action after, inv before → step before action after →
      (good after ↔ guard before action))
    (keeps : ∀ before action after, inv before → Guarded step guard before action after →
      inv after) :
    Run (Reaching step good) first actions last ↔ Run (Guarded step guard) first actions last := by
  constructor
  · intro run
    induction run with
    | nil => exact .nil _
    | cons head _ ih =>
      have met := (same _ _ _ start head.1).mp head.2
      exact .cons ⟨head.1, met⟩ (ih (keeps _ _ _ start ⟨head.1, met⟩))
  · intro run
    induction run with
    | nil => exact .nil _
    | cons head _ ih =>
      have reached := (same _ _ _ start head.1).mpr head.2
      exact .cons ⟨head.1, reached⟩ (ih (keeps _ _ _ start head))

section Observation

variable {ρ : Type} {shows : σ → α → σ → List ρ}

/-- A state with what an observer noted on the way to it. -/
structure Observed (σ ρ : Type) where
  /-- The state. -/
  state : σ
  /-- What was noted, in order. -/
  notes : List ρ

/-- A step of which the observer notes what the states around it and its action show. -/
def Observing (step : σ → α → σ → Prop) (shows : σ → α → σ → List ρ) (before : Observed σ ρ)
    (action : α) (after : Observed σ ρ) : Prop :=
  step before.state action after.state ∧
    after.notes = before.notes ++ shows before.state action after.state

/-- An observed run begins with a step and what it shows. -/
theorem Run.observe {second : σ} {action : α} {notes : List ρ} {after : Observed σ ρ}
    (head : step first action second)
    (tail : Run (Observing step shows) ⟨second, notes ++ shows first action second⟩ actions after) :
    Run (Observing step shows) ⟨first, notes⟩ (action :: actions) after :=
  .cons ⟨head, rfl⟩ tail

end Observation

section Record

variable {η : Type} {next : η → α → η} {allows : η → α → Prop} {record : η}

/-- Every action of a list is allowed by the record of the actions before it. -/
def Obeys (next : η → α → η) (allows : η → α → Prop) : η → List α → Prop
  | _, [] => True
  | record, action :: actions =>
    allows record action ∧ Obeys next allows (next record action) actions

/-- Two rules are followed together. -/
theorem obeys_and {also : η → α → Prop} :
    Obeys next (fun record action => allows record action ∧ also record action) record actions ↔
      Obeys next allows record actions ∧ Obeys next also record actions := by
  induction actions generalizing record with
  | nil => exact ⟨fun _ => ⟨trivial, trivial⟩, fun _ => trivial⟩
  | cons action actions ih =>
    simp only [Obeys, ih]
    exact and_and_and_comm

/-- When the record tells which steps there are, and steps keep state and record in agreement, the
lists of actions with a run are those that follow the record. -/
theorem run_iff_obeys {agrees : σ → η → Prop} {legal : α → Prop} (start : agrees first record)
    (all : ∀ action ∈ actions, legal action)
    (enabled : ∀ state record action, legal action → agrees state record →
      ((∃ after, step state action after) ↔ allows record action))
    (keeps : ∀ state record action after, legal action → agrees state record →
      step state action after → agrees after (next record action)) :
    (∃ last, Run step first actions last) ↔ Obeys next allows record actions := by
  induction actions generalizing first record with
  | nil => exact ⟨fun _ => trivial, fun _ => ⟨first, .nil first⟩⟩
  | cons action actions ih =>
    obtain ⟨now, later⟩ := List.forall_mem_cons.mp all
    constructor
    · rintro ⟨last, _ | ⟨head, tail⟩⟩
      exact ⟨(enabled _ _ _ now start).mp ⟨_, head⟩,
        (ih (keeps _ _ _ _ now start head) later).mp ⟨last, tail⟩⟩
    · rintro ⟨allowed, follows⟩
      obtain ⟨second, head⟩ := (enabled _ _ _ now start).mpr allowed
      obtain ⟨last, tail⟩ := (ih (keeps _ _ _ _ now start head) later).mpr follows
      exact ⟨last, .cons head tail⟩

end Record

end Transition
