import Mathlib.Data.List.Range
import Muduo.Net.EventLoop

/-!
# The order in which pending functors run

Functors are named by the number of their push, so the pushes in lock order are
`List.range s.pushes`. What was called, what the current batch has left and what is in the queue
are at all times this list cut in three.
-/

open Transition

namespace Muduo

/-- The functors of the current batch that are not called yet. -/
def LoopPhase.batch : LoopPhase → List Nat
  | functors rest | running rest => rest
  | outside | test | poll | events _ | swap => []

/-- The steps with which `doPendingFunctors()` itself ends the batch: a call and a return for each
functor left, and then the end of the loop. -/
def completion (T : Type) : List Nat → List (LoopAction T)
  | [] => [.finish]
  | _ :: rest => .call :: .return :: completion T rest

/-- Of a list without duplicates, what is not in its first part is its last part. -/
theorem filter_not_mem_front {front back : List Nat} (nodup : (front ++ back).Nodup) :
    (front ++ back).filter (· ∉ front) = back := by
  have apart : ∀ functor ∈ back, functor ∉ front := by
    intro functor last first
    exact (List.nodup_append.mp nodup).2.2 functor first functor last rfl
  have none : front.filter (· ∉ front) = [] := by
    simp [List.filter_eq_nil_iff]
  have all : back.filter (· ∉ front) = back := by
    rw [List.filter_eq_self]
    intro functor last
    exact decide_eq_true (apart functor last)
  rw [List.filter_append, none, all, List.nil_append]

namespace LoopState

variable {T : Type}

/-- The pushes in lock order are those called, then those of the batch, then those in the queue. -/
def InOrder (s : LoopState T) : Prop :=
  s.called ++ s.phase.batch ++ s.pending = List.range s.pushes

/-- Moving between phases without a batch keeps the order. -/
theorem InOrder.move {s : LoopState T} (order : s.InOrder) {phase : LoopPhase} {self : Caller}
    {others : T → Caller} {counter : Nat} {calling quit : Bool}
    (same : phase.batch = s.phase.batch) :
    { s with phase, self, others, counter, calling, quit }.InOrder := by
  unfold InOrder at order ⊢
  rw [same]
  exact order

/-- A push is last in the queue and last in lock order. -/
theorem InOrder.push {s : LoopState T} (order : s.InOrder) {self : Caller}
    {others : T → Caller} : { s.push with self, others }.InOrder := by
  unfold InOrder at order ⊢
  show s.called ++ s.phase.batch ++ (s.pending ++ [s.pushes]) = List.range (s.pushes + 1)
  rw [List.range_succ, ← order, List.append_assoc, List.append_assoc, List.append_assoc]

/-- A new loop has pushed and called nothing. -/
theorem new_inOrder : (new : LoopState T).InOrder := rfl

/-- Before a swap the pushes are those called and those in the queue. -/
theorem InOrder.swapping {s : LoopState T} (order : s.InOrder) (swapping : s.phase = .swap) :
    s.called ++ s.pending = List.range s.pushes := by
  unfold InOrder at order
  rw [swapping] at order
  show s.called ++ s.pending = _
  rw [← order]
  exact congrArg (· ++ s.pending) (List.append_nil _).symm

/-- Before a swap the queue holds what was pushed and not called. -/
theorem InOrder.pending_eq {s : LoopState T} (order : s.InOrder) (swapping : s.phase = .swap) :
    s.pending = (List.range s.pushes).filter (· ∉ s.called) := by
  have parts := order.swapping swapping
  rw [← parts, filter_not_mem_front (by rw [parts]; exact List.nodup_range)]

/-- Outside the code of the user the loop thread is in no call of its own. -/
def Quiet (s : LoopState T) : Prop := ¬s.phase.RunsCode → s.self = .idle

variable [DecidableEq T]

/-- Every step of every thread keeps the order. -/
theorem Step.inOrder {before after : LoopState T} {action : LoopAction T}
    (step : Step before action after) (order : before.InOrder) : after.InOrder := by
  cases step with
  | enter outside => exact order.move (by rw [outside]; rfl)
  | stay testing => exact order.move (by rw [testing]; rfl)
  | leave testing => exact order.move (by rw [testing]; rfl)
  | poll polling => exact order.move (by rw [polling]; rfl)
  | handleRead handling => exact order.move (by rw [handling]; rfl)
  | handled handling => exact order.move (by rw [handling]; rfl)
  | swap swapping =>
    unfold InOrder at order ⊢
    rw [swapping] at order
    show before.called ++ before.pending ++ [] = List.range before.pushes
    rw [List.append_nil, ← order]
    exact congrArg (· ++ before.pending) (List.append_nil _).symm
  | @call functor rest calling =>
    unfold InOrder at order ⊢
    rw [calling] at order
    show before.called ++ [functor] ++ rest ++ before.pending = List.range before.pushes
    rw [← order]
    simp [LoopPhase.batch]
  | «return» running => exact order.move (by rw [running]; rfl)
  | finish ended => exact order.move (by rw [ended]; rfl)
  | queue => exact order.push
  | queuedWakeup => exact order.move rfl
  | queuedSilent => exact order.move rfl
  | quit => exact order.move rfl
  | otherQueue => exact order.push
  | otherWakeup => exact order.move rfl
  | otherQuit => exact order.move rfl

/-- Every step of every thread keeps the loop thread quiet outside the code of the user. -/
theorem Step.quiet {before after : LoopState T} {action : LoopAction T}
    (step : Step before action after) (quiet : before.Quiet) : after.Quiet := by
  unfold Quiet at quiet ⊢
  cases step with
  | enter _ idle => exact fun _ => idle
  | stay testing => exact fun _ => quiet (by rw [testing]; exact id)
  | leave => exact fun user => absurd trivial user
  | poll => exact fun user => absurd trivial user
  | handleRead => exact fun user => absurd trivial user
  | handled _ idle => exact fun _ => idle
  | swap swapping => exact fun _ => quiet (by rw [swapping]; exact id)
  | call => exact fun user => absurd trivial user
  | «return» _ idle => exact fun _ => idle
  | finish ended => exact fun _ => quiet (by rw [ended]; exact id)
  | queue user => exact fun other => absurd user other
  | queuedWakeup => exact fun _ => rfl
  | queuedSilent => exact fun _ => rfl
  | quit => exact quiet
  | otherQueue => exact quiet
  | otherWakeup => exact quiet
  | otherQuit => exact quiet

/-- The loop thread is quiet outside the code of the user in every reachable state. -/
theorem quiet_of_run {actions : List (LoopAction T)} {s : LoopState T}
    (run : Run Step new actions s) : s.Quiet :=
  run.invariant (fun _ => rfl) fun _ _ _ quiet step => step.quiet quiet

/-- The order holds in every reachable state. -/
theorem inOrder_of_run {actions : List (LoopAction T)} {s : LoopState T}
    (run : Run Step new actions s) : s.InOrder :=
  run.invariant new_inOrder fun _ _ _ order step => step.inOrder order

/-- What a call of `doPendingFunctors()` has done since its swap, which took these functors: it
has called a first part of them, once for each call step, and has the others left. -/
structure Progress (called functors : List Nat) (batch : List (LoopAction T))
    (s : LoopState T) : Prop where
  /-- The functors called since the swap and those left are those taken. -/
  taken : ∃ executed, s.called = called ++ executed ∧ executed ++ s.phase.batch = functors ∧
    batch.count .call = executed.length
  /-- The call has not ended. -/
  inside : (∃ rest, s.phase = .functors rest) ∨ ∃ rest, s.phase = .running rest

/-- A step that leaves the batch alone. -/
theorem Progress.keep {called functors : List Nat} {batch : List (LoopAction T)}
    {before after : LoopState T} {action : LoopAction T}
    (progress : Progress called functors batch before) (other : action ≠ .call)
    (same : after.called = before.called) (phase : after.phase = before.phase) :
    Progress called functors (batch ++ [action]) after := by
  have count : (batch ++ [action]).count .call = batch.count .call := by
    rw [List.count_append, List.count_singleton, if_neg (by simpa using other), Nat.add_zero]
  constructor
  · rw [count, same, phase]
    exact progress.taken
  · rw [phase]
    exact progress.inside

/-- Every step but the last one of `doPendingFunctors()` keeps the account of its batch. -/
theorem Step.progress {called functors : List Nat} {batch : List (LoopAction T)}
    {before after : LoopState T} {action : LoopAction T} (step : Step before action after)
    (unfinished : action ≠ .finish) (progress : Progress called functors batch before) :
    Progress called functors (batch ++ [action]) after := by
  have elsewhere : ∀ {phase : LoopPhase}, before.phase = phase →
      (∀ rest, phase ≠ .functors rest) → (∀ rest, phase ≠ .running rest) → False := by
    intro phase here waiting running
    rcases progress.inside with ⟨rest, inside⟩ | ⟨rest, inside⟩
    · exact waiting rest (here.symm.trans inside)
    · exact running rest (here.symm.trans inside)
  cases step with
  | enter outside => exact (elsewhere outside (by simp) (by simp)).elim
  | stay testing => exact (elsewhere testing (by simp) (by simp)).elim
  | leave testing => exact (elsewhere testing (by simp) (by simp)).elim
  | poll polling => exact (elsewhere polling (by simp) (by simp)).elim
  | handleRead handling => exact (elsewhere handling (by simp) (by simp)).elim
  | handled handling => exact (elsewhere handling (by simp) (by simp)).elim
  | swap swapping => exact (elsewhere swapping (by simp) (by simp)).elim
  | @call functor rest calling =>
    obtain ⟨executed, called, taken, counted⟩ := progress.taken
    rw [calling] at taken
    refine ⟨⟨executed ++ [functor], ?_, ?_, ?_⟩, .inr ⟨rest, rfl⟩⟩
    · show before.called ++ [functor] = _
      rw [called, List.append_assoc]
    · rw [← taken, List.append_assoc]
      rfl
    · rw [List.count_append, List.count_singleton, if_pos (beq_self_eq_true _), counted,
        List.length_append, List.length_singleton]
  | @«return» rest running =>
    obtain ⟨executed, called, taken, counted⟩ := progress.taken
    rw [running] at taken
    refine ⟨⟨executed, called, taken, ?_⟩, .inl ⟨rest, rfl⟩⟩
    rw [List.count_append]
    exact counted
  | finish => exact absurd rfl unfinished
  | queue => exact progress.keep (by simp) rfl rfl
  | queuedWakeup => exact progress.keep (by simp) rfl rfl
  | queuedSilent => exact progress.keep (by simp) rfl rfl
  | quit => exact progress.keep (by simp) rfl rfl
  | otherQueue => exact progress.keep (by simp) rfl rfl
  | otherWakeup => exact progress.keep (by simp) rfl rfl
  | otherQuit => exact progress.keep (by simp) rfl rfl

/-- The account of a batch along any run in which `doPendingFunctors()` does not end. -/
theorem progress_of_run {called functors : List Nat} {done batch : List (LoopAction T)}
    {before after : LoopState T} (run : Run Step before batch after) (unfinished : .finish ∉ batch)
    (progress : Progress called functors done before) :
    Progress called functors (done ++ batch) after := by
  induction run generalizing done with
  | nil =>
    rw [List.append_nil]
    exact progress
  | @cons _ _ _ action batch head _ ih =>
    rw [List.mem_cons, not_or] at unfinished
    rw [← List.singleton_append, ← List.append_assoc]
    exact ih unfinished.2 (head.progress (Ne.symm unfinished.1) progress)

/-- The swap opens the account. -/
theorem Step.swap_progress {before after : LoopState T} (step : Step before .swap after) :
    Progress before.called before.pending [] after := by
  cases step with
  | swap swapping => exact ⟨⟨[], (List.append_nil _).symm, rfl, rfl⟩, .inl ⟨_, rfl⟩⟩

/-- With no functor running, `doPendingFunctors()` can go on to its end by itself. -/
theorem completes {s : LoopState T} {rest : List Nat} (waiting : s.phase = .functors rest)
    (idle : s.self = .idle) : ∃ after, Run Step s (completion T rest) after ∧
      after.phase = .test ∧ after.called = s.called ++ rest := by
  induction rest generalizing s with
  | nil =>
    refine ⟨_, .cons (.finish waiting) (.nil _), rfl, ?_⟩
    rw [List.append_nil]
  | cons functor rest ih =>
    have next := ih (s := { s with phase := .functors rest, called := s.called ++ [functor] })
      rfl idle
    obtain ⟨after, run, ended, called⟩ := next
    refine ⟨after, .cons (.call waiting) (.cons (.return rfl idle) run), ended, ?_⟩
    rw [called]
    show s.called ++ [functor] ++ rest = s.called ++ functor :: rest
    rw [List.append_assoc, List.singleton_append]

/-- In every interleaving, the functors called so far are a first part of the pushes in lock order.
Between the swap of a call of `doPendingFunctors()` and its end, the functors it has called are a
first part of those pushed before the swap and not called earlier, one for each call step and none
of them pushed after the swap; at its end they are all of them. And whenever none of them is
running, the call ends by calling those left. -/
theorem functors_run_in_order (actions : List (LoopAction T)) (s : LoopState T)
    (run : Run Step new actions s) :
    s.called <+: List.range s.pushes ∧
      ∀ swapped batch t, Step s .swap swapped → Run Step swapped batch t → .finish ∉ batch →
        (∃ executed, t.called = s.called ++ executed ∧
          executed <+: (List.range s.pushes).filter (· ∉ s.called) ∧
          batch.count .call = executed.length) ∧
        (∀ functor ∈ t.called, functor < s.pushes) ∧
        (∀ ended, Step t .finish ended →
          ended.called = s.called ++ (List.range s.pushes).filter (· ∉ s.called)) ∧
        ∀ rest, t.phase = .functors rest →
          ∃ ended, Run Step t (completion T rest) ended ∧ ended.phase = .test ∧
            ended.called = List.range s.pushes := by
  have order : s.InOrder := inOrder_of_run run
  refine ⟨⟨_, (List.append_assoc _ _ _).symm.trans order⟩, ?_⟩
  intro swapped batch t swap during unfinished
  have swapping : s.phase = .swap := by
    cases swap with
    | swap swapping => exact swapping
  have progress : Progress s.called s.pending ([] ++ batch) t :=
    progress_of_run during unfinished swap.swap_progress
  obtain ⟨executed, called, taken, counted⟩ := progress.taken
  rw [← order.pending_eq swapping]
  refine ⟨⟨executed, called, ⟨_, taken⟩, counted⟩, ?_, ?_, ?_⟩
  · intro functor ran
    have pushed : functor ∈ s.called ++ s.pending := by
      rw [← taken, ← List.append_assoc, ← called]
      exact List.mem_append_left _ ran
    rw [order.swapping swapping] at pushed
    exact List.mem_range.mp pushed
  · intro ended finish
    cases finish with
    | finish waiting =>
      rw [waiting] at taken
      have all : executed = s.pending := (List.append_nil _).symm.trans taken
      rw [← all]
      exact called
  · intro rest waiting
    have reached : t.Quiet := by
      have steps : Run Step s (.swap :: batch) t := .cons swap during
      exact steps.invariant (quiet_of_run run) fun _ _ _ quiet step => step.quiet quiet
    obtain ⟨ended, completion, stopped, all⟩ := completes waiting (reached (by
      rw [waiting]
      exact id))
    rw [waiting] at taken
    refine ⟨ended, completion, stopped, ?_⟩
    rw [all, called, List.append_assoc]
    exact (congrArg (s.called ++ ·) taken).trans (order.swapping swapping)

/-- A functor queues another one, which its batch does not call. -/
theorem functors_run_in_order_requeued :
    ∃ s swapped t ended : LoopState Unit,
      Run Step new [.enter, .otherQueue (), .otherWakeup (), .test, .poll true, .handleRead,
        .handled] s ∧
      Step s .swap swapped ∧ Run Step swapped [.call, .queue, .queued, .return] t ∧
      Step t .finish ended ∧ t.pending = [1] ∧
      ended.called = s.called ++ (List.range s.pushes).filter (· ∉ s.called) := by
  have reached : ∃ s swapped t ended : LoopState Unit,
      Run Step new [.enter, .otherQueue (), .otherWakeup (), .test, .poll true, .handleRead,
        .handled] s ∧
      Step s .swap swapped ∧ Run Step swapped [.call, .queue, .queued, .return] t ∧
      Step t .finish ended ∧ t.pending = [1] :=
    ⟨_, _, _, _,
      .cons (.enter rfl rfl) (.cons (.otherQueue rfl) (.cons (.otherWakeup (by simp))
        (.cons (.stay rfl rfl) (.cons (.poll rfl fun _ => eventfdWrite_pos 0)
          (.cons (.handleRead rfl rfl) (.cons (.handled rfl rfl) (.nil _))))))),
      .swap rfl,
      .cons (.call rfl) (.cons (.queue trivial rfl) (.cons (.queuedWakeup rfl rfl)
        (.cons (.return rfl rfl) (.nil _)))),
      .finish rfl, rfl⟩
  obtain ⟨s, swapped, t, ended, run, swap, during, finish, queued⟩ := reached
  have results := (functors_run_in_order _ s run).2 swapped _ t swap during (by decide)
  exact ⟨s, swapped, t, ended, run, swap, during, finish, queued, results.2.2.1 ended finish⟩

end LoopState

end Muduo
