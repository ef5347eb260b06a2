import Muduo.Net.EventLoop

/-!
# `dc::net::EventLoopThread`

One thread owns the object: it calls `startLoop()` and later the destructor. `threadFunc` constructs
the loop, runs `m_callback`, publishes the loop through `m_loop` and calls `loop()` once. Any other
thread may call the loop from its construction on, and so may `m_callback`.

`loop()` begins by storing `false` to `is_quit`, so a `quit()` between the construction and that
store is lost.
-/

open Transition

namespace Muduo

/-- Where `threadFunc` is. -/
inductive ThreadStage
  /-- The thread is not started. -/
  | unborn
  /-- The loop is not constructed. -/
  | born
  /-- The loop is constructed and `m_callback` runs. -/
  | callback
  /-- `m_loop` is set and `loop()` has not stored to `is_quit`. -/
  | published
  /-- Inside `loop()`, after its first store to `is_quit`. -/
  | looping
  /-- `loop()` has returned. -/
  | returned
  /-- The thread has ended. -/
  | ended
  deriving DecidableEq, Repr

/-- Where the thread that owns the object is. -/
inductive OwnerPhase
  /-- Before `startLoop()`. -/
  | idle
  /-- In `startLoop()`, waiting for `m_loop`. -/
  | starting
  /-- `startLoop()` has returned. -/
  | started
  /-- In the destructor, having read an `m_loop` that is not null. -/
  | destroying
  /-- In `m_loop->quit()` of the destructor. -/
  | quitting
  /-- In `m_thread.join()` of the destructor. -/
  | joining
  /-- The destructor has returned. -/
  | destroyed
  deriving DecidableEq, Repr

/-- `class EventLoopThread` with its loop. The owner is the thread `none` of the loop's callers. -/
structure EventLoopThread (T : Type) where
  /-- Where `threadFunc` is. -/
  stage : ThreadStage
  /-- The loop on the stack of `threadFunc`. -/
  loop : LoopState (Option T)
  /-- `m_loop != nullptr`. -/
  published : Bool
  /-- Where the owner is. -/
  owner : OwnerPhase

/-- What a thread does next. -/
inductive ThreadAction (T : Type)
  /-- The owner calls `startLoop()`, which starts the thread. -/
  | start
  /-- `threadFunc` constructs the loop. -/
  | construct
  /-- `threadFunc` sets `m_loop`. -/
  | publish
  /-- `startLoop()` finds `m_loop` set and returns. -/
  | receive
  /-- A thread takes a step of a call on the loop, or the loop thread a step of `loop()`. -/
  | inner (action : LoopAction (Option T))
  /-- `threadFunc` clears `m_loop` and ends. -/
  | clear
  /-- The destructor reads `m_loop`. -/
  | destroy
  /-- The destructor calls `quit()`. -/
  | destroyQuit
  /-- The destructor calls `join()`. -/
  | join
  /-- `join()` returns. -/
  | joined
  deriving DecidableEq, Repr

namespace ThreadStage

/-- The steps on the loop that can be taken at a stage. -/
def Allows {U : Type} : ThreadStage → LoopAction U → Prop
  | callback, .queue | callback, .queued | callback, .quit => True
  | callback, .otherQueue _ | callback, .otherWakeup _ | callback, .otherQuit _ => True
  | published, .enter => True
  | published, .otherQueue _ | published, .otherWakeup _ | published, .otherQuit _ => True
  | looping, .enter => False
  | looping, _ => True
  | returned, .otherQueue _ | returned, .otherWakeup _ | returned, .otherQuit _ => True
  | _, _ => False

/-- The stage after a step on the loop that leads to a phase. -/
def after : ThreadStage → LoopPhase → ThreadStage
  | published, .test => looping
  | looping, .outside => returned
  | stage, _ => stage

/-- `loop()` has stored `false` to `is_quit`. -/
def Entered : ThreadStage → Prop
  | looping | returned | ended => True
  | unborn | born | callback | published => False

end ThreadStage

namespace EventLoopThread

variable {T : Type} [DecidableEq T]

/-- `EventLoopThread(cb, name)`. -/
def new : EventLoopThread T :=
  { stage := .unborn, loop := .new, published := false, owner := .idle }

/-- One step of a thread. -/
inductive Step : EventLoopThread T → ThreadAction T → EventLoopThread T → Prop
  | start {s : EventLoopThread T} (unborn : s.stage = .unborn) (idle : s.owner = .idle) :
      Step s .start { s with stage := .born, owner := .starting }
  | construct {s : EventLoopThread T} (born : s.stage = .born) :
      Step s .construct { s with stage := .callback }
  | publish {s : EventLoopThread T} (callback : s.stage = .callback)
      (idle : s.loop.self = .idle) :
      Step s .publish { s with stage := .published, published := true }
  | receive {s : EventLoopThread T} (starting : s.owner = .starting)
      (published : s.published = true) : Step s .receive { s with owner := .started }
  | inner {s : EventLoopThread T} {action : LoopAction (Option T)} {loop : LoopState (Option T)}
      (allowed : s.stage.Allows action)
      (owned : action = .otherQueue none ∨ action = .otherQuit none → s.owner = .started)
      (step : LoopState.Step s.loop action loop) :
      Step s (.inner action) { s with stage := s.stage.after loop.phase, loop }
  | clear {s : EventLoopThread T} (returned : s.stage = .returned) :
      Step s .clear { s with stage := .ended, published := false }
  | destroy {s : EventLoopThread T} (free : s.owner = .idle ∨ s.owner = .started) :
      Step s .destroy { s with owner := if s.published then .destroying else .destroyed }
  | destroyQuit {s : EventLoopThread T} {loop : LoopState (Option T)}
      (destroying : s.owner = .destroying) (alive : s.stage.Allows (.otherQuit (none : Option T)))
      (step : LoopState.Step s.loop (.otherQuit none) loop) :
      Step s .destroyQuit { s with loop, owner := .quitting }
  | join {s : EventLoopThread T} (quitting : s.owner = .quitting)
      (done : s.loop.others none = .idle) : Step s .join { s with owner := .joining }
  | joined {s : EventLoopThread T} (joining : s.owner = .joining) (ended : s.stage = .ended) :
      Step s .joined { s with owner := .destroyed }

end EventLoopThread

/-- Who calls `quit()`. -/
inductive Quitter (T : Type)
  /-- Code that the loop thread runs. -/
  | self
  /-- Another thread, the owner outside the destructor among them. -/
  | other (thread : Option T)
  /-- The destructor of `EventLoopThread`. -/
  | destructor
  deriving DecidableEq, Repr

namespace Quitter

variable {T : Type}

/-- The store to `is_quit` in the call. -/
def action : Quitter T → ThreadAction T
  | self => .inner .quit
  | other thread => .inner (.otherQuit thread)
  | destructor => .destroyQuit

/-- The call has returned, when these steps led from its store to the state. That of the destructor
has when `join()` is called. -/
def Returned : Quitter T → List (ThreadAction T) → EventLoopThread T → Prop
  | self, _, _ => True
  | other thread, steps, _ => .inner (.otherWakeup thread) ∈ steps
  | destructor, _, s => s.owner = .joining

/-- A call that has returned stays so as long as the owner stays where it is. -/
theorem Returned.append {who : Quitter T} {steps more : List (ThreadAction T)}
    {s t : EventLoopThread T} (returned : who.Returned steps s) (same : t.owner = s.owner) :
    who.Returned (steps ++ more) t := by
  cases who with
  | self => trivial
  | other thread => exact List.mem_append_left _ returned
  | destructor => exact same.trans returned

end Quitter

namespace EventLoopThread

variable {T : Type} [DecidableEq T]

/-- After the return of a `quit()` whose store led to this state, the loop thread never finds
`!is_quit` true and goes on to `poll`. -/
def Kept (who : Quitter T) (s : EventLoopThread T) : Prop :=
  ∀ steps before after, Run Step s steps before → who.Returned steps before →
    Step before (.inner .test) after → after.loop.phase ≠ .poll

/-- The loop thread before `loop()`. -/
structure Waiting (s : EventLoopThread T) : Prop where
  /-- The loop is not entered. -/
  outside : ¬s.stage.Entered → s.loop.phase = .outside
  /-- Between the publication and `loop()` the loop thread is in no call. -/
  idle : s.stage = .published → s.loop.self = .idle
  /-- The loop thread returns from `quit()` with its store. -/
  queuing : s.loop.self ≠ .quitting

end EventLoopThread

namespace LoopState

variable {T : Type} [DecidableEq T] {before after : LoopState T} {action : LoopAction T}

/-- Only the first store of `loop()` clears `is_quit`. -/
theorem Step.quit_stays (step : Step before action after) (inside : action ≠ .enter)
    (stopped : before.quit = true) : after.quit = true := by
  cases step with
  | enter => exact absurd rfl inside
  | quit => rfl
  | otherQuit => rfl
  | _ => exact stopped

/-- Outside `loop()` only its call changes where the loop thread is. -/
theorem Step.stays_outside (step : Step before action after) (inside : action ≠ .enter)
    (outside : before.phase = .outside) : after.phase = .outside := by
  cases step with
  | enter => exact absurd rfl inside
  | stay here => rw [outside] at here; cases here
  | leave => rfl
  | poll here => rw [outside] at here; cases here
  | handleRead here => rw [outside] at here; cases here
  | handled here => rw [outside] at here; cases here
  | swap here => rw [outside] at here; cases here
  | call here => rw [outside] at here; cases here
  | «return» here => rw [outside] at here; cases here
  | finish here => rw [outside] at here; cases here
  | _ => exact outside

/-- The loop thread is never between two steps of `quit()`. -/
theorem Step.self_ne_quitting (step : Step before action after)
    (queuing : before.self ≠ .quitting) : after.self ≠ .quitting := by
  cases step with
  | queue => simp
  | queuedWakeup => simp
  | queuedSilent => simp
  | _ => exact queuing

end LoopState

namespace ThreadStage

variable {U : Type} {action : LoopAction U}

/-- Once `loop()` is entered it stays entered. -/
theorem Entered.after {stage : ThreadStage} (entered : stage.Entered) (phase : LoopPhase) :
    (stage.after phase).Entered := by
  cases stage with
  | looping => cases phase <;> trivial
  | returned => trivial
  | ended => trivial
  | unborn => cases entered
  | born => cases entered
  | callback => cases entered
  | published => cases entered

/-- Outside `loop()` and before it the stage does not change. -/
theorem after_outside {stage : ThreadStage} (left : ¬stage.Entered) :
    stage.after .outside = stage := by
  cases stage with
  | looping => exact absurd trivial left
  | _ => rfl

/-- `threadFunc` enters `loop()` once. -/
theorem Entered.ne_enter {stage : ThreadStage} (entered : stage.Entered)
    (allowed : stage.Allows action) : action ≠ .enter := by
  intro enter
  subst enter
  cases stage <;> first | exact allowed | exact entered

end ThreadStage

namespace EventLoopThread

variable {T : Type}

/-- Nothing has happened yet. -/
theorem new_waiting : (new : EventLoopThread T).Waiting where
  outside _ := rfl
  idle unborn := by cases unborn
  queuing := by simp [new, LoopState.new]

variable [DecidableEq T]

/-- Every step on the loop keeps the account of the loop thread before `loop()`. -/
theorem Waiting.inner {s : EventLoopThread T} {action : LoopAction (Option T)}
    {loop : LoopState (Option T)} (waiting : s.Waiting) (allowed : s.stage.Allows action)
    (step : LoopState.Step s.loop action loop) :
    Waiting { s with stage := s.stage.after loop.phase, loop } := by
  have queuing : loop.self ≠ .quitting := step.self_ne_quitting waiting.queuing
  by_cases entered : s.stage.Entered
  · have still := entered.after loop.phase
    refine ⟨fun left => absurd still left, ?_, queuing⟩
    intro published
    change s.stage.after loop.phase = .published at published
    rw [published] at still
    exact still.elim
  · have outside := waiting.outside entered
    by_cases enters : action = .enter
    · subst enters
      have published : s.stage = .published := by
        cases stage : s.stage <;> rw [stage] at allowed <;> first | rfl | exact allowed.elim
      cases step with
      | enter =>
        refine ⟨fun left => ?_, fun same => ?_, queuing⟩
        · rw [published] at left
          exact absurd trivial left
        · rw [published] at same
          cases same
    · have still := step.stays_outside enters outside
      have stage : s.stage.after loop.phase = s.stage := by
        rw [still]
        exact ThreadStage.after_outside entered
      refine ⟨fun _ => still, fun published => ?_, queuing⟩
      change s.stage.after loop.phase = .published at published
      rw [stage] at published
      have idle := waiting.idle published
      rw [published] at allowed
      cases step with
      | queue => exact allowed.elim
      | queuedWakeup => exact allowed.elim
      | queuedSilent => exact allowed.elim
      | _ => exact idle

/-- Every step keeps the account of the loop thread before `loop()`. -/
theorem Step.waiting {before after : EventLoopThread T} {action : ThreadAction T}
    (step : Step before action after) (waiting : before.Waiting) : after.Waiting := by
  cases step with
  | start unborn =>
    refine ⟨fun _ => waiting.outside (by rw [unborn]; exact id), fun same => ?_, waiting.queuing⟩
    cases same
  | construct born =>
    refine ⟨fun _ => waiting.outside (by rw [born]; exact id), fun same => ?_, waiting.queuing⟩
    cases same
  | publish callback idle =>
    exact ⟨fun _ => waiting.outside (by rw [callback]; exact id), fun _ => idle,
      waiting.queuing⟩
  | inner allowed _ step => exact waiting.inner allowed step
  | clear =>
    refine ⟨fun left => absurd trivial left, fun same => ?_, waiting.queuing⟩
    cases same
  | destroyQuit _ _ step =>
    cases step with
    | otherQuit => exact ⟨waiting.outside, waiting.idle, waiting.queuing⟩
  | receive => exact ⟨waiting.outside, waiting.idle, waiting.queuing⟩
  | destroy => exact ⟨waiting.outside, waiting.idle, waiting.queuing⟩
  | join => exact ⟨waiting.outside, waiting.idle, waiting.queuing⟩
  | joined => exact ⟨waiting.outside, waiting.idle, waiting.queuing⟩

/-- The loop is entered and told to stop. -/
def Stopping (s : EventLoopThread T) : Prop := s.stage.Entered ∧ s.loop.quit = true

/-- Every step keeps an entered loop told to stop. -/
theorem Step.stopping {before after : EventLoopThread T} {action : ThreadAction T}
    (step : Step before action after) (stopping : before.Stopping) : after.Stopping := by
  obtain ⟨entered, stopped⟩ := stopping
  cases step with
  | start unborn => rw [unborn] at entered; cases entered
  | construct born => rw [born] at entered; cases entered
  | publish callback => rw [callback] at entered; cases entered
  | inner allowed _ step =>
    exact ⟨entered.after _, step.quit_stays (entered.ne_enter allowed) stopped⟩
  | clear => exact ⟨trivial, stopped⟩
  | destroyQuit _ _ step => exact ⟨entered, step.quit_stays (by simp) stopped⟩
  | receive => exact ⟨entered, stopped⟩
  | destroy => exact ⟨entered, stopped⟩
  | join => exact ⟨entered, stopped⟩
  | joined => exact ⟨entered, stopped⟩

/-- A loop told to stop does not go on to `poll`. -/
theorem Stopping.leaves {before after : EventLoopThread T} (stopping : before.Stopping)
    (step : Step before (.inner .test) after) : after.loop.phase ≠ .poll := by
  cases step with
  | inner _ _ step =>
    cases step with
    | stay _ running =>
      rw [stopping.2] at running
      cases running
    | leave => simp

/-- The store of `quit()` in an entered loop tells it to stop. -/
theorem Step.quit_stopping {s after : EventLoopThread T} {who : Quitter T}
    (step : Step s who.action after) (entered : s.stage.Entered) : after.Stopping := by
  cases who with
  | self =>
    cases step with
    | inner _ _ step =>
      cases step with
      | quit => exact ⟨entered.after _, rfl⟩
  | other thread =>
    cases step with
    | inner _ _ step =>
      cases step with
      | otherQuit => exact ⟨entered.after _, rfl⟩
  | destructor =>
    cases step with
    | destroyQuit _ _ step =>
      cases step with
      | otherQuit => exact ⟨entered, rfl⟩

/-- `m_callback` runs, or `m_loop` is set and `loop()` is not entered. -/
def Early (s : EventLoopThread T) : Prop := s.stage = .callback ∨ s.stage = .published

omit [DecidableEq T] in
/-- At an early stage `loop()` is not entered. -/
theorem Early.left {s : EventLoopThread T} (early : s.Early) : ¬s.stage.Entered := by
  rcases early with stage | stage <;> rw [stage] <;> exact id

omit [DecidableEq T] in
/-- When the loop can be called and is not entered, the stage is early. -/
theorem early_of_allows {s : EventLoopThread T} {action : LoopAction (Option T)}
    (allowed : s.stage.Allows action) (left : ¬s.stage.Entered) : s.Early := by
  cases stage : s.stage with
  | callback => exact .inl stage
  | published => exact .inr stage
  | unborn => rw [stage] at allowed; cases allowed
  | born => rw [stage] at allowed; cases allowed
  | looping => rw [stage] at left; exact absurd trivial left
  | returned => rw [stage] at left; exact absurd trivial left
  | ended => rw [stage] at left; exact absurd trivial left

/-- A call of another thread can return at an early stage. -/
theorem Waiting.otherWakeup {s : EventLoopThread T} (thread : Option T) (waiting : s.Waiting)
    (early : s.Early) (busy : s.loop.others thread ≠ .idle) :
    ∃ after, Step s (.inner (.otherWakeup thread)) after ∧ after.Early ∧
      after.owner = s.owner ∧ after.loop.others thread = .idle := by
  have allowed : s.stage.Allows (.otherWakeup thread) := by
    rcases early with stage | stage <;> rw [stage] <;> trivial
  refine ⟨_, .inner allowed (by simp) (.otherWakeup busy), ?_, rfl, Function.update_self _ _ _⟩
  show s.stage.after s.loop.phase = .callback ∨ s.stage.after s.loop.phase = .published
  rw [waiting.outside early.left, ThreadStage.after_outside early.left]
  exact early

/-- A `quit()` at an early stage can return at an early stage. -/
theorem Step.quit_returns {s after : EventLoopThread T} {who : Quitter T} (waiting : s.Waiting)
    (step : Step s who.action after) (left : ¬s.stage.Entered) :
    ∃ steps t, Run Step after steps t ∧ who.Returned steps t ∧ t.Early := by
  have outside := waiting.outside left
  have next : after.Waiting := step.waiting waiting
  cases who with
  | self =>
    cases step with
    | inner allowed _ step =>
      cases step with
      | quit =>
        refine ⟨[], _, .nil _, trivial, ?_⟩
        show s.stage.after s.loop.phase = .callback ∨ s.stage.after s.loop.phase = .published
        rw [outside, ThreadStage.after_outside left]
        exact early_of_allows allowed left
  | other thread =>
    cases step with
    | inner allowed _ step =>
      cases step with
      | otherQuit =>
        have early : Early { s with
            stage := s.stage.after s.loop.phase
            loop := { s.loop with
              quit := true
              others := Function.update s.loop.others thread .quitting } } := by
          show s.stage.after s.loop.phase = .callback ∨ s.stage.after s.loop.phase = .published
          rw [outside, ThreadStage.after_outside left]
          exact early_of_allows allowed left
        obtain ⟨t, wakeup, still, -⟩ := next.otherWakeup thread early (by simp)
        exact ⟨_, t, .cons wakeup (.nil _), List.mem_singleton_self _, still⟩
  | destructor =>
    cases step with
    | destroyQuit _ allowed step =>
      cases step with
      | otherQuit =>
        have early := early_of_allows allowed left
        obtain ⟨t, wakeup, still, owner, idle⟩ := next.otherWakeup none early (by simp)
        exact ⟨_, _, .cons wakeup (.cons (.join owner idle) (.nil _)), rfl, still⟩

/-- Between the publication and `loop()`, the loop thread can go on to `poll`. -/
theorem Waiting.polls_of_published {s : EventLoopThread T} (waiting : s.Waiting)
    (stage : s.stage = .published) :
    ∃ before after, Run Step s [.inner .enter] before ∧ before.owner = s.owner ∧
      Step before (.inner .test) after ∧ after.loop.phase = .poll := by
  have outside : s.loop.phase = .outside := waiting.outside (by rw [stage]; exact id)
  have enter : Step s (.inner .enter) _ :=
    .inner (by rw [stage]; trivial) (by simp) (.enter outside (waiting.idle stage))
  refine ⟨_, _, .cons enter (.nil _), rfl, .inner ?_ (by simp) (.stay rfl rfl), rfl⟩
  show (s.stage.after .test).Allows .test
  rw [stage]
  trivial

/-- When `m_callback` is in no call, the loop thread can publish the loop and go on to `poll`. -/
theorem Waiting.polls_of_idle {s : EventLoopThread T} (waiting : s.Waiting)
    (stage : s.stage = .callback) (idle : s.loop.self = .idle) :
    ∃ steps before after, Run Step s steps before ∧ before.owner = s.owner ∧
      Step before (.inner .test) after ∧ after.loop.phase = .poll := by
  have publish := Step.publish stage idle
  obtain ⟨before, after, run, owner, test, polls⟩ :=
    (publish.waiting waiting).polls_of_published rfl
  exact ⟨_, before, after, .cons publish run, owner, test, polls⟩

/-- From an early stage the loop thread can go on to `poll`. -/
theorem Waiting.polls {s : EventLoopThread T} (waiting : s.Waiting) (early : s.Early) :
    ∃ steps before after, Run Step s steps before ∧ before.owner = s.owner ∧
      Step before (.inner .test) after ∧ after.loop.phase = .poll := by
  rcases early with stage | stage
  · cases self : s.loop.self with
    | idle => exact waiting.polls_of_idle stage self
    | quitting => exact absurd self waiting.queuing
    | pushed functor =>
      have finishes : ∃ loop, LoopState.Step s.loop .queued loop ∧ loop.self = .idle ∧
          loop.phase = s.loop.phase := by
        cases calling : s.loop.calling with
        | true => exact ⟨_, .queuedWakeup self calling, rfl, rfl⟩
        | false => exact ⟨_, .queuedSilent self calling, rfl, rfl⟩
      obtain ⟨loop, queued, idle, phase⟩ := finishes
      have step : Step s (.inner .queued) { s with stage := s.stage.after loop.phase, loop } :=
        .inner (by rw [stage]; trivial) (by simp) queued
      have left : ¬s.stage.Entered := by
        rw [stage]
        exact id
      have callback : s.stage.after loop.phase = .callback := by
        rw [phase, waiting.outside left, ThreadStage.after_outside left, stage]
      obtain ⟨steps, before, after, run, owner, test, polls⟩ :=
        (step.waiting waiting).polls_of_idle callback idle
      exact ⟨_, before, after, .cons step run, owner, test, polls⟩
  · obtain ⟨before, after, rest⟩ := waiting.polls_of_published stage
    exact ⟨_, before, after, rest⟩

/-- In every interleaving, with a `quit()` by any thread at any point from the construction of the
loop on: after that `quit()` has returned the loop thread never again finds `!is_quit` true, if and
only if `loop()` had made its first store to `is_quit` before the store of `quit()`. -/
theorem quit_kept_iff (actions : List (ThreadAction T)) (s after : EventLoopThread T)
    (who : Quitter T) (run : Run Step new actions s) (quits : Step s who.action after) :
    after.Kept who ↔ s.stage.Entered := by
  have waiting : s.Waiting :=
    run.invariant new_waiting fun _ _ _ waiting step => step.waiting waiting
  constructor
  · intro kept
    by_contra left
    obtain ⟨steps, t, returns, returned, early⟩ := quits.quit_returns waiting left
    have still : t.Waiting := returns.invariant (quits.waiting waiting)
      fun _ _ _ waiting step => step.waiting waiting
    obtain ⟨more, before, next, goes, owner, test, polls⟩ := still.polls early
    exact kept _ before next (returns.append goes) (returned.append owner) test polls
  · intro entered steps before next during _ test
    have stopping : before.Stopping := during.invariant (quits.quit_stopping entered)
      fun _ _ _ stopping step => step.stopping stopping
    exact stopping.leaves test

/-- The destructor calls `quit()` inside `loop()`, and the thread it joins does not poll again. -/
theorem quit_kept_iff_looping :
    ∃ s after : EventLoopThread Unit,
      Run Step new [.start, .construct, .publish, .receive, .inner .enter, .destroy] s ∧
      Step s .destroyQuit after ∧ s.stage.Entered ∧ after.Kept .destructor := by
  have reached : ∃ s after : EventLoopThread Unit,
      Run Step new [.start, .construct, .publish, .receive, .inner .enter, .destroy] s ∧
      Step s .destroyQuit after ∧ s.stage.Entered :=
    ⟨_, _, .cons (.start rfl rfl) (.cons (.construct rfl) (.cons (.publish rfl rfl)
      (.cons (.receive rfl rfl) (.cons (.inner trivial (by simp) (.enter rfl rfl))
        (.cons (.destroy (.inr rfl)) (.nil _)))))),
      .destroyQuit rfl trivial (.otherQuit rfl), trivial⟩
  obtain ⟨s, after, run, quits, entered⟩ := reached
  exact ⟨s, after, run, quits, entered, (quit_kept_iff _ s after .destructor run quits).mpr entered⟩

/-- The destructor is called right after `startLoop()`, when the loop is published and not entered:
its `quit()` is lost and it joins a thread that polls. -/
theorem quit_lost_before_loop :
    ¬∀ (actions : List (ThreadAction Unit)) (s after : EventLoopThread Unit) (who : Quitter Unit),
      Run Step new actions s → Step s who.action after → s.stage ≠ .returned →
        after.Kept who := by
  intro kept
  have lost : ∃ s after before next : EventLoopThread Unit,
      Run Step new [.start, .construct, .publish, .receive, .destroy] s ∧
      Step s .destroyQuit after ∧ s.stage = .published ∧
      Run Step after [.inner (.otherWakeup none), .join, .inner .enter] before ∧
      before.owner = .joining ∧ Step before (.inner .test) next ∧ next.loop.phase = .poll :=
    ⟨_, _, _, _, .cons (.start rfl rfl) (.cons (.construct rfl) (.cons (.publish rfl rfl)
      (.cons (.receive rfl rfl) (.cons (.destroy (.inr rfl)) (.nil _))))),
      .destroyQuit rfl trivial (.otherQuit rfl), rfl,
      .cons (.inner trivial (by simp) (.otherWakeup (by simp)))
        (.cons (.join rfl rfl) (.cons (.inner trivial (by simp) (.enter rfl rfl)) (.nil _))),
      rfl, .inner trivial (by simp) (.stay rfl rfl), rfl⟩
  obtain ⟨s, after, before, next, run, quits, stage, joins, joining, test, polls⟩ := lost
  exact kept _ s after .destructor run quits (by rw [stage]; decide) _ before next joins joining
    test polls

end EventLoopThread

end Muduo
