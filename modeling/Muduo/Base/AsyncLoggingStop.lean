import Muduo.Base.AsyncLogging

/-!
# What `AsyncLogging::stop` saves

`stop()` clears `is_running` without `m_mutex` and joins the backend. The backend reads `is_running`
only at the head of its loop and does not swap again after it found it false, so whether the last
lines reach the file depends on where the backend was.
-/

open Outcome Transition

namespace Muduo

/-- The phases of the backend outside a wait and the swap after it. -/
def BackendPhase.Outside : BackendPhase → Prop
  | test | write _ | recycle | flush | leave | ended => True
  | unborn | lock | wait | trim => False

namespace AsyncLogging

/-- The bytes that the backend has taken. -/
def taken (s : AsyncLogging) : List UInt8 := s.batches.flatMap Batch.all ++ s.untrimmed

/-- The backend has found `is_running` true and has not swapped since. -/
def Gathering (s : AsyncLogging) : Prop := s.phase = .lock ∨ s.phase = .wait

/-- The log file is flushed when the backend ends. -/
def Flushed (s : AsyncLogging) : Prop := s.phase = .ended → s.flushed = s.given

/-- What one step does to the bytes taken and to the end of the backend. -/
structure Effect (before after : AsyncLogging) : Prop where
  /-- Lines are only added. -/
  lines : before.lines <+: after.lines
  /-- The backend takes all there is in the front end, or nothing. -/
  taken : after.taken = before.taken ∧ (before.Gathering → after.Gathering) ∨
    before.Gathering ∧ after.taken = before.taken ++ before.front
  /-- Once `is_running` is false the backend does not begin another batch. -/
  stopped : before.running = false → before.phase ≠ .unborn →
    after.running = false ∧ after.phase ≠ .unborn ∧ (after.Gathering → before.Gathering)
  /-- The last thing the backend does is to flush. -/
  flushed : before.Flushed → after.Flushed

/-- A step in which the backend neither begins nor ends anything. -/
theorem Effect.of_same {before after : AsyncLogging} (lines : before.lines <+: after.lines)
    (running : before.running = false → after.running = false)
    (phase : after.phase = before.phase)
    (batches : after.batches = before.batches)
    (buffersToWrite : after.buffersToWrite = before.buffersToWrite)
    (given : after.given = before.given) (flushed : after.flushed = before.flushed) :
    Effect before after where
  lines := lines
  taken := by
    refine .inl ⟨?_, ?_⟩
    · unfold AsyncLogging.taken untrimmed
      rw [batches, phase, buffersToWrite]
    · unfold Gathering
      rw [phase]
      exact id
  stopped := by
    unfold Gathering
    rw [phase]
    exact fun stopped started => ⟨running stopped, started, id⟩
  flushed := by
    unfold Flushed
    rw [phase, given, flushed]
    exact id

/-- A step of the backend that takes nothing, from one phase to another. -/
theorem Effect.of_move {before after : AsyncLogging} (lines : after.lines = before.lines)
    (running : after.running = before.running)
    (gathering : before.Gathering → after.Gathering)
    (begins : before.running = false → after.Gathering → before.Gathering)
    (started : after.phase ≠ .unborn) (taken : after.taken = before.taken)
    (flushed : after.Flushed) : Effect before after where
  lines := by rw [lines]
  taken := .inl ⟨taken, gathering⟩
  stopped stopped _ := ⟨running.trans stopped, started, begins stopped⟩
  flushed _ := flushed

/-- Outside the wait and the swap nothing is half taken, and no batch is begun. -/
theorem outside_phase {s : AsyncLogging} (outside : s.phase.Outside) :
    s.untrimmed = [] ∧ ¬s.Gathering ∧ s.phase ≠ .unborn := by
  unfold untrimmed Gathering
  cases phase : s.phase with
  | unborn => rw [phase] at outside; cases outside
  | lock => rw [phase] at outside; cases outside
  | wait => rw [phase] at outside; cases outside
  | trim => rw [phase] at outside; cases outside
  | _ => simp

/-- A step of the backend outside the wait and the swap. -/
theorem Effect.of_outside {before after : AsyncLogging} (lines : after.lines = before.lines)
    (running : after.running = before.running) (outside : before.phase.Outside)
    (still : after.phase.Outside) (batches : after.batches = before.batches)
    (flushed : after.Flushed) : Effect before after := by
  obtain ⟨nothing, left, -⟩ := outside_phase outside
  obtain ⟨none, stays, started⟩ := outside_phase still
  refine .of_move lines running (fun gathering => absurd gathering left)
    (fun _ gathering => absurd gathering stays) started ?_ flushed
  unfold AsyncLogging.taken
  rw [batches, nothing, none]

/-- A line touches the buffers of the front end only. -/
theorem append_effect {s : AsyncLogging} {logline : List UInt8} :
    Meets (do
      let appended ← s.append logline
      .ok { appended with lines := s.lines ++ [logline] }) (Effect s) fun _ => True := by
  have kept : Meets (s.append logline) (fun after => after.running = s.running ∧
      after.phase = s.phase ∧ after.batches = s.batches ∧
      after.buffersToWrite = s.buffersToWrite ∧ after.given = s.given ∧
      after.flushed = s.flushed) fun _ => True := by
    unfold append
    by_cases null : s.currentBuffer.isNone
    · simp only [null, ↓reduceIte]
      split
      · exact .error trivial
      · split <;> exact .ok ⟨rfl, rfl, rfl, rfl, rfl, rfl⟩
    · simp only [null]
      split
      · exact .error trivial
      · split <;> exact .ok ⟨rfl, rfl, rfl, rfl, rfl, rfl⟩
  refine kept.bind fun after ⟨running, phase, batches, buffersToWrite, given, flushed⟩ => .ok ?_
  exact .of_same (List.prefix_append _ _) running.trans phase batches buffersToWrite given flushed

/-- The swap takes all there is in the front end. -/
theorem swap_effect {s : AsyncLogging} (gathering : s.Gathering) :
    Meets s.swap (Effect s) fun _ => True := by
  have untrimmed : s.untrimmed = [] := by
    unfold untrimmed
    rcases gathering with phase | phase <;> rw [phase]
  unfold swap
  by_cases nonempty : (!(s.buffers ++ [s.currentBuffer]).isEmpty) = true
  · simp only [nonempty, ensure_true, ok_bind]
    refine .ok ⟨List.prefix_rfl, .inr ⟨gathering, ?_⟩, ?_, ?_⟩
    · show _ ++ content (s.buffers ++ [s.currentBuffer]) = s.taken ++ s.front
      unfold taken front
      rw [untrimmed, content_append, List.append_nil]
    · exact fun stopped _ => ⟨stopped, by simp, fun _ => gathering⟩
    · exact fun _ ended => by cases ended
  · simp at nonempty

/-- A batch stays taken when it is trimmed. -/
theorem trim_effect {s : AsyncLogging} (time : List UInt8) (trimming : s.phase = .trim) :
    Effect s (s.trim time) := by
  have taken : (s.trim time).taken = s.taken := by
    unfold AsyncLogging.taken
    unfold trim
    split <;> simp [untrimmed, trimming, Batch.all]
  have same : (s.trim time).lines = s.lines ∧ (s.trim time).running = s.running ∧
      ∃ rest, (s.trim time).phase = .write rest := by
    unfold trim
    split <;> exact ⟨rfl, rfl, _, rfl⟩
  obtain ⟨lines, running, rest, phase⟩ := same
  have stays : ¬(s.trim time).Gathering := by simp [Gathering, phase]
  refine .of_move lines running ?_ (fun _ gathering => absurd gathering stays) ?_ taken ?_
  · simp [Gathering, trimming]
  · simp [phase]
  · simp [Flushed, phase]

/-- Every step has such an effect. -/
theorem Attempt.effect {s : AsyncLogging} {action : LogAction}
    {result : Except Fault AsyncLogging} (attempt : Attempt s action result) :
    Meets result (Effect s) fun _ => True := by
  cases attempt with
  | append => exact append_effect
  | start unborn =>
    refine .ok ⟨List.prefix_rfl, .inl ⟨?_, ?_⟩, ?_, ?_⟩
    · simp [taken, untrimmed, AsyncLogging.start, unborn]
    · simp [Gathering, unborn]
    · exact fun _ started => absurd unborn started
    · exact fun _ ended => by cases ended
  | stop => exact .ok (.of_same List.prefix_rfl (fun _ => rfl) rfl rfl rfl rfl rfl)
  | test testing =>
    unfold AsyncLogging.test
    split
    · next running =>
      have begins : Effect s { s with phase := .lock } := by
        refine .of_move rfl rfl ?_ ?_ ?_ ?_ ?_
        · exact fun _ => .inl rfl
        · intro stopped
          rw [running] at stopped
          cases stopped
        · simp
        · simp [taken, untrimmed, testing]
        · simp [Flushed]
      exact (Meets.any _).bind fun _ _ => (Meets.any _).bind fun _ _ => (Meets.any _).bind
        fun _ _ => .ok begins
    · exact .ok (.of_outside rfl rfl (by rw [testing]; trivial) trivial rfl (by simp [Flushed]))
  | lock locking =>
    unfold AsyncLogging.lock
    split
    · refine .ok (.of_move rfl rfl ?_ ?_ ?_ ?_ ?_)
      · exact fun _ => .inr rfl
      · exact fun _ _ => .inl locking
      · simp
      · simp [taken, untrimmed, locking]
      · simp [Flushed]
    · exact swap_effect (.inl locking)
  | wake waiting => exact swap_effect (.inr waiting)
  | trim trimming => exact .ok (trim_effect _ trimming)
  | @write buffer rest writing =>
    cases buffer with
    | none => exact .error trivial
    | some object =>
      exact .ok (.of_outside rfl rfl (by rw [writing]; trivial) trivial rfl (by simp [Flushed]))
  | written writing =>
    exact .ok (.of_outside rfl rfl (by rw [writing]; trivial) trivial rfl (by simp [Flushed]))
  | recycle recycling =>
    unfold AsyncLogging.recycle
    exact (Meets.any _).bind fun _ _ => (Meets.any _).bind fun _ _ =>
      .ok (.of_outside rfl rfl (by rw [recycling]; trivial) trivial rfl (by simp [Flushed]))
  | flush flushing =>
    exact .ok (.of_outside rfl rfl (by rw [flushing]; trivial) trivial rfl (by simp [Flushed]))
  | leave leaving =>
    exact .ok (.of_outside rfl rfl (by rw [leaving]; trivial) trivial rfl (by simp [Flushed]))

/-- The lines are the bytes taken and those in the front end. -/
theorem Sound.lines_eq {s : AsyncLogging} (sound : s.Sound) :
    s.lines.flatten = s.taken ++ s.front := sound.conserved

/-- When the backend has ended, the bytes taken are those of its batches. -/
theorem taken_of_ended {s : AsyncLogging} (ended : s.phase = .ended) :
    s.taken = s.batches.flatMap Batch.all := by
  unfold taken untrimmed
  rw [ended]
  exact List.append_nil _

/-- The bytes of these lines are taken, or the backend is about to take them. -/
structure Covers (lines : List (List UInt8)) (s : AsyncLogging) : Prop where
  /-- The state is sound. -/
  sound : s.Sound
  /-- The lines are among those appended. -/
  appended : lines <+: s.lines
  /-- Their bytes are taken, or all bytes are about to be. -/
  taken : s.Gathering ∨ lines.flatten <+: s.taken

/-- Every step keeps lines covered. -/
theorem Covers.step {lines : List (List UInt8)} {before after : AsyncLogging} {action : LogAction}
    (covers : Covers lines before) (step : Step before action after) (fits : before.Fits action) :
    Covers lines after := by
  have effect : Effect before after := step.effect.of_ok rfl
  refine ⟨(step.sound fits covers.sound).of_ok rfl, covers.appended.trans effect.lines, ?_⟩
  rcases effect.taken with ⟨same, gathering⟩ | ⟨_, all⟩
  · rw [same]
    exact covers.taken.imp_left gathering
  · rw [all, ← covers.sound.lines_eq]
    exact .inr covers.appended.flatten

/-- The backend will not take anything any more. -/
structure Ceased (taken : List UInt8) (s : AsyncLogging) : Prop where
  /-- `is_running` is false. -/
  stopped : s.running = false
  /-- The thread was started. -/
  started : s.phase ≠ .unborn
  /-- No swap is about to happen. -/
  outside : ¬s.Gathering
  /-- These bytes were taken. -/
  taken : s.taken = taken

/-- A backend that has ceased to take bytes takes none. -/
theorem Ceased.step {taken : List UInt8} {before after : AsyncLogging} {action : LogAction}
    (ceased : Ceased taken before) (step : Step before action after) : Ceased taken after := by
  have effect : Effect before after := step.effect.of_ok rfl
  obtain ⟨stopped, started, begins⟩ := effect.stopped ceased.stopped ceased.started
  refine ⟨stopped, started, fun gathering => ceased.outside (begins gathering), ?_⟩
  rcases effect.taken with ⟨same, _⟩ | ⟨gathering, _⟩
  · exact same.trans ceased.taken
  · exact absurd gathering ceased.outside

/-- What was appended before a state has reached the log file in a later one: its bytes are those
with which the batches begin, what is kept of the batches is given to the file, and the file is
flushed. -/
structure Saved (s t : AsyncLogging) : Prop where
  /-- The lines are in the batches. -/
  taken : s.lines.flatten <+: t.batches.flatMap Batch.all
  /-- What is kept of the batches is given to the log file. -/
  given : t.given = t.batches.flatMap Batch.kept
  /-- The log file is flushed. -/
  flushed : t.flushed = t.given

/-- In every interleaving, when `stop()` returns everything appended before its call has reached the
log file but for what the rule about large batches dropped, if and only if, when `stop()` cleared
`is_running`, the backend was between a test that found it true and the swap after it, or the front
end held nothing. -/
theorem stop_saves_iff (actions rest : List LogAction) (s stopped t : AsyncLogging)
    (run : Run (Guarded Step Fits) new actions s) (started : s.phase ≠ .unborn)
    (stops : Step s .stop stopped) (during : Run (Guarded Step Fits) stopped rest t)
    (joined : t.phase = .ended) :
    Saved s t ↔ s.Gathering ∨ s.front = [] := by
  have sound : s.Sound := sound_of_run run
  have flushed : t.Flushed := by
    have all : Run (Guarded Step Fits) new (actions ++ .stop :: rest) t :=
      run.append (.cons ⟨stops, by simp [Fits]⟩ during)
    exact all.invariant (by simp [Flushed, new])
      fun _ _ _ flushed taken => (taken.1.effect.of_ok rfl).flushed flushed
  have covered : s.Gathering ∨ s.front = [] → Covers s.lines t := by
    intro safe
    have start : Covers s.lines stopped := by
      refine Covers.step ⟨sound, List.prefix_rfl, ?_⟩ stops (by simp [Fits])
      refine safe.imp_right fun empty => ?_
      rw [sound.lines_eq, empty, List.append_nil]
    exact during.invariant start fun _ _ _ covers taken => covers.step taken.1 taken.2
  have ceased : ¬s.Gathering → Ceased s.taken t := by
    intro outside
    have start : Ceased s.taken stopped := by
      cases stops with
      | stop => exact ⟨rfl, started, outside, rfl⟩
    exact during.invariant start fun _ _ _ ceased taken => ceased.step taken.1
  have outside : ¬t.Gathering := by simp [Gathering, joined]
  constructor
  · intro saved
    by_cases gathering : s.Gathering
    · exact .inl gathering
    · have shorter := saved.taken.length_le
      rw [← taken_of_ended joined, (ceased gathering).taken, sound.lines_eq,
        List.length_append] at shorter
      exact .inr (List.eq_nil_of_length_eq_zero (by omega))
  · intro safe
    have covers := covered safe
    refine ⟨?_, ?_, flushed joined⟩
    · rw [← taken_of_ended joined]
      exact covers.taken.resolve_left outside
    · have written := covers.sound.written
      simpa only [unwritten, untrimmed, joined, List.append_nil] using written

/-- `stop()` is called while the backend waits, and the line before it is saved. -/
theorem stop_saves_iff_waiting :
    ∃ s stopped t : AsyncLogging,
      Run (Guarded Step Fits) new [.start, .test, .lock, .append [104]] s ∧
      Step s .stop stopped ∧
      Run (Guarded Step Fits) stopped
        [.wake, .trim [], .write, .written, .recycle, .flush, .test, .flush] t ∧
      t.phase = .ended ∧ Saved s t := by
  have reached : ∃ s stopped t : AsyncLogging,
      Run (Guarded Step Fits) new [.start, .test, .lock, .append [104]] s ∧
      Step s .stop stopped ∧
      Run (Guarded Step Fits) stopped
        [.wake, .trim [], .write, .written, .recycle, .flush, .test, .flush] t ∧
      s.phase = .wait ∧ t.phase = .ended :=
    ⟨_, _, _, .cons ⟨.start rfl, by simp [Fits]⟩
      (.cons ⟨(Attempt.test rfl).step rfl, by simp [Fits]⟩
      (.cons ⟨(Attempt.lock rfl).step rfl, by simp [Fits]⟩
      (.cons ⟨Attempt.append.step rfl, by simp [Fits, kLargeBuffer]⟩ (.nil _)))), .stop,
      .cons ⟨(Attempt.wake rfl).step rfl, by simp [Fits]⟩ (.cons ⟨.trim rfl, by simp [Fits]⟩
      (.cons ⟨(Attempt.write rfl).step rfl, by simp [Fits]⟩
      (.cons ⟨.written rfl, by simp [Fits]⟩
      (.cons ⟨(Attempt.recycle rfl).step rfl, by simp [Fits]⟩
      (.cons ⟨.flush rfl, by simp [Fits]⟩ (.cons ⟨(Attempt.test rfl).step rfl, by simp [Fits]⟩
      (.cons ⟨.leave rfl, by simp [Fits]⟩ (.nil _)))))))), rfl, rfl⟩
  obtain ⟨s, stopped, t, run, stops, during, waiting, joined⟩ := reached
  have saved := (stop_saves_iff _ _ s stopped t run (by simp [waiting]) stops during joined).mpr
    (.inl (.inr waiting))
  exact ⟨s, stopped, t, run, stops, during, joined, saved⟩

/-- A line is appended before the backend tests `is_running` again, and then `stop()` is called: the
backend leaves its loop without the line. -/
theorem stop_loses_line :
    ¬∀ (actions rest : List LogAction) (s stopped t : AsyncLogging),
      Run (Guarded Step Fits) new actions s → s.phase ≠ .unborn → Step s .stop stopped →
        Run (Guarded Step Fits) stopped rest t → t.phase = .ended → Saved s t := by
  intro saves
  have reached : ∃ s stopped t : AsyncLogging,
      Run (Guarded Step Fits) new [.start, .append [104]] s ∧ Step s .stop stopped ∧
      Run (Guarded Step Fits) stopped [.test, .flush] t ∧ s.phase = .test ∧ t.phase = .ended ∧
      s.lines = [[104]] ∧ t.batches = [] :=
    ⟨_, _, _, .cons ⟨.start rfl, by simp [Fits]⟩
      (.cons ⟨Attempt.append.step rfl, by simp [Fits, kLargeBuffer]⟩ (.nil _)), .stop,
      .cons ⟨(Attempt.test rfl).step rfl, by simp [Fits]⟩
      (.cons ⟨.leave rfl, by simp [Fits]⟩ (.nil _)), rfl, rfl, rfl, rfl⟩
  obtain ⟨s, stopped, t, run, stops, during, testing, joined, lines, none⟩ := reached
  have saved := (saves _ _ s stopped t run (by simp [testing]) stops during joined).taken
  rw [lines, none] at saved
  exact absurd saved (by decide)

end AsyncLogging

end Muduo
