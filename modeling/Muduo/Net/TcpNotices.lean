import Muduo.Net.TcpFrame
import Muduo.Net.TcpOutput

/-!
# The notices that a connection gives its user

A connection queues the high water mark callback when a message carries the output buffer to the
mark or beyond it, and the write complete callback when a write leaves nothing. The functors that
ran, and those that are queued, are the functors that were ever queued, in their order.
-/

open Outcome Transition

namespace Muduo

/-- The size that a high water mark callback is given. -/
def ConnTask.warning : ConnTask → Option Nat
  | .highWaterMarkCallback size => some size
  | _ => none

/-- A `::write` that took all it was offered. -/
def ConnEffect.completes : ConnEffect → Bool
  | .write offered (.accepted count) => count == offered.length
  | _ => false

/-- The length of the output buffer reaches the mark. -/
def crosses (mark before after : Nat) : Bool := before < mark && mark ≤ after

/-- A length that stays does not reach the mark. -/
theorem crosses_self (mark length : Nat) : crosses mark length length = false := by
  simp [crosses]

/-- The lengths at which the mark is reached, from one length on. -/
def crossings (mark : Nat) : Nat → List Nat → List Nat
  | _, [] => []
  | before, after :: rest =>
    (if crosses mark before after then [after] else []) ++ crossings mark after rest

/-- One length more. -/
theorem crossings_append (mark before : Nat) (lengths : List Nat) (last : Nat) :
    crossings mark before (lengths ++ [last]) = crossings mark before lengths ++
      if crosses mark (lengths.getLastD before) last then [last] else [] := by
  induction lengths generalizing before with
  | nil => simp [crossings]
  | cons length lengths ih =>
    rw [List.cons_append, crossings, crossings, ih, List.append_assoc, List.getLastD_cons]

namespace TcpConnection

/-- The length of what waits in the output buffer. -/
def waiting (c : TcpConnection) : Nat := c.outputBuffer.readable.length

variable {c middle after : TcpConnection}

/-- What a function adds to the trace and to the functors, with the notices that it gives. -/
structure Tells (c after : TcpConnection) (effects : List ConnEffect) (news : List ConnTask) :
    Prop where
  /-- The effects. -/
  trace : after.trace = c.trace ++ effects
  /-- The functors. -/
  tasks : after.tasks = c.tasks ++ news
  /-- The user is warned when the mark is reached, with the length of the output buffer. -/
  warnings : news.filterMap ConnTask.warning =
    if c.hasHighWaterMarkCallback && crosses c.highWaterMark c.waiting after.waiting then
      [after.waiting] else []
  /-- The user is told of every write that took all. -/
  completes : news.count .writeCompleteCallback =
    if c.hasWriteCompleteCallback then effects.countP ConnEffect.completes else 0
  /-- Nothing is left when the user is told so. -/
  emptied : .writeCompleteCallback ∈ news → after.outputBuffer.readable = []
  /-- The mark stays. -/
  mark : after.highWaterMark = c.highWaterMark
  /-- The high water mark callback stays. -/
  warns : after.hasHighWaterMarkCallback = c.hasHighWaterMarkCallback
  /-- The write complete callback stays. -/
  reports : after.hasWriteCompleteCallback = c.hasWriteCompleteCallback

/-- A functor that calls nobody back. -/
def Unheard (tasks : List ConnTask) : Prop := ∀ task ∈ tasks, ¬task.IsCallback

/-- Effects without a write that took all. -/
def Uncompleted (effects : List ConnEffect) : Prop := ∀ effect ∈ effects, effect.completes = false

/-- No functor calls anybody back. -/
theorem unheard_nil : Unheard [] := by
  intro task member
  exact absurd member List.not_mem_nil

/-- No effect is a write. -/
theorem uncompleted_nil : Uncompleted [] := by
  intro effect member
  exact absurd member List.not_mem_nil

/-- Where no functor is queued, none is the one in question. -/
theorem unqueued {task : ConnTask} {claim : Prop} (member : task ∈ ([] : List ConnTask)) :
    claim :=
  absurd member List.not_mem_nil

/-- What gives no notice. -/
theorem tells_quiet {effects : List ConnEffect} {news : List ConnTask}
    (trace : after.trace = c.trace ++ effects) (tasks : after.tasks = c.tasks ++ news)
    (output : after.outputBuffer = c.outputBuffer) (unheard : Unheard news)
    (uncompleted : Uncompleted effects) (mark : after.highWaterMark = c.highWaterMark)
    (warns : after.hasHighWaterMarkCallback = c.hasHighWaterMarkCallback)
    (reports : after.hasWriteCompleteCallback = c.hasWriteCompleteCallback) :
    c.Tells after effects news where
  trace := trace
  tasks := tasks
  warnings := by
    have none : news.filterMap ConnTask.warning = [] := by
      refine List.filterMap_eq_nil_iff.mpr fun task member => ?_
      have other := unheard task member
      cases task with
      | highWaterMarkCallback => exact absurd trivial other
      | _ => rfl
    have same : after.waiting = c.waiting := by rw [waiting, output, waiting]
    rw [none, same, crosses_self, Bool.and_false, if_neg Bool.false_ne_true]
  completes := by
    have none : news.count .writeCompleteCallback = 0 :=
      List.count_eq_zero.mpr fun member => unheard _ member trivial
    have nothing : effects.countP ConnEffect.completes = 0 :=
      List.countP_eq_zero.mpr fun effect member => by simp [uncompleted effect member]
    rw [none, nothing, ite_self]
  emptied member := absurd trivial (unheard _ member)
  mark := mark
  warns := warns
  reports := reports

/-- Nothing happens. -/
theorem Tells.refl (c : TcpConnection) : c.Tells c [] [] :=
  tells_quiet (List.append_nil _).symm (List.append_nil _).symm rfl unheard_nil uncompleted_nil
    rfl rfl rfl

/-- One thing after another that leaves the output buffer as it is. -/
theorem Tells.behind {effects more : List ConnEffect} {news others : List ConnTask}
    (first : c.Tells middle effects news) (second : middle.Tells after more others)
    (same : middle.outputBuffer = c.outputBuffer)
    (quiet : .writeCompleteCallback ∈ news → after.outputBuffer.readable = []) :
    c.Tells after (effects ++ more) (news ++ others) where
  trace := by rw [second.trace, first.trace, List.append_assoc]
  tasks := by rw [second.tasks, first.tasks, List.append_assoc]
  warnings := by
    have length : middle.waiting = c.waiting := by rw [waiting, same, waiting]
    rw [List.filterMap_append, first.warnings, second.warnings, length, crosses_self,
      Bool.and_false, if_neg Bool.false_ne_true, List.nil_append, first.warns, first.mark]
  completes := by
    rw [List.count_append, first.completes, second.completes, first.reports, List.countP_append]
    split <;> rfl
  emptied member := (List.mem_append.mp member).elim quiet second.emptied
  mark := second.mark.trans first.mark
  warns := second.warns.trans first.warns
  reports := second.reports.trans first.reports

/-- One thing before another that leaves the output buffer as it is. -/
theorem Tells.ahead {effects more : List ConnEffect} {news others : List ConnTask}
    (first : c.Tells middle effects news) (second : middle.Tells after more others)
    (same : after.outputBuffer = middle.outputBuffer) :
    c.Tells after (effects ++ more) (news ++ others) where
  trace := by rw [second.trace, first.trace, List.append_assoc]
  tasks := by rw [second.tasks, first.tasks, List.append_assoc]
  warnings := by
    have length : after.waiting = middle.waiting := by rw [waiting, same, waiting]
    rw [List.filterMap_append, first.warnings, second.warnings, length, crosses_self,
      Bool.and_false, if_neg Bool.false_ne_true, List.append_nil]
  completes := by
    rw [List.count_append, first.completes, second.completes, first.reports, List.countP_append]
    split <;> rfl
  emptied member := by
    rw [same]
    obtain early | late := List.mem_append.mp member
    · exact first.emptied early
    · rw [← same]
      exact second.emptied late
  mark := second.mark.trans first.mark
  warns := second.warns.trans first.warns
  reports := second.reports.trans first.reports

/-- An effect that is no write. -/
theorem note_tells (c : TcpConnection) {effect : ConnEffect} (other : effect.completes = false) :
    c.Tells (c.note effect) [effect] [] :=
  tells_quiet rfl (List.append_nil _).symm rfl unheard_nil
    (fun _ member => by rw [List.mem_singleton.mp member]; exact other) rfl rfl rfl

/-- A functor that calls nobody back is queued. -/
theorem queueInLoop_tells (c : TcpConnection) {task : ConnTask} (other : ¬task.IsCallback) :
    c.Tells (c.queueInLoop task) [] [task] :=
  tells_quiet (List.append_nil _).symm rfl rfl
    (fun _ member => by rw [List.mem_singleton.mp member]; exact other) uncompleted_nil rfl rfl
    rfl

/-- The direct write: the user is told when it takes all. -/
theorem directWrite_tells {data : List UInt8} {len nwrote : Nat} {result : WriteResult}
    {faultError : Bool} (word : len < 2 ^ 64) (fits : result.Fits len)
    (empty : c.outputBuffer.readable = [])
    (done : c.directWrite data len result = .ok (after, nwrote, faultError)) :
    (∃ news, c.Tells after [.write (data.take len) result] news ∧
      (.writeCompleteCallback ∈ news → nwrote = len)) ∧ after.outputBuffer = c.outputBuffer := by
  rw [directWrite] at done
  obtain ⟨offered, loaded, rest⟩ := bind_eq_ok.mp done
  rw [load] at loaded
  split at loaded
  next enough =>
    cases loaded
    cases result with
    | accepted count =>
      have bound : count ≤ len := fits
      have remaining : sizeSub len count = len - count := sizeSub_of_le bound word
      have length : (data.take len).length = len := List.length_take_of_le enough
      dsimp only at rest
      rw [remaining] at rest
      split at rest
      next all =>
        cases rest
        rw [beq_iff_eq] at all
        have whole : nwrote = len := by omega
        have took : ConnEffect.completes (.write (data.take len) (.accepted nwrote)) = true := by
          rw [ConnEffect.completes, length, whole]
          exact beq_self_eq_true _
        rw [notifyWriteComplete]
        split
        next reports =>
          refine ⟨⟨[.writeCompleteCallback], ⟨rfl, rfl, ?_, ?_, fun _ => empty, rfl, rfl, rfl⟩,
            fun _ => whole⟩, rfl⟩
          · have none : [ConnTask.writeCompleteCallback].filterMap ConnTask.warning = [] := rfl
            have same : waiting (queueInLoop (note c (.write (data.take len) (.accepted nwrote)))
              .writeCompleteCallback) = c.waiting := rfl
            rw [none, same, crosses_self, Bool.and_false, if_neg Bool.false_ne_true]
          · have has : c.hasWriteCompleteCallback = true := reports
            rw [has, if_pos rfl, List.countP_cons_of_pos took]
            rfl
        next silent =>
          refine ⟨⟨[], ⟨rfl, (List.append_nil _).symm, ?_, ?_, unqueued, rfl, rfl, rfl⟩, unqueued⟩,
            rfl⟩
          · have same : waiting (note c (.write (data.take len) (.accepted nwrote))) =
              c.waiting := rfl
            rw [same, crosses_self, Bool.and_false, if_neg Bool.false_ne_true]
            rfl
          · have has : c.hasWriteCompleteCallback = false := Bool.eq_false_iff.mpr silent
            rw [has, if_neg Bool.false_ne_true]
            rfl
      next part =>
        cases rest
        rw [beq_iff_eq] at part
        have took : ConnEffect.completes (.write (data.take len) (.accepted nwrote)) = false := by
          rw [ConnEffect.completes, length]
          exact beq_false_of_ne (by omega)
        exact ⟨⟨[], note_tells c took, unqueued⟩, rfl⟩
    | failed errno logged =>
      cases rest
      exact ⟨⟨[], note_tells c rfl, unqueued⟩, rfl⟩
  next => cases loaded

/-- Keeping what is not written: the user is warned when the mark is reached. -/
theorem keepRest_tells {data : List UInt8} {nwrote remaining : Nat} (valid : c.outputBuffer.Valid)
    (done : c.keepRest data nwrote remaining = .ok after) :
    ∃ news, c.Tells after [] news ∧ .writeCompleteCallback ∉ news := by
  rw [keepRest] at done
  dsimp only at done
  obtain ⟨output, appended, rest⟩ := bind_eq_ok.mp done
  have length : c.outputBuffer.readableBytes = c.waiting := valid.length_readable.symm
  have beside (warned : TcpConnection) (same : warned.outputBuffer = c.outputBuffer)
      (also : warned.outputBuffer.append (data.drop nwrote) remaining = .ok output) :
      output.readable.length = c.waiting + remaining ∧ c.waiting + remaining ≤ maxSize := by
    rw [same] at also
    obtain ⟨enough, outputValid, kept⟩ := Buffer.append_ok valid also
    have bound := outputValid.readable_le
    have grown := congrArg List.length kept
    rw [List.length_append, List.length_take_of_le enough] at grown
    exact ⟨grown, grown ▸ bound⟩
  have kept (warned : TcpConnection) (last : (if warned.channel.isWriting then
      .ok { warned with outputBuffer := output }
      else setInterest { warned with outputBuffer := output } .enableWriting) = .ok after) :
      after.trace = warned.trace ∧ after.tasks = warned.tasks ∧ after.outputBuffer = output ∧
        after.highWaterMark = warned.highWaterMark ∧
        after.hasHighWaterMarkCallback = warned.hasHighWaterMarkCallback ∧
        after.hasWriteCompleteCallback = warned.hasWriteCompleteCallback := by
    split at last
    · cases last
      exact ⟨rfl, rfl, rfl, rfl, rfl, rfl⟩
    · obtain ⟨poller, channel, -, rfl⟩ := setInterest_eq_ok.mp last
      exact ⟨rfl, rfl, rfl, rfl, rfl, rfl⟩
  have limit : maxSize = 2 ^ 63 - 1 := rfl
  rw [length] at appended rest
  by_cases warns : c.highWaterMark ≤ sizeAdd c.waiting remaining ∧ c.waiting < c.highWaterMark ∧
      c.hasHighWaterMarkCallback = true
  · have test : (c.highWaterMark ≤ sizeAdd c.waiting remaining && c.waiting < c.highWaterMark &&
        c.hasHighWaterMarkCallback) = true := by simp [warns]
    rw [if_pos test] at appended rest
    obtain ⟨grown, bound⟩ := beside _ rfl appended
    have sum : sizeAdd c.waiting remaining = c.waiting + remaining := sizeAdd_of_lt (by omega)
    obtain ⟨trace, tasks, buffer, mark, has, reports⟩ := kept _ rest
    have now : after.waiting = c.waiting + remaining := by rw [waiting, buffer, grown]
    rw [sum] at warns tasks
    refine ⟨[.highWaterMarkCallback (c.waiting + remaining)], ⟨?_, tasks, ?_, ?_, ?_, mark, has,
      reports⟩, ?_⟩
    · exact trace.trans (List.append_nil _).symm
    · have reached : crosses c.highWaterMark c.waiting after.waiting = true := by
        rw [crosses, now]
        simp [warns.1, warns.2.1]
      rw [warns.2.2, reached, now]
      rfl
    · exact (ite_self _).symm
    · intro member
      cases List.mem_singleton.mp member
    · intro member
      cases List.mem_singleton.mp member
  · have test : ¬(c.highWaterMark ≤ sizeAdd c.waiting remaining && c.waiting < c.highWaterMark &&
        c.hasHighWaterMarkCallback) = true := by
      rw [Bool.and_eq_true, Bool.and_eq_true, decide_eq_true_iff, decide_eq_true_iff, and_assoc]
      exact warns
    rw [if_neg test] at appended rest
    obtain ⟨grown, bound⟩ := beside _ rfl appended
    have sum : sizeAdd c.waiting remaining = c.waiting + remaining := sizeAdd_of_lt (by omega)
    obtain ⟨trace, tasks, buffer, mark, has, reports⟩ := kept _ rest
    have now : after.waiting = c.waiting + remaining := by rw [waiting, buffer, grown]
    rw [sum] at warns
    refine ⟨[], ⟨?_, tasks.trans (List.append_nil _).symm, ?_, ?_, unqueued, mark, has, reports⟩,
      unqueued⟩
    · exact trace.trans (List.append_nil _).symm
    · have unreached : (c.hasHighWaterMarkCallback &&
          crosses c.highWaterMark c.waiting after.waiting) = false := by
        rw [crosses, now, Bool.eq_false_iff]
        intro all
        simp only [Bool.and_eq_true, decide_eq_true_iff] at all
        exact warns ⟨all.2.2, all.2.1, all.1⟩
      rw [unreached, if_neg Bool.false_ne_true]
      rfl
    · exact (ite_self _).symm

/-- `sendInLoop`. -/
theorem sendInLoop_tells {data : List UInt8} {len : Nat} {result : WriteResult} (flows : c.Flows)
    (word : len < 2 ^ 64) (fits : result.Fits len)
    (done : c.sendInLoop data len result = .ok after) :
    ∃ effects news, c.Tells after effects news := by
  rw [sendInLoop] at done
  split at done
  · cases done
    exact ⟨_, _, note_tells c rfl⟩
  next up =>
    rw [beq_iff_eq] at up
    obtain ⟨⟨written, nwrote, faultError⟩, direct, rest⟩ := bind_eq_ok.mp done
    obtain ⟨_, -, rest⟩ := bind_eq_ok.mp rest
    obtain ⟨kept, keeping, rest⟩ := bind_eq_ok.mp rest
    cases rest
    have first : ∃ effects news, c.Tells written effects news ∧
        (.writeCompleteCallback ∈ news → nwrote = len) ∧
        written.outputBuffer = c.outputBuffer := by
      split at direct
      next idle =>
        have empty : c.outputBuffer.readable = [] := by
          rw [Bool.and_eq_true] at idle
          exact (readableBytes_eq_zero flows.valid).mp idle.2
        obtain ⟨⟨news, tells, whole⟩, same⟩ := directWrite_tells word fits empty direct
        exact ⟨_, news, tells, whole, same⟩
      next =>
        cases direct
        exact ⟨[], [], .refl c, unqueued, rfl⟩
    obtain ⟨effects, news, tells, whole, same⟩ := first
    have noted : kept.Tells (kept.note (.sendInLoop (data.take len) c.state faultError))
        [.sendInLoop (data.take len) c.state faultError] [] := note_tells kept rfl
    split at keeping
    next some =>
      rw [Bool.and_eq_true, decide_eq_true_iff] at some
      obtain ⟨others, more, -⟩ := keepRest_tells (by rw [same]; exact flows.valid) keeping
      have left : .writeCompleteCallback ∉ news := by
        intro member
        rw [whole member, sizeSub_of_le (Nat.le_refl len) word, Nat.sub_self] at some
        exact Nat.lt_irrefl 0 some.2
      have both := tells.behind more same fun member => absurd member left
      exact ⟨_, _, both.ahead noted rfl⟩
    next =>
      cases keeping
      exact ⟨_, _, tells.ahead noted rfl⟩

/-- A write of the output buffer that leaves something, or nothing and says so. -/
theorem flush_tells {result : WriteResult} {output : Buffer} {poller : EpollPoller}
    {channel : Channel} (shrinks : output.readable.length ≤ c.waiting)
    (completes : output.readable = [] ↔
      ConnEffect.completes (.write c.outputBuffer.readable result) = true) :
    (output.readable ≠ [] → c.Tells { c with
        outputBuffer := output, poller, channel
        trace := c.trace ++ [.write c.outputBuffer.readable result] }
      [.write c.outputBuffer.readable result] []) ∧
    (output.readable = [] → ∃ news, c.Tells (notifyWriteComplete { c with
        outputBuffer := output, poller, channel
        trace := c.trace ++ [.write c.outputBuffer.readable result] })
      [.write c.outputBuffer.readable result] news ∧
      (notifyWriteComplete { c with
        outputBuffer := output, poller, channel
        trace := c.trace ++ [.write c.outputBuffer.readable result] }).outputBuffer = output) := by
  have below : crosses c.highWaterMark c.waiting output.readable.length = false := by
    rw [crosses, Bool.eq_false_iff]
    intro both
    rw [Bool.and_eq_true, decide_eq_true_iff, decide_eq_true_iff] at both
    omega
  have warnings {news : List ConnTask} (none : news.filterMap ConnTask.warning = []) :
      news.filterMap ConnTask.warning = if c.hasHighWaterMarkCallback &&
        crosses c.highWaterMark c.waiting output.readable.length then
          [output.readable.length] else [] := by
    rw [none, below, Bool.and_false, if_neg Bool.false_ne_true]
  constructor
  · intro left
    refine ⟨rfl, (List.append_nil _).symm, warnings rfl, ?_, unqueued, rfl, rfl, rfl⟩
    rw [List.countP_singleton, if_neg (mt completes.mpr left), ite_self]
    rfl
  · intro empty
    have took := completes.mp empty
    rw [notifyWriteComplete]
    split
    next reports =>
      have has : c.hasWriteCompleteCallback = true := reports
      refine ⟨[.writeCompleteCallback], ⟨rfl, rfl, warnings rfl, ?_, fun _ => empty, rfl, rfl, rfl⟩,
        rfl⟩
      rw [has, if_pos rfl, List.countP_singleton, if_pos took]
      rfl
    next silent =>
      have has : c.hasWriteCompleteCallback = false := Bool.eq_false_iff.mpr silent
      refine ⟨[], ⟨rfl, (List.append_nil _).symm, warnings rfl, ?_, unqueued, rfl, rfl, rfl⟩, rfl⟩
      rw [has, if_neg Bool.false_ne_true]
      rfl

/-- A write takes all exactly when nothing is left. -/
theorem completes_iff {result : WriteResult} {bytes rest : List UInt8} (some : bytes ≠ [])
    (fits : result.Fits bytes.length) (parts : result.taken bytes ++ rest = bytes) :
    rest = [] ↔ ConnEffect.completes (.write bytes result) = true := by
  have length := congrArg List.length parts
  have positive := List.length_pos_iff_ne_nil.mpr some
  rw [List.length_append] at length
  rw [← List.length_eq_zero_iff]
  cases result with
  | failed errno logged =>
    rw [WriteResult.taken, List.length_nil] at length
    exact iff_of_false (by omega) Bool.false_ne_true
  | accepted count =>
    have bound : count ≤ bytes.length := fits
    rw [WriteResult.taken, List.length_take_of_le bound] at length
    rw [ConnEffect.completes, beq_iff_eq]
    omega

/-- `handleWrite`. -/
theorem handleWrite_tells {result : WriteResult} (flows : c.Flows)
    (fits : result.Fits c.outputBuffer.readable.length) (done : c.handleWrite result = .ok after) :
    ∃ effects news, c.Tells after effects news := by
  have some (writing : c.channel.isWriting = true) : c.outputBuffer.readable ≠ [] := by
    refine (flows.agrees fun down => ?_).mp writing
    cases writing.symm.trans (flows.closed down)
  cases handleWrite_cases flows.valid fits done with
  | idle silent same =>
    rw [same]
    exact ⟨_, _, .refl c⟩
  | nothing writing none same =>
    have parts : result.taken c.outputBuffer.readable ++ c.outputBuffer.readable =
        c.outputBuffer.readable := by rw [none, List.nil_append]
    have took := (completes_iff (some writing) fits parts).not.mp (some writing)
    rw [same]
    exact ⟨_, _, note_tells c (Bool.eq_false_iff.mpr took)⟩
  | part writing valid parts left same =>
    have shrinks := congrArg List.length parts
    rw [List.length_append] at shrinks
    rw [same]
    exact ⟨_, _, (flush_tells (by rw [waiting]; omega)
      (completes_iff (some writing) fits parts)).1 left⟩
  | @all output poller channel writing notLast valid all empty changed same =>
    have parts : result.taken c.outputBuffer.readable ++ output.readable =
        c.outputBuffer.readable := by rw [all, empty, List.append_nil]
    have shrinks : output.readable.length ≤ c.waiting := by
      rw [empty]
      exact Nat.zero_le _
    obtain ⟨news, tells, -⟩ :=
      (flush_tells shrinks (completes_iff (some writing) fits parts)).2 empty
    rw [same]
    exact ⟨_, _, tells⟩
  | @last output poller channel writing last valid all empty changed same =>
    have parts : result.taken c.outputBuffer.readable ++ output.readable =
        c.outputBuffer.readable := by rw [all, empty, List.append_nil]
    have shrinks : output.readable.length ≤ c.waiting := by
      rw [empty]
      exact Nat.zero_le _
    obtain ⟨news, tells, kept⟩ :=
      (flush_tells shrinks (completes_iff (some writing) fits parts)).2 empty
    rw [same]
    exact ⟨_, _, tells.ahead (note_tells _ rfl) rfl⟩

/-- What changes neither the output nor the functors nor the trace. -/
theorem tells_aside (trace : after.trace = c.trace) (tasks : after.tasks = c.tasks)
    (output : after.outputBuffer = c.outputBuffer) (mark : after.highWaterMark = c.highWaterMark)
    (warns : after.hasHighWaterMarkCallback = c.hasHighWaterMarkCallback)
    (reports : after.hasWriteCompleteCallback = c.hasWriteCompleteCallback) : c.Tells after [] [] :=
  tells_quiet (trace.trans (List.append_nil _).symm) (tasks.trans (List.append_nil _).symm) output
    unheard_nil uncompleted_nil mark warns reports

/-- `startReadInLoop`. -/
theorem startReadInLoop_tells (done : c.startReadInLoop = .ok after) : c.Tells after [] [] := by
  rw [startReadInLoop] at done
  split at done
  · obtain ⟨enabled, enabling, rest⟩ := bind_eq_ok.mp done
    obtain ⟨poller, channel, -, rfl⟩ := setInterest_eq_ok.mp enabling
    cases rest
    exact tells_aside rfl rfl rfl rfl rfl rfl
  · cases done
    exact .refl c

/-- `stopReadInLoop`. -/
theorem stopReadInLoop_tells (done : c.stopReadInLoop = .ok after) : c.Tells after [] [] := by
  rw [stopReadInLoop] at done
  split at done
  · obtain ⟨disabled, disabling, rest⟩ := bind_eq_ok.mp done
    obtain ⟨poller, channel, -, rfl⟩ := setInterest_eq_ok.mp disabling
    cases rest
    exact tells_aside rfl rfl rfl rfl rfl rfl
  · cases done
    exact .refl c

/-- `shutdownInLoop`. -/
theorem shutdownInLoop_tells (c : TcpConnection) :
    ∃ effects, c.Tells c.shutdownInLoop effects [] := by
  rw [shutdownInLoop]
  split
  · exact ⟨_, .refl c⟩
  · exact ⟨_, note_tells c rfl⟩

/-- `handleClose`. -/
theorem handleClose_tells (done : c.handleClose = .ok after) :
    ∃ effects, c.Tells after effects [] := by
  rw [handleClose] at done
  obtain ⟨_, -, rest⟩ := bind_eq_ok.mp done
  obtain ⟨disabled, disabling, rest⟩ := bind_eq_ok.mp rest
  obtain ⟨poller, channel, -, rfl⟩ := setInterest_eq_ok.mp disabling
  cases rest
  have closing : c.Tells { c with state := .kDisconnected, poller, channel } [] [] :=
    tells_aside rfl rfl rfl rfl rfl rfl
  exact ⟨_, (closing.ahead (note_tells _ rfl) rfl).ahead (note_tells _ rfl) rfl⟩

/-- `connectEstablished`. -/
theorem connectEstablished_tells (done : c.connectEstablished = .ok after) :
    ∃ effects, c.Tells after effects [] := by
  rw [connectEstablished] at done
  obtain ⟨_, -, rest⟩ := bind_eq_ok.mp done
  obtain ⟨enabled, enabling, rest⟩ := bind_eq_ok.mp rest
  obtain ⟨poller, channel, -, rfl⟩ := setInterest_eq_ok.mp enabling
  cases rest
  have connected : c.Tells { c with state := .kConnected, poller, channel } [] [] :=
    tells_aside rfl rfl rfl rfl rfl rfl
  exact ⟨_, connected.ahead (note_tells _ rfl) rfl⟩

/-- `forceClose`. -/
theorem forceClose_tells (c : TcpConnection) : ∃ news, c.Tells c.forceClose [] news := by
  rw [forceClose]
  split
  · have closing : c.Tells { c with state := .kDisconnecting } [] [] :=
      tells_aside rfl rfl rfl rfl rfl rfl
    exact ⟨_, closing.ahead (queueInLoop_tells _ id) rfl⟩
  · exact ⟨_, .refl c⟩

/-- A functor. -/
theorem runTask_tells {task : ConnTask} {result : WriteResult} (flows : c.Flows)
    (fits : ∀ message, task = .sendInLoop message →
      result.Fits (sizeOfInt (StringPiece.ofString message).length))
    (done : c.runTask task result = .ok after) : ∃ effects news, c.Tells after effects news := by
  cases task with
  | connectEstablished =>
    obtain ⟨effects, tells⟩ := connectEstablished_tells done
    exact ⟨_, _, tells⟩
  | sendInLoop message => exact sendInLoop_tells flows (sizeOfInt_lt _) (fits message rfl) done
  | shutdownInLoop =>
    cases done
    obtain ⟨effects, tells⟩ := c.shutdownInLoop_tells
    exact ⟨_, _, tells⟩
  | forceCloseInLoop =>
    have run : c.forceCloseInLoop = .ok after := done
    rw [forceCloseInLoop] at run
    split at run
    · obtain ⟨effects, tells⟩ := handleClose_tells run
      exact ⟨_, _, tells⟩
    · cases run
      exact ⟨_, _, .refl c⟩
  | startReadInLoop => exact ⟨_, _, startReadInLoop_tells done⟩
  | stopReadInLoop => exact ⟨_, _, stopReadInLoop_tells done⟩
  | writeCompleteCallback =>
    cases done
    exact ⟨_, _, .refl c⟩
  | highWaterMarkCallback size =>
    cases done
    exact ⟨_, _, .refl c⟩

/-- The functor that an action runs. -/
def ranBy (c : TcpConnection) : Action → List ConnTask
  | .task _ => c.tasks.take 1
  | _ => []

/-- The connection without the functor that an action runs. -/
def popped (c : TcpConnection) (action : Action) : TcpConnection :=
  { c with tasks := c.tasks.drop (c.ranBy action).length }

/-- What every step tells. -/
theorem Step.tells {action : Action} (step : Step c action after) (flows : c.Flows) :
    ∃ effects news, (c.popped action).Tells after effects news := by
  have attempt : Attempt c action (.ok after) := step
  generalize outcome : Except.ok after = result at attempt
  symm at outcome
  have aside {inputBuffer : Buffer} {turn : Option LoopTurn} :
      c.Tells { c with inputBuffer, turn } [] [] := tells_aside rfl rfl rfl rfl rfl rfl
  cases attempt with
  | send fits =>
    obtain ⟨_, rfl, sent⟩ | ⟨_, rfl, copy, _, rfl⟩ | ⟨_, rfl⟩ := send_cases outcome
    · exact sendInLoop_tells flows (sizeOfInt_lt _) fits sent
    · exact ⟨_, _, queueInLoop_tells c id⟩
    · exact ⟨_, _, .refl _⟩
  | sendString object fits =>
    obtain ⟨_, rfl, sent⟩ | ⟨_, rfl, rfl⟩ | ⟨_, rfl⟩ := sendString_cases outcome
    · have limit : maxSize = 2 ^ 63 - 1 := rfl
      exact sendInLoop_tells flows (by omega) fits sent
    · exact ⟨_, _, queueInLoop_tells c id⟩
    · exact ⟨_, _, .refl _⟩
  | @shutdown caller =>
    cases outcome
    rw [TcpConnection.shutdown]
    split
    · have closing : c.Tells { c with state := .kDisconnecting } [] [] :=
        tells_aside rfl rfl rfl rfl rfl rfl
      cases caller with
      | loop =>
        obtain ⟨effects, tells⟩ := shutdownInLoop_tells { c with state := .kDisconnecting }
        exact ⟨_, _, closing.behind tells rfl unqueued⟩
      | other => exact ⟨_, _, closing.ahead (queueInLoop_tells _ id) rfl⟩
    · exact ⟨_, _, .refl c⟩
  | forceClose =>
    cases outcome
    obtain ⟨news, tells⟩ := c.forceClose_tells
    exact ⟨_, _, tells⟩
  | forceCloseWithDelay =>
    cases outcome
    rw [TcpConnection.forceCloseWithDelay]
    split
    · exact ⟨_, _, tells_aside rfl rfl rfl rfl rfl rfl⟩
    · exact ⟨_, _, .refl c⟩
  | @startRead caller =>
    cases caller with
    | loop => exact ⟨_, _, startReadInLoop_tells outcome⟩
    | other =>
      cases outcome
      exact ⟨_, _, queueInLoop_tells c id⟩
  | @stopRead caller =>
    cases caller with
    | loop => exact ⟨_, _, stopReadInLoop_tells outcome⟩
    | other =>
      cases outcome
      exact ⟨_, _, queueInLoop_tells c id⟩
  | @task task rest result first idle fits =>
    have same : c.popped (.task result) = { c with tasks := rest } := by
      rw [popped, ranBy, first]
      rfl
    have order : Flows { c with tasks := rest } :=
      ⟨flows.valid, flows.tracks, flows.agrees, flows.closed, flows.stream⟩
    rw [same]
    exact runTask_tells order fits outcome
  | @timer delayed pending =>
    cases outcome
    have expired : c.Tells { c with delayed } [] [] := tells_aside rfl rfl rfl rfl rfl rfl
    obtain ⟨news, tells⟩ := forceClose_tells { c with delayed }
    exact ⟨_, _, expired.behind tells rfl unqueued⟩
  | read =>
    obtain ⟨inputBuffer, n, -, rest⟩ := handleRead_cases outcome
    obtain rfl | closed | rfl := rest
    · exact ⟨_, _, aside.ahead (note_tells _ rfl) rfl⟩
    · obtain ⟨effects, tells⟩ := handleClose_tells closed
      exact ⟨_, _, aside.behind tells rfl unqueued⟩
    · exact ⟨_, _, aside⟩
  | write handling fits => exact handleWrite_tells flows fits outcome
  | close =>
    obtain ⟨effects, tells⟩ := handleClose_tells outcome
    exact ⟨_, _, tells⟩
  | error =>
    cases outcome
    exact ⟨_, _, .refl c⟩
  | consume =>
    obtain ⟨inputBuffer, -, rest⟩ := bind_eq_ok.mp outcome
    cases rest
    exact ⟨_, _, aside⟩
  | turn =>
    cases outcome
    exact ⟨_, _, aside⟩

end TcpConnection

/-- A connection with the functors that ran, the executions of `sendInLoop`, and the lengths of its
output buffer after each step. -/
structure Heard where
  /-- The connection. -/
  conn : TcpConnection
  /-- The functors that ran. -/
  ran : List ConnTask
  /-- The executions of `sendInLoop`. -/
  executions : List SendExecution
  /-- The lengths of the output buffer. -/
  lengths : List Nat

namespace Heard

/-- A step of the connection, recorded. -/
def Step (before : Heard) (action : TcpConnection.Action) (after : Heard) : Prop :=
  TcpConnection.Step before.conn action after.conn ∧
    after.ran = before.ran ++ before.conn.ranBy action ∧
    after.executions = before.executions ++ before.conn.executions action ∧
    after.lengths = before.lengths ++ [after.conn.waiting]

/-- The functors that were ever queued, in their order. -/
def everQueued (s : Heard) : List ConnTask := s.ran ++ s.conn.tasks

/-- The notices that were given are those that are due. -/
structure Informed (highWaterMark : Nat) (writeComplete highWater : Bool) (s : Heard) : Prop where
  /-- The output of the connection. -/
  flows : s.conn.Flows
  /-- The messages that must reach the stream are those that were executed. -/
  messages : s.conn.messages = s.executions.flatMap SendExecution.owed
  /-- The last length is that of now. -/
  now : s.lengths.getLastD 0 = s.conn.waiting
  /-- The warnings. -/
  warnings : s.everQueued.filterMap ConnTask.warning =
    if highWater then crossings highWaterMark 0 s.lengths else []
  /-- The reports. -/
  reports : s.everQueued.count .writeCompleteCallback =
    if writeComplete then s.conn.trace.countP ConnEffect.completes else 0
  /-- The mark stays. -/
  mark : s.conn.highWaterMark = highWaterMark
  /-- The high water mark callback stays. -/
  warns : s.conn.hasHighWaterMarkCallback = highWater
  /-- The write complete callback stays. -/
  completes : s.conn.hasWriteCompleteCallback = writeComplete

variable {s after : Heard} {action : TcpConnection.Action} {highWaterMark : Nat}
  {writeComplete highWater : Bool}

/-- A step adds its functors to those that were queued. -/
theorem Step.everQueued (step : Step s action after) {effects : List ConnEffect}
    {news : List ConnTask} (tells : (s.conn.popped action).Tells after.conn effects news) :
    after.everQueued = s.everQueued ++ news := by
  have parts : s.conn.ranBy action ++ s.conn.tasks.drop (s.conn.ranBy action).length =
      s.conn.tasks := by
    cases action with
    | task result =>
      rw [TcpConnection.ranBy]
      cases s.conn.tasks with
      | nil => rfl
      | cons => rfl
    | _ => rfl
  rw [Heard.everQueued, Heard.everQueued, step.2.1, tells.tasks, TcpConnection.popped,
    List.append_assoc, List.append_assoc, ← List.append_assoc (s.conn.ranBy action), parts]

/-- Every step gives the notices that are due. -/
theorem Step.informed (step : Step s action after)
    (informed : s.Informed highWaterMark writeComplete highWater) :
    after.Informed highWaterMark writeComplete highWater := by
  obtain ⟨effects, news, tells⟩ := step.1.tells informed.flows
  have queued := step.everQueued tells
  have warned := tells.warnings
  have told := tells.completes
  obtain ⟨taken, -, executed, lengths⟩ := step
  refine ⟨taken.flows informed.flows, ?_, ?_, ?_, ?_, tells.mark.trans informed.mark,
    tells.warns.trans informed.warns, tells.reports.trans informed.completes⟩
  · rw [taken.messages informed.flows, executed, List.flatMap_append, informed.messages]
  · rw [lengths]
    exact List.getLastD_concat
  · have before : (s.conn.popped action).waiting = s.conn.waiting := rfl
    have mark : (s.conn.popped action).highWaterMark = highWaterMark := informed.mark
    have warns : (s.conn.popped action).hasHighWaterMarkCallback = highWater := informed.warns
    rw [before, mark, warns] at warned
    rw [queued, List.filterMap_append, informed.warnings, warned, lengths, crossings_append,
      informed.now]
    cases highWater <;> simp
  · have has : (s.conn.popped action).hasWriteCompleteCallback = writeComplete :=
      informed.completes
    have trace : after.conn.trace = s.conn.trace ++ effects := tells.trace
    rw [has] at told
    rw [queued, List.count_append, informed.reports, told, trace, List.countP_append]
    cases writeComplete <;> rfl

/-- A step of the connection is recorded. -/
theorem step_of {conn : TcpConnection} (step : TcpConnection.Step s.conn action conn) :
    Step s action ⟨conn, s.ran ++ s.conn.ranBy action,
      s.executions ++ s.conn.executions action, s.lengths ++ [conn.waiting]⟩ :=
  ⟨step, rfl, rfl, rfl⟩

/-- The notices of a connection: in every state of every run, with any results of `::write` and any
calls from any thread, the high water mark callbacks that were queued are one for each time the
length of the output buffer reached the mark, in their order and each with the length then; there is
one write complete callback for every `::write` that took all it was offered; and after a step that
queues one the kernel has accepted all that the executions of `sendInLoop` owe to the stream. A
message of another thread that still waits in the loop is not executed. -/
theorem notices_of_run (address : ChannelId) (fd : Int) (poller : EpollPoller)
    (highWaterMark : Nat) (writeComplete highWater : Bool) (first : TcpConnection)
    (unknown : poller.channels fd = none) (unwatched : poller.interest fd = none)
    (made : TcpConnection.new address fd poller highWaterMark writeComplete highWater = .ok first)
    (actions : List TcpConnection.Action) (s : Heard)
    (run : Run Step ⟨first, [], [], []⟩ actions s) :
    s.everQueued.filterMap ConnTask.warning =
        (if highWater then crossings highWaterMark 0 s.lengths else []) ∧
      s.everQueued.count .writeCompleteCallback =
        (if writeComplete then s.conn.trace.countP ConnEffect.completes else 0) ∧
      ∀ action after, Step s action after →
        s.everQueued.count .writeCompleteCallback <
          after.everQueued.count .writeCompleteCallback →
        after.conn.outputBuffer.readable = [] ∧
          after.conn.accepted = after.executions.flatMap SendExecution.owed := by
  have start : Informed highWaterMark writeComplete highWater ⟨first, [], [], []⟩ := by
    have flows := TcpConnection.new_flows unknown unwatched made
    have empty : first.outputBuffer.readable = [] := by
      rw [TcpConnection.new] at made
      obtain ⟨input, _, rest⟩ := bind_eq_ok.mp made
      obtain ⟨output, built, rest⟩ := bind_eq_ok.mp rest
      obtain rfl := Except.ok.inj rest
      exact ((Buffer.new_meets kInitialSize (by decide)).of_ok built).2.1
    have now : ([] : List Nat).getLastD 0 = first.waiting := by
      rw [TcpConnection.waiting, empty]
      rfl
    obtain ⟨_, _, rest⟩ := bind_eq_ok.mp made
    obtain ⟨_, _, rest⟩ := bind_eq_ok.mp rest
    obtain rfl := Except.ok.inj rest
    exact ⟨flows, rfl, now, (ite_self _).symm, (ite_self _).symm, rfl, rfl, rfl⟩
  have informed : s.Informed highWaterMark writeComplete highWater := run.invariant start
    fun _ _ _ informed step => step.informed informed
  refine ⟨informed.warnings, informed.reports, fun action after step more => ?_⟩
  obtain ⟨effects, news, tells⟩ := step.1.tells informed.flows
  rw [step.everQueued tells, List.count_append] at more
  have member : .writeCompleteCallback ∈ news := List.count_pos_iff.mp (by omega)
  have empty := tells.emptied member
  have next := step.informed informed
  have stream := next.flows.stream
  rw [empty, List.append_nil] at stream
  exact ⟨empty, stream.trans next.messages⟩

set_option maxRecDepth 20000 in
/-- Three bytes of which one is written, with a mark of two. -/
theorem notices_of_run_three_bytes :
    ∃ first s, TcpConnection.new 0 3 .new 2 true true = .ok first ∧
      Run Step ⟨first, [], [], []⟩ [.task (.failed 0 0), .sendString .loop [1, 2, 3] (.accepted 1),
        .turn (some ⟨[0], 0⟩), .write (.accepted 2)] s ∧
      s.lengths = [0, 2, 2, 0] ∧ s.everQueued.filterMap ConnTask.warning = [2] := by
  have reached : ∃ first s, TcpConnection.new 0 3 .new 2 true true = .ok first ∧
      Run Step ⟨first, [], [], []⟩ [.task (.failed 0 0), .sendString .loop [1, 2, 3] (.accepted 1),
        .turn (some ⟨[0], 0⟩), .write (.accepted 2)] s ∧
      s.lengths = [0, 2, 2, 0] := by
    rw [TcpConnection.new, Buffer.new_eq (by decide)]
    refine ⟨_, _, rfl,
      .cons (step_of (TcpConnection.Attempt.step (.task rfl (.inl rfl) ?_) rfl))
      (.cons (step_of (TcpConnection.Attempt.step (.sendString ?_ ?_) rfl))
      (.cons (step_of (TcpConnection.Attempt.step .turn rfl))
      (.cons (step_of (TcpConnection.Attempt.step (.write ⟨_, rfl, rfl⟩ ?_) rfl)) (.nil _)))), rfl⟩
    · intro message sends
      cases sends
    · decide
    · exact Nat.le_of_ble_eq_true rfl
    · exact Nat.le_of_ble_eq_true rfl
  obtain ⟨first, s, made, run, lengths⟩ := reached
  have warned := (notices_of_run 0 3 .new 2 true true first rfl rfl made _ s run).1
  rw [if_pos rfl, lengths] at warned
  exact ⟨first, s, made, run, lengths, warned⟩

end Heard

end Muduo
