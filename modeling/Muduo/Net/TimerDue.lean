import Muduo.Net.TimerCancel

/-!
# Which timers `handleRead` runs

At its start `handleRead` takes the entries that are due out of `m_timers`. Until it returns it
calls them one after the other, and what callbacks add or cancel does not change the list. `reset`
then queues the repeating ones again that were not cancelled.
-/

open Outcome Transition

namespace Muduo

/-- The timers called, in order. -/
def ranSerials (log : List TimerEvent) : List Nat :=
  log.filterMap fun event =>
    match event with
    | .ran serial => some serial
    | .queued _ | .restarted _ | .deleted _ => none

/-- The timers called in two parts of a log. -/
theorem ranSerials_append (first second : List TimerEvent) :
    ranSerials (first ++ second) = ranSerials first ++ ranSerials second :=
  List.filterMap_append

namespace TimerSystem

/-- The entries of `m_timers` that are due at a time, in order. -/
def due (s : TimerSystem) (now : Int) : List Entry :=
  s.queue.timers.elements.filter fun e => decide (e.expiration ≤ now)

/-- The numbers of the timers that these entries point to. -/
def serials (s : TimerSystem) (entries : List Entry) : List Nat :=
  entries.filterMap fun e => (s.queue.heap e.timer).map Timer.serial

/-- The numbers of two lists of entries. -/
theorem serials_append (s : TimerSystem) (first second : List Entry) :
    s.serials (first ++ second) = s.serials first ++ s.serials second :=
  List.filterMap_append

/-- The entries below the sentry are those that are due. -/
theorem Sound.below_eq_due {s : TimerSystem} (sound : s.Sound) (now : Int) :
    s.queue.timers.below (TimerQueue.sentry now) = s.due now := by
  have below : (s.queue.timers.below (TimerQueue.sentry now)).filter
      (fun e => decide (e.expiration ≤ now)) = s.queue.timers.below (TimerQueue.sentry now) := by
    rw [List.filter_eq_self]
    intro e member
    have less := Entry.lt_iff.mp (OrderedSet.lt_of_mem_below member)
    simp only [TimerQueue.sentry] at less
    exact decide_eq_true (by omega)
  have above : ((s.queue.timers.above (TimerQueue.sentry now)).elements).filter
      (fun e => decide (e.expiration ≤ now)) = [] := by
    rw [List.filter_eq_nil_iff]
    intro e member
    have queued := (OrderedSet.mem_above.mp member).1
    have address := sound.queue.addresses e queued
    have least := not_lt.mpr (OrderedSet.le_of_mem_above member)
    rw [Entry.lt_iff] at least
    simp only [TimerQueue.sentry, not_or, not_and] at least
    have later : ¬e.expiration ≤ now := by
      intro early
      by_cases same : e.expiration = now
      · exact least.2 same address
      · omega
    simpa using later
  unfold due
  rw [← s.queue.timers.below_append_above (TimerQueue.sentry now), List.filter_append, below, above,
    List.append_nil]

/-- The entries that are due come in the order of their expirations. -/
theorem due_sorted (s : TimerSystem) (now : Int) :
    (s.due now).Pairwise fun a b => a.expiration ≤ b.expiration := by
  apply (s.queue.timers.sorted.sublist List.filter_sublist).imp
  intro a b less
  have order := Entry.lt_iff.mp less
  omega

/-- The entry is queued again, one interval after the time of the call. -/
def Back (start : TimerSystem) (now : Int) (done : List TimerAction) (s : TimerSystem)
    (e : Entry) : Prop :=
  ∀ object, start.queue.heap e.timer = some object → object.isRepeat = true →
    .cancel ⟨e.timer, object.sequence⟩ ∉ done →
      ⟨addTime now object.interval, e.timer⟩ ∈ s.queue.timers ∧
        s.queue.heap e.timer = some (object.restart now)

/-- Where a call of `handleRead` is that started in a state, after these actions. -/
structure Reading (start : TimerSystem) (now : Int) (done : List TimerAction)
    (s : TimerSystem) : Prop where
  /-- It has called a first part of what was due, and has the others to call. -/
  called : ∃ called, called ++ s.toCall = start.due now ∧
    ranSerials s.queue.log = ranSerials start.queue.log ++ start.serials called
  /-- It calls them, or all are called and some are reset. -/
  phase : (∃ rest, s.phase = .calling now (start.due now) rest ∨
      s.phase = .callback now (start.due now) rest) ∨
    ∃ reset rest, s.phase = .resetting now rest ∧ reset ++ rest = start.due now ∧
      ∀ e ∈ reset, Back start now done s e
  /-- The timers that are neither queued again nor deleted are as they were. -/
  objects : ∀ e ∈ s.phase.batch, s.queue.heap e.timer = start.queue.heap e.timer
  /-- What is marked as cancelled was cancelled since. -/
  canceling : ∀ id ∈ s.queue.cancelingTimers, .cancel id ∈ done

/-- `handleRead` starts with what is due. -/
theorem Move.reading {start s : TimerSystem} {now : Int} (sound : start.Sound)
    (move : Move start (.handleRead now) s) : Reading start now [] s := by
  cases move with
  | handleRead =>
    have due := sound.below_eq_due now
    refine ⟨⟨[], due, (List.append_nil _).symm⟩, .inl ⟨start.due now, .inl ?_⟩, fun _ _ => rfl, ?_⟩
    · rw [due]
    · simp

/-- A timer that is back stays back while it stays queued and alive. -/
theorem Back.keep {start before after : TimerSystem} {now : Int} {done : List TimerAction}
    {action : TimerAction} {e : Entry} (back : Back start now done before e)
    (timers : ∀ x ∈ before.queue.timers, x ∈ after.queue.timers)
    (heap : ∀ x ∈ before.queue.timers, after.queue.heap x.timer = before.queue.heap x.timer) :
    Back start now (done ++ [action]) after e := by
  intro object found repeats kept
  rw [List.mem_append, not_or] at kept
  obtain ⟨queued, lives⟩ := back object found repeats kept.1
  exact ⟨timers _ queued, (heap _ queued).trans lives⟩

/-- A step aside: the call of `handleRead` does not move on, and its timers stay as they are. -/
theorem Reading.aside {start before after : TimerSystem} {now : Int} {done : List TimerAction}
    {action : TimerAction} (reading : Reading start now done before)
    (phase : after.phase = before.phase)
    (ran : ranSerials after.queue.log = ranSerials before.queue.log)
    (heap : ∀ e ∈ before.phase.batch, after.queue.heap e.timer = before.queue.heap e.timer)
    (queued : ¬before.phase.RunsCode → ∀ x ∈ before.queue.timers, x ∈ after.queue.timers ∧
      after.queue.heap x.timer = before.queue.heap x.timer)
    (canceling : ∀ id ∈ after.queue.cancelingTimers,
      id ∈ before.queue.cancelingTimers ∨ action = .cancel id) :
    Reading start now (done ++ [action]) after := by
  have same : after.toCall = before.toCall := by
    unfold toCall
    rw [phase]
  refine ⟨?_, ?_, ?_, ?_⟩
  · rw [same, ran]
    exact reading.called
  · rw [phase]
    refine reading.phase.imp_right ?_
    intro resetting
    obtain ⟨reset, rest, here, due, back⟩ := resetting
    have code : ¬before.phase.RunsCode := by
      rw [here]
      exact id
    exact ⟨reset, rest, here, due, fun e member =>
      (back e member).keep (fun x inside => (queued code x inside).1)
        fun x inside => (queued code x inside).2⟩
  · rw [phase]
    exact fun e member => (heap e member).trans (reading.objects e member)
  · intro id member
    rcases canceling id member with old | new
    · exact List.mem_append_left _ (reading.canceling id old)
    · rw [new]
      exact List.mem_append_right _ (List.mem_singleton_self _)

/-- While the callbacks are called there is nothing to reset. -/
theorem Reading.of_calling {start s : TimerSystem} {now time : Int} {done : List TimerAction}
    {expired rest : List Entry} (reading : Reading start now done s)
    (calling : s.phase = .calling time expired rest ∨ s.phase = .callback time expired rest) :
    time = now ∧ expired = start.due now := by
  rcases reading.phase with ⟨left, same | same⟩ | ⟨_, _, same, _⟩ <;>
    rcases calling with here | here <;> rw [here] at same <;> cases same <;> exact ⟨rfl, rfl⟩

/-- A timer of the batch lives. -/
theorem Sound.batch_lives {s : TimerSystem} (sound : s.Sound) {e : Entry}
    (member : e ∈ s.phase.batch) : ∃ object, s.queue.heap e.timer = some object :=
  sound.queue.lives (List.mem_append_right _ (List.mem_map_of_mem member))

/-- A queued timer is not in the batch. -/
theorem Sound.queued_apart {s : TimerSystem} (sound : s.Sound) {x e : Entry}
    (queued : x ∈ s.queue.timers) (member : e ∈ s.phase.batch) : x.timer ≠ e.timer :=
  sound.queue.apart _ (List.mem_append_right _ (List.mem_map_of_mem member)) x queued

/-- The first timer of the batch to be reset is not among the others. -/
theorem Sound.reset_apart {s : TimerSystem} (sound : s.Sound) {now : Int} {entry : Entry}
    {rest : List Entry} (resetting : s.phase = .resetting now (entry :: rest)) {e : Entry}
    (member : e ∈ rest) : e.timer ≠ entry.timer := by
  have nodup := sound.queue.nodup
  rw [out, resetting] at nodup
  have batch := (List.nodup_append.mp nodup).2.1
  change (entry.timer :: rest.map Entry.timer).Nodup at batch
  intro same
  exact (List.nodup_cons.mp batch).1 (same ▸ List.mem_map_of_mem member)

/-- The number of an entry whose timer lives. -/
theorem serials_singleton {s : TimerSystem} {e : Entry} {object : Timer}
    (lives : s.queue.heap e.timer = some object) : s.serials [e] = [object.serial] := by
  simp [serials, lives]

/-- The next timer is called. -/
theorem Reading.call {start s : TimerSystem} {now time : Int} {done : List TimerAction}
    {expired rest : List Entry} {entry : Entry} {object : Timer}
    (reading : Reading start now done s) (sound : s.Sound)
    (calling : s.phase = .calling time expired (entry :: rest))
    (lives : s.queue.heap entry.timer = some object) :
    Reading start now (done ++ [.call]) { s with
      queue := { s.queue with log := s.queue.log ++ [.ran object.serial] }
      phase := .callback time expired rest } := by
  obtain ⟨rfl, rfl⟩ := reading.of_calling (.inl calling)
  have turn : s.toCall = entry :: rest := by rw [toCall, calling]
  have batch : s.phase.batch = start.due time := by
    rw [calling]
    rfl
  obtain ⟨called, due, ran⟩ := reading.called
  rw [turn] at due
  have first : entry ∈ s.phase.batch := sound.turn entry (by rw [turn]; exact List.mem_cons_self)
  have before : start.queue.heap entry.timer = some object :=
    (reading.objects entry first).symm.trans lives
  refine ⟨⟨called ++ [entry], ?_, ?_⟩, .inl ⟨rest, .inr rfl⟩, ?_, ?_⟩
  · rw [List.append_assoc]
    exact due
  · show ranSerials (s.queue.log ++ [.ran object.serial]) = _
    rw [ranSerials_append, ran, serials_append, serials_singleton before, List.append_assoc]
    rfl
  · have objects := reading.objects
    rw [batch] at objects
    exact objects
  · exact fun id member => List.mem_append_left _ (reading.canceling id member)

/-- The callbacks are called, or all have returned. -/
theorem Reading.proceed {start before after : TimerSystem} {now : Int} {done : List TimerAction}
    {action : TimerAction} (reading : Reading start now done before)
    (queue : after.queue.log = before.queue.log ∧ after.queue.heap = before.queue.heap ∧
      after.queue.cancelingTimers = before.queue.cancelingTimers)
    (turn : after.toCall = before.toCall) (batch : after.phase.batch = before.phase.batch)
    (phase : (∃ rest, after.phase = .calling now (start.due now) rest ∨
        after.phase = .callback now (start.due now) rest) ∨
      after.phase = .resetting now (start.due now)) :
    Reading start now (done ++ [action]) after := by
  obtain ⟨log, heap, canceling⟩ := queue
  refine ⟨?_, phase.imp_right ?_, ?_, ?_⟩
  · rw [turn, log]
    exact reading.called
  · intro resetting
    refine ⟨[], _, resetting, rfl, fun e none => ?_⟩
    cases none
  · rw [batch, heap]
    exact reading.objects
  · rw [canceling]
    exact fun id member => List.mem_append_left _ (reading.canceling id member)

/-- While timers are reset, those before the rest of the batch are back. -/
theorem Reading.resetting_cases {start s : TimerSystem} {now time : Int} {done : List TimerAction}
    {rest : List Entry} (reading : Reading start now done s)
    (resetting : s.phase = .resetting time rest) :
    time = now ∧ ∃ reset, reset ++ rest = start.due now ∧ ∀ e ∈ reset, Back start now done s e := by
  rcases reading.phase with ⟨_, same | same⟩ | ⟨reset, others, same, parts, returned⟩
  · rw [resetting] at same
    cases same
  · rw [resetting] at same
    cases same
  · rw [resetting] at same
    cases same
    exact ⟨rfl, reset, parts, returned⟩

/-- The first timer to be reset leaves the batch: it is back unless it is a one-shot timer or was
cancelled, and the others stay as they are. -/
theorem Reading.reset {start before after : TimerSystem} {now time : Int}
    {done : List TimerAction} {entry : Entry} {rest : List Entry}
    (reading : Reading start now done before) (sound : before.Sound)
    (resetting : before.phase = .resetting time (entry :: rest))
    (phase : after.phase = .resetting time rest)
    (ran : ranSerials after.queue.log = ranSerials before.queue.log)
    (canceling : after.queue.cancelingTimers = before.queue.cancelingTimers)
    (heap : ∀ a, a ≠ entry.timer → after.queue.heap a = before.queue.heap a)
    (timers : ∀ x ∈ before.queue.timers, x ∈ after.queue.timers)
    (back : time = now → Back start now (done ++ [.reset]) after entry) :
    Reading start now (done ++ [.reset]) after := by
  have first : entry ∈ before.phase.batch := by
    rw [resetting]
    exact List.mem_cons_self
  obtain ⟨called, due, log⟩ := reading.called
  have turn : before.toCall = [] := by rw [toCall, resetting]
  have after_turn : after.toCall = [] := by rw [toCall, phase]
  refine ⟨⟨called, ?_, ran.trans log⟩, .inr ?_, ?_, ?_⟩
  · rw [after_turn, ← turn]
    exact due
  · obtain ⟨rfl, reset, parts, returned⟩ := reading.resetting_cases resetting
    refine ⟨reset ++ [entry], rest, phase, ?_, ?_⟩
    · rw [List.append_assoc]
      exact parts
    · intro e member
      rcases List.mem_append.mp member with old | new
      · exact (returned e old).keep timers fun x queued =>
          heap x.timer (sound.queued_apart queued first)
      · rw [List.mem_singleton.mp new]
        exact back rfl
  · rw [phase]
    intro e member
    have inside : e ∈ before.phase.batch := by
      rw [resetting]
      exact List.mem_cons_of_mem _ member
    rw [heap e.timer (sound.reset_apart resetting member)]
    exact reading.objects e inside
  · rw [canceling]
    exact fun id member => List.mem_append_left _ (reading.canceling id member)

/-- The first timer to be reset is as it was when `handleRead` started. -/
theorem Reading.reset_object {start s : TimerSystem} {now time : Int} {done : List TimerAction}
    {entry : Entry} {rest : List Entry} {object found : Timer}
    (reading : Reading start now done s) (resetting : s.phase = .resetting time (entry :: rest))
    (lives : s.queue.heap entry.timer = some object)
    (before : start.queue.heap entry.timer = some found) : object = found := by
  have first : entry ∈ s.phase.batch := by
    rw [resetting]
    exact List.mem_cons_self
  exact Option.some.inj (lives.symm.trans ((reading.objects entry first).trans before))

/-- Every step but the last one of `handleRead` keeps the account of its call. -/
theorem Move.reads {start before after : TimerSystem} {now : Int} {done : List TimerAction}
    {action : TimerAction} (move : Move before action after) (sound : before.Sound)
    (unfinished : action ≠ .rearm) (reading : Reading start now done before) :
    Reading start now (done ++ [action]) after := by
  cases move with
  | @create timer _ _ free =>
    have other : ∀ a object, before.queue.heap a = some object → a ≠ timer := by
      intro a object lives same
      rw [same, free] at lives
      cases lives
    refine reading.aside rfl rfl (fun e member => ?_) (fun _ x queued => ⟨queued, ?_⟩) fun _ => .inl
    · obtain ⟨object, lives⟩ := sound.batch_lives member
      exact Function.update_of_ne (other _ _ lives) _ _
    · obtain ⟨object, lives, -⟩ := sound.queue.linked.entry x queued
      exact Function.update_of_ne (other _ _ lives) _ _
  | add user =>
    refine reading.aside rfl ?_ ?_ (fun code => absurd user code) ?_
    · unfold TimerQueue.added
      split <;> exact (ranSerials_append _ _).trans (List.append_nil _)
    · unfold TimerQueue.added
      split <;> exact fun _ _ => rfl
    · unfold TimerQueue.added
      split <;> exact fun _ => .inl
  | withdraw user active =>
    refine reading.aside rfl ?_ (fun e member => ?_) (fun code => absurd user code) fun _ => .inl
    · exact (ranSerials_append _ _).trans (List.append_nil _)
    · exact Function.update_of_ne (sound.active_apart active member) _ _
  | note user =>
    refine reading.aside rfl rfl (fun _ _ => rfl) (fun code => absurd user code) fun id member => ?_
    rcases OrderedSet.mem_insert.mp member with new | old
    · exact .inr (by rw [new])
    · exact .inl old
  | ignore user =>
    exact reading.aside rfl rfl (fun _ _ => rfl) (fun code => absurd user code) fun _ => .inl
  | fire =>
    exact reading.aside rfl rfl (fun _ _ => rfl) (fun _ x queued => ⟨queued, rfl⟩) fun _ => .inl
  | handleRead idle =>
    rcases reading.phase with ⟨_, same | same⟩ | ⟨_, _, same, _⟩ <;> rw [idle] at same <;>
      cases same
  | call calling lives => exact reading.call sound calling lives
  | @«return» _ _ rest running =>
    obtain ⟨rfl, rfl⟩ := reading.of_calling (.inr running)
    refine reading.proceed ⟨rfl, rfl, rfl⟩ ?_ ?_ (.inl ⟨rest, .inl rfl⟩)
    · rw [toCall, toCall, running]
    · rw [running]
      rfl
  | called ended =>
    obtain ⟨rfl, rfl⟩ := reading.of_calling (.inl ended)
    refine reading.proceed ⟨rfl, rfl, rfl⟩ ?_ ?_ (.inr rfl)
    · rw [toCall, toCall, ended]
    · rw [ended]
      rfl
  | @restart time entry rest object resetting lives repeats kept =>
    refine reading.reset sound resetting rfl ?_ rfl ?_ ?_ ?_
    · show ranSerials (before.queue.log ++ [_] ++ [_]) = _
      rw [ranSerials_append, ranSerials_append]
      exact (List.append_nil _).trans (List.append_nil _)
    · exact fun a other => Function.update_of_ne other _ _
    · exact fun x queued => OrderedSet.mem_insert.mpr (.inr queued)
    · intro now object' found _ _
      subst now
      obtain rfl := reading.reset_object resetting lives found
      have expiration : (object.restart time).expiration = addTime time object.interval := by
        rw [Timer.restart, if_pos repeats]
      refine ⟨OrderedSet.mem_insert.mpr (.inl ?_), Function.update_self _ _ _⟩
      rw [expiration]
  | @delete time entry rest object resetting lives ends =>
    refine reading.reset sound resetting rfl ?_ rfl ?_ (fun _ => id) ?_
    · exact (ranSerials_append _ _).trans (List.append_nil _)
    · exact fun a other => Function.update_of_ne other _ _
    · intro _ object' found repeats kept
      obtain rfl := reading.reset_object resetting lives found
      by_cases canceled : ⟨entry.timer, object.sequence⟩ ∈ before.queue.cancelingTimers
      · exact absurd (List.mem_append_left _ (reading.canceling _ canceled)) kept
      · exact absurd ⟨repeats, canceled⟩ ends
  | arm => exact absurd rfl unfinished
  | leave => exact absurd rfl unfinished

/-- The account of a call of `handleRead` in any run in which it does not end. -/
theorem Reading.of_run {start t s : TimerSystem} {now : Int} {during : List TimerAction}
    (sound : start.Sound) (starts : Step start (.handleRead now) t) (run : Run Step t during s)
    (unfinished : .rearm ∉ during) : s.Sound ∧ Reading start now during s := by
  have begins : t.Sound ∧ (TimerAction.rearm ∉ [] → Reading start now [] t) :=
    ⟨(starts.sound sound).of_ok rfl, fun _ => starts.move.reading sound⟩
  have keeps : ∀ done before action after,
      before.Sound ∧ (TimerAction.rearm ∉ done → Reading start now done before) →
      Step before action after →
      after.Sound ∧ (TimerAction.rearm ∉ done ++ [action] →
        Reading start now (done ++ [action]) after) := by
    intro done before action after account step
    refine ⟨(step.sound account.1).of_ok rfl, fun absent => ?_⟩
    rw [List.mem_append, not_or, List.mem_singleton] at absent
    exact step.move.reads account.1 (Ne.symm absent.2) (account.2 absent.1)
  have account := run.history begins keeps
  exact ⟨account.1, account.2 unfinished⟩

/-- The entries still to be called come last in the batch. -/
def InTurn (s : TimerSystem) : Prop := s.toCall.Sublist s.phase.batch

/-- Every step keeps the order of the calls. -/
theorem Move.inTurn {before after : TimerSystem} {action : TimerAction}
    (move : Move before action after) (turn : before.InTurn) : after.InTurn := by
  unfold InTurn at turn ⊢
  cases move with
  | create => exact turn
  | add => exact turn
  | withdraw => exact turn
  | note => exact turn
  | ignore => exact turn
  | fire => exact turn
  | handleRead => exact List.Sublist.refl _
  | call calling =>
    rw [toCall, calling] at turn
    exact (List.sublist_cons_self _ _).trans turn
  | «return» running =>
    rw [toCall, running] at turn
    exact turn
  | called => exact List.nil_sublist _
  | restart => exact List.nil_sublist _
  | delete => exact List.nil_sublist _
  | arm => exact List.nil_sublist _
  | leave => exact List.nil_sublist _

/-- Only timers that have been created are called. -/
def Known (s : TimerSystem) : Prop := ∀ n, .ran n ∈ s.queue.log → n ≤ s.queue.numCreated

/-- The number of creations does not go down. -/
theorem Move.numCreated {before after : TimerSystem} {action : TimerAction}
    (move : Move before action after) : before.queue.numCreated ≤ after.queue.numCreated := by
  cases move with
  | create => exact Nat.le_succ _
  | add =>
    unfold TimerQueue.added
    split <;> exact Nat.le_refl _
  | _ => exact Nat.le_refl _

/-- Every step calls a timer that has been created. -/
theorem Move.known {before after : TimerSystem} {action : TimerAction}
    (move : Move before action after) (sound : before.Sound) (known : before.Known) :
    after.Known := by
  obtain ⟨events, log, calls⟩ := move.log
  intro n ran
  apply Nat.le_trans _ move.numCreated
  rw [log] at ran
  rcases List.mem_append.mp ran with old | new
  · exact known n old
  · obtain ⟨-, entry, object, _, lives, same⟩ := calls n new
    rw [← same]
    exact (sound.queue.books.alive _ _ lives).2.1

/-- The timer with this number was not called, or once and for the last time. -/
def Once (s : TimerSystem) (serial : Nat) : Prop :=
  .ran serial ∉ s.queue.log ∨ s.queue.log.count (.ran serial) = 1 ∧ s.Ended serial

/-- The timer that is called is not called again in its batch. -/
theorem Sound.call_apart {s : TimerSystem} (sound : s.Sound) (turn : s.InTurn) {now : Int}
    {expired rest : List Entry} {entry : Entry}
    (calling : s.phase = .calling now expired (entry :: rest)) :
    ∀ e ∈ rest, e.timer ≠ entry.timer := by
  have nodup := sound.queue.nodup
  rw [out, calling] at nodup
  rw [InTurn, toCall, calling] at turn
  have batch := (List.nodup_append.mp nodup).2.1
  have distinct : (entry.timer :: rest.map Entry.timer).Nodup :=
    batch.sublist (turn.map Entry.timer)
  intro e member same
  exact (List.nodup_cons.mp distinct).1 (same ▸ List.mem_map_of_mem member)

/-- A one-shot timer is called once. -/
theorem Move.once {before after : TimerSystem} {action : TimerAction} {serial : Nat}
    (move : Move before action after) (sound : before.Sound) (turn : before.InTurn)
    (oneShot : ∀ a object, before.queue.heap a = some object → object.serial = serial →
      object.isRepeat = false)
    (once : before.Once serial) : after.Once serial := by
  rcases once with never | ⟨count, ended⟩
  · by_cases call : action = .call
    · subst call
      cases move with
      | @call now expired rest entry object calling lives =>
        by_cases same : object.serial = serial
        · have first : entry ∈ before.phase.batch := by
            apply turn.subset
            rw [toCall, calling]
            exact List.mem_cons_self
          rw [calling] at first
          refine .inr ⟨?_, .inr ⟨entry.timer, object, lives, same, ⟨entry, first, rfl⟩,
            sound.call_apart turn calling, ?_⟩⟩
          · show (before.queue.log ++ [TimerEvent.ran object.serial]).count (.ran serial) = 1
            rw [List.count_append, List.count_eq_zero_of_not_mem never, same]
            simp
          · intro repeats
            rw [oneShot _ _ lives same] at repeats
            cases repeats
        · refine .inl fun ran => ?_
          rcases List.mem_append.mp ran with old | new
          · exact never old
          · exact same (TimerEvent.ran.inj (List.mem_singleton.mp new)).symm
    · obtain ⟨events, log, calls⟩ := move.log
      refine .inl fun ran => ?_
      rw [log] at ran
      rcases List.mem_append.mp ran with old | new
      · exact never old
      · exact call (calls serial new).1
  · obtain ⟨still, events, log, silent⟩ := move.ended sound ended
    refine .inr ⟨?_, still⟩
    rw [log, List.count_append, count, List.count_eq_zero_of_not_mem silent]

/-- What is known of the timers of a run. -/
structure Accounted (actions : List TimerAction) (s : TimerSystem) : Prop where
  /-- The state is sound. -/
  sound : s.Sound
  /-- Live timers are those of the creations. -/
  recorded : Recorded actions s
  /-- The calls come in turn. -/
  turn : s.InTurn
  /-- The calls are of timers that have been created. -/
  known : s.Known
  /-- One-shot timers are called once. -/
  once : ∀ index a interval, (creations actions)[index]? = some (a, interval) →
    interval.positive = false → s.Once (index + 1)

/-- A live timer with the number of a one-shot timer is one. -/
theorem Recorded.oneShot {actions : List TimerAction} {s : TimerSystem}
    (recorded : Recorded actions s) {index : Nat} {a : Address} {interval : Interval}
    (created : (creations actions)[index]? = some (a, interval))
    (single : interval.positive = false) : ∀ b object, s.queue.heap b = some object →
      object.serial = index + 1 → object.isRepeat = false := by
  intro b object lives serial
  obtain ⟨other, also, entry, -⟩ := recorded.lives b object lives
  have same : other = index := by omega
  rw [same, created] at entry
  have interval : interval = object.interval := congrArg Prod.snd (Option.some.inj entry)
  rw [Timer.isRepeat, ← interval]
  exact single

/-- Every step keeps the account of the timers. -/
theorem Accounted.step {actions : List TimerAction} {before after : TimerSystem}
    {action : TimerAction} (accounted : Accounted actions before)
    (step : Step before action after) : Accounted (actions ++ [action]) after := by
  have move := step.move
  have sound := accounted.sound
  refine ⟨(step.sound sound).of_ok rfl, move.recorded accounted.recorded,
    move.inTurn accounted.turn, move.known sound accounted.known, ?_⟩
  intro index a interval created single
  rw [creations_append] at created
  by_cases old : index < (creations actions).length
  · rw [List.getElem?_append_left old] at created
    exact move.once sound accounted.turn (accounted.recorded.oneShot created single)
      (accounted.once index a interval created single)
  · refine .inl fun ran => ?_
    have count := accounted.recorded.count
    obtain ⟨events, log, calls⟩ := move.log
    rw [log] at ran
    rcases List.mem_append.mp ran with past | new
    · have created := accounted.known _ past
      omega
    · obtain ⟨-, entry, object, _, lives, serial⟩ := calls _ new
      have created := (sound.queue.books.alive _ _ lives).2.1
      omega

/-- The account of the timers of every run. -/
theorem accounted_of_run {actions : List TimerAction} {s : TimerSystem}
    (run : Run Step new actions s) : Accounted actions s := by
  have begins : Accounted [] new := by
    refine ⟨new_sound, new_recorded, List.Sublist.refl _, fun n ran => ?_, fun _ _ _ none => ?_⟩
    · cases ran
    · cases none
  have accounted : Accounted ([] ++ actions) s := run.history begins
    fun _ _ _ _ accounted step => accounted.step step
  exact accounted

/-- In every run: a one-shot timer is called at most once; and each `handleRead` calls, in the order
of their expirations, first parts of the list of the timers that were due in `m_timers` when it
started, and has called exactly them when it returns, with each repeating one that was not cancelled
in between back in `m_timers`, one interval after the time of the call. -/
theorem timers_run_when_due (actions : List TimerAction) (s : TimerSystem)
    (run : Run Step new actions s) :
    (∀ index a interval, (creations actions)[index]? = some (a, interval) →
        interval.positive = false → s.queue.log.count (.ran (index + 1)) ≤ 1) ∧
      ∀ now t during u, Step s (.handleRead now) t → Run Step t during u → .rearm ∉ during →
        (s.due now).Pairwise (fun a b => a.expiration ≤ b.expiration) ∧
        (∃ called, called <+: s.due now ∧
          ranSerials u.queue.log = ranSerials s.queue.log ++ s.serials called) ∧
        ∀ v, Step u .rearm v →
          ranSerials v.queue.log = ranSerials s.queue.log ++ s.serials (s.due now) ∧
          ∀ e ∈ s.due now, ∀ object, s.queue.heap e.timer = some object →
            object.isRepeat = true → .cancel ⟨e.timer, object.sequence⟩ ∉ during →
              ⟨addTime now object.interval, e.timer⟩ ∈ v.queue.timers ∧
                v.queue.heap e.timer = some (object.restart now) := by
  have accounted := accounted_of_run run
  constructor
  · intro index a interval created single
    rcases accounted.once index a interval created single with never | ⟨once, -⟩
    · rw [List.count_eq_zero_of_not_mem never]
      exact Nat.zero_le 1
    · exact once.le
  · intro now t during u starts running unfinished
    obtain ⟨-, reading⟩ := Reading.of_run accounted.sound starts running unfinished
    obtain ⟨called, due, ran⟩ := reading.called
    refine ⟨s.due_sorted now, ⟨called, ⟨_, due⟩, ran⟩, fun v ends => ?_⟩
    have ended : (∃ time, u.phase = .resetting time []) ∧ v.queue.log = u.queue.log ∧
        v.queue.heap = u.queue.heap ∧ v.queue.timers = u.queue.timers := by
      cases ends.move with
      | arm resetting => exact ⟨⟨_, resetting⟩, rfl, rfl, rfl⟩
      | leave resetting => exact ⟨⟨_, resetting⟩, rfl, rfl, rfl⟩
    obtain ⟨⟨time, resetting⟩, log, heap, timers⟩ := ended
    have turn : u.toCall = [] := by rw [toCall, resetting]
    rw [turn, List.append_nil] at due
    refine ⟨?_, ?_⟩
    · rw [log, ran, due]
    · obtain ⟨-, reset, parts, back⟩ := reading.resetting_cases resetting
      rw [List.append_nil] at parts
      rw [heap, timers, ← parts]
      exact back

/-- Two timers expire together, in the order of their expirations, and the repeating one is queued
again. -/
theorem timers_run_when_due_two_timers :
    ∃ s t u v, Run Step new [.create 8 6 ⟨false, 0⟩, .add 8, .create 16 5 ⟨true, 10⟩, .add 16,
        .fire] s ∧
      Step s (.handleRead 7) t ∧
      Run Step t [.call, .return, .call, .return, .called, .reset, .reset] u ∧
      Step u .rearm v ∧ s.serials (s.due 7) = [2, 1] ∧
      ranSerials v.queue.log = ranSerials s.queue.log ++ s.serials (s.due 7) := by
  have reached : ∃ s t u v, Run Step new [.create 8 6 ⟨false, 0⟩, .add 8, .create 16 5 ⟨true, 10⟩,
        .add 16, .fire] s ∧
      Step s (.handleRead 7) t ∧
      Run Step t [.call, .return, .call, .return, .called, .reset, .reset] u ∧
      Step u .rearm v ∧ s.serials (s.due 7) = [2, 1] :=
    ⟨_, _, _, _, .cons (.create rfl (by decide)) (.cons (.add trivial List.mem_cons_self)
      (.cons (.create rfl (by decide)) (.cons (.add trivial List.mem_cons_self)
      (.cons (.fire rfl) (.nil _))))), Attempt.step (.handleRead rfl) rfl,
      .cons (Attempt.step (.call rfl) rfl) (.cons (.return rfl)
        (.cons (Attempt.step (.call rfl) rfl) (.cons (.return rfl) (.cons (.called rfl)
          (.cons (Attempt.step (.reset rfl) rfl) (.cons (Attempt.step (.reset rfl) rfl)
            (.nil _))))))),
      Attempt.step (.rearm rfl) rfl, rfl⟩
  obtain ⟨s, t, u, v, run, starts, running, ends, due⟩ := reached
  have results := (timers_run_when_due _ s run).2 7 t _ u starts running (by decide)
  exact ⟨s, t, u, v, run, starts, running, ends, due, (results.2.2 v ends).1⟩

end TimerSystem

end Muduo
