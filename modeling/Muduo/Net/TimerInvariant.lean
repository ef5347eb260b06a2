import Mathlib.Data.List.Nodup
import Mathlib.Data.List.Perm.Basic
import Muduo.Net.TimerQueue

/-!
# The representation invariant of the timer queue

`m_timers` and `m_activeTimers` are linked through the heap: an entry of one has exactly one
counterpart in the other, under the expiration and the sequence number that the timer itself holds.
A timer that lives is queued or on the list `out` of those that are on their way to the queue or in
the expired batch, never both. The operations of the queue move timers between the two.
-/

open Outcome Transition

namespace Muduo

/-- A heap of timers. -/
abbrev TimerHeap := Address → Option Timer

/-- Entries and active timers are the same timers, under the data the timers hold. -/
structure Linked (heap : TimerHeap) (entries : List Entry) (active : OrderedSet ActiveTimer) :
    Prop where
  /-- An entry has the expiration of its timer, which is active. -/
  entry : ∀ e ∈ entries, ∃ object, heap e.timer = some object ∧
    object.expiration = e.expiration ∧ ⟨e.timer, object.sequence⟩ ∈ active
  /-- An active timer has the sequence number of its timer, which has an entry. -/
  counterpart : ∀ a ∈ active, ∃ object, heap a.timer = some object ∧ object.sequence = a.sequence ∧
    ⟨object.expiration, a.timer⟩ ∈ entries
  /-- No entry is listed twice. -/
  nodup : entries.Nodup
  /-- There are as many of the ones as of the others. -/
  size : entries.length = active.size

namespace Linked

variable {heap : TimerHeap} {entries left : List Entry} {active : OrderedSet ActiveTimer}

/-- A timer has one entry. -/
theorem unique (linked : Linked heap entries active) {a b : Entry} (first : a ∈ entries)
    (second : b ∈ entries) (same : a.timer = b.timer) : a = b := by
  obtain ⟨object, lives, expiration, -⟩ := linked.entry a first
  obtain ⟨other, also, again, -⟩ := linked.entry b second
  rw [same] at lives
  obtain rfl := Option.some.inj (lives.symm.trans also)
  cases a
  cases b
  simp_all

/-- A timer of neither set is put in both. -/
theorem insert (linked : Linked heap entries active) {timer : Address} {object : Timer}
    (lives : heap timer = some object) (apart : ∀ e ∈ entries, e.timer ≠ timer)
    (members : ∀ e, e ∈ left ↔ e = ⟨object.expiration, timer⟩ ∨ e ∈ entries) (nodup : left.Nodup)
    (length : left.length = entries.length + 1) :
    Linked heap left (active.insert ⟨timer, object.sequence⟩) where
  entry e member := by
    obtain rfl | old := (members e).mp member
    · exact ⟨object, lives, rfl, OrderedSet.mem_insert.mpr (.inl rfl)⟩
    · obtain ⟨found, located, expiration, listed⟩ := linked.entry e old
      exact ⟨found, located, expiration, OrderedSet.mem_insert.mpr (.inr listed)⟩
  counterpart a member := by
    obtain rfl | old := OrderedSet.mem_insert.mp member
    · exact ⟨object, lives, rfl, (members _).mpr (.inl rfl)⟩
    · obtain ⟨found, located, sequence, listed⟩ := linked.counterpart a old
      exact ⟨found, located, sequence, (members _).mpr (.inr listed)⟩
  nodup := nodup
  size := by
    have fresh : ¬(⟨timer, object.sequence⟩ : ActiveTimer) ∈ active := by
      intro listed
      obtain ⟨_, _, _, member⟩ := linked.counterpart _ listed
      exact apart _ member rfl
    rw [length, linked.size, OrderedSet.size_insert fresh]

/-- A timer of both sets is taken out of both. -/
theorem erase (linked : Linked heap entries active) {e : Entry} {object : Timer}
    (member : e ∈ entries) (lives : heap e.timer = some object)
    (members : ∀ x, x ∈ left ↔ x ∈ entries ∧ x ≠ e) (nodup : left.Nodup)
    (length : left.length + 1 = entries.length) :
    Linked heap left (active.erase ⟨e.timer, object.sequence⟩) where
  entry x inside := by
    obtain ⟨old, other⟩ := (members x).mp inside
    obtain ⟨found, located, expiration, listed⟩ := linked.entry x old
    refine ⟨found, located, expiration, OrderedSet.mem_erase.mpr ⟨listed, fun same => other ?_⟩⟩
    exact linked.unique old member (congrArg ActiveTimer.timer same)
  counterpart a inside := by
    obtain ⟨old, other⟩ := OrderedSet.mem_erase.mp inside
    obtain ⟨found, located, sequence, listed⟩ := linked.counterpart a old
    refine ⟨found, located, sequence, (members _).mpr ⟨listed, fun same => other ?_⟩⟩
    have timer : a.timer = e.timer := congrArg Entry.timer same
    rw [timer, lives] at located
    obtain rfl := Option.some.inj located
    cases a
    simp_all
  nodup := nodup
  size := by
    obtain ⟨found, located, _, listed⟩ := linked.entry e member
    obtain rfl := Option.some.inj (lives.symm.trans located)
    have one := OrderedSet.size_erase listed
    have all := linked.size
    omega

/-- Only the timers of the entries matter. -/
theorem congr {other : TimerHeap} (linked : Linked heap entries active)
    (same : ∀ e ∈ entries, other e.timer = heap e.timer) : Linked other entries active where
  entry e member := by
    rw [same e member]
    exact linked.entry e member
  counterpart a member := by
    obtain ⟨object, lives, sequence, listed⟩ := linked.counterpart a member
    exact ⟨object, (same _ listed).trans lives, sequence, listed⟩
  nodup := linked.nodup
  size := linked.size

end Linked

/-- The accounts of creations and deletions. -/
structure Books (heap : TimerHeap) (numCreated : Nat) (log : List TimerEvent) : Prop where
  /-- Live timers are told apart by their numbers. -/
  unique : ∀ a b x y, heap a = some x → heap b = some y → x.serial = y.serial → a = b
  /-- Live timers have been created and not deleted. -/
  alive : ∀ a x, heap a = some x → 0 < x.serial ∧ x.serial ≤ numCreated ∧
    .deleted x.serial ∉ log ∧ a < uintptrMax
  /-- Timers that have been created live or have been deleted. -/
  accounted : ∀ n, 0 < n → n ≤ numCreated →
    .deleted n ∈ log ∨ ∃ a x, heap a = some x ∧ x.serial = n
  /-- Timers that have been deleted have been created. -/
  past : ∀ n, .deleted n ∈ log → n ≤ numCreated
  /-- Nothing happens to a timer after its deletion. -/
  silent : log.Pairwise fun earlier later => ∀ n, earlier = .deleted n → later.serial ≠ n

namespace Books

variable {heap : TimerHeap} {numCreated : Nat} {log : List TimerEvent}

/-- An event about a live timer. -/
theorem silent_append (books : Books heap numCreated log) {a : Address} {x : Timer}
    (lives : heap a = some x) {event : TimerEvent} (about : event.serial = x.serial) :
    (log ++ [event]).Pairwise fun earlier later =>
      ∀ n, earlier = .deleted n → later.serial ≠ n := by
  refine List.pairwise_append.mpr ⟨books.silent, List.pairwise_singleton _ _, ?_⟩
  rintro earlier before later last n rfl same
  obtain rfl := List.mem_singleton.mp last
  rw [about] at same
  exact (books.alive a x lives).2.2.1 (same ▸ before)

/-- An event other than a deletion about a live timer. -/
theorem note (books : Books heap numCreated log) {a : Address} {x : Timer}
    (lives : heap a = some x) {event : TimerEvent} (about : event.serial = x.serial)
    (kept : ∀ n, event ≠ .deleted n) : Books heap numCreated (log ++ [event]) where
  unique := books.unique
  alive b y found := by
    obtain ⟨positive, created, present, address⟩ := books.alive b y found
    refine ⟨positive, created, fun deleted => ?_, address⟩
    obtain before | last := List.mem_append.mp deleted
    · exact present before
    · exact kept _ (List.mem_singleton.mp last).symm
  accounted n positive created :=
    (books.accounted n positive created).imp_left (List.mem_append_left _)
  past n deleted := by
    obtain before | last := List.mem_append.mp deleted
    · exact books.past n before
    · exact absurd (List.mem_singleton.mp last).symm (kept n)
  silent := books.silent_append lives about

/-- A live timer changes without changing its number. -/
theorem change (books : Books heap numCreated log) {a : Address} {x y : Timer}
    (lives : heap a = some x) (same : y.serial = x.serial) :
    Books (Function.update heap a (some y)) numCreated log := by
  have found : ∀ b z, Function.update heap a (some y) b = some z →
      ∃ old, heap b = some old ∧ old.serial = z.serial := by
    intro b z now
    by_cases here : b = a
    · subst here
      rw [Function.update_self] at now
      obtain rfl := Option.some.inj now
      exact ⟨x, lives, same.symm⟩
    · rw [Function.update_of_ne here] at now
      exact ⟨z, now, rfl⟩
  refine ⟨?_, ?_, ?_, books.past, books.silent⟩
  · intro b c z w first second equal
    obtain ⟨old, before, serial⟩ := found b z first
    obtain ⟨older, also, again⟩ := found c w second
    exact books.unique b c old older before also (serial.trans (equal.trans again.symm))
  · intro b z now
    obtain ⟨old, before, serial⟩ := found b z now
    rw [← serial]
    exact books.alive b old before
  · intro n positive created
    obtain deleted | ⟨b, z, before, serial⟩ := books.accounted n positive created
    · exact .inl deleted
    · right
      by_cases here : b = a
      · subst here
        obtain rfl := Option.some.inj (lives.symm.trans before)
        exact ⟨b, y, Function.update_self _ _ _, same.trans serial⟩
      · exact ⟨b, z, (Function.update_of_ne here _ _).trans before, serial⟩

/-- A timer is created at a free address. -/
theorem create (books : Books heap numCreated log) {a : Address} {x : Timer}
    (free : heap a = none) (address : a < uintptrMax) (serial : x.serial = numCreated + 1) :
    Books (Function.update heap a (some x)) (numCreated + 1) log := by
  have found : ∀ b z, Function.update heap a (some x) b = some z →
      b = a ∧ z = x ∨ b ≠ a ∧ heap b = some z := by
    intro b z now
    by_cases here : b = a
    · subst here
      rw [Function.update_self] at now
      exact .inl ⟨rfl, (Option.some.inj now).symm⟩
    · rw [Function.update_of_ne here] at now
      exact .inr ⟨here, now⟩
  refine ⟨?_, ?_, ?_, fun n deleted => (books.past n deleted).trans (Nat.le_succ _), books.silent⟩
  · intro b c z w first second equal
    obtain ⟨rfl, rfl⟩ | ⟨_, before⟩ := found b z first
    · obtain ⟨rfl, -⟩ | ⟨_, also⟩ := found c w second
      · rfl
      · have created := (books.alive c w also).2.1
        omega
    · obtain ⟨rfl, rfl⟩ | ⟨_, also⟩ := found c w second
      · have created := (books.alive b z before).2.1
        omega
      · exact books.unique b c z w before also equal
  · intro b z now
    obtain ⟨rfl, rfl⟩ | ⟨_, before⟩ := found b z now
    · refine ⟨by omega, by omega, fun deleted => ?_, address⟩
      have created := books.past _ deleted
      omega
    · obtain ⟨positive, created, rest⟩ := books.alive b z before
      exact ⟨positive, by omega, rest⟩
  · intro n positive created
    by_cases last : n = numCreated + 1
    · exact .inr ⟨a, x, Function.update_self _ _ _, serial.trans last.symm⟩
    · obtain deleted | ⟨b, z, before, same⟩ := books.accounted n positive (by omega)
      · exact .inl deleted
      · have apart : b ≠ a := by
          rintro rfl
          cases free.symm.trans before
        exact .inr ⟨b, z, (Function.update_of_ne apart _ _).trans before, same⟩

/-- A live timer is deleted. -/
theorem delete (books : Books heap numCreated log) {a : Address} {x : Timer}
    (lives : heap a = some x) :
    Books (Function.update heap a none) numCreated (log ++ [.deleted x.serial]) := by
  have found : ∀ b z, Function.update heap a none b = some z → b ≠ a ∧ heap b = some z := by
    intro b z now
    by_cases here : b = a
    · subst here
      rw [Function.update_self] at now
      cases now
    · rw [Function.update_of_ne here] at now
      exact ⟨here, now⟩
  refine ⟨?_, ?_, ?_, ?_, books.silent_append lives rfl⟩
  · exact fun b c z w first second equal =>
      books.unique b c z w (found b z first).2 (found c w second).2 equal
  · intro b z now
    obtain ⟨apart, before⟩ := found b z now
    obtain ⟨positive, created, present, address⟩ := books.alive b z before
    refine ⟨positive, created, fun deleted => ?_, address⟩
    obtain earlier | last := List.mem_append.mp deleted
    · exact present earlier
    · have equal : z.serial = x.serial := by simpa using last
      exact apart (books.unique b a z x before lives equal)
  · intro n positive created
    obtain deleted | ⟨b, z, before, same⟩ := books.accounted n positive created
    · exact .inl (List.mem_append_left _ deleted)
    · by_cases here : b = a
      · subst here
        obtain rfl := Option.some.inj (lives.symm.trans before)
        exact .inl (List.mem_append_right _ (by simp [same]))
      · exact .inr ⟨b, z, (Function.update_of_ne here _ _).trans before, same⟩
  · intro n deleted
    obtain earlier | last := List.mem_append.mp deleted
    · exact books.past n earlier
    · have equal : n = x.serial := by simpa using last
      rw [equal]
      exact (books.alive a x lives).2.1

end Books

namespace TimerQueue

/-- The sets are linked, the accounts are right, and a timer lives exactly when it is queued or
outside the queue, never both. -/
structure Sound (q : TimerQueue) (out : List Address) : Prop where
  /-- The two sets hold the same timers. -/
  linked : Linked q.heap q.timers.elements q.activeTimers
  /-- Each timer outside the queue is there once. -/
  nodup : out.Nodup
  /-- Timers outside the queue are not queued. -/
  apart : ∀ a ∈ out, ∀ e ∈ q.timers, e.timer ≠ a
  /-- These are the timers that live. -/
  live : ∀ a, (q.heap a).isSome = true ↔ a ∈ out ∨ ∃ e ∈ q.timers, e.timer = a
  /-- The accounts are right. -/
  books : Books q.heap q.numCreated q.log

variable {q : TimerQueue} {out : List Address}

/-- The order of the timers outside the queue does not matter. -/
theorem Sound.perm {other : List Address} (sound : q.Sound out) (same : out.Perm other) :
    q.Sound other where
  linked := sound.linked
  nodup := same.nodup_iff.mp sound.nodup
  apart a member := sound.apart a (same.mem_iff.mpr member)
  live a := by rw [sound.live a, same.mem_iff]
  books := sound.books

/-- A timer outside the queue lives. -/
theorem Sound.lives (sound : q.Sound out) {a : Address} (member : a ∈ out) :
    ∃ object, q.heap a = some object :=
  Option.isSome_iff_exists.mp ((sound.live a).mpr (.inl member))

/-- A pointer to a live timer is followed. -/
theorem deref_eq {a : Address} {object : Timer} (lives : q.heap a = some object) :
    q.deref a = .ok object := by
  rw [deref, lives]

/-- The two sets have one size. -/
theorem Sound.size (sound : q.Sound out) : (q.timers.size == q.activeTimers.size) = true :=
  beq_iff_eq.mpr sound.linked.size

/-- A new queue is sound. -/
theorem new_sound : new.Sound [] where
  linked := ⟨nofun, nofun, .nil, rfl⟩
  nodup := .nil
  apart := nofun
  live a := ⟨nofun, by rintro (inside | ⟨_, inside, _⟩) <;> cases inside⟩
  books := ⟨nofun, nofun, fun n positive none => absurd none (by simp only [new]; omega), nofun,
    .nil⟩

/-- A creation puts a timer outside the queue. -/
theorem Sound.create (sound : q.Sound out) {timer : Address} (free : q.heap timer = none)
    (address : timer < uintptrMax) (when : Int) (interval : Interval) :
    (q.create timer when interval).Sound (timer :: out) where
  linked := sound.linked.congr fun e member => by
    obtain ⟨object, lives, -⟩ := sound.linked.entry e member
    refine Function.update_of_ne (fun same => ?_) _ _
    rw [same, free] at lives
    cases lives
  nodup := by
    refine List.nodup_cons.mpr ⟨fun member => ?_, sound.nodup⟩
    obtain ⟨object, lives⟩ := sound.lives member
    cases free.symm.trans lives
  apart a member e queued := by
    obtain rfl | old := List.mem_cons.mp member
    · rintro rfl
      obtain ⟨object, lives, -⟩ := sound.linked.entry e queued
      cases free.symm.trans lives
    · exact sound.apart a old e queued
  live a := by
    by_cases here : a = timer
    · subst here
      simp [TimerQueue.create]
    · simp only [TimerQueue.create, Function.update_of_ne here, List.mem_cons, here, false_or]
      exact sound.live a
  books := sound.books.create free address rfl

/-- A deletion of a timer outside the queue. -/
theorem Sound.delete {timer : Address} (sound : q.Sound (timer :: out)) :
    ∃ object, q.heap timer = some object ∧
      q.delete timer = .ok { q with
        heap := Function.update q.heap timer none
        log := q.log ++ [.deleted object.serial] } ∧
      { q with
        heap := Function.update q.heap timer none
        log := q.log ++ [.deleted object.serial] : TimerQueue }.Sound out := by
  obtain ⟨object, lives⟩ := sound.lives (List.mem_cons_self)
  obtain ⟨absent, nodup⟩ := List.nodup_cons.mp sound.nodup
  have away : ∀ e ∈ q.timers, e.timer ≠ timer := sound.apart timer List.mem_cons_self
  refine ⟨object, lives, by rw [TimerQueue.delete, deref_eq lives]; rfl, ⟨?_, nodup, ?_, ?_, ?_⟩⟩
  · exact sound.linked.congr fun e member => Function.update_of_ne (away e member) _ _
  · exact fun a member => sound.apart a (List.mem_cons_of_mem _ member)
  · intro a
    by_cases here : a = timer
    · subst here
      simp only [Function.update_self, Option.isSome_none, Bool.false_eq_true, false_iff, not_or]
      exact ⟨absent, fun ⟨e, member, same⟩ => away e member same⟩
    · simp only [Function.update_of_ne here]
      rw [sound.live a, List.mem_cons]
      simp only [here, false_or]
  · exact sound.books.delete lives

/-- The queue with a timer put in both sets. -/
def enqueue (q : TimerQueue) (timer : Address) (object : Timer) : TimerQueue :=
  { q with
    activeTimers := q.activeTimers.insert { timer, sequence := object.sequence }
    timers := q.timers.insert { expiration := object.expiration, timer }
    log := q.log ++ [.queued object.serial] }

/-- A timer outside the queue is queued. -/
theorem Sound.insert {timer : Address} (sound : q.Sound (timer :: out)) :
    ∃ object earliestChanged, q.heap timer = some object ∧
      q.insert timer = .ok (q.enqueue timer object, earliestChanged) ∧
      (q.enqueue timer object).Sound out := by
  obtain ⟨object, lives⟩ := sound.lives (List.mem_cons_self)
  obtain ⟨absent, nodup⟩ := List.nodup_cons.mp sound.nodup
  have away : ∀ e ∈ q.timers, e.timer ≠ timer := sound.apart timer List.mem_cons_self
  have freshEntry : ¬(⟨object.expiration, timer⟩ : Entry) ∈ q.timers := fun member =>
    away _ member rfl
  have freshActive : ¬(⟨timer, object.sequence⟩ : ActiveTimer) ∈ q.activeTimers := by
    intro member
    obtain ⟨_, _, _, queued⟩ := sound.linked.counterpart _ member
    exact away _ queued rfl
  have members : ∀ e, e ∈ (q.timers.insert ⟨object.expiration, timer⟩).elements ↔
      e = ⟨object.expiration, timer⟩ ∨ e ∈ q.timers.elements := fun e => OrderedSet.mem_insert
  have linked := sound.linked.insert lives away members (OrderedSet.nodup _)
    (OrderedSet.size_insert freshEntry)
  have size : ((q.timers.insert ⟨object.expiration, timer⟩).size ==
      (q.activeTimers.insert ⟨timer, object.sequence⟩).size) = true := beq_iff_eq.mpr linked.size
  have done : ∃ earliestChanged,
      q.insert timer = .ok (q.enqueue timer object, earliestChanged) := by
    rw [TimerQueue.insert, sound.size, deref_eq lives]
    simp only [ensure_true, ok_bind, freshActive, freshEntry, not_false_eq_true, decide_true, size]
    exact ⟨_, rfl⟩
  obtain ⟨earliestChanged, done⟩ := done
  refine ⟨object, earliestChanged, lives, done,
    ⟨linked, nodup, ?_, ?_, sound.books.note lives rfl (fun n same => by cases same)⟩⟩
  · intro a member e queued
    obtain rfl | old := OrderedSet.mem_insert.mp queued
    · rintro rfl
      exact absent member
    · exact sound.apart a (List.mem_cons_of_mem _ member) e old
  · intro a
    refine (sound.live a).trans ?_
    simp only [enqueue, List.mem_cons, OrderedSet.mem_insert]
    constructor
    · rintro ((rfl | member) | ⟨e, queued, same⟩)
      · exact .inr ⟨_, .inl rfl, rfl⟩
      · exact .inl member
      · exact .inr ⟨e, .inr queued, same⟩
    · rintro (member | ⟨e, rfl | queued, same⟩)
      · exact .inl (.inr member)
      · exact .inl (.inl same.symm)
      · exact .inr ⟨e, queued, same⟩

/-- A queued timer is taken out of both sets. -/
theorem Sound.dequeue (sound : q.Sound out) {entry : Entry} {object : Timer}
    (queued : entry ∈ q.timers) (lives : q.heap entry.timer = some object) :
    { q with
      timers := q.timers.erase entry
      activeTimers := q.activeTimers.erase ⟨entry.timer, object.sequence⟩ : TimerQueue }.Sound
        (entry.timer :: out) where
  linked := sound.linked.erase queued lives (fun _ => OrderedSet.mem_erase) (OrderedSet.nodup _)
    (OrderedSet.size_erase queued)
  nodup := List.nodup_cons.mpr ⟨fun member => sound.apart _ member entry queued rfl, sound.nodup⟩
  apart a member e left := by
    obtain ⟨old, other⟩ := OrderedSet.mem_erase.mp left
    obtain rfl | outside := List.mem_cons.mp member
    · exact fun same => other (sound.linked.unique old queued same)
    · exact sound.apart a outside e old
  live a := by
    refine (sound.live a).trans ?_
    simp only [List.mem_cons, OrderedSet.mem_erase]
    constructor
    · rintro (member | ⟨e, inside, same⟩)
      · exact .inl (.inr member)
      · by_cases here : e = entry
        · exact .inl (.inl (by rw [← same, here]))
        · exact .inr ⟨e, ⟨inside, here⟩, same⟩
    · rintro ((rfl | member) | ⟨e, ⟨inside, _⟩, same⟩)
      · exact .inr ⟨entry, queued, rfl⟩
      · exact .inl member
      · exact .inr ⟨e, inside, same⟩
  books := sound.books

/-- `addTimerInLoop` queues a timer that was on its way. -/
theorem Sound.addTimerInLoop {timer : Address} (sound : q.Sound (timer :: out)) :
    ∃ added, q.addTimerInLoop timer = .ok added ∧ added.Sound out := by
  obtain ⟨object, earliestChanged, lives, done, inserted⟩ := sound.insert
  rw [TimerQueue.addTimerInLoop, done]
  dsimp only [ok_bind]
  cases earliestChanged with
  | false => exact ⟨_, rfl, inserted⟩
  | true =>
    rw [if_pos rfl, deref_eq (q := q.enqueue timer object) lives]
    exact ⟨_, rfl, ⟨inserted.linked, inserted.nodup, inserted.apart, inserted.live,
      inserted.books⟩⟩

/-- `cancelInLoop` of any id. -/
theorem Sound.cancelInLoop (sound : q.Sound out) (timerId : ActiveTimer) :
    ∃ cancelled, q.cancelInLoop timerId = .ok cancelled ∧ cancelled.Sound out := by
  rw [TimerQueue.cancelInLoop, sound.size]
  simp only [ensure_true, ok_bind]
  by_cases active : timerId ∈ q.activeTimers
  · obtain ⟨object, lives, sequence, listed⟩ := sound.linked.counterpart timerId active
    have queued : (⟨object.expiration, timerId.timer⟩ : Entry) ∈ q.timers := listed
    have id : (⟨timerId.timer, object.sequence⟩ : ActiveTimer) = timerId := by rw [sequence]
    have dequeued := sound.dequeue queued lives
    obtain ⟨same, also, -, deleted⟩ := dequeued.delete
    obtain rfl := Option.some.inj (lives.symm.trans also)
    have size := deleted.size
    simp only [id] at size deleted
    simp only [if_pos active, deref_eq lives, queued, decide_true, ensure_true, ok_bind,
      TimerQueue.delete,
      deref_eq (q := { q with timers := q.timers.erase ⟨object.expiration, timerId.timer⟩ }) lives,
      size]
    exact ⟨_, rfl, deleted⟩
  · rw [if_neg active]
    by_cases calling : q.callingExpiredTimers = true
    · rw [if_pos calling]
      simp only [ok_bind, sound.size, ensure_true]
      exact ⟨_, rfl, ⟨sound.linked, sound.nodup, sound.apart, sound.live, sound.books⟩⟩
    · rw [if_neg calling]
      simp only [ok_bind, sound.size, ensure_true]
      exact ⟨_, rfl, sound⟩

/-- With all timers at addresses of objects, the assertion of `getExpired` is evaluated and true
exactly when there is a timer in the queue. -/
theorem expiredAssertion_iff (addresses : ∀ e ∈ q.timers, e.timer < uintptrMax) (now : Int) :
    q.expiredAssertion now = .ok true ↔ q.timers.elements ≠ [] := by
  have parts := q.timers.below_append_above ⟨now, uintptrMax⟩
  rw [expiredAssertion]
  by_cases none : q.timers.below ⟨now, uintptrMax⟩ = []
  · rw [if_neg (not_not.mpr none)]
    rw [none, List.nil_append] at parts
    cases elements : q.timers.elements with
    | nil =>
      rw [elements] at parts
      simp [OrderedSet.first, parts]
    | cons head rest =>
      have queued : head ∈ q.timers := by
        rw [OrderedSet.mem_def, elements]
        exact List.mem_cons_self
      have after : (⟨now, uintptrMax⟩ : Entry) ≤ head := by
        have above : head ∈ q.timers.above ⟨now, uintptrMax⟩ := by
          rw [OrderedSet.mem_def, parts, elements]
          exact List.mem_cons_self
        exact OrderedSet.le_of_mem_above above
      have later : now < head.expiration := by
        have address := addresses head queued
        by_contra early
        refine absurd (Entry.lt_iff.mpr ?_) (not_lt.mpr after)
        by_cases equal : head.expiration = now
        · exact .inr ⟨equal, address⟩
        · exact .inl (by dsimp only; omega)
      rw [elements] at parts
      simp [OrderedSet.first, parts, later]
  · rw [if_pos none]
    refine ⟨fun _ empty => ?_, fun _ => rfl⟩
    rw [empty] at parts
    exact none (List.append_eq_nil_iff.mp parts).1

/-- The loop that takes expired timers out of `m_activeTimers`. -/
theorem eraseActive_linked (expired : List Entry) (q : TimerQueue) {left : List Entry}
    (linked : Linked q.heap (expired ++ left) q.activeTimers) :
    ∃ active, q.eraseActive expired = .ok { q with activeTimers := active } ∧
      Linked q.heap left active := by
  induction expired generalizing q with
  | nil => exact ⟨q.activeTimers, rfl, linked⟩
  | cons entry expired ih =>
    obtain ⟨object, lives, _, member⟩ := linked.entry entry List.mem_cons_self
    obtain ⟨fresh, nodup⟩ := List.nodup_cons.mp linked.nodup
    have members : ∀ x, x ∈ expired ++ left ↔ x ∈ entry :: expired ++ left ∧ x ≠ entry := by
      intro x
      rw [List.cons_append, List.mem_cons]
      constructor
      · exact fun inside => ⟨.inr inside, fun same => fresh (same ▸ inside)⟩
      · rintro ⟨rfl | inside, other⟩
        · exact absurd rfl other
        · exact inside
    have shorter := linked.erase List.mem_cons_self lives members nodup rfl
    obtain ⟨active, done, rest⟩ := ih { q with
      activeTimers := q.activeTimers.erase ⟨entry.timer, object.sequence⟩ } shorter
    refine ⟨active, ?_, rest⟩
    rw [eraseActive, deref_eq lives]
    simp only [ok_bind, member, decide_true, ensure_true]
    exact done

/-- Queued timers are at addresses of objects. -/
theorem Sound.addresses (sound : q.Sound out) : ∀ e ∈ q.timers, e.timer < uintptrMax := by
  intro e queued
  obtain ⟨object, lives, -⟩ := sound.linked.entry e queued
  exact (sound.books.alive _ _ lives).2.2.2

/-- `getExpired` moves the expired timers out of a queue that is not empty. -/
theorem Sound.getExpired (sound : q.Sound out) (now : Int) (some : q.timers.elements ≠ []) :
    ∃ left expired, q.getExpired now = .ok (left, expired) ∧
      left.Sound (out ++ expired.map Entry.timer) := by
  have passed := (expiredAssertion_iff sound.addresses now).mpr some
  have parts := q.timers.below_append_above ⟨now, uintptrMax⟩
  have linked := sound.linked
  rw [← parts] at linked
  obtain ⟨active, erased, rest⟩ := eraseActive_linked (q.timers.below ⟨now, uintptrMax⟩)
    { q with timers := q.timers.above ⟨now, uintptrMax⟩ } linked
  have size : ((q.timers.above ⟨now, uintptrMax⟩).size == active.size) = true :=
    beq_iff_eq.mpr rest.size
  refine ⟨{ q with timers := q.timers.above ⟨now, uintptrMax⟩, activeTimers := active },
    q.timers.below ⟨now, uintptrMax⟩, ?_, ⟨rest, ?_, ?_, ?_, sound.books⟩⟩
  · rw [TimerQueue.getExpired, sound.size, passed]
    simp only [ensure_true, ok_bind, erased, size]
  · refine List.nodup_append.mpr ⟨sound.nodup, ?_, ?_⟩
    · refine List.Nodup.map_on (fun a first b second same => ?_) (linked.nodup.of_append_left)
      exact linked.unique (List.mem_append_left _ first) (List.mem_append_left _ second) same
    · rintro a outside b expired rfl
      obtain ⟨e, member, same⟩ := List.mem_map.mp expired
      exact sound.apart a outside e (OrderedSet.mem_below.mp member).1 same
  · intro a member e above same
    have queued := (OrderedSet.mem_above.mp above).1
    obtain outside | expired := List.mem_append.mp member
    · exact sound.apart a outside e queued same
    · obtain ⟨other, below, also⟩ := List.mem_map.mp expired
      have twice := sound.linked.unique queued (OrderedSet.mem_below.mp below).1
        (same.trans also.symm)
      exact absurd (OrderedSet.mem_below.mp below).2
        (not_lt.mpr (twice ▸ (OrderedSet.mem_above.mp above).2))
  · intro a
    refine (sound.live a).trans ?_
    simp only [List.mem_append, List.mem_map, OrderedSet.mem_below, OrderedSet.mem_above]
    constructor
    · rintro (outside | ⟨e, queued, same⟩)
      · exact .inl (.inl outside)
      · by_cases below : e < ⟨now, uintptrMax⟩
        · exact .inl (.inr ⟨e, ⟨queued, below⟩, same⟩)
        · exact .inr ⟨e, ⟨queued, not_lt.mp below⟩, same⟩
    · rintro ((outside | ⟨e, ⟨queued, _⟩, same⟩) | ⟨e, ⟨queued, _⟩, same⟩)
      · exact .inl outside
      · exact .inr ⟨e, queued, same⟩
      · exact .inr ⟨e, queued, same⟩

/-- On an empty queue `getExpired` dereferences `m_timers.end()`. -/
theorem Sound.getExpired_empty (sound : q.Sound out) (now : Int) (none : q.timers.elements = []) :
    q.getExpired now = .error .outOfRange := by
  have stopped : q.expiredAssertion now = .error .outOfRange := by
    have parts := q.timers.below_append_above ⟨now, uintptrMax⟩
    rw [none] at parts
    obtain ⟨below, above⟩ := List.append_eq_nil_iff.mp parts
    simp [expiredAssertion, below, OrderedSet.first, above]
  rw [TimerQueue.getExpired, sound.size, stopped]
  rfl

/-- A timer of the expired batch runs. -/
theorem Sound.run (sound : q.Sound out) {entry : Entry} (member : entry.timer ∈ out) :
    ∃ ran, q.run entry = .ok ran ∧ ran.Sound out := by
  obtain ⟨object, lives⟩ := sound.lives member
  refine ⟨{ q with log := q.log ++ [.ran object.serial] }, ?_, sound.linked, sound.nodup,
    sound.apart, sound.live, sound.books.note lives rfl (fun n same => by cases same)⟩
  rw [TimerQueue.run, deref_eq lives]
  rfl

/-- A timer outside the queue changes without changing its number. -/
theorem Sound.change {timer : Address} (sound : q.Sound (timer :: out)) {object other : Timer}
    (lives : q.heap timer = some object) (same : other.serial = object.serial) :
    { q with heap := Function.update q.heap timer (some other) : TimerQueue }.Sound
      (timer :: out) where
  linked := sound.linked.congr fun e member =>
    Function.update_of_ne (sound.apart timer List.mem_cons_self e member) _ _
  nodup := sound.nodup
  apart := sound.apart
  live a := by
    by_cases here : a = timer
    · subst here
      simp
    · simp only [Function.update_of_ne here]
      exact sound.live a
  books := sound.books.change lives same

/-- `reset` queues a timer of the batch again or deletes it. -/
theorem Sound.resetEntry {entry : Entry} (sound : q.Sound (entry.timer :: out)) (now : Int) :
    ∃ left, q.resetEntry entry now = .ok left ∧ left.Sound out := by
  obtain ⟨object, lives⟩ := sound.lives (List.mem_cons_self)
  rw [TimerQueue.resetEntry, deref_eq lives]
  simp only [ok_bind]
  split
  · have serial : (object.restart now).serial = object.serial := by
      rw [Timer.restart]
      split <;> rfl
    have changed := sound.change lives serial
    have noted : { q with
        heap := Function.update q.heap entry.timer (some (object.restart now))
        log := q.log ++ [TimerEvent.restarted object.serial] : TimerQueue }.Sound
          (entry.timer :: out) :=
      ⟨changed.linked, changed.nodup, changed.apart, changed.live,
        changed.books.note (Function.update_self _ _ _) serial.symm (fun n same => by cases same)⟩
    obtain ⟨restarted, earliestChanged, -, done, inserted⟩ := noted.insert
    rw [done]
    exact ⟨_, rfl, inserted⟩
  · obtain ⟨same, -, done, deleted⟩ := sound.delete
    exact ⟨_, done, deleted⟩

/-- The end of `reset` follows no dangling pointer. -/
theorem Sound.rearm (sound : q.Sound out) : ∃ armed, q.rearm = .ok armed ∧ armed.Sound out := by
  have kept : ∀ expiration, (q.resetTimerfd expiration).Sound out := fun _ =>
    ⟨sound.linked, sound.nodup, sound.apart, sound.live, sound.books⟩
  rw [TimerQueue.rearm]
  cases first : q.timers.first with
  | none => exact ⟨q, rfl, sound⟩
  | some earliest =>
    have queued : earliest ∈ q.timers := List.mem_of_head? first
    obtain ⟨object, lives, -⟩ := sound.linked.entry earliest queued
    simp only [deref_eq lives, ok_bind]
    split
    · exact ⟨_, rfl, kept _⟩
    · exact ⟨_, rfl, sound⟩

end TimerQueue

end Muduo
