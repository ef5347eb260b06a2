import Muduo.Net.PollPoller

/-!
# The two pollers side by side

`Poller::newDefaultPoller` takes one of the two pollers for a loop. Which calls fail no assertion is
told by a record of the calls made so far: what each channel asks for, how often it was updated
since it was registered, and whether it was removed. `EpollPoller` takes every update, and the
removal of each registered channel that asks for nothing. `PollPoller` takes neither the update of a
channel that was removed, nor the removal of a channel that was updated only once.
-/

open Outcome Transition

namespace Muduo

/-- What the calls made so far did to a channel. -/
structure Usage where
  /-- What the channel asks for. -/
  events : Mask
  /-- How often it was updated since it was registered; not at all when it is not registered. -/
  updates : Nat
  /-- It was removed. -/
  removed : Bool
  deriving DecidableEq, Repr

/-- What the calls made so far did. -/
structure History where
  /-- The use of each channel. -/
  usage : ChannelId → Usage
  /-- How many channels are registered. -/
  registered : Nat

namespace History

/-- No calls so far. -/
def new : History := { usage := fun _ => ⟨kNoneEvent, 0, false⟩, registered := 0 }

/-- The history with one more call. -/
def next (h : History) : ReactorCall → History
  | .change target call =>
    let before := h.usage target
    { usage := Function.update h.usage target
        { before with events := call.apply before.events, updates := before.updates + 1 }
      registered := if before.updates = 0 then h.registered + 1 else h.registered }
  | .remove target =>
    { usage := Function.update h.usage target
        { h.usage target with updates := 0, removed := true }
      registered := h.registered - 1 }

/-- Only a registered channel that asks for nothing is removed. -/
def Proper (h : History) : ReactorCall → Prop
  | .change _ _ => True
  | .remove target => 0 < (h.usage target).updates ∧ (h.usage target).events = 0

/-- No channel is updated after its removal, or removed after its first update, and there are fewer
than `2^31` entries when a registered channel is updated or removed. -/
def Suitable (h : History) : ReactorCall → Prop
  | .change target _ =>
    ((h.usage target).updates = 0 → (h.usage target).removed = false) ∧
      (0 < (h.usage target).updates → h.registered < 2 ^ 31)
  | .remove target => (h.usage target).updates ≠ 1 ∧ h.registered < 2 ^ 31

/-- The descriptor in the entry of a channel: negated after a later update that leaves the channel
without interest. -/
def Shows (h : History) (fds : ChannelId → Int) (a : ChannelId) (pfd : PollFd) : Prop :=
  pfd.fd = if 1 < (h.usage a).updates ∧ (h.usage a).events = 0 then -fds a - 1 else fds a

variable {h : History}

/-- A call concerns the use of its channel only. -/
theorem next_usage_of_ne {call : ReactorCall} {a : ChannelId} (other : a ≠ call.target) :
    (h.next call).usage a = h.usage a := by
  cases call with
  | change target call => exact Function.update_of_ne other _ _
  | remove target => exact Function.update_of_ne other _ _

/-- The use of a channel after an update. -/
theorem next_usage_change (target : ChannelId) (call : Interest) :
    (h.next (.change target call)).usage target = { h.usage target with
      events := call.apply (h.usage target).events
      updates := (h.usage target).updates + 1 } := Function.update_self _ _ _

/-- The use of a channel after its removal. -/
theorem next_usage_remove (target : ChannelId) :
    (h.next (.remove target)).usage target =
      { h.usage target with updates := 0, removed := true } := Function.update_self _ _ _

end History

namespace Reactor

/-- The channels of a set and their `EpollPoller` are as the history tells. -/
structure Agrees (channels : Set ChannelId) (fds : ChannelId → Int) (r : Reactor) (h : History) :
    Prop where
  /-- Channels keep their addresses. -/
  address : ∀ a ∈ channels, (r.objects a).address = a
  /-- Channels keep their descriptors. -/
  fd : ∀ a ∈ channels, (r.objects a).fd = fds a
  /-- Indexes tell what the poller and the kernel have. -/
  tracks : ∀ a ∈ channels, r.poller.Tracks (r.objects a)
  /-- Masks are those of the history. -/
  events : ∀ a ∈ channels, (r.objects a).events = (h.usage a).events
  /-- Channels are new when they are not registered. -/
  fresh : ∀ a ∈ channels, (r.objects a).index = kNew ↔ (h.usage a).updates = 0

variable {channels : Set ChannelId} {fds : ChannelId → Int} {r after : Reactor} {h : History}

/-- New channels. -/
theorem new_agrees (channels : Set ChannelId) (fds : ChannelId → Int) :
    (new fds).Agrees channels fds .new where
  address _ _ := rfl
  fd _ _ := rfl
  tracks _ _ := ⟨.inl rfl, rfl, rfl, fun _ => rfl⟩
  events _ _ := rfl
  fresh _ _ := ⟨fun _ => rfl, fun _ => rfl⟩

/-- One channel changed as the history tells. -/
theorem Agrees.put (agrees : r.Agrees channels fds h) (distinct : Set.InjOn fds channels)
    (call : ReactorCall) (mine : call.target ∈ channels) {poller : EpollPoller} {c : Channel}
    (address : c.address = call.target) (fd : c.fd = fds call.target) (tracks : poller.Tracks c)
    (elsewhere : r.poller.Elsewhere poller (fds call.target))
    (events : c.events = ((h.next call).usage call.target).events)
    (fresh : c.index = kNew ↔ ((h.next call).usage call.target).updates = 0) :
    (r.put call.target (poller, c)).Agrees channels fds (h.next call) := by
  have self : (r.put call.target (poller, c)).objects call.target = c := Function.update_self _ _ _
  have apart {a : ChannelId} (other : a ≠ call.target) :
      (r.put call.target (poller, c)).objects a = r.objects a := Function.update_of_ne other _ _
  have usage {a : ChannelId} (other : a ≠ call.target) := History.next_usage_of_ne (h := h) other
  refine ⟨fun a member => ?_, fun a member => ?_, fun a member => ?_, fun a member => ?_,
    fun a member => ?_⟩ <;> by_cases same : a = call.target
  · rw [same, self, address]
  · rw [apart same, agrees.address a member]
  · rw [same, self, fd]
  · rw [apart same, agrees.fd a member]
  · rw [same, self]
    exact tracks
  · rw [apart same]
    refine (agrees.tracks a member).elsewhere elsewhere ?_
    rw [agrees.fd a member]
    exact fun equal => same (distinct member mine equal)
  · rw [same, self, events]
  · rw [apart same, usage same, agrees.events a member]
  · rw [same, self, fresh]
  · rw [apart same, usage same, agrees.fresh a member]

/-- Every update can be made, and the history tells what it does. -/
theorem Agrees.change (agrees : r.Agrees channels fds h) (distinct : Set.InjOn fds channels)
    {target : ChannelId} (mine : target ∈ channels) (call : Interest) :
    ∃ after, r.Step (.change target call) after ∧
      after.Agrees channels fds (h.next (.change target call)) := by
  obtain ⟨poller, done, tracks, elsewhere⟩ :=
    EpollPoller.updateChannel_tracked (agrees.tracks target mine)
      (call.apply (r.objects target).events)
  rw [agrees.fd target mine] at elsewhere
  refine ⟨_, bind_eq_ok.mpr ⟨_, done, rfl⟩, ?_⟩
  refine agrees.put distinct (.change target call) mine (agrees.address target mine)
    (agrees.fd target mine) tracks elsewhere ?_ ?_
  · exact (congrArg call.apply (agrees.events target mine)).trans
      (congrArg Usage.events (History.next_usage_change target call)).symm
  · rw [ReactorCall.target, History.next_usage_change]
    refine ⟨fun new => ?_, fun none => absurd none (Nat.succ_ne_zero _)⟩
    dsimp only [EpollPoller.nextIndex] at new
    split at new <;> exact absurd new (by decide)

/-- A registered channel that asks for nothing can be removed, and the history tells what that
does. -/
theorem Agrees.remove (agrees : r.Agrees channels fds h) (distinct : Set.InjOn fds channels)
    {target : ChannelId} (mine : target ∈ channels) (proper : h.Proper (.remove target)) :
    ∃ after, r.Step (.remove target) after ∧
      after.Agrees channels fds (h.next (.remove target)) := by
  have known : (r.objects target).index ≠ kNew := by
    rw [Ne, agrees.fresh target mine]
    exact Nat.pos_iff_ne_zero.mp proper.1
  have none : (r.objects target).events = 0 := (agrees.events target mine).trans proper.2
  have quiet : (r.objects target).isNoneEvent = true := by
    rw [Channel.isNoneEvent, none]
    rfl
  obtain ⟨poller, done, tracks, elsewhere⟩ :=
    EpollPoller.removeChannel_tracked (agrees.tracks target mine) known none
  rw [agrees.fd target mine] at elsewhere
  refine ⟨_, bind_eq_ok.mpr ⟨_, bind_eq_ok.mpr ⟨(), ensure_eq_ok.mpr quiet, done⟩, rfl⟩, ?_⟩
  refine agrees.put distinct (.remove target) mine (agrees.address target mine)
    (agrees.fd target mine) tracks elsewhere ?_ ?_
  · exact (agrees.events target mine).trans
      (congrArg Usage.events (History.next_usage_remove target)).symm
  · rw [ReactorCall.target, History.next_usage_remove]
    exact ⟨fun _ => rfl, fun _ => rfl⟩

/-- Only a registered channel that asks for nothing can be removed. -/
theorem Agrees.proper (agrees : r.Agrees channels fds h) {target : ChannelId}
    (mine : target ∈ channels) (stepped : r.Step (.remove target) after) :
    h.Proper (.remove target) := by
  obtain ⟨_, removed, -⟩ := bind_eq_ok.mp stepped
  obtain ⟨_, quiet, left⟩ := bind_eq_ok.mp removed
  rw [ensure_eq_ok] at quiet
  refine ⟨Nat.pos_of_ne_zero fun zero => ?_, (agrees.events target mine).symm.trans ?_⟩
  · have listed := (agrees.tracks target mine).listed
    rw [if_pos ((agrees.fresh target mine).mpr zero)] at listed
    obtain ⟨_, found, -⟩ := bind_eq_ok.mp left
    rw [ensure_eq_ok, listed] at found
    cases found
  · exact eq_of_beq quiet

/-- With `EpollPoller`, the sequences of calls that fail no assertion are the proper ones. -/
theorem run_iff_proper (distinct : Set.InjOn fds channels) {calls : List ReactorCall}
    (within : ∀ call ∈ calls, call.target ∈ channels) :
    (∃ last, Run Step (new fds) calls last) ↔
      Obeys History.next History.Proper History.new calls := by
  refine run_iff_obeys (new_agrees channels fds) within ?_ ?_
  · intro r h call mine agrees
    cases call with
    | change target call =>
      obtain ⟨after, stepped, -⟩ := agrees.change distinct mine call
      exact ⟨fun _ => trivial, fun _ => ⟨after, stepped⟩⟩
    | remove target =>
      refine ⟨fun ⟨after, stepped⟩ => agrees.proper mine stepped, fun proper => ?_⟩
      obtain ⟨after, stepped, -⟩ := agrees.remove distinct mine proper
      exact ⟨after, stepped⟩
  · intro r h call after mine agrees stepped
    cases call with
    | change target call =>
      obtain ⟨next, taken, kept⟩ := agrees.change distinct mine call
      obtain rfl := Except.ok.inj (stepped.symm.trans taken)
      exact kept
    | remove target =>
      obtain ⟨next, taken, kept⟩ := agrees.remove distinct mine (agrees.proper mine stepped)
      obtain rfl := Except.ok.inj (stepped.symm.trans taken)
      exact kept

end Reactor

namespace PollReactor

/-- The channels of a set and their `PollPoller` are as the history tells. -/
structure Agrees (channels : Set ChannelId) (fds : ChannelId → Int) (r : PollReactor)
    (h : History) : Prop where
  /-- The array and `m_channels` agree, and entries show what the history tells. -/
  indexed : r.Indexed channels fds (h.Shows fds)
  /-- Masks are those of the history. -/
  events : ∀ a ∈ channels, (r.objects a).events = (h.usage a).events
  /-- Registered channels are those of the history. -/
  listed : ∀ a ∈ channels, r.Registered a ↔ 0 < (h.usage a).updates
  /-- Only channels that were never registered have a negative index. -/
  index : ∀ a ∈ channels,
    (r.objects a).index < 0 ↔ (h.usage a).updates = 0 ∧ (h.usage a).removed = false
  /-- The size of the array. -/
  size : h.registered = r.poller.pollfds.length

variable {channels : Set ChannelId} {fds : ChannelId → Int} {r after : PollReactor} {h : History}

/-- New channels. -/
theorem new_agrees (channels : Set ChannelId) (fds : ChannelId → Int) :
    (new fds).Agrees channels fds .new where
  indexed := new_indexed channels fds _
  events _ _ := rfl
  listed _ _ := by
    constructor
    · intro found
      cases found
    · intro some
      exact absurd some (Nat.lt_irrefl 0)
  index _ _ := ⟨fun _ => ⟨rfl, rfl⟩, fun _ => show (-1 : Int) < 0 by decide⟩
  size := rfl

/-- The assertions on the index of a registered channel hold when the size of the array is an
`int`. -/
theorem Indexed.index_lt_iff {more : ChannelId → PollFd → Prop}
    (indexed : r.Indexed channels fds more)
    (range : ∀ a ∈ channels, 0 ≤ fds a ∧ fds a < 2 ^ 31) {a : ChannelId}
    (registered : r.Registered a) :
    (r.objects a).index < intOfSize r.poller.pollfds.length ↔
      r.poller.pollfds.length < 2 ^ 31 := by
  have few := indexed.length_le range
  have nonneg := indexed.nonneg a registered
  have inside := indexed.dense.inside (place_eq_some.mpr ⟨registered, rfl⟩)
  rw [intOfSize]
  split <;> omega

/-- No channel is found under the descriptor of one that is not registered. -/
theorem Agrees.absent (agrees : r.Agrees channels fds h) (distinct : Set.InjOn fds channels)
    {target : ChannelId} (mine : target ∈ channels) (zero : (h.usage target).updates = 0) :
    r.poller.channels.lookup (fds target) = none := by
  rw [Option.eq_none_iff_forall_not_mem]
  intro b found
  obtain ⟨other, same⟩ := agrees.indexed.known _ b found
  obtain rfl := distinct mine other same
  have registered := (agrees.listed target mine).mp
    (agrees.indexed.registered_iff.mpr ⟨mine, found⟩)
  omega

/-- One channel changed as the history tells. -/
theorem Agrees.moved (agrees : r.Agrees channels fds h) (call : ReactorCall)
    (kept : after.Indexed channels fds ((h.next call).Shows fds))
    (events : (after.objects call.target).events = ((h.next call).usage call.target).events)
    (listed : after.Registered call.target ↔ 0 < ((h.next call).usage call.target).updates)
    (index : (after.objects call.target).index < 0 ↔
      ((h.next call).usage call.target).updates = 0 ∧
        ((h.next call).usage call.target).removed = false)
    (others : ∀ a ∈ channels, a ≠ call.target →
      (after.objects a).events = (r.objects a).events ∧
      (after.Registered a ↔ r.Registered a) ∧
      ((after.objects a).index < 0 ↔ (r.objects a).index < 0))
    (size : (h.next call).registered = after.poller.pollfds.length) :
    after.Agrees channels fds (h.next call) := by
  have usage {a : ChannelId} (other : a ≠ call.target) := History.next_usage_of_ne (h := h) other
  refine ⟨kept, fun a member => ?_, fun a member => ?_, fun a member => ?_, size⟩ <;>
    by_cases same : a = call.target
  · rw [same, events]
  · rw [usage same, (others a member same).1, agrees.events a member]
  · rw [same, listed]
  · rw [usage same, (others a member same).2.1, agrees.listed a member]
  · rw [same, index]
  · rw [usage same, (others a member same).2.2, agrees.index a member]

/-- An update finds an index that is not negative exactly when the channel is registered. -/
theorem Agrees.known (agrees : r.Agrees channels fds h) {target : ChannelId}
    (mine : target ∈ channels) {call : Interest} (stepped : r.Step (.change target call) after) :
    0 ≤ (r.objects target).index ↔ 0 < (h.usage target).updates := by
  have index := agrees.index target mine
  obtain ⟨fresh, -, -⟩ | ⟨nonneg, -, found, -, -⟩ := exec_change_iff.mp stepped
  · have zero := (index.mp fresh).1
    omega
  · rw [agrees.indexed.named.address target mine] at found
    have positive := (agrees.listed target mine).mp found
    omega

/-- What a removal does besides the entries. -/
theorem Step.removal {target : ChannelId} (stepped : r.Step (.remove target) after)
    {more : ChannelId → PollFd → Prop} (indexed : r.Indexed channels fds more)
    (distinct : Set.InjOn fds channels) (mine : target ∈ channels) :
    (∀ a, (after.objects a).events = (r.objects a).events) ∧
    (∀ a, (after.objects a).index < 0 ↔ (r.objects a).index < 0) ∧
    after.poller.channels = r.poller.channels.erase (r.objects target).fd ∧
    after.poller.pollfds.length = r.poller.pollfds.length - 1 := by
  obtain ⟨-, -, nonneg, -, pfd, back, -, last, -, -, rest⟩ := exec_remove_iff.mp stepped
  obtain ⟨-, rfl⟩ | ⟨-, owner, known, rfl⟩ := rest
  · refine ⟨fun a => ?_, fun a => ?_, rfl, List.length_dropLast⟩
    · by_cases same : a = target
      · rw [same, leaveLast_self]
      · rw [leaveLast_of_ne same]
    · by_cases same : a = target
      · rw [same, leaveLast_self]
      · rw [leaveLast_of_ne same]
  · obtain ⟨found, different⟩ := (lookup_erase_iff indexed mine distinct _ owner).mp known
    obtain ⟨other, same⟩ := indexed.known _ owner found
    rw [same] at found
    have owned := indexed.nonneg owner (indexed.registered_iff.mpr ⟨other, found⟩)
    refine ⟨leave_events different, fun a => ?_, rfl, ?_⟩
    · by_cases isTarget : a = target
      · rw [isTarget, leave_self different]
      by_cases isOwner : a = owner
      · rw [isOwner, leave_owner different]
        exact ⟨fun negative => absurd nonneg (not_le.mpr negative),
          fun negative => absurd owned (not_le.mpr negative)⟩
      · rw [leave_of_ne isTarget isOwner]
    · dsimp only [leave]
      rw [List.length_dropLast, List.length_set, List.length_set]

section Descriptors

variable (range : ∀ a ∈ channels, 0 ≤ fds a ∧ fds a < 2 ^ 31) (distinct : Set.InjOn fds channels)

include range distinct

/-- Which updates can be made. -/
theorem Agrees.change_iff (agrees : r.Agrees channels fds h)
    {target : ChannelId} (mine : target ∈ channels) (call : Interest) :
    (∃ after, r.Step (.change target call) after) ↔ h.Suitable (.change target call) := by
  have descriptor := agrees.indexed.named.fd target mine
  have address := agrees.indexed.named.address target mine
  have listed := agrees.listed target mine
  have index := agrees.index target mine
  constructor
  · rintro ⟨after, stepped⟩
    obtain ⟨fresh, -, -⟩ | ⟨-, inside, found, -, -⟩ := exec_change_iff.mp stepped
    · obtain ⟨zero, never⟩ := index.mp fresh
      exact ⟨fun _ => never, fun some => by omega⟩
    · rw [address] at found
      refine ⟨fun zero => absurd (listed.mp found) (by omega), fun _ => ?_⟩
      rw [agrees.size]
      exact (agrees.indexed.index_lt_iff range found).mp inside
  · rintro ⟨never, few⟩
    by_cases zero : (h.usage target).updates = 0
    · refine ⟨_, exec_change_iff.mpr (.inl ⟨index.mpr ⟨zero, never zero⟩, ?_, rfl⟩)⟩
      rw [descriptor]
      exact agrees.absent distinct mine zero
    · have registered := listed.mpr (Nat.pos_of_ne_zero zero)
      obtain ⟨pfd, found, ⟨form, -⟩, -⟩ :=
        agrees.indexed.dense.entry (place_eq_some.mpr ⟨registered, rfl⟩)
      have size := few (Nat.pos_of_ne_zero zero)
      rw [agrees.size] at size
      refine ⟨_, exec_change_iff.mpr (.inr ⟨agrees.indexed.nonneg target registered,
        (agrees.indexed.index_lt_iff range registered).mpr size, ?_, ⟨pfd, found, form⟩, rfl⟩)⟩
      rw [address]
      exact registered

/-- Which removals can be made. -/
theorem Agrees.remove_iff (agrees : r.Agrees channels fds h)
    {target : ChannelId} (mine : target ∈ channels) :
    (∃ after, r.Step (.remove target) after) ↔
      h.Proper (.remove target) ∧ h.Suitable (.remove target) := by
  have indexed := agrees.indexed
  have descriptor := indexed.named.fd target mine
  have address := indexed.named.address target mine
  have listed := agrees.listed target mine
  have lower := (range target mine).1
  constructor
  · rintro ⟨after, stepped⟩
    obtain ⟨quiet, found, -, inside, pfd, back, entry, -, form, -, -⟩ :=
      exec_remove_iff.mp stepped
    rw [address] at found
    rw [descriptor] at form
    obtain ⟨same, again, -, shows⟩ := indexed.dense.entry (place_eq_some.mpr ⟨found, rfl⟩)
    obtain rfl := Option.some.inj (entry.symm.trans again)
    refine ⟨⟨listed.mp found, (agrees.events target mine).symm.trans quiet⟩, fun once => ?_, ?_⟩
    · rw [History.Shows, if_neg (by omega)] at shows
      omega
    · rw [agrees.size]
      exact (indexed.index_lt_iff range found).mp inside
  · rintro ⟨⟨positive, none⟩, often, few⟩
    have registered := listed.mpr positive
    have quiet := (agrees.events target mine).trans none
    have inside := indexed.dense.inside (place_eq_some.mpr ⟨registered, rfl⟩)
    obtain ⟨pfd, entry, ⟨-, events⟩, shows⟩ :=
      indexed.dense.entry (place_eq_some.mpr ⟨registered, rfl⟩)
    rw [History.Shows, if_pos ⟨by omega, none⟩, ← descriptor] at shows
    obtain ⟨back, last⟩ : ∃ back, r.poller.pollfds.getLast? = some back :=
      ⟨_, List.getLast?_eq_some_getLast (List.ne_nil_of_length_pos (Nat.zero_lt_of_lt inside))⟩
    rw [agrees.size] at few
    have found : r.poller.channels.lookup (r.objects target).fd =
        some (r.objects target).address := by
      rw [address]
      exact registered
    by_cases same :
        sizeOfInt (r.objects target).index = sizeSub r.poller.pollfds.length 1
    · exact ⟨_, exec_remove_iff.mpr ⟨quiet, found, indexed.nonneg target registered,
        (indexed.index_lt_iff range registered).mpr few, pfd, back, entry, last, shows,
        events.trans quiet, .inl ⟨same, rfl⟩⟩⟩
    · obtain ⟨owner, owned, position, atEnd⟩ := indexed.owner_of_last range last
      have different : owner ≠ target := by
        rintro rfl
        apply same
        have nonneg := indexed.nonneg owner registered
        have bound := intOfSize_lt r.poller.pollfds.length
        have small := (indexed.index_lt_iff range registered).mpr few
        rw [sizeSub_of_le (by omega) (by omega), ← position, sizeOfInt,
          Int.emod_eq_of_lt nonneg (by omega)]
      refine ⟨_, exec_remove_iff.mpr ⟨quiet, found, indexed.nonneg target registered,
        (indexed.index_lt_iff range registered).mpr few, pfd, back, entry, last, shows,
        events.trans quiet, .inr ⟨same, owner, ?_, rfl⟩⟩⟩
      rw [lookup_erase_iff indexed mine distinct, atEnd]
      exact ⟨(indexed.registered_iff.mp owned).2, different⟩

/-- After an update the entries show what the history tells. -/
theorem Agrees.change_indexed (agrees : r.Agrees channels fds h)
    {target : ChannelId} (mine : target ∈ channels) {call : Interest}
    (stepped : r.Step (.change target call) after) :
    after.Indexed channels fds ((h.next (.change target call)).Shows fds) := by
  refine Step.indexed stepped range distinct mine agrees.indexed ?_ ?_
  · rintro _ _ pfd ⟨⟩ form
    rw [History.Shows, History.next_usage_change, form]
    simp only [agrees.known mine stepped, agrees.events target mine, Nat.lt_add_left_iff_pos]
  · intro a pfd other shows
    rw [History.Shows, History.next_usage_of_ne other]
    exact shows

/-- The history tells what an update does. -/
theorem Agrees.change (agrees : r.Agrees channels fds h)
    {target : ChannelId} (mine : target ∈ channels) {call : Interest}
    (stepped : r.Step (.change target call) after) :
    after.Agrees channels fds (h.next (.change target call)) := by
  have self := History.next_usage_change (h := h) target call
  have events := agrees.events target mine
  have known := agrees.known mine stepped
  have kept := agrees.change_indexed range distinct mine stepped
  obtain ⟨fresh, -, rfl⟩ | ⟨nonneg, -, -, -, rfl⟩ := exec_change_iff.mp stepped
  · have zero : (h.usage target).updates = 0 := by
      have positive := known.mpr.mt (not_le.mpr fresh)
      omega
    have here := enter_registered call (agrees.indexed.named.address target mine)
    have nonneg := kept.nonneg target here
    refine agrees.moved (.change target call) kept ?_ ?_ ?_
      (fun a member (other : a ≠ target) => ⟨?_, ?_, ?_⟩) ?_
    · rw [ReactorCall.target, self, enter_self, ← events]
      rfl
    · rw [ReactorCall.target, self]
      exact ⟨fun _ => Nat.succ_pos _, fun _ => here⟩
    · rw [ReactorCall.target, self]
      exact ⟨fun negative => by omega, fun never => absurd never.1 (Nat.succ_ne_zero _)⟩
    · rw [enter_of_ne call other]
    · rw [kept.registered_iff, agrees.indexed.registered_iff, enter,
        agrees.indexed.named.fd target mine,
        AList.lookup_insert_ne fun equal => other (distinct member mine equal)]
    · rw [enter_of_ne call other]
    · dsimp only [History.next, enter]
      rw [if_pos zero, agrees.size, List.length_append, List.length_singleton]
  · have positive := known.mp nonneg
    have listed (a : ChannelId) : (r.rewrite target call).Registered a ↔ r.Registered a := by
      rw [kept.registered_iff, agrees.indexed.registered_iff]
      rfl
    refine agrees.moved (.change target call) kept ?_ ?_ ?_
      (fun a _ (other : a ≠ target) => ⟨?_, listed a, ?_⟩) ?_
    · rw [ReactorCall.target, self, rewrite_self, ← events]
      rfl
    · rw [ReactorCall.target, self, listed, agrees.listed target mine]
      exact ⟨fun _ => Nat.succ_pos _, fun _ => positive⟩
    · rw [ReactorCall.target, self, rewrite_self]
      exact ⟨fun negative => absurd nonneg (not_le.mpr negative),
        fun never => absurd never.1 (Nat.succ_ne_zero _)⟩
    · rw [rewrite_of_ne call other]
    · rw [rewrite_of_ne call other]
    · dsimp only [History.next, rewrite]
      rw [if_neg (by omega), agrees.size, List.length_set]

/-- The history tells what a removal does. -/
theorem Agrees.remove (agrees : r.Agrees channels fds h)
    {target : ChannelId} (mine : target ∈ channels) (stepped : r.Step (.remove target) after) :
    after.Agrees channels fds (h.next (.remove target)) := by
  have self := History.next_usage_remove (h := h) target
  have kept : after.Indexed channels fds ((h.next (.remove target)).Shows fds) := by
    refine Step.indexed stepped range distinct mine agrees.indexed ?_ ?_
    · intro _ _ pfd impossible
      cases impossible
    · intro a pfd other shows
      rw [History.Shows, History.next_usage_of_ne other]
      exact shows
  obtain ⟨events, index, map, size⟩ := stepped.removal agrees.indexed distinct mine
  have nonneg := (exec_remove_iff.mp stepped).2.2.1
  have listed (a : ChannelId) : after.Registered a ↔ r.Registered a ∧ a ≠ target := by
    rw [kept.registered_iff, map, lookup_erase_iff agrees.indexed mine distinct,
      agrees.indexed.registered_iff, and_assoc]
  refine agrees.moved (.remove target) kept ?_ ?_ ?_
    (fun a _ other => ⟨events a, ?_, index a⟩) ?_
  · rw [ReactorCall.target, self, events, agrees.events target mine]
  · rw [ReactorCall.target, self, listed]
    exact ⟨fun found => absurd rfl found.2, fun some => absurd some (Nat.lt_irrefl 0)⟩
  · rw [ReactorCall.target, self, index]
    exact ⟨fun negative => absurd nonneg (not_le.mpr negative), fun never => nomatch never.2⟩
  · rw [listed]
    exact and_iff_left other
  · rw [size, ← agrees.size]
    rfl

/-- With `PollPoller`, the sequences of calls that fail no assertion are those that are proper and
suitable. -/
theorem run_iff_suitable {calls : List ReactorCall}
    (within : ∀ call ∈ calls, call.target ∈ channels) :
    (∃ last, Run Step (new fds) calls last) ↔
      Obeys History.next History.Proper History.new calls ∧
        Obeys History.next History.Suitable History.new calls := by
  rw [← obeys_and]
  refine run_iff_obeys (new_agrees channels fds) within ?_ ?_
  · intro r h call mine agrees
    cases call with
    | change target call =>
      exact (agrees.change_iff range distinct mine call).trans (and_iff_right trivial).symm
    | remove target => exact agrees.remove_iff range distinct mine
  · intro r h call after mine agrees stepped
    cases call with
    | change target call => exact agrees.change range distinct mine stepped
    | remove target => exact agrees.remove range distinct mine stepped

end Descriptors

/-- A sequence of calls on channels with distinct descriptors fails an assertion with both pollers
or with neither exactly when it is improper, so that it fails with both, or suitable. -/
theorem pollers_agree_iff (channels : Set ChannelId) (fds : ChannelId → Int)
    (range : ∀ a ∈ channels, 0 ≤ fds a ∧ fds a < 2 ^ 31) (distinct : Set.InjOn fds channels)
    (calls : List ReactorCall) (within : ∀ call ∈ calls, call.target ∈ channels) :
    ((∃ last, Run Reactor.Step (Reactor.new fds) calls last) ↔
      ∃ last, Run Step (new fds) calls last) ↔
    (Obeys History.next History.Proper History.new calls →
      Obeys History.next History.Suitable History.new calls) := by
  rw [Reactor.run_iff_proper distinct within, run_iff_suitable range distinct within]
  exact ⟨fun same proper => (same.mp proper).2,
    fun suits => ⟨fun proper => ⟨proper, suits proper⟩, And.left⟩⟩

/-- Three is a descriptor. -/
theorem three_in_range : ∀ a ∈ ({3} : Set ChannelId), 0 ≤ Int.ofNat a ∧ Int.ofNat a < 2 ^ 31 := by
  rintro a rfl
  decide

/-- A channel is enabled, disabled and removed: both pollers take the calls. -/
theorem pollers_agree_disabled :
    (∃ last, Run Reactor.Step (Reactor.new Int.ofNat)
      [.change 3 .enableReading, .change 3 .disableAll, .remove 3] last) ↔
    ∃ last, Run Step (new Int.ofNat)
      [.change 3 .enableReading, .change 3 .disableAll, .remove 3] last := by
  have within : ∀ call ∈ [ReactorCall.change 3 .enableReading, .change 3 .disableAll, .remove 3],
      call.target ∈ ({3} : Set ChannelId) := by
    simp [ReactorCall.target]
  refine (pollers_agree_iff {3} Int.ofNat three_in_range (fun _ _ _ _ same => Int.ofNat.inj same) _
    within).mpr fun _ => ?_
  simp [Obeys, History.next, History.new, History.Suitable]

/-- `Acceptor::~Acceptor` before `listen()`: a channel that was never enabled is disabled and
removed. `EpollPoller` takes the calls and `PollPoller` does not. -/
theorem pollers_differ_never_enabled :
    (∃ last, Run Reactor.Step (Reactor.new Int.ofNat)
      [.change 3 .disableAll, .remove 3] last) ∧
    ¬∃ last, Run Step (new Int.ofNat) [.change 3 .disableAll, .remove 3] last := by
  refine ⟨⟨_, .cons rfl (.cons rfl (.nil _))⟩, fun run => ?_⟩
  have within : ∀ call ∈ [ReactorCall.change 3 .disableAll, .remove 3],
      call.target ∈ ({3} : Set ChannelId) := by
    simp [ReactorCall.target]
  obtain ⟨-, -, removal, -⟩ := (run_iff_suitable three_in_range
    (fun _ _ _ _ same => Int.ofNat.inj same) within).mp run
  exact removal.1 rfl

end PollReactor

end Muduo
