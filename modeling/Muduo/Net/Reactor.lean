import Muduo.Net.EpollPoller

/-!
# Channels and the interest set of the kernel

Any number of channels with distinct descriptors share one poller. `EventLoop::removeChannel` has
one more assertion, about the channels being handled; the runs here include those it would stop.
-/

open Outcome Transition

namespace Muduo

/-- The channels of a loop and their poller. -/
structure Reactor where
  /-- The channels by address. -/
  objects : ChannelId → Channel
  /-- `m_poller`. -/
  poller : EpollPoller

/-- A call on one channel. -/
inductive ReactorCall
  | change (target : ChannelId) (call : Interest)
  | remove (target : ChannelId)
  deriving DecidableEq, Repr

namespace Reactor

/-- New channels with the given descriptors and a new poller. -/
def new (fds : ChannelId → Int) : Reactor :=
  { objects := fun address => .new address (fds address), poller := .new }

/-- The result of a call on one channel. -/
def put (r : Reactor) (target : ChannelId) (result : EpollPoller × Channel) : Reactor :=
  { objects := Function.update r.objects target result.2, poller := result.1 }

/-- Runs one call. -/
def exec (r : Reactor) : ReactorCall → Except Fault Reactor
  | .change target call => do
    let result ← (r.objects target).change call r.poller
    .ok (r.put target result)
  | .remove target => do
    let result ← (r.objects target).remove r.poller
    .ok (r.put target result)

/-- A call that fails no assertion. -/
def Step (before : Reactor) (call : ReactorCall) (after : Reactor) : Prop :=
  before.exec call = .ok after

/-- A descriptor is registered exactly when its channel is in `m_channels` with a mask that is not
empty, and then with that mask. -/
def Synced (r : Reactor) : Prop :=
  ∀ fd mask, (r.poller.interest fd).map EpollEvent.events = some mask ↔
    ∃ address, r.poller.channels fd = some address ∧ (r.objects address).events = mask ∧ mask ≠ 0

/-- Interest is withdrawn only from a channel that has some. -/
def Withdrawable (r : Reactor) : ReactorCall → Prop
  | .change target call => call.withdraws = true → (r.objects target).events ≠ 0
  | .remove _ => True

/-- Every channel keeps its identity and is tracked, and no other descriptor is known. -/
structure Consistent (fds : ChannelId → Int) (r : Reactor) : Prop where
  /-- Channels keep their addresses. -/
  address : ∀ a, (r.objects a).address = a
  /-- Channels keep their descriptors. -/
  fd : ∀ a, (r.objects a).fd = fds a
  /-- Indexes tell what the poller and the kernel have. -/
  tracks : ∀ a, r.poller.Tracks (r.objects a)
  /-- Descriptors of no channel are unknown. -/
  strangers : ∀ fd, (∀ a, fds a ≠ fd) →
    r.poller.channels fd = none ∧ r.poller.interest fd = none

variable {fds : ChannelId → Int}

/-- New channels are consistent. -/
theorem new_consistent (fds : ChannelId → Int) : (new fds).Consistent fds where
  address _ := rfl
  fd _ := rfl
  tracks _ := ⟨.inl rfl, rfl, rfl, fun _ => rfl⟩
  strangers _ _ := ⟨rfl, rfl⟩

/-- One channel changed within the poller's protocol leaves all channels consistent. -/
theorem Consistent.put {r : Reactor} (consistent : r.Consistent fds)
    (distinct : Function.Injective fds) {target : ChannelId} {poller : EpollPoller} {c : Channel}
    (address : c.address = target) (fd : c.fd = fds target) (tracks : poller.Tracks c)
    (elsewhere : r.poller.Elsewhere poller (fds target)) :
    (r.put target (poller, c)).Consistent fds where
  address a := by
    by_cases same : a = target
    · subst same
      simpa only [Reactor.put, Function.update_self] using address
    · simpa only [Reactor.put, Function.update_of_ne same] using consistent.address a
  fd a := by
    by_cases same : a = target
    · subst same
      simpa only [Reactor.put, Function.update_self] using fd
    · simpa only [Reactor.put, Function.update_of_ne same] using consistent.fd a
  tracks a := by
    by_cases same : a = target
    · subst same
      simpa only [Reactor.put, Function.update_self] using tracks
    · have apart : (r.objects a).fd ≠ fds target := by
        rw [consistent.fd]
        exact fun equal => same (distinct equal)
      simpa only [Reactor.put, Function.update_of_ne same] using
        (consistent.tracks a).elsewhere elsewhere apart
  strangers other unknown := by
    obtain ⟨channels, interest⟩ := elsewhere other (Ne.symm (unknown target))
    obtain ⟨absent, unwatched⟩ := consistent.strangers other unknown
    exact ⟨channels.trans absent, interest.trans unwatched⟩

/-- Consistent channels are synced exactly when every added channel asks for something. -/
theorem Consistent.synced_iff {r : Reactor} (consistent : r.Consistent fds) :
    r.Synced ↔ ∀ a, (r.objects a).index = kAdded → (r.objects a).events ≠ 0 := by
  constructor
  · intro synced a added
    have watched := (consistent.tracks a).watched
    rw [if_pos added] at watched
    obtain ⟨owner, listed, mask, asks⟩ := (synced (r.objects a).fd (r.objects a).events).mp
      (by rw [watched]; rfl)
    exact asks
  · intro asking fd mask
    by_cases known : ∃ a, fds a = fd
    · obtain ⟨a, rfl⟩ := known
      have tracks := consistent.tracks a
      have listed := tracks.listed
      have watched := tracks.watched
      rw [consistent.fd, consistent.address] at listed watched
      rw [watched]
      by_cases added : (r.objects a).index = kAdded
      · have old : (r.objects a).index ≠ kNew := by
          rw [added]
          decide
        rw [if_neg old] at listed
        rw [if_pos added]
        constructor
        · intro same
          obtain rfl := Option.some.inj same
          exact ⟨a, listed, rfl, asking a added⟩
        · rintro ⟨owner, found, rfl, -⟩
          obtain rfl := Option.some.inj (listed.symm.trans found)
          rfl
      · rw [if_neg added]
        constructor
        · intro impossible
          cases impossible
        · rintro ⟨owner, found, rfl, asks⟩
          by_cases fresh : (r.objects a).index = kNew
          · rw [if_pos fresh] at listed
            cases listed.symm.trans found
          · rw [if_neg fresh] at listed
            obtain rfl := Option.some.inj (listed.symm.trans found)
            exact absurd (tracks.asleep added) asks
    · have unknown := consistent.strangers fd fun a same => known ⟨a, same⟩
      rw [unknown.1, unknown.2]
      constructor
      · intro impossible
        cases impossible
      · rintro ⟨_, impossible, -⟩
        cases impossible

/-- A change of interest in a consistent reactor. -/
theorem exec_change {r : Reactor} (consistent : r.Consistent fds) (target : ChannelId)
    (call : Interest) :
    ∃ poller c, r.exec (.change target call) = .ok (r.put target (poller, c)) ∧
      c.address = target ∧ c.fd = fds target ∧ poller.Tracks c ∧
      r.poller.Elsewhere poller (fds target) ∧ c.events = call.apply (r.objects target).events ∧
      c.index = EpollPoller.nextIndex (r.objects target).index c.events := by
  obtain ⟨poller, done, tracks, elsewhere⟩ :=
    EpollPoller.updateChannel_tracked (consistent.tracks target)
      (call.apply (r.objects target).events)
  rw [consistent.fd] at elsewhere
  exact ⟨poller, _, bind_eq_ok.mpr ⟨_, done, rfl⟩, consistent.address target, consistent.fd target,
    tracks, elsewhere, rfl, rfl⟩

/-- A removal in a consistent reactor. -/
theorem exec_remove {r after : Reactor} (consistent : r.Consistent fds) {target : ChannelId}
    (done : r.exec (.remove target) = .ok after) :
    ∃ poller c, after = r.put target (poller, c) ∧ c.address = target ∧ c.fd = fds target ∧
      poller.Tracks c ∧ r.poller.Elsewhere poller (fds target) ∧ c.index = kNew := by
  obtain ⟨result, removed, same⟩ := bind_eq_ok.mp done
  obtain ⟨_, none, left⟩ := bind_eq_ok.mp removed
  have quiet : (r.objects target).events = 0 := by
    rw [ensure_eq_ok] at none
    exact eq_of_beq none
  have known : (r.objects target).index ≠ kNew := by
    intro fresh
    have listed := (consistent.tracks target).listed
    rw [if_pos fresh] at listed
    obtain ⟨_, found, -⟩ := bind_eq_ok.mp left
    rw [ensure_eq_ok, listed] at found
    cases found
  obtain ⟨poller, removal, tracks, elsewhere⟩ :=
    EpollPoller.removeChannel_tracked (consistent.tracks target) known quiet
  rw [consistent.fd] at elsewhere
  obtain rfl := Except.ok.inj (left.symm.trans removal)
  obtain rfl := Except.ok.inj same
  exact ⟨poller, _, rfl, consistent.address target, consistent.fd target, tracks, elsewhere, rfl⟩

/-- Every call keeps the channels consistent. -/
theorem Step.consistent {before after : Reactor} {call : ReactorCall}
    (stepped : before.Step call after) (distinct : Function.Injective fds)
    (consistent : before.Consistent fds) : after.Consistent fds := by
  cases call with
  | change target call =>
    obtain ⟨poller, c, done, address, fd, tracks, elsewhere, -⟩ :=
      exec_change consistent target call
    obtain rfl := Except.ok.inj (stepped.symm.trans done)
    exact consistent.put distinct address fd tracks elsewhere
  | remove target =>
    obtain ⟨poller, c, rfl, address, fd, tracks, elsewhere, -⟩ := exec_remove consistent stepped
    exact consistent.put distinct address fd tracks elsewhere

/-- Synced channels with one of them replaced are synced exactly when the new one is. -/
theorem Consistent.put_synced_iff {r : Reactor} (consistent : r.Consistent fds) (synced : r.Synced)
    {target : ChannelId} {poller : EpollPoller} {c : Channel}
    (after : (r.put target (poller, c)).Consistent fds) :
    (r.put target (poller, c)).Synced ↔ (c.index = kAdded → c.events ≠ 0) := by
  rw [after.synced_iff]
  constructor
  · intro asking
    simpa only [Reactor.put, Function.update_self] using asking target
  · intro asks a
    by_cases same : a = target
    · subst same
      simpa only [Reactor.put, Function.update_self] using asks
    · simpa only [Reactor.put, Function.update_of_ne same] using consistent.synced_iff.mp synced a

/-- An update keeps a channel without interest away from the kernel exactly when no interest is
withdrawn from an empty mask. -/
theorem nextIndex_asks_iff {index : Int} {events : Mask} {call : Interest}
    (added : index = kAdded ↔ events ≠ 0) :
    (EpollPoller.nextIndex index (call.apply events) = kAdded → call.apply events ≠ 0) ↔
      (call.withdraws = true → events ≠ 0) := by
  constructor
  · intro asks withdraws none
    subst none
    have empty := Interest.apply_zero withdraws
    have fresh : ¬(index = kAdded ∧ call.apply 0 = 0) := fun both => added.mp both.1 rfl
    exact asks (if_neg fresh) empty
  · intro live next
    by_cases withdraws : call.withdraws = true
    · intro none
      rw [EpollPoller.nextIndex, if_pos ⟨added.mpr (live withdraws), none⟩] at next
      exact absurd next (by decide)
    · exact Interest.apply_ne_zero events (Bool.eq_false_iff.mpr withdraws)

/-- From synced channels, a call leads to synced channels exactly when it withdraws no interest
from an empty mask. -/
theorem Step.synced_iff {before after : Reactor} {call : ReactorCall}
    (stepped : before.Step call after) (distinct : Function.Injective fds)
    (consistent : before.Consistent fds) (synced : before.Synced) :
    after.Synced ↔ before.Withdrawable call := by
  cases call with
  | change target call =>
    obtain ⟨poller, c, done, address, fd, tracks, elsewhere, events, index⟩ :=
      exec_change consistent target call
    obtain rfl := Except.ok.inj (stepped.symm.trans done)
    have kept := consistent.put distinct address fd tracks elsewhere
    rw [consistent.put_synced_iff synced kept, index, events]
    refine nextIndex_asks_iff ⟨consistent.synced_iff.mp synced target, fun asks => ?_⟩
    by_contra asleep
    exact asks ((consistent.tracks target).asleep asleep)
  | remove target =>
    obtain ⟨poller, c, rfl, address, fd, tracks, elsewhere, fresh⟩ :=
      exec_remove consistent stepped
    have kept := consistent.put distinct address fd tracks elsewhere
    rw [consistent.put_synced_iff synced kept, fresh]
    exact ⟨fun _ => trivial, fun _ same => absurd same (by decide)⟩

/-- Along every run of calls on channels with distinct descriptors, the kernel's interest set
equals the channels' interest after each call exactly when no call of the run withdraws interest
from a channel that has none. -/
theorem interest_synced_iff (fds : ChannelId → Int) (distinct : Function.Injective fds)
    (calls : List ReactorCall) (last : Reactor) (run : Run Step (new fds) calls last) :
    (∀ front back middle, calls = front ++ back → Run Step (new fds) front middle →
      Run Step middle back last → middle.Synced) ↔
      Run (Guarded Step Withdrawable) (new fds) calls last := by
  have start : (new fds).Consistent fds ∧ (new fds).Synced :=
    ⟨new_consistent fds, (new_consistent fds).synced_iff.mpr fun _ fresh =>
      absurd fresh (show kNew ≠ kAdded by decide)⟩
  have keeps : ∀ before call after, before.Consistent fds ∧ before.Synced →
      Guarded Step Withdrawable before call after → after.Consistent fds ∧ after.Synced := by
    rintro before call after ⟨consistent, synced⟩ ⟨stepped, withdrawable⟩
    exact ⟨stepped.consistent distinct consistent,
      (stepped.synced_iff distinct consistent synced).mpr withdrawable⟩
  constructor
  · intro through
    refine run.guarded start keeps ?_ through
    rintro before call after ⟨consistent, synced⟩ stepped reached
    exact (stepped.synced_iff distinct consistent synced).mp reached
  · rintro guarded front back middle rfl before after
    obtain ⟨reached, first, -⟩ := guarded.split
    obtain rfl := before.unique first.unguarded fun _ _ _ _ one two =>
      Except.ok.inj (one.symm.trans two)
    exact (first.invariant start keeps).2

/-- Reading enabled and all interest withdrawn on one channel. -/
theorem interest_synced_enable_disable :
    ∃ last, Run Step (new Int.ofNat) [.change 3 .enableReading, .change 3 .disableAll] last ∧
      last.Synced := by
  have guarded : ∃ last, Run (Guarded Step Withdrawable) (new Int.ofNat)
      [.change 3 .enableReading, .change 3 .disableAll] last :=
    ⟨_, .cons ⟨rfl, fun withdraws => absurd withdraws (by decide)⟩
      (.cons ⟨rfl, fun _ => by decide⟩ (.nil _))⟩
  obtain ⟨last, run⟩ := guarded
  have synced := (interest_synced_iff Int.ofNat (fun _ _ => Int.ofNat.inj) _ last
    run.unguarded).mpr run _ [] last (List.append_nil _).symm run.unguarded (.nil last)
  exact ⟨last, run.unguarded, synced⟩

/-- Reading disabled on a channel whose interest was withdrawn before registers it with an empty
mask. -/
theorem disableReading_registers :
    ∃ last, Run Step (new Int.ofNat)
      [.change 3 .enableReading, .change 3 .disableAll, .change 3 .disableReading] last ∧
      last.poller.interest 3 = some { events := 0, ptr := 3 } ∧ ¬last.Synced := by
  refine ⟨_, .cons rfl (.cons rfl (.cons rfl (.nil _))), rfl, fun synced => ?_⟩
  obtain ⟨_, _, _, asks⟩ := (synced 3 0).mp rfl
  exact asks rfl

end Reactor

end Muduo
