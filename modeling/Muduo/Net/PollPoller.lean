import Mathlib.Data.Finset.Card
import Mathlib.Data.List.AList
import Mathlib.Order.Interval.Finset.Nat
import Mathlib.Data.Int.Interval
import Muduo.Base.Machine
import Muduo.Lib.DenseArray
import Muduo.Net.Reactor

/-!
# `dc::net::PollPoller`

The poller keeps an array for `::poll` and, by descriptor, the channels of the array. The index of a
channel is the position of its entry. The entry of a channel that asks for nothing holds the
descriptor in negated form, which `::poll` passes over. A removal moves the last entry into the hole
and changes the index of the channel it belongs to.
-/

open Outcome Transition

namespace Muduo

/-- `struct pollfd`. -/
structure PollFd where
  /-- `fd`. -/
  fd : Int
  /-- `events`, a `short`. -/
  events : BitVec 16
  /-- `revents`, a `short`. -/
  revents : BitVec 16
  deriving DecidableEq, Repr

/-- `Poller::ChannelMap`. -/
abbrev ChannelMap := AList fun _ : Int => ChannelId

/-- `class PollPoller`. -/
structure PollPoller where
  /-- `m_pollfds`. -/
  pollfds : List PollFd
  /-- `m_channels`. -/
  channels : ChannelMap

namespace PollPoller

/-- `PollPoller(EventLoop* loop)`. -/
def new : PollPoller := { pollfds := [], channels := ∅ }

/-- `updateChannel(channel)`. -/
def updateChannel (p : PollPoller) (c : Channel) : Except Fault (PollPoller × Channel) :=
  if c.index < 0 then do
    ensure (p.channels.lookup c.fd).isNone "m_channels.find(channel->fd()) == m_channels.end()"
    let pfd : PollFd := { fd := c.fd, events := c.events.setWidth 16, revents := 0 }
    let pollfds := p.pollfds ++ [pfd]
    let idx := intOfSize (sizeSub pollfds.length 1)
    .ok ({ pollfds, channels := p.channels.insert pfd.fd c.address }, { c with index := idx })
  else do
    ensure (p.channels.lookup c.fd).isSome "m_channels.find(channel->fd()) != m_channels.end()"
    ensure (p.channels.lookup c.fd == some c.address) "m_channels[channel->fd()] == channel"
    let idx := c.index
    ensure (0 ≤ idx && idx < intOfSize p.pollfds.length)
      "0 <= idx && idx < static_cast<int>(m_pollfds.size())"
    match p.pollfds[idx.toNat]? with
    | none => .error .outOfRange
    | some pfd => do
      ensure (pfd.fd == c.fd || pfd.fd == -c.fd - 1)
        "pfd.fd == channel->fd() || pfd.fd == -channel->fd() - 1"
      let fd := if c.isNoneEvent then -c.fd - 1 else c.fd
      let updated : PollFd := { fd, events := c.events.setWidth 16, revents := 0 }
      .ok ({ p with pollfds := p.pollfds.set idx.toNat updated }, c)

/-- The descriptor that an entry belongs to, as `removeChannel` computes it. -/
def channelAtEnd (fd : Int) : Int := if fd < 0 then -fd - 1 else fd

/-- `removeChannel(channel)`. It may change the index of another channel. -/
def removeChannel (p : PollPoller) (objects : ChannelId → Channel) (c : Channel) :
    Except Fault (PollPoller × (ChannelId → Channel)) := do
  ensure (p.channels.lookup c.fd).isSome "m_channels.find(channel->fd()) != m_channels.end()"
  ensure (p.channels.lookup c.fd == some c.address) "m_channels[channel->fd()] == channel"
  ensure c.isNoneEvent "channel->isNoneEvent()"
  let idx := c.index
  ensure (0 ≤ idx && idx < intOfSize p.pollfds.length)
    "0 <= idx && idx < static_cast<int>(m_pollfds.size())"
  match p.pollfds[idx.toNat]?, p.pollfds.getLast? with
  | some pfd, some back => do
    ensure (pfd.fd == -c.fd - 1 && pfd.events.signExtend 32 == c.events)
      "pfd.fd == -channel->fd() - 1 && pfd.events == channel->events()"
    let channels := p.channels.erase c.fd
    if sizeOfInt idx == sizeSub p.pollfds.length 1 then
      .ok ({ pollfds := p.pollfds.dropLast, channels }, objects)
    else
      let swapped := (p.pollfds.set idx.toNat back).set (p.pollfds.length - 1) pfd
      match channels.lookup (channelAtEnd back.fd) with
      | none => .error .nullPointer
      | some owner =>
        let moved := { objects owner with index := idx }
        .ok ({ pollfds := swapped.dropLast, channels }, Function.update objects owner moved)
  | _, _ => .error .outOfRange

/-- The loop of `fillActiveChannels(numEvents, activeChannels)` over the rest of the array. -/
def fillActiveChannels (p : PollPoller) : List PollFd → Int → (ChannelId → Channel) →
    Except Fault ((ChannelId → Channel) × List ChannelId)
  | [], _, objects => .ok (objects, [])
  | pfd :: rest, numEvents, objects =>
    if 0 < numEvents then
      if 0 < pfd.revents.toInt then
        match p.channels.lookup pfd.fd with
        | none => .error (.assertion "ch != m_channels.end()")
        | some channel => do
          ensure ((objects channel).fd == pfd.fd) "channel->fd() == pfd->fd"
          let reported := { objects channel with revents := pfd.revents.signExtend 32 }
          let (filled, activeChannels) ←
            p.fillActiveChannels rest (numEvents - 1) (Function.update objects channel reported)
          .ok (filled, channel :: activeChannels)
      else
        p.fillActiveChannels rest numEvents objects
    else
      .ok (objects, [])

end PollPoller

/-- The channel of a call. -/
def ReactorCall.target : ReactorCall → ChannelId
  | .change target _ => target
  | .remove target => target

/-- The channels of a loop and their poller, when the loop uses `PollPoller`. -/
structure PollReactor where
  /-- The channels by address. -/
  objects : ChannelId → Channel
  /-- `m_poller`. -/
  poller : PollPoller

namespace PollReactor

/-- New channels with the given descriptors and a new poller. -/
def new (fds : ChannelId → Int) : PollReactor :=
  { objects := fun address => .new address (fds address), poller := .new }

/-- Runs one call on a channel: `enableReading()`, `disableReading()`, `enableWriting()`,
`disableWriting()`, `disableAll()` or `remove()`. -/
def exec (r : PollReactor) : ReactorCall → Except Fault PollReactor
  | .change target call => do
    let (poller, updated) ←
      r.poller.updateChannel { (r.objects target).set call with addedToLoop := true }
    .ok { objects := Function.update r.objects target updated, poller }
  | .remove target => do
    ensure (r.objects target).isNoneEvent "isNoneEvent()"
    let removed := { r.objects target with addedToLoop := false }
    let (poller, objects) ←
      r.poller.removeChannel (Function.update r.objects target removed) removed
    .ok { objects, poller }

/-- A call that fails no assertion. -/
def Step (before : PollReactor) (call : ReactorCall) (after : PollReactor) : Prop :=
  before.exec call = .ok after

/-- The channel is in `m_channels`. -/
def Registered (r : PollReactor) (a : ChannelId) : Prop :=
  r.poller.channels.lookup (r.objects a).fd = some a

/-- The position of the entry of a registered channel. -/
def place (r : PollReactor) (a : ChannelId) : Option Nat :=
  if r.poller.channels.lookup (r.objects a).fd = some a then some (r.objects a).index.toNat
  else none

/-- The entry of a channel has its descriptor, or the negated form of it, and its events. -/
def Holds (r : PollReactor) (a : ChannelId) (pfd : PollFd) : Prop :=
  (pfd.fd = (r.objects a).fd ∨ pfd.fd = -(r.objects a).fd - 1) ∧
    pfd.events.signExtend 32 = (r.objects a).events

/-- The channels of a set keep their identity, and ask for reading and writing only. -/
structure Named (channels : Set ChannelId) (fds : ChannelId → Int)
    (objects : ChannelId → Channel) : Prop where
  /-- Channels keep their addresses. -/
  address : ∀ a ∈ channels, (objects a).address = a
  /-- Channels keep their descriptors. -/
  fd : ∀ a ∈ channels, (objects a).fd = fds a
  /-- Masks have the bits of `kReadEvent` and `kWriteEvent` only. -/
  small : ∀ a ∈ channels, (objects a).events.toNat < 2 ^ 3

/-- The array and `m_channels` agree on the channels of a set, which have these descriptors. More
may be required of the entry of a channel. -/
structure Indexed (channels : Set ChannelId) (fds : ChannelId → Int)
    (more : ChannelId → PollFd → Prop) (r : PollReactor) : Prop where
  /-- The channels of the set. -/
  named : Named channels fds r.objects
  /-- The array and the map have the same size. -/
  size : r.poller.pollfds.length = r.poller.channels.keys.length
  /-- The map has channels of the set only, under their descriptors. -/
  known : ∀ fd a, r.poller.channels.lookup fd = some a → a ∈ channels ∧ fd = fds a
  /-- The index of a registered channel is not negative. -/
  nonneg : ∀ a, r.Registered a → 0 ≤ (r.objects a).index
  /-- Registered channels and entries belong together. -/
  dense : DenseArray r.poller.pollfds r.place fun a pfd => r.Holds a pfd ∧ more a pfd

variable {channels : Set ChannelId} {fds : ChannelId → Int} {r after : PollReactor}
  {more next : ChannelId → PollFd → Prop}

/-- The place of a channel is its index. -/
theorem place_eq_some {a : ChannelId} {i : Nat} :
    r.place a = some i ↔ r.Registered a ∧ (r.objects a).index.toNat = i := by
  rw [place, Registered]
  split <;> simp_all

/-- A channel without a place is not registered. -/
theorem place_eq_none {a : ChannelId} : r.place a = none ↔ ¬r.Registered a := by
  rw [place, Registered]
  split <;> simp_all

/-- A channel that is registered as before, with the same index, has the same place. -/
theorem place_congr {a : ChannelId} (listed : after.Registered a ↔ r.Registered a)
    (index : (after.objects a).index = (r.objects a).index) : after.place a = r.place a := by
  rw [Registered, Registered] at listed
  rw [place, place, index]
  simp only [listed]

/-- New channels and a new poller agree. -/
theorem new_indexed (channels : Set ChannelId) (fds : ChannelId → Int)
    (more : ChannelId → PollFd → Prop) : (new fds).Indexed channels fds more where
  named := ⟨fun _ _ => rfl, fun _ _ => rfl, fun _ _ => show (0 : Mask).toNat < 2 ^ 3 by decide⟩
  size := rfl
  known _ _ found := by cases found
  nonneg _ found := by cases found
  dense := .nil fun _ => rfl

/-- A mask of the bits that channels use survives the way through `short`. -/
theorem signExtend_setWidth {mask : Mask} (small : mask.toNat < 2 ^ 3) :
    (mask.setWidth 16).signExtend 32 = mask := by
  have positive : (mask.setWidth 16).msb = false := by
    rw [BitVec.msb_eq_false_iff_two_mul_lt, BitVec.toNat_setWidth]
    omega
  apply BitVec.eq_of_toNat_eq
  rw [BitVec.signExtend_eq_setWidth_of_msb_false positive, BitVec.toNat_setWidth,
    BitVec.toNat_setWidth]
  omega

/-- The calls on a channel keep its mask small. -/
theorem apply_small {events : Mask} (call : Interest) (small : events.toNat < 2 ^ 3) :
    (call.apply events).toNat < 2 ^ 3 := by
  cases call with
  | enableReading =>
    rw [Interest.apply, BitVec.toNat_or]
    exact Nat.or_lt_two_pow small (by decide)
  | disableReading =>
    rw [Interest.apply, BitVec.toNat_and]
    exact Nat.lt_of_le_of_lt Nat.and_le_left small
  | enableWriting =>
    rw [Interest.apply, BitVec.toNat_or]
    exact Nat.or_lt_two_pow small (by decide)
  | disableWriting =>
    rw [Interest.apply, BitVec.toNat_and]
    exact Nat.lt_of_le_of_lt Nat.and_le_left small
  | disableAll => exact show (0 : Mask).toNat < 2 ^ 3 by decide

/-- One channel is replaced by itself in another state. -/
theorem Named.update {objects : ChannelId → Channel} (named : Named channels fds objects)
    {target : ChannelId} {c : Channel} (address : c.address = (objects target).address)
    (fd : c.fd = (objects target).fd)
    (small : target ∈ channels → (objects target).events.toNat < 2 ^ 3 → c.events.toNat < 2 ^ 3) :
    Named channels fds (Function.update objects target c) where
  address a mine := by
    by_cases same : a = target
    · subst same
      rw [Function.update_self, address]
      exact named.address a mine
    · rw [Function.update_of_ne same]
      exact named.address a mine
  fd a mine := by
    by_cases same : a = target
    · subst same
      rw [Function.update_self, fd]
      exact named.fd a mine
    · rw [Function.update_of_ne same]
      exact named.fd a mine
  small a mine := by
    by_cases same : a = target
    · subst same
      rw [Function.update_self]
      exact small mine (named.small a mine)
    · rw [Function.update_of_ne same]
      exact named.small a mine

/-- A registered channel is one of the set, and found under its descriptor. -/
theorem Indexed.registered_iff (indexed : r.Indexed channels fds more) {a : ChannelId} :
    r.Registered a ↔ a ∈ channels ∧ r.poller.channels.lookup (fds a) = some a := by
  rw [Registered]
  constructor
  · intro found
    obtain ⟨mine, same⟩ := indexed.known _ a found
    exact ⟨mine, same ▸ found⟩
  · rintro ⟨mine, found⟩
    rw [indexed.named.fd a mine]
    exact found

/-- The descriptors in the map are those of channels of the set. -/
theorem Indexed.of_key (indexed : r.Indexed channels fds more) {fd : Int}
    (member : fd ∈ r.poller.channels.keys) :
    ∃ a ∈ channels, fd = fds a ∧ r.poller.channels.lookup fd = some a := by
  obtain ⟨a, found⟩ := Option.isSome_iff_exists.mp
    (AList.lookup_isSome.mpr (AList.mem_keys.mpr member))
  obtain ⟨mine, same⟩ := indexed.known fd a found
  exact ⟨a, mine, same, found⟩

/-- There are `2^31` descriptors. -/
theorem card_le_descriptors {numbers : Finset Int}
    (range : ∀ fd ∈ numbers, 0 ≤ fd ∧ fd < 2 ^ 31) : numbers.card ≤ 2 ^ 31 := by
  have inside : numbers ⊆ Finset.Ico (0 : Int) (2 ^ 31) := by
    intro fd member
    exact Finset.mem_Ico.mpr (range fd member)
  have count := Finset.card_le_card inside
  rw [Int.card_Ico] at count
  exact count

/-- There are no more entries than descriptors. -/
theorem Indexed.length_le (indexed : r.Indexed channels fds more)
    (range : ∀ a ∈ channels, 0 ≤ fds a ∧ fds a < 2 ^ 31) :
    r.poller.pollfds.length ≤ 2 ^ 31 := by
  rw [indexed.size, ← List.toFinset_card_of_nodup r.poller.channels.keys_nodup]
  apply card_le_descriptors
  intro fd member
  obtain ⟨a, mine, rfl, -⟩ := indexed.of_key (List.mem_toFinset.mp member)
  exact range a mine

/-- There are fewer than `2^31` entries when some channel is not registered. -/
theorem Indexed.length_lt (indexed : r.Indexed channels fds more)
    (range : ∀ a ∈ channels, 0 ≤ fds a ∧ fds a < 2 ^ 31) {a : ChannelId} (mine : a ∈ channels)
    (absent : r.poller.channels.lookup (fds a) = none) : r.poller.pollfds.length < 2 ^ 31 := by
  have free : fds a ∉ r.poller.channels.keys.toFinset := by
    intro member
    exact AList.lookup_eq_none.mp absent (AList.mem_keys.mpr (List.mem_toFinset.mp member))
  have count : (insert (fds a) r.poller.channels.keys.toFinset).card ≤ 2 ^ 31 := by
    apply card_le_descriptors
    intro fd member
    obtain rfl | key := Finset.mem_insert.mp member
    · exact range a mine
    · obtain ⟨b, other, rfl, -⟩ := indexed.of_key (List.mem_toFinset.mp key)
      exact range b other
  rw [Finset.card_insert_of_notMem free,
    List.toFinset_card_of_nodup r.poller.channels.keys_nodup, ← indexed.size] at count
  exact count

/-- After the first update of a channel: a new entry at the end of the array. -/
def enter (r : PollReactor) (target : ChannelId) (call : Interest) : PollReactor where
  objects := Function.update r.objects target { (r.objects target).set call with
    addedToLoop := true
    index := intOfSize (sizeSub (r.poller.pollfds.length + 1) 1) }
  poller := {
    pollfds := r.poller.pollfds ++ [{
      fd := (r.objects target).fd
      events := (call.apply (r.objects target).events).setWidth 16
      revents := 0 }]
    channels := r.poller.channels.insert (r.objects target).fd (r.objects target).address }

/-- After a later update of a channel: its entry is written anew. -/
def rewrite (r : PollReactor) (target : ChannelId) (call : Interest) : PollReactor where
  objects := Function.update r.objects target { (r.objects target).set call with
    addedToLoop := true }
  poller := { r.poller with
    pollfds := r.poller.pollfds.set (r.objects target).index.toNat {
      fd := if call.apply (r.objects target).events = 0 then -(r.objects target).fd - 1
        else (r.objects target).fd
      events := (call.apply (r.objects target).events).setWidth 16
      revents := 0 } }

/-- The channels with one of them removed. -/
def withdrawn (r : PollReactor) (target : ChannelId) : ChannelId → Channel :=
  Function.update r.objects target { r.objects target with addedToLoop := false }

/-- After the removal of the channel of the last entry. -/
def leaveLast (r : PollReactor) (target : ChannelId) : PollReactor where
  objects := r.withdrawn target
  poller := {
    pollfds := r.poller.pollfds.dropLast
    channels := r.poller.channels.erase (r.objects target).fd }

/-- After the removal of the channel of another entry, which the last entry, that of `owner`,
takes the place of. -/
def leave (r : PollReactor) (target : ChannelId) (pfd back : PollFd) (owner : ChannelId) :
    PollReactor where
  objects := Function.update (r.withdrawn target) owner
    { r.withdrawn target owner with index := (r.objects target).index }
  poller := {
    pollfds := ((r.poller.pollfds.set (r.objects target).index.toNat back).set
      (r.poller.pollfds.length - 1) pfd).dropLast
    channels := r.poller.channels.erase (r.objects target).fd }

/-- The channel of a first update. -/
theorem enter_self (target : ChannelId) (call : Interest) :
    (r.enter target call).objects target = { (r.objects target).set call with
      addedToLoop := true
      index := intOfSize (sizeSub (r.poller.pollfds.length + 1) 1) } := Function.update_self _ _ _

/-- The other channels at a first update. -/
theorem enter_of_ne {target a : ChannelId} (call : Interest) (other : a ≠ target) :
    (r.enter target call).objects a = r.objects a := Function.update_of_ne other _ _

/-- The channel of a later update. -/
theorem rewrite_self (target : ChannelId) (call : Interest) :
    (r.rewrite target call).objects target =
      { (r.objects target).set call with addedToLoop := true } := Function.update_self _ _ _

/-- The other channels at a later update. -/
theorem rewrite_of_ne {target a : ChannelId} (call : Interest) (other : a ≠ target) :
    (r.rewrite target call).objects a = r.objects a := Function.update_of_ne other _ _

/-- The channel that is removed with the last entry. -/
theorem leaveLast_self (target : ChannelId) :
    (r.leaveLast target).objects target = { r.objects target with addedToLoop := false } :=
  Function.update_self _ _ _

/-- The other channels when one is removed with the last entry. -/
theorem leaveLast_of_ne {target a : ChannelId} (other : a ≠ target) :
    (r.leaveLast target).objects a = r.objects a := Function.update_of_ne other _ _

section Leave

variable {target owner a : ChannelId} {pfd back : PollFd}

/-- The channel that is removed with another entry. -/
theorem leave_self (different : owner ≠ target) :
    (r.leave target pfd back owner).objects target =
      { r.objects target with addedToLoop := false } :=
  (Function.update_of_ne different.symm _ _).trans (Function.update_self _ _ _)

/-- The channel whose entry moves. -/
theorem leave_owner (different : owner ≠ target) :
    (r.leave target pfd back owner).objects owner =
      { r.objects owner with index := (r.objects target).index } := by
  have kept : r.withdrawn target owner = r.objects owner := Function.update_of_ne different _ _
  rw [← kept]
  exact Function.update_self _ _ _

/-- The other channels when the last entry moves. -/
theorem leave_of_ne (other : a ≠ target) (neither : a ≠ owner) :
    (r.leave target pfd back owner).objects a = r.objects a :=
  (Function.update_of_ne neither _ _).trans (Function.update_of_ne other _ _)

/-- Masks stay when the last entry moves. -/
theorem leave_events (different : owner ≠ target) (a : ChannelId) :
    ((r.leave target pfd back owner).objects a).events = (r.objects a).events := by
  by_cases isTarget : a = target
  · rw [isTarget, leave_self different]
  by_cases isOwner : a = owner
  · rw [isOwner, leave_owner different]
  · rw [leave_of_ne isTarget isOwner]

end Leave

/-- What a change of interest does, and when it fails no assertion. -/
theorem exec_change_iff {target : ChannelId} {call : Interest} :
    r.exec (.change target call) = .ok after ↔
    ((r.objects target).index < 0 ∧ r.poller.channels.lookup (r.objects target).fd = none ∧
      after = r.enter target call) ∨
    (0 ≤ (r.objects target).index ∧
      (r.objects target).index < intOfSize r.poller.pollfds.length ∧
      r.poller.channels.lookup (r.objects target).fd = some (r.objects target).address ∧
      (∃ pfd, r.poller.pollfds[(r.objects target).index.toNat]? = some pfd ∧
        (pfd.fd = (r.objects target).fd ∨ pfd.fd = -(r.objects target).fd - 1)) ∧
      after = r.rewrite target call) := by
  constructor
  · intro done
    obtain ⟨⟨poller, updated⟩, changed, rest⟩ := bind_eq_ok.mp done
    obtain rfl := Except.ok.inj rest
    rw [PollPoller.updateChannel] at changed
    split at changed
    next fresh =>
      left
      obtain ⟨_, absent, rest⟩ := bind_eq_ok.mp changed
      rw [ensure_eq_ok, Option.isNone_iff_eq_none] at absent
      obtain ⟨rfl, rfl⟩ := Prod.mk.inj (Except.ok.inj rest)
      refine ⟨fresh, absent, ?_⟩
      rw [enter, List.length_append]
      rfl
    next old =>
      right
      obtain ⟨_, _, rest⟩ := bind_eq_ok.mp changed
      obtain ⟨_, listed, rest⟩ := bind_eq_ok.mp rest
      obtain ⟨_, inside, rest⟩ := bind_eq_ok.mp rest
      rw [ensure_eq_ok, beq_iff_eq] at listed
      rw [ensure_eq_ok, Bool.and_eq_true, decide_eq_true_iff, decide_eq_true_iff] at inside
      split at rest
      · cases rest
      next pfd found =>
        obtain ⟨_, descriptor, rest⟩ := bind_eq_ok.mp rest
        rw [ensure_eq_ok, Bool.or_eq_true, beq_iff_eq, beq_iff_eq] at descriptor
        obtain ⟨rfl, rfl⟩ := Prod.mk.inj (Except.ok.inj rest)
        refine ⟨inside.1, inside.2, listed, ⟨pfd, found, descriptor⟩, ?_⟩
        simp only [rewrite, Channel.isNoneEvent, Channel.set, kNoneEvent, beq_iff_eq]
  · rintro (⟨fresh, absent, rfl⟩ | ⟨nonneg, inside, listed, ⟨pfd, found, descriptor⟩, rfl⟩)
    · simp only [exec, PollPoller.updateChannel, Channel.set, fresh, ↓reduceIte, absent,
        Option.isNone_none, ensure_true, ok_bind, enter, List.length_append,
        List.length_singleton]
    · have old : ¬(r.objects target).index < 0 := not_lt.mpr nonneg
      have form : (pfd.fd == (r.objects target).fd || pfd.fd == -(r.objects target).fd - 1) =
          true := by
        rw [Bool.or_eq_true, beq_iff_eq, beq_iff_eq]
        exact descriptor
      simp only [exec, PollPoller.updateChannel, Channel.set, old, ↓reduceIte, listed,
        Option.isSome_some, BEq.rfl, ensure_true, ok_bind, nonneg, inside, decide_true,
        Bool.and_self, found, form, rewrite, Channel.isNoneEvent, kNoneEvent, beq_iff_eq]

/-- What a removal does, and when it fails no assertion. -/
theorem exec_remove_iff {target : ChannelId} :
    r.exec (.remove target) = .ok after ↔
    (r.objects target).events = 0 ∧
    r.poller.channels.lookup (r.objects target).fd = some (r.objects target).address ∧
    0 ≤ (r.objects target).index ∧ (r.objects target).index < intOfSize r.poller.pollfds.length ∧
    ∃ pfd back, r.poller.pollfds[(r.objects target).index.toNat]? = some pfd ∧
      r.poller.pollfds.getLast? = some back ∧ pfd.fd = -(r.objects target).fd - 1 ∧
      pfd.events.signExtend 32 = 0 ∧
      (sizeOfInt (r.objects target).index = sizeSub r.poller.pollfds.length 1 ∧
          after = r.leaveLast target ∨
        sizeOfInt (r.objects target).index ≠ sizeSub r.poller.pollfds.length 1 ∧
          ∃ owner, (r.poller.channels.erase (r.objects target).fd).lookup
              (PollPoller.channelAtEnd back.fd) = some owner ∧
            after = r.leave target pfd back owner) := by
  constructor
  · intro done
    obtain ⟨_, quiet, rest⟩ := bind_eq_ok.mp done
    obtain ⟨⟨poller, objects⟩, removed, rest⟩ := bind_eq_ok.mp rest
    obtain rfl := Except.ok.inj rest
    rw [PollPoller.removeChannel] at removed
    obtain ⟨_, _, rest⟩ := bind_eq_ok.mp removed
    obtain ⟨_, listed, rest⟩ := bind_eq_ok.mp rest
    obtain ⟨_, _, rest⟩ := bind_eq_ok.mp rest
    obtain ⟨_, inside, rest⟩ := bind_eq_ok.mp rest
    rw [ensure_eq_ok, Channel.isNoneEvent, beq_iff_eq] at quiet
    rw [ensure_eq_ok, beq_iff_eq] at listed
    rw [ensure_eq_ok, Bool.and_eq_true, decide_eq_true_iff, decide_eq_true_iff] at inside
    refine ⟨quiet, listed, inside.1, inside.2, ?_⟩
    split at rest
    next pfd back found last =>
      obtain ⟨_, form, rest⟩ := bind_eq_ok.mp rest
      rw [ensure_eq_ok, Bool.and_eq_true, beq_iff_eq, beq_iff_eq] at form
      refine ⟨pfd, back, found, last, form.1, form.2.trans quiet, ?_⟩
      split at rest
      next same =>
        left
        obtain ⟨rfl, rfl⟩ := Prod.mk.inj (Except.ok.inj rest)
        exact ⟨beq_iff_eq.mp same, rfl⟩
      next apart =>
        right
        refine ⟨fun same => apart (beq_iff_eq.mpr same), ?_⟩
        dsimp only at rest
        split at rest
        · cases rest
        next owner known =>
          obtain ⟨rfl, rfl⟩ := Prod.mk.inj (Except.ok.inj rest)
          exact ⟨owner, known, rfl⟩
    · cases rest
  · rintro ⟨quiet, listed, nonneg, inside, pfd, back, found, last, form, events, rest⟩
    have empty : ((r.objects target).events == kNoneEvent) = true := by
      rw [quiet]
      rfl
    have blank : ((0 : Mask) == (r.objects target).events) = true := by
      rw [quiet]
      rfl
    obtain ⟨same, rfl⟩ | ⟨apart, owner, known, rfl⟩ := rest
    · simp only [exec, PollPoller.removeChannel, empty, listed, Option.isSome_some, BEq.rfl,
        ensure_true, ok_bind, Channel.isNoneEvent, nonneg, inside, decide_true, Bool.and_self,
        found, last, form, events, blank, same, ↓reduceIte, leaveLast, withdrawn]
    · have other : ¬(sizeOfInt (r.objects target).index == sizeSub r.poller.pollfds.length 1) =
          true := fun same => apart (beq_iff_eq.mp same)
      simp only [exec, PollPoller.removeChannel, empty, listed, Option.isSome_some, BEq.rfl,
        ensure_true, ok_bind, Channel.isNoneEvent, nonneg, inside, decide_true, Bool.and_self,
        found, last, form, events, blank, other, Bool.false_eq_true, ↓reduceIte, known, leave,
        withdrawn]

/-- After its first update a channel is registered. -/
theorem enter_registered {target : ChannelId} (call : Interest)
    (address : (r.objects target).address = target) :
    (r.enter target call).Registered target := by
  rw [Registered, enter_self]
  dsimp only [enter, Channel.set]
  rw [address]
  exact AList.lookup_insert _

/-- The first update of a channel keeps the array and the map in agreement. -/
theorem Indexed.enter (indexed : r.Indexed channels fds more)
    (range : ∀ a ∈ channels, 0 ≤ fds a ∧ fds a < 2 ^ 31) {target : ChannelId}
    (mine : target ∈ channels) (call : Interest)
    (absent : r.poller.channels.lookup (fds target) = none)
    (new : ∀ pfd, pfd.fd = fds target → next target pfd)
    (others : ∀ a pfd, a ≠ target → more a pfd → next a pfd) :
    (r.enter target call).Indexed channels fds next := by
  have few := indexed.length_lt range mine absent
  have address := indexed.named.address target mine
  have descriptor := indexed.named.fd target mine
  have small := apply_small call (indexed.named.small target mine)
  have position : intOfSize (sizeSub (r.poller.pollfds.length + 1) 1) =
      r.poller.pollfds.length := by
    rw [sizeSub_of_le (by omega) (by omega), Nat.add_sub_cancel, intOfSize, if_pos (by omega),
      Nat.mod_eq_of_lt (by omega)]
  have self := @enter_self r target call
  have apart {a : ChannelId} (other : a ≠ target) := @enter_of_ne r target a call other
  have map : (r.enter target call).poller.channels =
      r.poller.channels.insert (fds target) target := by
    rw [PollReactor.enter, descriptor, address]
  have lookup (fd : Int) (a : ChannelId) (different : a ≠ target) :
      (r.enter target call).poller.channels.lookup fd = some a ↔
        r.poller.channels.lookup fd = some a := by
    rw [map]
    by_cases same : fd = fds target
    · rw [same, AList.lookup_insert, absent]
      simp [Ne.symm different]
    · rw [AList.lookup_insert_ne same]
  have listed {a : ChannelId} (other : a ≠ target) :
      (r.enter target call).Registered a ↔ r.Registered a := by
    rw [Registered, Registered, apart other]
    exact lookup _ a other
  refine ⟨indexed.named.update rfl rfl fun _ _ => small, ?_, fun fd a found => ?_,
    fun a found => ?_, ?_⟩
  · have free : fds target ∉ r.poller.channels.keys := fun member =>
      AList.lookup_eq_none.mp absent (AList.mem_keys.mpr member)
    rw [map, AList.keys_insert, List.erase_of_not_mem free, List.length_cons, ← indexed.size]
    exact List.length_append
  · by_cases same : a = target
    · subst same
      refine ⟨mine, ?_⟩
      by_contra different
      rw [map, AList.lookup_insert_ne different] at found
      exact different (indexed.known fd a found).2
    · exact indexed.known fd a ((lookup fd a same).mp found)
  · by_cases same : a = target
    · rw [same, self]
      exact position ▸ Int.natCast_nonneg _
    · rw [apart same]
      exact indexed.nonneg a ((listed same).mp found)
  · have fresh : r.place target = none := by
      rw [place_eq_none, indexed.registered_iff, absent]
      intro found
      cases found.2
    refine indexed.dense.push fresh ?_ ⟨⟨.inl ?_, ?_⟩, new _ descriptor⟩ (fun a other => ?_)
      fun a pfd other held => ⟨?_, others a pfd other held.2⟩
    · rw [place_eq_some]
      refine ⟨enter_registered call address, ?_⟩
      rw [self]
      dsimp only
      rw [position, Int.toNat_natCast]
    · rw [self]
      rfl
    · rw [self]
      exact signExtend_setWidth small
    · exact place_congr (listed other) (by rw [apart other])
    · rw [Holds, apart other]
      exact held.1

/-- A later update of a channel keeps the array and the map in agreement. -/
theorem Indexed.rewrite (indexed : r.Indexed channels fds more) {target : ChannelId}
    (registered : r.Registered target) (call : Interest)
    (new : ∀ pfd, pfd.fd = (if call.apply (r.objects target).events = 0 then -fds target - 1
      else fds target) → next target pfd)
    (others : ∀ a pfd, a ≠ target → more a pfd → next a pfd) :
    (r.rewrite target call).Indexed channels fds next := by
  have mine : target ∈ channels := (indexed.registered_iff.mp registered).1
  have small := apply_small call (indexed.named.small target mine)
  have self := @rewrite_self r target call
  have apart {a : ChannelId} (other : a ≠ target) := @rewrite_of_ne r target a call other
  have fd (a : ChannelId) : ((r.rewrite target call).objects a).fd = (r.objects a).fd := by
    by_cases same : a = target
    · rw [same, self]
      rfl
    · rw [apart same]
  have index (a : ChannelId) :
      ((r.rewrite target call).objects a).index = (r.objects a).index := by
    by_cases same : a = target
    · rw [same, self]
      rfl
    · rw [apart same]
  have listed (a : ChannelId) : (r.rewrite target call).Registered a ↔ r.Registered a := by
    rw [Registered, Registered, fd]
    rfl
  refine ⟨indexed.named.update rfl rfl fun _ _ => small, ?_, indexed.known, fun a found => ?_, ?_⟩
  · exact List.length_set.trans indexed.size
  · rw [index]
    exact indexed.nonneg a ((listed a).mp found)
  · have placed : r.place target = some (r.objects target).index.toNat :=
      place_eq_some.mpr ⟨registered, rfl⟩
    refine indexed.dense.write placed ⟨⟨?_, ?_⟩, new _ ?_⟩
      (fun a => place_congr (listed a) (index a))
      fun a pfd other held => ⟨?_, others a pfd other held.2⟩
    · rw [fd]
      by_cases none : call.apply (r.objects target).events = 0
      · exact .inr (if_pos none)
      · exact .inl (if_neg none)
    · rw [self]
      exact signExtend_setWidth small
    · rw [indexed.named.fd target mine]
    · rw [Holds, apart other]
      exact held.1

/-- The map after a removal. -/
theorem lookup_erase_iff (indexed : r.Indexed channels fds more) {target : ChannelId}
    (mine : target ∈ channels) (distinct : Set.InjOn fds channels) (fd : Int) (a : ChannelId) :
    (r.poller.channels.erase (r.objects target).fd).lookup fd = some a ↔
      r.poller.channels.lookup fd = some a ∧ a ≠ target := by
  rw [indexed.named.fd target mine]
  by_cases same : fd = fds target
  · rw [same, AList.lookup_erase]
    refine ⟨nofun, fun ⟨found, different⟩ => ?_⟩
    obtain ⟨other, equal⟩ := indexed.known _ a found
    exact absurd (distinct mine other equal).symm different
  · rw [AList.lookup_erase_ne same]
    refine ⟨fun found => ⟨found, fun equal => ?_⟩, And.left⟩
    rw [equal] at found
    exact same (indexed.known fd target found).2

/-- The size of the map after a removal. -/
theorem Indexed.size_erase (indexed : r.Indexed channels fds more) {target : ChannelId}
    (registered : r.Registered target) :
    (r.poller.channels.erase (r.objects target).fd).keys.length =
      r.poller.pollfds.length - 1 := by
  have member : (r.objects target).fd ∈ r.poller.channels.keys := by
    rw [← AList.mem_keys, ← AList.lookup_isSome, show _ = _ from registered]
    rfl
  rw [AList.keys_erase, List.length_erase_of_mem member, indexed.size]

/-- The removal of the channel of the last entry keeps the array and the map in agreement. -/
theorem Indexed.leaveLast (indexed : r.Indexed channels fds more)
    (distinct : Set.InjOn fds channels) {target : ChannelId} (registered : r.Registered target)
    (last : (r.objects target).index.toNat = r.poller.pollfds.length - 1)
    (others : ∀ a pfd, a ≠ target → more a pfd → next a pfd) :
    (r.leaveLast target).Indexed channels fds next := by
  have mine : target ∈ channels := (indexed.registered_iff.mp registered).1
  have lookup := lookup_erase_iff indexed mine distinct
  have self := @leaveLast_self r target
  have apart {a : ChannelId} (other : a ≠ target) := @leaveLast_of_ne r target a other
  have listed (a : ChannelId) :
      (r.leaveLast target).Registered a ↔ r.Registered a ∧ a ≠ target := by
    by_cases same : a = target
    · rw [Registered, same, self]
      exact lookup _ target
    · rw [Registered, Registered, apart same]
      exact lookup _ a
  refine ⟨indexed.named.update rfl rfl fun _ small => small, ?_, fun fd a found => ?_,
    fun a found => ?_, ?_⟩
  · exact List.length_dropLast.trans (indexed.size_erase registered).symm
  · exact indexed.known fd a ((lookup fd a).mp found).1
  · obtain ⟨before, other⟩ := (listed a).mp found
    rw [apart other]
    exact indexed.nonneg a before
  · have placed : r.place target = some (r.poller.pollfds.length - 1) :=
      place_eq_some.mpr ⟨registered, last⟩
    refine indexed.dense.pop placed ?_ (fun a other => ?_)
      fun a pfd other held => ⟨?_, others a pfd other held.2⟩
    · rw [place_eq_none, listed]
      exact fun found => found.2 rfl
    · refine place_congr ?_ (by rw [apart other])
      rw [listed]
      exact and_iff_left other
    · rw [Holds, apart other]
      exact held.1

/-- The owner of the last entry, as `removeChannel` finds it. -/
theorem Indexed.owner_of_last (indexed : r.Indexed channels fds more)
    (range : ∀ a ∈ channels, 0 ≤ fds a ∧ fds a < 2 ^ 31)
    {back : PollFd} (last : r.poller.pollfds.getLast? = some back) :
    ∃ owner, r.Registered owner ∧
      (r.objects owner).index.toNat = r.poller.pollfds.length - 1 ∧
      PollPoller.channelAtEnd back.fd = fds owner := by
  rw [List.getLast?_eq_getElem?] at last
  have inside := (List.getElem?_eq_some_iff.mp last).1
  obtain ⟨owner, placed⟩ := indexed.dense.owner inside
  obtain ⟨registered, index⟩ := place_eq_some.mp placed
  obtain ⟨pfd, found, ⟨held, -⟩, -⟩ := indexed.dense.entry placed
  obtain rfl := Option.some.inj (last.symm.trans found)
  have mine := (indexed.registered_iff.mp registered).1
  have lower := (range owner mine).1
  rw [indexed.named.fd owner mine] at held
  refine ⟨owner, registered, index, ?_⟩
  rw [PollPoller.channelAtEnd]
  split <;> omega

/-- The places after the last entry and that of a channel are exchanged. -/
def exchanged (r : PollReactor) (target owner : ChannelId) : ChannelId → Option Nat :=
  Function.update (Function.update r.place target (some (r.poller.pollfds.length - 1)))
    owner (some (r.objects target).index.toNat)

/-- The removal of the channel of another entry keeps the array and the map in agreement. -/
theorem Indexed.leave (indexed : r.Indexed channels fds more) (distinct : Set.InjOn fds channels)
    {target owner : ChannelId} {pfd back : PollFd} (registered : r.Registered target)
    (found : r.poller.pollfds[(r.objects target).index.toNat]? = some pfd)
    (last : r.poller.pollfds.getLast? = some back) (owned : r.Registered owner)
    (position : (r.objects owner).index.toNat = r.poller.pollfds.length - 1)
    (apart : (r.objects target).index.toNat ≠ r.poller.pollfds.length - 1)
    (others : ∀ a pfd, a ≠ target → more a pfd → next a pfd) :
    (r.leave target pfd back owner).Indexed channels fds next := by
  have mine : target ∈ channels := (indexed.registered_iff.mp registered).1
  have lookup := lookup_erase_iff indexed mine distinct
  have different : owner ≠ target := by
    intro same
    rw [same] at position
    exact apart position
  have gone := @leave_self r target owner pfd back different
  have moved := @leave_owner r target owner pfd back different
  have same {a : ChannelId} (other : a ≠ target) (neither : a ≠ owner) :=
    @leave_of_ne r target owner a pfd back other neither
  have fd (a : ChannelId) :
      ((r.leave target pfd back owner).objects a).fd = (r.objects a).fd := by
    by_cases isTarget : a = target
    · rw [isTarget, gone]
    by_cases isOwner : a = owner
    · rw [isOwner, moved]
    · rw [same isTarget isOwner]
  have listed (a : ChannelId) :
      (r.leave target pfd back owner).Registered a ↔ r.Registered a ∧ a ≠ target := by
    rw [Registered, Registered, fd]
    exact lookup _ a
  have named : Named channels fds (r.withdrawn target) :=
    indexed.named.update rfl rfl fun _ small => small
  refine ⟨named.update rfl rfl fun _ small => small, ?_, fun fd a found => ?_,
    fun a found => ?_, ?_⟩
  · rw [PollReactor.leave, List.length_dropLast, List.length_set, List.length_set,
      indexed.size_erase registered]
  · exact indexed.known fd a ((lookup fd a).mp found).1
  · obtain ⟨before, other⟩ := (listed a).mp found
    by_cases isOwner : a = owner
    · rw [isOwner, moved]
      exact indexed.nonneg target registered
    · rw [same other isOwner]
      exact indexed.nonneg a before
  · rw [List.getLast?_eq_getElem?] at last
    have there : r.exchanged target owner target = some (r.poller.pollfds.length - 1) := by
      rw [exchanged, Function.update_of_ne different.symm, Function.update_self]
    have swapped : DenseArray _ (r.exchanged target owner) _ := indexed.dense.swap
      (place_eq_some.mpr ⟨registered, rfl⟩) (place_eq_some.mpr ⟨owned, position⟩) found last apart
      there (Function.update_self _ _ _) fun a isTarget isOwner => by
        rw [exchanged, Function.update_of_ne isOwner, Function.update_of_ne isTarget]
    refine swapped.pop (there.trans ?_) ?_ (fun a other => ?_)
      fun a entry other held => ⟨?_, others a entry other held.2⟩
    · rw [List.length_set, List.length_set]
    · rw [place_eq_none, listed]
      exact fun found => found.2 rfl
    · by_cases isOwner : a = owner
      · rw [isOwner, exchanged, Function.update_self, place_eq_some, listed, moved]
        exact ⟨⟨owned, different⟩, rfl⟩
      · rw [exchanged, Function.update_of_ne isOwner, Function.update_of_ne other]
        refine place_congr ?_ (by rw [same other isOwner])
        rw [listed]
        exact and_iff_left other
    · rw [Holds, fd, leave_events different]
      exact held.1

/-- A converted `size_t` is less than `2^31`. -/
theorem intOfSize_lt (size : Nat) : intOfSize size < 2 ^ 31 := by
  rw [intOfSize]
  split <;> omega

/-- Every call on channels of the set keeps the array and the map in agreement. The entry of a
channel has the negated descriptor after a later update that leaves the channel without interest. -/
theorem Step.indexed {call : ReactorCall} (stepped : r.Step call after)
    (range : ∀ a ∈ channels, 0 ≤ fds a ∧ fds a < 2 ^ 31) (distinct : Set.InjOn fds channels)
    (mine : call.target ∈ channels) (indexed : r.Indexed channels fds more)
    (new : ∀ target interest pfd, call = .change target interest →
      pfd.fd = (if 0 ≤ (r.objects target).index ∧ interest.apply (r.objects target).events = 0
        then -fds target - 1 else fds target) → next target pfd)
    (others : ∀ a pfd, a ≠ call.target → more a pfd → next a pfd) :
    after.Indexed channels fds next := by
  cases call with
  | change target call =>
    change target ∈ channels at mine
    have descriptor := indexed.named.fd target mine
    obtain ⟨fresh, absent, rfl⟩ | ⟨nonneg, -, listed, -, rfl⟩ := exec_change_iff.mp stepped
    · rw [descriptor] at absent
      refine indexed.enter range mine call absent (fun pfd fd => ?_) others
      refine new target call pfd rfl ?_
      rw [fd, if_neg fun both => absurd both.1 (not_le.mpr fresh)]
    · rw [indexed.named.address target mine] at listed
      refine indexed.rewrite listed call (fun pfd fd => ?_) others
      refine new target call pfd rfl ?_
      rw [fd]
      simp only [nonneg, true_and]
  | remove target =>
    change target ∈ channels at mine
    obtain ⟨-, listed, nonneg, inside, pfd, back, found, last, -, -, rest⟩ :=
      exec_remove_iff.mp stepped
    rw [indexed.named.address target mine] at listed
    have bound := intOfSize_lt r.poller.pollfds.length
    have few := indexed.length_le range
    have within := (List.getElem?_eq_some_iff.mp found).1
    have position : sizeOfInt (r.objects target).index = (r.objects target).index.toNat := by
      rw [sizeOfInt, Int.emod_eq_of_lt nonneg (by omega)]
    rw [position, sizeSub_of_le (by omega) (by omega)] at rest
    obtain ⟨same, rfl⟩ | ⟨apart, owner, known, rfl⟩ := rest
    · exact indexed.leaveLast distinct listed same others
    · obtain ⟨holder, registered, atEnd, descriptor⟩ := indexed.owner_of_last range last
      rw [lookup_erase_iff indexed mine distinct, descriptor,
        (indexed.registered_iff.mp registered).2] at known
      obtain rfl := Option.some.inj known.1
      exact indexed.leave distinct listed found last registered atEnd apart others

end PollReactor

end Muduo
