import Muduo.Lib.Run
import Muduo.Net.Channel

/-!
# `dc::net::EpollPoller`

The poller keeps the channels it knows by descriptor, and the kernel keeps the descriptors it
watches with a mask and the channel to report. The index of a channel says which of `EPOLL_CTL_ADD`,
`EPOLL_CTL_MOD` and `EPOLL_CTL_DEL` its next update needs. The three operations are taken to
succeed on the kernel's map, and all calls are made in the thread of the loop.

The indexes always tell what the kernel watches, so the kernel watches exactly the interest of the
channels as long as no channel without interest is updated once more without asking for any.
-/

open Outcome Transition

namespace Muduo

/-- `kNew`. -/
def kNew : Int := -1
/-- `kAdded`. -/
def kAdded : Int := 1
/-- `kDeleted`. -/
def kDeleted : Int := 2

/-- The operations of `epoll_ctl`. -/
inductive EpollCtl
  | add
  | modify
  | delete
  deriving DecidableEq, Repr

/-- `struct epoll_event`. -/
structure EpollEvent where
  /-- `events`. -/
  events : Mask
  /-- `data.ptr`. -/
  ptr : ChannelId
  deriving DecidableEq, Repr

/-- `class EpollPoller` with the kernel's side of it. -/
structure EpollPoller where
  /-- `m_channels`. -/
  channels : Int → Option ChannelId
  /-- The descriptors registered with the kernel. -/
  interest : Int → Option EpollEvent

namespace EpollPoller

/-- `EpollPoller(EventLoop* loop)`. -/
def new : EpollPoller := { channels := fun _ => none, interest := fun _ => none }

/-- `hasChannel(channel)`. -/
def hasChannel (p : EpollPoller) (c : Channel) : Bool := p.channels c.fd == some c.address

/-- `update(operation, channel)`. -/
def update (p : EpollPoller) (operation : EpollCtl) (c : Channel) : EpollPoller :=
  let event : EpollEvent := { events := c.events, ptr := c.address }
  match operation with
  | .add => { p with interest := Function.update p.interest c.fd (some event) }
  | .modify => { p with interest := Function.update p.interest c.fd (some event) }
  | .delete => { p with interest := Function.update p.interest c.fd none }

/-- `updateChannel(channel)`. -/
def updateChannel (p : EpollPoller) (c : Channel) : Except Fault (EpollPoller × Channel) :=
  if c.index = kNew ∨ c.index = kDeleted then do
    let listed ← (if c.index = kNew then do
        ensure (p.channels c.fd).isNone "m_channels.find(fd) == m_channels.end()"
        .ok { p with channels := Function.update p.channels c.fd (some c.address) }
      else do
        ensure (p.channels c.fd).isSome "m_channels.find(fd) != m_channels.end()"
        ensure (p.channels c.fd == some c.address) "m_channels[fd] == channel"
        .ok p)
    let added := { c with index := kAdded }
    .ok (listed.update .add added, added)
  else do
    ensure (p.channels c.fd).isSome "m_channels.find(fd) != m_channels.end()"
    ensure (p.channels c.fd == some c.address) "m_channels[fd] == channel"
    ensure (c.index == kAdded) "index == kAdded"
    if c.isNoneEvent then
      .ok (p.update .delete c, { c with index := kDeleted })
    else
      .ok (p.update .modify c, c)

/-- `removeChannel(channel)`. -/
def removeChannel (p : EpollPoller) (c : Channel) : Except Fault (EpollPoller × Channel) := do
  ensure (p.channels c.fd).isSome "m_channels.find(fd) != m_channels.end()"
  ensure (p.channels c.fd == some c.address) "m_channels[fd] == channel"
  ensure c.isNoneEvent "channel->isNoneEvent()"
  ensure (c.index == kAdded || c.index == kDeleted) "index == kAdded || index == kDeleted"
  let erased := { p with channels := Function.update p.channels c.fd none }
  let left := if c.index = kAdded then erased.update .delete c else erased
  .ok (left, { c with index := kNew })

/-- The index of a channel tells what the poller and the kernel have of it. -/
structure Tracks (p : EpollPoller) (c : Channel) : Prop where
  /-- The index has one of its three values. -/
  index : c.index = kNew ∨ c.index = kAdded ∨ c.index = kDeleted
  /-- The poller knows the channel unless it is new. -/
  listed : p.channels c.fd = if c.index = kNew then none else some c.address
  /-- The kernel watches the channel, with its present mask, when it is added. -/
  watched : p.interest c.fd =
    if c.index = kAdded then some { events := c.events, ptr := c.address } else none
  /-- A channel that is not added asks for nothing. -/
  asleep : c.index ≠ kAdded → c.events = 0

/-- The poller and the kernel have of other descriptors what they had. -/
def Elsewhere (p q : EpollPoller) (fd : Int) : Prop :=
  ∀ other, other ≠ fd → q.channels other = p.channels other ∧ q.interest other = p.interest other

/-- A kernel operation concerns one descriptor only. -/
theorem update_elsewhere (p : EpollPoller) (operation : EpollCtl) (c : Channel) :
    p.Elsewhere (p.update operation c) c.fd := by
  intro other apart
  cases operation with
  | add => exact ⟨rfl, Function.update_of_ne apart _ _⟩
  | modify => exact ⟨rfl, Function.update_of_ne apart _ _⟩
  | delete => exact ⟨rfl, Function.update_of_ne apart _ _⟩

/-- An entry of `m_channels` concerns one descriptor only. -/
theorem channels_elsewhere (p : EpollPoller) (fd : Int) (entry : Option ChannelId) :
    p.Elsewhere { p with channels := Function.update p.channels fd entry } fd :=
  fun _ apart => ⟨Function.update_of_ne apart _ _, rfl⟩

/-- Changes of one descriptor one after the other. -/
theorem Elsewhere.trans {p q r : EpollPoller} {fd : Int} (first : p.Elsewhere q fd)
    (second : q.Elsewhere r fd) : p.Elsewhere r fd := fun other apart =>
  ⟨(second other apart).1.trans (first other apart).1,
    (second other apart).2.trans (first other apart).2⟩

/-- A channel of another descriptor stays as it is tracked. -/
theorem Tracks.elsewhere {p q : EpollPoller} {fd : Int} {c : Channel} (tracks : p.Tracks c)
    (elsewhere : p.Elsewhere q fd) (apart : c.fd ≠ fd) : q.Tracks c where
  index := tracks.index
  listed := (elsewhere c.fd apart).1.trans tracks.listed
  watched := (elsewhere c.fd apart).2.trans tracks.watched
  asleep := tracks.asleep

/-- The index an update leaves: an added channel without interest is deleted from the kernel, and
every other channel is added, whatever it asks for. -/
def nextIndex (index : Int) (mask : Mask) : Int :=
  if index = kAdded ∧ mask = 0 then kDeleted else kAdded

/-- A tracked channel with a new mask is updated without failing an assertion, stays tracked, and
nothing else changes. -/
theorem updateChannel_tracked {p : EpollPoller} {c : Channel} (tracks : p.Tracks c) (mask : Mask) :
    ∃ q, p.updateChannel { c with events := mask, addedToLoop := true } =
        .ok (q, { c with events := mask, addedToLoop := true, index := nextIndex c.index mask }) ∧
      q.Tracks { c with events := mask, addedToLoop := true, index := nextIndex c.index mask } ∧
      p.Elsewhere q c.fd := by
  have listed := tracks.listed
  have addedKnown : kAdded ≠ kNew := by decide
  have deletedKnown : kDeleted ≠ kNew := by decide
  have deletedAsleep : kDeleted ≠ kAdded := by decide
  obtain fresh | added | deleted := tracks.index
  · rw [if_pos fresh] at listed
    have next : nextIndex c.index mask = kAdded := if_neg fun both => by
      rw [fresh] at both
      exact absurd both.1 (by decide)
    simp only [updateChannel, fresh, listed, true_or, ↓reduceIte, Option.isNone_none, ensure_true,
      ok_bind]
    rw [← fresh, next]
    refine ⟨_, rfl, ⟨.inr (.inl rfl), ?_, ?_, fun other => absurd rfl other⟩,
      (p.channels_elsewhere c.fd _).trans (update_elsewhere _ _ _)⟩
    · exact (Function.update_self _ _ _).trans (if_neg addedKnown).symm
    · exact (Function.update_self _ _ _).trans (if_pos rfl).symm
  · have known : ¬(kAdded = kNew ∨ kAdded = kDeleted) := by decide
    rw [if_neg (by rw [added]; decide)] at listed
    simp only [updateChannel, added, listed, known, ↓reduceIte, Option.isSome_some, BEq.rfl,
      ensure_true, ok_bind, Channel.isNoneEvent, kNoneEvent]
    by_cases none : mask = 0
    · have next : nextIndex kAdded mask = kDeleted := if_pos ⟨rfl, none⟩
      rw [if_pos (by rw [none]; rfl), next]
      refine ⟨_, rfl, ⟨.inr (.inr rfl), ?_, ?_, fun _ => none⟩, update_elsewhere _ _ _⟩
      · exact listed.trans (if_neg deletedKnown).symm
      · exact (Function.update_self _ _ _).trans (if_neg deletedAsleep).symm
    · have next : nextIndex kAdded mask = kAdded := if_neg fun both => none both.2
      rw [if_neg (by rwa [beq_iff_eq]), next]
      refine ⟨_, rfl, ⟨.inr (.inl rfl), ?_, ?_, fun other => absurd rfl other⟩,
        update_elsewhere _ _ _⟩
      · exact listed.trans (if_neg addedKnown).symm
      · exact (Function.update_self _ _ _).trans (if_pos rfl).symm
  · rw [if_neg (by rw [deleted]; decide)] at listed
    have next : nextIndex kDeleted mask = kAdded := if_neg fun both => absurd both.1 (by decide)
    simp only [updateChannel, deleted, listed, or_true, deletedKnown, ↓reduceIte,
      Option.isSome_some, BEq.rfl, ensure_true, ok_bind]
    rw [next]
    refine ⟨_, rfl, ⟨.inr (.inl rfl), ?_, ?_, fun other => absurd rfl other⟩,
      update_elsewhere _ _ _⟩
    · exact listed.trans (if_neg addedKnown).symm
    · exact (Function.update_self _ _ _).trans (if_pos rfl).symm

/-- An update changes nothing of a channel but its index. -/
theorem updateChannel_same {p q : EpollPoller} {c d : Channel}
    (done : p.updateChannel c = .ok (q, d)) : ∃ index, d = { c with index } := by
  rw [updateChannel] at done
  split at done
  · obtain ⟨listed, _, rest⟩ := bind_eq_ok.mp done
    cases rest
    exact ⟨kAdded, rfl⟩
  · obtain ⟨_, _, rest⟩ := bind_eq_ok.mp done
    obtain ⟨_, _, rest⟩ := bind_eq_ok.mp rest
    obtain ⟨_, _, rest⟩ := bind_eq_ok.mp rest
    split at rest
    · cases rest
      exact ⟨kDeleted, rfl⟩
    · cases rest
      exact ⟨c.index, rfl⟩

/-- A tracked channel that is known and asks for nothing is removed without failing an assertion;
it is new again, and nothing else changes. -/
theorem removeChannel_tracked {p : EpollPoller} {c : Channel} (tracks : p.Tracks c)
    (known : c.index ≠ kNew) (none : c.events = 0) :
    ∃ q, p.removeChannel { c with addedToLoop := false } =
        .ok (q, { c with addedToLoop := false, index := kNew }) ∧
      q.Tracks { c with addedToLoop := false, index := kNew } ∧ p.Elsewhere q c.fd := by
  have listed := tracks.listed
  have watched := tracks.watched
  rw [if_neg known] at listed
  have quiet : (c.events == kNoneEvent) = true := by
    rw [none]
    rfl
  have valid : (c.index == kAdded || c.index == kDeleted) = true := by
    obtain fresh | added | deleted := tracks.index
    · exact absurd fresh known
    · rw [added]
      rfl
    · rw [deleted]
      rfl
  simp only [removeChannel, listed, Option.isSome_some, BEq.rfl, ensure_true, ok_bind,
    Channel.isNoneEvent, quiet, valid]
  refine ⟨_, rfl, ⟨.inl rfl, ?_, ?_, fun _ => none⟩, ?_⟩
  · dsimp only
    rw [if_pos rfl]
    split <;> exact Function.update_self _ _ _
  · dsimp only
    rw [if_neg (show kNew ≠ kAdded by decide)]
    by_cases added : c.index = kAdded
    · rw [if_pos added]
      exact Function.update_self _ _ _
    · rw [if_neg added] at watched ⊢
      exact watched
  · by_cases added : c.index = kAdded
    · rw [if_pos added]
      exact (p.channels_elsewhere c.fd _).trans (update_elsewhere _ _ _)
    · rw [if_neg added]
      exact p.channels_elsewhere c.fd _

end EpollPoller

namespace Channel

/-- `update()`. -/
def update (c : Channel) (p : EpollPoller) : Except Fault (EpollPoller × Channel) :=
  p.updateChannel { c with addedToLoop := true }

/-- `enableReading()`, `disableReading()`, `enableWriting()`, `disableWriting()` and
`disableAll()`. -/
def change (c : Channel) (call : Interest) (p : EpollPoller) :
    Except Fault (EpollPoller × Channel) :=
  (c.set call).update p

/-- What a change of interest leaves of the channel. -/
theorem change_same {c d : Channel} {call : Interest} {p q : EpollPoller}
    (done : c.change call p = .ok (q, d)) :
    ∃ index, d = { c.set call with addedToLoop := true, index } :=
  EpollPoller.updateChannel_same done

/-- Whether writing is asked for after a change of interest. -/
theorem change_isWriting {c d : Channel} {call : Interest} {p q : EpollPoller}
    (done : c.change call p = .ok (q, d)) : d.isWriting = call.writing c.isWriting := by
  obtain ⟨index, rfl⟩ := change_same done
  exact isWriting_set c call

/-- A change of interest of a tracked channel leaves it tracked. -/
theorem change_tracks {c d : Channel} {call : Interest} {p q : EpollPoller} (tracks : p.Tracks c)
    (done : c.change call p = .ok (q, d)) :
    q.Tracks d ∧ d.index = EpollPoller.nextIndex c.index d.events := by
  obtain ⟨poller, updated, kept, -⟩ :=
    EpollPoller.updateChannel_tracked tracks (call.apply c.events)
  obtain ⟨rfl, rfl⟩ := Prod.mk.inj (Except.ok.inj (done.symm.trans updated))
  exact ⟨kept, rfl⟩

/-- `remove()`. -/
def remove (c : Channel) (p : EpollPoller) : Except Fault (EpollPoller × Channel) := do
  ensure c.isNoneEvent "isNoneEvent()"
  p.removeChannel { c with addedToLoop := false }

end Channel

end Muduo
