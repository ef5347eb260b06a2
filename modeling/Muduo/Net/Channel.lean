import Muduo.Base.Fault

/-!
# `dc::net::Channel`

A channel is a file descriptor with the events its owner asks for (`events`) and those the poller
reported (`revents`). Masks are the bits of `poll(2)` in an `int`. The position of the channel in
its poller is `index`, whose meaning belongs to the poller.
-/

namespace Muduo

/-- A set of event bits. -/
abbrev Mask := BitVec 32

/-- `POLLIN`. -/
def pollIn : Mask := 0x001
/-- `POLLPRI`. -/
def pollPri : Mask := 0x002
/-- `POLLOUT`. -/
def pollOut : Mask := 0x004
/-- `POLLERR`. -/
def pollErr : Mask := 0x008
/-- `POLLHUP`. -/
def pollHup : Mask := 0x010
/-- `POLLNVAL`. -/
def pollNval : Mask := 0x020
/-- `POLLRDHUP`. -/
def pollRdHup : Mask := 0x2000

/-- `Channel::kNoneEvent`. -/
def kNoneEvent : Mask := 0
/-- `Channel::kReadEvent`. -/
def kReadEvent : Mask := pollIn ||| pollPri
/-- `Channel::kWriteEvent`. -/
def kWriteEvent : Mask := pollOut

/-- The address of a channel. -/
abbrev ChannelId := Nat

/-- `class Channel`. -/
structure Channel where
  /-- `this`. -/
  address : ChannelId
  /-- `m_fd`. -/
  fd : Int
  /-- `m_events`. -/
  events : Mask
  /-- `m_revents`. -/
  revents : Mask
  /-- `m_index`. -/
  index : Int
  /-- `is_addedToLoop`. -/
  addedToLoop : Bool
  deriving DecidableEq, Repr

namespace Channel

/-- `Channel(EventLoop* loop, int fd)`. -/
def new (address : ChannelId) (fd : Int) : Channel :=
  { address, fd, events := 0, revents := 0, index := -1, addedToLoop := false }

/-- `isNoneEvent()`. -/
def isNoneEvent (c : Channel) : Bool := c.events == kNoneEvent

/-- `isWriting()`. -/
def isWriting (c : Channel) : Bool := c.events &&& kWriteEvent != 0

/-- `isReading()`. -/
def isReading (c : Channel) : Bool := c.events &&& kReadEvent != 0

end Channel

/-- The calls that change the interest of a channel, each followed by `update()`. -/
inductive Interest
  | enableReading
  | disableReading
  | enableWriting
  | disableWriting
  | disableAll
  deriving DecidableEq, Repr

namespace Interest

/-- The mask a call leaves in `m_events`. -/
def apply (events : Mask) : Interest → Mask
  | enableReading => events ||| kReadEvent
  | disableReading => events &&& ~~~kReadEvent
  | enableWriting => events ||| kWriteEvent
  | disableWriting => events &&& ~~~kWriteEvent
  | disableAll => kNoneEvent

/-- The three calls that withdraw interest. -/
def withdraws : Interest → Bool
  | disableReading | disableWriting | disableAll => true
  | enableReading | enableWriting => false

/-- Whether writing is asked for after a call, from whether it was before. -/
def writing (before : Bool) : Interest → Bool
  | enableReading | disableReading => before
  | enableWriting => true
  | disableWriting | disableAll => false

/-- Added bits are there. -/
theorem or_and_self (events mask : Mask) : (events ||| mask) &&& mask = mask := by
  rw [BitVec.and_or_distrib_right]
  ext i hi
  simp only [BitVec.getElem_or, BitVec.getElem_and]
  cases events[i] <;> cases mask[i] <;> rfl

/-- Added bits leave disjoint bits alone. -/
theorem or_and_disjoint (events : Mask) {mask other : Mask} (disjoint : mask &&& other = 0) :
    (events ||| mask) &&& other = events &&& other := by
  rw [BitVec.and_or_distrib_right, disjoint]
  exact BitVec.or_zero

/-- Removed bits are gone. -/
theorem and_not_and_self (events mask : Mask) : events &&& ~~~mask &&& mask = 0 := by
  rw [BitVec.and_assoc, BitVec.and_comm _ mask, BitVec.and_not_self]
  exact BitVec.and_zero

/-- Removed bits leave the others alone. -/
theorem and_not_and_other (events : Mask) {mask other : Mask} (kept : ~~~mask &&& other = other) :
    events &&& ~~~mask &&& other = events &&& other := by
  rw [BitVec.and_assoc, kept]

/-- A call that asks for events leaves a mask that is not empty. -/
theorem apply_ne_zero (events : Mask) {call : Interest} (asks : call.withdraws = false) :
    call.apply events ≠ 0 := by
  intro empty
  cases call with
  | enableReading =>
    have bits := or_and_self events kReadEvent
    rw [show events ||| kReadEvent = 0 from empty] at bits
    exact absurd bits (by decide)
  | enableWriting =>
    have bits := or_and_self events kWriteEvent
    rw [show events ||| kWriteEvent = 0 from empty] at bits
    exact absurd bits (by decide)
  | disableReading => contradiction
  | disableWriting => contradiction
  | disableAll => contradiction

/-- A call that withdraws interest keeps an empty mask empty. -/
theorem apply_zero {call : Interest} (withdraws : call.withdraws = true) : call.apply 0 = 0 := by
  cases call with
  | enableReading => contradiction
  | enableWriting => contradiction
  | disableReading => rfl
  | disableWriting => rfl
  | disableAll => rfl

end Interest

namespace Channel

/-- A channel after one of these calls. -/
def set (c : Channel) (call : Interest) : Channel := { c with events := call.apply c.events }

/-- Whether writing is asked for after a call. -/
theorem isWriting_set (c : Channel) (call : Interest) :
    (c.set call).isWriting = call.writing c.isWriting := by
  simp only [isWriting, set, Interest.apply, Interest.writing]
  cases call with
  | enableReading =>
    dsimp only
    rw [Interest.or_and_disjoint _ (by decide)]
  | disableReading =>
    dsimp only
    rw [Interest.and_not_and_other _ (by decide)]
  | enableWriting =>
    dsimp only
    rw [Interest.or_and_self]
    decide
  | disableWriting =>
    dsimp only
    rw [Interest.and_not_and_self]
    decide
  | disableAll =>
    dsimp only
    decide

/-- A channel that asks for nothing does not ask for writing. -/
theorem isWriting_of_none {c : Channel} (none : c.events = 0) : c.isWriting = false := by
  rw [isWriting, none]
  decide

end Channel

end Muduo
