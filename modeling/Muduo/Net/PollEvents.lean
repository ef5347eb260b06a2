import Muduo.Net.PollPoller

/-!
# The events that `dc::net::PollPoller` reports

`::poll` writes the answers into the array, and `fillActiveChannels` finds the channel of each
answered entry under the descriptor of the entry. As the array and `m_channels` agree, these are the
registered channels whose own entries are answered.
-/

open Outcome Transition

namespace Muduo

namespace PollPoller

variable {p : PollPoller}

/-- Entries that can be reported: an answer is a positive `short`, and an answered entry has the
descriptor of a known channel, which no other answered entry has. -/
structure Reportable (p : PollPoller) (objects : ChannelId → Channel) (entries : List PollFd) :
    Prop where
  /-- Answers are positive. -/
  positive : ∀ pfd ∈ entries, pfd.revents ≠ 0 → 0 < pfd.revents.toInt
  /-- The channels of answered entries are known. -/
  known : ∀ pfd ∈ entries, pfd.revents ≠ 0 →
    ∃ a, p.channels.lookup pfd.fd = some a ∧ (objects a).fd = pfd.fd
  /-- Answered entries have distinct descriptors. -/
  distinct : entries.Pairwise fun one two => one.revents ≠ 0 → two.revents ≠ 0 → one.fd ≠ two.fd

/-- The loop ends when all events are reported. -/
theorem fillActiveChannels_stop (entries : List PollFd) {numEvents : Int}
    (done : ¬0 < numEvents) (objects : ChannelId → Channel) :
    p.fillActiveChannels entries numEvents objects = .ok (objects, []) := by
  cases entries with
  | nil => rfl
  | cons pfd rest => rw [fillActiveChannels, if_neg done]

/-- The loop passes over an entry without an answer. -/
theorem fillActiveChannels_skip {pfd : PollFd} (rest : List PollFd) (numEvents : Int)
    (silent : pfd.revents = 0) (objects : ChannelId → Channel) :
    p.fillActiveChannels (pfd :: rest) numEvents objects =
      p.fillActiveChannels rest numEvents objects := by
  by_cases more : 0 < numEvents
  · have zero : ¬0 < pfd.revents.toInt := by
      rw [silent]
      decide
    rw [fillActiveChannels, if_pos more, if_neg zero]
  · rw [fillActiveChannels_stop _ more, fillActiveChannels_stop _ more]

/-- The loop reports the channel of an answered entry. -/
theorem fillActiveChannels_report {pfd : PollFd} (rest : List PollFd) {numEvents : Int}
    (more : 0 < numEvents) (positive : 0 < pfd.revents.toInt) {objects filled : ChannelId → Channel}
    {a : ChannelId} {active : List ChannelId} (known : p.channels.lookup pfd.fd = some a)
    (fd : (objects a).fd = pfd.fd)
    (tail : p.fillActiveChannels rest (numEvents - 1)
      (Function.update objects a { objects a with revents := pfd.revents.signExtend 32 }) =
      .ok (filled, active)) :
    p.fillActiveChannels (pfd :: rest) numEvents objects = .ok (filled, a :: active) := by
  have same : ((objects a).fd == pfd.fd) = true := beq_iff_eq.mpr fd
  rw [fillActiveChannels, if_pos more, if_pos positive]
  simp only [known, same, ensure_true, ok_bind]
  exact bind_eq_ok.mpr ⟨_, tail, rfl⟩

/-- Reporting does not change what else can be reported. -/
theorem Reportable.tail {objects : ChannelId → Channel} {pfd : PollFd} {rest : List PollFd}
    (reportable : p.Reportable objects (pfd :: rest)) (a : ChannelId) (revents : Mask) :
    p.Reportable (Function.update objects a { objects a with revents }) rest where
  positive entry member := reportable.positive entry (List.mem_cons_of_mem _ member)
  known entry member answered := by
    obtain ⟨b, found, same⟩ := reportable.known entry (List.mem_cons_of_mem _ member) answered
    refine ⟨b, found, ?_⟩
    by_cases equal : b = a
    · subst equal
      rw [Function.update_self]
      exact same
    · rw [Function.update_of_ne equal]
      exact same
  distinct := (List.pairwise_cons.mp reportable.distinct).2

/-- Every answered entry has its channel reported, once and with the answer, and nothing else
changes. -/
theorem fillActiveChannels_spec {entries : List PollFd} {objects : ChannelId → Channel}
    (reportable : p.Reportable objects entries) :
    ∃ filled active, p.fillActiveChannels entries (entries.countP (·.revents ≠ 0)) objects =
        .ok (filled, active) ∧ active.Nodup ∧
      (∀ a, a ∈ active ↔ ∃ pfd ∈ entries, pfd.revents ≠ 0 ∧ p.channels.lookup pfd.fd = some a) ∧
      (∀ pfd ∈ entries, ∀ a, pfd.revents ≠ 0 → p.channels.lookup pfd.fd = some a →
        filled a = { objects a with revents := pfd.revents.signExtend 32 }) ∧
      ∀ a, a ∉ active → filled a = objects a := by
  induction entries generalizing objects with
  | nil =>
    refine ⟨objects, [], rfl, List.nodup_nil, fun a => ?_, ?_, fun _ _ => rfl⟩
    · simp only [List.not_mem_nil, false_and, exists_false]
    · intro pfd member
      exact absurd member List.not_mem_nil
  | cons pfd rest ih =>
    by_cases silent : pfd.revents = 0
    · have same : p.Reportable objects rest := by
        have tail := reportable.tail 0 (objects 0).revents
        rwa [Function.update_eq_self] at tail
      obtain ⟨filled, active, done, nodup, mem, answers, others⟩ := ih same
      refine ⟨filled, active, ?_, nodup, fun a => ?_, fun entry member a answered => ?_, others⟩
      · have uncounted : ¬decide (pfd.revents ≠ 0) = true := by simp [silent]
        rw [fillActiveChannels_skip _ _ silent, List.countP_cons, if_neg uncounted]
        exact done
      · rw [mem, List.exists_mem_cons_iff]
        exact ⟨.inr, fun either => either.resolve_left fun first => first.1 silent⟩
      · obtain rfl | later := List.mem_cons.mp member
        · exact absurd silent answered
        · exact answers entry later a answered
    · obtain ⟨a, found, fd⟩ := reportable.known pfd List.mem_cons_self silent
      have positive := reportable.positive pfd List.mem_cons_self silent
      obtain ⟨filled, active, done, nodup, mem, answers, others⟩ :=
        ih (reportable.tail a (pfd.revents.signExtend 32))
      have apart : ∀ entry ∈ rest, entry.revents ≠ 0 → p.channels.lookup entry.fd ≠ some a := by
        intro entry member answered again
        obtain ⟨b, other, same⟩ :=
          reportable.known entry (List.mem_cons_of_mem _ member) answered
        obtain rfl := Option.some.inj (again.symm.trans other)
        exact (List.pairwise_cons.mp reportable.distinct).1 entry member silent answered
          (fd.symm.trans same)
      have fresh : a ∉ active := by
        rw [mem]
        rintro ⟨entry, member, answered, again⟩
        exact apart entry member answered again
      refine ⟨filled, a :: active, ?_, List.nodup_cons.mpr ⟨fresh, nodup⟩, fun b => ?_,
        fun entry member b answered known => ?_, fun b absent => ?_⟩
      · rw [List.countP_cons, if_pos (decide_eq_true silent)]
        refine fillActiveChannels_report rest (by omega) positive found fd ?_
        rw [Int.natCast_add, Int.natCast_one, Int.add_sub_cancel]
        exact done
      · rw [List.mem_cons, mem, List.exists_mem_cons_iff, found, Option.some_inj]
        have first : (pfd.revents ≠ 0 ∧ a = b) ↔ b = a :=
          ⟨fun both => both.2.symm, fun equal => ⟨silent, equal.symm⟩⟩
        rw [first]
      · obtain rfl | later := List.mem_cons.mp member
        · obtain rfl := Option.some.inj (found.symm.trans known)
          rw [others a fresh, Function.update_self]
        · have different : b ≠ a := by
            intro equal
            rw [equal] at known
            exact apart entry later answered known
          rw [answers entry later b answered known, Function.update_of_ne different]
      · obtain ⟨different, elsewhere⟩ := not_or.mp fun either => absent (List.mem_cons.mpr either)
        rw [others b elsewhere, Function.update_of_ne different]

end PollPoller

namespace PollReactor

/-- What `::poll` does to an entry: it writes `revents`, with nothing for a negative descriptor, and
otherwise with bits asked for and with `POLLERR`, `POLLHUP` and `POLLNVAL` only. -/
structure Answered (before after : PollFd) : Prop where
  /-- The descriptor stays. -/
  fd : after.fd = before.fd
  /-- The mask stays. -/
  events : after.events = before.events
  /-- Negative descriptors are passed over. -/
  ignored : before.fd < 0 → after.revents = 0
  /-- No other bits. -/
  bits : after.revents &&& ~~~(before.events ||| 0x38) = 0

/-- What `::poll` does to the array, and the number it returns. -/
structure Polled (before after : List PollFd) (numEvents : Int) : Prop where
  /-- Every entry is answered. -/
  entries : List.Forall₂ Answered before after
  /-- The number of entries with an answer. -/
  count : numEvents = after.countP (·.revents ≠ 0)

variable {channels : Set ChannelId} {fds : ChannelId → Int} {r : PollReactor}
  {more : ChannelId → PollFd → Prop}

/-- An answer to a mask that is not negative is not negative. -/
theorem Answered.positive {before after : PollFd} (answered : Answered before after)
    (asked : before.events.msb = false) (answer : after.revents ≠ 0) :
    0 < after.revents.toInt := by
  have sign : after.revents.msb = false := by
    have bits := congrArg BitVec.msb answered.bits
    have errors : (0x38 : BitVec 16).msb = false := by decide
    rw [BitVec.msb_and, BitVec.msb_not, BitVec.msb_or, asked, errors] at bits
    simpa using bits
  have nonzero : after.revents.toNat ≠ 0 := by
    intro zero
    exact answer (BitVec.eq_of_toNat_eq zero)
  rw [BitVec.toInt_eq_toNat_of_msb sign]
  omega

/-- The entry before `::poll` of an entry after it. -/
theorem Polled.entry {before after : List PollFd} {numEvents : Int}
    (polled : Polled before after numEvents) {i : Nat} {pfd : PollFd}
    (found : after[i]? = some pfd) :
    ∃ entry, before[i]? = some entry ∧ Answered entry pfd := by
  obtain ⟨size, pointwise⟩ := List.forall₂_iff_get.mp polled.entries
  obtain ⟨inside, rfl⟩ := List.getElem?_eq_some_iff.mp found
  exact ⟨_, List.getElem?_eq_getElem (size ▸ inside), pointwise i (size ▸ inside) inside⟩

section Polled

variable (indexed : r.Indexed channels fds more)
  (range : ∀ a ∈ channels, 0 ≤ fds a ∧ fds a < 2 ^ 31) {polled : List PollFd} {numEvents : Int}
  (poll : Polled r.poller.pollfds polled numEvents)

include indexed range poll

/-- An answered entry is the entry of a registered channel, and has its descriptor. -/
theorem Indexed.channel_of_answer {i : Nat} {pfd : PollFd} (found : polled[i]? = some pfd)
    (answer : pfd.revents ≠ 0) :
    ∃ a, r.place a = some i ∧ pfd.fd = fds a ∧ r.poller.channels.lookup pfd.fd = some a ∧
      (r.objects a).fd = pfd.fd ∧ 0 < pfd.revents.toInt := by
  obtain ⟨entry, there, answered⟩ := poll.entry found
  obtain ⟨a, placed⟩ := indexed.dense.owner (List.getElem?_eq_some_iff.mp there).1
  obtain ⟨registered, -⟩ := place_eq_some.mp placed
  obtain ⟨mine, lookup⟩ := indexed.registered_iff.mp registered
  obtain ⟨same, again, ⟨held, events⟩, -⟩ := indexed.dense.entry placed
  obtain rfl := Option.some.inj (there.symm.trans again)
  have nonneg : ¬entry.fd < 0 := fun negative => answer (answered.ignored negative)
  have lower := (range a mine).1
  have descriptor : pfd.fd = fds a := by
    rw [indexed.named.fd a mine] at held
    rw [answered.fd]
    omega
  have sign : entry.events.msb = false := by
    have masks := congrArg BitVec.msb events
    rw [BitVec.msb_signExtend] at masks
    have small := indexed.named.small a mine
    have clear : (r.objects a).events.msb = false := by
      rw [BitVec.msb_eq_false_iff_two_mul_lt]
      omega
    rw [clear] at masks
    simpa using masks
  refine ⟨a, placed, descriptor, ?_, ?_, answered.positive sign answer⟩
  · rw [descriptor]
    exact lookup
  · rw [descriptor]
    exact indexed.named.fd a mine

/-- After `::poll` the entries can be reported. -/
theorem Indexed.reportable :
    ({ r.poller with pollfds := polled } : PollPoller).Reportable r.objects polled where
  positive pfd member answer := by
    obtain ⟨i, found⟩ := List.mem_iff_getElem?.mp member
    obtain ⟨-, -, -, -, -, positive⟩ := indexed.channel_of_answer range poll found answer
    exact positive
  known pfd member answer := by
    obtain ⟨i, found⟩ := List.mem_iff_getElem?.mp member
    obtain ⟨a, -, -, lookup, fd, -⟩ := indexed.channel_of_answer range poll found answer
    exact ⟨a, lookup, fd⟩
  distinct := by
    rw [List.pairwise_iff_getElem]
    intro i j first second ordered answer reply same
    obtain ⟨a, placed, -, lookup, -⟩ :=
      indexed.channel_of_answer range poll (List.getElem?_eq_getElem first) answer
    obtain ⟨b, there, -, again, -⟩ :=
      indexed.channel_of_answer range poll (List.getElem?_eq_getElem second) reply
    rw [same] at lookup
    obtain rfl := Option.some.inj (lookup.symm.trans again)
    have equal := Option.some.inj (placed.symm.trans there)
    omega

/-- The answered entry under a descriptor of `m_channels` is that of the channel found there. -/
theorem Indexed.answer_iff {pfd : PollFd} (answer : pfd.revents ≠ 0) (a : ChannelId) :
    (pfd ∈ polled ∧ r.poller.channels.lookup pfd.fd = some a) ↔
      r.Registered a ∧ polled[(r.objects a).index.toNat]? = some pfd := by
  constructor
  · rintro ⟨member, lookup⟩
    obtain ⟨i, found⟩ := List.mem_iff_getElem?.mp member
    obtain ⟨b, placed, -, again, -⟩ := indexed.channel_of_answer range poll found answer
    obtain rfl := Option.some.inj (lookup.symm.trans again)
    obtain ⟨registered, rfl⟩ := place_eq_some.mp placed
    exact ⟨registered, found⟩
  · rintro ⟨registered, found⟩
    obtain ⟨b, placed, -, lookup, -⟩ := indexed.channel_of_answer range poll found answer
    obtain rfl := indexed.dense.unique placed (place_eq_some.mpr ⟨registered, rfl⟩)
    exact ⟨List.mem_of_getElem? found, lookup⟩

end Polled

/-- Along every run of calls on channels with distinct descriptors, the array and `m_channels` have
the same size, the index of each channel in `m_channels` is the position of its own entry, no two
have the same index, and after a `::poll` exactly the channels in `m_channels` whose entries are
answered are reported, once each and with the answers. -/
theorem index_invariant (channels : Set ChannelId) (fds : ChannelId → Int)
    (range : ∀ a ∈ channels, 0 ≤ fds a ∧ fds a < 2 ^ 31) (distinct : Set.InjOn fds channels)
    (calls : List ReactorCall) (within : ∀ call ∈ calls, call.target ∈ channels)
    (last : PollReactor) (run : Run Step (new fds) calls last) :
    last.poller.pollfds.length = last.poller.channels.keys.length ∧
    (∀ fd a, last.poller.channels.lookup fd = some a →
      (last.objects a).fd = fd ∧ 0 ≤ (last.objects a).index ∧
      (last.objects a).index < last.poller.pollfds.length ∧
      ∃ pfd, last.poller.pollfds[(last.objects a).index.toNat]? = some pfd ∧
        (pfd.fd = fd ∨ pfd.fd = -fd - 1) ∧
        pfd.events.signExtend 32 = (last.objects a).events) ∧
    (∀ a b, last.Registered a → last.Registered b →
      (last.objects a).index = (last.objects b).index → a = b) ∧
    ∀ polled numEvents, Polled last.poller.pollfds polled numEvents →
      ∃ filled active,
        ({ last.poller with pollfds := polled } : PollPoller).fillActiveChannels polled numEvents
          last.objects = .ok (filled, active) ∧
        active.Nodup ∧
        (∀ a, a ∈ active ↔ last.Registered a ∧
          ∃ pfd, polled[(last.objects a).index.toNat]? = some pfd ∧ pfd.revents ≠ 0) ∧
        (∀ a ∈ active, ∃ pfd, polled[(last.objects a).index.toNat]? = some pfd ∧
          filled a = { last.objects a with revents := pfd.revents.signExtend 32 }) ∧
        ∀ a, a ∉ active → filled a = last.objects a := by
  have indexed : last.Indexed channels fds fun _ _ => True := by
    refine (run.allowed within).invariant (new_indexed channels fds _) ?_
    intro before call after indexed taken
    exact Step.indexed taken.1 range distinct taken.2 indexed (fun _ _ _ _ _ => trivial)
      fun _ _ _ _ => trivial
  refine ⟨indexed.size, fun fd a found => ?_, fun a b first second same => ?_,
    fun polled numEvents poll => ?_⟩
  · obtain ⟨mine, rfl⟩ := indexed.known fd a found
    have descriptor := indexed.named.fd a mine
    have registered : last.Registered a := indexed.registered_iff.mpr ⟨mine, found⟩
    have placed := place_eq_some.mpr ⟨registered, rfl⟩
    have nonneg := indexed.nonneg a registered
    have inside := indexed.dense.inside placed
    obtain ⟨pfd, there, ⟨form, events⟩, -⟩ := indexed.dense.entry placed
    rw [descriptor] at form
    exact ⟨descriptor, nonneg, by omega, pfd, there, form, events⟩
  · exact indexed.dense.unique (place_eq_some.mpr ⟨first, rfl⟩)
      (place_eq_some.mpr ⟨second, congrArg Int.toNat same.symm⟩)
  · obtain ⟨filled, active, done, nodup, mem, answers, others⟩ :=
      PollPoller.fillActiveChannels_spec (indexed.reportable range poll)
    rw [← poll.count] at done
    have member (a : ChannelId) : a ∈ active ↔ last.Registered a ∧
        ∃ pfd, polled[(last.objects a).index.toNat]? = some pfd ∧ pfd.revents ≠ 0 := by
      rw [mem]
      constructor
      · rintro ⟨pfd, entry, answer, lookup⟩
        obtain ⟨registered, found⟩ := (indexed.answer_iff range poll answer a).mp ⟨entry, lookup⟩
        exact ⟨registered, pfd, found, answer⟩
      · rintro ⟨registered, pfd, found, answer⟩
        obtain ⟨entry, lookup⟩ := (indexed.answer_iff range poll answer a).mpr ⟨registered, found⟩
        exact ⟨pfd, entry, answer, lookup⟩
    refine ⟨filled, active, done, nodup, member, fun a reported => ?_, others⟩
    obtain ⟨registered, pfd, found, answer⟩ := (member a).mp reported
    obtain ⟨entry, lookup⟩ := (indexed.answer_iff range poll answer a).mpr ⟨registered, found⟩
    exact ⟨pfd, found, answers pfd entry a answer lookup⟩

set_option maxRecDepth 20000 in
/-- Two channels, the first of which is removed while the second, whose entry takes its place, can
be read from. -/
theorem index_invariant_swap :
    ∃ last, Run Step (new Int.ofNat) [.change 3 .enableReading, .change 4 .enableReading,
        .change 3 .disableAll, .remove 3] last ∧
      (last.objects 4).index = 0 ∧ last.poller.pollfds = [⟨4, 3, 0⟩] ∧
      ∃ filled active,
        ({ last.poller with pollfds := [⟨4, 3, 1⟩] } : PollPoller).fillActiveChannels [⟨4, 3, 1⟩] 1
          last.objects = .ok (filled, active) ∧
        active.Nodup ∧ 4 ∈ active ∧ (filled 4).revents = 1 := by
  have ran : ∃ last, Run Step (new Int.ofNat) [.change 3 .enableReading, .change 4 .enableReading,
      .change 3 .disableAll, .remove 3] last ∧ (last.objects 4).index = 0 ∧
      last.poller.pollfds = [⟨4, 3, 0⟩] ∧ last.Registered 4 :=
    ⟨_, .cons rfl (.cons rfl (.cons rfl (.cons rfl (.nil _)))), by decide +kernel,
      by decide +kernel, by rw [Registered]; decide +kernel⟩
  obtain ⟨last, run, index, array, registered⟩ := ran
  have poll : Polled last.poller.pollfds [⟨4, 3, 1⟩] 1 := by
    rw [array]
    exact ⟨.cons ⟨rfl, rfl, by decide, by decide⟩ .nil, rfl⟩
  have range : ∀ a ∈ ({3, 4} : Set ChannelId), 0 ≤ Int.ofNat a ∧ Int.ofNat a < 2 ^ 31 := by
    rintro a (rfl | rfl) <;> decide
  have within : ∀ call ∈ [ReactorCall.change 3 .enableReading, .change 4 .enableReading,
      .change 3 .disableAll, .remove 3], call.target ∈ ({3, 4} : Set ChannelId) := by
    simp [ReactorCall.target]
  obtain ⟨-, -, -, fills⟩ := index_invariant {3, 4} Int.ofNat range
    (fun _ _ _ _ same => Int.ofNat.inj same) _ within last run
  obtain ⟨filled, active, done, nodup, mem, answers, -⟩ := fills _ _ poll
  have member : 4 ∈ active := (mem 4).mpr ⟨registered, ⟨4, 3, 1⟩, by rw [index]; rfl, by decide⟩
  obtain ⟨pfd, found, same⟩ := answers 4 member
  rw [index] at found
  obtain rfl := Option.some.inj found
  exact ⟨last, run, index, array, filled, active, done, nodup, member, by rw [same]; rfl⟩

end PollReactor

end Muduo
