import Muduo.Lib.Run
import Muduo.Net.BufferSpec

/-!
# `Buffer` refines a byte deque

A deque is a list of bytes that grows and shrinks at both ends. `Deque.exec` says what each public
operation of `Buffer` means for it, `Buffer.exec` runs the operation of the source, and the two
are run side by side on any number of buffers. The buffers follow the deques in every run in which
no size computation wraps around and no text is too long for the `int` of a `StringPiece`, and
`exec_refines_iff` shows that this condition is exact.
-/

namespace Muduo

open Storage Outcome Transition

/-- A call of a public operation of `Buffer`. Sizes are `size_t` values, and `hasWritten` comes
with the bytes that the caller put at `beginWrite()` before it. -/
inductive BufferCall
  | append (data : List UInt8)
  | appendString (text : List UInt8)
  | prepend (data : List UInt8)
  | retrieve (len : UInt64)
  | retrieveUntil (stop : UInt64)
  | retrieveAll
  | retrieveAsString (len : UInt64)
  | unwrite (len : UInt64)
  | ensureWritableBytes (len : UInt64)
  | hasWritten (data : List UInt8)
  | shrink (reserve : UInt64)
  | readFd (received : Except Int (List UInt8))

/-- What a call returns to its caller. -/
inductive Reply
  | none
  | text (bytes : List UInt8)
  | count (value : Int)
  deriving DecidableEq, Repr

/-- The operation on the abstract sequence. A pointer is translated to a number of bytes with the
position of `peek()`. -/
def Deque.exec (peek : Nat) (bytes : List UInt8) : BufferCall → List UInt8 × Reply
  | .append data => (bytes ++ data, .none)
  | .appendString text => (bytes ++ text, .none)
  | .prepend data => (data ++ bytes, .none)
  | .retrieve len => (bytes.drop len.toNat, .none)
  | .retrieveUntil stop => (bytes.drop (stop.toNat - peek), .none)
  | .retrieveAll => ([], .none)
  | .retrieveAsString len => (bytes.drop len.toNat, .text (bytes.take len.toNat))
  | .unwrite len => (bytes.take (bytes.length - len.toNat), .none)
  | .ensureWritableBytes _ => (bytes, .none)
  | .hasWritten data => (bytes ++ data, .none)
  | .shrink _ => (bytes, .none)
  | .readFd (.ok data) => (bytes ++ data, .count data.length)
  | .readFd (.error _) => (bytes, .count (-1))

namespace Buffer

/-- The operation of the source. -/
def exec (b : Buffer) : BufferCall → Except Fault (Buffer × Reply)
  | .append data => do pure (← b.append data data.length, .none)
  | .appendString text => do pure (← b.appendPiece (.ofString text), .none)
  | .prepend data => do pure (← b.prepend data, .none)
  | .retrieve len => do pure (← b.retrieve len.toNat, .none)
  | .retrieveUntil stop => do pure (← b.retrieveUntil stop.toNat, .none)
  | .retrieveAll => pure (b.retrieveAll, .none)
  | .retrieveAsString len => do
    let (after, bytes) ← b.retrieveAsString len.toNat
    pure (after, .text bytes)
  | .unwrite len => do pure (← b.unwrite len.toNat, .none)
  | .ensureWritableBytes len => do pure (← b.ensureWritableBytes len.toNat, .none)
  | .hasWritten data => do
    let after ← (b.writeAtEnd data >>= fun b => b.hasWritten data.length)
    pure (after, .none)
  | .shrink reserve => do pure (← b.shrink reserve.toNat, .none)
  | .readFd received => do
    let (after, value) ← b.readFd received
    pure (after, .count value)

/-- The asserted precondition of a call. Appended data lies in memory beside the vector, `shrink`
is called while the readable bytes fit in `int`, and `readv` delivers no more than it was
offered. -/
def Allowed (b : Buffer) : BufferCall → Prop
  | .append data => b.buffers.length + data.length ≤ maxSize
  | .appendString text => b.buffers.length + text.length ≤ maxSize
  | .prepend data => data.length ≤ b.prependableBytes
  | .retrieve len => len.toNat ≤ b.readableBytes
  | .retrieveUntil stop => b.readerIndex ≤ stop.toNat ∧ stop.toNat ≤ b.writerIndex
  | .retrieveAll => True
  | .retrieveAsString len => len.toNat ≤ b.readableBytes
  | .unwrite len => len.toNat ≤ b.readableBytes
  | .ensureWritableBytes _ => True
  | .hasWritten data => data.length ≤ b.writableBytes
  | .shrink _ => b.readableBytes < 2 ^ 31
  | .readFd (.ok data) => data.length ≤ b.readvOffer
  | .readFd (.error _) => True

/-- No text is too long for an `int` and no requested size wraps around. -/
def Representable (b : Buffer) : BufferCall → Prop
  | .appendString text => text.length < 2 ^ 31
  | .ensureWritableBytes len => max kCheapPrepend b.writerIndex + len.toNat < 2 ^ 64
  | .shrink reserve => kCheapPrepend + sizeAdd b.readableBytes reserve.toNat < 2 ^ 64
  | _ => True

/-- A vector of this size is enough for the call. -/
def demand (b : Buffer) : BufferCall → Nat
  | .append data => b.writerIndex + data.length
  | .appendString text => b.writerIndex + text.length
  | .ensureWritableBytes len => b.writerIndex + len.toNat
  | .shrink reserve => kCheapPrepend + sizeAdd b.readableBytes reserve.toNat
  | .readFd (.ok data) => b.buffers.length + data.length
  | _ => 0

/-- The call leaves a valid buffer that holds what the deque holds and answers what the deque
answers, or it needs a larger vector than there can be. -/
def Refines (b : Buffer) (call : BufferCall) : Prop :=
  Meets (b.exec call)
    (fun result => result.1.Valid ∧
      (result.1.readable, result.2) = Deque.exec b.readerIndex b.readable call)
    (Exhausted (b.demand call))

variable {b : Buffer}

/-- A call that only changes the buffer refines the deque when the buffer does. -/
theorem refines_of_meets {call : BufferCall} {operation : Except Fault Buffer} {bytes : List UInt8}
    (runs : b.exec call = operation >>= fun after => pure (after, .none))
    (means : Deque.exec b.readerIndex b.readable call = (bytes, .none))
    (met : Meets operation (fun after => after.Valid ∧ after.readable = bytes)
      (Exhausted (b.demand call))) : b.Refines call := by
  rw [Refines, runs, means]
  refine met.bind fun after ⟨valid, same⟩ => ?_
  rw [pure_eq_ok, meets_ok]
  exact ⟨valid, by rw [same]⟩

/-- A call known to succeed meets its postcondition. -/
theorem meets_of_eq {operation : Except Fault Buffer} {bytes : List UInt8} {stop : Fault → Prop}
    (done : ∃ after, operation = .ok after ∧ after.Valid ∧ after.readable = bytes) :
    Meets operation (fun after => after.Valid ∧ after.readable = bytes) stop := by
  obtain ⟨after, rfl, holds⟩ := done
  exact .ok holds

/-- A representable call within its precondition refines the deque. -/
theorem exec_refines (valid : b.Valid) (call : BufferCall) (allowed : b.Allowed call)
    (representable : b.Representable call) : b.Refines call := by
  have size := valid.size_lt
  have inside := valid.writer_le
  have eight : kCheapPrepend = 8 := rfl
  have limit : maxSize = 2 ^ 63 - 1 := rfl
  cases call with
  | append data =>
    have object : b.buffers.length + data.length ≤ maxSize := allowed
    have met := append_meets valid (Nat.le_refl data.length) (by omega)
    rw [List.take_length] at met
    exact refines_of_meets rfl rfl met
  | appendString text => exact refines_of_meets rfl rfl (appendPiece_meets valid representable)
  | prepend data => exact refines_of_meets rfl rfl (meets_of_eq (prepend_eq valid allowed))
  | retrieve len => exact refines_of_meets rfl rfl (meets_of_eq (retrieve_eq valid allowed))
  | retrieveUntil stop =>
    exact refines_of_meets rfl rfl (meets_of_eq (retrieveUntil_eq valid allowed.1 allowed.2))
  | retrieveAll =>
    have emptied := retrieveAll_valid valid
    rw [Refines, exec, pure_eq_ok, meets_ok, Deque.exec]
    exact ⟨emptied.1, by rw [emptied.2]⟩
  | retrieveAsString len =>
    obtain ⟨after, done, afterValid, rest⟩ := retrieveAsString_eq valid allowed
    rw [Refines, exec, done, ok_bind, Deque.exec]
    exact .ok ⟨afterValid, by rw [rest]⟩
  | unwrite len => exact refines_of_meets rfl rfl (meets_of_eq (unwrite_eq valid allowed))
  | ensureWritableBytes len =>
    exact refines_of_meets rfl rfl ((ensureWritableBytes_meets valid representable).mono
      (fun _ made => ⟨made.1, made.2.1⟩) fun _ full => full)
  | hasWritten data =>
    exact refines_of_meets rfl rfl (meets_of_eq (hasWritten_eq valid data allowed))
  | shrink reserve => exact refines_of_meets rfl rfl (shrink_meets valid allowed representable)
  | readFd received =>
    cases received with
    | error code => exact .ok ⟨valid, rfl⟩
    | ok data =>
      rw [Refines, exec, Deque.exec]
      refine (readFd_meets valid allowed).bind fun result ⟨afterValid, text, answer⟩ => ?_
      exact .ok ⟨afterValid, by rw [text, answer]⟩

/-- A call that is not representable breaks the refinement. -/
theorem representable_of_refines (valid : b.Valid) (call : BufferCall) (allowed : b.Allowed call)
    (refines : b.Refines call) : b.Representable call := by
  have inside := valid.writer_le
  have eight : kCheapPrepend = 8 := rfl
  have initial : kInitialSize = 1024 := rfl
  have limit : maxSize = 2 ^ 63 - 1 := rfl
  by_contra wraps
  rw [Refines] at refines
  cases call with
  | appendString text =>
    have object : b.buffers.length + text.length ≤ maxSize := allowed
    have large : ¬text.length < 2 ^ 31 := wraps
    have changed := sizeOfInt_intOfSize_ne (Nat.not_lt.mp large) (by omega)
    cases done : b.appendPiece (.ofString text) with
    | error fault =>
      have full := refines.of_error (by rw [exec, done, error_bind])
      have needed : maxSize < b.writerIndex + text.length := full.2
      omega
    | ok after =>
      obtain ⟨count, _, appended⟩ := append_ok valid done
      have same := (refines.of_ok (by rw [exec, done, ok_bind, pure_eq_ok])).2
      simp only [Deque.exec, Prod.mk.injEq, and_true] at same
      simp only [StringPiece.ofString] at count appended
      rw [appended, List.append_cancel_left_eq, List.take_eq_self_iff] at same
      omega
  | ensureWritableBytes len =>
    have beyond : ¬max kCheapPrepend b.writerIndex + len.toNat < 2 ^ 64 := wraps
    have wrapped := ensureWritableBytes_wrapped valid (by omega) len.toNat_lt
    cases done : b.ensureWritableBytes len.toNat with
    | error fault =>
      have full := refines.of_error (by rw [exec, done, error_bind])
      obtain ⟨expression, rfl⟩ := wrapped.of_error done
      exact absurd full.1 (by simp)
    | ok after =>
      have good := (refines.of_ok (by rw [exec, done, ok_bind, pure_eq_ok])).1
      have cut := wrapped.of_ok done
      exact absurd good.writer_le (by simpa using cut)
  | shrink reserve =>
    have beyond : ¬kCheapPrepend + sizeAdd b.readableBytes reserve.toNat < 2 ^ 64 := wraps
    have word : sizeAdd b.readableBytes reserve.toNat < 2 ^ 64 := by
      rw [sizeAdd]
      omega
    have made := new_meets kInitialSize (by omega)
    cases fresh : Buffer.new kInitialSize with
    | error fault =>
      have needed := (made.of_error fresh).2
      omega
    | ok other =>
      obtain ⟨otherValid, _, reader, writer, _⟩ := made.of_ok fresh
      have failed := ensureWritableBytes_reset otherValid reader writer (by omega) word
      have full := refines.of_error (by
        rw [exec, shrink, fresh, ok_bind, failed, error_bind, error_bind])
      exact absurd full.1 (by simp)
  | append | prepend | retrieve | retrieveUntil | retrieveAll | retrieveAsString | unwrite
  | hasWritten | readFd => exact wraps trivial

/-- Within its precondition a call refines the deque exactly when it is representable. -/
theorem exec_refines_iff (valid : b.Valid) (call : BufferCall) (allowed : b.Allowed call) :
    b.Refines call ↔ b.Representable call :=
  ⟨representable_of_refines valid call allowed, exec_refines valid call allowed⟩

/-- The constructor makes a valid empty buffer exactly when its size does not wrap around. -/
theorem new_refines_iff (initialSize : UInt64) :
    Meets (Buffer.new initialSize.toNat) (fun made => made.Valid ∧ made.readable = [])
      (Exhausted (kCheapPrepend + initialSize.toNat)) ↔
        kCheapPrepend + initialSize.toNat < 2 ^ 64 := by
  constructor
  · intro met
    by_contra wraps
    obtain ⟨made, done, broken⟩ := new_wrapped (Nat.not_lt.mp wraps) initialSize.toNat_lt
    exact broken (met.of_ok done).1
  · intro fits
    exact (new_meets _ fits).mono (fun _ made => ⟨made.1, made.2.1⟩) fun _ full => full

end Buffer

/-! ## Runs on any number of buffers -/

section Store

variable {ι : Type} [DecidableEq ι]

/-- A call on one buffer, or `Buffer::swap` of two. -/
inductive StoreCall (ι : Type)
  | on (target : ι) (call : BufferCall)
  | swap (left right : ι)

/-- Exchange two entries. -/
def exchange {β : Type} (store : ι → β) (left right : ι) : ι → β :=
  Function.update (Function.update store left (store right)) right (store left)

/-- One call on the buffers of the source. -/
def Buffer.storeStep (store : ι → Buffer) : StoreCall ι → Except Fault (ι → Buffer)
  | .on target call => do
    let (after, _) ← (store target).exec call
    pure (Function.update store target after)
  | .swap left right => pure (exchange store left right)

/-- The same call on the deques; the buffers only tell where their `peek()` is. -/
def Deque.storeStep (buffers : ι → Buffer) (deques : ι → List UInt8) :
    StoreCall ι → ι → List UInt8
  | .on target call =>
    Function.update deques target
      (Deque.exec (buffers target).readerIndex (deques target) call).1
  | .swap left right => exchange deques left right

/-- Buffers and deques make the same call side by side. -/
def StoreStep (before : (ι → Buffer) × (ι → List UInt8)) (call : StoreCall ι)
    (after : (ι → Buffer) × (ι → List UInt8)) : Prop :=
  Buffer.storeStep before.1 call = .ok after.1 ∧
    after.2 = Deque.storeStep before.1 before.2 call

/-- The asserted preconditions of a call hold. -/
def StoreAllowed (state : (ι → Buffer) × (ι → List UInt8)) : StoreCall ι → Prop
  | .on target call => (state.1 target).Allowed call
  | .swap _ _ => True

/-- The sizes of a call are representable. -/
def StoreRepresentable (state : (ι → Buffer) × (ι → List UInt8)) : StoreCall ι → Prop
  | .on target call => (state.1 target).Representable call
  | .swap _ _ => True

/-- A buffer is valid and its readable bytes are the given ones. -/
def Buffer.Holds (b : Buffer) (bytes : List UInt8) : Prop := b.Valid ∧ b.readable = bytes

/-- Every buffer holds what its deque holds. -/
def Follows (state : (ι → Buffer) × (ι → List UInt8)) : Prop :=
  ∀ target, (state.1 target).Holds (state.2 target)

/-- Buffers keep following the deques when one of each is replaced by a matching pair. -/
theorem follows_update {buffers : ι → Buffer} {deques : ι → List UInt8}
    (follows : Follows (buffers, deques)) (target : ι) {b : Buffer} {bytes : List UInt8}
    (holds : b.Holds bytes) :
    Follows (Function.update buffers target b, Function.update deques target bytes) := by
  intro key
  by_cases same : key = target
  · subst same
    dsimp only
    rw [Function.update_self, Function.update_self]
    exact holds
  · dsimp only
    rw [Function.update_of_ne same, Function.update_of_ne same]
    exact follows key

/-- One representable call within its preconditions keeps buffers and deques together. -/
theorem follows_step (before after : (ι → Buffer) × (ι → List UInt8)) (call : StoreCall ι)
    (follows : Follows before) (stepped : StoreStep before call after)
    (allowed : StoreAllowed before call) (representable : StoreRepresentable before call) :
    Follows after := by
  obtain ⟨buffers, deques⟩ := before
  obtain ⟨afterBuffers, afterDeques⟩ := after
  obtain ⟨done, rfl⟩ := stepped
  cases call with
  | on target call =>
    obtain ⟨⟨result, reply⟩, ran, updated⟩ := bind_eq_ok.mp done
    obtain rfl := Except.ok.inj updated
    obtain ⟨valid, held⟩ := follows target
    obtain ⟨resultValid, same⟩ :=
      (Buffer.exec_refines valid call allowed representable).of_ok ran
    have contents := congrArg Prod.fst same
    dsimp only at contents held
    rw [held] at contents
    exact follows_update follows target ⟨resultValid, contents⟩
  | swap left right =>
    obtain rfl := Except.ok.inj done
    exact follows_update (follows_update follows left (follows right)) right (follows left)

/-- Buffers of any initial sizes refine byte deques: along every run of representable calls within
their preconditions each buffer is valid and holds exactly the bytes of its deque, and at every
state of such a run the next call within its precondition refines the deque, answers included,
exactly when it is representable too. The constructor obeys the same rule. -/
theorem buffer_refines_deque (sizes : ι → UInt64) (fresh : ι → Buffer)
    (made : ∀ target, Buffer.new (sizes target).toNat = .ok (fresh target))
    (fits : ∀ target, kCheapPrepend + (sizes target).toNat < 2 ^ 64)
    (calls : List (StoreCall ι)) (buffers : ι → Buffer) (deques : ι → List UInt8)
    (run : Run (Guarded StoreStep fun state call =>
      StoreAllowed state call ∧ StoreRepresentable state call)
      (fresh, fun _ => []) calls (buffers, deques)) :
    (∀ target, (buffers target).Valid ∧ (buffers target).readable = deques target) ∧
      (∀ target call, (buffers target).Allowed call →
        ((buffers target).Refines call ↔ (buffers target).Representable call)) ∧
      ∀ initialSize : UInt64,
        Meets (Buffer.new initialSize.toNat) (fun b => b.Valid ∧ b.readable = [])
          (Exhausted (kCheapPrepend + initialSize.toNat)) ↔
            kCheapPrepend + initialSize.toNat < 2 ^ 64 := by
  have start : Follows (fresh, fun _ : ι => ([] : List UInt8)) := fun target =>
    (((Buffer.new_refines_iff _).mpr (fits target)).of_ok (made target))
  have follows : Follows (buffers, deques) := run.invariant start
    fun before call after follows taken =>
      follows_step before after call follows taken.1 taken.2.1 taken.2.2
  exact ⟨follows, fun target call => Buffer.exec_refines_iff (follows target).1 call,
    Buffer.new_refines_iff⟩

end Store

/-- Three bytes appended to a buffer of initial size four, one of them retrieved. -/
theorem buffer_refines_deque_append_retrieve :
    (Buffer.mk [0, 0, 0, 0, 0, 0, 0, 0, 1, 2, 3, 0] 9 11).Valid ∧
      (Buffer.mk [0, 0, 0, 0, 0, 0, 0, 0, 1, 2, 3, 0] 9 11).readable = [2, 3] := by
  have run : Run (Guarded StoreStep fun state call =>
      StoreAllowed state call ∧ StoreRepresentable state call)
      ((fun _ : Unit => Buffer.mk (List.replicate 12 0) 8 8), fun _ => [])
      [.on () (.append [1, 2, 3]), .on () (.retrieve 1)]
      ((fun _ => Buffer.mk [0, 0, 0, 0, 0, 0, 0, 0, 1, 2, 3, 0] 9 11), fun _ => [2, 3]) := by
    have appended : StoreStep ((fun _ : Unit => Buffer.mk (List.replicate 12 0) 8 8), fun _ => [])
        (.on () (.append [1, 2, 3]))
        ((fun _ => Buffer.mk [0, 0, 0, 0, 0, 0, 0, 0, 1, 2, 3, 0] 8 11), fun _ => [1, 2, 3]) :=
      ⟨rfl, rfl⟩
    have room : StoreAllowed ((fun _ : Unit => Buffer.mk (List.replicate 12 0) 8 8), fun _ => [])
        (.on () (.append [1, 2, 3])) := show 12 + 3 ≤ maxSize by decide
    have enough : StoreAllowed ((fun _ : Unit =>
        Buffer.mk [0, 0, 0, 0, 0, 0, 0, 0, 1, 2, 3, 0] 8 11), fun _ => [1, 2, 3])
        (.on () (.retrieve 1)) := show 1 ≤ 3 by decide
    exact .cons ⟨appended, room, trivial⟩ (.cons ⟨⟨rfl, rfl⟩, enough, trivial⟩ (.nil _))
  exact (buffer_refines_deque (fun _ => 4) _ (fun _ => Buffer.new_eq (by decide))
    (fun _ => by simp [kCheapPrepend]) _ _ _ run).1 ()

/-- A text of `2^32 - 1` bytes reaches an empty buffer as a request for `2^64 - 1` bytes. -/
theorem exec_appendString_fails {b : Buffer} (valid : b.Valid)
    (reader : b.readerIndex = kCheapPrepend) (writer : b.writerIndex = kCheapPrepend)
    {text : List UInt8} (length : text.length = 2 ^ 32 - 1) :
    b.exec (.appendString text) = .error (.assertion "kCheapPrepend < m_readerIndex") := by
  have eight : kCheapPrepend = 8 := rfl
  have size : sizeOfInt (intOfSize text.length) = 2 ^ 64 - 1 := by
    rw [length]
    rfl
  have failed := Buffer.ensureWritableBytes_reset valid reader writer
    (show 2 ^ 64 ≤ kCheapPrepend + (2 ^ 64 - 1) by omega) (by omega)
  rw [Buffer.exec, Buffer.appendPiece, StringPiece.ofString, size, Buffer.append, failed]
  rfl

/-- `append` of a string of `2^32 - 1` bytes to a new buffer fails the assertion of `makeSpace`. -/
theorem append_four_gib_fails :
    ∃ (b : Buffer) (text : List UInt8), Buffer.new kInitialSize = .ok b ∧
      b.Allowed (.appendString text) ∧
      b.exec (.appendString text) = .error (.assertion "kCheapPrepend < m_readerIndex") := by
  have eight : kCheapPrepend = 8 := rfl
  have initial : kInitialSize = 1024 := rfl
  have limit : maxSize = 2 ^ 63 - 1 := rfl
  have made := Buffer.new_meets kInitialSize (by omega)
  cases fresh : Buffer.new kInitialSize with
  | error fault =>
    have needed := (made.of_error fresh).2
    omega
  | ok b =>
    obtain ⟨valid, _, reader, writer, size⟩ := made.of_ok fresh
    have length : (List.replicate (2 ^ 32 - 1) (120 : UInt8)).length = 2 ^ 32 - 1 :=
      List.length_replicate
    refine ⟨b, List.replicate (2 ^ 32 - 1) 120, rfl, ?_,
      exec_appendString_fails valid reader writer length⟩
    change b.buffers.length + (List.replicate (2 ^ 32 - 1) (120 : UInt8)).length ≤ maxSize
    omega

end Muduo
