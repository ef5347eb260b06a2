import Muduo.Base.Endian
import Muduo.Net.BufferDeque

/-!
# Integers in a buffer

`appendIntN` and `prependIntN` put an integer into the buffer in network byte order, `peekIntN` and
`readIntN` get it back. A read copies the bytes from `peek()` on to a temporary of the host. The
temporary of `peekInt16` is an `int32_t`, so it copies four bytes where two would do: the result is
right, but the copy ends behind the readable bytes when there are fewer than four of them, and even
behind the vector when that ends there.
-/

namespace Muduo

open Storage Outcome Transition

/-- The integers that a buffer reads and writes. -/
inductive IntType
  /-- `int8_t`. -/
  | int8
  /-- `int16_t`. -/
  | int16
  /-- `int32_t`. -/
  | int32
  /-- `int64_t`. -/
  | int64
  deriving DecidableEq, Repr

namespace IntType

/-- `sizeof` of the type. -/
def size : IntType → Nat
  | int8 => 1
  | int16 => 2
  | int32 => 4
  | int64 => 8

/-- `sizeof` of the temporary to which a read copies: `int8_t be8`, `int32_t be16`, `int32_t be32`
and `int64_t be64`. -/
def copied : IntType → Nat
  | int8 => 1
  | int16 => 4
  | int32 => 4
  | int64 => 8

end IntType

/-- An unsigned number of so many bytes, read in two's complement. -/
def signed (size value : Nat) : Int := Int.bmod value (256 ^ size)

/-- Conversion of a signed integer to the unsigned type of the same size. -/
def unsigned (size : Nat) (value : Int) : Nat := (value % 256 ^ size).toNat

/-- `hostToNetwork64`, which is `htobe64`. -/
def hostToNetwork64 (host64 : Nat) : Nat := byteSwap 8 host64

/-- `hostToNetwork32`, which is `htobe32`. -/
def hostToNetwork32 (host32 : Nat) : Nat := byteSwap 4 host32

/-- `hostToNetwork16`, which is `htobe16`. -/
def hostToNetwork16 (host16 : Nat) : Nat := byteSwap 2 host16

/-- `networkToHost64`, which is `be64toh`. -/
def networkToHost64 (net64 : Nat) : Nat := byteSwap 8 net64

/-- `networkToHost32`, which is `be32toh`. -/
def networkToHost32 (net32 : Nat) : Nat := byteSwap 4 net32

/-- `networkToHost16`, which is `be16toh`. -/
def networkToHost16 (net16 : Nat) : Nat := byteSwap 2 net16

namespace Buffer

/-- `append(&be, sizeof be)` of a number in the memory of the host. -/
def appendNumber (b : Buffer) (size be : Nat) : Except Fault Buffer :=
  b.append (memory size be) size

/-- `appendInt64(int64_t x)`. -/
def appendInt64 (b : Buffer) (x : Int) : Except Fault Buffer :=
  b.appendNumber 8 (hostToNetwork64 (unsigned 8 x))

/-- `appendInt32(int32_t x)`. -/
def appendInt32 (b : Buffer) (x : Int) : Except Fault Buffer :=
  b.appendNumber 4 (hostToNetwork32 (unsigned 4 x))

/-- `appendInt16(int16_t x)`. -/
def appendInt16 (b : Buffer) (x : Int) : Except Fault Buffer :=
  b.appendNumber 2 (hostToNetwork16 (unsigned 2 x))

/-- `appendInt8(int8_t x)`. -/
def appendInt8 (b : Buffer) (x : Int) : Except Fault Buffer := b.appendNumber 1 (unsigned 1 x)

/-- `prependInt64(int64_t x)`. -/
def prependInt64 (b : Buffer) (x : Int) : Except Fault Buffer :=
  b.prepend (memory 8 (hostToNetwork64 (unsigned 8 x)))

/-- `prependInt32(int32_t x)`. -/
def prependInt32 (b : Buffer) (x : Int) : Except Fault Buffer :=
  b.prepend (memory 4 (hostToNetwork32 (unsigned 4 x)))

/-- `prependInt16(int16_t x)`. -/
def prependInt16 (b : Buffer) (x : Int) : Except Fault Buffer :=
  b.prepend (memory 2 (hostToNetwork16 (unsigned 2 x)))

/-- `memcpy(&temporary, peek(), size)`: the temporary after the copy. -/
def copyFromPeek (b : Buffer) (size : Nat) : Except Fault Nat := do
  let bytes ← load (b.buffers.drop b.readerIndex) size
  return fromMemory bytes

/-- `peekInt64()`. -/
def peekInt64 (b : Buffer) : Except Fault Int := do
  ensure (IntType.int64.size ≤ b.readableBytes) "readableBytes() >= sizeof(int64_t)"
  let be64 ← b.copyFromPeek IntType.int64.copied
  return signed 8 (networkToHost64 be64)

/-- `peekInt32()`. -/
def peekInt32 (b : Buffer) : Except Fault Int := do
  ensure (IntType.int32.size ≤ b.readableBytes) "readableBytes() >= sizeof(int32_t)"
  let be32 ← b.copyFromPeek IntType.int32.copied
  return signed 4 (networkToHost32 be32)

/-- `peekInt16()`, whose temporary is an `int32_t` that is converted to `uint16_t`. -/
def peekInt16 (b : Buffer) : Except Fault Int := do
  ensure (IntType.int16.size ≤ b.readableBytes) "readableBytes() >= sizeof(int16_t)"
  let be16 ← b.copyFromPeek IntType.int16.copied
  return signed 2 (networkToHost16 (be16 % 2 ^ 16))

/-- `peekInt8()`. -/
def peekInt8 (b : Buffer) : Except Fault Int := do
  ensure (IntType.int8.size ≤ b.readableBytes) "readableBytes() >= sizeof(int8_t)"
  let be8 ← b.copyFromPeek IntType.int8.copied
  return signed 1 be8

/-- A `peekIntN()` followed by its `retrieveIntN()`. -/
def readWith (b : Buffer) (peek : Buffer → Except Fault Int) (size : Nat) :
    Except Fault (Buffer × Int) := do
  let result ← peek b
  let b ← b.retrieve size
  return (b, result)

/-- `readInt64()`. -/
def readInt64 (b : Buffer) : Except Fault (Buffer × Int) := b.readWith peekInt64 8

/-- `readInt32()`. -/
def readInt32 (b : Buffer) : Except Fault (Buffer × Int) := b.readWith peekInt32 4

/-- `readInt16()`. -/
def readInt16 (b : Buffer) : Except Fault (Buffer × Int) := b.readWith peekInt16 2

/-- `readInt8()`. -/
def readInt8 (b : Buffer) : Except Fault (Buffer × Int) := b.readWith peekInt8 1

/-- The `peekIntN()` of a type. -/
def peekInt (b : Buffer) : IntType → Except Fault Int
  | .int8 => b.peekInt8
  | .int16 => b.peekInt16
  | .int32 => b.peekInt32
  | .int64 => b.peekInt64

/-- The `readIntN()` of a type. -/
def readInt (b : Buffer) : IntType → Except Fault (Buffer × Int)
  | .int8 => b.readInt8
  | .int16 => b.readInt16
  | .int32 => b.readInt32
  | .int64 => b.readInt64

/-- The cells of the vector that a read of an integer copies. -/
def accessed (b : Buffer) (type : IntType) : List Nat := List.range' b.readerIndex type.copied

/-- The integer that the first readable bytes are in network byte order. -/
def front (b : Buffer) (type : IntType) : Int :=
  signed type.size (bigEndian (b.readable.take type.size))

/-- A read of an integer copies readable cells of the vector only, and what it returns is the
integer of the first readable bytes. -/
structure ReadsInside (b : Buffer) (type : IntType) : Prop where
  /-- Every cell is readable. -/
  cells : ∀ cell ∈ b.accessed type, b.readerIndex ≤ cell ∧ cell < b.writerIndex ∧
    cell < b.buffers.length
  /-- What `peekIntN()` returns. -/
  peek : b.peekInt type = .ok (b.front type)
  /-- What `readIntN()` returns. -/
  read : ∃ after, b.readInt type = .ok (after, b.front type)

variable {b : Buffer} {type : IntType}

/-- A copy that ends inside the vector copies the bytes there. -/
theorem copyFromPeek_eq {size : Nat} (inside : b.readerIndex + size ≤ b.buffers.length) :
    b.copyFromPeek size = .ok (fromMemory ((b.buffers.drop b.readerIndex).take size)) := by
  rw [copyFromPeek, load, if_pos (by rw [List.length_drop]; omega)]
  rfl

/-- A copy of the first readable bytes. -/
theorem Valid.copyFromPeek_eq (valid : b.Valid) {size : Nat} (enough : size ≤ b.readableBytes) :
    b.copyFromPeek size = .ok (fromMemory (b.readable.take size)) ∧
      (b.readable.take size).length = size := by
  have distance := valid.readableBytes_eq
  have length := valid.length_readable
  have writer := valid.writer_le
  have reader := valid.reader_le
  constructor
  · rw [Buffer.copyFromPeek_eq (by omega), valid.take_peek enough]
  · rw [List.length_take, length, Nat.min_eq_left enough]

/-- A copy of the first readable bytes, turned into the byte order of the host. -/
theorem Valid.copyFromPeek_swap (valid : b.Valid) {size : Nat} (enough : size ≤ b.readableBytes) :
    ∃ be, b.copyFromPeek size = .ok be ∧
      byteSwap size be = bigEndian (b.readable.take size) := by
  obtain ⟨copied, length⟩ := valid.copyFromPeek_eq enough
  exact ⟨_, copied, byteSwap_fromMemory length⟩

/-- A copy of the first readable bytes and two bytes more, of which only the first matter. -/
theorem Valid.copyFromPeek_wide (valid : b.Valid) (enough : 2 ≤ b.readableBytes)
    (inside : b.readerIndex + 4 ≤ b.buffers.length) :
    ∃ be, b.copyFromPeek 4 = .ok be ∧
      byteSwap 2 (be % 2 ^ 16) = bigEndian (b.readable.take 2) := by
  have short : (b.buffers.drop b.readerIndex).take 2 = b.readable.take 2 := valid.take_peek enough
  have four : ((b.buffers.drop b.readerIndex).take 4).length = 4 := by
    rw [List.length_take, List.length_drop]
    omega
  have low : fromMemory ((b.buffers.drop b.readerIndex).take 4) % 256 ^ 2 =
      fromMemory (b.readable.take 2) := by
    rw [fromMemory_mod _ (by omega), List.take_take, ← short]
    rfl
  refine ⟨_, Buffer.copyFromPeek_eq inside, ?_⟩
  rw [show (2 : Nat) ^ 16 = 256 ^ 2 from rfl, low]
  exact byteSwap_fromMemory (valid.copyFromPeek_eq enough).2

/-- A read whose copy ends inside the vector returns the integer of the first readable bytes. -/
theorem Valid.peekInt_eq (valid : b.Valid) (enough : type.size ≤ b.readableBytes)
    (inside : b.readerIndex + type.copied ≤ b.buffers.length) :
    b.peekInt type = .ok (b.front type) := by
  have asserted : decide (type.size ≤ b.readableBytes) = true := decide_eq_true enough
  cases type with
  | int8 =>
    obtain ⟨copied, length⟩ := valid.copyFromPeek_eq enough
    obtain ⟨byte, one⟩ := List.length_eq_one_iff.mp length
    have same : fromMemory (b.readable.take 1) = bigEndian (b.readable.take 1) := by
      rw [show b.readable.take 1 = [byte] from one]
      rfl
    rw [peekInt, peekInt8, asserted, ensure_true, ok_bind, IntType.copied, front]
    rw [show b.copyFromPeek 1 = _ from copied, ok_bind, IntType.size, same]
    rfl
  | int16 =>
    obtain ⟨be16, copied, swapped⟩ := valid.copyFromPeek_wide enough inside
    rw [peekInt, peekInt16, asserted, ensure_true, ok_bind, IntType.copied, copied, ok_bind,
      networkToHost16, swapped]
    rfl
  | int32 =>
    obtain ⟨be32, copied, swapped⟩ := valid.copyFromPeek_swap enough
    rw [peekInt, peekInt32, asserted, ensure_true, ok_bind]
    rw [show b.copyFromPeek IntType.int32.copied = _ from copied, ok_bind, networkToHost32]
    rw [show byteSwap 4 be32 = _ from swapped]
    rfl
  | int64 =>
    obtain ⟨be64, copied, swapped⟩ := valid.copyFromPeek_swap enough
    rw [peekInt, peekInt64, asserted, ensure_true, ok_bind]
    rw [show b.copyFromPeek IntType.int64.copied = _ from copied, ok_bind, networkToHost64]
    rw [show byteSwap 8 be64 = _ from swapped]
    rfl

/-- A read of any type peeks and retrieves. -/
theorem readInt_eq (b : Buffer) (type : IntType) :
    b.readInt type = b.readWith (fun b => b.peekInt type) type.size := by
  cases type <;> rfl

/-- A read whose copy ends inside the vector drops the bytes of its integer. -/
theorem Valid.readInt_eq (valid : b.Valid) (enough : type.size ≤ b.readableBytes)
    (inside : b.readerIndex + type.copied ≤ b.buffers.length) :
    ∃ after, b.readInt type = .ok (after, b.front type) ∧ after.Valid ∧
      after.readable = b.readable.drop type.size := by
  obtain ⟨after, done, kept⟩ := retrieve_eq valid enough
  refine ⟨after, ?_, kept⟩
  rw [Buffer.readInt_eq, readWith, valid.peekInt_eq enough inside, ok_bind, done, ok_bind]
  rfl

/-- A read copies one byte for each of its type, but four for an `int16_t`. -/
theorem copied_eq (type : IntType) (other : type ≠ .int16) : type.copied = type.size := by
  cases type <;> first | rfl | exact absurd rfl other

/-- From a valid buffer, a read stays inside the readable bytes unless it is of an `int16_t` and
there are fewer than four of them. -/
theorem Valid.readsInside_iff (valid : b.Valid) (enough : type.size ≤ b.readableBytes) :
    b.ReadsInside type ↔ (type = .int16 → 4 ≤ b.readableBytes) := by
  have distance := valid.readableBytes_eq
  have writer := valid.writer_le
  have reader := valid.reader_le
  constructor
  · rintro ⟨cells, -, -⟩ rfl
    have last := cells (b.readerIndex + 3) (List.mem_range'_1.mpr (by
      show b.readerIndex ≤ b.readerIndex + 3 ∧ b.readerIndex + 3 < b.readerIndex + 4
      omega))
    omega
  · intro four
    have copy : b.readerIndex + type.copied ≤ b.writerIndex := by
      by_cases short : type = .int16
      · have copies : type.copied = 4 := by
          rw [short]
          rfl
        have some := four short
        omega
      · rw [copied_eq type short]
        omega
    have inside := copy.trans writer
    obtain ⟨after, done, -⟩ := valid.readInt_eq enough inside
    refine ⟨fun cell member => ?_, valid.peekInt_eq enough inside, after, done⟩
    obtain ⟨first, last⟩ := List.mem_range'_1.mp member
    omega

/-- `readv` delivers no more than it was offered. -/
def Delivered (b : Buffer) : BufferCall → Prop
  | .readFd (.ok data) => data.length ≤ b.readvOffer
  | _ => True

/-- No size that a call asks for wraps around. -/
def Unwrapped (b : Buffer) : BufferCall → Prop
  | .ensureWritableBytes len => max kCheapPrepend b.writerIndex + len.toNat < 2 ^ 64
  | .shrink reserve => kCheapPrepend + sizeAdd b.readableBytes reserve.toNat < 2 ^ 64
  | _ => True

/-- A call of a public operation that returns. -/
def Called (before : Buffer) (call : BufferCall) (after : Buffer) : Prop :=
  (∃ reply, before.exec call = .ok (after, reply)) ∧ before.Delivered call

/-- An operation that only changes the buffer, run as a call. -/
theorem of_call {operation : Except Fault Buffer} {after : Buffer} {reply : Reply}
    (done : (operation >>= fun after => pure (after, Reply.none)) = .ok (after, reply)) :
    operation = .ok after := by
  obtain ⟨result, ran, same⟩ := bind_eq_ok.mp done
  cases same
  exact ran

/-- An operation that returns has passed its first assertion. -/
theorem asserted {α : Type} {condition : Bool} {expression : String} {rest : Unit → Except Fault α}
    {result : α} (done : (ensure condition expression >>= rest) = .ok result) :
    condition = true := by
  obtain ⟨_, passed, -⟩ := bind_eq_ok.mp done
  exact ensure_eq_ok.mp passed

/-- `shrink` leaves a valid buffer when it returns. -/
theorem shrink_valid {reserve : Nat} {after : Buffer}
    (fits : kCheapPrepend + sizeAdd b.readableBytes reserve < 2 ^ 64)
    (done : b.shrink reserve = .ok after) : after.Valid := by
  obtain ⟨fresh, made, rest⟩ := bind_eq_ok.mp done
  obtain ⟨space, grown, appended⟩ := bind_eq_ok.mp rest
  have initial : kCheapPrepend + kInitialSize < 2 ^ 64 := by decide
  obtain ⟨freshValid, -, -, writer, -⟩ := (new_meets kInitialSize initial).of_ok made
  have room : max kCheapPrepend fresh.writerIndex + sizeAdd b.readableBytes reserve < 2 ^ 64 := by
    rw [writer, Nat.max_self]
    exact fits
  obtain ⟨spaceValid, -⟩ := (ensureWritableBytes_meets freshValid room).of_ok grown
  exact (append_ok spaceValid appended).2.1

/-- Bytes written at the end were in the writable part. -/
theorem Valid.room_of_writeAtEnd (valid : b.Valid) {data : List UInt8} {after : Buffer}
    (done : b.writeAtEnd data = .ok after) : data.length ≤ b.writableBytes := by
  obtain ⟨cells, stored, -⟩ := bind_eq_ok.mp done
  have inside : b.writerIndex + data.length ≤ b.buffers.length := by
    by_contra beyond
    rw [store, if_neg beyond] at stored
    contradiction
  rw [valid.writableBytes_eq]
  omega

/-- A call within its precondition leaves a valid buffer. -/
theorem valid_of_allowed {call : BufferCall} {after : Buffer} {reply : Reply}
    (done : b.exec call = .ok (after, reply)) (valid : b.Valid) (allowed : b.Allowed call)
    (representable : b.Representable call) : after.Valid :=
  ((exec_refines valid call allowed representable).of_ok done).1

/-- A call that returns leaves a valid buffer, unless its size wrapped around. -/
theorem Called.valid {call : BufferCall} {after : Buffer} (called : Called b call after)
    (valid : b.Valid) (unwrapped : b.Unwrapped call) : after.Valid := by
  obtain ⟨⟨reply, done⟩, delivered⟩ := called
  cases call with
  | append data => exact (append_ok valid (of_call done)).2.1
  | appendString text => exact (append_ok valid (of_call done)).2.1
  | prepend data =>
    have room := of_decide_eq_true (asserted (of_call done))
    exact valid_of_allowed done valid room trivial
  | retrieve len =>
    have enough := of_decide_eq_true (asserted (of_call done))
    exact valid_of_allowed done valid enough trivial
  | retrieveUntil stop =>
    have first := of_decide_eq_true (asserted (of_call done))
    obtain ⟨_, -, rest⟩ := bind_eq_ok.mp (of_call done)
    have last := of_decide_eq_true (asserted rest)
    exact valid_of_allowed done valid ⟨first, last⟩ trivial
  | retrieveAll => exact valid_of_allowed done valid trivial trivial
  | retrieveAsString len =>
    obtain ⟨_, ran, -⟩ := bind_eq_ok.mp done
    have enough := of_decide_eq_true (asserted ran)
    exact valid_of_allowed done valid enough trivial
  | unwrite len =>
    have enough := of_decide_eq_true (asserted (of_call done))
    exact valid_of_allowed done valid enough trivial
  | ensureWritableBytes len => exact valid_of_allowed done valid trivial unwrapped
  | hasWritten data =>
    obtain ⟨_, written, -⟩ := bind_eq_ok.mp (of_call done)
    exact valid_of_allowed done valid (valid.room_of_writeAtEnd written) trivial
  | shrink reserve => exact shrink_valid unwrapped (of_call done)
  | readFd received =>
    cases received with
    | ok data => exact valid_of_allowed done valid delivered trivial
    | error errno => exact valid_of_allowed done valid trivial trivial

/-- In every state that calls of the public operations lead to, none of whose sizes wrapped around,
a read of an integer of which there are enough bytes stays inside the readable bytes and returns
the integer of the first ones, unless it is of an `int16_t` and there are fewer than four bytes. -/
theorem readsInside_of_run {initialSize : UInt64} {first : Buffer} {calls : List BufferCall}
    (made : Buffer.new initialSize.toNat = .ok first)
    (fits : kCheapPrepend + initialSize.toNat < 2 ^ 64)
    (run : Run (Guarded Called Unwrapped) first calls b) (type : IntType)
    (enough : type.size ≤ b.readableBytes) :
    b.ReadsInside type ↔ (type = .int16 → 4 ≤ b.readableBytes) := by
  have begins : first.Valid := ((new_meets _ fits).of_ok made).1
  have valid : b.Valid := run.invariant begins fun before call after valid taken =>
    taken.1.valid valid taken.2
  exact valid.readsInside_iff enough

/-- Four bytes in a buffer that has room for no more: an `int16_t` and an `int32_t` are read from
inside. -/
theorem readsInside_of_run_four :
    (Buffer.mk [0, 0, 0, 0, 0, 0, 0, 0, 72, 84, 84, 80] 8 12).ReadsInside .int16 := by
  have run : Run (Guarded Called Unwrapped) (Buffer.mk (List.replicate 12 0) 8 8)
      [.append [72, 84, 84, 80]] (Buffer.mk [0, 0, 0, 0, 0, 0, 0, 0, 72, 84, 84, 80] 8 12) :=
    .cons ⟨⟨⟨.none, rfl⟩, trivial⟩, trivial⟩ (.nil _)
  exact (readsInside_of_run (Buffer.new_eq (by decide) : Buffer.new (4 : UInt64).toNat = _)
    (by decide) run .int16 (by decide)).mpr fun _ => by decide

/-- Two bytes in a buffer that has room for no more: `peekInt16()` copies two cells behind the
vector. In a buffer with room for four it returns the right number, but it still copies two cells
behind the readable bytes. -/
theorem readsInside_fails_for_two_bytes :
    (∃ first b : Buffer, Buffer.new 2 = .ok first ∧
      Run (Guarded Called Unwrapped) first [.append [1, 2]] b ∧
      IntType.int16.size ≤ b.readableBytes ∧ b.peekInt16 = .error .outOfRange ∧
      ¬b.ReadsInside .int16) ∧
    ∃ first b : Buffer, Buffer.new 4 = .ok first ∧
      Run (Guarded Called Unwrapped) first [.append [1, 2]] b ∧
      IntType.int16.size ≤ b.readableBytes ∧ b.peekInt16 = .ok 258 ∧ ¬b.ReadsInside .int16 := by
  constructor
  · refine ⟨_, Buffer.mk [0, 0, 0, 0, 0, 0, 0, 0, 1, 2] 8 10, Buffer.new_eq (by decide),
      .cons ⟨⟨⟨.none, rfl⟩, trivial⟩, trivial⟩ (.nil _), by decide, rfl, ?_⟩
    intro inside
    cases inside.peek
  · refine ⟨_, Buffer.mk [0, 0, 0, 0, 0, 0, 0, 0, 1, 2, 0, 0] 8 10, Buffer.new_eq (by decide),
      .cons ⟨⟨⟨.none, rfl⟩, trivial⟩, trivial⟩ (.nil _), by decide, by decide, ?_⟩
    intro inside
    exact absurd (inside.cells 10 (by decide)).2.1 (by decide)

end Buffer

end Muduo
