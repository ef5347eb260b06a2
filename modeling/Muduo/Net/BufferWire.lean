import Muduo.Net.BufferInt

/-!
# Integers on the wire

What `appendIntN` puts into a buffer is the integer in two's complement, most significant byte
first. The matching `readIntN` in the same order return the integers and leave the buffer empty,
wherever in the vector they are, as long as no read copies cells behind the vector.
-/

namespace Muduo

open Storage Outcome

/-- A value of one of the integer types. -/
structure WireInt where
  /-- Its type. -/
  type : IntType
  /-- The value. -/
  value : Int
  /-- The smallest value of the type. -/
  lower : -2 ^ (8 * type.size - 1) ≤ value
  /-- The largest value of the type. -/
  upper : value < 2 ^ (8 * type.size - 1)

namespace WireInt

/-- The value in two's complement, most significant byte first. -/
def encoding (x : WireInt) : List UInt8 := encodeInt x.type.size x.value

/-- The encodings of values, one after the other. -/
def encodings (xs : List WireInt) : List UInt8 := xs.flatMap encoding

/-- A value has as many bytes as its type. -/
theorem length_encoding (x : WireInt) : x.encoding.length = x.type.size := length_encodeInt _ _

/-- The bytes of a value have its value. -/
theorem signed_encoding (x : WireInt) : signed x.type.size (bigEndian x.encoding) = x.value := by
  obtain ⟨type, value, lower, upper⟩ := x
  refine bmod_encodeInt ?_ ?_
  · cases type <;> dsimp only [IntType.size] at lower ⊢ <;> omega
  · cases type <;> dsimp only [IntType.size] at upper ⊢ <;> omega

/-- No read of the values copies cells behind a vector of this length, where the first one is read
from the position and each next one from behind the one before. -/
def CopiesInside (length : Nat) : Nat → List WireInt → Prop
  | _, [] => True
  | position, x :: xs =>
    position + x.type.copied ≤ length ∧ CopiesInside length (position + x.type.size) xs

end WireInt

namespace Buffer

open WireInt

/-- The `appendIntN(x)` of the type of a value. -/
def appendInt (b : Buffer) (x : WireInt) : Except Fault Buffer :=
  match x.type with
  | .int8 => b.appendInt8 x.value
  | .int16 => b.appendInt16 x.value
  | .int32 => b.appendInt32 x.value
  | .int64 => b.appendInt64 x.value

/-- The `prependIntN(x)` of the type of a value. There is none for `int8_t`. -/
def prependInt (b : Buffer) (x : WireInt) : Option (Except Fault Buffer) :=
  match x.type with
  | .int8 => none
  | .int16 => some (b.prependInt16 x.value)
  | .int32 => some (b.prependInt32 x.value)
  | .int64 => some (b.prependInt64 x.value)

/-- Values appended one after the other. -/
def appendInts (b : Buffer) : List WireInt → Except Fault Buffer
  | [] => .ok b
  | x :: xs => do
    let b ← b.appendInt x
    b.appendInts xs

/-- Values of these types read one after the other. -/
def readInts (b : Buffer) : List IntType → Except Fault (Buffer × List Int)
  | [] => .ok (b, [])
  | type :: types => do
    let (b, value) ← b.readInt type
    let (b, values) ← b.readInts types
    return (b, value :: values)

variable {b : Buffer}

/-- An append puts the encoding of its value at the end. -/
theorem appendInt_eq (b : Buffer) (x : WireInt) :
    b.appendInt x = b.append x.encoding x.encoding.length := by
  rw [x.length_encoding]
  obtain ⟨type, value, lower, upper⟩ := x
  cases type with
  | int8 => rfl
  | int16 => exact congrArg (b.append · 2) (memory_byteSwap 2 _)
  | int32 => exact congrArg (b.append · 4) (memory_byteSwap 4 _)
  | int64 => exact congrArg (b.append · 8) (memory_byteSwap 8 _)

/-- A prepend puts the encoding of its value in front. -/
theorem prependInt_eq (b : Buffer) {x : WireInt} (wide : x.type ≠ .int8) :
    b.prependInt x = some (b.prepend x.encoding) := by
  obtain ⟨type, value, lower, upper⟩ := x
  cases type with
  | int8 => exact absurd rfl wide
  | int16 => exact congrArg (fun bytes => some (b.prepend bytes)) (memory_byteSwap 2 _)
  | int32 => exact congrArg (fun bytes => some (b.prepend bytes)) (memory_byteSwap 4 _)
  | int64 => exact congrArg (fun bytes => some (b.prepend bytes)) (memory_byteSwap 8 _)

/-- Values appended one after the other put their encodings at the end. -/
theorem Valid.appendInts_eq (valid : b.Valid) {xs : List WireInt}
    (room : b.writerIndex + (encodings xs).length ≤ maxSize) :
    ∃ after, b.appendInts xs = .ok after ∧ after.Valid ∧
      after.readable = b.readable ++ encodings xs := by
  induction xs generalizing b with
  | nil => exact ⟨b, rfl, valid, (List.append_nil _).symm⟩
  | cons x xs ih =>
    have split : encodings (x :: xs) = x.encoding ++ encodings xs := rfl
    rw [split, List.length_append] at room
    obtain ⟨next, first, kept, text, writer⟩ := @append_of_room b valid x.encoding (by omega)
    obtain ⟨after, rest, afterValid, all⟩ := ih kept (by omega)
    refine ⟨after, ?_, afterValid, ?_⟩
    · rw [appendInts, appendInt_eq, first, ok_bind, rest]
    · rw [all, text, split, List.append_assoc]

/-- Dropping some of the readable bytes moves the reader index. -/
theorem Valid.retrieve_part (valid : b.Valid) {len : Nat} (part : len < b.readableBytes) :
    b.retrieve len = .ok { b with readerIndex := b.readerIndex + len } := by
  have distance := valid.readableBytes_eq
  have size := valid.size_lt
  have writer := valid.writer_le
  have asserted : decide (len ≤ b.readableBytes) = true := decide_eq_true part.le
  rw [retrieve, asserted, ensure_true, ok_bind, if_pos part, sizeAdd_of_lt (by omega)]
  rfl

/-- The first readable bytes are a value. -/
theorem front_eq {x : WireInt} {rest : List UInt8} (text : b.readable = x.encoding ++ rest) :
    b.front x.type = x.value := by
  have first : b.readable.take x.type.size = x.encoding := by
    rw [text, ← x.length_encoding, List.take_left]
  rw [front, first, x.signed_encoding]

/-- A value in front of other bytes is read, and the other bytes are left. -/
theorem Valid.readInt_front (valid : b.Valid) {x : WireInt} {rest : List UInt8}
    (text : b.readable = x.encoding ++ rest)
    (inside : b.readerIndex + x.type.copied ≤ b.buffers.length) :
    ∃ after, b.readInt x.type = .ok (after, x.value) ∧ after.Valid ∧ after.readable = rest ∧
      (rest ≠ [] → after = { b with readerIndex := b.readerIndex + x.type.size }) := by
  have length := valid.length_readable
  rw [text, List.length_append, x.length_encoding] at length
  have enough : x.type.size ≤ b.readableBytes := by omega
  obtain ⟨after, done, kept, left⟩ := valid.readInt_eq enough inside
  rw [front_eq text] at done
  rw [text, ← x.length_encoding, List.drop_left] at left
  refine ⟨after, done, kept, left, fun more => ?_⟩
  have part : x.type.size < b.readableBytes := by
    have some := List.length_pos_iff.mpr more
    omega
  rw [Buffer.readInt_eq, readWith, valid.peekInt_eq enough inside, ok_bind,
    valid.retrieve_part part, ok_bind] at done
  exact (congrArg Prod.fst (Except.ok.inj done)).symm

/-- Values in the buffer are read one after the other, and nothing is left. -/
theorem Valid.readInts_eq (valid : b.Valid) {xs : List WireInt} (text : b.readable = encodings xs)
    (inside : CopiesInside b.buffers.length b.readerIndex xs) :
    ∃ after, b.readInts (xs.map (·.type)) = .ok (after, xs.map (·.value)) ∧
      after.readable = [] := by
  induction xs generalizing b with
  | nil => exact ⟨b, rfl, text⟩
  | cons x xs ih =>
    have split : encodings (x :: xs) = x.encoding ++ encodings xs := rfl
    rw [split] at text
    obtain ⟨next, first, kept, left, moved⟩ := valid.readInt_front text inside.1
    have others : CopiesInside next.buffers.length next.readerIndex xs := by
      cases xs with
      | nil => trivial
      | cons y ys =>
        have more : encodings (y :: ys) ≠ [] := by
          have some := y.length_encoding
          intro none
          have empty := List.append_eq_nil_iff.mp none
          rw [empty.1] at some
          cases type : y.type <;> rw [type] at some <;> contradiction
        rw [moved more]
        exact inside.2
    obtain ⟨after, rest, empty⟩ := ih kept left others
    refine ⟨after, ?_, empty⟩
    rw [List.map_cons, readInts, first, ok_bind]
    dsimp only
    rw [rest]
    rfl

/-- Values appended to a buffer put their encodings behind the bytes that are readable, and if there
were none, the matching reads return the values and leave nothing, wherever the bytes are in the
vector. A value that is prepended is read back and leaves the bytes that were readable. Both as long
as the vector can be that large and no read copies cells behind it. -/
theorem wire_round_trip (valid : b.Valid) :
    (∀ xs : List WireInt, b.writerIndex + (encodings xs).length ≤ maxSize →
      ∃ after, b.appendInts xs = .ok after ∧ after.readable = b.readable ++ encodings xs ∧
        (b.readable = [] → CopiesInside after.buffers.length after.readerIndex xs →
          ∃ final, after.readInts (xs.map (·.type)) = .ok (final, xs.map (·.value)) ∧
            final.readable = [])) ∧
    ∀ x : WireInt, x.type ≠ .int8 → x.type.size ≤ b.prependableBytes →
      ∃ after, b.prependInt x = some (.ok after) ∧ after.readable = x.encoding ++ b.readable ∧
        (after.readerIndex + x.type.copied ≤ after.buffers.length →
          ∃ final, after.readInt x.type = .ok (final, x.value) ∧ final.readable = b.readable) := by
  constructor
  · intro xs room
    obtain ⟨after, done, kept, text⟩ := valid.appendInts_eq room
    refine ⟨after, done, text, fun empty inside => ?_⟩
    rw [empty, List.nil_append] at text
    exact kept.readInts_eq text inside
  · intro x wide room
    obtain ⟨after, done, kept, text⟩ := prepend_eq valid (x.length_encoding.trans_le room)
    refine ⟨after, by rw [prependInt_eq b wide, done], text, fun inside => ?_⟩
    obtain ⟨final, read, -, left, -⟩ := kept.readInt_front text inside
    exact ⟨final, read, left⟩

/-- The values that the test of the repository appends. -/
def testValues : List WireInt :=
  [⟨.int8, -1, by decide, by decide⟩, ⟨.int16, -2, by decide, by decide⟩,
    ⟨.int32, -3, by decide, by decide⟩]

/-- These values in a buffer with room for eight bytes. -/
theorem wire_round_trip_test :
    (Buffer.mk (List.replicate 16 0) 8 8).appendInts testValues =
        .ok ⟨[0, 0, 0, 0, 0, 0, 0, 0, 255, 255, 254, 255, 255, 255, 253, 0], 8, 15⟩ ∧
      ∃ final, Buffer.readInts
          ⟨[0, 0, 0, 0, 0, 0, 0, 0, 255, 255, 254, 255, 255, 255, 253, 0], 8, 15⟩
          [.int8, .int16, .int32] = .ok (final, [-1, -2, -3]) ∧ final.readable = [] := by
  have valid : (Buffer.mk (List.replicate 16 0) 8 8).Valid := by
    constructor <;> decide
  have appended : (Buffer.mk (List.replicate 16 0) 8 8).appendInts testValues =
      .ok ⟨[0, 0, 0, 0, 0, 0, 0, 0, 255, 255, 254, 255, 255, 255, 253, 0], 8, 15⟩ := by decide
  obtain ⟨after, done, -, back⟩ := (wire_round_trip valid).1 testValues (by decide)
  cases appended.symm.trans done
  exact ⟨appended, back rfl ⟨by decide, by decide, by decide, trivial⟩⟩

end Buffer

end Muduo
