import Muduo.Net.Buffer

/-!
# What the operations of `Buffer` do to the readable bytes

`Buffer.Valid` is the order of the two indexes and the size of the vector. For every operation one
theorem says, from a valid buffer, that the result is valid and which bytes are readable after it.
An operation that grows the vector may stop with `std::length_error`, and then the vector would
have had to exceed `maxSize`.

The size computed for a larger vector can wrap around: `fits` excludes this below, and
`ensureWritableBytes_wrapped` says what happens otherwise.
-/

namespace Muduo

open Storage Outcome

/-- The only stop left: a vector of `needed` bytes exceeds `max_size()`. -/
def Exhausted (needed : Nat) (fault : Fault) : Prop := fault = .lengthError ∧ maxSize < needed

namespace Buffer

/-- The indexes are ordered and inside the vector, whose first bytes are for `prepend`. -/
structure Valid (b : Buffer) : Prop where
  /-- The readable bytes begin before they end. -/
  reader_le : b.readerIndex ≤ b.writerIndex
  /-- The readable bytes end inside the vector. -/
  writer_le : b.writerIndex ≤ b.buffers.length
  /-- The vector is an object. -/
  size_le : b.buffers.length ≤ maxSize
  /-- Both indexes may be reset to `kCheapPrepend`. -/
  cheap : kCheapPrepend ≤ b.buffers.length

variable {b : Buffer}

namespace Valid

/-- No index reaches half of the address space. -/
theorem size_lt (valid : b.Valid) : b.buffers.length < 2 ^ 63 := by
  have bound := valid.size_le
  rw [maxSize] at bound
  omega

/-- `readableBytes()` is the distance of the indexes. -/
theorem readableBytes_eq (valid : b.Valid) :
    b.readableBytes = b.writerIndex - b.readerIndex :=
  sizeSub_of_le valid.reader_le (by have := valid.size_lt; have := valid.writer_le; omega)

/-- `writableBytes()` is the rest of the vector. -/
theorem writableBytes_eq (valid : b.Valid) :
    b.writableBytes = b.buffers.length - b.writerIndex :=
  sizeSub_of_le valid.writer_le (by have := valid.size_lt; omega)

/-- `readableBytes()` counts the readable bytes. -/
theorem length_readable (valid : b.Valid) : b.readable.length = b.readableBytes := by
  rw [readable, length_window _ valid.writer_le, valid.readableBytes_eq]

/-- The readable bytes are an object. -/
theorem readable_le (valid : b.Valid) : b.readable.length ≤ maxSize := by
  have length := valid.length_readable
  have distance := valid.readableBytes_eq
  have inside := valid.writer_le
  have size := valid.size_le
  omega

end Valid

/-- Reading from `peek()` on, within the readable bytes, reads their front. -/
theorem Valid.take_peek (valid : b.Valid) {len : Nat} (enough : len ≤ b.readableBytes) :
    (b.buffers.drop b.readerIndex).take len = b.readable.take len := by
  have bound := valid.readableBytes_eq
  rw [readable, window, List.drop_take, List.take_take, Nat.min_eq_left (by omega)]

/-- A new buffer whose vector can be that large. -/
theorem new_eq {initialSize : Nat} (small : kCheapPrepend + initialSize ≤ maxSize) :
    Buffer.new initialSize =
      .ok ⟨List.replicate (kCheapPrepend + initialSize) 0, kCheapPrepend, kCheapPrepend⟩ := by
  have limit : maxSize = 2 ^ 63 - 1 := rfl
  have size : sizeAdd kCheapPrepend initialSize = kCheapPrepend + initialSize :=
    sizeAdd_of_lt (by omega)
  have writable : writableBytes ⟨List.replicate (kCheapPrepend + initialSize) 0,
      kCheapPrepend, kCheapPrepend⟩ = initialSize := by
    simp only [writableBytes, List.length_replicate]
    rw [sizeSub_of_le (by omega) (by omega)]
    omega
  have read : readableBytes ⟨List.replicate (kCheapPrepend + initialSize) 0,
      kCheapPrepend, kCheapPrepend⟩ = 0 := by
    simp only [readableBytes]
    rw [sizeSub_of_le (Nat.le_refl _) (by omega), Nat.sub_self]
  rw [Buffer.new, vectorOf, size, if_pos small, ok_bind]
  dsimp only
  rw [writable, read]
  simp only [BEq.rfl, ensure_true, ok_bind, prependableBytes, pure_eq_ok]

/-- A new buffer of any size that does not wrap is valid and empty. -/
theorem new_meets (initialSize : Nat) (fits : kCheapPrepend + initialSize < 2 ^ 64) :
    Meets (Buffer.new initialSize)
      (fun made => made.Valid ∧ made.readable = [] ∧ made.readerIndex = kCheapPrepend ∧
        made.writerIndex = kCheapPrepend ∧ made.buffers.length = kCheapPrepend + initialSize)
      (Exhausted (kCheapPrepend + initialSize)) := by
  by_cases small : kCheapPrepend + initialSize ≤ maxSize
  · rw [new_eq small, meets_ok]
    refine ⟨?_, window_self _ _, rfl, rfl, List.length_replicate⟩
    constructor <;> simp [small]
  · rw [Buffer.new, sizeAdd_of_lt fits, vectorOf, if_neg small, error_bind, meets_error]
    exact ⟨rfl, by omega⟩

/-- A new buffer of the size it has by default. -/
theorem new_kInitialSize : ∃ buf, Buffer.new kInitialSize = .ok buf ∧ buf.Valid ∧
    buf.readable = [] ∧ buf.readerIndex = kCheapPrepend ∧ buf.writerIndex = kCheapPrepend := by
  obtain ⟨buf, made, valid, empty, reader, writer, -⟩ | ⟨fault, -, -, needed⟩ :=
    (new_meets kInitialSize (by decide)).split
  · exact ⟨buf, made, valid, empty, reader, writer⟩
  · exact absurd needed (by decide)

/-- A constructor whose size wraps around returns a buffer with its indexes outside the vector. -/
theorem new_wrapped {initialSize : Nat} (wraps : 2 ^ 64 ≤ kCheapPrepend + initialSize)
    (word : initialSize < 2 ^ 64) : ∃ made, Buffer.new initialSize = .ok made ∧ ¬made.Valid := by
  have eight : kCheapPrepend = 8 := rfl
  have limit : maxSize = 2 ^ 63 - 1 := rfl
  have size : sizeAdd kCheapPrepend initialSize = kCheapPrepend + initialSize - 2 ^ 64 := by
    rw [sizeAdd]
    omega
  have writable : writableBytes ⟨List.replicate (sizeAdd kCheapPrepend initialSize) 0,
      kCheapPrepend, kCheapPrepend⟩ = initialSize := by
    simp only [writableBytes, List.length_replicate, sizeSub]
    omega
  have read : readableBytes ⟨List.replicate (sizeAdd kCheapPrepend initialSize) 0,
      kCheapPrepend, kCheapPrepend⟩ = 0 := by
    simp only [readableBytes, sizeSub]
    omega
  refine ⟨⟨List.replicate (sizeAdd kCheapPrepend initialSize) 0, kCheapPrepend, kCheapPrepend⟩,
    ?_, fun valid => ?_⟩
  · rw [Buffer.new, vectorOf, if_pos (by omega), ok_bind]
    dsimp only
    rw [writable, read]
    simp only [BEq.rfl, ensure_true, ok_bind, prependableBytes, pure_eq_ok]
  · have inside := valid.cheap
    rw [List.length_replicate] at inside
    omega

/-- `retrieveAll` empties a valid buffer. -/
theorem retrieveAll_valid (valid : b.Valid) : b.retrieveAll.Valid ∧ b.retrieveAll.readable = [] :=
  ⟨⟨Nat.le_refl _, valid.cheap, valid.size_le, valid.cheap⟩, window_self _ _⟩

/-- `retrieve` within its precondition drops bytes at the front. -/
theorem retrieve_eq (valid : b.Valid) {len : Nat} (enough : len ≤ b.readableBytes) :
    ∃ after, b.retrieve len = .ok after ∧ after.Valid ∧ after.readable = b.readable.drop len := by
  have readable := valid.readableBytes_eq
  have length := valid.length_readable
  have size := valid.size_lt
  have inside := valid.writer_le
  have ordered := valid.reader_le
  simp only [retrieve, enough, decide_true, ensure_true, ok_bind]
  by_cases part : len < b.readableBytes
  · refine ⟨⟨b.buffers, b.readerIndex + len, b.writerIndex⟩, ?_,
      ⟨?_, inside, valid.size_le, valid.cheap⟩, window_drop _ _ _ _⟩
    · rw [if_pos part, sizeAdd_of_lt (by omega), pure_eq_ok]
    · change b.readerIndex + len ≤ b.writerIndex
      omega
  · refine ⟨b.retrieveAll, by rw [if_neg part, pure_eq_ok], (retrieveAll_valid valid).1, ?_⟩
    rw [(retrieveAll_valid valid).2, List.drop_of_length_le (by omega)]

/-- `retrieveUntil` within its precondition drops the bytes before its pointer. -/
theorem retrieveUntil_eq (valid : b.Valid) {stop : Nat} (after : b.readerIndex ≤ stop)
    (inside : stop ≤ b.writerIndex) :
    ∃ result, b.retrieveUntil stop = .ok result ∧ result.Valid ∧
      result.readable = b.readable.drop (stop - b.readerIndex) := by
  have enough : stop - b.readerIndex ≤ b.readableBytes := by
    rw [valid.readableBytes_eq]
    omega
  obtain ⟨result, done, kept⟩ := retrieve_eq valid enough
  refine ⟨result, ?_, kept⟩
  simp only [retrieveUntil, after, inside, decide_true, ensure_true, ok_bind, done]

/-- `retrieveAsString` within its precondition returns the bytes it drops. -/
theorem retrieveAsString_eq (valid : b.Valid) {len : Nat} (enough : len ≤ b.readableBytes) :
    ∃ after, b.retrieveAsString len = .ok (after, b.readable.take len) ∧ after.Valid ∧
      after.readable = b.readable.drop len := by
  obtain ⟨after, done, kept⟩ := retrieve_eq valid enough
  have bound := valid.readableBytes_eq
  have inside := valid.writer_le
  have ordered := valid.reader_le
  refine ⟨after, ?_, kept⟩
  simp only [retrieveAsString, enough, decide_true, ensure_true, ok_bind, load, List.length_drop,
    done, valid.take_peek enough, pure_eq_ok]
  rw [if_pos (by omega)]
  rfl

/-- `unwrite` within its precondition drops bytes at the end. -/
theorem unwrite_eq (valid : b.Valid) {len : Nat} (enough : len ≤ b.readableBytes) :
    ∃ after, b.unwrite len = .ok after ∧ after.Valid ∧
      after.readable = b.readable.take (b.readable.length - len) := by
  have bound := valid.readableBytes_eq
  have length := valid.length_readable
  have inside := valid.writer_le
  have ordered := valid.reader_le
  have size := valid.size_lt
  refine ⟨⟨b.buffers, b.readerIndex, b.writerIndex - len⟩, ?_, ⟨?_, ?_, valid.size_le, valid.cheap⟩,
    ?_⟩
  · simp only [unwrite, enough, decide_true, ensure_true, ok_bind, pure_eq_ok]
    rw [sizeSub_of_le (by omega) (by omega)]
  · change b.readerIndex ≤ b.writerIndex - len
    omega
  · change b.writerIndex - len ≤ b.buffers.length
    omega
  · have stop : b.writerIndex - len = b.readerIndex + (b.readable.length - len) := by omega
    change window b.buffers b.readerIndex (b.writerIndex - len) = _
    rw [stop]
    exact window_take _ (by omega)

/-- Bytes written at the end, within the writable part, change nothing readable. -/
theorem writeAtEnd_eq (valid : b.Valid) {data : List UInt8} (room : data.length ≤ b.writableBytes) :
    b.writeAtEnd data = .ok { b with buffers := overwrite b.buffers b.writerIndex data } := by
  have writable := valid.writableBytes_eq
  have inside := valid.writer_le
  simp only [writeAtEnd, store]
  rw [if_pos (by omega)]
  rfl

/-- The readable bytes once the writer index has moved over bytes written at the end. -/
theorem written_valid (valid : b.Valid) {data : List UInt8}
    (room : data.length ≤ b.writableBytes) :
    Valid ⟨overwrite b.buffers b.writerIndex data, b.readerIndex, b.writerIndex + data.length⟩ ∧
      readable ⟨overwrite b.buffers b.writerIndex data, b.readerIndex,
        b.writerIndex + data.length⟩ = b.readable ++ data := by
  have writable := valid.writableBytes_eq
  have inside := valid.writer_le
  have ordered := valid.reader_le
  have length := length_overwrite b.buffers data b.writerIndex (by omega)
  refine ⟨⟨?_, ?_, ?_, ?_⟩, ?_⟩
  · change b.readerIndex ≤ b.writerIndex + data.length
    omega
  · change b.writerIndex + data.length ≤ (overwrite _ _ _).length
    omega
  · exact length ▸ valid.size_le
  · exact length ▸ valid.cheap
  · simp only [readable]
    rw [← window_append _ ordered (Nat.le_add_right _ _), window_overwrite_self _ inside,
      window_overwrite_before _ inside (Nat.le_refl _)]

/-- `hasWritten` after bytes were written at the end appends them. -/
theorem hasWritten_eq (valid : b.Valid) (data : List UInt8)
    (room : data.length ≤ b.writableBytes) :
    ∃ after, (b.writeAtEnd data >>= fun b => b.hasWritten data.length) = .ok after ∧
      after.Valid ∧ after.readable = b.readable ++ data := by
  have writable := valid.writableBytes_eq
  have inside := valid.writer_le
  have size := valid.size_lt
  have length := length_overwrite b.buffers data b.writerIndex (by omega)
  have same : writableBytes ⟨overwrite b.buffers b.writerIndex data, b.readerIndex,
      b.writerIndex⟩ = b.writableBytes := by
    simp only [writableBytes, length]
  refine ⟨_, ?_, written_valid valid room⟩
  rw [writeAtEnd_eq valid room, ok_bind, hasWritten, same]
  simp only [room, decide_true, ensure_true, ok_bind, pure_eq_ok]
  rw [sizeAdd_of_lt (by omega)]

/-- `prepend` within its precondition puts bytes in front. -/
theorem prepend_eq (valid : b.Valid) {data : List UInt8}
    (room : data.length ≤ b.prependableBytes) :
    ∃ after, b.prepend data = .ok after ∧ after.Valid ∧ after.readable = data ++ b.readable := by
  have ordered := valid.reader_le
  have inside := valid.writer_le
  have size := valid.size_lt
  have space : data.length ≤ b.readerIndex := room
  have stop : b.readerIndex - data.length + data.length = b.readerIndex := Nat.sub_add_cancel space
  have length := length_overwrite b.buffers data (b.readerIndex - data.length) (by omega)
  refine ⟨⟨overwrite b.buffers (b.readerIndex - data.length) data, b.readerIndex - data.length,
    b.writerIndex⟩, ?_, ⟨?_, length ▸ inside, length ▸ valid.size_le, length ▸ valid.cheap⟩, ?_⟩
  · rw [prepend, sizeSub_of_le space (by omega)]
    simp only [room, decide_true, ensure_true, ok_bind, store]
    rw [if_pos (by omega)]
    rfl
  · change b.readerIndex - data.length ≤ b.writerIndex
    omega
  · change window (overwrite _ _ _) (b.readerIndex - data.length) b.writerIndex = _
    have written := window_overwrite_self data
      (show b.readerIndex - data.length ≤ b.buffers.length by omega)
    rw [stop] at written
    rw [← window_append _ (Nat.sub_le _ _) ordered, written,
      window_overwrite_after _ (by omega) (by omega)]
    rfl

/-- A grown vector keeps the readable bytes and gains writable ones. -/
theorem grown_valid (valid : b.Valid) {len : Nat} (short : b.writableBytes < len)
    (small : b.writerIndex + len ≤ maxSize) :
    Valid { b with buffers := resize b.buffers (b.writerIndex + len) 0 } ∧
      readable { b with buffers := resize b.buffers (b.writerIndex + len) 0 } = b.readable ∧
      len ≤ writableBytes { b with buffers := resize b.buffers (b.writerIndex + len) 0 } := by
  have writable := valid.writableBytes_eq
  have inside := valid.writer_le
  have cheap := valid.cheap
  have grown : Valid { b with buffers := resize b.buffers (b.writerIndex + len) 0 } := by
    constructor
    · exact valid.reader_le
    · change b.writerIndex ≤ (resize _ _ _).length
      rw [length_resize]
      omega
    · change (resize _ _ _).length ≤ maxSize
      rw [length_resize]
      exact small
    · change kCheapPrepend ≤ (resize _ _ _).length
      rw [length_resize]
      omega
  refine ⟨grown, window_resize _ _ (Nat.le_add_right _ _) inside, ?_⟩
  rw [grown.writableBytes_eq]
  change len ≤ (resize _ _ _).length - b.writerIndex
  rw [length_resize]
  omega

/-- Readable bytes moved to the front stay the readable bytes, and the room before them becomes
writable. -/
theorem moved_valid (valid : b.Valid) (behind : kCheapPrepend < b.readerIndex) :
    Valid ⟨overwrite b.buffers kCheapPrepend b.readable, kCheapPrepend,
        kCheapPrepend + b.readableBytes⟩ ∧
      readable ⟨overwrite b.buffers kCheapPrepend b.readable, kCheapPrepend,
        kCheapPrepend + b.readableBytes⟩ = b.readable ∧
      writableBytes ⟨overwrite b.buffers kCheapPrepend b.readable, kCheapPrepend,
        kCheapPrepend + b.readableBytes⟩ =
          b.writableBytes + b.prependableBytes - kCheapPrepend := by
  have read := valid.readableBytes_eq
  have count := valid.length_readable
  have writable := valid.writableBytes_eq
  have ordered := valid.reader_le
  have inside := valid.writer_le
  have length := length_overwrite b.buffers b.readable kCheapPrepend (by omega)
  have moved : Valid ⟨overwrite b.buffers kCheapPrepend b.readable, kCheapPrepend,
      kCheapPrepend + b.readableBytes⟩ := by
    refine ⟨Nat.le_add_right _ _, ?_, length ▸ valid.size_le, length ▸ valid.cheap⟩
    change kCheapPrepend + b.readableBytes ≤ (overwrite _ _ _).length
    omega
  refine ⟨moved, ?_, ?_⟩
  · change window _ kCheapPrepend (kCheapPrepend + b.readableBytes) = _
    rw [← count]
    exact window_overwrite_self _ valid.cheap
  · rw [moved.writableBytes_eq, prependableBytes]
    change (overwrite _ _ _).length - (kCheapPrepend + b.readableBytes) = _
    omega

/-- `makeSpace` makes room for the bytes asked for and keeps the readable ones. In particular its
assertion `kCheapPrepend < m_readerIndex` holds. -/
theorem makeSpace_meets (valid : b.Valid) {len : Nat} (short : b.writableBytes < len)
    (fits : max kCheapPrepend b.writerIndex + len < 2 ^ 64) :
    Meets (b.makeSpace len)
      (fun after => after.Valid ∧ after.readable = b.readable ∧ len ≤ after.writableBytes ∧
        after.writerIndex ≤ b.writerIndex)
      (Exhausted (b.writerIndex + len)) := by
  have writable := valid.writableBytes_eq
  have read := valid.readableBytes_eq
  have count := valid.length_readable
  have ordered := valid.reader_le
  have inside := valid.writer_le
  have size := valid.size_lt
  rw [makeSpace, sizeAdd_of_lt (by rw [prependableBytes]; omega), sizeAdd_of_lt (by omega),
    sizeAdd_of_lt (by omega)]
  by_cases grow : b.writableBytes + b.prependableBytes < len + kCheapPrepend
  · rw [if_pos grow, vectorResize]
    by_cases small : b.writerIndex + len ≤ maxSize
    · rw [if_pos small, ok_bind, pure_eq_ok, meets_ok]
      obtain ⟨grown, kept, room⟩ := grown_valid valid short small
      exact ⟨grown, kept, room, Nat.le_refl _⟩
    · rw [if_neg small, error_bind, meets_error]
      exact ⟨rfl, by omega⟩
  · have behind : kCheapPrepend < b.readerIndex := by
      rw [prependableBytes] at grow
      omega
    obtain ⟨moved, kept, room⟩ := moved_valid valid behind
    have again := moved.readableBytes_eq
    dsimp only at again
    rw [Nat.add_sub_cancel_left] at again
    rw [if_neg grow, store, if_pos (by omega)]
    simp only [behind, decide_true, ensure_true, ok_bind]
    rw [sizeAdd_of_lt (by omega), again]
    simp only [BEq.rfl, ensure_true, ok_bind, pure_eq_ok, meets_ok]
    exact ⟨moved, kept, by rw [room]; omega, by omega⟩

/-- `ensureWritableBytes` leaves room for the bytes asked for. -/
theorem ensureWritableBytes_meets (valid : b.Valid) {len : Nat}
    (fits : max kCheapPrepend b.writerIndex + len < 2 ^ 64) :
    Meets (b.ensureWritableBytes len)
      (fun after => after.Valid ∧ after.readable = b.readable ∧ len ≤ after.writableBytes ∧
        after.writerIndex ≤ b.writerIndex)
      (Exhausted (b.writerIndex + len)) := by
  have space : Meets (if b.writableBytes < len then b.makeSpace len else .ok b)
      (fun after => after.Valid ∧ after.readable = b.readable ∧ len ≤ after.writableBytes ∧
        after.writerIndex ≤ b.writerIndex)
      (Exhausted (b.writerIndex + len)) := by
    by_cases short : b.writableBytes < len
    · rw [if_pos short]
      exact makeSpace_meets valid short fits
    · rw [if_neg short, meets_ok]
      exact ⟨valid, rfl, by omega, Nat.le_refl _⟩
  rw [ensureWritableBytes]
  refine space.bind fun after made => ?_
  rw [show decide (len ≤ after.writableBytes) = true from decide_eq_true made.2.2.1, ensure_true,
    ok_bind, pure_eq_ok, meets_ok]
  exact made

/-- Where the requested size wraps around, `ensureWritableBytes` fails one of its assertions or
cuts the vector below its writer index. -/
theorem ensureWritableBytes_wrapped (valid : b.Valid) {len : Nat}
    (wraps : 2 ^ 64 ≤ max kCheapPrepend b.writerIndex + len) (word : len < 2 ^ 64) :
    Meets (b.ensureWritableBytes len) (fun after => after.buffers.length < after.writerIndex)
      (fun fault => ∃ expression, fault = .assertion expression) := by
  have writable := valid.writableBytes_eq
  have read := valid.readableBytes_eq
  have count := valid.length_readable
  have ordered := valid.reader_le
  have inside := valid.writer_le
  have size := valid.size_lt
  have cheap := valid.cheap
  have sum : sizeAdd b.writableBytes b.prependableBytes =
      b.writableBytes + b.prependableBytes :=
    sizeAdd_of_lt (by rw [prependableBytes]; omega)
  have eight : kCheapPrepend = 8 := rfl
  have bound : maxSize = 2 ^ 63 - 1 := rfl
  rw [ensureWritableBytes, if_pos (by omega), makeSpace, sum]
  by_cases grow : b.writableBytes + b.prependableBytes < sizeAdd len kCheapPrepend
  · have cut : sizeAdd b.writerIndex len < b.writerIndex := by
      rw [prependableBytes, sizeAdd] at grow
      rw [sizeAdd]
      omega
    rw [if_pos grow, vectorResize, if_pos (by omega), ok_bind, pure_eq_ok, ok_bind]
    rw [ensure]
    split
    · rw [ok_bind, pure_eq_ok, meets_ok]
      change (resize _ _ _).length < b.writerIndex
      rwa [length_resize]
    · rw [error_bind, meets_error]
      exact ⟨_, rfl⟩
  · rw [if_neg grow]
    by_cases behind : kCheapPrepend < b.readerIndex
    · obtain ⟨moved, _, room⟩ := moved_valid valid behind
      have again := moved.readableBytes_eq
      dsimp only at again
      rw [Nat.add_sub_cancel_left] at again
      have full : ¬len ≤ b.writableBytes + b.prependableBytes - kCheapPrepend := by
        rw [prependableBytes]
        omega
      rw [store, if_pos (by omega)]
      simp only [behind, decide_true, ensure_true, ok_bind]
      rw [sizeAdd_of_lt (by omega), again]
      simp only [BEq.rfl, ensure_true, ok_bind, pure_eq_ok, room, full, decide_false,
        ensure_false, error_bind, meets_error]
      exact ⟨_, rfl⟩
    · simp only [behind, decide_false, ensure_false, error_bind, meets_error]
      exact ⟨_, rfl⟩

/-- On an empty buffer that was never advanced, a request that wraps around fails the assertion
of `makeSpace`: there is nothing to move to the front. -/
theorem ensureWritableBytes_reset (valid : b.Valid) (reader : b.readerIndex = kCheapPrepend)
    (writer : b.writerIndex = kCheapPrepend) {len : Nat} (wraps : 2 ^ 64 ≤ kCheapPrepend + len)
    (word : len < 2 ^ 64) :
    b.ensureWritableBytes len = .error (.assertion "kCheapPrepend < m_readerIndex") := by
  have writable := valid.writableBytes_eq
  have size := valid.size_lt
  have cheap := valid.cheap
  have eight : kCheapPrepend = 8 := rfl
  have sum : sizeAdd b.writableBytes b.prependableBytes =
      b.writableBytes + b.prependableBytes :=
    sizeAdd_of_lt (by rw [prependableBytes]; omega)
  have kept : ¬b.writableBytes + b.prependableBytes < sizeAdd len kCheapPrepend := by
    rw [prependableBytes, sizeAdd]
    omega
  have nothing : ¬kCheapPrepend < b.readerIndex := by omega
  rw [ensureWritableBytes, if_pos (by omega), makeSpace, sum, if_neg kept]
  simp only [nothing, decide_false, ensure_false, error_bind]

/-- `append` puts bytes at the end. -/
theorem append_meets (valid : b.Valid) {data : List UInt8} {len : Nat} (count : len ≤ data.length)
    (fits : max kCheapPrepend b.writerIndex + len < 2 ^ 64) :
    Meets (b.append data len)
      (fun after => after.Valid ∧ after.readable = b.readable ++ data.take len)
      (Exhausted (b.writerIndex + len)) := by
  refine (ensureWritableBytes_meets valid fits).bind fun space ⟨spaceValid, kept, room, _⟩ => ?_
  have length : (data.take len).length = len := by simp [count]
  obtain ⟨after, done, afterValid, appended⟩ :=
    hasWritten_eq spaceValid (data.take len) (by rw [length]; exact room)
  rw [length] at done
  rw [load, if_pos count, ok_bind, done, meets_ok]
  exact ⟨afterValid, by rw [appended, kept]⟩

/-- An `append` that returns has put its bytes at the end, whatever their number. -/
theorem append_ok (valid : b.Valid) {data : List UInt8} {len : Nat} {after : Buffer}
    (done : b.append data len = .ok after) :
    len ≤ data.length ∧ after.Valid ∧ after.readable = b.readable ++ data.take len := by
  obtain ⟨space, spaced, rest⟩ := bind_eq_ok.mp done
  obtain ⟨bytes, loaded, rest⟩ := bind_eq_ok.mp rest
  have count : len ≤ data.length := by
    by_contra beyond
    rw [load, if_neg beyond] at loaded
    contradiction
  refine ⟨count, ?_⟩
  by_cases fits : max kCheapPrepend b.writerIndex + len < 2 ^ 64
  · exact (append_meets valid count fits).of_ok done
  · exfalso
    rw [load, if_pos count] at loaded
    obtain rfl : data.take len = bytes := Except.ok.inj loaded
    obtain ⟨stored, written, _⟩ := bind_eq_ok.mp rest
    obtain ⟨cells, fitted, _⟩ := bind_eq_ok.mp written
    have inside : space.writerIndex + (data.take len).length ≤ space.buffers.length := by
      by_contra beyond
      rw [store, if_neg beyond] at fitted
      contradiction
    by_cases word : len < 2 ^ 64
    · have cut := (ensureWritableBytes_wrapped valid (by omega) word).of_ok spaced
      omega
    · obtain ⟨_, _, asserted⟩ := bind_eq_ok.mp spaced
      obtain ⟨_, room, same⟩ := bind_eq_ok.mp asserted
      obtain rfl := Except.ok.inj same
      have room := of_decide_eq_true (ensure_eq_ok.mp room)
      rw [writableBytes, sizeSub] at room
      omega

/-- Nothing is moved to the front of a buffer that was never advanced. -/
theorem append_reader {data : List UInt8} {len : Nat} {after : Buffer}
    (start : b.readerIndex = kCheapPrepend) (done : b.append data len = .ok after) :
    after.readerIndex = kCheapPrepend := by
  obtain ⟨space, spaced, rest⟩ := bind_eq_ok.mp done
  obtain ⟨bytes, -, rest⟩ := bind_eq_ok.mp rest
  obtain ⟨stored, written, last⟩ := bind_eq_ok.mp rest
  obtain ⟨cells, -, same⟩ := bind_eq_ok.mp written
  obtain rfl := Except.ok.inj same
  obtain ⟨-, -, same⟩ := bind_eq_ok.mp last
  obtain rfl := Except.ok.inj same
  obtain ⟨made, making, asserted⟩ := bind_eq_ok.mp spaced
  obtain ⟨-, -, same⟩ := bind_eq_ok.mp asserted
  obtain rfl := Except.ok.inj same
  change made.readerIndex = kCheapPrepend
  split at making
  · rw [makeSpace] at making
    split at making
    · obtain ⟨cells, -, same⟩ := bind_eq_ok.mp making
      obtain rfl := Except.ok.inj same
      exact start
    · obtain ⟨_, moves, _⟩ := bind_eq_ok.mp making
      have behind := of_decide_eq_true (ensure_eq_ok.mp moves)
      omega
  · obtain rfl := Except.ok.inj making
    exact start

/-- An `append` moves the writer index by the number of its bytes at most. -/
theorem append_writer_le (valid : b.Valid) {data : List UInt8} {len : Nat} {after : Buffer}
    (fits : max kCheapPrepend b.writerIndex + len < 2 ^ 64)
    (done : b.append data len = .ok after) : after.writerIndex ≤ b.writerIndex + len := by
  obtain ⟨space, spaced, rest⟩ := bind_eq_ok.mp done
  obtain ⟨bytes, -, rest⟩ := bind_eq_ok.mp rest
  obtain ⟨written, wrote, rest⟩ := bind_eq_ok.mp rest
  obtain ⟨cells, -, stored⟩ := bind_eq_ok.mp wrote
  obtain ⟨-, -, moved⟩ := bind_eq_ok.mp rest
  cases stored
  cases moved
  obtain ⟨-, -, -, before⟩ := (ensureWritableBytes_meets valid fits).of_ok spaced
  exact (Nat.mod_le _ _).trans (Nat.add_le_add_right before len)

/-- An `append` returns when the vector can be that large. -/
theorem append_of_room (valid : b.Valid) {data : List UInt8}
    (room : b.writerIndex + data.length ≤ maxSize) :
    ∃ after, b.append data data.length = .ok after ∧ after.Valid ∧
      after.readable = b.readable ++ data ∧
      after.writerIndex ≤ b.writerIndex + data.length := by
  have eight : kCheapPrepend = 8 := rfl
  have limit : maxSize = 2 ^ 63 - 1 := rfl
  have fits : max kCheapPrepend b.writerIndex + data.length < 2 ^ 64 := by omega
  obtain ⟨after, done, kept, text⟩ | ⟨fault, -, -, needed⟩ :=
    (append_meets valid (Nat.le_refl data.length) fits).split
  · rw [List.take_length] at text
    exact ⟨after, done, kept, text, append_writer_le valid fits done⟩
  · omega

/-- A `retrieveUntil` moves the end of the readable bytes only to the front. -/
theorem retrieveUntil_writer {stop : Nat} {after : Buffer}
    (done : b.retrieveUntil stop = .ok after) :
    after.writerIndex ≤ max kCheapPrepend b.writerIndex := by
  obtain ⟨_, _, rest⟩ := bind_eq_ok.mp done
  obtain ⟨_, _, rest⟩ := bind_eq_ok.mp rest
  obtain ⟨_, _, rest⟩ := bind_eq_ok.mp rest
  split at rest
  · obtain rfl := Except.ok.inj rest
    exact Nat.le_max_right _ _
  · obtain rfl := Except.ok.inj rest
    exact Nat.le_max_left _ _

/-- `append` of a piece of text shorter than `2^31` bytes puts the whole text at the end. -/
theorem appendPiece_meets (valid : b.Valid) {text : List UInt8} (short : text.length < 2 ^ 31) :
    Meets (b.appendPiece (.ofString text))
      (fun after => after.Valid ∧ after.readable = b.readable ++ text)
      (Exhausted (b.writerIndex + text.length)) := by
  have size := valid.size_lt
  have inside := valid.writer_le
  have eight : kCheapPrepend = 8 := rfl
  have met := append_meets valid (Nat.le_refl text.length) (by omega)
  rw [List.take_length] at met
  rw [appendPiece, StringPiece.ofString, sizeOfInt_intOfSize short]
  exact met

/-- `shrink` keeps the readable bytes. -/
theorem shrink_meets (valid : b.Valid) {reserve : Nat} (short : b.readableBytes < 2 ^ 31)
    (fits : kCheapPrepend + sizeAdd b.readableBytes reserve < 2 ^ 64) :
    Meets (b.shrink reserve) (fun after => after.Valid ∧ after.readable = b.readable)
      (Exhausted (kCheapPrepend + sizeAdd b.readableBytes reserve)) := by
  have eight : kCheapPrepend = 8 := rfl
  have initial : kInitialSize = 1024 := rfl
  have limit : maxSize = 2 ^ 63 - 1 := rfl
  have made := new_meets kInitialSize (by omega)
  have count := valid.readableBytes_eq
  have length := valid.length_readable
  have inside := valid.writer_le
  have size := valid.size_lt
  refine Meets.bind (made.mono (fun _ good => good) fun _ ⟨stopped, needed⟩ => ⟨stopped, by omega⟩)
    fun other ⟨fresh, empty, _, start, _⟩ => ?_
  have grown := ensureWritableBytes_meets fresh
    (show max kCheapPrepend other.writerIndex + sizeAdd b.readableBytes reserve < 2 ^ 64 by
      rw [start, Nat.max_self]; exact fits)
  rw [start] at grown
  refine Meets.bind grown fun space ⟨spaceValid, kept, _, before⟩ => ?_
  have spaceSize := spaceValid.size_lt
  have spaceInside := spaceValid.writer_le
  have appended := append_meets spaceValid
    (show b.readableBytes ≤ (b.buffers.drop b.readerIndex).length by
      rw [List.length_drop]; omega) (by omega)
  rw [appendPiece, toStringPiece, sizeOfInt_intOfSize short]
  refine appended.mono (fun after ⟨afterValid, text⟩ => ⟨afterValid, ?_⟩)
    fun _ ⟨stopped, needed⟩ => ⟨stopped, by omega⟩
  rw [text, kept, empty, List.nil_append, valid.take_peek (Nat.le_refl _), ← length,
    List.take_length]

/-- `readFd` puts at the end what `readv` delivered, and nothing when it failed. -/
theorem readFd_meets (valid : b.Valid) {data : List UInt8} (offered : data.length ≤ b.readvOffer) :
    Meets (b.readFd (.ok data))
      (fun result => result.1.Valid ∧ result.1.readable = b.readable ++ data ∧
        result.2 = data.length)
      (Exhausted (b.buffers.length + data.length)) := by
  have writable := valid.writableBytes_eq
  have inside := valid.writer_le
  have size := valid.size_lt
  by_cases direct : data.length ≤ b.writableBytes
  · obtain ⟨writtenValid, text⟩ := written_valid valid direct
    simp only [readFd, direct, ↓reduceIte, writeAtEnd_eq valid direct, ok_bind, pure_eq_ok,
      meets_ok]
    rw [sizeAdd_of_lt (by omega)]
    exact ⟨writtenValid, text, trivial⟩
  · have front : (data.take b.writableBytes).length = b.writableBytes := by
      rw [List.length_take]
      omega
    have back : (data.drop b.writableBytes).length = data.length - b.writableBytes := by simp
    have room : (data.take b.writableBytes).length ≤ b.writableBytes := by omega
    have extra : data.length - b.writableBytes ≤ kExtraBuf := by
      rw [readvOffer] at offered
      split at offered <;> omega
    have extraSize : kExtraBuf = 65536 := rfl
    have eight : kCheapPrepend = 8 := rfl
    obtain ⟨fullValid, text⟩ := written_valid valid room
    have full : b.writerIndex + (data.take b.writableBytes).length = b.buffers.length := by omega
    have length := length_overwrite b.buffers (data.take b.writableBytes) b.writerIndex (by omega)
    rw [full] at fullValid text
    have appended := append_meets fullValid (Nat.le_of_eq back.symm)
      (show max kCheapPrepend b.buffers.length + (data.length - b.writableBytes) < 2 ^ 64 by omega)
    simp only [readFd, direct, ↓reduceIte, writeAtEnd_eq valid room, ok_bind, length]
    refine Meets.bind (appended.mono (fun _ good => good) fun _ stop => ?_) fun after good => ?_
    · obtain ⟨stopped, needed⟩ := stop
      exact ⟨stopped, by dsimp only at needed; omega⟩
    · obtain ⟨afterValid, all⟩ := good
      rw [pure_eq_ok, meets_ok]
      refine ⟨afterValid, ?_, rfl⟩
      rw [all, text, ← back, List.take_length, List.append_assoc, List.take_append_drop]

end Buffer

end Muduo
