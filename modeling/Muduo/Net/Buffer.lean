import Muduo.Base.Machine
import Muduo.Base.Memory
import Muduo.Lib.Search

/-!
# `dc::net::Buffer`

One vector of bytes with two indexes into it:

    | prependable bytes |  readable bytes  |  writable bytes  |
    0      <=      readerIndex   <=   writerIndex    <=     size

The definitions follow `buffer.h` and `buffer.cc` line by line. Index arithmetic is that of
`size_t`, a pointer into the vector is its offset from `begin()`, and the system call `readv` is
an argument: what it delivered or its `errno`.
-/

namespace Muduo

open Storage

/-- `Buffer::kCheapPrepend`. -/
def kCheapPrepend : Nat := 8

/-- `Buffer::kInitialSize`. -/
def kInitialSize : Nat := 1024

/-- `Buffer::kCRLF`. -/
def kCRLF : List UInt8 := [13, 10]

/-- Size of the stack area `extrabuf` of `Buffer::readFd`. -/
def kExtraBuf : Nat := 65536

/-- `std::vector<char>(size)`. -/
def vectorOf (size : Nat) : Except Fault (List UInt8) :=
  if size ≤ maxSize then .ok (List.replicate size 0) else .error .lengthError

/-- `std::vector<char>::resize(size)`. -/
def vectorResize (cells : List UInt8) (size : Nat) : Except Fault (List UInt8) :=
  if size ≤ maxSize then .ok (resize cells size 0) else .error .lengthError

/-- `class Buffer`. -/
structure Buffer where
  /-- `m_buffers`. -/
  buffers : List UInt8
  /-- `m_readerIndex`. -/
  readerIndex : Nat
  /-- `m_writerIndex`. -/
  writerIndex : Nat
  deriving DecidableEq, Repr

namespace Buffer

/-- `readableBytes()`. -/
def readableBytes (b : Buffer) : Nat := sizeSub b.writerIndex b.readerIndex

/-- `writableBytes()`. -/
def writableBytes (b : Buffer) : Nat := sizeSub b.buffers.length b.writerIndex

/-- `prependableBytes()`. -/
def prependableBytes (b : Buffer) : Nat := b.readerIndex

/-- The bytes between `peek()` and `beginWrite()`. -/
def readable (b : Buffer) : List UInt8 := window b.buffers b.readerIndex b.writerIndex

/-- `Buffer(size_t initialSize)`. -/
def new (initialSize : Nat) : Except Fault Buffer := do
  let buffers ← vectorOf (sizeAdd kCheapPrepend initialSize)
  let b : Buffer := ⟨buffers, kCheapPrepend, kCheapPrepend⟩
  ensure (b.readableBytes == 0) "readableBytes() == 0"
  ensure (b.writableBytes == initialSize) "writableBytes() == initialSize"
  ensure (b.prependableBytes == kCheapPrepend) "prependableBytes() == kCheapPrepend"
  pure b

/-- `findCRLF()`, as an offset from `begin()`. -/
def findCRLF (b : Buffer) : Option Nat :=
  let crlf := b.readerIndex + Search.search kCRLF b.readable
  if crlf = b.writerIndex then none else some crlf

/-- `retrieveAll()`. -/
def retrieveAll (b : Buffer) : Buffer :=
  { b with readerIndex := kCheapPrepend, writerIndex := kCheapPrepend }

/-- `retrieve(size_t len)`. -/
def retrieve (b : Buffer) (len : Nat) : Except Fault Buffer := do
  ensure (len ≤ b.readableBytes) "len <= readableBytes()"
  if len < b.readableBytes then
    pure { b with readerIndex := sizeAdd b.readerIndex len }
  else
    pure b.retrieveAll

/-- `retrieveUntil(const char* end)`, with `end` as an offset from `begin()`. -/
def retrieveUntil (b : Buffer) (stop : Nat) : Except Fault Buffer := do
  ensure (b.readerIndex ≤ stop) "peek() <= end"
  ensure (stop ≤ b.writerIndex) "end <= beginWrite()"
  b.retrieve (stop - b.readerIndex)

/-- `retrieveAsString(size_t len)`. -/
def retrieveAsString (b : Buffer) (len : Nat) : Except Fault (Buffer × List UInt8) := do
  ensure (len ≤ b.readableBytes) "len <= readableBytes()"
  let result ← load (b.buffers.drop b.readerIndex) len
  let b ← b.retrieve len
  pure (b, result)

/-- `retrieveAllAsString()`. -/
def retrieveAllAsString (b : Buffer) : Except Fault (Buffer × List UInt8) :=
  b.retrieveAsString b.readableBytes

/-- `toStringPiece()`. -/
def toStringPiece (b : Buffer) : StringPiece :=
  ⟨b.buffers.drop b.readerIndex, intOfSize b.readableBytes⟩

/-- `makeSpace(size_t len)`: grow the vector, or move the readable bytes to the front. -/
def makeSpace (b : Buffer) (len : Nat) : Except Fault Buffer := do
  if sizeAdd b.writableBytes b.prependableBytes < sizeAdd len kCheapPrepend then
    let buffers ← vectorResize b.buffers (sizeAdd b.writerIndex len)
    pure { b with buffers }
  else
    ensure (kCheapPrepend < b.readerIndex) "kCheapPrepend < m_readerIndex"
    let readable := b.readableBytes
    let buffers ← store b.buffers kCheapPrepend b.readable
    let b : Buffer := ⟨buffers, kCheapPrepend, sizeAdd kCheapPrepend readable⟩
    ensure (readable == b.readableBytes) "readable == readableBytes()"
    pure b

/-- `ensureWritableBytes(size_t len)`. -/
def ensureWritableBytes (b : Buffer) (len : Nat) : Except Fault Buffer := do
  let b ← (if b.writableBytes < len then b.makeSpace len else .ok b)
  ensure (len ≤ b.writableBytes) "writableBytes() >= len"
  pure b

/-- `hasWritten(size_t len)`. -/
def hasWritten (b : Buffer) (len : Nat) : Except Fault Buffer := do
  ensure (len ≤ b.writableBytes) "len <= writableBytes()"
  pure { b with writerIndex := sizeAdd b.writerIndex len }

/-- Bytes that a caller copies to `beginWrite()` before it calls `hasWritten`. -/
def writeAtEnd (b : Buffer) (data : List UInt8) : Except Fault Buffer := do
  let buffers ← store b.buffers b.writerIndex data
  pure { b with buffers }

/-- `append(const char* data, size_t len)`. -/
def append (b : Buffer) (data : List UInt8) (len : Nat) : Except Fault Buffer := do
  let b ← b.ensureWritableBytes len
  let bytes ← load data len
  let b ← b.writeAtEnd bytes
  b.hasWritten len

/-- `append(const StringPiece& str)`. -/
def appendPiece (b : Buffer) (str : StringPiece) : Except Fault Buffer :=
  b.append str.data (sizeOfInt str.length)

/-- `unwrite(size_t len)`. -/
def unwrite (b : Buffer) (len : Nat) : Except Fault Buffer := do
  ensure (len ≤ b.readableBytes) "len <= readableBytes()"
  pure { b with writerIndex := sizeSub b.writerIndex len }

/-- `prepend(const void* data, size_t len)`. -/
def prepend (b : Buffer) (data : List UInt8) : Except Fault Buffer := do
  ensure (data.length ≤ b.prependableBytes) "len <= prependableBytes()"
  let readerIndex := sizeSub b.readerIndex data.length
  let buffers ← store b.buffers readerIndex data
  pure { b with buffers, readerIndex }

/-- `shrink(size_t reserve)`: the readable bytes move to a new buffer, which is swapped in. -/
def shrink (b : Buffer) (reserve : Nat) : Except Fault Buffer := do
  let other ← Buffer.new kInitialSize
  let other ← other.ensureWritableBytes (sizeAdd b.readableBytes reserve)
  other.appendPiece b.toStringPiece

/-- Total length of the areas that `readFd` offers to `readv`. -/
def readvOffer (b : Buffer) : Nat :=
  if b.writableBytes < kExtraBuf then b.writableBytes + kExtraBuf else b.writableBytes

/-- `readFd(int fd, int* savedErrno)`: `received` is what `readv` put into the areas offered, or
its `errno`. The returned number is the result of `readv`. -/
def readFd (b : Buffer) (received : Except Int (List UInt8)) : Except Fault (Buffer × Int) := do
  let writable := b.writableBytes
  match received with
  | .error _ => pure (b, -1)
  | .ok data =>
    if data.length ≤ writable then
      let b ← b.writeAtEnd data
      pure ({ b with writerIndex := sizeAdd b.writerIndex data.length }, data.length)
    else
      let b ← b.writeAtEnd (data.take writable)
      let full := { b with writerIndex := b.buffers.length }
      let b ← full.append (data.drop writable) (data.length - writable)
      pure (b, data.length)

end Buffer

end Muduo
