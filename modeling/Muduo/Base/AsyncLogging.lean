import Mathlib.Data.List.Infix
import Muduo.Lib.Run
import Muduo.Base.Fault
import Muduo.Base.Machine

/-!
# `dc::AsyncLogging`

Any number of threads append lines to `m_currentBuffer` under `m_mutex`; a full buffer goes to
`m_buffers`. The backend thread swaps all of them out under the same mutex, in exchange for its two
spare buffers, and writes them to the log file. A buffer pointer is null after it was moved from;
following a null pointer stops with `nullPointer`.

The state also keeps what the code does not: the lines in the order of their locks, and the batches
the backend has taken.
-/

open Outcome Transition

namespace Muduo

/-- `kLargeBuffer`. -/
def kLargeBuffer : Nat := 4000 * 1000

/-- `FixedBuffer<SIZE>` with the bytes from `m_data` to `m_cur`. -/
structure FixedBuffer (size : Nat) where
  /-- What was appended since the last reset. -/
  content : List UInt8
  /-- It fits into `m_data`. -/
  fits : content.length ≤ size

namespace FixedBuffer

variable {size : Nat}

/-- `FixedBuffer()`. -/
def empty : FixedBuffer size := ⟨[], Nat.zero_le size⟩

/-- `avail()`. -/
def avail (buffer : FixedBuffer size) : Nat := size - buffer.content.length

/-- `append(buf, len)`, which drops what does not leave a byte free. -/
def append (buffer : FixedBuffer size) (bytes : List UInt8) : FixedBuffer size :=
  if room : bytes.length < buffer.avail then
    ⟨buffer.content ++ bytes, by
      unfold avail at room
      rw [List.length_append]
      omega⟩
  else
    buffer

/-- `reset()`. -/
def reset (_ : FixedBuffer size) : FixedBuffer size := empty

/-- What fits is appended. -/
theorem append_content {buffer : FixedBuffer size} {bytes : List UInt8}
    (room : bytes.length < buffer.avail) :
    (buffer.append bytes).content = buffer.content ++ bytes := by
  unfold append
  rw [dif_pos room]

end FixedBuffer

/-- `BufferPtr`. -/
abbrev BufferPtr := Option (FixedBuffer kLargeBuffer)

/-- The bytes in the buffers of a `BufferVector`. -/
def content (buffers : List BufferPtr) : List UInt8 :=
  buffers.flatMap fun buffer => buffer.elim [] FixedBuffer.content

/-- The line that `snprintf` writes to `char buf[256]` for the dropped buffers. -/
def dropNotice (time : List UInt8) (dropped : Nat) : List UInt8 :=
  (bytes "Dropped log message at " ++ time ++ bytes ", " ++ bytes (toString dropped) ++
    bytes " larger buffers\n").take 255

/-- Where `threadFunc` is. -/
inductive BackendPhase
  /-- The thread is not started. -/
  | unborn
  /-- About to evaluate `is_running`. -/
  | test
  /-- About to lock `m_mutex`. -/
  | lock
  /-- In `m_cond.waitForSeconds`. -/
  | wait
  /-- About to drop the buffers of a batch that is too large. -/
  | trim
  /-- About to write the first of these buffers. -/
  | write (rest : List BufferPtr)
  /-- About to take back the two spare buffers. -/
  | recycle
  /-- About to flush. -/
  | flush
  /-- Outside the loop, about to flush a last time. -/
  | leave
  /-- The thread has ended. -/
  | ended

/-- The buffers of one swap, and the notice in place of those that are dropped. -/
structure Batch where
  /-- `buffersToWrite` after the swap. -/
  taken : List BufferPtr
  /-- The notice. -/
  notice : List UInt8

namespace Batch

/-- The batch is dropped but for its first two buffers. -/
def Dropped (batch : Batch) : Prop := 25 < batch.taken.length

instance (batch : Batch) : Decidable batch.Dropped := inferInstanceAs (Decidable (25 < _))

/-- All bytes of the batch. -/
def all (batch : Batch) : List UInt8 := content batch.taken

/-- What is written for the batch. -/
def kept (batch : Batch) : List UInt8 :=
  if batch.Dropped then batch.notice ++ content (batch.taken.take 2) else batch.all

/-- Of a dropped batch the first two buffers are written, after the notice. -/
theorem kept_of_dropped {batch : Batch} (dropped : batch.Dropped) :
    batch.kept = batch.notice ++ content (batch.taken.take 2) := if_pos dropped

/-- A batch that is not dropped is written as it is. -/
theorem kept_of_not_dropped {batch : Batch} (whole : ¬batch.Dropped) : batch.kept = batch.all :=
  if_neg whole

end Batch

/-- `class AsyncLogging` with the local variables of `threadFunc`. -/
structure AsyncLogging where
  /-- `is_running`. -/
  running : Bool
  /-- `m_currentBuffer`. -/
  currentBuffer : BufferPtr
  /-- `m_nextBuffer`. -/
  nextBuffer : BufferPtr
  /-- `m_buffers`. -/
  buffers : List BufferPtr
  /-- Where the backend is. -/
  phase : BackendPhase
  /-- `newBuffer1`. -/
  newBuffer1 : BufferPtr
  /-- `newBuffer2`. -/
  newBuffer2 : BufferPtr
  /-- `buffersToWrite`. -/
  buffersToWrite : List BufferPtr
  /-- The bytes given to `LogFile::append`. -/
  given : List UInt8
  /-- The bytes given before the last `LogFile::flush`. -/
  flushed : List UInt8
  /-- The lines appended, in the order of their locks. -/
  lines : List (List UInt8)
  /-- The batches taken and trimmed. -/
  batches : List Batch

/-- What a thread does next. -/
inductive LogAction
  /-- A thread appends a line. -/
  | append (logline : List UInt8)
  /-- `start()`. -/
  | start
  /-- `stop()` stores to `is_running`. -/
  | stop
  /-- The backend evaluates `is_running`. -/
  | test
  /-- The backend locks `m_mutex`, and waits or swaps. -/
  | lock
  /-- The wait ends, for whatever reason, and the backend swaps. -/
  | wake
  /-- The backend looks at the size of the batch, at a time with this text. -/
  | trim (time : List UInt8)
  /-- The backend writes the next buffer. -/
  | write
  /-- The backend has written all buffers. -/
  | written
  /-- The backend takes back its spare buffers. -/
  | recycle
  /-- The backend flushes. -/
  | flush

namespace AsyncLogging

/-- `AsyncLogging(basename, rollSize, flushInterval)`. -/
def new : AsyncLogging :=
  { running := false, currentBuffer := some .empty, nextBuffer := some .empty, buffers := []
    phase := .unborn, newBuffer1 := none, newBuffer2 := none, buffersToWrite := []
    given := [], flushed := [], lines := [], batches := [] }

/-- `append(logline, len)`, where the line is the `len` bytes read. -/
def append (s : AsyncLogging) (logline : List UInt8) : Except Fault AsyncLogging :=
  let s := if s.currentBuffer.isNone then
    { s with currentBuffer := s.nextBuffer, nextBuffer := none } else s
  match s.currentBuffer with
  | none => .error .nullPointer
  | some current =>
    if logline.length < current.avail then
      .ok { s with currentBuffer := some (current.append logline) }
    else
      let fresh := s.nextBuffer.getD .empty
      .ok { s with
        buffers := s.buffers ++ [some current]
        currentBuffer := some (fresh.append logline)
        nextBuffer := none }

/-- `start()` up to the loop of `threadFunc`. -/
def start (s : AsyncLogging) : AsyncLogging :=
  { s with running := true, phase := .test, newBuffer1 := some .empty, newBuffer2 := some .empty }

/-- `assert(buffer && buffer->length() == 0)`. -/
def ensureEmpty (buffer : BufferPtr) (expression : String) : Except Fault Unit :=
  ensure (buffer.elim false fun object => object.content.isEmpty) expression

/-- `while(is_running)` and the assertions at the head of the loop. -/
def test (s : AsyncLogging) : Except Fault AsyncLogging :=
  if s.running then do
    ensureEmpty s.newBuffer1 "newBuffer1 && newBuffer1->length() == 0"
    ensureEmpty s.newBuffer2 "newBuffer2 && newBuffer2->length() == 0"
    ensure s.buffersToWrite.isEmpty "buffersToWrite.empty()"
    .ok { s with phase := .lock }
  else
    .ok { s with phase := .leave }

/-- The swap under `m_mutex`. -/
def swap (s : AsyncLogging) : Except Fault AsyncLogging := do
  let swapped := { s with
    currentBuffer := s.newBuffer1
    newBuffer1 := none
    buffersToWrite := s.buffers ++ [s.currentBuffer]
    buffers := s.buffersToWrite
    nextBuffer := if s.nextBuffer.isNone then s.newBuffer2 else s.nextBuffer
    newBuffer2 := if s.nextBuffer.isNone then none else s.newBuffer2
    phase := .trim }
  ensure (!swapped.buffersToWrite.isEmpty) "!buffersToWrite.empty()"
  .ok swapped

/-- What the backend does with `m_mutex` locked: it waits once if there is no full buffer. -/
def lock (s : AsyncLogging) : Except Fault AsyncLogging :=
  if s.buffers.isEmpty then .ok { s with phase := .wait } else s.swap

/-- `if(buffersToWrite.size() > 25)`, at a time with this text. -/
def trim (s : AsyncLogging) (time : List UInt8) : AsyncLogging :=
  let notice := dropNotice time (s.buffersToWrite.length - 2)
  let batches := s.batches ++ [⟨s.buffersToWrite, notice⟩]
  if 25 < s.buffersToWrite.length then
    { s with
      given := s.given ++ notice
      buffersToWrite := s.buffersToWrite.take 2
      phase := .write (s.buffersToWrite.take 2)
      batches }
  else
    { s with phase := .write s.buffersToWrite, batches }

/-- `output.append(buffer->data(), buffer->length())`, with these buffers to come. -/
def write (s : AsyncLogging) (buffer : BufferPtr) (rest : List BufferPtr) :
    Except Fault AsyncLogging :=
  match buffer with
  | none => .error .nullPointer
  | some object => .ok { s with given := s.given ++ object.content, phase := .write rest }

/-- `if(!spare)`: the last of the buffers written becomes the spare one, emptied. -/
def refill (spare : BufferPtr) (written : List BufferPtr) :
    Except Fault (BufferPtr × List BufferPtr) :=
  match spare with
  | some object => .ok (some object, written)
  | none => do
    ensure (!written.isEmpty) "!buffersToWrite.empty()"
    match written.getLast? with
    | some (some last) => .ok (some last.reset, written.dropLast)
    | _ => .error .nullPointer

/-- The end of an iteration up to the flush. -/
def recycle (s : AsyncLogging) : Except Fault AsyncLogging := do
  let resized := if 2 < s.buffersToWrite.length then s.buffersToWrite.take 2 else s.buffersToWrite
  let (newBuffer1, left) ← refill s.newBuffer1 resized
  let (newBuffer2, _) ← refill s.newBuffer2 left
  .ok { s with newBuffer1, newBuffer2, buffersToWrite := [], phase := .flush }

/-- An action that is possible in a state, with its result. -/
inductive Attempt : AsyncLogging → LogAction → Except Fault AsyncLogging → Prop
  | append {s : AsyncLogging} {logline : List UInt8} :
      Attempt s (.append logline) (do
        let appended ← s.append logline
        .ok { appended with lines := s.lines ++ [logline] })
  | start {s : AsyncLogging} (unborn : s.phase = .unborn) : Attempt s .start (.ok s.start)
  | stop {s : AsyncLogging} : Attempt s .stop (.ok { s with running := false })
  | test {s : AsyncLogging} (testing : s.phase = .test) : Attempt s .test s.test
  | lock {s : AsyncLogging} (locking : s.phase = .lock) : Attempt s .lock s.lock
  | wake {s : AsyncLogging} (waiting : s.phase = .wait) : Attempt s .wake s.swap
  | trim {s : AsyncLogging} {time : List UInt8} (trimming : s.phase = .trim) :
      Attempt s (.trim time) (.ok (s.trim time))
  | write {s : AsyncLogging} {buffer : BufferPtr} {rest : List BufferPtr}
      (writing : s.phase = .write (buffer :: rest)) : Attempt s .write (s.write buffer rest)
  | written {s : AsyncLogging} (writing : s.phase = .write []) :
      Attempt s .written (.ok { s with phase := .recycle })
  | recycle {s : AsyncLogging} (recycling : s.phase = .recycle) : Attempt s .recycle s.recycle
  | flush {s : AsyncLogging} (flushing : s.phase = .flush) :
      Attempt s .flush (.ok { s with flushed := s.given, phase := .test })
  | leave {s : AsyncLogging} (leaving : s.phase = .leave) :
      Attempt s .flush (.ok { s with flushed := s.given, phase := .ended })

/-- An action that does not stop the program. -/
def Step (before : AsyncLogging) (action : LogAction) (after : AsyncLogging) : Prop :=
  Attempt before action (.ok after)

/-- The lines appended are smaller than a buffer. -/
def Fits (_ : AsyncLogging) (action : LogAction) : Prop :=
  ∀ logline, action = .append logline → logline.length < kLargeBuffer

/-- The content of `buffersToWrite` still to be written. -/
def unwritten (s : AsyncLogging) : List UInt8 :=
  match s.phase with
  | .trim => content s.buffersToWrite
  | .write rest => content rest
  | _ => []

/-- The content of a batch that is taken and not trimmed. -/
def untrimmed (s : AsyncLogging) : List UInt8 :=
  match s.phase with
  | .trim => content s.buffersToWrite
  | _ => []

/-- The content of `m_buffers` and of `m_currentBuffer`. -/
def front (s : AsyncLogging) : List UInt8 := content s.buffers ++ content [s.currentBuffer]

end AsyncLogging

/-- The pointer points to an empty buffer. -/
def IsFresh (buffer : BufferPtr) : Prop := ∃ object, buffer = some object ∧ object.content = []

/-- A new or reset buffer is empty. -/
theorem isFresh_empty : IsFresh (some .empty) := ⟨_, rfl, rfl⟩

/-- The content of two vectors one after the other. -/
theorem content_append (first second : List BufferPtr) :
    content (first ++ second) = content first ++ content second := List.flatMap_append

/-- The content of one buffer. -/
@[simp] theorem content_some (buffer : FixedBuffer kLargeBuffer) :
    content [some buffer] = buffer.content := List.append_nil _

namespace AsyncLogging

/-- The backend has its two spare buffers and nothing to write. -/
structure Ready (newBuffer1 newBuffer2 : BufferPtr) (buffersToWrite : List BufferPtr) : Prop where
  /-- `newBuffer1` is a spare buffer. -/
  first : IsFresh newBuffer1
  /-- `newBuffer2` is a spare buffer. -/
  second : IsFresh newBuffer2
  /-- `buffersToWrite` is empty. -/
  nothing : buffersToWrite = []

/-- The backend has lent one spare buffer or both, and has got as many buffers at least. -/
structure Lent (newBuffer1 newBuffer2 : BufferPtr) (buffersToWrite : List BufferPtr) : Prop where
  /-- `newBuffer1` is lent. -/
  first : newBuffer1 = none
  /-- `newBuffer2` is lent only when two buffers came back. -/
  second : IsFresh newBuffer2 ∨ newBuffer2 = none ∧ 2 ≤ buffersToWrite.length
  /-- A buffer came back. -/
  some : buffersToWrite ≠ []
  /-- They are buffers. -/
  whole : none ∉ buffersToWrite

/-- What the backend owns, by where it is. -/
def Backend (s : AsyncLogging) : Prop :=
  match s.phase with
  | .unborn => s.buffersToWrite = []
  | .test | .lock | .wait | .flush | .leave | .ended =>
    Ready s.newBuffer1 s.newBuffer2 s.buffersToWrite
  | .trim | .recycle => Lent s.newBuffer1 s.newBuffer2 s.buffersToWrite
  | .write rest => Lent s.newBuffer1 s.newBuffer2 s.buffersToWrite ∧ none ∉ rest

/-- The state between two steps. -/
structure Sound (s : AsyncLogging) : Prop where
  /-- `m_currentBuffer` is not null. -/
  current : ∃ buffer, s.currentBuffer = some buffer
  /-- `m_nextBuffer` is null or empty. -/
  next : ∀ buffer, s.nextBuffer = some buffer → buffer.content = []
  /-- When `m_nextBuffer` is in use a full buffer is waiting for the backend. -/
  spare : s.nextBuffer = none → s.buffers ≠ []
  /-- The full buffers are buffers. -/
  whole : none ∉ s.buffers
  /-- The backend has what it needs. -/
  backend : s.Backend
  /-- Every line is in a batch or still in the buffers. -/
  conserved : s.lines.flatten = s.batches.flatMap Batch.all ++ s.untrimmed ++ s.front
  /-- What is kept of the batches is written or about to be. -/
  written : s.given ++ s.unwritten = s.batches.flatMap Batch.kept ++ s.untrimmed
  /-- The notice of a batch counts the buffers that it drops. -/
  noticed : ∀ batch ∈ s.batches, ∃ time, batch.notice = dropNotice time (batch.taken.length - 2)

/-- A new log is sound. -/
theorem new_sound : new.Sound where
  current := ⟨_, rfl⟩
  next buffer same := by
    cases same
    rfl
  spare null := by cases null
  whole := by simp [new]
  backend := rfl
  conserved := rfl
  written := rfl
  noticed := by simp [new]

/-- `append` never follows a null pointer and adds the line at the end. -/
theorem append_meets {s : AsyncLogging} {logline : List UInt8} (sound : s.Sound)
    (fits : logline.length < kLargeBuffer) :
    Meets (do
      let appended ← s.append logline
      .ok { appended with lines := s.lines ++ [logline] }) Sound fun _ => False := by
  obtain ⟨current, used⟩ := sound.current
  have conserved : (s.lines ++ [logline]).flatten =
      s.batches.flatMap Batch.all ++ s.untrimmed ++
        (content s.buffers ++ (current.content ++ logline)) := by
    have before := sound.conserved
    unfold front at before
    rw [used, content_some] at before
    rw [List.flatten_append, before, List.flatten_singleton]
    simp only [List.append_assoc]
  simp only [append, used, Option.isNone_some, Bool.false_eq_true, ↓reduceIte]
  by_cases room : logline.length < current.avail
  · rw [if_pos room, ok_bind]
    refine .ok ⟨⟨_, rfl⟩, sound.next, sound.spare, sound.whole, sound.backend, ?_, sound.written,
      sound.noticed⟩
    show _ = _ ++ (content s.buffers ++ content [some (current.append logline)])
    rw [content_some, FixedBuffer.append_content room]
    exact conserved
  · have fresh : (s.nextBuffer.getD .empty).content = [] := by
      cases next : s.nextBuffer with
      | none => rfl
      | some buffer => exact sound.next buffer next
    have enough : logline.length < (s.nextBuffer.getD .empty).avail := by
      unfold FixedBuffer.avail
      rw [fresh]
      exact fits
    rw [if_neg room, ok_bind]
    refine .ok ⟨⟨_, rfl⟩, fun buffer null => ?_, fun _ => ?_, ?_, sound.backend, ?_,
      sound.written, sound.noticed⟩
    · cases null
    · exact List.append_ne_nil_of_right_ne_nil _ (List.cons_ne_nil _ _)
    · simp [sound.whole]
    · have joined : content (s.buffers ++ [some current]) ++
          content [some ((s.nextBuffer.getD .empty).append logline)] =
          content s.buffers ++ (current.content ++ logline) := by
        rw [content_some, FixedBuffer.append_content enough, fresh, content_append, content_some,
          List.nil_append, List.append_assoc]
      show _ = _ ++ (content (s.buffers ++ [some current]) ++
        content [some ((s.nextBuffer.getD .empty).append logline)])
      rw [joined]
      exact conserved

/-- The backend moves on without touching the buffers, from a phase with nothing to write. -/
theorem Sound.move {s : AsyncLogging} (sound : s.Sound) {phase : BackendPhase} {running : Bool}
    {flushed : List UInt8} {newBuffer1 newBuffer2 : BufferPtr}
    (backend : Backend { s with phase, newBuffer1, newBuffer2 })
    (untrimmed : untrimmed { s with phase } = s.untrimmed)
    (unwritten : unwritten { s with phase } = s.unwritten) :
    Sound { s with phase, running, flushed, newBuffer1, newBuffer2 } where
  current := sound.current
  next := sound.next
  spare := sound.spare
  whole := sound.whole
  backend := backend
  conserved := by
    show _ = _ ++ AsyncLogging.untrimmed { s with phase } ++ s.front
    rw [untrimmed]
    exact sound.conserved
  written := by
    show s.given ++ AsyncLogging.unwritten { s with phase } =
      _ ++ AsyncLogging.untrimmed { s with phase }
    rw [untrimmed, unwritten]
    exact sound.written
  noticed := sound.noticed

/-- The assertion about a spare buffer passes. -/
theorem ensureEmpty_of_isFresh {buffer : BufferPtr} (fresh : IsFresh buffer)
    (expression : String) : ensureEmpty buffer expression = .ok () := by
  obtain ⟨object, rfl, empty⟩ := fresh
  unfold ensureEmpty
  rw [Option.elim_some, empty]
  rfl

/-- The assertions at the head of the loop pass. -/
theorem test_meets {s : AsyncLogging} (sound : s.Sound) (testing : s.phase = .test) :
    Meets s.test Sound fun _ => False := by
  have backend := sound.backend
  simp only [Backend, testing] at backend
  have nothing : s.buffersToWrite.isEmpty = true := List.isEmpty_iff.mpr backend.nothing
  unfold test
  split
  · rw [ensureEmpty_of_isFresh backend.first, ensureEmpty_of_isFresh backend.second, nothing]
    refine .ok (sound.move ?_ ?_ ?_)
    · exact backend
    · simp only [untrimmed, testing]
    · simp only [unwritten, testing]
  · refine .ok (sound.move ?_ ?_ ?_)
    · exact backend
    · simp only [untrimmed, testing]
    · simp only [unwritten, testing]

/-- The swap gives the front end a buffer, and the backend at least as many as it lent. -/
theorem swap_meets {s : AsyncLogging} (sound : s.Sound)
    (ready : Ready s.newBuffer1 s.newBuffer2 s.buffersToWrite)
    (untrimmed : s.untrimmed = []) (unwritten : s.unwritten = []) :
    Meets s.swap Sound fun _ => False := by
  obtain ⟨first, lent, empty⟩ := ready.first
  have conserved := sound.conserved
  have written := sound.written
  rw [untrimmed, List.append_nil] at conserved written
  rw [unwritten, List.append_nil] at written
  have nonempty : s.buffers ++ [s.currentBuffer] ≠ [] :=
    List.append_ne_nil_of_right_ne_nil _ (List.cons_ne_nil _ _)
  have whole : none ∉ s.buffers ++ [s.currentBuffer] := by
    obtain ⟨current, used⟩ := sound.current
    simp [used, sound.whole]
  unfold swap
  simp only [List.isEmpty_eq_false_iff.mpr nonempty, Bool.not_false, ensure_true, ok_bind]
  refine .ok ⟨⟨first, lent⟩, ?_, ?_, ?_, ⟨rfl, ?_, nonempty, whole⟩, ?_, ?_,
    sound.noticed⟩
  · intro buffer same
    cases next : s.nextBuffer with
    | none =>
      rw [next] at same
      obtain ⟨second, lentToo, emptyToo⟩ := ready.second
      cases lentToo.symm.trans same
      exact emptyToo
    | some spare =>
      rw [next] at same
      cases same
      exact sound.next _ next
  · intro null
    cases next : s.nextBuffer with
    | none =>
      rw [next] at null
      obtain ⟨second, lentToo, _⟩ := ready.second
      cases lentToo.symm.trans null
    | some spare =>
      rw [next] at null
      cases null
  · show none ∉ s.buffersToWrite
    rw [ready.nothing]
    exact List.not_mem_nil
  · cases next : s.nextBuffer with
    | none =>
      have more := List.length_pos_iff.mpr (sound.spare next)
      refine .inr ⟨rfl, ?_⟩
      rw [List.length_append, List.length_singleton]
      omega
    | some spare => exact .inl ready.second
  · show _ = _ ++ content (s.buffers ++ [s.currentBuffer]) ++
      (content s.buffersToWrite ++ content [s.newBuffer1])
    rw [ready.nothing, lent, content_some, empty, content_append]
    show _ = _ ++ [] 
    rw [List.append_nil]
    exact conserved
  · show s.given ++ content (s.buffers ++ [s.currentBuffer]) =
      _ ++ content (s.buffers ++ [s.currentBuffer])
    rw [written]

/-- The backend waits or swaps. -/
theorem lock_meets {s : AsyncLogging} (sound : s.Sound) (locking : s.phase = .lock) :
    Meets s.lock Sound fun _ => False := by
  have backend := sound.backend
  simp only [Backend, locking] at backend
  unfold lock
  split
  · refine .ok (sound.move ?_ ?_ ?_)
    · exact backend
    · simp only [untrimmed, locking]
    · simp only [unwritten, locking]
  · apply swap_meets sound backend
    · simp only [untrimmed, locking]
    · simp only [unwritten, locking]

/-- After the wait the backend swaps. -/
theorem wake_meets {s : AsyncLogging} (sound : s.Sound) (waiting : s.phase = .wait) :
    Meets s.swap Sound fun _ => False := by
  have backend := sound.backend
  simp only [Backend, waiting] at backend
  apply swap_meets sound backend
  · simp only [untrimmed, waiting]
  · simp only [unwritten, waiting]

/-- Of a batch that is too large the first two buffers are kept, after a notice. -/
theorem trim_sound {s : AsyncLogging} (time : List UInt8) (sound : s.Sound)
    (trimming : s.phase = .trim) : (s.trim time).Sound := by
  have backend := sound.backend
  have conserved := sound.conserved
  have written := sound.written
  simp only [Backend, trimming] at backend
  simp only [untrimmed, unwritten, trimming] at conserved written
  have given : s.given = s.batches.flatMap Batch.kept := List.append_cancel_right written
  have noticed : ∀ batch ∈ s.batches ++
      [⟨s.buffersToWrite, dropNotice time (s.buffersToWrite.length - 2)⟩],
      ∃ time, batch.notice = dropNotice time (batch.taken.length - 2) := by
    intro batch recorded
    rcases List.mem_append.mp recorded with old | new
    · exact sound.noticed batch old
    · rw [List.mem_singleton.mp new]
      exact ⟨time, rfl⟩
  unfold trim
  by_cases large : 25 < s.buffersToWrite.length
  · simp only [large, ↓reduceIte]
    have two : (s.buffersToWrite.take 2).length = 2 := by
      rw [List.length_take]
      omega
    have whole : none ∉ s.buffersToWrite.take 2 := fun null =>
      backend.whole (List.mem_of_mem_take null)
    refine ⟨sound.current, sound.next, sound.spare, sound.whole,
      ⟨⟨backend.first, ?_, ?_, whole⟩, whole⟩, ?_, ?_, noticed⟩
    · exact backend.second.imp_right fun lent => ⟨lent.1, two.ge⟩
    · exact List.ne_nil_of_length_pos (by rw [two]; decide)
    · show _ = (s.batches ++ [_]).flatMap Batch.all ++ [] ++ s.front
      rw [List.flatMap_append, List.flatMap_singleton, List.append_nil]
      exact conserved
    · show s.given ++ _ ++ content (s.buffersToWrite.take 2) =
        (s.batches ++ [_]).flatMap Batch.kept ++ []
      rw [List.flatMap_append, List.flatMap_singleton, List.append_nil, given, List.append_assoc,
        Batch.kept_of_dropped (show Batch.Dropped ⟨s.buffersToWrite, _⟩ from large)]
  · simp only [large, ↓reduceIte]
    refine ⟨sound.current, sound.next, sound.spare, sound.whole, ⟨backend, backend.whole⟩, ?_, ?_,
      noticed⟩
    · show _ = (s.batches ++ [_]).flatMap Batch.all ++ [] ++ s.front
      rw [List.flatMap_append, List.flatMap_singleton, List.append_nil]
      exact conserved
    · show s.given ++ content s.buffersToWrite = (s.batches ++ [_]).flatMap Batch.kept ++ []
      rw [List.flatMap_append, List.flatMap_singleton, List.append_nil, given,
        Batch.kept_of_not_dropped (show ¬Batch.Dropped ⟨s.buffersToWrite, _⟩ from large)]
      rfl

/-- A buffer of the batch is written. -/
theorem write_meets {s : AsyncLogging} {buffer : BufferPtr} {rest : List BufferPtr}
    (sound : s.Sound) (writing : s.phase = .write (buffer :: rest)) :
    Meets (s.write buffer rest) Sound fun _ => False := by
  have backend := sound.backend
  have conserved := sound.conserved
  have written := sound.written
  simp only [Backend, writing] at backend
  simp only [untrimmed, unwritten, writing] at conserved written
  rw [List.mem_cons, not_or] at backend
  cases buffer with
  | none => exact absurd rfl backend.2.1
  | some object =>
    refine .ok ⟨sound.current, sound.next, sound.spare, sound.whole, ⟨backend.1, backend.2.2⟩,
      conserved, ?_, sound.noticed⟩
    show s.given ++ object.content ++ content rest = _
    rw [List.append_assoc]
    exact written

/-- The backend gets a spare buffer from those it has written. -/
theorem refill_none {written : List BufferPtr} (nonempty : written ≠ []) (whole : none ∉ written) :
    ∃ spare, refill none written = .ok (spare, written.dropLast) ∧ IsFresh spare := by
  have last : written.getLast? = some (written.getLast nonempty) :=
    List.getLast?_eq_some_getLast nonempty
  cases buffer : written.getLast nonempty with
  | none =>
    have found := List.getLast_mem nonempty
    rw [buffer] at found
    exact absurd found whole
  | some object =>
    refine ⟨_, ?_, isFresh_empty⟩
    unfold refill
    simp only [List.isEmpty_eq_false_iff.mpr nonempty, Bool.not_false, ensure_true, ok_bind, last,
      buffer]
    rfl

/-- A spare buffer that was not lent stays. -/
theorem refill_of_isFresh {spare : BufferPtr} (fresh : IsFresh spare) (written : List BufferPtr) :
    refill spare written = .ok (spare, written) := by
  obtain ⟨object, rfl, -⟩ := fresh
  rfl

/-- The backend gets its two spare buffers back. -/
theorem recycle_meets {s : AsyncLogging} (sound : s.Sound) (recycling : s.phase = .recycle) :
    Meets s.recycle Sound fun _ => False := by
  have backend := sound.backend
  simp only [Backend, recycling] at backend
  generalize resize : (if 2 < s.buffersToWrite.length then s.buffersToWrite.take 2
    else s.buffersToWrite) = resized
  have whole : none ∉ resized := by
    rw [← resize]
    split
    · exact fun null => backend.whole (List.mem_of_mem_take null)
    · exact backend.whole
  have length : resized.length = min 2 s.buffersToWrite.length := by
    rw [← resize]
    split
    · exact List.length_take
    · omega
  have positive := List.length_pos_iff.mpr backend.some
  have nonempty : resized ≠ [] := List.ne_nil_of_length_pos (by omega)
  obtain ⟨first, back, fresh⟩ := refill_none nonempty whole
  have second : ∃ spare left, refill s.newBuffer2 resized.dropLast = .ok (spare, left) ∧
      IsFresh spare := by
    rcases backend.second with kept | ⟨lent, two⟩
    · exact ⟨_, _, refill_of_isFresh kept _, kept⟩
    · have remains : resized.dropLast ≠ [] := by
        apply List.ne_nil_of_length_pos
        rw [List.length_dropLast]
        omega
      obtain ⟨spare, taken, empty⟩ := refill_none remains
        fun null => whole (List.mem_of_mem_dropLast null)
      exact ⟨spare, _, lent ▸ taken, empty⟩
  obtain ⟨spare, left, taken, empty⟩ := second
  unfold recycle
  simp only [resize, backend.first, back, ok_bind, taken]
  have conserved := sound.conserved
  have written := sound.written
  simp only [untrimmed, unwritten, recycling] at conserved written
  exact .ok ⟨sound.current, sound.next, sound.spare, sound.whole, ⟨fresh, empty, rfl⟩, conserved,
    written, sound.noticed⟩

/-- Whatever a thread does next, the program does not stop and stays sound. -/
theorem Attempt.sound {s : AsyncLogging} {action : LogAction} {result : Except Fault AsyncLogging}
    (attempt : Attempt s action result) (fits : s.Fits action) (sound : s.Sound) :
    Meets result Sound fun _ => False := by
  have backend := sound.backend
  cases attempt with
  | append => exact append_meets sound (fits _ rfl)
  | start unborn =>
    simp only [Backend, unborn] at backend
    refine .ok (sound.move ⟨isFresh_empty, isFresh_empty, backend⟩ ?_ ?_)
    · simp only [untrimmed, unborn]
    · simp only [unwritten, unborn]
  | stop => exact .ok (sound.move backend rfl rfl)
  | test testing => exact test_meets sound testing
  | lock locking => exact lock_meets sound locking
  | wake waiting => exact wake_meets sound waiting
  | trim trimming => exact .ok (trim_sound _ sound trimming)
  | write writing => exact write_meets sound writing
  | written writing =>
    simp only [Backend, writing] at backend
    refine .ok (sound.move backend.1 ?_ ?_)
    · simp only [untrimmed, writing]
    · simp only [unwritten, writing]
      rfl
  | recycle recycling => exact recycle_meets sound recycling
  | flush flushing =>
    simp only [Backend, flushing] at backend
    refine .ok (sound.move backend ?_ ?_)
    · simp only [untrimmed, flushing]
    · simp only [unwritten, flushing]
  | leave leaving =>
    simp only [Backend, leaving] at backend
    refine .ok (sound.move backend ?_ ?_)
    · simp only [untrimmed, leaving]
    · simp only [unwritten, leaving]

/-- Every reachable state is sound. -/
theorem sound_of_run {actions : List LogAction} {s : AsyncLogging}
    (run : Run (Guarded Step Fits) new actions s) : s.Sound :=
  run.invariant new_sound fun _ _ _ sound taken => (taken.1.sound taken.2 sound).of_ok rfl

/-- An attempt whose result is known is a step. -/
theorem Attempt.step {s after : AsyncLogging} {action : LogAction}
    {result : Except Fault AsyncLogging} (attempt : Attempt s action result)
    (done : result = .ok after) : Step s action after := by
  unfold Step
  rw [← done]
  exact attempt

/-- In every interleaving of threads that append lines smaller than a buffer with the backend, the
bytes given to the log file, those still to be written and those in the buffers of the front end are
the lines in the order of their locks, except that a batch of more than 25 buffers is replaced by a
notice and its first two buffers. No step follows a null pointer or fails an assertion, and at the
head of its loop the backend has two empty spare buffers and nothing to write. -/
theorem log_preserved (actions : List LogAction) (s : AsyncLogging)
    (run : Run (Guarded Step Fits) new actions s) :
    s.lines.flatten = s.batches.flatMap Batch.all ++ (s.untrimmed ++ s.front) ∧
      s.given ++ s.unwritten ++ s.front =
        s.batches.flatMap Batch.kept ++ (s.untrimmed ++ s.front) ∧
      ((∀ batch ∈ s.batches, ¬batch.Dropped) →
        s.given ++ s.unwritten ++ s.front = s.lines.flatten) ∧
      (∀ batch ∈ s.batches, ∃ time, batch.notice = dropNotice time (batch.taken.length - 2)) ∧
      (∃ buffer, s.currentBuffer = some buffer) ∧
      (∀ action result, s.Fits action → Attempt s action result → ∃ after, result = .ok after) ∧
      (s.phase = .test → IsFresh s.newBuffer1 ∧ IsFresh s.newBuffer2 ∧ s.buffersToWrite = []) := by
  have sound : s.Sound := sound_of_run run
  have conserved : s.lines.flatten = s.batches.flatMap Batch.all ++ (s.untrimmed ++ s.front) := by
    rw [← List.append_assoc]
    exact sound.conserved
  have written : s.given ++ s.unwritten ++ s.front =
      s.batches.flatMap Batch.kept ++ (s.untrimmed ++ s.front) := by
    rw [sound.written, List.append_assoc]
  refine ⟨conserved, written, ?_, sound.noticed, sound.current, ?_, ?_⟩
  · intro small
    have same : s.batches.flatMap Batch.kept = s.batches.flatMap Batch.all :=
      List.flatMap_congr fun batch taken => Batch.kept_of_not_dropped (small batch taken)
    rw [written, conserved, same]
  · intro action result fits attempt
    rcases (attempt.sound fits sound).split with ⟨after, done, -⟩ | ⟨_, _, stopped⟩
    · exact ⟨after, done⟩
    · exact stopped.elim
  · intro testing
    have backend := sound.backend
    simp only [Backend, testing] at backend
    exact ⟨backend.first, backend.second, backend.nothing⟩

/-- One line goes from a thread to the file. -/
theorem log_preserved_line :
    ∃ s : AsyncLogging, Run (Guarded Step Fits) new
        [.append [104], .start, .test, .lock, .wake, .trim [], .write, .written, .recycle,
          .flush] s ∧
      s.phase = .test ∧ s.given = [104] ∧ s.given ++ s.unwritten ++ s.front = s.lines.flatten := by
  have reached : ∃ s : AsyncLogging, Run (Guarded Step Fits) new
        [.append [104], .start, .test, .lock, .wake, .trim [], .write, .written, .recycle,
          .flush] s ∧
      s.phase = .test ∧ s.given = [104] ∧ ∀ batch ∈ s.batches, ¬batch.Dropped :=
    ⟨_, .cons ⟨Attempt.append.step rfl, by simp [Fits, kLargeBuffer]⟩
      (.cons ⟨.start rfl, by simp [Fits]⟩ (.cons ⟨(Attempt.test rfl).step rfl, by simp [Fits]⟩
      (.cons ⟨(Attempt.lock rfl).step rfl, by simp [Fits]⟩
      (.cons ⟨(Attempt.wake rfl).step rfl, by simp [Fits]⟩
      (.cons ⟨.trim rfl, by simp [Fits]⟩ (.cons ⟨(Attempt.write rfl).step rfl, by simp [Fits]⟩
      (.cons ⟨.written rfl, by simp [Fits]⟩ (.cons ⟨(Attempt.recycle rfl).step rfl, by simp [Fits]⟩
      (.cons ⟨.flush rfl, by simp [Fits]⟩ (.nil _)))))))))), rfl, rfl, by decide⟩
  obtain ⟨s, run, testing, given, small⟩ := reached
  exact ⟨s, run, testing, given, (log_preserved _ s run).2.2.1 small⟩

end AsyncLogging

end Muduo
