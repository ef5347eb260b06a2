import Muduo.Base.Fault
import Muduo.Base.Machine

/-!
# `dc::ReadSmallFile`

A file is read up to a size in as many calls of `::read` as it takes. A call may return less than it
was asked for, and it may fail; then the rest of the file is not read and the error is returned.
`readToBuffer` makes one call and returns no error when that fails: the branch that should store it
belongs to the test of the descriptor.

Both times that are stored are `st_ctime`.
-/

namespace Muduo

/-- `EISDIR`. -/
def eIsDir : Nat := 21

/-- What the kernel does in one call of `::read` or `::pread`. -/
inductive FileRead
  /-- It would return so many bytes. -/
  | count (count : Nat)
  /-- `-1` with `errno`. -/
  | failed (errno : Nat)
  deriving DecidableEq, Repr

/-- How many bytes a call returns: at least one of those that it is asked for and that are there. -/
def FileRead.amount (count toRead available : Nat) : Nat :=
  min (max count 1) (min toRead available)

/-- What is read of `struct stat`. -/
structure FileStat where
  /-- `S_ISREG(st_mode)`. -/
  isReg : Bool
  /-- `S_ISDIR(st_mode)`. -/
  isDir : Bool
  /-- `st_size`. -/
  size : Int
  /-- `st_ctime`. -/
  ctime : Int
  deriving DecidableEq, Repr

/-- `class ReadSmallFile`. -/
structure ReadSmallFile where
  /-- `m_fd`. -/
  fd : Int
  /-- `m_err`. -/
  err : Nat
  deriving DecidableEq, Repr

namespace ReadSmallFile

/-- `kBufferSize`. -/
def kBufferSize : Nat := 64 * 1024

/-- `ReadSmallFile(filename)`, with the descriptor or the error of `::open`. -/
def new : Except Nat Nat → ReadSmallFile
  | .ok fd => { fd, err := 0 }
  | .error errno => { fd := -1, err := errno }

/-- The loop of `readToString`, with the rest of the file, the content and the error so far. -/
def readLoop (maxSize : Nat) :
    List FileRead → List UInt8 → List UInt8 → Nat → Except Fault (List UInt8 × Nat)
  | [], _, content, err =>
    if content.length < maxSize then .error .endless else .ok (content, err)
  | .failed errno :: _, _, content, err =>
    if content.length < maxSize then .ok (content, errno) else .ok (content, err)
  | .count count :: calls, rest, content, err =>
    if content.length < maxSize then
      let toRead := min (maxSize - content.length) kBufferSize
      let n := FileRead.amount count toRead rest.length
      if 0 < n then readLoop maxSize calls (rest.drop n) (content ++ rest.take n) err
      else .ok (content, err)
    else
      .ok (content, err)

/-- What `readToString` returns and stores. -/
structure Report where
  /-- The error. -/
  err : Nat
  /-- `*content`, if it is stored. -/
  content : Option (List UInt8)
  /-- `*fileSize`, if it is stored. -/
  fileSize : Option Int
  /-- `*modifyTime` and `*createTime`, if they are stored and asked for. -/
  time : Option Int
  deriving DecidableEq, Repr

/-- `content->reserve(..)`, with an `int` that is converted to `size_t`. -/
def reserve (size : Int) : Except Fault Unit := if size < 0 then .error .lengthError else .ok ()

/-- `readToString(maxSize, content, fileSize, modifyTime, createTime)`, with the result of `::fstat`
if `fileSize` is not null, the file, and what the calls of `::read` do. -/
def readToString (f : ReadSmallFile) (maxSize : Int) (stat : Option (Except Nat FileStat))
    (file : List UInt8) (calls : List FileRead) : Except Fault Report := do
  if 0 ≤ f.fd then
    let (err, fileSize, time) ← match stat with
      | none => .ok (f.err, none, none)
      | some (.error errno) => .ok (errno, none, none)
      | some (.ok statbuf) => do
        if statbuf.isReg then
          reserve (min maxSize statbuf.size)
          .ok (f.err, some statbuf.size, some statbuf.ctime)
        else .ok (if statbuf.isDir then eIsDir else f.err, none, some statbuf.ctime)
    let (content, err) ← readLoop (sizeOfInt maxSize) calls file [] err
    .ok { err, content := some content, fileSize, time }
  else
    .ok { err := f.err, content := none, fileSize := none, time := none }

/-- `readToBuffer(size)`: what it returns when `errno` is set before the call, and the text in
`m_buf` if it is stored, whose length goes to `*size`. -/
def readToBuffer (f : ReadSmallFile) (errno : Nat) (file : List UInt8) (call : FileRead) :
    Nat × Option (List UInt8) :=
  if 0 ≤ f.fd then
    match call with
    | .failed _ => (f.err, none)
    | .count count =>
      (f.err, some (file.take (FileRead.amount count (kBufferSize - 1) file.length)))
  else (errno, none)

variable {maxSize err : Nat} {calls : List FileRead} {rest content : List UInt8}

/-- What the loop does: it appends the front of the file, and returns the error of a call that
failed, or appends all that is asked for. -/
structure Loops (maxSize : Nat) (calls : List FileRead) (rest content : List UInt8) (err : Nat)
    (result : List UInt8 × Nat) : Prop where
  /-- The front of the file is appended. -/
  front : ∃ text, text <+: rest ∧ result.1 = content ++ text
  /-- All of it, or a call failed. -/
  ends : result = (content ++ rest.take (maxSize - content.length), err) ∨
    ∃ errno, .failed errno ∈ calls ∧ result.2 = errno

/-- A call takes something while something is there and asked for. -/
theorem amount_pos {count toRead available : Nat} :
    0 < FileRead.amount count toRead available ↔ 0 < toRead ∧ 0 < available := by
  rw [FileRead.amount]
  omega

/-- Nothing more is asked for. -/
theorem loops_full (full : ¬content.length < maxSize) :
    Loops maxSize calls rest content err (content, err) where
  front := ⟨[], List.nil_prefix, (List.append_nil content).symm⟩
  ends := by
    left
    rw [Nat.sub_eq_zero_of_le (Nat.le_of_not_lt full), List.take_zero, List.append_nil]

/-- The loop goes on behind what a call has taken. -/
theorem Loops.behind {count n : Nat} {result : List UInt8 × Nat} (some : n ≤ rest.length)
    (asked : n ≤ maxSize - content.length)
    (loops : Loops maxSize calls (rest.drop n) (content ++ rest.take n) err result) :
    Loops maxSize (.count count :: calls) rest content err result := by
  obtain ⟨⟨text, inFront, total⟩, ends⟩ := loops
  constructor
  · have behind := (List.prefix_append_right_inj (rest.take n)).mpr inFront
    rw [List.take_append_drop] at behind
    exact ⟨rest.take n ++ text, behind, by rw [total, List.append_assoc]⟩
  · obtain all | ⟨errno, member, failed⟩ := ends
    · left
      have split : maxSize - content.length = n + (maxSize - (content.length + n)) := by omega
      rw [all, List.length_append, List.length_take_of_le some, List.append_assoc, split,
        List.take_add]
    · exact .inr ⟨errno, List.mem_cons_of_mem _ member, failed⟩

/-- The loop ends when it has calls enough. -/
theorem readLoop_loops (enough : rest.length < calls.length) :
    ∃ result, readLoop maxSize calls rest content err = .ok result ∧
      Loops maxSize calls rest content err result := by
  induction calls generalizing rest content with
  | nil => cases enough
  | cons call calls ih =>
    by_cases more : content.length < maxSize
    · cases call with
      | failed errno =>
        rw [readLoop, if_pos more]
        exact ⟨_, rfl, ⟨[], List.nil_prefix, (List.append_nil content).symm⟩,
          .inr ⟨errno, List.mem_cons_self, rfl⟩⟩
      | count count =>
        rw [readLoop, if_pos more]
        dsimp only
        generalize taken : FileRead.amount count (min (maxSize - content.length) kBufferSize)
          rest.length = n
        have whole : 0 < kBufferSize := by decide
        rw [List.length_cons] at enough
        split
        case isTrue some =>
          have bound : n ≤ min (min (maxSize - content.length) kBufferSize) rest.length := by
            rw [← taken]
            exact min_le_right _ _
          obtain ⟨result, done, loops⟩ := @ih (rest.drop n) (content ++ rest.take n) (by
            rw [List.length_drop]
            omega)
          exact ⟨result, done, loops.behind (by omega) (by omega)⟩
        case isFalse none =>
          rw [← taken, amount_pos] at none
          have empty : rest = [] := List.eq_nil_of_length_eq_zero (by omega)
          subst empty
          refine ⟨_, rfl, ⟨[], List.nil_prefix, (List.append_nil content).symm⟩, .inl ?_⟩
          rw [List.take_nil, List.append_nil]
    · refine ⟨_, ?_, loops_full more⟩
      cases call with
      | failed errno => rw [readLoop, if_neg more]
      | count count => rw [readLoop, if_neg more]

/-- The part of `readToString` before the loop, which stops only for a negative size. -/
theorem readToString_eq {f : ReadSmallFile} (opened : 0 ≤ f.fd) {maxSize : Int}
    {stat : Option (Except Nat FileStat)} {file : List UInt8} (nonneg : 0 ≤ maxSize)
    (sizes : ∀ statbuf, stat = some (.ok statbuf) → 0 ≤ statbuf.size) :
    ∃ err fileSize time, f.readToString maxSize stat file calls =
      (do
        let (content, err) ← readLoop (sizeOfInt maxSize) calls file [] err
        .ok { err, content := some content, fileSize, time }) := by
  rw [readToString, if_pos opened]
  cases stat with
  | none => exact ⟨_, _, _, rfl⟩
  | some stat =>
    cases stat with
    | error errno => exact ⟨_, _, _, rfl⟩
    | ok statbuf =>
      cases regular : statbuf.isReg with
      | true =>
        have size := sizes statbuf rfl
        refine ⟨f.err, some statbuf.size, some statbuf.ctime, ?_⟩
        simp only [regular, ↓reduceIte, reserve, if_neg (not_lt.mpr (le_min nonneg size))]
        rfl
      | false =>
        refine ⟨if statbuf.isDir then eIsDir else f.err, none, some statbuf.ctime, ?_⟩
        simp only [regular]
        rfl

/-- `readToString` of a file that is open reads it up to `maxSize`: in as many calls as it takes, of
which each may return less than it is asked for, what is stored is the front of the file; it is
everything up to `maxSize` when no error is returned, and when no call fails. -/
theorem readToString_reads (f : ReadSmallFile) (opened : 0 ≤ f.fd) (maxSize : Int)
    (nonneg : 0 ≤ maxSize) (fits : maxSize < 2 ^ 31) (stat : Option (Except Nat FileStat))
    (sizes : ∀ statbuf, stat = some (.ok statbuf) → 0 ≤ statbuf.size) (file : List UInt8)
    (calls : List FileRead) (enough : file.length < calls.length)
    (errnos : ∀ errno, .failed errno ∈ calls → errno ≠ 0) :
    ∃ report text, f.readToString maxSize stat file calls = .ok report ∧
      report.content = some text ∧ text <+: file ∧
      (report.err = 0 → text = file.take maxSize.toNat) ∧
      ((∀ errno, .failed errno ∉ calls) → text = file.take maxSize.toNat) := by
  obtain ⟨err, fileSize, time, same⟩ :=
    @readToString_eq calls f opened maxSize stat file nonneg sizes
  obtain ⟨⟨content, last⟩, done, ⟨⟨text, inFront, total⟩, ends⟩⟩ :=
    @readLoop_loops (sizeOfInt maxSize) err calls file [] enough
  rw [same, done]
  have size : sizeOfInt maxSize = maxSize.toNat := by
    rw [sizeOfInt]
    omega
  rw [List.nil_append] at total
  cases total
  rw [size, List.nil_append, List.length_nil, Nat.sub_zero] at ends
  refine ⟨_, content, rfl, rfl, inFront, fun none => ?_, fun good => ?_⟩
  · obtain all | ⟨errno, member, failed⟩ := ends
    · exact congrArg Prod.fst all
    · exact absurd (failed.symm.trans none) (errnos errno member)
  · obtain all | ⟨errno, member, -⟩ := ends
    · exact congrArg Prod.fst all
    · exact absurd member (good errno)

/-- Two calls for a file that is longer than what is asked for. -/
theorem readToString_reads_short :
    ∃ report text, (new (.ok 3)).readToString 5 none (bytes "a log") (.replicate 6 (.count 3)) =
        .ok report ∧
      report.content = some text ∧ text = (bytes "a log").take 5 := by
  have member {errno : Nat} : .failed errno ∉ List.replicate 6 (FileRead.count 3) := by
    intro inside
    cases List.eq_of_mem_replicate inside
  obtain ⟨report, text, done, stored, -, -, whole⟩ := readToString_reads (new (.ok 3))
    (by decide) 5 (by decide) (by decide) none (fun statbuf same => by cases same) (bytes "a log")
    (.replicate 6 (.count 3)) (by decide) (fun errno inside => absurd inside member)
  exact ⟨report, text, done, stored, whole fun errno => member⟩

/-- `readToBuffer` of a file that could be opened reports no error, whatever `::pread` does. -/
theorem readToBuffer_err (fd errno : Nat) (file : List UInt8) (call : FileRead) :
    ((new (.ok fd)).readToBuffer errno file call).1 = 0 := by
  have opened : 0 ≤ (new (.ok fd)).fd := Int.natCast_nonneg fd
  rw [readToBuffer.eq_def, if_pos opened]
  cases call with
  | count count => rfl
  | failed reason => rfl

end ReadSmallFile

end Muduo
