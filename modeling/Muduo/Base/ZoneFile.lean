import Muduo.Base.Endian
import Muduo.Base.TimeZone

/-!
# Reading zone files

A file is its bytes and the position in them. A read that finds too little, or a number that a
vector refuses, throws a `std::logic_error`, which `readTimeZoneFile` catches; undefined behaviour
is not caught.
-/

open Outcome

namespace Muduo

/-- How the reader of a zone file stops. -/
inductive Stop
  /-- A `std::logic_error` or an exception derived from it, with its text. -/
  | logicError (what : String)
  /-- Undefined behaviour. -/
  | fault (fault : Fault)
  deriving DecidableEq, Repr

/-- `class File`: the bytes of an open file and the position in them. -/
structure File where
  /-- What the file holds. -/
  content : List UInt8
  /-- The position of the next read. -/
  position : Nat
  deriving DecidableEq, Repr

/-- A number that is kept in an `int64_t`. -/
def wrapInt64 (value : Int) : Int := value.bmod (2 ^ 64)

namespace File

/-- `fread(buf, 1, size, m_fp)`: the bytes that were read. -/
def fread (f : File) (size : Nat) : List UInt8 × File :=
  let got := (f.content.drop f.position).take size
  (got, { f with position := f.position + got.length })

/-- `readBytes(n)`. The array for the bytes needs a size that is not negative. -/
def readBytes (f : File) (n : Int) : Except Stop (List UInt8 × File) :=
  if n < 0 then .error (.fault .outOfRange)
  else
    let (got, f) := f.fread n.toNat
    if got.length ≠ n then .error (.logicError "no enough data") else .ok (got, f)

/-- `readToEnd()`. -/
def readToEnd (f : File) : List UInt8 := f.content.drop f.position

/-- The body of `readInt64()`, `readInt32()` and `readUint8()`: so many bytes, as a number. -/
def readNumber (f : File) (size : Nat) (what : String) : Except Stop (Nat × File) :=
  let (got, f) := f.fread size
  if got.length ≠ size then .error (.logicError what) else .ok (bigEndian got, f)

/-- `readInt64()`. -/
def readInt64 (f : File) : Except Stop (Int × File) := do
  let (x, f) ← f.readNumber 8 "bad int64_t data"
  .ok (wrapInt64 x, f)

/-- `readInt32()`. -/
def readInt32 (f : File) : Except Stop (Int × File) := do
  let (x, f) ← f.readNumber 4 "bad int64_t data"
  .ok (wrapInt x, f)

/-- `readUint8()`. -/
def readUint8 (f : File) : Except Stop (Nat × File) := f.readNumber 1 "bad uint8_t data"

/-- `skip(bytes)`. A seek to a position before the beginning fails, and its result is ignored. -/
def skip (f : File) (bytes : Int) : File :=
  if f.position + bytes < 0 then f else { f with position := (f.position + bytes).toNat }

end File

/-- A loop that reads so many values. -/
def readMany {α : Type} (read : File → Except Stop (α × File)) :
    Nat → File → Except Stop (List α × File)
  | 0, f => .ok ([], f)
  | count + 1, f => do
    let (value, f) ← read f
    let (values, f) ← readMany read count f
    .ok (value :: values, f)

/-- `reserve(count)` of a vector, with an `int` that is converted to `size_t`. -/
def reserve (count : Int) : Except Stop Unit :=
  if count < 0 then .error (.logicError "vector::reserve") else .ok ()

/-- The numbers at the beginning of a block. -/
structure Counts where
  /-- `isUtcCnt`, or `isgmtCnt`. -/
  isUtcCnt : Int
  /-- `isStdCnt`. -/
  isStdCnt : Int
  /-- `leapCnt`. -/
  leapCnt : Int
  /-- `timeCnt`. -/
  timeCnt : Int
  /-- `typeCnt`. -/
  typeCnt : Int
  /-- `charCnt`. -/
  charCnt : Int
  deriving DecidableEq, Repr

/-- The six calls of `readInt32()` at the beginning of a block. -/
def readCounts (f : File) : Except Stop (Counts × File) := do
  let (isUtcCnt, f) ← f.readInt32
  let (isStdCnt, f) ← f.readInt32
  let (leapCnt, f) ← f.readInt32
  let (timeCnt, f) ← f.readInt32
  let (typeCnt, f) ← f.readInt32
  let (charCnt, f) ← f.readInt32
  .ok (⟨isUtcCnt, isStdCnt, leapCnt, timeCnt, typeCnt, charCnt⟩, f)

/-- The size of the first block of a file of version 2. The products of `int` are `int`. -/
def Counts.skipped (c : Counts) : Int :=
  wrapInt64 (4 * c.timeCnt + c.timeCnt + wrapInt (6 * c.typeCnt) + c.charCnt +
    wrapInt (8 * c.leapCnt) + c.isStdCnt + c.isUtcCnt)

namespace TimeZone

/-- A local time of a zone file. -/
def readLocalTime (f : File) : Except Stop (LocalTime × File) := do
  let (gmtoff, f) ← f.readInt32
  let (isdst, f) ← f.readUint8
  let (abbrind, f) ← f.readUint8
  .ok (⟨gmtoff, isdst != 0, abbrind⟩, f)

/-- `addTransition(utcTime, localIdx)`, with the local times that were added before. -/
def addTransition (localtimes : List LocalTime) (utcTime : Int) (localIdx : Nat) :
    Except Stop Transition :=
  match localtimes[localIdx]? with
  | some lt => .ok ⟨utcTime, wrapInt64 (utcTime + lt.utcOffset), localIdx⟩
  | none => .error (.logicError "vector::_M_range_check")

/-- The loop of `readDataBlock` that adds the transitions. -/
def addTransitions (localtimes : List LocalTime) :
    List Int → List Nat → Except Stop (List Transition)
  | utcTime :: times, localIdx :: indexes => do
    let transition ← addTransition localtimes utcTime localIdx
    let transitions ← addTransitions localtimes times indexes
    .ok (transition :: transitions)
  | _, _ => .ok []

/-- `readDataBlock(f, data, v1)` behind the checks of the numbers. -/
def readZone (c : Counts) (v1 : Bool) (f : File) : Except Stop Data := do
  reserve c.timeCnt
  let (times, f) ← readMany (if v1 then File.readInt32 else File.readInt64) c.timeCnt.toNat f
  reserve c.timeCnt
  let (indexes, f) ← readMany File.readUint8 c.timeCnt.toNat f
  reserve c.typeCnt
  let (localtimes, f) ← readMany readLocalTime c.typeCnt.toNat f
  let transitions ← addTransitions localtimes times indexes
  let (abbrevition, f) ← f.readBytes c.charCnt
  let f := f.skip (c.leapCnt * ((if v1 then 4 else 8) + 4))
  let f := (f.skip c.isStdCnt).skip c.isUtcCnt
  .ok ⟨transitions, localtimes, abbrevition, if v1 then [] else f.readToEnd⟩

/-- `readDataBlock(f, data, v1)`: the data, or that it returned `false`. -/
def readDataBlock (f : File) (v1 : Bool) : Except Stop (Option Data) := do
  let (c, f) ← readCounts f
  if c.leapCnt ≠ 0 then .ok none
  else if c.isUtcCnt ≠ 0 ∧ c.isUtcCnt ≠ c.typeCnt then .ok none
  else if c.isStdCnt ≠ 0 ∧ c.isStdCnt ≠ c.typeCnt then .ok none
  else do
    let d ← readZone c v1 f
    .ok (some d)

/-- The check of the first bytes of a header. -/
def readHead (f : File) : Except Stop File := do
  let (head, f) ← f.readBytes 4
  if head ≠ bytes "TZlf" then .error (.logicError "bad head") else .ok f

/-- The `try` block of `readTimeZoneFile`. -/
def readContent (f : File) : Except Stop (Option Data) := do
  let f ← readHead f
  let (version, f) ← f.readBytes 1
  let (_, f) ← f.readBytes 15
  let (c, f) ← readCounts f
  if version = bytes "2" then do
    let f ← readHead (f.skip c.skipped)
    readDataBlock (f.skip 16) false
  else
    readDataBlock (f.skip (-4 * 6)) true

/-- `readTimeZoneFile(zoneFile, data)`, for what the file holds if it can be opened. -/
def readTimeZoneFile (zoneFile : Option (List UInt8)) : Except Fault (Option Data) :=
  match zoneFile with
  | none => .ok none
  | some content =>
    match readContent ⟨content, 0⟩ with
    | .ok data => .ok data
    | .error (.logicError _) => .ok none
    | .error (.fault fault) => .error fault

/-- `loadZoneFile(zonefile)`. -/
def loadZoneFile (zonefile : Option (List UInt8)) : Except Fault TimeZone := do
  let data ← readTimeZoneFile zonefile
  .ok ⟨data⟩

end TimeZone

/-- The `int32_t` at a position of a file. -/
def int32At (content : List UInt8) (position : Nat) : Int :=
  wrapInt (bigEndian ((content.drop position).take 4))

/-- The numbers at a position of a file. -/
def countsAt (content : List UInt8) (position : Nat) : Counts where
  isUtcCnt := int32At content position
  isStdCnt := int32At content (position + 4)
  leapCnt := int32At content (position + 8)
  timeCnt := int32At content (position + 12)
  typeCnt := int32At content (position + 16)
  charCnt := int32At content (position + 20)

/-- Where the numbers of the block are that is read: those of the first block, or in a file of
version 2 those behind it. -/
def blockAt (content : List UInt8) : Nat :=
  if (content.drop 4).take 1 = bytes "2" then
    (File.skip ⟨content, 44⟩ (countsAt content 20).skipped).position + 20
  else 20

namespace File

variable {f g : File}

/-- The bytes at the position, so many as there are. -/
def ahead (f : File) (size : Nat) : List UInt8 := (f.content.drop f.position).take size

/-- The file behind so many bytes. -/
def advance (f : File) (size : Nat) : File := ⟨f.content, f.position + size⟩

/-- When a number is read. -/
theorem readNumber_eq (f : File) (size : Nat) (what : String) :
    f.readNumber size what =
      if (f.ahead size).length = size then .ok (bigEndian (f.ahead size), f.advance size)
      else .error (.logicError what) := by
  change (if (f.ahead size).length ≠ size then _ else _) = _
  by_cases whole : (f.ahead size).length = size
  · rw [if_neg (not_not.mpr whole), if_pos whole]
    change Except.ok (_, File.mk f.content (f.position + (f.ahead size).length)) = _
    rw [whole]
    rfl
  · rw [if_pos whole, if_neg whole]

/-- When bytes are read. -/
theorem readBytes_eq (f : File) (count : Nat) :
    f.readBytes count =
      if (f.ahead count).length = count then .ok (f.ahead count, f.advance count)
      else .error (.logicError "no enough data") := by
  have nonneg : ¬(count : Int) < 0 := by omega
  rw [readBytes, if_neg nonneg]
  change (if ((f.ahead count).length : Int) ≠ (count : Int) then _ else _) = _
  by_cases whole : (f.ahead count).length = count
  · rw [if_neg (by omega), if_pos whole]
    change Except.ok (_, File.mk f.content (f.position + (f.ahead count).length)) = _
    rw [whole]
    rfl
  · rw [if_pos (by omega), if_neg whole]

/-- A number that was read. -/
theorem readNumber_ok {size number : Nat} {what : String}
    (done : f.readNumber size what = .ok (number, g)) :
    number = bigEndian (f.ahead size) ∧ g = f.advance size := by
  rw [readNumber_eq] at done
  split at done
  · exact ⟨(Prod.mk.inj (Except.ok.inj done)).1.symm, (Prod.mk.inj (Except.ok.inj done)).2.symm⟩
  · cases done

/-- An `int32_t` that was read. -/
theorem readInt32_ok {number : Int} (done : f.readInt32 = .ok (number, g)) :
    number = int32At f.content f.position ∧ g = f.advance 4 := by
  obtain ⟨⟨value, next⟩, read, rest⟩ := bind_eq_ok.mp done
  obtain ⟨rfl, rfl⟩ := readNumber_ok read
  obtain ⟨rfl, rfl⟩ := Prod.mk.inj (Except.ok.inj rest)
  exact ⟨rfl, rfl⟩

/-- Bytes that were read. -/
theorem readBytes_ok {count : Nat} {got : List UInt8}
    (done : f.readBytes count = .ok (got, g)) : got = f.ahead count ∧ g = f.advance count := by
  rw [readBytes_eq] at done
  split at done
  · exact ⟨(Prod.mk.inj (Except.ok.inj done)).1.symm, (Prod.mk.inj (Except.ok.inj done)).2.symm⟩
  · cases done

/-- A seek to a position that exists. -/
theorem skip_eq {size : Int} {position : Nat} (sum : (f.position : Int) + size = position) :
    f.skip size = ⟨f.content, position⟩ := by
  have exists_ : ¬(f.position : Int) + size < 0 := by omega
  rw [skip, if_neg exists_, sum, Int.toNat_natCast]

/-- A seek moves the position, and nothing else. -/
theorem skip_content (f : File) (size : Int) : (f.skip size).content = f.content := by
  rw [skip]
  split <;> rfl

end File

/-- Numbers that were read. -/
theorem readCounts_ok {f g : File} {c : Counts} (done : readCounts f = .ok (c, g)) :
    c = countsAt f.content f.position ∧ g = f.advance 24 := by
  obtain ⟨⟨utc, f1⟩, first, rest⟩ := bind_eq_ok.mp done
  obtain ⟨⟨std, f2⟩, second, rest⟩ := bind_eq_ok.mp rest
  obtain ⟨⟨leap, f3⟩, third, rest⟩ := bind_eq_ok.mp rest
  obtain ⟨⟨time, f4⟩, fourth, rest⟩ := bind_eq_ok.mp rest
  obtain ⟨⟨type, f5⟩, fifth, rest⟩ := bind_eq_ok.mp rest
  obtain ⟨⟨char, f6⟩, sixth, rest⟩ := bind_eq_ok.mp rest
  obtain ⟨utcAt, next1⟩ := File.readInt32_ok first
  obtain ⟨stdAt, next2⟩ := File.readInt32_ok second
  obtain ⟨leapAt, next3⟩ := File.readInt32_ok third
  obtain ⟨timeAt, next4⟩ := File.readInt32_ok fourth
  obtain ⟨typeAt, next5⟩ := File.readInt32_ok fifth
  obtain ⟨charAt, next6⟩ := File.readInt32_ok sixth
  obtain ⟨same, last⟩ := Prod.mk.inj (Except.ok.inj rest)
  rw [← same, ← last, next6, charAt, typeAt, next5, timeAt, next4, leapAt, next3, stdAt, next2,
    utcAt, next1]
  simp only [countsAt, File.advance, Nat.add_assoc, Nat.reduceAdd, and_self]

/-- A loop that read so many values. -/
theorem readMany_ok {α : Type} {read : File → Except Stop (α × File)} {count : Nat} {f g : File}
    {values : List α} (done : readMany read count f = .ok (values, g)) : values.length = count := by
  induction count generalizing f g values with
  | zero =>
    obtain ⟨rfl, -⟩ := Prod.mk.inj (Except.ok.inj done)
    rfl
  | succ count ih =>
    obtain ⟨⟨value, next⟩, -, rest⟩ := bind_eq_ok.mp done
    obtain ⟨⟨others, last⟩, more, rest⟩ := bind_eq_ok.mp rest
    obtain ⟨rfl, -⟩ := Prod.mk.inj (Except.ok.inj rest)
    rw [List.length_cons, ih more]

namespace TimeZone

/-- Every transition that was added goes over to one of the local times. -/
theorem addTransitions_ok {localtimes : List LocalTime} {times : List Int} {indexes : List Nat}
    {transitions : List Transition}
    (done : addTransitions localtimes times indexes = .ok transitions) :
    ∀ transition ∈ transitions, transition.localtimeIdx < localtimes.length := by
  induction times, indexes using addTransitions.induct generalizing transitions with
  | case1 utcTime times localIdx indexes ih =>
    obtain ⟨added, first, rest⟩ := bind_eq_ok.mp done
    obtain ⟨others, later, rest⟩ := bind_eq_ok.mp rest
    obtain rfl := Except.ok.inj rest
    intro transition member
    obtain rfl | further := List.mem_cons.mp member
    · rw [addTransition] at first
      split at first
      next lt found =>
        obtain rfl := Except.ok.inj first
        exact (List.getElem?_eq_some_iff.mp found).1
      · cases first
    · exact ih later transition further
  | case2 times indexes other =>
    have none : addTransitions localtimes times indexes = .ok [] := by
      rw [addTransitions]
      exact other
    obtain rfl := Except.ok.inj (none.symm.trans done)
    nofun

/-- What is known of the data of a block. -/
structure ReadFrom (c : Counts) (d : Data) : Prop where
  /-- As many local times as the numbers say. -/
  types : (d.localtimes.length : Int) = c.typeCnt
  /-- Every transition goes over to one of them. -/
  indexes : ∀ transition ∈ d.transitions, transition.localtimeIdx < d.localtimes.length

/-- `readDataBlock` behind the checks of the numbers. -/
theorem readZone_ok {c : Counts} {v1 : Bool} {f : File} {d : Data}
    (done : readZone c v1 f = .ok d) : ReadFrom c d := by
  obtain ⟨_, -, rest⟩ := bind_eq_ok.mp done
  obtain ⟨⟨times, f1⟩, -, rest⟩ := bind_eq_ok.mp rest
  obtain ⟨_, -, rest⟩ := bind_eq_ok.mp rest
  obtain ⟨⟨indexes, f2⟩, -, rest⟩ := bind_eq_ok.mp rest
  obtain ⟨_, room, rest⟩ := bind_eq_ok.mp rest
  obtain ⟨⟨localtimes, f3⟩, types, rest⟩ := bind_eq_ok.mp rest
  obtain ⟨transitions, added, rest⟩ := bind_eq_ok.mp rest
  obtain ⟨⟨abbrevition, f4⟩, -, rest⟩ := bind_eq_ok.mp rest
  obtain rfl := Except.ok.inj rest
  refine ⟨?_, addTransitions_ok added⟩
  have nonneg : ¬c.typeCnt < 0 := by
    intro negative
    rw [reserve, if_pos negative] at room
    cases room
  have length := readMany_ok types
  dsimp only
  omega

/-- The data of a block are what the numbers at its beginning say. -/
theorem readDataBlock_ok {f : File} {v1 : Bool} {d : Data}
    (done : readDataBlock f v1 = .ok (some d)) : ReadFrom (countsAt f.content f.position) d := by
  obtain ⟨⟨c, g⟩, counts, rest⟩ := bind_eq_ok.mp done
  obtain ⟨rfl, rfl⟩ := readCounts_ok counts
  dsimp only at rest
  split at rest
  · cases rest
  split at rest
  · cases rest
  split at rest
  · cases rest
  obtain ⟨data, read, rest⟩ := bind_eq_ok.mp rest
  obtain rfl := Option.some.inj (Except.ok.inj rest)
  exact readZone_ok read

/-- A header whose first bytes were accepted. -/
theorem readHead_ok {f g : File} (done : readHead f = .ok g) : g = f.advance 4 := by
  obtain ⟨⟨head, next⟩, read, rest⟩ := bind_eq_ok.mp done
  obtain ⟨-, rfl⟩ := @File.readBytes_ok f _ 4 _ read
  dsimp only at rest
  split at rest
  · cases rest
  · exact (Except.ok.inj rest).symm

/-- The block of a file that is read. -/
theorem readContent_ok {content : List UInt8} {data : Option Data}
    (done : readContent ⟨content, 0⟩ = .ok data) :
    ∃ v1, readDataBlock ⟨content, blockAt content⟩ v1 = .ok data := by
  obtain ⟨f1, head, rest⟩ := bind_eq_ok.mp done
  obtain rfl := readHead_ok head
  obtain ⟨⟨version, f2⟩, second, rest⟩ := bind_eq_ok.mp rest
  obtain ⟨rfl, rfl⟩ := @File.readBytes_ok _ _ 1 _ second
  obtain ⟨⟨_, f3⟩, third, rest⟩ := bind_eq_ok.mp rest
  obtain ⟨-, rfl⟩ := @File.readBytes_ok _ _ 15 _ third
  obtain ⟨⟨c, f4⟩, counts, rest⟩ := bind_eq_ok.mp rest
  obtain ⟨rfl, rfl⟩ := readCounts_ok counts
  simp only [File.advance, File.ahead, Nat.zero_add, Nat.reduceAdd] at rest
  rw [blockAt]
  by_cases two : (content.drop 4).take 1 = bytes "2"
  · rw [if_pos two] at rest ⊢
    obtain ⟨f5, again, rest⟩ := bind_eq_ok.mp rest
    obtain rfl := readHead_ok again
    rw [File.advance, File.skip_content] at rest
    generalize (File.skip ⟨content, 44⟩ (countsAt content 20).skipped).position = start at rest ⊢
    have sum : ((start + 4 : Nat) : Int) + 16 = (start + 20 : Nat) := by omega
    rw [@File.skip_eq ⟨content, start + 4⟩ _ _ sum] at rest
    exact ⟨false, rest⟩
  · rw [if_neg two] at rest ⊢
    exact ⟨true, rest⟩

/-- The data of a file that was loaded. -/
theorem loadZoneFile_ok {content : List UInt8} {d : Data}
    (loaded : loadZoneFile (some content) = .ok ⟨some d⟩) :
    ReadFrom (countsAt content (blockAt content)) d := by
  obtain ⟨data, read, rest⟩ := bind_eq_ok.mp loaded
  obtain rfl : data = some d := congrArg TimeZone.data (Except.ok.inj rest)
  rw [readTimeZoneFile] at read
  split at read
  next found parsed =>
    obtain rfl := Except.ok.inj read
    obtain ⟨v1, block⟩ := readContent_ok parsed
    have data := readDataBlock_ok block
    exact data
  · cases read
  · cases read

/-- With the data of a file, `toLocalTime` returns exactly when there is a local time, in whatever
order the transitions are. -/
theorem ReadFrom.toLocalTime_iff {c : Counts} {d : Data} (read : ReadFrom c d) (seconds : Int) :
    (∃ result, toLocalTime ⟨some d⟩ seconds = .ok result) ↔ d.localtimes ≠ [] := by
  have local_iff (index : Nat) :
      (∃ found, d.localTimeAt index = .ok found) ↔ index < d.localtimes.length := by
    rw [Data.localTimeAt]
    cases found : d.localtimes[index]? with
    | none => simpa using List.getElem?_eq_none_iff.mp found
    | some localTime => simpa using (List.getElem?_eq_some_iff.mp found).1
  have through : (∃ result, toLocalTime ⟨some d⟩ seconds = .ok result) ↔
      ∃ found, d.findLocalTime seconds = .ok found := by
    rw [toLocalTime, access, ok_bind]
    cases d.findLocalTime seconds with
    | error fault => simp [error_bind]
    | ok found => simp [ok_bind]
  rw [through]
  obtain ⟨-, search⟩ | ⟨transition, member, -, search⟩ := d.findLocalTime_cases seconds
  · rw [search, local_iff]
    exact List.length_pos_iff
  · have inside := read.indexes transition member
    rw [search, local_iff]
    exact ⟨fun _ => List.length_pos_iff.mp (Nat.zero_lt_of_lt inside), fun _ => inside⟩

/-- For every file, whatever its bytes are: when it loads as a valid zone, `toLocalTime` of every
second returns, without a read outside a vector and without a failed assertion, exactly when the
block that was read says that there is a local time. -/
theorem loaded_toLocalTime_iff {content : List UInt8} {zone : TimeZone}
    (loaded : loadZoneFile (some content) = .ok zone) (valid : zone.valid = true) (seconds : Int) :
    (∃ result, zone.toLocalTime seconds = .ok result) ↔
      (countsAt content (blockAt content)).typeCnt ≠ 0 := by
  obtain ⟨data⟩ := zone
  cases data with
  | none => cases valid
  | some d =>
    have read := loadZoneFile_ok loaded
    have types := read.types
    rw [read.toLocalTime_iff, ← List.length_pos_iff]
    omega

/-- A file of version 1 with one local time and no transition. -/
def singleZoneFile : List UInt8 :=
  bytes "TZlf" ++ List.replicate 32 0 ++ [0, 0, 0, 1, 0, 0, 0, 4] ++ List.replicate 6 0 ++
    bytes "UTC" ++ [0]

/-- The file with one local time. -/
theorem single_toLocalTime :
    loadZoneFile (some singleZoneFile) =
      .ok ⟨some ⟨[], [⟨0, false, 0⟩], bytes "UTC" ++ [0], []⟩⟩ ∧
    ∃ result, toLocalTime ⟨some ⟨[], [⟨0, false, 0⟩], bytes "UTC" ++ [0], []⟩⟩ 0 = .ok result := by
  have loaded : loadZoneFile (some singleZoneFile) =
      .ok ⟨some ⟨[], [⟨0, false, 0⟩], bytes "UTC" ++ [0], []⟩⟩ := by decide +kernel
  have one : (countsAt singleZoneFile (blockAt singleZoneFile)).typeCnt ≠ 0 := by decide +kernel
  have returns := loaded_toLocalTime_iff loaded rfl 0
  exact ⟨loaded, returns.mpr one⟩

/-- A file without local times loads as a valid zone, and `toLocalTime` reads the first of them. -/
theorem typeless_toLocalTime :
    loadZoneFile (some (bytes "TZlf" ++ List.replicate 40 0)) = .ok ⟨some ⟨[], [], [], []⟩⟩ ∧
    valid ⟨some ⟨[], [], [], []⟩⟩ = true ∧
    toLocalTime ⟨some ⟨[], [], [], []⟩⟩ 0 = .error .outOfRange := by
  exact ⟨by decide, rfl, by decide⟩

end TimeZone

end Muduo
