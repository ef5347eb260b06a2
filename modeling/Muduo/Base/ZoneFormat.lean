import Muduo.Base.ZoneFile

/-!
# The format of zone files

A `ZoneDescription` is what a zone file says, and `fileBytes` are its bytes in both versions of the
format, for any four bytes at the beginning of the headers. With the four bytes that the reader asks
for it takes every file back to its description. The standard has `TZif` there, and the reader asks
for `TZlf`.
-/

open Outcome

namespace Muduo

/-- What a zone file describes. -/
structure ZoneDescription where
  /-- The local time types. -/
  types : List TimeZone.LocalTime
  /-- The transitions: a second, and the number of a type. -/
  times : List (Int × Nat)
  /-- The abbreviations of the types. -/
  abbreviations : List UInt8
  /-- The standard indicators, if there are any. -/
  standard : List UInt8
  /-- The UT indicators, if there are any. -/
  universal : List UInt8
  /-- Offsets have 32 bits. -/
  offsets : ∀ type ∈ types, -2 ^ 31 ≤ type.utcOffset ∧ type.utcOffset < 2 ^ 31
  /-- Positions of abbreviations have one byte. -/
  designations : ∀ type ∈ types, type.desigIdx < 256
  /-- Transitions refer to a type by one byte. -/
  references : ∀ time ∈ times, time.2 < types.length ∧ time.2 < 256
  /-- The numbers of all these have 32 bits. -/
  counts : times.length < 2 ^ 31 ∧ types.length < 2 ^ 31 ∧ abbreviations.length < 2 ^ 31
  /-- There are as many standard indicators as types, or none. -/
  standards : standard = [] ∨ standard.length = types.length
  /-- There are as many UT indicators as types, or none. -/
  universals : universal = [] ∨ universal.length = types.length

namespace ZoneDescription

variable (z : ZoneDescription)

/-- The offset of a type. -/
def offset (index : Nat) : Int := (z.types[index]?.map (·.utcOffset)).getD 0

/-- The transitions with their local times. -/
def transitions : List TimeZone.Transition :=
  z.times.map fun time => ⟨time.1, time.1 + z.offset time.2, time.2⟩

/-- The numbers of a header. -/
def headerCounts : Counts where
  isUtcCnt := z.universal.length
  isStdCnt := z.standard.length
  leapCnt := 0
  timeCnt := z.times.length
  typeCnt := z.types.length
  charCnt := z.abbreviations.length

/-- The bytes of the numbers of a header. -/
def countBytes (c : Counts) : List UInt8 :=
  encodeInt 4 c.isUtcCnt ++ (encodeInt 4 c.isStdCnt ++ (encodeInt 4 c.leapCnt ++
    (encodeInt 4 c.timeCnt ++ (encodeInt 4 c.typeCnt ++ encodeInt 4 c.charCnt))))

/-- The bytes of a type. -/
def typeBytes (type : TimeZone.LocalTime) : List UInt8 :=
  encodeInt 4 type.utcOffset ++ [if type.isDst then 1 else 0, type.desigIdx.toUInt8]

/-- The bytes of a block, with times of so many bytes. -/
def blockBytes (size : Nat) : List UInt8 :=
  z.times.flatMap (fun time => encodeInt size time.1) ++
    (z.times.flatMap (fun time => [time.2.toUInt8]) ++
      (z.types.flatMap typeBytes ++ (z.abbreviations ++ (z.standard ++ z.universal))))

end ZoneDescription

/-- All transitions, and their local times, are integers of so many bits. -/
def ZoneDescription.Fits (z : ZoneDescription) (bits : Nat) : Prop :=
  ∀ time ∈ z.transitions, (-2 ^ (bits - 1) ≤ time.utctime ∧ time.utctime < 2 ^ (bits - 1)) ∧
    -2 ^ 63 ≤ time.localtime ∧ time.localtime < 2 ^ 63

/-- A zone file in one of the versions of the format. -/
inductive ZoneEncoding
  /-- Version 1: one block with times of four bytes. -/
  | one (zone : ZoneDescription) (narrow : zone.Fits 32)
  /-- Version 2: a block for readers of version 1, a block with times of eight bytes, and a
  footer. -/
  | two (legacy zone : ZoneDescription) (wide : zone.Fits 64) (footer : List UInt8)

namespace ZoneEncoding

/-- The zone that a reader of the version should have. -/
def zone : ZoneEncoding → ZoneDescription
  | one zone _ => zone
  | two _ zone _ _ => zone

/-- A header: its first bytes, the version, fifteen bytes for later use, and the numbers. -/
def headerBytes (magic : List UInt8) (version : UInt8) (z : ZoneDescription) : List UInt8 :=
  magic ++ (version :: (List.replicate 15 0 ++ ZoneDescription.countBytes z.headerCounts))

/-- The bytes of a file whose headers begin with the given bytes. -/
def fileBytes (magic : List UInt8) : ZoneEncoding → List UInt8
  | one zone _ => headerBytes magic 0 zone ++ zone.blockBytes 4
  | two legacy zone _ footer =>
    headerBytes magic 50 legacy ++ (legacy.blockBytes 4 ++ (headerBytes magic 50 zone ++
      (zone.blockBytes 8 ++ (10 :: (footer ++ [10])))))

/-- The bytes of a standard file. -/
def standardBytes (e : ZoneEncoding) : List UInt8 := e.fileBytes (bytes "TZif")

end ZoneEncoding

namespace TimeZone

/-- A file loads as a valid zone that has exactly the described local times and transitions. -/
def Decodes (content : List UInt8) (z : ZoneDescription) : Prop :=
  ∃ zone d, loadZoneFile (some content) = .ok zone ∧ zone.valid = true ∧ zone.data = some d ∧
    d.localtimes = z.types ∧ d.transitions = z.transitions

/-- A file that does not begin with the four bytes that the reader asks for is not loaded. -/
theorem loadZoneFile_magic {magic rest : List UInt8} (length : magic.length = 4)
    (other : magic ≠ bytes "TZlf") : loadZoneFile (some (magic ++ rest)) = .ok ⟨none⟩ := by
  have front : File.ahead ⟨magic ++ rest, 0⟩ 4 = magic := by
    rw [File.ahead, List.drop_zero, ← length, List.take_left]
  have read : File.readBytes ⟨magic ++ rest, 0⟩ 4 =
      .ok (magic, File.advance ⟨magic ++ rest, 0⟩ 4) := by
    have equation := File.readBytes_eq ⟨magic ++ rest, 0⟩ 4
    rw [front, if_pos length] at equation
    exact equation
  have refused : readContent ⟨magic ++ rest, 0⟩ = .error (.logicError "bad head") := by
    rw [readContent, readHead, read, ok_bind]
    dsimp only
    rw [if_pos other, error_bind]
  rw [loadZoneFile, readTimeZoneFile]
  simp only [refused, ok_bind]

/-- No standard file is loaded. -/
theorem loadZoneFile_standard (e : ZoneEncoding) :
    loadZoneFile (some e.standardBytes) = .ok ⟨none⟩ := by
  have length : (bytes "TZif").length = 4 := by decide
  have other : bytes "TZif" ≠ bytes "TZlf" := by decide
  cases e with
  | one zone narrow =>
    rw [ZoneEncoding.standardBytes, ZoneEncoding.fileBytes, ZoneEncoding.headerBytes,
      List.append_assoc]
    exact loadZoneFile_magic length other
  | two legacy zone wide footer =>
    rw [ZoneEncoding.standardBytes, ZoneEncoding.fileBytes, ZoneEncoding.headerBytes,
      List.append_assoc]
    exact loadZoneFile_magic length other

/-- A file that loads as an invalid zone decodes to nothing. -/
theorem not_decodes_of_invalid {content : List UInt8} {z : ZoneDescription}
    (invalid : loadZoneFile (some content) = .ok ⟨none⟩) : ¬Decodes content z := by
  rintro ⟨zone, d, loaded, valid, -⟩
  obtain rfl := Except.ok.inj (invalid.symm.trans loaded)
  cases valid

/-- No standard file of either version is read, whatever it describes. -/
theorem standard_not_decodes (e : ZoneEncoding) : ¬Decodes e.standardBytes e.zone :=
  not_decodes_of_invalid (loadZoneFile_standard e)

/-- The zone of UTC. -/
def utcDescription : ZoneDescription where
  types := [⟨0, false, 0⟩]
  times := []
  abbreviations := bytes "UTC" ++ [0]
  standard := []
  universal := []
  offsets := by decide
  designations := by decide
  references := nofun
  counts := by decide
  standards := .inl rfl
  universals := .inl rfl

/-- The standard file of UTC, in version 1, is refused. -/
theorem utc_not_decodes :
    loadZoneFile (some (ZoneEncoding.one utcDescription nofun).standardBytes) = .ok ⟨none⟩ ∧
      ¬Decodes (ZoneEncoding.one utcDescription nofun).standardBytes utcDescription := by
  have refused : loadZoneFile (some (ZoneEncoding.one utcDescription nofun).standardBytes) =
      .ok ⟨none⟩ := by decide +kernel
  exact ⟨refused, not_decodes_of_invalid refused⟩

end TimeZone

/-- Texts of one length after the other. -/
theorem length_flatMap_const {α : Type} {text : α → List UInt8} {size : Nat}
    (each : ∀ item, (text item).length = size) {list : List α} :
    (list.flatMap text).length = size * list.length := by
  induction list with
  | nil => rfl
  | cons item list ih =>
    rw [List.flatMap_cons, List.length_append, each, ih, List.length_cons, Nat.mul_succ,
      Nat.add_comm]

namespace File

variable {f : File} {rest : List UInt8}

/-- What the file holds from the position on. -/
def Holds (f : File) (text : List UInt8) : Prop := f.content.drop f.position = text

/-- The bytes that come next. -/
theorem Holds.ahead {front : List UInt8} (holds : f.Holds (front ++ rest)) :
    f.ahead front.length = front := by
  rw [File.ahead, show f.content.drop f.position = front ++ rest from holds, List.take_left]

/-- What is behind the bytes that come next. -/
theorem Holds.advance {front : List UInt8} (holds : f.Holds (front ++ rest)) :
    (f.advance front.length).Holds rest := by
  have tail : f.content.drop (f.position + front.length) = rest := by
    rw [← List.drop_drop, show f.content.drop f.position = front ++ rest from holds,
      List.drop_left]
  exact tail

end File

/-- A reader takes a value from its bytes, whatever comes behind them, and no more bytes than
those. -/
def Reads {α : Type} (read : File → Except Stop (α × File)) (text : List UInt8) (value : α) :
    Prop :=
  ∀ f rest, File.Holds f (text ++ rest) → read f = .ok (value, f.advance text.length)

/-- Bytes are read as a number. -/
theorem reads_number {text : List UInt8} {size : Nat} (length : text.length = size)
    (what : String) : Reads (File.readNumber · size what) text (bigEndian text) := by
  intro f rest holds
  subst length
  dsimp only
  rw [File.readNumber_eq, holds.ahead, if_pos rfl]

/-- Bytes are read as they are. -/
theorem reads_bytes (text : List UInt8) : Reads (File.readBytes · text.length) text text := by
  intro f rest holds
  dsimp only
  rw [File.readBytes_eq, holds.ahead, if_pos rfl]

/-- An integer of 32 bits is read back. -/
theorem reads_int32 {value : Int} (range : -2 ^ 31 ≤ value ∧ value < 2 ^ 31) :
    Reads File.readInt32 (encodeInt 4 value) value := by
  intro f rest holds
  have number := reads_number (length_encodeInt 4 value) "bad int64_t data" f rest holds
  have same : wrapInt (bigEndian (encodeInt 4 value)) = value :=
    @bmod_encodeInt 4 value (by omega) (by omega)
  dsimp only at number
  rw [File.readInt32, number, ok_bind]
  dsimp only
  rw [same]

/-- An integer of 64 bits is read back. -/
theorem reads_int64 {value : Int} (range : -2 ^ 63 ≤ value ∧ value < 2 ^ 63) :
    Reads File.readInt64 (encodeInt 8 value) value := by
  intro f rest holds
  have number := reads_number (length_encodeInt 8 value) "bad int64_t data" f rest holds
  have same : wrapInt64 (bigEndian (encodeInt 8 value)) = value :=
    @bmod_encodeInt 8 value (by omega) (by omega)
  dsimp only at number
  rw [File.readInt64, number, ok_bind]
  dsimp only
  rw [same]

/-- A small number is read back from its byte. -/
theorem reads_uint8 {number : Nat} (small : number < 256) :
    Reads File.readUint8 [number.toUInt8] number := by
  intro f rest holds
  have one : [number.toUInt8].length = 1 := rfl
  have read := reads_number one "bad uint8_t data" f rest holds
  have value : bigEndian [number.toUInt8] = number := by
    simp [bigEndian, UInt8.toNat_ofNat_of_lt' small]
  rw [value] at read
  exact read

/-- Bytes one after the other are passed one after the other. -/
theorem File.advance_advance (f : File) (first second : Nat) :
    (f.advance first).advance second = f.advance (first + second) := by
  rw [File.advance, File.advance, File.advance, Nat.add_assoc]

/-- A loop reads back as many values as it is asked for. -/
theorem reads_many {α β : Type} {read : File → Except Stop (β × File)} {text : α → List UInt8}
    {value : α → β} {list : List α} (each : ∀ item ∈ list, Reads read (text item) (value item)) :
    Reads (readMany read list.length) (list.flatMap text) (list.map value) := by
  induction list with
  | nil =>
    intro f rest holds
    rfl
  | cons item list ih =>
    intro f rest holds
    rw [List.flatMap_cons, List.append_assoc] at holds
    have first := each item List.mem_cons_self f _ holds
    have others := ih (fun other later => each other (List.mem_cons_of_mem _ later)) _ _
      holds.advance
    rw [List.length_cons, readMany, first, ok_bind]
    dsimp only
    rw [others, ok_bind]
    dsimp only
    rw [List.flatMap_cons, List.length_append, List.map_cons, File.advance_advance]

/-- A seek forward passes bytes. -/
theorem File.skip_natCast (f : File) (size : Nat) : f.skip size = f.advance size :=
  File.skip_eq (by omega)

/-- A seek back over bytes that were passed. -/
theorem File.advance_skip (f : File) (size : Nat) : (f.advance size).skip (-size) = f := by
  have back : ((f.position + size : Nat) : Int) + -size = f.position := by omega
  exact File.skip_eq back

/-- The numbers of a header have 24 bytes. -/
theorem ZoneDescription.length_countBytes (c : Counts) : (countBytes c).length = 24 := by
  simp [countBytes, length_encodeInt]

/-- The numbers of a header are read back. -/
theorem reads_counts {c : Counts} (utc : -2 ^ 31 ≤ c.isUtcCnt ∧ c.isUtcCnt < 2 ^ 31)
    (std : -2 ^ 31 ≤ c.isStdCnt ∧ c.isStdCnt < 2 ^ 31)
    (leap : -2 ^ 31 ≤ c.leapCnt ∧ c.leapCnt < 2 ^ 31)
    (time : -2 ^ 31 ≤ c.timeCnt ∧ c.timeCnt < 2 ^ 31)
    (type : -2 ^ 31 ≤ c.typeCnt ∧ c.typeCnt < 2 ^ 31)
    (char : -2 ^ 31 ≤ c.charCnt ∧ c.charCnt < 2 ^ 31) :
    Reads readCounts (ZoneDescription.countBytes c) c := by
  intro f rest holds
  simp only [ZoneDescription.countBytes, List.append_assoc] at holds
  have first := reads_int32 utc f _ holds
  have second := reads_int32 std _ _ holds.advance
  have third := reads_int32 leap _ _ holds.advance.advance
  have fourth := reads_int32 time _ _ holds.advance.advance.advance
  have fifth := reads_int32 type _ _ holds.advance.advance.advance.advance
  have sixth := reads_int32 char _ _ holds.advance.advance.advance.advance.advance
  simp only [readCounts, first, second, third, fourth, fifth, sixth, ok_bind]
  simp only [ZoneDescription.countBytes, List.length_append, File.advance_advance, Nat.add_assoc]

/-- A type is read back. -/
theorem reads_type {type : TimeZone.LocalTime}
    (range : -2 ^ 31 ≤ type.utcOffset ∧ type.utcOffset < 2 ^ 31) (small : type.desigIdx < 256) :
    Reads TimeZone.readLocalTime (ZoneDescription.typeBytes type) type := by
  intro f rest holds
  have byte : (if type.isDst then 1 else 0 : UInt8) =
      (if type.isDst then 1 else 0 : Nat).toUInt8 := by split <;> rfl
  have parts : ZoneDescription.typeBytes type = encodeInt 4 type.utcOffset ++
      ([(if type.isDst then 1 else 0 : Nat).toUInt8] ++ [type.desigIdx.toUInt8]) := by
    rw [ZoneDescription.typeBytes, byte]
    rfl
  rw [parts]
  rw [parts] at holds
  simp only [List.append_assoc] at holds
  have flag : (if type.isDst then 1 else 0 : Nat) < 256 := by split <;> decide
  have first := reads_int32 range f _ holds
  have second := reads_uint8 flag _ _ holds.advance
  have third := reads_uint8 small _ _ holds.advance.advance
  have dst : ((if type.isDst then 1 else 0 : Nat) != 0) = type.isDst := by
    cases type.isDst <;> rfl
  simp only [TimeZone.readLocalTime, first, second, third, ok_bind, dst]
  simp only [List.length_append, File.advance_advance, Nat.add_assoc]

namespace ZoneDescription

variable {z : ZoneDescription}

/-- The transitions that are added are those described. -/
theorem addTransitions_eq {times : List (Int × Nat)}
    (each : ∀ time ∈ times, time.2 < z.types.length ∧
      -2 ^ 63 ≤ time.1 + z.offset time.2 ∧ time.1 + z.offset time.2 < 2 ^ 63) :
    TimeZone.addTransitions z.types (times.map Prod.fst) (times.map Prod.snd) =
      .ok (times.map fun time => ⟨time.1, time.1 + z.offset time.2, time.2⟩) := by
  induction times with
  | nil => rfl
  | cons time times ih =>
    obtain ⟨inside, lower, upper⟩ := each time List.mem_cons_self
    have found := List.getElem?_eq_getElem inside
    have offset : z.offset time.2 = z.types[time.2].utcOffset := by
      rw [ZoneDescription.offset, found]
      rfl
    have kept : wrapInt64 (time.1 + z.types[time.2].utcOffset) =
        time.1 + z.types[time.2].utcOffset := by
      rw [offset] at lower upper
      exact Int.bmod_eq_of_le (by omega) (by omega)
    have first : TimeZone.addTransition z.types time.1 time.2 =
        .ok ⟨time.1, time.1 + z.offset time.2, time.2⟩ := by
      simp only [TimeZone.addTransition, found]
      rw [kept, offset]
    have others := ih fun other later => each other (List.mem_cons_of_mem _ later)
    simp only [List.map_cons, TimeZone.addTransitions, first, others, ok_bind]

/-- How many bytes a time has in a block. -/
def timeSize (v1 : Bool) : Nat := if v1 then 4 else 8

/-- The times of a block are read back. -/
theorem reads_times (v1 : Bool) (fits : z.Fits (8 * timeSize v1)) :
    Reads (readMany (if v1 then File.readInt32 else File.readInt64) z.times.length)
      (z.times.flatMap fun time => encodeInt (timeSize v1) time.1) (z.times.map Prod.fst) := by
  refine reads_many fun time member => ?_
  have range := (fits _ (List.mem_map_of_mem member)).1
  cases v1 with
  | true => exact reads_int32 range
  | false => exact reads_int64 range

/-- A block is read back, with what is behind it. -/
theorem readZone_eq {v1 : Bool} (fits : z.Fits (8 * timeSize v1)) {f : File} {rest : List UInt8}
    (holds : f.Holds (z.blockBytes (timeSize v1) ++ rest)) :
    TimeZone.readZone z.headerCounts v1 f =
      .ok ⟨z.transitions, z.types, z.abbreviations, if v1 then [] else rest⟩ := by
  simp only [blockBytes, List.append_assoc] at holds
  have behindTimes := holds.advance
  have behindIndexes := behindTimes.advance
  have behindTypes := behindIndexes.advance
  have behindNames := behindTypes.advance
  have behindStandard := behindNames.advance
  have behindAll := behindStandard.advance
  have times := reads_times v1 fits f _ holds
  have indexes : Reads (readMany File.readUint8 z.times.length)
      (z.times.flatMap fun time => [time.2.toUInt8]) (z.times.map Prod.snd) :=
    reads_many fun time member => reads_uint8 (z.references time member).2
  have types : Reads (readMany TimeZone.readLocalTime z.types.length)
      (z.types.flatMap typeBytes) (z.types.map id) :=
    reads_many fun type member => reads_type (z.offsets type member) (z.designations type member)
  have second := indexes _ _ behindTimes
  have third := types _ _ behindIndexes
  have fourth := reads_bytes z.abbreviations _ _ behindTypes
  have added : TimeZone.addTransitions z.types (z.times.map Prod.fst) (z.times.map Prod.snd) =
      .ok z.transitions :=
    addTransitions_eq fun time member =>
      ⟨(z.references time member).1, (fits _ (List.mem_map_of_mem member)).2⟩
  have room (count : Nat) : reserve (count : Int) = .ok () := if_neg (by omega)
  have zero (g : File) (factor : Int) : g.skip (0 * factor) = g := by
    rw [Int.zero_mul]
    exact File.skip_eq (by omega)
  rw [List.map_id] at third
  simp only [TimeZone.readZone, headerCounts, room, ok_bind, Int.toNat_natCast, times, second,
    third, added, fourth, zero, File.skip_natCast]
  cases v1 with
  | true => rfl
  | false =>
    have tail : File.readToEnd _ = rest := behindAll
    rw [tail]

/-- There are no more indicators than types. -/
theorem indicators_le {indicators : List UInt8}
    (either : indicators = [] ∨ indicators.length = z.types.length) :
    indicators.length ≤ z.types.length := by
  obtain none | same := either
  · rw [none]
    exact Nat.zero_le _
  · exact same.le

/-- The number of indicators passes the check of `readDataBlock`. -/
theorem indicators_accepted {indicators : List UInt8}
    (either : indicators = [] ∨ indicators.length = z.types.length) :
    ¬((indicators.length : Int) ≠ 0 ∧ (indicators.length : Int) ≠ z.types.length) := by
  rintro ⟨some, other⟩
  obtain none | same := either
  · exact some (by rw [none]; rfl)
  · exact other (by rw [same])

/-- The numbers of a header of a description are read back. -/
theorem reads_header (z : ZoneDescription) : Reads readCounts (countBytes z.headerCounts)
    z.headerCounts := by
  obtain ⟨times, types, names⟩ := z.counts
  have standards := indicators_le z.standards
  have universals := indicators_le z.universals
  have range {count : Nat} (small : count < 2 ^ 31) :
      -2 ^ 31 ≤ (count : Int) ∧ (count : Int) < 2 ^ 31 := by omega
  have none := @range 0 (by decide)
  exact reads_counts (range (by omega)) (range (by omega)) none (range times) (range types)
    (range names)

/-- What a reader should have of a block. -/
def data (z : ZoneDescription) (tzstring : List UInt8) : TimeZone.Data :=
  ⟨z.transitions, z.types, z.abbreviations, tzstring⟩

/-- A block with its numbers is read back. -/
theorem readDataBlock_eq {v1 : Bool} (fits : z.Fits (8 * timeSize v1)) {f : File}
    {rest : List UInt8}
    (holds : f.Holds (countBytes z.headerCounts ++ (z.blockBytes (timeSize v1) ++ rest))) :
    TimeZone.readDataBlock f v1 = .ok (some (z.data (if v1 then [] else rest))) := by
  have counts := z.reads_header f _ holds
  have universals : ¬(z.headerCounts.isUtcCnt ≠ 0 ∧
      z.headerCounts.isUtcCnt ≠ z.headerCounts.typeCnt) := indicators_accepted z.universals
  have standards : ¬(z.headerCounts.isStdCnt ≠ 0 ∧
      z.headerCounts.isStdCnt ≠ z.headerCounts.typeCnt) := indicators_accepted z.standards
  have leaps : ¬z.headerCounts.leapCnt ≠ 0 := not_not.mpr rfl
  rw [TimeZone.readDataBlock, counts, ok_bind]
  dsimp only
  rw [if_neg leaps, if_neg universals, if_neg standards, readZone_eq fits holds.advance, ok_bind]
  rfl

/-- The first block of a file of version 2 is passed over. -/
theorem skipped_eq (z : ZoneDescription) (few : 6 * z.types.length < 2 ^ 31) :
    z.headerCounts.skipped = (z.blockBytes 4).length := by
  obtain ⟨times, types, names⟩ := z.counts
  have standards := indicators_le z.standards
  have universals := indicators_le z.universals
  have size : (z.blockBytes 4).length = 4 * z.times.length + z.times.length +
      6 * z.types.length + z.abbreviations.length + z.standard.length + z.universal.length := by
    have inTimes := @length_flatMap_const _ (fun time : Int × Nat => encodeInt 4 time.1) 4
      (fun time => length_encodeInt 4 time.1) z.times
    have inIndexes := @length_flatMap_const _ (fun time : Int × Nat => [time.2.toUInt8]) 1
      (fun _ => rfl) z.times
    have inTypes := @length_flatMap_const _ typeBytes 6
      (fun type => by simp [typeBytes, length_encodeInt]) z.types
    simp only [blockBytes, List.length_append]
    omega
  have six : wrapInt (6 * (z.types.length : Int)) = 6 * z.types.length :=
    wrapInt_of_lt (by omega) (by omega)
  have eight : wrapInt (8 * 0) = 0 := by decide
  rw [size]
  simp only [Counts.skipped, headerCounts, six, eight]
  rw [wrapInt64, Int.bmod_eq_of_le (by omega) (by omega)]
  omega

end ZoneDescription

namespace TimeZone

/-- The bytes at the beginning of a header that the reader asks for. -/
theorem readHead_eq {f : File} {rest : List UInt8} (holds : f.Holds (bytes "TZlf" ++ rest)) :
    readHead f = .ok (f.advance 4) := by
  have read := reads_bytes (bytes "TZlf") f rest holds
  have four : (bytes "TZlf").length = 4 := by decide
  rw [four] at read
  dsimp only at read
  rw [readHead, show f.readBytes 4 = _ from read, ok_bind]
  exact if_neg (not_not.mpr rfl)

/-- A header up to its numbers. -/
theorem readContent_eq {version : UInt8} {z : ZoneDescription} {rest : List UInt8} {f : File}
    (holds : f.Holds (ZoneEncoding.headerBytes (bytes "TZlf") version z ++ rest)) :
    (f.advance 20).Holds (ZoneDescription.countBytes z.headerCounts ++ rest) ∧
    readContent f =
      if [version] = bytes "2" then do
        let g ← readHead (((f.advance 20).advance 24).skip z.headerCounts.skipped)
        readDataBlock (g.skip 16) false
      else readDataBlock (f.advance 20) true := by
  have four : (bytes "TZlf").length = 4 := by decide
  have fifteen : (List.replicate 15 (0 : UInt8)).length = 15 := by decide
  have parts : ZoneEncoding.headerBytes (bytes "TZlf") version z ++ rest =
      bytes "TZlf" ++ ([version] ++ (List.replicate 15 0 ++
        (ZoneDescription.countBytes z.headerCounts ++ rest))) := by
    simp [ZoneEncoding.headerBytes]
  rw [parts] at holds
  have head := readHead_eq holds
  have behind := holds.advance
  rw [four] at behind
  have second := reads_bytes [version] _ _ behind
  have third := reads_bytes (List.replicate 15 0) _ _ behind.advance
  have counts := z.reads_header _ _ behind.advance.advance
  have last := behind.advance.advance
  rw [fifteen, List.length_singleton, File.advance_advance, File.advance_advance] at last
  refine ⟨last, ?_⟩
  rw [ZoneDescription.length_countBytes, fifteen, List.length_singleton, File.advance_advance,
    File.advance_advance] at counts
  rw [fifteen, List.length_singleton, File.advance_advance, File.advance_advance] at third
  rw [List.length_singleton, File.advance_advance] at second
  have back : ((f.advance 20).advance 24).skip (-4 * 6) = f.advance 20 :=
    File.advance_skip (f.advance 20) 24
  rw [readContent, head, ok_bind, show (f.advance 4).readBytes 1 = _ from second, ok_bind]
  dsimp only
  rw [show (f.advance 5).readBytes 15 = _ from third, ok_bind]
  dsimp only
  rw [counts, ok_bind]
  dsimp only
  rw [back]

/-- A file of version 1 whose header begins as the reader asks for is read back. -/
theorem decodes_one (z : ZoneDescription) (narrow : z.Fits 32) :
    Decodes ((ZoneEncoding.one z narrow).fileBytes (bytes "TZlf")) z := by
  have all : File.Holds ⟨(ZoneEncoding.one z narrow).fileBytes (bytes "TZlf"), 0⟩
      (ZoneEncoding.headerBytes (bytes "TZlf") 0 z ++ (z.blockBytes 4 ++ [])) := by
    rw [File.Holds, List.drop_zero, ZoneEncoding.fileBytes, List.append_nil]
  obtain ⟨holds, content⟩ := readContent_eq all
  have other : ¬[(0 : UInt8)] = bytes "2" := by decide
  rw [if_neg other, @ZoneDescription.readDataBlock_eq z true narrow _ _ holds] at content
  refine ⟨⟨some (z.data [])⟩, z.data [], ?_, rfl, rfl, rfl, rfl⟩
  rw [loadZoneFile, readTimeZoneFile]
  simp only [content, ok_bind, ↓reduceIte]

/-- A file of version 2 whose headers begin as the reader asks for is read back. -/
theorem decodes_two (legacy z : ZoneDescription) (wide : z.Fits 64) (footer : List UInt8)
    (few : 6 * legacy.types.length < 2 ^ 31) :
    Decodes ((ZoneEncoding.two legacy z wide footer).fileBytes (bytes "TZlf")) z := by
  have all : File.Holds ⟨(ZoneEncoding.two legacy z wide footer).fileBytes (bytes "TZlf"), 0⟩
      (ZoneEncoding.headerBytes (bytes "TZlf") 50 legacy ++ (legacy.blockBytes 4 ++
        (ZoneEncoding.headerBytes (bytes "TZlf") 50 z ++ (z.blockBytes 8 ++
          (10 :: (footer ++ [10])))))) := by
    rw [File.Holds, List.drop_zero, ZoneEncoding.fileBytes]
  obtain ⟨holds, content⟩ := readContent_eq all
  have two : [(50 : UInt8)] = bytes "2" := by decide
  have behind := holds.advance
  rw [ZoneDescription.length_countBytes] at behind
  have block := behind.advance
  rw [if_pos two, legacy.skipped_eq few, File.skip_natCast] at content
  obtain ⟨second, -⟩ := readContent_eq block
  rw [readHead_eq (by simpa [ZoneEncoding.headerBytes] using block), ok_bind,
    show (16 : Int) = (16 : Nat) from rfl, File.skip_natCast, File.advance_advance] at content
  rw [@ZoneDescription.readDataBlock_eq z false wide _ _ second] at content
  refine ⟨⟨some (z.data (10 :: (footer ++ [10])))⟩, z.data _, ?_, rfl, rfl, rfl, rfl⟩
  rw [loadZoneFile, readTimeZoneFile]
  simp only [content, ok_bind, Bool.false_eq_true, ↓reduceIte]

end TimeZone

end Muduo
