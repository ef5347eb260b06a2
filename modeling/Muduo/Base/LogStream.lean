import Muduo.Base.Convert

/-!
# `dc::LogStream`

A stream writes its operands to a `FixedBuffer<kSmallBuffer>`, through pointers into its memory.
Text is accepted when it leaves a byte free; numbers are accepted when there is room for the longest
one, and are formatted in place with a NUL behind them. What is not accepted is dropped as a whole,
so the content is the texts of the accepted operands, one after the other.
-/

namespace Muduo

open Storage Outcome

/-- `kSmallBuffer`. -/
def kSmallBuffer : Nat := 4000

/-- `LogStream::kMaxNumbericSize`. -/
def kMaxNumbericSize : Nat := 48

/-- `LogStream::Buffer`, which is `FixedBuffer<kSmallBuffer>`, with its memory. -/
structure StreamBuffer where
  /-- `m_data`. -/
  data : List UInt8
  /-- `m_cur`, as an offset. -/
  cur : Nat
  deriving DecidableEq, Repr

namespace StreamBuffer

/-- `avail()`. -/
def avail (b : StreamBuffer) : Int := b.data.length - b.cur

/-- What `toString()` returns. -/
def content (b : StreamBuffer) : List UInt8 := b.data.take b.cur

/-- `toStringPiece()`. -/
def toStringPiece (b : StreamBuffer) : StringPiece := ⟨b.data, b.cur⟩

/-- `append(buf, len)`. -/
def append (b : StreamBuffer) (buf : List UInt8) (len : Nat) : Except Fault StreamBuffer :=
  if len < sizeOfInt b.avail then do
    let bytes ← load buf len
    let data ← store b.data b.cur bytes
    return { data, cur := b.cur + len }
  else .ok b

/-- `formatInteger(v)`. -/
def formatInteger (b : StreamBuffer) (v : Int) : Except Fault StreamBuffer :=
  if kMaxNumbericSize ≤ b.avail then do
    let (data, len) ← convert b.data b.cur v
    return { data, cur := b.cur + len }
  else .ok b

/-- `operator<<(const void*)`. -/
def formatPointer (b : StreamBuffer) (v : Nat) : Except Fault StreamBuffer :=
  if kMaxNumbericSize ≤ b.avail then do
    let data ← store b.data b.cur (bytes "0")
    let data ← store data (b.cur + 1) (bytes "x")
    let (data, len) ← convertHex data (b.cur + 2) v
    return { data, cur := b.cur + (len + 2) }
  else .ok b

/-- `operator<<(double)` of a number that `%.12g` prints as the text. -/
def formatDouble (b : StreamBuffer) (text : List UInt8) : Except Fault StreamBuffer :=
  if kMaxNumbericSize ≤ b.avail then do
    let data ← store b.data b.cur (snprintf kMaxNumbericSize text ++ [0])
    return { data, cur := b.cur + text.length }
  else .ok b

end StreamBuffer

/-- `strlen(str)`, where the argument is the memory from `str` on. -/
def strlen (memory : List UInt8) : Except Fault Nat :=
  if 0 ∈ memory then .ok (memory.takeWhile (· ≠ 0)).length else .error .outOfRange

/-- `Fmt`: the text that `snprintf` wrote to `m_buf`, which is shorter than it by the assertion of
the constructor. -/
structure Fmt where
  /-- The text. -/
  text : List UInt8
  /-- `m_length < sizeof m_buf`. -/
  short : text.length < 32

/-- An operand of `operator<<`. -/
inductive LogItem
  /-- `bool`. -/
  | bool (v : Bool)
  /-- `char`. -/
  | char (v : UInt8)
  /-- `const char*` or `const unsigned char*`: the memory from the pointer on, if it is not null. -/
  | cstring (str : Option (List UInt8))
  /-- `const string&`. -/
  | string (v : List UInt8)
  /-- `const StringPiece&`. -/
  | piece (v : StringPiece)
  /-- `const Buffer&`. -/
  | buffer (v : StreamBuffer)
  /-- `short`. -/
  | short (v : Int16)
  /-- `unsigned short`. -/
  | unsignedShort (v : UInt16)
  /-- `int`. -/
  | int (v : Int32)
  /-- `unsigned int`. -/
  | unsignedInt (v : UInt32)
  /-- `long`. -/
  | long (v : Int64)
  /-- `unsigned long`. -/
  | unsignedLong (v : UInt64)
  /-- `long long`. -/
  | longLong (v : Int64)
  /-- `unsigned long long`. -/
  | unsignedLongLong (v : UInt64)
  /-- `const void*`. -/
  | pointer (p : UInt64)
  /-- `float`, with the text that `%.12g` prints for it. -/
  | float (text : List UInt8)
  /-- `double`, with the text that `%.12g` prints for it. -/
  | double (text : List UInt8)
  /-- `const Fmt&`. -/
  | fmt (v : Fmt)

namespace StreamBuffer

/-- `operator<<`. -/
def insert (b : StreamBuffer) : LogItem → Except Fault StreamBuffer
  | .bool v => b.append (bytes (if v then "1" else "0")) 1
  | .char v => b.append [v] 1
  | .cstring none => b.append (bytes "(null)") 6
  | .cstring (some memory) => do b.append memory (← strlen memory)
  | .string v => b.append v v.length
  | .piece v => b.append v.data (sizeOfInt v.length)
  | .buffer v => b.append v.toStringPiece.data (sizeOfInt v.toStringPiece.length)
  | .short v => b.formatInteger v.toInt
  | .unsignedShort v => b.formatInteger v.toNat
  | .int v => b.formatInteger v.toInt
  | .unsignedInt v => b.formatInteger v.toNat
  | .long v => b.formatInteger v.toInt
  | .unsignedLong v => b.formatInteger v.toNat
  | .longLong v => b.formatInteger v.toInt
  | .unsignedLongLong v => b.formatInteger v.toNat
  | .pointer p => b.formatPointer p.toNat
  | .float text => b.formatDouble text
  | .double text => b.formatDouble text
  | .fmt v => b.append v.text v.text.length

/-- Operands inserted one after the other. -/
def inserts (b : StreamBuffer) : List LogItem → Except Fault StreamBuffer
  | [] => .ok b
  | item :: items => do
    let b ← b.insert item
    b.inserts items

/-- The memory has its size, and a byte of it is free. -/
structure Valid (b : StreamBuffer) : Prop where
  /-- `sizeof m_data`. -/
  size : b.data.length = kSmallBuffer
  /-- `avail() >= 1`. -/
  free : b.cur < kSmallBuffer

end StreamBuffer

namespace LogItem

/-- The text of an operand. -/
def text : LogItem → List UInt8
  | bool v => bytes (if v then "1" else "0")
  | char v => [v]
  | cstring none => bytes "(null)"
  | cstring (some memory) => memory.takeWhile (· ≠ 0)
  | string v => v
  | piece v => v.data.take v.length.toNat
  | buffer v => v.content
  | short v => formatInt v.toInt
  | unsignedShort v => formatInt v.toNat
  | int v => formatInt v.toInt
  | unsignedInt v => formatInt v.toNat
  | long v => formatInt v.toInt
  | unsignedLong v => formatInt v.toNat
  | longLong v => formatInt v.toInt
  | unsignedLongLong v => formatInt v.toNat
  | pointer p => bytes "0x" ++ hexadecimal p.toNat
  | float text => text
  | double text => text
  | fmt v => v.text

/-- The operand is formatted in place. -/
def isNumber : LogItem → Bool
  | short _ | unsignedShort _ | int _ | unsignedInt _ | long _ | unsignedLong _ | longLong _
  | unsignedLongLong _ | pointer _ | float _ | double _ => true
  | bool _ | char _ | cstring _ | string _ | piece _ | buffer _ | fmt _ => false

/-- The number of free bytes that is enough for an operand. A piece of negative length is never
accepted. -/
def accepted (avail : Int) (item : LogItem) : Bool :=
  match item with
  | piece v => decide (0 ≤ v.length) && decide (v.length < avail)
  | item => if item.isNumber then decide (kMaxNumbericSize ≤ avail)
    else decide (item.text.length < avail)

/-- The operands that are accepted, when so many bytes are free before the first one. -/
def kept (avail : Int) : List LogItem → List LogItem
  | [] => []
  | item :: items =>
    if item.accepted avail then item :: kept (avail - item.text.length) items
    else kept avail items

/-- What the operands of a program are: a C string ends with a NUL, the length of a piece is an
`int` and the piece points to its bytes, a buffer is a valid one, and a `double` is printed with
fewer than `kMaxNumbericSize` characters. -/
def WellFormed : LogItem → Prop
  | cstring (some memory) => 0 ∈ memory
  | piece v => (-2 ^ 31 ≤ v.length ∧ v.length < 2 ^ 31) ∧ v.length ≤ v.data.length
  | buffer v => v.Valid
  | float text | double text => text.length < kMaxNumbericSize
  | _ => True

end LogItem

namespace StreamBuffer

variable {b : StreamBuffer}

/-- The free bytes of a valid buffer. -/
theorem Valid.avail_eq (valid : b.Valid) : b.avail = kSmallBuffer - b.cur := by
  rw [avail, valid.size]

/-- As many bytes are in the content as `m_cur` is behind the beginning. -/
theorem Valid.length_content (valid : b.Valid) : b.content.length = b.cur := by
  rw [content, List.length_take, valid.size, Nat.min_eq_left valid.free.le]

/-- `avail()` converted to `size_t`. -/
theorem Valid.sizeOfInt_avail (valid : b.Valid) :
    (sizeOfInt b.avail : Int) = b.avail ∧ sizeOfInt b.avail ≤ kSmallBuffer := by
  have free := valid.free
  have small : kSmallBuffer = 4000 := rfl
  rw [valid.avail_eq, sizeOfInt]
  omega

/-- Text written at `m_cur`, with other bytes behind it, is added to the content. -/
theorem Valid.written (valid : b.Valid) (text rest : List UInt8)
    (room : b.cur + (text ++ rest).length ≤ kSmallBuffer)
    (free : b.cur + text.length < kSmallBuffer) :
    Valid ⟨overwrite b.data b.cur (text ++ rest), b.cur + text.length⟩ ∧
      content ⟨overwrite b.data b.cur (text ++ rest), b.cur + text.length⟩ = b.content ++ text := by
  have size := valid.size
  refine ⟨⟨?_, free⟩, ?_⟩
  · rw [length_overwrite _ _ _ (by omega), size]
  · have front : (b.data.take b.cur).length = b.cur := valid.length_content
    have cut : b.cur + text.length = (b.data.take b.cur ++ text).length := by
      rw [List.length_append, front]
    rw [content, content, overwrite, ← List.append_assoc, List.append_assoc _ rest]
    dsimp only
    rw [cut, List.take_left]

/-- An `append` adds all bytes or none. -/
theorem Valid.append_eq (valid : b.Valid) {buf : List UInt8} {len : Nat}
    (points : len < b.avail → len ≤ buf.length) :
    ∃ after, b.append buf len = .ok after ∧ after.Valid ∧
      after.content = b.content ++ (if (len : Int) < b.avail then buf.take len else []) := by
  obtain ⟨same, -⟩ := valid.sizeOfInt_avail
  have size := valid.size
  have distance := valid.avail_eq
  by_cases room : (len : Int) < b.avail
  · have enough := points room
    have length : (buf.take len).length = len := by
      rw [List.length_take, Nat.min_eq_left enough]
    have written := valid.written (buf.take len) [] (by rw [List.append_nil]; omega) (by omega)
    rw [List.append_nil, length] at written
    refine ⟨_, ?_, written.1, ?_⟩
    · rw [append, if_pos (by omega), load, if_pos enough, ok_bind, store_eq (by omega), ok_bind]
      rfl
    · rw [if_pos room, written.2]
  · refine ⟨b, ?_, valid, ?_⟩
    · rw [append, if_neg (by omega)]
    · rw [if_neg room, List.append_nil]

/-- A number that is formatted in place, with a NUL behind it, is added to the content. -/
theorem Valid.formatted (valid : b.Valid) {text : List UInt8}
    {operation : Except Fault StreamBuffer} (short : text.length < kMaxNumbericSize)
    (writes : kMaxNumbericSize ≤ b.avail → operation =
      .ok ⟨overwrite b.data b.cur (text ++ [0]), b.cur + text.length⟩)
    (drops : ¬(kMaxNumbericSize : Int) ≤ b.avail → operation = .ok b) :
    ∃ after, operation = .ok after ∧ after.Valid ∧
      after.content =
        b.content ++ (if decide ((kMaxNumbericSize : Int) ≤ b.avail) then text else []) := by
  have distance := valid.avail_eq
  by_cases room : (kMaxNumbericSize : Int) ≤ b.avail
  · have length : (text ++ [(0 : UInt8)]).length = text.length + 1 := by
      rw [List.length_append, List.length_singleton]
    obtain ⟨kept, content⟩ := valid.written text [0] (by omega) (by omega)
    refine ⟨_, writes room, kept, ?_⟩
    rw [if_pos (decide_eq_true room), content]
  · refine ⟨b, drops room, valid, ?_⟩
    rw [decide_eq_false room, if_neg Bool.false_ne_true, List.append_nil]

/-- `formatInteger` adds the decimal number or nothing. -/
theorem Valid.formatInteger_eq (valid : b.Valid) {v : Int} (lower : -2 ^ 63 ≤ v)
    (upper : v < 2 ^ 64) :
    ∃ after, b.formatInteger v = .ok after ∧ after.Valid ∧ after.content =
      b.content ++ (if decide ((kMaxNumbericSize : Int) ≤ b.avail) then formatInt v else []) := by
  have length := length_formatInt lower upper
  have digits : kMaxNumbericSize = 48 := rfl
  refine valid.formatted (by omega) (fun room => ?_) fun full => ?_
  · have size := valid.size
    have distance := valid.avail_eq
    rw [formatInteger, if_pos room, convert_eq (by omega), ok_bind]
    rfl
  · rw [formatInteger, if_neg full]

/-- `operator<<(const void*)` adds the hexadecimal number or nothing. -/
theorem Valid.formatPointer_eq (valid : b.Valid) {v : Nat} (upper : v < 2 ^ 64) :
    ∃ after, b.formatPointer v = .ok after ∧ after.Valid ∧ after.content =
      b.content ++ (if decide ((kMaxNumbericSize : Int) ≤ b.avail) then
        bytes "0x" ++ hexadecimal v else []) := by
  have length := length_hexadecimal upper
  have start : (bytes "0x").length = 2 := rfl
  have digits : kMaxNumbericSize = 48 := rfl
  refine valid.formatted (by rw [List.length_append]; omega) (fun room => ?_) fun full => ?_
  · have size := valid.size
    have distance := valid.avail_eq
    have zero : (bytes "0").length = 1 := rfl
    have x : (bytes "x").length = 1 := rfl
    have first := @store_eq b.data (bytes "0") b.cur (by omega)
    have second := @store_adjacent b.data (bytes "0") b.cur (bytes "x") (by omega)
    have both : bytes "0" ++ bytes "x" = bytes "0x" := rfl
    have kept := length_overwrite b.data (bytes "0x") b.cur (by omega)
    have rest := @overwrite_adjacent _ b.data (bytes "0x") (hexadecimal v ++ [0]) b.cur (by omega)
    rw [zero, both] at second
    rw [start, ← List.append_assoc] at rest
    rw [formatPointer, if_pos room, first, ok_bind, second, ok_bind, convertHex_eq (by omega),
      ok_bind, rest, List.length_append, start, Nat.add_comm 2]
    rfl
  · rw [formatPointer, if_neg full]

/-- `operator<<(double)` adds the text of the number or nothing. -/
theorem Valid.formatDouble_eq (valid : b.Valid) {text : List UInt8}
    (short : text.length < kMaxNumbericSize) :
    ∃ after, b.formatDouble text = .ok after ∧ after.Valid ∧ after.content =
      b.content ++ (if decide ((kMaxNumbericSize : Int) ≤ b.avail) then text else []) := by
  refine valid.formatted short (fun room => ?_) fun full => ?_
  · have size := valid.size
    have distance := valid.avail_eq
    have length : (text ++ [(0 : UInt8)]).length = text.length + 1 := by
      rw [List.length_append, List.length_singleton]
    rw [formatDouble, if_pos room, snprintf_of_lt short, store_eq (by omega), ok_bind]
    rfl
  · rw [formatDouble, if_neg full]

/-- An `append` of a text that stands in memory in front of other bytes. -/
theorem Valid.append_text (valid : b.Valid) (text rest : List UInt8) :
    ∃ after, b.append (text ++ rest) text.length = .ok after ∧ after.Valid ∧
      after.content =
        b.content ++ (if decide ((text.length : Int) < b.avail) then text else []) := by
  have appended := @Valid.append_eq b valid (text ++ rest) text.length fun _ => by
    rw [List.length_append]
    omega
  rw [List.take_left] at appended
  simp only [decide_eq_true_eq]
  exact appended

/-- An `append` of a whole text. -/
theorem Valid.append_whole (valid : b.Valid) (text : List UInt8) :
    ∃ after, b.append text text.length = .ok after ∧ after.Valid ∧
      after.content =
        b.content ++ (if decide ((text.length : Int) < b.avail) then text else []) := by
  have appended := valid.append_text text []
  rw [List.append_nil] at appended
  exact appended

/-- The number of bytes of a piece, when it is accepted. -/
theorem sizeOfInt_lt_avail (valid : b.Valid) {length : Int} (lower : -2 ^ 31 ≤ length)
    (upper : length < 2 ^ 31) :
    ((sizeOfInt length : Int) < b.avail ↔ 0 ≤ length ∧ length < b.avail) ∧
      (0 ≤ length → sizeOfInt length = length.toNat) := by
  have distance := valid.avail_eq
  have small : kSmallBuffer = 4000 := rfl
  rw [sizeOfInt]
  omega

/-- An `append` of a piece. -/
theorem Valid.append_piece (valid : b.Valid) {v : StringPiece}
    (good : (-2 ^ 31 ≤ v.length ∧ v.length < 2 ^ 31) ∧ v.length ≤ v.data.length) :
    ∃ after, b.append v.data (sizeOfInt v.length) = .ok after ∧ after.Valid ∧
      after.content = b.content ++ (if (LogItem.piece v).accepted b.avail then
        (LogItem.piece v).text else []) := by
  obtain ⟨⟨lower, upper⟩, points⟩ := good
  obtain ⟨fits, same⟩ := sizeOfInt_lt_avail valid lower upper
  obtain ⟨after, done, kept, content⟩ := @Valid.append_eq b valid v.data (sizeOfInt v.length)
    fun room => by
      have nonneg := (fits.mp room).1
      have length := same nonneg
      omega
  refine ⟨after, done, kept, content.trans ?_⟩
  simp only [LogItem.accepted, LogItem.text, Bool.and_eq_true, decide_eq_true_eq]
  by_cases accepted : 0 ≤ v.length ∧ v.length < b.avail
  · rw [if_pos (fits.mpr accepted), if_pos accepted, same accepted.1]
  · rw [if_neg (mt fits.mp accepted), if_neg accepted]

/-- An `append` of a C string. -/
theorem Valid.append_cstring (valid : b.Valid) {str : Option (List UInt8)}
    (good : (LogItem.cstring str).WellFormed) :
    ∃ after, b.insert (.cstring str) = .ok after ∧ after.Valid ∧
      after.content = b.content ++ (if (LogItem.cstring str).accepted b.avail then
        (LogItem.cstring str).text else []) := by
  cases str with
  | none => exact valid.append_whole (bytes "(null)")
  | some memory =>
    have ends : strlen memory = .ok (memory.takeWhile (· ≠ 0)).length := if_pos good
    have appended := valid.append_text (memory.takeWhile (· ≠ 0)) (memory.dropWhile (· ≠ 0))
    rw [List.takeWhile_append_dropWhile] at appended
    rw [insert, ends, ok_bind]
    exact appended

/-- An `append` of the content of another buffer. -/
theorem Valid.append_buffer (valid : b.Valid) {v : StreamBuffer} (good : v.Valid) :
    ∃ after, b.insert (.buffer v) = .ok after ∧ after.Valid ∧
      after.content = b.content ++ (if (LogItem.buffer v).accepted b.avail then
        (LogItem.buffer v).text else []) := by
  have size := good.size
  have free := good.free
  have small : kSmallBuffer = 4000 := rfl
  have same : sizeOfInt v.toStringPiece.length = v.content.length := by
    rw [good.length_content, toStringPiece, sizeOfInt]
    dsimp only
    omega
  have appended := valid.append_text v.content (v.data.drop v.cur)
  rw [content, List.take_append_drop] at appended
  rw [insert, same]
  exact appended

/-- `operator<<` adds the text of its operand if that is accepted, and nothing otherwise. -/
theorem Valid.insert_eq (valid : b.Valid) {item : LogItem} (good : item.WellFormed) :
    ∃ after, b.insert item = .ok after ∧ after.Valid ∧
      after.content = b.content ++ (if item.accepted b.avail then item.text else []) := by
  cases item with
  | bool v =>
    cases v with
    | false => exact valid.append_whole (bytes "0")
    | true => exact valid.append_whole (bytes "1")
  | char v => exact valid.append_whole [v]
  | cstring str => exact valid.append_cstring good
  | string v => exact valid.append_whole v
  | piece v => exact valid.append_piece good
  | buffer v => exact valid.append_buffer good
  | short v =>
    have lower := v.le_toInt
    have upper := v.toInt_lt
    exact valid.formatInteger_eq (by omega) (by omega)
  | unsignedShort v =>
    have upper := v.toNat_lt
    exact valid.formatInteger_eq (by omega) (by omega)
  | int v =>
    have lower := v.le_toInt
    have upper := v.toInt_lt
    exact valid.formatInteger_eq (by omega) (by omega)
  | unsignedInt v =>
    have upper := v.toNat_lt
    exact valid.formatInteger_eq (by omega) (by omega)
  | long v =>
    have lower := v.le_toInt
    have upper := v.toInt_lt
    exact valid.formatInteger_eq (by omega) (by omega)
  | unsignedLong v =>
    have upper := v.toNat_lt
    exact valid.formatInteger_eq (by omega) (by omega)
  | longLong v =>
    have lower := v.le_toInt
    have upper := v.toInt_lt
    exact valid.formatInteger_eq (by omega) (by omega)
  | unsignedLongLong v =>
    have upper := v.toNat_lt
    exact valid.formatInteger_eq (by omega) (by omega)
  | pointer p => exact valid.formatPointer_eq p.toNat_lt
  | float text => exact valid.formatDouble_eq good
  | double text => exact valid.formatDouble_eq good
  | fmt v => exact valid.append_whole v.text

/-- Operands add the texts of those that are accepted, one after the other. -/
theorem Valid.inserts_eq (valid : b.Valid) {items : List LogItem}
    (good : ∀ item ∈ items, item.WellFormed) :
    ∃ after, b.inserts items = .ok after ∧ after.Valid ∧
      after.content = b.content ++ (LogItem.kept b.avail items).flatMap LogItem.text := by
  induction items generalizing b with
  | nil => exact ⟨b, rfl, valid, (List.append_nil _).symm⟩
  | cons item items ih =>
    obtain ⟨middle, inserted, middleValid, content⟩ := valid.insert_eq (good item (.head _))
    obtain ⟨after, done, afterValid, rest⟩ := ih middleValid fun item mem => good item (.tail _ mem)
    refine ⟨after, ?_, afterValid, ?_⟩
    · rw [inserts, inserted, ok_bind]
      exact done
    · have length := congrArg List.length content
      have distance := valid.avail_eq
      have middleDistance := middleValid.avail_eq
      rw [middleValid.length_content, List.length_append, valid.length_content] at length
      rw [rest, content, LogItem.kept]
      by_cases accepted : item.accepted b.avail
      · have left : middle.avail = b.avail - item.text.length := by
          rw [if_pos accepted] at length
          omega
        rw [if_pos accepted, if_pos accepted, left, List.flatMap_cons, List.append_assoc]
      · have left : middle.avail = b.avail := by
          rw [if_neg accepted, List.length_nil] at length
          omega
        rw [if_neg accepted, if_neg accepted, left, List.append_nil]

end StreamBuffer

/-- The accepted operands are operands, in their order. -/
theorem LogItem.kept_sublist (avail : Int) (items : List LogItem) :
    (kept avail items).Sublist items := by
  induction items generalizing avail with
  | nil => exact .slnil
  | cons item items ih =>
    rw [kept]
    split
    · exact (ih _).cons_cons item
    · exact (ih _).cons item

/-- Whatever is inserted into an empty stream, no write leaves its memory, a byte stays free, and
the content is the texts of the accepted operands. -/
theorem StreamBuffer.whole_items_of_inserts {b : StreamBuffer}
    (size : b.data.length = kSmallBuffer) (empty : b.cur = 0) {items : List LogItem}
    (good : ∀ item ∈ items, item.WellFormed) :
    ∃ after, b.inserts items = .ok after ∧ 1 ≤ after.avail ∧ after.data.length = kSmallBuffer ∧
      after.content = (LogItem.kept kSmallBuffer items).flatMap LogItem.text ∧
      (LogItem.kept kSmallBuffer items).Sublist items := by
  have valid : b.Valid := ⟨size, by rw [empty]; decide⟩
  have all : b.avail = kSmallBuffer := by
    rw [valid.avail_eq, empty]
    rfl
  have nothing : b.content = [] := by
    rw [content, empty, List.take_zero]
  obtain ⟨after, done, afterValid, content⟩ := valid.inserts_eq good
  rw [all, nothing, List.nil_append] at content
  refine ⟨after, done, ?_, afterValid.size, content, LogItem.kept_sublist _ _⟩
  have free := afterValid.free
  rw [afterValid.avail_eq]
  omega

/-- Ten bytes are left behind a long text: a number does not fit, nine more characters do, and then
nothing does. -/
theorem StreamBuffer.whole_items_of_inserts_nearly_full :
    ∃ after, StreamBuffer.inserts ⟨List.replicate kSmallBuffer 0, 0⟩
        [.string (List.replicate 3990 65), .int 7, .cstring (some (bytes "abcdefghi" ++ [0])),
          .bool true] = .ok after ∧
      after.content = List.replicate 3990 65 ++ bytes "abcdefghi" := by
  have filled : (List.replicate 3990 (65 : UInt8)).length = 3990 := List.length_replicate
  generalize List.replicate 3990 (65 : UInt8) = long at filled ⊢
  have good : ∀ item ∈ [LogItem.string long, .int 7,
      .cstring (some (bytes "abcdefghi" ++ [0])), .bool true], item.WellFormed := by
    simp [LogItem.WellFormed]
  obtain ⟨after, done, -, -, content, -⟩ := @whole_items_of_inserts
    ⟨List.replicate kSmallBuffer 0, 0⟩ List.length_replicate rfl _ good
  refine ⟨after, done, content.trans ?_⟩
  have last : (LogItem.cstring (some (bytes "abcdefghi" ++ [0]))).text = bytes "abcdefghi" := by
    decide
  have letters : (bytes "abcdefghi").length = 9 := rfl
  have first : (LogItem.string long).text = long := rfl
  have one : (LogItem.bool true).text.length = 1 := rfl
  simp [LogItem.kept, LogItem.accepted, LogItem.isNumber, kSmallBuffer, kMaxNumbericSize, first,
    last, one, letters, filled]

end Muduo
