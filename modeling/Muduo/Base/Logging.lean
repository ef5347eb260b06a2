import Muduo.Base.LogTime

/-!
# `dc::Logger`

The constructors write the time, the thread, the level, the text of `errno` and the name of the
function into the stream of the record; the program inserts its operands behind them; and `finish`
appends the file, the line and the end of the line before the whole is passed on. All of them share
the bytes of one `FixedBuffer`, which drops what does not fit, and nothing is kept free for the end
of the line.
-/

open Outcome

namespace Muduo

/-- `Logger::LogLevel`. -/
inductive LogLevel
  /-- `TRACE`. -/
  | trace
  /-- `DEBUG`. -/
  | debug
  /-- `INFO`. -/
  | info
  /-- `WARN`. -/
  | warn
  /-- `ERROR`. -/
  | error
  /-- `FATAL`. -/
  | fatal
  deriving DecidableEq, Repr

/-- `LogLevelName[level]`. -/
def LogLevel.name : LogLevel → List UInt8
  | trace => bytes "TRACE "
  | debug => bytes "DEBUG "
  | info => bytes "INFO  "
  | warn => bytes "WARN  "
  | error => bytes "ERROR "
  | fatal => bytes "FATAL "

/-- `Logger::SourceFile`. -/
structure SourceFile where
  /-- What may be read from `m_data` on. -/
  data : List UInt8
  /-- `m_size`, an `int`. -/
  size : Int
  deriving DecidableEq, Repr

/-- `strrchr(str, c)`, as an offset, where `str` is the memory from the pointer on. -/
def strrchr (memory : List UInt8) (c : UInt8) : Except Fault (Option Nat) := do
  let length ← strlen memory
  let text := memory.take length
  .ok (if c ∈ text then some (length - 1 - text.reverse.idxOf c) else none)

namespace SourceFile

/-- `SourceFile(arr)`, for an array of characters. -/
def ofArray (arr : List UInt8) : Except Fault SourceFile := do
  let slash ← strrchr arr 47
  match slash with
  | some position =>
    .ok ⟨arr.drop (position + 1), arr.length - 1 - intOfSize (position + 1)⟩
  | none => .ok ⟨arr, arr.length - 1⟩

/-- `SourceFile(filename)`, for a C string. -/
def ofFilename (filename : List UInt8) : Except Fault SourceFile := do
  let slash ← strrchr filename 47
  let data := match slash with
    | some position => filename.drop (position + 1)
    | none => filename
  let size ← strlen data
  .ok ⟨data, intOfSize size⟩

/-- The name that is printed. -/
def text (file : SourceFile) : List UInt8 := file.data.take file.size.toNat

/-- `m_data` points to as many bytes as `m_size` says. -/
structure WellFormed (file : SourceFile) : Prop where
  /-- The size is not negative. -/
  nonneg : 0 ≤ file.size
  /-- The size is an `int`. -/
  fits : file.size < 2 ^ 31
  /-- The bytes are there. -/
  points : file.size ≤ file.data.length

end SourceFile

/-- `s << v` for a `SourceFile`. -/
def StreamBuffer.insertFile (s : StreamBuffer) (v : SourceFile) : Except Fault StreamBuffer :=
  s.append v.data (sizeOfInt v.size)

/-- What a record takes from outside the program. -/
structure LogContext where
  /-- `Timestamp::now()`. -/
  now : Int
  /-- `CurrentThread::tid()`. -/
  tid : Int32
  /-- `errno`. -/
  errno : Int32
  /-- The text that `strerror_tl` returns for a number. -/
  strerror : Int32 → List UInt8

/-- The constructors of `Logger`, with their arguments but for the file and the line. -/
inductive LoggerCall
  /-- `Logger(file, line)`. -/
  | plain
  /-- `Logger(file, line, level)`. -/
  | ofLevel (level : LogLevel)
  /-- `Logger(file, line, level, func)`, with the memory from `func` on. -/
  | ofFunction (level : LogLevel) (func : List UInt8)
  /-- `Logger(file, line, toAbort)`. -/
  | ofErrno (toAbort : Bool)

/-- The name of a function is a C string. -/
def LoggerCall.WellFormed : LoggerCall → Prop
  | ofFunction _ func => 0 ∈ func
  | _ => True

/-- `Logger`, with the members of its `Impl`. -/
structure Logger where
  /-- `m_stream`. -/
  stream : StreamBuffer
  /-- `m_level`. -/
  level : LogLevel
  /-- `m_line`. -/
  line : Int32
  /-- `m_basename`. -/
  basename : SourceFile
  deriving DecidableEq

namespace Logger

/-- What `cachedTid` prints. -/
def tidText (tid : Int32) : List UInt8 := spacePadded 5 tid.toInt

/-- The text of `errno` in a record. -/
def errnoItems (context : LogContext) (savedErrno : Int32) : List LogItem :=
  if savedErrno ≠ 0 then
    [.cstring (some (context.strerror savedErrno ++ [0])),
      .cstring (some (bytes " (errno =" ++ [0])), .int savedErrno,
      .cstring (some (bytes ") " ++ [0]))]
  else []

/-- `Impl(level, savedErrno, file, line)`. -/
def impl (context : LogContext) (clock : LogClock) (level : LogLevel) (savedErrno : Int32)
    (file : SourceFile) (line : Int32) : Except Fault (Logger × LogClock) := do
  let (clock, stream) ← clock.formatTime context.now StreamBuffer.empty
  let tid := tidText context.tid
  let stream ← stream.insertT (snprintf 32 tid ++ [0]) tid.length
  let stream ← stream.insert (.char 32)
  let stream ← stream.insertT (level.name ++ [0]) 6
  let stream ← stream.inserts (errnoItems context savedErrno)
  .ok (⟨stream, level, line, file⟩, clock)

/-- The constructors. -/
def new (context : LogContext) (clock : LogClock) (call : LoggerCall) (file : SourceFile)
    (line : Int32) : Except Fault (Logger × LogClock) :=
  match call with
  | .plain => impl context clock .info 0 file line
  | .ofLevel level => impl context clock level 0 file line
  | .ofFunction level func => do
    let (logger, clock) ← impl context clock level 0 file line
    let stream ← logger.stream.inserts [.cstring (some func), .char 32]
    .ok ({ logger with stream }, clock)
  | .ofErrno toAbort =>
    impl context clock (if toAbort then .fatal else .error) context.errno file line

/-- `finish()`. -/
def finish (logger : Logger) : Except Fault StreamBuffer := do
  let stream ← logger.stream.insert (.cstring (some (bytes " - " ++ [0])))
  let stream ← stream.insertFile logger.basename
  let stream ← stream.insert (.char 58)
  let stream ← stream.insert (.int logger.line)
  stream.insert (.char 10)

/-- What the destructor passes to `g_output`, before it aborts after a `FATAL` record. -/
def output (logger : Logger) : Except Fault (List UInt8) := do
  let stream ← logger.finish
  .ok stream.content

end Logger

namespace StreamBuffer

variable {b after : StreamBuffer}

/-- What `T` inserts is a whole C string. -/
theorem Valid.insertT_valid (valid : b.Valid) {str : List UInt8} {len : Nat}
    (done : b.insertT str len = .ok after) : after.Valid := by
  obtain ⟨length, ends, checked⟩ := bind_eq_ok.mp done
  obtain ⟨_, same, appended⟩ := bind_eq_ok.mp checked
  rw [ensure_eq_ok, beq_iff_eq] at same
  subst same
  have text : (str.takeWhile (· ≠ 0)).length = length := by
    rw [strlen] at ends
    split at ends
    · exact Except.ok.inj ends
    · cases ends
  have whole := valid.append_text (str.takeWhile (· ≠ 0)) (str.dropWhile (· ≠ 0))
  rw [List.takeWhile_append_dropWhile, text] at whole
  obtain ⟨result, same, kept, -⟩ := whole
  rw [appended] at same
  cases same
  exact kept

end StreamBuffer

namespace LogClock

variable {clock after : LogClock} {time : Int} {stream : StreamBuffer}

/-- What is written behind the cache is written by `T`. -/
theorem writeTime_valid {microseconds : Int}
    (done : clock.writeTime microseconds StreamBuffer.empty = .ok stream) : stream.Valid := by
  have valid : ∀ {us length expression},
      clock.write us length expression StreamBuffer.empty = .ok stream → stream.Valid := by
    intro us length expression wrote
    obtain ⟨us, -, checked⟩ := bind_eq_ok.mp wrote
    obtain ⟨_, -, inserted⟩ := bind_eq_ok.mp checked
    obtain ⟨middle, first, second⟩ := bind_eq_ok.mp inserted
    exact (StreamBuffer.empty_valid.insertT_valid first).insertT_valid second
  rw [writeTime] at done
  split at done
  · exact valid done
  · exact valid done

/-- Behind the time the stream is valid. -/
theorem formatTime_valid
    (done : clock.formatTime time StreamBuffer.empty = .ok (after, stream)) : stream.Valid := by
  have valid : ∀ {changed : LogClock},
      (do
        let written ← changed.writeTime (microsecondOf time) StreamBuffer.empty
        .ok (changed, written)) = Except.ok (after, stream) → stream.Valid := by
    intro changed written
    obtain ⟨written, wrote, same⟩ := bind_eq_ok.mp written
    cases same
    exact writeTime_valid wrote
  rw [formatTime] at done
  dsimp only at done
  split at done
  · obtain ⟨changed, -, rest⟩ := bind_eq_ok.mp done
    exact valid rest
  · exact valid done

end LogClock

namespace SourceFile

variable {directory : Option (List UInt8)} {base : List UInt8}

/-- The name of a file, in a directory or not. -/
def path (directory : Option (List UInt8)) (base : List UInt8) : List UInt8 :=
  directory.elim base fun names => names ++ 47 :: base

/-- The length of a name with a directory. -/
theorem length_path (names base : List UInt8) :
    (path (some names) base).length = names.length + (base.length + 1) := List.length_append

/-- The printed name has as many bytes as `m_size` says. -/
theorem WellFormed.length_text {file : SourceFile} (good : file.WellFormed) :
    (file.text.length : Int) = file.size := by
  have nonneg := good.nonneg
  have points := good.points
  rw [text, List.length_take]
  omega

/-- The last slash of a name is in front of its last part. -/
theorem strrchr_path (single : 0 ∉ path directory base) (last : 47 ∉ base) :
    strrchr (path directory base ++ [0]) 47 = .ok (directory.map List.length) := by
  rw [strrchr, strlen_eq single, ok_bind]
  dsimp only
  rw [List.take_left]
  cases directory with
  | none => exact congrArg Except.ok (if_neg last)
  | some names =>
    have slash : 47 ∈ path (some names) base := List.mem_append_right _ List.mem_cons_self
    have behind : (path (some names) base).reverse = base.reverse ++ 47 :: names.reverse := by
      rw [path, Option.elim_some, List.reverse_append, List.reverse_cons, List.append_assoc]
      rfl
    have position : (path (some names) base).reverse.idxOf 47 = base.length := by
      rw [behind, List.idxOf_append_of_notMem (by rwa [List.mem_reverse]), List.idxOf_cons_self,
        List.length_reverse, Nat.add_zero]
    rw [if_pos slash, position, length_path, Option.map_some]
    congr 2
    omega

/-- Behind the last slash is the last part of the name. -/
theorem drop_path (names base : List UInt8) :
    (path (some names) base ++ [0]).drop (names.length + 1) = base ++ [0] := by
  rw [path, Option.elim_some, List.append_assoc, List.drop_length_add_append]
  rfl

/-- The constructor for a C string finds the last part of the name. -/
theorem ofFilename_path (single : 0 ∉ path directory base) (last : 47 ∉ base)
    (short : (path directory base).length < 2 ^ 31) :
    ofFilename (path directory base ++ [0]) = .ok ⟨base ++ [0], base.length⟩ := by
  rw [ofFilename, strrchr_path single last, ok_bind]
  cases directory with
  | none =>
    dsimp only [Option.map_none, path, Option.elim_none] at single short ⊢
    rw [strlen_eq single, ok_bind, intOfSize_of_lt short]
  | some names =>
    rw [length_path] at short
    have part : 0 ∉ base := fun member => single (List.mem_append_right _ (.tail _ member))
    rw [Option.map_some]
    dsimp only
    rw [drop_path, strlen_eq part, ok_bind, intOfSize_of_lt (by omega)]

/-- The constructor for an array finds the last part of the name. -/
theorem ofArray_path (single : 0 ∉ path directory base) (last : 47 ∉ base)
    (short : (path directory base).length < 2 ^ 31) :
    ofArray (path directory base ++ [0]) = .ok ⟨base ++ [0], base.length⟩ := by
  rw [ofArray, strrchr_path single last, ok_bind, List.length_append, List.length_singleton]
  cases directory with
  | none =>
    have size : ((path none base).length : Int) + 1 - 1 = base.length := by
      rw [path, Option.elim_none]
      omega
    exact congrArg (fun size => Except.ok (SourceFile.mk (base ++ [0]) size)) size
  | some names =>
    rw [length_path] at short
    rw [Option.map_some]
    dsimp only
    rw [drop_path, length_path, intOfSize_of_lt (by omega)]
    exact congrArg (fun size => Except.ok (SourceFile.mk (base ++ [0]) size)) (by omega)

/-- A source file is well formed and prints the last part of its name, whichever constructor it
comes from. -/
theorem wellFormed_of_path (single : 0 ∉ path directory base) (last : 47 ∉ base)
    (short : (path directory base).length < 2 ^ 31) :
    ∃ file, ofFilename (path directory base ++ [0]) = .ok file ∧
      ofArray (path directory base ++ [0]) = .ok file ∧ file.WellFormed ∧ file.text = base := by
  have part : base.length ≤ (path directory base).length := by
    cases directory with
    | none => exact le_rfl
    | some names =>
      rw [length_path]
      omega
  refine ⟨_, ofFilename_path single last short, ofArray_path single last short,
    ⟨Int.natCast_nonneg _, Int.ofNat_lt.mpr (part.trans_lt short), ?_⟩, ?_⟩
  · dsimp only
    rw [List.length_append]
    omega
  · rw [text, Int.toNat_natCast, List.take_left]

end SourceFile

/-- The name of a level is printable and has six characters. -/
theorem LogLevel.name_eq (level : LogLevel) :
    level.name.length = 6 ∧ Printable level.name := by
  cases level <;> decide

namespace Logger

variable {context : LogContext} {clock timed : LogClock} {first : StreamBuffer} {file : SourceFile}
  {line : Int32}

/-- The text of a thread fits its memory. -/
theorem tidText_eq (tid : Int32) : snprintf 32 (tidText tid) = tidText tid := by
  have lower := tid.le_toInt
  have upper := tid.toInt_lt
  have digits := @length_formatInt tid.toInt (by omega) (by omega)
  refine snprintf_of_lt ?_
  rw [tidText, spacePadded, length_padLeft]
  omega

/-- The operands for `errno` are well formed. -/
theorem errnoItems_wellFormed (context : LogContext) (savedErrno : Int32) :
    ∀ item ∈ errnoItems context savedErrno, item.WellFormed := by
  have terminated : ∀ text : List UInt8, (LogItem.cstring (some (text ++ [0]))).WellFormed :=
    fun _ => List.mem_append_right _ List.mem_cons_self
  rw [errnoItems]
  split
  · simp only [List.forall_mem_cons]
    exact ⟨terminated _, terminated _, trivial, terminated _, nofun⟩
  · exact nofun

/-- Behind the time no assertion fails in `Impl`, and the stream is valid. -/
theorem impl_eq (done : clock.formatTime context.now StreamBuffer.empty = .ok (timed, first))
    (level : LogLevel) (savedErrno : Int32) (file : SourceFile) (line : Int32) :
    ∃ stream, impl context clock level savedErrno file line =
      .ok (⟨stream, level, line, file⟩, timed) ∧ stream.Valid := by
  have valid := LogClock.formatTime_valid done
  have tid := tidText_eq context.tid
  have single := (Printable.spacePadded 5 context.tid.toInt).zero_not_mem
  obtain ⟨length, printable⟩ := level.name_eq
  obtain ⟨second, toSecond, valid, -⟩ := valid.insertT_eq single []
  obtain ⟨third, toThird, valid, -⟩ := @StreamBuffer.Valid.insert_eq _ valid (.char 32) trivial
  obtain ⟨fourth, toFourth, valid, -⟩ := valid.insertT_eq printable.zero_not_mem []
  obtain ⟨last, toLast, valid, -⟩ := valid.inserts_eq (errnoItems_wellFormed context savedErrno)
  refine ⟨last, ?_, valid⟩
  rw [length] at toFourth
  rw [impl, done, ok_bind]
  dsimp only
  rw [tid, tidText, toSecond, ok_bind, toThird, ok_bind, toFourth, ok_bind, toLast, ok_bind]

/-- Every constructor returns, with a valid stream. -/
theorem new_eq (done : clock.formatTime context.now StreamBuffer.empty = .ok (timed, first))
    {call : LoggerCall} (good : call.WellFormed) (file : SourceFile) (line : Int32) :
    ∃ logger, new context clock call file line = .ok (logger, timed) ∧ logger.stream.Valid ∧
      logger.line = line ∧ logger.basename = file := by
  cases call with
  | plain =>
    obtain ⟨stream, made, valid⟩ := impl_eq done .info 0 file line
    exact ⟨_, made, valid, rfl, rfl⟩
  | ofLevel level =>
    obtain ⟨stream, made, valid⟩ := impl_eq done level 0 file line
    exact ⟨_, made, valid, rfl, rfl⟩
  | ofErrno toAbort =>
    obtain ⟨stream, made, valid⟩ :=
      impl_eq done (if toAbort then .fatal else .error) context.errno file line
    exact ⟨_, made, valid, rfl, rfl⟩
  | ofFunction level func =>
    obtain ⟨stream, made, valid⟩ := impl_eq done level 0 file line
    obtain ⟨named, inserted, valid, -⟩ := @StreamBuffer.Valid.inserts_eq _ valid
      [.cstring (some func), .char 32] (by
        simp only [List.forall_mem_cons]
        exact ⟨good, trivial, nofun⟩)
    refine ⟨⟨named, level, line, file⟩, ?_, valid, rfl, rfl⟩
    rw [new, made, ok_bind]
    dsimp only
    rw [inserted, ok_bind]

/-- What `finish` inserts. -/
def finishItems (logger : Logger) : List LogItem :=
  [.cstring (some (bytes " - " ++ [0])), .piece ⟨logger.basename.data, logger.basename.size⟩,
    .char 58, .int logger.line, .char 10]

/-- `finish` inserts its items one after the other. -/
theorem finish_eq (logger : Logger) :
    logger.finish = logger.stream.inserts logger.finishItems := by
  have last : ∀ result : Except Fault StreamBuffer, (result >>= fun b => .ok b) = result := by
    intro result
    cases result <;> rfl
  rw [finish, finishItems]
  simp only [StreamBuffer.inserts, last]
  rfl

end Logger

namespace LogItem

/-- The bytes that are free behind a text of this length, which is appended if it leaves one. -/
def roomAfter (free length : Int) : Int := if length < free then free - length else free

/-- A text is appended if it leaves a byte free. -/
theorem keptText_cons {item : LogItem} {free length : Int}
    (accepts : item.accepted free = decide (length < free))
    (counts : length < free → (item.text.length : Int) = length) (items : List LogItem) :
    (kept free (item :: items)).flatMap text =
      (if length < free then item.text else []) ++
        (kept (roomAfter free length) items).flatMap text := by
  rw [kept, accepts, roomAfter]
  by_cases fits : length < free
  · rw [if_pos (decide_eq_true fits), if_pos fits, if_pos fits, counts fits, List.flatMap_cons]
  · rw [if_neg (by rw [decide_eq_false fits]; exact Bool.false_ne_true), if_neg fits, if_neg fits,
      List.nil_append]

/-- A character needs two free bytes. -/
theorem keptText_char (free : Int) (v : UInt8) (items : List LogItem) :
    (kept free (.char v :: items)).flatMap text =
      (if 1 < free then [v] else []) ++ (kept (roomAfter free 1) items).flatMap text :=
  keptText_cons rfl (fun _ => rfl) items

/-- A string is appended if it leaves a byte free. -/
theorem keptText_string (free : Int) (v : List UInt8) (items : List LogItem) :
    (kept free (.string v :: items)).flatMap text =
      (if (v.length : Int) < free then v else []) ++
        (kept (roomAfter free v.length) items).flatMap text :=
  keptText_cons rfl (fun _ => rfl) items

/-- The end of a line behind its number: the number leaves more than a byte free. -/
theorem keptText_number (free : Int) (line : Int32) :
    ((kept free [.int line, .char 10]).flatMap text).getLast? =
      if 1 < free then some 10 else none := by
  have lower := line.le_toInt
  have upper := line.toInt_lt
  have digits := @length_formatInt line.toInt (by omega) (by omega)
  have number : (LogItem.int line).text = formatInt line.toInt := rfl
  have accepts : (LogItem.int line).accepted free = decide ((kMaxNumbericSize : Int) ≤ free) := rfl
  have long : (kMaxNumbericSize : Int) = 48 := rfl
  rw [kept, accepts, long, number]
  by_cases room : (48 : Int) ≤ free
  · rw [if_pos (decide_eq_true room), List.flatMap_cons, keptText_char, if_pos (by omega),
      if_pos (by omega), kept, List.flatMap_nil, List.append_nil, List.getLast?_append]
    rfl
  · rw [decide_eq_false room, if_neg Bool.false_ne_true, keptText_char, kept, List.flatMap_nil,
      List.append_nil]
    split <;> rfl

/-- The end of a line, in so many free bytes. -/
theorem keptText_end (free : Int) (line : Int32) :
    ((kept free [.char 58, .int line, .char 10]).flatMap text).getLast? =
      if 3 ≤ free then some 10 else if 1 < free then some 58 else none := by
  rw [keptText_char, List.getLast?_append, keptText_number, roomAfter]
  by_cases colon : 1 < free
  · rw [if_pos colon, if_pos colon, if_pos colon]
    by_cases room : 3 ≤ free
    · rw [if_pos room, if_pos (by omega)]
      rfl
    · rw [if_neg room, if_neg (by omega)]
      rfl
  · rw [if_neg colon, if_neg colon, if_neg colon, if_neg colon, if_neg (by omega)]
    rfl

/-- The name of a file is appended if it leaves a byte free. -/
theorem keptText_file {file : SourceFile} (good : file.WellFormed) (free : Int)
    (items : List LogItem) :
    (kept free (.piece ⟨file.data, file.size⟩ :: items)).flatMap text =
      (if file.size < free then file.text else []) ++
        (kept (roomAfter free file.size) items).flatMap text := by
  refine @keptText_cons (.piece ⟨file.data, file.size⟩) free file.size ?_
    (fun _ => good.length_text) items
  rw [accepted, decide_eq_true good.nonneg, Bool.true_and]

end LogItem

namespace Logger

variable {stream : StreamBuffer} {file : SourceFile}

/-- The bytes that are free behind the separator and the name of the file. -/
def roomForEnd (stream : StreamBuffer) (file : SourceFile) : Int :=
  LogItem.roomAfter (LogItem.roomAfter stream.avail 3) file.size

/-- Three bytes are free behind the name of the file, or one is and the last byte in front of it is
the end of a line: that of the name, or without the separator and the name that of the operands. -/
def EndsLine (stream : StreamBuffer) (file : SourceFile) : Prop :=
  3 ≤ roomForEnd stream file ∨ roomForEnd stream file = 1 ∧
    if 0 < file.size ∧ file.size < LogItem.roomAfter stream.avail 3 then
      file.text.getLast? = some 10
    else stream.avail = 1 ∧ stream.content.getLast? = some 10

/-- What is passed on is what was in the stream and the items of `finish` that fit. -/
theorem output_eq {logger : Logger} (valid : logger.stream.Valid)
    (good : logger.basename.WellFormed) :
    logger.output = .ok (logger.stream.content ++
      (LogItem.kept logger.stream.avail logger.finishItems).flatMap LogItem.text) := by
  have each : ∀ item ∈ logger.finishItems, item.WellFormed := by
    have lower : (-2 ^ 31 : Int) ≤ logger.basename.size := by
      have nonneg := good.nonneg
      omega
    rw [finishItems]
    simp only [List.forall_mem_cons]
    exact ⟨List.mem_append_right _ List.mem_cons_self, ⟨⟨lower, good.fits⟩, good.points⟩, trivial,
      trivial, trivial, nofun⟩
  obtain ⟨after, done, -, content⟩ := valid.inserts_eq each
  rw [output, finish_eq, done, ok_bind, content]

/-- The items of `finish` that fit: the separator, the name and the rest. -/
theorem keptText_finish {logger : Logger} (good : logger.basename.WellFormed) :
    (LogItem.kept logger.stream.avail logger.finishItems).flatMap LogItem.text =
      (if 3 < logger.stream.avail then bytes " - " else []) ++
        ((if logger.basename.size < LogItem.roomAfter logger.stream.avail 3 then
            logger.basename.text else []) ++
          (LogItem.kept (roomForEnd logger.stream logger.basename)
            [.char 58, .int logger.line, .char 10]).flatMap LogItem.text) := by
  have separator : (LogItem.cstring (some (bytes " - " ++ [0]))).text = bytes " - " := by decide
  rw [finishItems, @LogItem.keptText_cons (.cstring (some (bytes " - " ++ [0])))
    logger.stream.avail 3 rfl fun _ => by decide, LogItem.keptText_file good, separator]
  rfl

/-- Where nothing fits behind the name, the last byte is that of the name, of the separator or of
the operands. -/
theorem endsLine_iff_of_full (valid : stream.Valid) (good : file.WellFormed)
    (full : ¬1 < roomForEnd stream file) :
    (if file.size < LogItem.roomAfter stream.avail 3 then file.text else []).getLast?.or
        ((if 3 < stream.avail then bytes " - " else []).getLast?.or stream.content.getLast?) =
          some 10 ↔
      EndsLine stream file := by
  have free := valid.free
  have distance := valid.avail_eq
  have nonneg := good.nonneg
  have length := good.length_text
  have short : ¬3 ≤ roomForEnd stream file := by omega
  rw [EndsLine, or_iff_right short]
  rw [roomForEnd] at full ⊢
  generalize named : LogItem.roomAfter stream.avail 3 = separated at full ⊢
  generalize filled : LogItem.roomAfter separated file.size = room at full ⊢
  rw [LogItem.roomAfter] at named filled
  by_cases name : 0 < file.size ∧ file.size < separated
  · have some : file.text ≠ [] := by
      intro empty
      rw [empty, List.length_nil] at length
      omega
    have one : room = 1 := by omega
    rw [if_pos name, if_pos name.2, List.getLast?_eq_some_getLast some, Option.some_or,
      and_iff_right one]
  · have nothing : (if file.size < separated then file.text else []) = [] := by
      split
      · exact List.length_eq_zero_iff.mp (by omega)
      · rfl
    rw [if_neg name, nothing, List.getLast?_nil, Option.none_or]
    by_cases separator : 3 < stream.avail
    · have space : (bytes " - ").getLast? = some 32 := by decide
      rw [if_pos separator, space, Option.some_or]
      refine iff_of_false (by decide) ?_
      rintro ⟨-, only, -⟩
      omega
    · have one : room = 1 ∧ stream.avail = 1 := by omega
      rw [if_neg separator, List.getLast?_nil, Option.none_or, and_iff_right one.1,
        and_iff_right one.2]

/-- The last byte that is passed on. -/
theorem output_endsLine_iff {logger : Logger} (valid : logger.stream.Valid)
    (good : logger.basename.WellFormed) :
    ∃ text, logger.output = .ok text ∧
      (text.getLast? = some 10 ↔ EndsLine logger.stream logger.basename) := by
  refine ⟨_, output_eq valid good, ?_⟩
  rw [keptText_finish good]
  simp only [List.getLast?_append, LogItem.keptText_end, Option.or_assoc]
  by_cases whole : 3 ≤ roomForEnd logger.stream logger.basename
  · rw [if_pos whole, Option.some_or]
    exact iff_of_true rfl (.inl whole)
  rw [if_neg whole]
  by_cases colon : 1 < roomForEnd logger.stream logger.basename
  · rw [if_pos colon, Option.some_or]
    refine iff_of_false (by decide) ?_
    rintro (more | ⟨one, -⟩)
    · exact whole more
    · omega
  · rw [if_neg colon, Option.none_or]
    exact endsLine_iff_of_full valid good colon

/-- A record of any level, from any file and line, with any `errno` and any operands: every function
returns, and what is passed to `g_output` ends with the end of a line exactly when the header and
the operands leave room for it or the last byte that fits is one already. -/
theorem record_endsLine_iff {context : LogContext} {clock timed : LogClock} {first : StreamBuffer}
    (done : clock.formatTime context.now StreamBuffer.empty = .ok (timed, first))
    {call : LoggerCall} (named : call.WellFormed) {file : SourceFile} (source : file.WellFormed)
    (line : Int32) {operands : List LogItem} (good : ∀ item ∈ operands, item.WellFormed) :
    ∃ logger stream text, new context clock call file line = .ok (logger, timed) ∧
      logger.stream.inserts operands = .ok stream ∧
      output { logger with stream } = .ok text ∧
      (text.getLast? = some 10 ↔ EndsLine stream file) := by
  obtain ⟨logger, made, valid, -, rfl⟩ := new_eq done named file line
  obtain ⟨stream, inserted, streamValid, -⟩ := valid.inserts_eq good
  obtain ⟨text, passed, ends⟩ := @output_endsLine_iff { logger with stream } streamValid source
  exact ⟨logger, stream, text, made, inserted, passed, ends⟩

/-- A thread with the number 1, a second behind 1970. -/
def exampleContext : LogContext := ⟨1000000, 1, 0, fun _ => []⟩

/-- What is kept of the time behind this record. -/
def exampleClock : LogClock := ⟨bytes "19700101 00:00:01" ++ List.replicate 47 0, 1, ⟨none⟩⟩

/-- The record of `LOG_INFO` in the first line of `main.cc`, before its operands. -/
def exampleLogger : Logger :=
  ⟨⟨bytes "19700101 00:00:01.000000z     1 INFO  " ++ List.replicate 3962 0, 38⟩, .info, 1,
    ⟨bytes "main.cc", 7⟩⟩

/-- The constructor makes this record. -/
theorem new_example : new exampleContext LogClock.initial .plain ⟨bytes "main.cc", 7⟩ 1 =
    .ok (exampleLogger, exampleClock) := by
  decide +kernel

/-- The stream of this record has 3962 free bytes. -/
theorem exampleLogger_valid :
    exampleLogger.stream.Valid ∧ exampleLogger.stream.content.length = 38 ∧
      exampleLogger.stream.avail = 3962 := by
  have header : (bytes "19700101 00:00:01.000000z     1 INFO  ").length = 38 := by decide
  have valid : exampleLogger.stream.Valid := by
    refine ⟨?_, by decide⟩
    rw [exampleLogger, List.length_append, header, List.length_replicate]
    rfl
  exact ⟨valid, valid.length_content, valid.avail_eq⟩

/-- An operand behind this header. -/
theorem exampleLogger_inserts {item : LogItem} (good : item.WellFormed) {text : List UInt8}
    (fits : (LogItem.kept 3962 [item]).flatMap LogItem.text = text) :
    ∃ stream, exampleLogger.stream.inserts [item] = .ok stream ∧ stream.Valid ∧
      stream.content = exampleLogger.stream.content ++ text ∧
      stream.avail = 3962 - text.length := by
  obtain ⟨valid, header, free⟩ := exampleLogger_valid
  have each : ∀ other ∈ [item], other.WellFormed := List.forall_mem_singleton.mpr good
  obtain ⟨stream, inserted, kept, content⟩ := valid.inserts_eq each
  rw [free, fits] at content
  have size : (kSmallBuffer : Int) = 4000 := rfl
  have length := kept.length_content
  have left := kept.avail_eq
  rw [content, List.length_append, header] at length
  exact ⟨stream, inserted, kept, content, by omega⟩

/-- This record with one operand. -/
theorem record_endsLine_iff_hello : ∃ stream text,
    exampleLogger.stream.inserts [.cstring (some (bytes "hello" ++ [0]))] = .ok stream ∧
      output { exampleLogger with stream } = .ok text ∧ text.getLast? = some 10 := by
  have terminated : (LogItem.cstring (some (bytes "hello" ++ [0]))).WellFormed :=
    List.mem_append_right _ List.mem_cons_self
  obtain ⟨⟨clock, first⟩, timed, -⟩ := bind_eq_ok.mp new_example
  obtain ⟨logger, stream, text, made, inserted, passed, ends⟩ := @record_endsLine_iff
    exampleContext _ _ _ timed .plain trivial ⟨bytes "main.cc", 7⟩ ⟨by decide, by decide, by decide⟩
    1 _ (List.forall_mem_singleton.mpr terminated)
  cases Except.ok.inj (new_example.symm.trans made)
  have hello : (LogItem.kept 3962 [.cstring (some (bytes "hello" ++ [0]))]).flatMap LogItem.text =
      bytes "hello" := by decide +kernel
  obtain ⟨after, again, -, -, left⟩ := exampleLogger_inserts terminated hello
  cases Except.ok.inj (inserted.symm.trans again)
  have length : (bytes "hello").length = 5 := rfl
  refine ⟨stream, text, inserted, passed, ends.mpr (.inl ?_)⟩
  rw [roomForEnd, left, length]
  decide

/-- A long operand leaves one byte free, and the record is passed on without its end. -/
theorem record_without_end : ∃ stream text,
    new exampleContext LogClock.initial .plain ⟨bytes "main.cc", 7⟩ 1 =
      .ok (exampleLogger, exampleClock) ∧
    exampleLogger.stream.inserts [.string (List.replicate 3961 65)] = .ok stream ∧
    output { exampleLogger with stream } = .ok text ∧ text.getLast? = some 65 := by
  have source : exampleLogger.basename.WellFormed := ⟨by decide, by decide, by decide⟩
  have long : (List.replicate 3961 (65 : UInt8)).length = 3961 := List.length_replicate
  have last : (List.replicate 3961 (65 : UInt8)).getLast? = some 65 := by
    rw [List.getLast?_replicate]
    rfl
  generalize List.replicate 3961 (65 : UInt8) = operand at *
  have fits : (LogItem.kept 3962 [.string operand]).flatMap LogItem.text = operand := by
    rw [LogItem.keptText_string, if_pos (by omega), LogItem.kept, List.flatMap_nil,
      List.append_nil]
  obtain ⟨stream, inserted, kept, content, left⟩ := @exampleLogger_inserts (.string operand) trivial
    _ fits
  have full : stream.avail = 1 := by
    rw [left, long]
    rfl
  have none : (LogItem.kept 1 (finishItems { exampleLogger with stream })).flatMap LogItem.text =
      [] := rfl
  have passed := @output_eq { exampleLogger with stream } kept source
  rw [full, none, List.append_nil, content] at passed
  refine ⟨stream, _, new_example, inserted, passed, ?_⟩
  rw [List.getLast?_append, last, Option.some_or]

end Logger

end Muduo
