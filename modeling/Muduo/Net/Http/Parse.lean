import Muduo.Net.BufferSpec
import Muduo.Net.Http.Context

/-!
# What the parser of requests leaves behind

A call of `parseRequest` ends when it waits for more bytes, has a whole request, or met a bad
request line. The bad line stays in the buffer, and the method it named stays in the request.
-/

open Outcome

namespace Muduo

variable {b : Buffer}

namespace Buffer

/-- Where `findCRLF` finds the end of a line. -/
theorem findCRLF_eq_some (valid : b.Valid) {crlf : Nat} (found : b.findCRLF = some crlf) :
    crlf = b.readerIndex + Search.search kCRLF b.readable ∧
      Search.search kCRLF b.readable < b.readable.length ∧ crlf + 2 ≤ b.writerIndex := by
  have length := valid.length_readable
  have distance := valid.readableBytes_eq
  have ordered := valid.reader_le
  have bound := Search.search_le kCRLF b.readable
  rw [findCRLF] at found
  split at found
  · cases found
  next other =>
    obtain rfl := Option.some.inj found
    have before : Search.search kCRLF b.readable < b.readable.length := by omega
    have inside := Search.search_inside before
    have two : kCRLF.length = 2 := rfl
    exact ⟨rfl, before, by omega⟩

/-- `findCRLF` finds the end of a line that is there. -/
theorem findCRLF_of_found (valid : b.Valid)
    (found : Search.search kCRLF b.readable < b.readable.length) :
    b.findCRLF = some (b.readerIndex + Search.search kCRLF b.readable) := by
  have length := valid.length_readable
  have distance := valid.readableBytes_eq
  rw [findCRLF]
  exact if_neg (by omega)

end Buffer

namespace HttpContext

/-- The line before the end that `findCRLF` found. -/
theorem lineTo_search (valid : b.Valid) :
    lineTo b (b.readerIndex + Search.search kCRLF b.readable) =
      b.readable.take (Search.search kCRLF b.readable) := by
  have bound := Search.search_le kCRLF b.readable
  have length := valid.length_readable
  have distance := valid.readableBytes_eq
  exact Storage.window_take _ (by omega)

/-- Taking a line from the buffer, with its end. -/
theorem retrieveUntil_line (valid : b.Valid) {crlf : Nat} (found : b.findCRLF = some crlf) :
    ∃ rest, b.retrieveUntil (crlf + 2) = .ok rest ∧ rest.Valid ∧
      rest.readableBytes + 2 ≤ b.readableBytes := by
  obtain ⟨same, before, inside⟩ := Buffer.findCRLF_eq_some valid found
  obtain ⟨rest, taken, restValid, left⟩ :=
    Buffer.retrieveUntil_eq valid (by omega : b.readerIndex ≤ crlf + 2) inside
  have length := congrArg List.length left
  rw [List.length_drop, restValid.length_readable, valid.length_readable] at length
  have distance := valid.readableBytes_eq
  have ordered := valid.reader_le
  exact ⟨rest, taken, restValid, by omega⟩

/-- A request line was bad after it had named a method, and the method is still there. -/
def HalfWritten (c : HttpContext) : Prop :=
  c.state = .kExpectRequestLine ∧ c.request.method ≠ .kInvalid

/-- The first line of the text has a space, so that it is read for a method. -/
def NamesMethod (text : List UInt8) : Prop :=
  Search.search kCRLF text < text.length ∧ 32 ∈ text.take (Search.search kCRLF text)

/-- More bytes do not change the first line. -/
theorem NamesMethod.append {text : List UInt8} (names : NamesMethod text) (more : List UInt8) :
    NamesMethod (text ++ more) := by
  obtain ⟨found, space⟩ := names
  rw [NamesMethod, Search.search_append more found, List.take_append_of_le_length found.le,
    List.length_append]
  exact ⟨Nat.lt_add_right _ found, space⟩

/-- A request line for a request without a method. -/
theorem processRequestLine_fresh {r : HttpRequest} (fresh : r.method = .kInvalid)
    (line : List UInt8) :
    ∃ after ok, processRequestLine r line = .ok (after, ok) ∧
      (after.method ≠ .kInvalid → 32 ∈ line) := by
  rw [processRequestLine]
  dsimp only
  split
  next space =>
    have member : 32 ∈ line :=
      List.idxOf_lt_length_iff.mp (lt_of_le_of_ne List.idxOf_le_length space)
    rw [HttpRequest.setMethod, fresh, BEq.rfl, ensure_true]
    simp only [ok_bind]
    split
    · exact ⟨_, _, rfl, fun _ => member⟩
    · exact ⟨_, _, rfl, fun _ => member⟩
  next => exact ⟨r, false, rfl, fun named => absurd fresh named⟩

/-- A request line for a request that has a method already. -/
theorem processRequestLine_named {r : HttpRequest} (named : r.method ≠ .kInvalid)
    {line : List UInt8} (space : 32 ∈ line) :
    processRequestLine r line = .error (.assertion "method_ == kInvalid") := by
  have inside : line.idxOf 32 ≠ line.length := (List.idxOf_lt_length_iff.mpr space).ne
  rw [processRequestLine]
  dsimp only
  rw [if_pos inside, HttpRequest.setMethod, beq_false_of_ne named]
  rfl

/-- What a call of `parseRequest` leaves. -/
structure Parsed (c : HttpContext) (buf : Buffer) : Prop where
  /-- The buffer is valid. -/
  valid : buf.Valid
  /-- The state is one that the parser reaches. -/
  reached : c.state ≠ .kExpectBody
  /-- A method without a good request line is named in the first line of the buffer. -/
  names : c.HalfWritten → NamesMethod buf.readable

/-- The loop of `parseRequest` ends after the lines that the buffer holds, and fails no assertion,
when no method is left over. -/
theorem parseLoop_parsed (receiveTime : Int) (times : Nat) (c : HttpContext)
    (valid : b.Valid) (begun : c.state = .kExpectRequestLine ∨ c.state = .kExpectHeaders)
    (whole : ¬c.HalfWritten) (enough : b.readableBytes < times) :
    ∃ after rest ok, parseLoop receiveTime times c b = .ok (after, rest, ok) ∧
      Parsed after rest := by
  induction times generalizing c b with
  | zero => cases enough
  | succ times ih =>
    rw [parseLoop]
    obtain line | headers := begun
    · have fresh : c.request.method = .kInvalid := by
        by_contra named
        exact whole ⟨line, named⟩
      simp only [line]
      split
      next crlf found =>
        obtain ⟨request, ok, processed, space⟩ := processRequestLine_fresh fresh (lineTo b crlf)
        obtain ⟨rest, taken, restValid, shorter⟩ := retrieveUntil_line valid found
        simp only [processed, ok_bind]
        cases ok with
        | true =>
          simp only [↓reduceIte, taken, ok_bind]
          exact ih _ restValid (.inr rfl) (fun half => nomatch half.1) (by omega)
        | false =>
          simp only [Bool.false_eq_true, ↓reduceIte]
          refine ⟨_, _, _, rfl, valid, nofun, fun half => ?_⟩
          obtain ⟨same, before, -⟩ := Buffer.findCRLF_eq_some valid found
          have named := space half.2
          rw [same, lineTo_search valid] at named
          exact ⟨before, named⟩
      next =>
        refine ⟨_, _, _, rfl, valid, ?_, fun half => absurd half whole⟩
        rw [line]
        nofun
    · simp only [headers]
      split
      next crlf found =>
        obtain ⟨rest, taken, restValid, shorter⟩ := retrieveUntil_line valid found
        simp only [taken, ok_bind]
        split
        · exact ih _ restValid (.inr rfl) (fun half => nomatch half.1) (by omega)
        · exact ⟨_, _, _, rfl, restValid, nofun, fun half => nomatch half.1⟩
      next =>
        refine ⟨_, _, _, rfl, valid, ?_, fun half => absurd half whole⟩
        rw [headers]
        nofun

/-- `parseRequest` returns, and fails no assertion, when no method is left over. -/
theorem parseRequest_parsed (receiveTime : Int) {c : HttpContext} (valid : b.Valid)
    (begun : c.state = .kExpectRequestLine ∨ c.state = .kExpectHeaders)
    (whole : ¬c.HalfWritten) :
    ∃ after rest ok, c.parseRequest b receiveTime = .ok (after, rest, ok) ∧ Parsed after rest :=
  parseLoop_parsed receiveTime _ c valid begun whole (Nat.lt_succ_self _)

/-- `parseRequest` fails its assertion when a method is left over and the line that named it is
still the first of the buffer. -/
theorem parseRequest_half (receiveTime : Int) {c : HttpContext} (valid : b.Valid)
    (half : c.HalfWritten) (names : NamesMethod b.readable) :
    c.parseRequest b receiveTime = .error (.assertion "method_ == kInvalid") := by
  obtain ⟨found, space⟩ := names
  rw [parseRequest, parseLoop]
  simp only [half.1, Buffer.findCRLF_of_found valid found]
  rw [lineTo_search valid, processRequestLine_named half.2 space]
  rfl

end HttpContext

end Muduo
