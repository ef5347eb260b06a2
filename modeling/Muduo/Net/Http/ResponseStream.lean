import Muduo.Net.Http.Response
import Muduo.Net.Http.ResponseReader

/-!
# Responses one after the other

The server appends each response to a buffer of its own and sends what is readable in it. A reader
of the whole stream has the responses back exactly when no text of theirs is cut on its way through
the `int` length of a `StringPiece`, and when each response fits into a vector.
-/

open Outcome

namespace Muduo

/-- What `append(const StringPiece&)` appends of a text, when it returns. -/
def appended (text : List UInt8) : List UInt8 := text.take (sizeOfInt (intOfSize text.length))

/-- A short text is appended whole. -/
theorem appended_of_lt {text : List UInt8} (short : text.length < 2 ^ 31) :
    appended text = text := by
  rw [appended, sizeOfInt_intOfSize short, List.take_length]

/-- An `int` that becomes the size of an object was not negative. -/
theorem sizeOfInt_intOfSize_lt {size : Nat} (object : sizeOfInt (intOfSize size) ≤ maxSize) :
    sizeOfInt (intOfSize size) < 2 ^ 31 := by
  rw [maxSize] at object
  rw [sizeOfInt, intOfSize] at object ⊢
  split at object
  · rw [if_pos ‹_›]
    omega
  · omega

namespace HttpResponse

/-- The bytes of a response, as `HttpServer::onRequest` sends them. -/
def output (r : HttpResponse) : Except Fault (List UInt8) := do
  let buf ← Buffer.new kInitialSize
  let filled ← r.appendToBuffer buf
  return filled.readable

/-- What a reader should have of a response. -/
def read (r : HttpResponse) : ReadResponse where
  statusCode := r.statusCode.value
  statusMessage := r.statusMessage
  headers := r.headers
  body := r.body

/-- A reader of the bytes of all responses has the responses, and nothing is left over. -/
def Decodes (responses : List HttpResponse) : Prop :=
  ∃ outputs, responses.mapM output = .ok outputs ∧
    ReadResponse.readResponses (outputs.flatten.length + 1) outputs.flatten =
      some (responses.map read)

/-- A response that does not end its connection, with texts that can be told apart. -/
structure Plain (r : HttpResponse) : Prop where
  /-- `closeConnection()` is false. -/
  keepAlive : r.closeConnection = false
  /-- The status message has neither CR nor LF. -/
  statusMessage : 13 ∉ r.statusMessage ∧ 10 ∉ r.statusMessage
  /-- The names have neither CR nor LF. -/
  names : ∀ header ∈ r.headers, 13 ∉ header.1 ∧ 10 ∉ header.1
  /-- The values have neither CR nor LF. -/
  values : ∀ header ∈ r.headers, 13 ∉ header.2 ∧ 10 ∉ header.2
  /-- The names have no colon. -/
  colonless : ∀ header ∈ r.headers, 58 ∉ header.1
  /-- The names are not those of the lines that are always there. -/
  other : ∀ header ∈ r.headers,
    header.1 ≠ bytes "Content-Length" ∧ header.1 ≠ bytes "Connection"
  /-- `headers_` is a map. -/
  sorted : r.headers.Sorted
  /-- The body has fewer than `2^31` bytes. -/
  body : r.body.length < 2 ^ 31

/-- The status message and the texts of the headers have fewer than `2^31` bytes, and the whole
response fits into a vector behind the bytes for `prepend`. -/
structure Fits (r : HttpResponse) : Prop where
  /-- The status message. -/
  statusMessage : r.statusMessage.length < 2 ^ 31
  /-- The names and values of the headers. -/
  headers : ∀ header ∈ r.headers, header.1.length < 2 ^ 31 ∧ header.2.length < 2 ^ 31
  /-- The whole response. -/
  room : kCheapPrepend + r.texts.flatten.length ≤ maxSize

/-- Texts of any length, when they were appended. -/
theorem appendAll_appended {texts : List (List UInt8)} {output after : Buffer}
    (valid : output.Valid) (start : output.readerIndex = kCheapPrepend)
    (done : appendAll texts output = .ok after) :
    after.Valid ∧ after.readerIndex = kCheapPrepend ∧
      after.readable = output.readable ++ (texts.map appended).flatten ∧
      ∀ text ∈ texts, (appended text).length < 2 ^ 31 := by
  induction texts generalizing output with
  | nil =>
    obtain rfl := Except.ok.inj done
    exact ⟨valid, start, (List.append_nil _).symm, nofun⟩
  | cons text texts ih =>
    obtain ⟨next, first, others⟩ := bind_eq_ok.mp done
    obtain ⟨enough, nextValid, added⟩ := Buffer.append_ok valid first
    obtain ⟨afterValid, reader, readable, short⟩ :=
      ih nextValid (Buffer.append_reader start first) others
    have small : (appended text).length < 2 ^ 31 := by
      have object := nextValid.readable_le
      have length := congrArg List.length added
      have count : (appended text).length = sizeOfInt (intOfSize text.length) := by
        rw [appended, List.length_take]
        exact Nat.min_eq_left enough
      rw [List.length_append] at length
      change next.readable.length = output.readable.length + (appended text).length at length
      rw [count] at length ⊢
      exact sizeOfInt_intOfSize_lt (by omega)
    refine ⟨afterValid, reader, ?_, List.forall_mem_cons.mpr ⟨small, short⟩⟩
    rw [readable, added, List.map_cons, List.flatten_cons, List.append_assoc]
    rfl

/-- Short texts that fit into a vector are appended. -/
theorem appendAll_fits {texts : List (List UInt8)} {output : Buffer} (valid : output.Valid)
    (start : output.readerIndex = kCheapPrepend) (short : ∀ text ∈ texts, text.length < 2 ^ 31)
    (room : kCheapPrepend + (output.readable ++ texts.flatten).length ≤ maxSize) :
    ∃ after, appendAll texts output = .ok after ∧
      after.readable = output.readable ++ texts.flatten := by
  induction texts generalizing output with
  | nil => exact ⟨output, rfl, (List.append_nil _).symm⟩
  | cons text texts ih =>
    rw [List.flatten_cons, ← List.append_assoc] at room ⊢
    obtain ⟨next, first, nextValid, added⟩ | ⟨fault, -, -, needed⟩ :=
      (Buffer.appendPiece_meets valid (short text List.mem_cons_self)).split
    · rw [← added] at room ⊢
      obtain ⟨after, others, readable⟩ := ih nextValid (Buffer.append_reader start first)
        (fun text member => short text (.tail _ member)) room
      exact ⟨after, bind_eq_ok.mpr ⟨next, first, others⟩, readable⟩
    · exfalso
      have distance := valid.readableBytes_eq
      have length := valid.length_readable
      rw [List.length_append, List.length_append] at room
      omega

variable {r : HttpResponse}

/-- The lines of the headers as they are appended. -/
def appendedLines (headers : StringMap) : List (List UInt8 × List UInt8) :=
  headers.map fun header => (appended header.1, appended header.2)

/-- What is appended for the headers. -/
theorem flatten_headers (headers : StringMap) :
    ((headers.flatMap fun header => [header.1, bytes ":", header.2, bytes "\r\n"]).map
        appended).flatten =
      (appendedLines headers).flatMap fun line => headerLine line ++ kCRLF := by
  have colon : appended (bytes ":") = [58] := by decide
  have crlf : appended (bytes "\r\n") = kCRLF := by decide
  induction headers with
  | nil => rfl
  | cons header headers ih =>
    have lines : appendedLines (header :: headers) =
        (appended header.1, appended header.2) :: appendedLines headers := rfl
    rw [List.flatMap_cons, List.map_append, List.flatten_append, ih, lines, List.flatMap_cons]
    congr 1
    simp [colon, crlf, headerLine]

/-- A status line begins with a text that fits into `char buf[32]`. -/
theorem inBuf_status (code : HttpStatusCode) :
    inBuf (bytes "HTTP/1.1 " ++ decimal code.value ++ bytes " ") =
      bytes "HTTP/1.1 " ++ decimal code.value ++ bytes " " := by
  cases code <;> decide

/-- The length of a short body fits into `char buf[32]`. -/
theorem inBuf_length {length : Nat} (short : length < 2 ^ 31) :
    inBuf (bytes "Content-Length: " ++ decimal length ++ bytes "\r\n") =
      bytes "Content-Length: " ++ decimal length ++ bytes "\r\n" := by
  have digits := @decimal_length_le length 10 (by decide) (by omega)
  have front : (bytes "Content-Length: ").length = 16 := rfl
  have back : (bytes "\r\n").length = 2 := rfl
  refine List.take_of_length_le ?_
  rw [List.length_append, List.length_append]
  omega

/-- What is appended for the status line. -/
theorem flatten_status (code : HttpStatusCode) (message : List UInt8) :
    ([inBuf (bytes "HTTP/1.1 " ++ decimal code.value ++ bytes " "), message, bytes "\r\n"].map
        appended).flatten =
      bytes "HTTP/1.1 " ++ (decimal code.value ++ 32 :: appended message) ++ kCRLF := by
  have front := appended_of_lt (inBuf_short (bytes "HTTP/1.1 " ++ decimal code.value ++ bytes " "))
  have crlf : appended (bytes "\r\n") = kCRLF := by decide
  have space : bytes " " = [32] := rfl
  rw [inBuf_status] at front ⊢
  rw [List.map_cons, front, List.map_cons, List.map_singleton, crlf, space]
  simp only [List.flatten_cons, List.flatten_nil, List.append_nil, List.append_assoc,
    List.cons_append, List.nil_append]

/-- What is appended for the lines of the server. -/
theorem flatten_own {length : Nat} (short : length < 2 ^ 31) :
    ([inBuf (bytes "Content-Length: " ++ decimal length ++ bytes "\r\n"),
        bytes "Connection: Keep-Alive\r\n"].map appended).flatten =
      (ReadResponse.ownLines length).flatMap fun line => headerLine line ++ kCRLF := by
  have front := appended_of_lt (inBuf_short
    (bytes "Content-Length: " ++ decimal length ++ bytes "\r\n"))
  have name : bytes "Content-Length: " = bytes "Content-Length" ++ [58, 32] := rfl
  have crlf : bytes "\r\n" = kCRLF := rfl
  have back : appended (bytes "Connection: Keep-Alive\r\n") =
      headerLine (bytes "Connection", bytes " Keep-Alive") ++ kCRLF := by decide
  rw [inBuf_length short] at front ⊢
  rw [List.map_cons, front, List.map_singleton, back, name, crlf]
  simp only [List.flatten_cons, List.flatten_nil, List.append_nil, ReadResponse.ownLines,
    List.flatMap_cons, List.flatMap_nil, headerLine, List.append_assoc, List.cons_append,
    List.nil_append]

/-- The texts of a response, as they are appended. -/
theorem Plain.flatten_texts (plain : r.Plain) :
    (r.texts.map appended).flatten =
      ReadResponse.responseText r.statusCode.value (appended r.statusMessage)
        (ReadResponse.ownLines r.body.length ++ appendedLines r.headers) r.body := by
  have crlf : appended (bytes "\r\n") = kCRLF := by decide
  have last : ([bytes "\r\n", r.body].map appended).flatten = kCRLF ++ r.body := by
    rw [List.map_cons, crlf, List.map_singleton, appended_of_lt plain.body]
    simp
  rw [texts, plain.keepAlive, if_neg Bool.false_ne_true, List.map_append, List.map_append,
    List.map_append, List.flatten_append, List.flatten_append, List.flatten_append, flatten_status,
    flatten_own plain.body, flatten_headers, last, ReadResponse.responseText,
    RequestText.headerText, List.flatMap_append]
  simp only [List.append_assoc]

/-- The lines of a plain response can be told apart, whatever is left of them. -/
theorem Plain.lines (plain : r.Plain) :
    ∀ line ∈ appendedLines r.headers, 58 ∉ line.1 ∧ ¬kCRLF <:+: headerLine line := by
  intro line member
  obtain ⟨header, inside, rfl⟩ := List.mem_map.mp member
  have colon : 58 ∉ appended header.1 := fun also =>
    plain.colonless header inside (List.mem_of_mem_take also)
  have name : 13 ∉ appended header.1 := fun also =>
    (plain.names header inside).1 (List.mem_of_mem_take also)
  have value : 13 ∉ appended header.2 := fun also =>
    (plain.values header inside).1 (List.mem_of_mem_take also)
  exact ⟨colon, single_append (ReadResponse.single_of_not_mem name)
    (ReadResponse.single_of_not_mem value) (by decide) (by decide)⟩

/-- The status message of a plain response is part of one line, whatever is left of it. -/
theorem Plain.single (plain : r.Plain) : ¬kCRLF <:+: appended r.statusMessage :=
  ReadResponse.single_of_not_mem fun also => plain.statusMessage.1 (List.mem_of_mem_take also)

/-- The names of a plain response are those of other lines. -/
theorem Plain.isOther (plain : r.Plain) :
    ∀ header ∈ r.headers, ReadResponse.isOther header.1 = true := by
  intro header inside
  obtain ⟨length, connection⟩ := plain.other header inside
  rw [ReadResponse.isOther, bne_iff_ne.mpr length, bne_iff_ne.mpr connection]
  rfl

/-- Short texts are left as they are. -/
theorem appendedLines_of_lt {headers : StringMap}
    (short : ∀ header ∈ headers, header.1.length < 2 ^ 31 ∧ header.2.length < 2 ^ 31) :
    appendedLines headers = headers := by
  refine (List.map_congr_left fun header member => ?_).trans (List.map_id headers)
  obtain ⟨name, value⟩ := short header member
  rw [appended_of_lt name, appended_of_lt value]
  rfl

/-- The bytes of a response that fits. -/
def text (r : HttpResponse) : List UInt8 :=
  ReadResponse.responseText r.statusCode.value r.statusMessage
    (ReadResponse.ownLines r.body.length ++ r.headers) r.body

/-- The texts of a header are texts of its response. -/
theorem mem_texts {header : List UInt8 × List UInt8} (inside : header ∈ r.headers)
    {part : List UInt8} (member : part ∈ [header.1, bytes ":", header.2, bytes "\r\n"]) :
    part ∈ r.texts :=
  List.mem_append_left _ (List.mem_append_right _ (List.mem_flatMap.mpr ⟨header, inside, member⟩))

/-- The bytes of a response, when it was appended. -/
theorem Plain.output_ok (plain : r.Plain) {bytes : List UInt8} (done : r.output = .ok bytes) :
    bytes = ReadResponse.responseText r.statusCode.value (appended r.statusMessage)
        (ReadResponse.ownLines r.body.length ++ appendedLines r.headers) r.body ∧
      kCheapPrepend + bytes.length ≤ maxSize ∧ (appended r.statusMessage).length < 2 ^ 31 ∧
      ∀ line ∈ appendedLines r.headers, line.1.length < 2 ^ 31 ∧ line.2.length < 2 ^ 31 := by
  obtain ⟨buf, made, valid, empty, reader, -⟩ := Buffer.new_kInitialSize
  rw [output, made, ok_bind] at done
  obtain ⟨filled, appending, same⟩ := bind_eq_ok.mp done
  obtain rfl := Except.ok.inj same
  obtain ⟨filledValid, start, readable, short⟩ := appendAll_appended valid reader appending
  rw [empty, List.nil_append, plain.flatten_texts] at readable
  refine ⟨readable, ?_, ?_, ?_⟩
  · have length := filledValid.length_readable
    have distance := filledValid.readableBytes_eq
    have inside := filledValid.writer_le
    have size := filledValid.size_le
    have ordered := filledValid.reader_le
    omega
  · exact short r.statusMessage (by simp [texts])
  · intro line member
    obtain ⟨header, inside, rfl⟩ := List.mem_map.mp member
    exact ⟨short _ (mem_texts inside (by simp)), short _ (mem_texts inside (by simp))⟩

/-- Nothing is cut in a short response. -/
theorem Short.map_appended (short : r.Short) : r.texts.map appended = r.texts :=
  (List.map_congr_left fun text member => appended_of_lt (short.texts text member)).trans
    (List.map_id r.texts)

/-- A plain response that fits is appended whole. -/
theorem Plain.output_fits (plain : r.Plain) (fits : r.Fits) : r.output = .ok r.text := by
  obtain ⟨buf, made, valid, empty, reader, -⟩ := Buffer.new_kInitialSize
  have short : r.Short := ⟨fits.statusMessage, fits.headers, plain.body⟩
  obtain ⟨filled, appending, readable⟩ := appendAll_fits valid reader short.texts (by
    rw [empty, List.nil_append]
    exact fits.room)
  have bytes := plain.flatten_texts
  rw [short.map_appended, appended_of_lt fits.statusMessage,
    appendedLines_of_lt fits.headers] at bytes
  rw [output, made, ok_bind, appendToBuffer, appending, ok_bind, pure_eq_ok, readable, empty,
    List.nil_append, bytes]
  rfl

/-- A response in front of other bytes is read back. -/
theorem Plain.readResponse_text (plain : r.Plain) (rest : List UInt8) :
    ReadResponse.readResponse (r.text ++ rest) = some (r.read, rest) := by
  refine ReadResponse.readResponse_whole ?_ ?_ plain.sorted plain.isOther r.body rest
  · exact ReadResponse.single_of_not_mem plain.statusMessage.1
  · exact fun header inside => ⟨plain.colonless header inside,
      single_append (ReadResponse.single_of_not_mem (plain.names header inside).1)
        (ReadResponse.single_of_not_mem (plain.values header inside).1) (by decide) (by decide)⟩

/-- A response of which nothing was lost was not cut. -/
theorem Plain.fits (plain : r.Plain) {bytes rest left : List UInt8} (done : r.output = .ok bytes)
    (reads : ReadResponse.readResponse (bytes ++ rest) = some (r.read, left)) : r.Fits := by
  obtain ⟨same, room, message, headers⟩ := plain.output_ok done
  rw [same] at reads
  obtain ⟨whole, lines⟩ := ReadResponse.readResponse_some plain.single plain.lines reads
  have messageShort : r.statusMessage.length < 2 ^ 31 := by
    rw [← whole] at message
    exact message
  have headersShort : ∀ header ∈ r.headers,
      header.1.length < 2 ^ 31 ∧ header.2.length < 2 ^ 31 := fun header inside =>
    headers header (lines header inside)
  refine ⟨messageShort, headersShort, ?_⟩
  have short : r.Short := ⟨messageShort, headersShort, plain.body⟩
  rw [same, ← plain.flatten_texts, short.map_appended] at room
  exact room

/-- There are bytes in every response. -/
theorem text_ne_nil (r : HttpResponse) (rest : List UInt8) : r.text ++ rest ≠ [] := nofun

/-- One response more is read. -/
theorem readResponses_text (plain : r.Plain) (times : Nat) (rest : List UInt8) :
    ReadResponse.readResponses (times + 1) (r.text ++ rest) =
      (ReadResponse.readResponses times rest).map (r.read :: ·) := by
  have first := plain.readResponse_text rest
  cases bytes : r.text ++ rest with
  | nil => exact absurd bytes (r.text_ne_nil rest)
  | cons byte others =>
    rw [bytes] at first
    rw [ReadResponse.readResponses, first, Option.bind_eq_bind, Option.bind_some]
    dsimp only
    cases ReadResponse.readResponses times rest <;> rfl

/-- Responses that fit are sent. -/
theorem mapM_output {responses : List HttpResponse} (plain : ∀ r ∈ responses, r.Plain)
    (fits : ∀ r ∈ responses, r.Fits) : responses.mapM output = .ok (responses.map text) := by
  induction responses with
  | nil => rfl
  | cons r responses ih =>
    have first := (plain r List.mem_cons_self).output_fits (fits r List.mem_cons_self)
    rw [List.mapM_cons, first, ok_bind,
      ih (fun r member => plain r (.tail _ member)) fun r member => fits r (.tail _ member)]
    rfl

/-- The bytes of plain responses are read back. -/
theorem readResponses_texts {responses : List HttpResponse} (plain : ∀ r ∈ responses, r.Plain)
    {times : Nat} (enough : (responses.map text).flatten.length < times) :
    ReadResponse.readResponses times (responses.map text).flatten = some (responses.map read) := by
  induction responses generalizing times with
  | nil =>
    cases times with
    | zero => rfl
    | succ times => rfl
  | cons r responses ih =>
    obtain ⟨times, rfl⟩ := Nat.exists_eq_succ_of_ne_zero (Nat.ne_zero_of_lt enough)
    have some : r.text.length ≠ 0 := by
      have bytes := r.text_ne_nil []
      rw [List.append_nil] at bytes
      exact mt List.length_eq_zero_iff.mp bytes
    rw [List.map_cons, List.flatten_cons, List.length_append] at enough
    rw [List.map_cons, List.flatten_cons, readResponses_text (plain r List.mem_cons_self),
      ih (fun r member => plain r (.tail _ member)) (by omega)]
    rfl

/-- Responses that are read back fit. -/
theorem fits_of_readResponses {responses : List HttpResponse} (plain : ∀ r ∈ responses, r.Plain)
    {outputs : List (List UInt8)} (sent : responses.mapM output = .ok outputs) {times : Nat}
    (reads : ReadResponse.readResponses times outputs.flatten = some (responses.map read)) :
    ∀ r ∈ responses, r.Fits := by
  induction responses generalizing outputs times with
  | nil => exact nofun
  | cons r responses ih =>
    rw [List.mapM_cons] at sent
    obtain ⟨bytes, first, sent⟩ := bind_eq_ok.mp sent
    obtain ⟨others, rest, same⟩ := bind_eq_ok.mp sent
    obtain rfl := Except.ok.inj same
    obtain ⟨less, left, one, more⟩ := ReadResponse.readResponses_eq_cons reads
    rw [List.flatten_cons] at one
    have plainFirst := plain r List.mem_cons_self
    have fits := plainFirst.fits first one
    obtain rfl := Except.ok.inj (first.symm.trans (plainFirst.output_fits fits))
    rw [plainFirst.readResponse_text] at one
    obtain ⟨-, rfl⟩ := Prod.mk.inj (Option.some.inj one)
    exact List.forall_mem_cons.mpr
      ⟨fits, ih (fun r member => plain r (.tail _ member)) rest more⟩

/-- A reader has all responses exactly when each of them fits. -/
theorem decodes_iff_fits {responses : List HttpResponse} (plain : ∀ r ∈ responses, r.Plain) :
    Decodes responses ↔ ∀ r ∈ responses, r.Fits := by
  constructor
  · rintro ⟨outputs, sent, reads⟩
    exact fits_of_readResponses plain sent reads
  · intro fits
    exact ⟨_, mapM_output plain fits, readResponses_texts plain (Nat.lt_succ_self _)⟩

/-- A response with two headers, whose body looks like a response. -/
def framedReply : HttpResponse where
  headers := [(bytes "Content-Type", bytes "text/plain"), (bytes "Server", [])]
  statusCode := .k200ok
  statusMessage := bytes "OK then"
  closeConnection := false
  body := bytes "HTTP/1.1 404 \r\nContent-Length: 0\r\n\r\n"

/-- The response is plain. -/
theorem framedReply_plain : framedReply.Plain where
  keepAlive := rfl
  statusMessage := by decide
  names := by decide
  values := by decide
  colonless := by decide
  other := by decide
  sorted := by
    rw [StringMap.Sorted]
    decide
  body := by decide

/-- The response fits. -/
theorem framedReply_fits : framedReply.Fits where
  statusMessage := by decide
  headers := by decide
  room := by decide +kernel

/-- The response twice. -/
theorem decodes_iff_fits_twice : Decodes [framedReply, framedReply] := by
  refine (decodes_iff_fits ?_).mpr ?_
  · simp only [List.forall_mem_cons]
    exact ⟨framedReply_plain, framedReply_plain, nofun⟩
  · simp only [List.forall_mem_cons]
    exact ⟨framedReply_fits, framedReply_fits, nofun⟩

/-- A response with a status message of `2^32` bytes. -/
def longReply : HttpResponse :=
  { HttpResponse.new false with statusMessage := List.replicate (2 ^ 32) 65 }

/-- The response is plain. -/
theorem longReply_plain : longReply.Plain where
  keepAlive := rfl
  statusMessage := by
    constructor
    · exact fun member => absurd (List.eq_of_mem_replicate member) (by decide)
    · exact fun member => absurd (List.eq_of_mem_replicate member) (by decide)
  names := nofun
  values := nofun
  colonless := nofun
  other := nofun
  sorted := .nil
  body := by
    change ([] : List UInt8).length < 2 ^ 31
    decide

/-- Nothing of the message is sent. -/
theorem long_message_is_lost : (∀ r ∈ [longReply], r.Plain) ∧ ¬Decodes [longReply] := by
  have plain : ∀ r ∈ [longReply], r.Plain := List.forall_mem_singleton.mpr longReply_plain
  refine ⟨plain, ?_⟩
  rintro ⟨outputs, sent, reads⟩
  have fits := fits_of_readResponses plain sent reads longReply List.mem_cons_self
  have short := fits.statusMessage
  have length : longReply.statusMessage.length = 2 ^ 32 := List.length_replicate
  omega

end HttpResponse

end Muduo
