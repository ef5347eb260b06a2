import Muduo.Net.BufferSpec
import Muduo.Net.Http.Context

/-!
# `dc::net::HttpResponse`

A response is appended to a buffer text by text, each through a `StringPiece`.
-/

open Outcome

namespace Muduo

/-- `HttpResponse::HttpStatusCode`. -/
inductive HttpStatusCode
  | kUnknown
  | k200ok
  | k301MovedPermanentyle
  | k400BadRequest
  | k404NotFound
  deriving DecidableEq, Repr

/-- The number of a status code. -/
def HttpStatusCode.value : HttpStatusCode → Nat
  | kUnknown => 0
  | k200ok => 200
  | k301MovedPermanentyle => 301
  | k400BadRequest => 400
  | k404NotFound => 404

/-- `class HttpResponse`. -/
structure HttpResponse where
  /-- `headers_`. -/
  headers : StringMap
  /-- `statusCode_`. -/
  statusCode : HttpStatusCode
  /-- `statusMessage_`. -/
  statusMessage : List UInt8
  /-- `closeConnection_`. -/
  closeConnection : Bool
  /-- `body_`. -/
  body : List UInt8
  deriving DecidableEq, Repr

/-- What `snprintf(buf, sizeof buf, ..)` leaves of a text in `char buf[32]`. -/
def inBuf (text : List UInt8) : List UInt8 := text.take 31

namespace HttpResponse

/-- `HttpResponse(close)`. -/
def new (close : Bool) : HttpResponse where
  headers := []
  statusCode := .kUnknown
  statusMessage := []
  closeConnection := close
  body := []

/-- The texts that `appendToBuffer` appends, in their order. -/
def texts (r : HttpResponse) : List (List UInt8) :=
  [inBuf (bytes "HTTP/1.1 " ++ decimal r.statusCode.value ++ bytes " "), r.statusMessage,
    bytes "\r\n"] ++
  (if r.closeConnection then
    [bytes "Connection: close\r\n"]
  else
    [inBuf (bytes "Content-Length: " ++ decimal r.body.length ++ bytes "\r\n"),
      bytes "Connection: Keep-Alive\r\n"]) ++
  r.headers.flatMap (fun header => [header.1, bytes ":", header.2, bytes "\r\n"]) ++
  [bytes "\r\n", r.body]

/-- Appends texts one after the other. -/
def appendAll (texts : List (List UInt8)) (output : Buffer) : Except Fault Buffer :=
  texts.foldlM (fun output text => output.appendPiece (.ofString text)) output

/-- `appendToBuffer(output)`. -/
def appendToBuffer (r : HttpResponse) (output : Buffer) : Except Fault Buffer :=
  appendAll r.texts output

/-- The texts of the user are shorter than `2^31` bytes. -/
structure Short (r : HttpResponse) : Prop where
  /-- The status message. -/
  statusMessage : r.statusMessage.length < 2 ^ 31
  /-- The names and values of the headers. -/
  headers : ∀ header ∈ r.headers, header.1.length < 2 ^ 31 ∧ header.2.length < 2 ^ 31
  /-- The body. -/
  body : r.body.length < 2 ^ 31

/-- What is left in `char buf[32]` is short. -/
theorem inBuf_short (text : List UInt8) : (inBuf text).length < 2 ^ 31 := by
  rw [inBuf, List.length_take]
  omega

/-- All texts of a short response are short. -/
theorem Short.texts {r : HttpResponse} (short : r.Short) :
    ∀ text ∈ r.texts, text.length < 2 ^ 31 := by
  intro text member
  rw [HttpResponse.texts, List.mem_append, List.mem_append, List.mem_append] at member
  obtain ((first | connection) | header) | last := member
  · obtain rfl | rfl | rfl : _ ∨ _ ∨ _ := by simpa using first
    · exact inBuf_short _
    · exact short.statusMessage
    · decide
  · split at connection
    · rw [List.mem_singleton.mp connection]
      decide
    · obtain rfl | rfl : _ ∨ _ := by simpa using connection
      · exact inBuf_short _
      · decide
  · obtain ⟨pair, inside, part⟩ := List.mem_flatMap.mp header
    obtain ⟨name, value⟩ := short.headers pair inside
    obtain rfl | rfl | rfl | rfl : _ ∨ _ ∨ _ ∨ _ := by simpa using part
    · exact name
    · decide
    · exact value
    · decide
  · obtain rfl | rfl : _ ∨ _ := by simpa using last
    · decide
    · exact short.body

/-- Short texts are appended in their order; only a vector that cannot grow stops this. -/
theorem appendAll_meets (texts : List (List UInt8)) {output : Buffer} (valid : output.Valid)
    (short : ∀ text ∈ texts, text.length < 2 ^ 31) :
    Meets (appendAll texts output)
      (fun after => after.Valid ∧ after.readable = output.readable ++ texts.flatten)
      (· = .lengthError) := by
  induction texts generalizing output with
  | nil => exact .ok ⟨valid, by simp⟩
  | cons text rest ih =>
    have first := Buffer.appendPiece_meets valid (short text List.mem_cons_self)
    refine (first.mono (fun _ => id) fun _ stop => stop.1).bind fun next ⟨nextValid, added⟩ => ?_
    refine (ih nextValid fun other later => short other (List.mem_cons_of_mem _ later)).mono
      (fun after ⟨afterValid, all⟩ => ⟨afterValid, ?_⟩) fun _ => id
    rw [all, added, List.flatten_cons, List.append_assoc]

/-- Texts of any length leave a valid buffer. -/
theorem appendAll_ok {texts : List (List UInt8)} {output after : Buffer} (valid : output.Valid)
    (done : appendAll texts output = .ok after) : after.Valid := by
  induction texts generalizing output with
  | nil =>
    obtain rfl := Except.ok.inj done
    exact valid
  | cons text rest ih =>
    obtain ⟨next, appended, others⟩ := bind_eq_ok.mp done
    exact ih (Buffer.append_ok valid appended).2.1 others

/-- A short response is appended whole. -/
theorem appendToBuffer_meets {r : HttpResponse} (short : r.Short) {output : Buffer}
    (valid : output.Valid) :
    Meets (r.appendToBuffer output)
      (fun after => after.Valid ∧ after.readable = output.readable ++ r.texts.flatten)
      (· = .lengthError) :=
  appendAll_meets r.texts valid short.texts

end HttpResponse

end Muduo
