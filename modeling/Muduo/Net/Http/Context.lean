import Muduo.Lib.Outcome
import Muduo.Net.Buffer

/-!
# `dc::net::HttpRequest` and `dc::net::HttpContext`

The parser of requests. A line is the bytes between two pointers into the input buffer, and what
`std::find` returns in it is a position, the length of the line when nothing is found.
-/

open Outcome

namespace Muduo

/-- `HttpRequest::Method`. -/
inductive HttpMethod
  | kInvalid
  | kGet
  | kPost
  | kDelete
  | kPut
  | kHead
  deriving DecidableEq, Repr

/-- `HttpRequest::Version`. -/
inductive HttpVersion
  | kUnknown
  | kHttp10
  | kHttp11
  deriving DecidableEq, Repr

/-- A `std::map<string, string>`: its pairs in the order of the keys. -/
abbrev StringMap := List (List UInt8 × List UInt8)

namespace StringMap

/-- `map[key] = value`. -/
def set (key value : List UInt8) : StringMap → StringMap
  | [] => [(key, value)]
  | (other, old) :: rest =>
    if key = other then (key, value) :: rest
    else if key < other then (key, value) :: (other, old) :: rest
    else (other, old) :: set key value rest

/-- The value `map.find(key)` points to, or the empty string. -/
def get (key : List UInt8) : StringMap → List UInt8
  | [] => []
  | (other, value) :: rest => if key = other then value else get key rest

end StringMap

/-- `isspace(c)` in the C locale. -/
def isspace (c : UInt8) : Bool := c == 32 || (9 ≤ c && c ≤ 13)

/-- `class HttpRequest`. -/
structure HttpRequest where
  /-- `method_`. -/
  method : HttpMethod
  /-- `version_`. -/
  version : HttpVersion
  /-- `path_`. -/
  path : List UInt8
  /-- `query_`. -/
  query : List UInt8
  /-- `receiveTime_`, in microseconds. -/
  receiveTime : Int
  /-- `headers_`. -/
  headers : StringMap
  deriving DecidableEq, Repr

namespace HttpRequest

/-- `HttpRequest()`. -/
def new : HttpRequest where
  method := .kInvalid
  version := .kUnknown
  path := []
  query := []
  receiveTime := 0
  headers := []

/-- The method that a text names in `setMethod`. -/
def methodOf (text : List UInt8) : HttpMethod :=
  if text = bytes "GET" then .kGet
  else if text = bytes "POST" then .kPost
  else if text = bytes "PUT" then .kPut
  else if text = bytes "DELETE" then .kDelete
  else .kInvalid

/-- `setMethod(start, end)`. -/
def setMethod (r : HttpRequest) (text : List UInt8) : Except Fault (HttpRequest × Bool) := do
  ensure (r.method == .kInvalid) "method_ == kInvalid"
  let method := methodOf text
  .ok ({ r with method }, method != .kInvalid)

/-- `addHeader(start, colon, end)`, with the position of the colon in the line. -/
def addHeader (r : HttpRequest) (line : List UInt8) (colon : Nat) : HttpRequest :=
  let field := line.take colon
  let value := (line.drop (colon + 1)).dropWhile isspace
  let trimmed := (value.reverse.dropWhile isspace).reverse
  { r with headers := r.headers.set field trimmed }

/-- `getHeader(field)`. -/
def getHeader (r : HttpRequest) (field : List UInt8) : List UInt8 := r.headers.get field

/-- The part of `processRequestLine` that reads the version. -/
def readVersion (r : HttpRequest) (text : List UInt8) : HttpRequest × Bool :=
  if text.length = 8 ∧ text.take 7 = bytes "HTTP/1." then
    if text.drop 7 = bytes "1" then ({ r with version := .kHttp11 }, true)
    else if text.drop 7 = bytes "0" then ({ r with version := .kHttp10 }, true)
    else (r, false)
  else
    (r, false)

/-- The part of `processRequestLine` that reads the path and the query. -/
def readTarget (r : HttpRequest) (target : List UInt8) : HttpRequest :=
  let question := target.idxOf 63
  if question ≠ target.length then
    { r with path := target.take question, query := target.drop question }
  else
    { r with path := target }

/-- The part of `processRequestLine` after the method. -/
def readRest (r : HttpRequest) (rest : List UInt8) : HttpRequest × Bool :=
  let space := rest.idxOf 32
  if space ≠ rest.length then
    (r.readTarget (rest.take space)).readVersion (rest.drop (space + 1))
  else
    (r, false)

end HttpRequest

/-- `HttpContext::HttpRequestPaserState`. -/
inductive HttpRequestPaserState
  | kExpectRequestLine
  | kExpectHeaders
  | kExpectBody
  | kGotAll
  deriving DecidableEq, Repr

/-- `class HttpContext`. -/
structure HttpContext where
  /-- `state_`. -/
  state : HttpRequestPaserState
  /-- `request_`. -/
  request : HttpRequest
  deriving DecidableEq, Repr

namespace HttpContext

/-- `HttpContext()`. -/
def new : HttpContext := ⟨.kExpectRequestLine, .new⟩

/-- `gotAll()`. -/
def gotAll (c : HttpContext) : Bool := c.state == .kGotAll

/-- `reset()`. -/
def reset (_ : HttpContext) : HttpContext := ⟨.kExpectRequestLine, .new⟩

/-- `processRequestLine(begin, end)`. -/
def processRequestLine (r : HttpRequest) (line : List UInt8) :
    Except Fault (HttpRequest × Bool) := do
  let space := line.idxOf 32
  if space ≠ line.length then
    let (named, known) ← r.setMethod (line.take space)
    if known then .ok (named.readRest (line.drop (space + 1))) else .ok (named, false)
  else
    .ok (r, false)

/-- The bytes from `peek()` to a pointer into the buffer. -/
def lineTo (buf : Buffer) (crlf : Nat) : List UInt8 :=
  Storage.window buf.buffers buf.readerIndex crlf

/-- The loop of `parseRequest`, at most so many times. -/
def parseLoop (receiveTime : Int) :
    Nat → HttpContext → Buffer → Except Fault (HttpContext × Buffer × Bool)
  | 0, _, _ => .error .endless
  | times + 1, c, buf =>
    match c.state with
    | .kExpectRequestLine =>
      match buf.findCRLF with
      | some crlf => do
        let (request, ok) ← processRequestLine c.request (lineTo buf crlf)
        if ok then
          let rest ← buf.retrieveUntil (crlf + 2)
          parseLoop receiveTime times ⟨.kExpectHeaders, { request with receiveTime }⟩ rest
        else
          .ok ({ c with request }, buf, false)
      | none => .ok (c, buf, true)
    | .kExpectHeaders =>
      match buf.findCRLF with
      | some crlf => do
        let line := lineTo buf crlf
        let colon := line.idxOf 58
        let rest ← buf.retrieveUntil (crlf + 2)
        if colon ≠ line.length then
          parseLoop receiveTime times { c with request := c.request.addHeader line colon } rest
        else
          .ok ({ c with state := .kGotAll }, rest, true)
      | none => .ok (c, buf, true)
    | .kExpectBody => parseLoop receiveTime times c buf
    | .kGotAll => parseLoop receiveTime times c buf

/-- `parseRequest(buf, receiveTime)`. The loop goes on only after it took a line from the buffer, or
forever. -/
def parseRequest (c : HttpContext) (buf : Buffer) (receiveTime : Int) :
    Except Fault (HttpContext × Buffer × Bool) :=
  parseLoop receiveTime (buf.readableBytes + 1) c buf

end HttpContext

end Muduo
