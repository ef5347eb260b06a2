import Muduo.Net.Http.Parse

/-!
# Well-formed requests without a body

A `RequestText` is a request as a client writes it. Its text is what goes over the wire, and its
`request` is what the callback of the server should be given, apart from the time of reception. The
parser is compared with this reading line by line.
-/

open Outcome

namespace Muduo

/-- `HttpRequest::methodString()` of a request with the given method. -/
def HttpRequest.methodString : HttpMethod → List UInt8
  | .kGet => bytes "GET"
  | .kPost => bytes "POST"
  | .kPut => bytes "PUT"
  | .kDelete => bytes "DELETE"
  | .kHead => bytes "HEAD"
  | .kInvalid => bytes "UNKNOWN"

/-- The text of a version. -/
def versionString : HttpVersion → List UInt8
  | .kHttp10 => bytes "HTTP/1.0"
  | .kHttp11 => bytes "HTTP/1.1"
  | .kUnknown => []

/-- A request line. -/
def requestLine (method : HttpMethod) (target : List UInt8) (version : HttpVersion) : List UInt8 :=
  HttpRequest.methodString method ++ 32 :: (target ++ 32 :: versionString version)

/-- A header line: a name, a colon, and what follows it. -/
def headerLine (header : List UInt8 × List UInt8) : List UInt8 := header.1 ++ 58 :: header.2

/-- A well-formed request without a body. -/
structure RequestText where
  /-- The method. -/
  method : HttpMethod
  /-- The target: a path and perhaps a query. -/
  target : List UInt8
  /-- The version. -/
  version : HttpVersion
  /-- The headers. -/
  headers : List (List UInt8 × List UInt8)
  /-- There is a method. -/
  named : method ≠ .kInvalid
  /-- There is a version. -/
  known : version ≠ .kUnknown
  /-- The target has no space. -/
  spaceless : 32 ∉ target
  /-- The request line is one line. -/
  single : ¬kCRLF <:+: requestLine method target version
  /-- The names of the headers have no colon. -/
  names : ∀ header ∈ headers, 58 ∉ header.1
  /-- Each header is one line. -/
  lines : ∀ header ∈ headers, ¬kCRLF <:+: headerLine header

/-- The text without the spaces at both of its ends. -/
def trim (text : List UInt8) : List UInt8 :=
  ((text.dropWhile isspace).reverse.dropWhile isspace).reverse

/-- The headers of a request, the later ones in the place of earlier ones of the same name. -/
def addHeaders (r : HttpRequest) (headers : List (List UInt8 × List UInt8)) : HttpRequest :=
  { r with headers := headers.foldl (fun map header => map.set header.1 (trim header.2)) r.headers }

/-- The request apart from the time of its reception. -/
def HttpRequest.content (r : HttpRequest) : HttpRequest := { r with receiveTime := 0 }

namespace RequestText

/-- The header lines with their ends, and the empty line. -/
def headerText (headers : List (List UInt8 × List UInt8)) : List UInt8 :=
  headers.flatMap (fun header => headerLine header ++ kCRLF) ++ kCRLF

/-- The text of a request. -/
def text (t : RequestText) : List UInt8 :=
  requestLine t.method t.target t.version ++ (kCRLF ++ headerText t.headers)

/-- What the request line says. -/
def opening (t : RequestText) : HttpRequest where
  method := t.method
  version := t.version
  path := t.target.takeWhile (· != 63)
  query := t.target.dropWhile (· != 63)
  receiveTime := 0
  headers := []

/-- What the request says. -/
def request (t : RequestText) : HttpRequest := addHeaders t.opening t.headers

/-- The text of requests one after the other. -/
def stream (requests : List RequestText) : List UInt8 := requests.flatMap text

/-- The requests that are complete in so many bytes of the stream. -/
def complete : List RequestText → Nat → List RequestText
  | [], _ => []
  | t :: rest, received =>
    if t.text.length ≤ received then t :: complete rest (received - t.text.length) else []

end RequestText

namespace RequestText

/-- The text of a request followed by others. -/
theorem stream_cons (t : RequestText) (rest : List RequestText) :
    stream (t :: rest) = t.text ++ stream rest := List.flatMap_cons

/-- The text of some requests followed by others. -/
theorem stream_append (front back : List RequestText) :
    stream (front ++ back) = stream front ++ stream back := List.flatMap_append

/-- Whole requests are complete, and then those complete in the bytes that are left. -/
theorem complete_append (front back : List RequestText) (received : Nat) :
    complete (front ++ back) ((stream front).length + received) =
      front ++ complete back received := by
  induction front with
  | nil => rw [List.nil_append, List.nil_append, stream, List.flatMap_nil, List.length_nil,
      Nat.zero_add]
  | cons t front ih =>
    have enough : t.text.length ≤ (stream (t :: front)).length + received := by
      rw [stream_cons, List.length_append]
      omega
    have left : (stream (t :: front)).length + received - t.text.length =
        (stream front).length + received := by
      rw [stream_cons, List.length_append]
      omega
    rw [List.cons_append, complete, if_pos enough, left, ih, List.cons_append]

/-- What is complete in the received part of a stream, behind requests that are complete. -/
theorem complete_received {requests front back : List RequestText} {received future : List UInt8}
    (parts : requests = front ++ back) (whole : received ++ future = stream requests)
    (left : future.length ≤ (stream back).length) :
    complete requests received.length =
      front ++ complete back ((stream back).length - future.length) := by
  have length := congrArg List.length whole
  rw [parts, stream_append, List.length_append, List.length_append] at length
  have count : received.length =
      (stream front).length + ((stream back).length - future.length) := by omega
  rw [parts, count, complete_append]

/-- No text of a request is empty. -/
theorem text_length_pos (t : RequestText) : 0 < t.text.length := by
  have two : kCRLF.length = 2 := rfl
  rw [text, headerText, List.length_append, List.length_append, List.length_append, two]
  omega

/-- A request whose end is not received is not complete. -/
theorem complete_none {t : RequestText} {rest : List RequestText} {future : List UInt8}
    (less : (stream rest).length < future.length) :
    complete (t :: rest) ((stream (t :: rest)).length - future.length) = [] := by
  have some := t.text_length_pos
  have short : ¬t.text.length ≤ (stream (t :: rest)).length - future.length := by
    rw [stream_cons, List.length_append]
    omega
  rw [complete, if_neg short]

end RequestText

/-- The end of a line without one inside is found at its end. -/
theorem search_line {line : List UInt8} (single : ¬kCRLF <:+: line) (rest : List UInt8) :
    Search.search kCRLF (line ++ (kCRLF ++ rest)) = line.length := by
  have two : kCRLF = [13, 10] := rfl
  apply Search.search_eq
  · have length : kCRLF.length = 2 := rfl
    rw [List.length_append, List.length_append]
    omega
  · rw [List.drop_left]
    exact List.prefix_append _ _
  · intro earlier before occurs
    rw [List.drop_append_of_le_length before.le] at occurs
    cases tail : line.drop earlier with
    | nil =>
      have length := congrArg List.length tail
      rw [List.length_drop, List.length_nil] at length
      omega
    | cons first others =>
      rw [tail, two] at occurs
      cases others with
      | nil => simp at occurs
      | cons second others =>
        obtain ⟨rfl, rfl⟩ : 13 = first ∧ 10 = second := by simpa using occurs
        have inside : kCRLF <:+: line.drop earlier := ⟨[], others, by rw [tail]; rfl⟩
        exact single (inside.trans (List.drop_suffix _ _).isInfix)

namespace HttpContext

variable {b : Buffer} {line rest future : List UInt8}

/-- The parser at a line of the stream, of which the buffer holds a part: it waits when the line is
not there with its end, and takes the line otherwise. -/
theorem next_line (valid : b.Valid) (single : ¬kCRLF <:+: line)
    (reads : b.readable ++ future = line ++ (kCRLF ++ rest)) :
    b.findCRLF = none ∧ b.readable.length < line.length + 2 ∨
    ∃ crlf next, b.findCRLF = some crlf ∧ lineTo b crlf = line ∧
      b.retrieveUntil (crlf + 2) = .ok next ∧ next.Valid ∧ next.readable ++ future = rest ∧
      next.readableBytes < b.readableBytes := by
  have two : kCRLF.length = 2 := rfl
  have whole := search_line single rest
  cases found : b.findCRLF with
  | none =>
    left
    refine ⟨rfl, ?_⟩
    by_contra enough
    have front : line ++ kCRLF <+: b.readable := by
      refine List.prefix_of_prefix_length_le ?_ (List.prefix_append _ future) ?_
      · rw [reads, ← List.append_assoc]
        exact List.prefix_append _ _
      · rw [List.length_append]
        omega
    obtain ⟨others, same⟩ := front
    have position := search_line single others
    rw [← List.append_assoc, same] at position
    have inside : Search.search kCRLF b.readable < b.readable.length := by omega
    rw [Buffer.findCRLF_of_found valid inside] at found
    cases found
  | some crlf =>
    right
    obtain ⟨same, before, -⟩ := Buffer.findCRLF_eq_some valid found
    have position : Search.search kCRLF b.readable = line.length := by
      rw [← Search.search_append future before, reads]
      exact whole
    have inside := Search.search_inside before
    obtain ⟨next, taken, nextValid, shorter⟩ := retrieveUntil_line valid found
    obtain ⟨other, also, -, left⟩ := Buffer.retrieveUntil_eq valid
      (by omega : b.readerIndex ≤ crlf + 2) (Buffer.findCRLF_eq_some valid found).2.2
    obtain rfl := Except.ok.inj (taken.symm.trans also)
    have start : crlf + 2 - b.readerIndex = line.length + 2 := by omega
    refine ⟨crlf, next, rfl, ?_, taken, nextValid, ?_, by omega⟩
    · have front : (b.readable ++ future).take line.length = b.readable.take line.length :=
        List.take_append_of_le_length (by omega)
      rw [same, lineTo_search valid, position, ← front, reads, List.take_left]
    · rw [left, start, ← List.drop_append_of_le_length (by omega), reads, ← List.append_assoc]
      have length : (line ++ kCRLF).length = line.length + 2 := by
        rw [List.length_append, two]
      rw [← length, List.drop_left]

/-- A target is cut at its first question mark. -/
theorem readTarget_eq (r : HttpRequest) (target : List UInt8) (query : r.query = []) :
    r.readTarget target =
      { r with path := target.takeWhile (· != 63), query := target.dropWhile (· != 63) } := by
  have position : target.idxOf 63 = target.findIdx fun byte => !(byte != 63) := by
    rw [List.idxOf]
    congr 1
    funext byte
    simp [bne]
  rw [List.takeWhile_eq_take_findIdx_not, List.dropWhile_eq_drop_findIdx_not, ← position,
    HttpRequest.readTarget]
  split
  · rfl
  next none =>
    have all : target.idxOf 63 = target.length := not_not.mp none
    rw [all, List.take_length, List.drop_length, ← query]

/-- Versions are read as they are written. -/
theorem readVersion_eq (r : HttpRequest) {version : HttpVersion} (known : version ≠ .kUnknown) :
    r.readVersion (versionString version) = ({ r with version }, true) := by
  cases version with
  | kUnknown => exact absurd rfl known
  | kHttp10 => rfl
  | kHttp11 => rfl

/-- Methods are read as they are written, except that `setMethod` does not know `HEAD`. -/
theorem methodOf_eq {method : HttpMethod} (named : method ≠ .kInvalid) :
    HttpRequest.methodOf (HttpRequest.methodString method) =
      if method = .kHead then .kInvalid else method := by
  cases method with
  | kInvalid => exact absurd rfl named
  | _ => decide

/-- No method has a space. -/
theorem methodString_spaceless (method : HttpMethod) : 32 ∉ HttpRequest.methodString method := by
  cases method <;> decide

variable (t : RequestText)

/-- The request line up to the method. -/
theorem processRequestLine_method :
    processRequestLine .new (requestLine t.method t.target t.version) =
      if t.method = .kHead then .ok (.new, false)
      else .ok (HttpRequest.readRest { HttpRequest.new with method := t.method }
        (t.target ++ 32 :: versionString t.version)) := by
  have cut : Search.CutAt 32 (requestLine t.method t.target t.version)
      (HttpRequest.methodString t.method) (t.target ++ 32 :: versionString t.version) :=
    .of_not_mem (methodString_spaceless t.method) _
  rw [processRequestLine]
  dsimp only
  rw [cut.position, if_pos cut.inside, cut.before, cut.behind, HttpRequest.setMethod,
    methodOf_eq t.named]
  by_cases head : t.method = .kHead
  · rw [if_pos head, if_pos head]
    rfl
  · rw [if_neg head, if_neg head]
    have known : (t.method != .kInvalid) = true := by simpa using t.named
    simp only [known]
    rfl

/-- The request line of a well-formed request, except for the method `HEAD`, is read as it is
written. -/
theorem processRequestLine_opening (supported : t.method ≠ .kHead) :
    processRequestLine .new (requestLine t.method t.target t.version) =
      .ok (t.opening, true) := by
  have cut := Search.CutAt.of_not_mem t.spaceless (versionString t.version)
  rw [processRequestLine_method, if_neg supported, HttpRequest.readRest]
  dsimp only
  rw [cut.position, if_pos cut.inside, cut.before, cut.behind, readTarget_eq _ _ rfl,
    readVersion_eq _ t.known]
  rfl

/-- A header line is read as it is written. -/
theorem addHeader_eq (r : HttpRequest) {header : List UInt8 × List UInt8}
    (name : 58 ∉ header.1) :
    (headerLine header).idxOf 58 ≠ (headerLine header).length ∧
      r.addHeader (headerLine header) ((headerLine header).idxOf 58) =
        addHeaders r [header] := by
  have cut : Search.CutAt 58 (headerLine header) header.1 header.2 := .of_not_mem name _
  rw [cut.position]
  refine ⟨cut.inside, ?_⟩
  rw [HttpRequest.addHeader, cut.before, cut.behind]
  rfl

/-- What the parser leaves of header lines: it has read them all, or it waits inside them. -/
inductive HeadersRead (c : HttpContext) (headers : List (List UInt8 × List UInt8))
    (rest future : List UInt8) (after : HttpContext) (next : Buffer) : Prop
  /-- All are read. -/
  | all (state : after.state = .kGotAll) (request : after.request = addHeaders c.request headers)
      (reads : next.readable ++ future = rest)
  /-- Some are left, and not all of their bytes are there. -/
  | some {read more : List (List UInt8 × List UInt8)} (split : headers = read ++ more)
      (state : after.state = .kExpectHeaders)
      (request : after.request = addHeaders c.request read)
      (reads : next.readable ++ future = RequestText.headerText more ++ rest)
      (short : next.readable.length < (RequestText.headerText more).length)

/-- The first of the header lines is not there with its end. -/
theorem headersRead_none {c : HttpContext} {headers : List (List UInt8 × List UInt8)}
    (state : c.state = .kExpectHeaders)
    (reads : b.readable ++ future = RequestText.headerText headers ++ rest)
    (short : b.readable.length < (RequestText.headerText headers).length) :
    HeadersRead c headers rest future c b := by
  have none : headers = [] ++ headers := rfl
  exact .some none state rfl reads short

/-- The loop of `parseRequest` on header lines. -/
theorem parseLoop_headers (receiveTime : Int) (headers : List (List UInt8 × List UInt8))
    (names : ∀ header ∈ headers, 58 ∉ header.1)
    (lines : ∀ header ∈ headers, ¬kCRLF <:+: headerLine header) {times : Nat} {c : HttpContext}
    (valid : b.Valid) (state : c.state = .kExpectHeaders)
    (reads : b.readable ++ future = RequestText.headerText headers ++ rest)
    (enough : b.readableBytes < times) :
    ∃ after next, parseLoop receiveTime times c b = .ok (after, next, true) ∧ next.Valid ∧
      HeadersRead c headers rest future after next := by
  have two : kCRLF.length = 2 := rfl
  induction headers generalizing times c b with
  | nil =>
    cases times with
    | zero => cases enough
    | succ times =>
      have single : ¬kCRLF <:+: [] := by simp [kCRLF]
      have line : b.readable ++ future = [] ++ (kCRLF ++ rest) := reads
      rw [parseLoop]
      obtain ⟨none, short⟩ | ⟨crlf, next, found, same, taken, nextValid, left, -⟩ :=
        next_line valid single line
      · simp only [state, none]
        exact ⟨c, b, rfl, valid, headersRead_none state reads short⟩
      · simp only [state, found, taken, same, ok_bind]
        exact ⟨_, next, rfl, nextValid, .all rfl rfl left⟩
  | cons header headers ih =>
    cases times with
    | zero => cases enough
    | succ times =>
      have text : RequestText.headerText (header :: headers) =
          headerLine header ++ (kCRLF ++ RequestText.headerText headers) := by
        simp [RequestText.headerText]
      have line : b.readable ++ future =
          headerLine header ++ (kCRLF ++ (RequestText.headerText headers ++ rest)) := by
        rw [reads, text]
        simp
      rw [parseLoop]
      obtain ⟨none, short⟩ | ⟨crlf, next, found, same, taken, nextValid, left, less⟩ :=
        next_line valid (lines header List.mem_cons_self) line
      · simp only [state, none]
        refine ⟨c, b, rfl, valid, headersRead_none state reads ?_⟩
        rw [text, List.length_append, List.length_append, two]
        omega
      · obtain ⟨colon, added⟩ := addHeader_eq c.request (names header List.mem_cons_self)
        simp only [state, found, taken, same, ok_bind]
        rw [if_pos colon, added]
        have again : ∃ after last,
            parseLoop receiveTime times ⟨.kExpectHeaders, addHeaders c.request [header]⟩ next =
              .ok (after, last, true) ∧ last.Valid ∧
            HeadersRead ⟨.kExpectHeaders, addHeaders c.request [header]⟩ headers rest future
              after last :=
          ih (fun other later => names other (List.mem_cons_of_mem _ later))
            (fun other later => lines other (List.mem_cons_of_mem _ later)) nextValid rfl left
            (by omega)
        obtain ⟨after, last, done, lastValid, result⟩ := again
        refine ⟨after, last, done, lastValid, ?_⟩
        cases result with
        | all state request reads => exact .all state request reads
        | @some read more split state request reads short =>
          have whole : header :: headers = (header :: read) ++ more := by
            rw [split, List.cons_append]
          exact .some whole state request reads short

/-- Where the parser is in a stream of requests: at the first line of the first of these requests,
or behind some of its headers; and the bytes of the stream from there on. -/
inductive Ahead : List RequestText → HttpContext → List UInt8 → Prop
  /-- At the request line. -/
  | line {remaining : List RequestText} : Ahead remaining .new (RequestText.stream remaining)
  /-- Behind some headers. -/
  | headers {t : RequestText} {rest : List RequestText} {c : HttpContext}
      {read more : List (List UInt8 × List UInt8)} (supported : t.method ≠ .kHead)
      (split : t.headers = read ++ more) (state : c.state = .kExpectHeaders)
      (content : c.request.content = addHeaders t.opening read) :
      Ahead (t :: rest) c (RequestText.headerText more ++ RequestText.stream rest)

/-- What is ahead of the parser is the end of the stream of the requests it has not taken. -/
theorem Ahead.length_le {remaining : List RequestText} {c : HttpContext} {coming : List UInt8}
    (ahead : Ahead remaining c coming) :
    coming.length ≤ (RequestText.stream remaining).length := by
  cases ahead with
  | line => exact Nat.le_refl _
  | @headers t rest _ read more supported split state content =>
    have parts : t.text = (requestLine t.method t.target t.version ++ (kCRLF ++
        read.flatMap fun header => headerLine header ++ kCRLF)) ++ RequestText.headerText more := by
      rw [RequestText.text, split]
      simp [RequestText.headerText]
    rw [RequestText.stream_cons, parts]
    simp only [List.length_append]
    omega

/-- What a call of `parseRequest` does in a stream of requests. -/
inductive Advances (remaining : List RequestText) (future : List UInt8) (after : HttpContext)
    (next : Buffer) : Prop
  /-- The first request is not complete, or has the method `HEAD`. -/
  | waits (unfinished : after.gotAll = false)
      (ahead : Ahead remaining after (next.readable ++ future))
      (incomplete : ∀ t rest, remaining = t :: rest → t.method ≠ .kHead →
        (RequestText.stream rest).length < future.length)
  /-- The first request is complete and parsed. -/
  | parses {t : RequestText} {rest : List RequestText} (first : remaining = t :: rest)
      (supported : t.method ≠ .kHead) (finished : after.gotAll = true)
      (content : after.request.content = t.request)
      (reads : next.readable ++ future = RequestText.stream rest)

/-- The parser behind some headers goes on. -/
theorem HeadersRead.advances {t : RequestText} {others : List RequestText} {c after : HttpContext}
    {next : Buffer} {read more : List (List UInt8 × List UInt8)}
    (result : HeadersRead c more (RequestText.stream others) future after next)
    (supported : t.method ≠ .kHead) (split : t.headers = read ++ more)
    (content : c.request.content = addHeaders t.opening read) :
    Advances (t :: others) future after next := by
  have chain (headers : List (List UInt8 × List UInt8)) :
      (addHeaders c.request headers).content = addHeaders t.opening (read ++ headers) := by
    have apart : (addHeaders c.request headers).content =
        addHeaders c.request.content headers := rfl
    rw [apart, content, addHeaders, addHeaders, addHeaders, List.foldl_append]
  cases result with
  | all state request reads =>
    refine .parses rfl supported (beq_iff_eq.mpr state) ?_ reads
    rw [request, chain, ← split]
    rfl
  | @some later last rejoined state request reads short =>
    have unfinished : after.gotAll = false := by
      rw [gotAll, state]
      rfl
    refine .waits unfinished ?_ ?_
    · have whole : t.headers = (read ++ later) ++ last := by
        rw [split, rejoined, List.append_assoc]
      have said : after.request.content = addHeaders t.opening (read ++ later) := by
        rw [request, chain]
      rw [reads]
      exact .headers supported whole state said
    · intro first rest same _
      cases same
      have length := congrArg List.length reads
      rw [List.length_append, List.length_append] at length
      omega

/-- A call of `parseRequest` behind the last request. -/
theorem parseRequest_empty (receiveTime : Int) (valid : b.Valid) (empty : b.readable = []) :
    HttpContext.new.parseRequest b receiveTime = .ok (.new, b, true) := by
  have none : b.findCRLF = none := by
    cases found : b.findCRLF with
    | none => rfl
    | some crlf =>
      obtain ⟨-, before, -⟩ := Buffer.findCRLF_eq_some valid found
      rw [empty] at before
      cases before
  rw [parseRequest, parseLoop]
  simp only [HttpContext.new, none]

/-- A call of `parseRequest` at a request line: the line is not there with its end, or it names
`HEAD`, or it is read and the header lines come next. -/
theorem parseRequest_line (receiveTime : Int) {t : RequestText} {rest : List RequestText}
    (valid : b.Valid) (reads : b.readable ++ future = RequestText.stream (t :: rest)) :
    ∃ after next ok, HttpContext.new.parseRequest b receiveTime = .ok (after, next, ok) ∧
      next.Valid ∧ Advances (t :: rest) future after next := by
  have two : kCRLF.length = 2 := rfl
  have here : Ahead (t :: rest) .new (b.readable ++ future) := by
    rw [reads]
    exact .line
  have text : b.readable ++ future = requestLine t.method t.target t.version ++
      (kCRLF ++ (RequestText.headerText t.headers ++ RequestText.stream rest)) := by
    rw [reads]
    simp [RequestText.stream, RequestText.text]
  rw [parseRequest, parseLoop]
  simp only [HttpContext.new]
  obtain ⟨none, short⟩ | ⟨crlf, next, found, same, taken, nextValid, left, less⟩ :=
    next_line valid t.single text
  · simp only [none]
    refine ⟨_, b, true, rfl, valid, .waits rfl here ?_⟩
    intro first others equal _
    cases equal
    have length := congrArg List.length text
    simp only [List.length_append] at length
    omega
  · simp only [found, same]
    by_cases head : t.method = .kHead
    · rw [processRequestLine_method, if_pos head]
      refine ⟨_, b, false, rfl, valid, .waits rfl here ?_⟩
      intro first others equal other
      cases equal
      exact absurd head other
    · rw [processRequestLine_opening t head]
      simp only [ok_bind, ↓reduceIte, taken]
      obtain ⟨after, last, done, lastValid, result⟩ :=
        parseLoop_headers (c := ⟨.kExpectHeaders, { t.opening with receiveTime }⟩) receiveTime
          t.headers t.names t.lines nextValid rfl left less
      have none : t.headers = [] ++ t.headers := rfl
      exact ⟨after, last, true, done, lastValid, result.advances head none rfl⟩

/-- Every call of `parseRequest` in a stream of well-formed requests returns, and takes the first
request if it is complete. -/
theorem parseRequest_ahead (receiveTime : Int) {remaining : List RequestText} {c : HttpContext}
    (valid : b.Valid) (ahead : Ahead remaining c (b.readable ++ future)) :
    ∃ after next ok, c.parseRequest b receiveTime = .ok (after, next, ok) ∧ next.Valid ∧
      Advances remaining future after next := by
  generalize reads : b.readable ++ future = coming at ahead
  cases ahead with
  | line =>
    cases remaining with
    | nil =>
      have empty : b.readable = [] := (List.append_eq_nil_iff.mp reads).1
      refine ⟨_, b, true, parseRequest_empty receiveTime valid empty, valid, .waits rfl ?_ ?_⟩
      · rw [reads]
        exact .line
      · intro t rest same
        cases same
    | cons t rest => exact parseRequest_line receiveTime valid reads
  | @headers t rest _ read more supported split state content =>
    have names : ∀ header ∈ more, 58 ∉ header.1 := fun header member =>
      t.names header (by rw [split]; exact List.mem_append_right _ member)
    have lines : ∀ header ∈ more, ¬kCRLF <:+: headerLine header := fun header member =>
      t.lines header (by rw [split]; exact List.mem_append_right _ member)
    obtain ⟨after, next, done, nextValid, result⟩ :=
      parseLoop_headers receiveTime more names lines valid state reads (Nat.lt_succ_self _)
    exact ⟨after, next, true, done, nextValid, result.advances supported split content⟩

end HttpContext

end Muduo
