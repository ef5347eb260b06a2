import Muduo.Net.Http.Message

/-!
# Where the parser ends the headers

The bytes of a connection come in chunks, and `parseRequest` is called after each of them. Which
lines it has taken depends on the received bytes alone. It ends the headers at the first line
without a colon, which need not be the empty line.
-/

open Outcome

namespace Muduo

/-- The lines that are complete in a text, without their ends. -/
def completeLines : List UInt8 → List (List UInt8)
  | [] => []
  | [_] => []
  | first :: second :: rest =>
    if first = 13 ∧ second = 10 then [] :: completeLines rest
    else
      match completeLines (second :: rest) with
      | [] => []
      | line :: lines => (first :: line) :: lines

/-- The bytes of lines with their ends. -/
def lineText (lines : List (List UInt8)) : List UInt8 := lines.flatMap (· ++ kCRLF)

/-- A line inside a text is complete when its end is there. -/
theorem completeLines_line {line : List UInt8} (single : ¬kCRLF <:+: line) (rest : List UInt8) :
    completeLines (line ++ (kCRLF ++ rest)) = line :: completeLines rest := by
  induction line with
  | nil => rfl
  | cons head line ih =>
    have shorter : ¬kCRLF <:+: line := fun within =>
      single (within.trans (List.suffix_cons _ _).isInfix)
    have next := ih shorter
    cases line with
    | nil =>
      have apart : ¬(head = 13 ∧ (13 : UInt8) = 10) := fun pair => absurd pair.2 (by decide)
      change (if head = 13 ∧ (13 : UInt8) = 10 then _ else _) = _
      rw [if_neg apart]
      rfl
    | cons second others =>
      have apart : ¬(head = 13 ∧ second = 10) := by
        rintro ⟨rfl, rfl⟩
        exact single ⟨[], others, rfl⟩
      change (if head = 13 ∧ second = 10 then _ else
        match completeLines (second :: others ++ (kCRLF ++ rest)) with
        | [] => []
        | line :: lines => (head :: line) :: lines) = _
      rw [if_neg apart, next]

/-- Lines one after the other. -/
theorem completeLines_lineText {lines : List (List UInt8)}
    (single : ∀ line ∈ lines, ¬kCRLF <:+: line) (rest : List UInt8) :
    completeLines (lineText lines ++ rest) = lines ++ completeLines rest := by
  induction lines with
  | nil => rfl
  | cons line lines ih =>
    have parts : lineText (line :: lines) ++ rest =
        line ++ (kCRLF ++ (lineText lines ++ rest)) := by
      simp [lineText]
    rw [parts, completeLines_line (single line List.mem_cons_self),
      ih fun other later => single other (List.mem_cons_of_mem _ later), List.cons_append]

/-- A text without the end of a line has no complete line. -/
theorem completeLines_none {text : List UInt8} (none : ¬kCRLF <:+: text) :
    completeLines text = [] := by
  induction text with
  | nil => rfl
  | cons first rest ih =>
    have shorter := ih fun within => none (within.trans (List.suffix_cons _ _).isInfix)
    cases rest with
    | nil => rfl
    | cons second rest =>
      have apart : ¬(first = 13 ∧ second = 10) := by
        rintro ⟨rfl, rfl⟩
        exact none ⟨[], rest, rfl⟩
      rw [completeLines, if_neg apart, shorter]

/-- Every text has no end of a line, or begins with a line and its end. -/
theorem exists_line (text : List UInt8) :
    ¬kCRLF <:+: text ∨
      ∃ line rest, ¬kCRLF <:+: line ∧ text = line ++ (kCRLF ++ rest) := by
  induction text with
  | nil => exact .inl (by decide)
  | cons head rest ih =>
    by_cases here : kCRLF <+: head :: rest
    · obtain ⟨others, same⟩ := here
      exact .inr ⟨[], others, by decide, same.symm⟩
    · obtain none | ⟨line, others, single, same⟩ := ih
      · refine .inl fun inside => ?_
        obtain front | later := List.infix_cons_iff.mp inside
        · exact here front
        · exact none later
      · refine .inr ⟨head :: line, others, fun inside => ?_, by rw [same]; rfl⟩
        obtain front | later := List.infix_cons_iff.mp inside
        · refine here (front.trans ?_)
          rw [same]
          exact List.prefix_append (head :: line) _
        · exact single later

namespace HttpContext

variable {b : Buffer}

/-- The parser at the next line: it is not there with its end, or it is taken. -/
theorem read_line (valid : b.Valid) :
    b.findCRLF = none ∧ ¬kCRLF <:+: b.readable ∨
    ∃ line crlf next, b.findCRLF = some crlf ∧ lineTo b crlf = line ∧ ¬kCRLF <:+: line ∧
      b.retrieveUntil (crlf + 2) = .ok next ∧ next.Valid ∧
      b.readable = line ++ (kCRLF ++ next.readable) ∧ next.readableBytes < b.readableBytes := by
  have two : kCRLF.length = 2 := rfl
  obtain none | ⟨line, rest, single, text⟩ := exists_line b.readable
  · refine .inl ⟨?_, none⟩
    cases found : b.findCRLF with
    | none => rfl
    | some crlf =>
      obtain ⟨-, before, -⟩ := Buffer.findCRLF_eq_some valid found
      exact absurd ((Search.search_occurs before).isInfix.trans (List.drop_suffix _ _).isInfix) none
  · have reads : b.readable ++ [] = line ++ (kCRLF ++ rest) := by rw [List.append_nil, text]
    obtain ⟨-, short⟩ | ⟨crlf, next, found, same, taken, nextValid, left, less⟩ :=
      next_line valid single reads
    · rw [text, List.length_append, List.length_append] at short
      omega
    · rw [List.append_nil] at left
      exact .inr ⟨line, crlf, next, found, same, single, taken, nextValid, by rw [left, text], less⟩

/-- The request after some header lines were added to it. -/
def storeHeaders (r : HttpRequest) (lines : List (List UInt8)) : HttpRequest :=
  lines.foldl (fun r line => r.addHeader line (line.idxOf 58)) r

/-- What is known of lines that were taken for headers. -/
def HeaderLines (lines : List (List UInt8)) : Prop := ∀ line ∈ lines, ¬kCRLF <:+: line ∧ 58 ∈ line

/-- No lines are lines of headers. -/
theorem HeaderLines.nil : HeaderLines [] := nofun

/-- How the loop of `parseRequest` stops inside the headers: it waits for the end of a line, or it
has taken a line without a colon. -/
inductive Stops (text : List UInt8) : HttpRequestPaserState → List UInt8 → Prop
  /-- No line is left. -/
  | waits (none : ¬kCRLF <:+: text) : Stops text .kExpectHeaders text
  /-- A line without a colon was taken. -/
  | ends {last left : List UInt8} (parts : text = last ++ (kCRLF ++ left))
      (single : ¬kCRLF <:+: last) (colonless : 58 ∉ last) : Stops text .kGotAll left

/-- The loop of `parseRequest` inside the headers. -/
theorem parseLoop_stops (receiveTime : Int) {times : Nat} {c : HttpContext} (valid : b.Valid)
    (state : c.state = .kExpectHeaders) (enough : b.readableBytes < times) :
    ∃ after next lines text, parseLoop receiveTime times c b = .ok (after, next, true) ∧
      next.Valid ∧ HeaderLines lines ∧ after.request = storeHeaders c.request lines ∧
      b.readable = lineText lines ++ text ∧ Stops text after.state next.readable := by
  induction times generalizing c b with
  | zero => cases enough
  | succ times ih =>
    rw [parseLoop]
    obtain ⟨found, none⟩ | ⟨line, crlf, next, found, same, single, taken, nextValid, parts, less⟩ :=
      read_line valid
    · simp only [state, found]
      refine ⟨c, b, [], b.readable, rfl, valid, .nil, rfl, rfl, ?_⟩
      rw [state]
      exact .waits none
    · simp only [state, found, taken, same, ok_bind]
      by_cases colon : 58 ∈ line
      · have inside : line.idxOf 58 ≠ line.length := (List.idxOf_lt_length_iff.mpr colon).ne
        rw [if_pos inside]
        obtain ⟨after, last, lines, text, done, lastValid, headers, request, rest, stops⟩ :=
          @ih next ⟨.kExpectHeaders, c.request.addHeader line (line.idxOf 58)⟩ nextValid rfl
            (by omega)
        refine ⟨after, last, line :: lines, text, done, lastValid, ?_, request, ?_, stops⟩
        · intro other member
          obtain rfl | later := List.mem_cons.mp member
          · exact ⟨single, colon⟩
          · exact headers other later
        · rw [parts, rest]
          simp [lineText]
      · have outside : ¬line.idxOf 58 ≠ line.length := not_not.mpr (List.idxOf_eq_length colon)
        rw [if_neg outside]
        exact ⟨_, next, [], b.readable, rfl, nextValid, .nil, rfl, rfl,
          .ends parts single colon⟩

/-- A fresh context that is given the bytes of a connection in chunks: what was received, what the
context and the buffer are then, and what the last call of `parseRequest` returned. After a call
that returned `false`, or completed the request, there is no next one. -/
inductive Fed : List UInt8 → HttpContext → Buffer → Bool → Prop
  /-- Nothing was received. -/
  | start {b : Buffer} (valid : b.Valid) (empty : b.readable = []) : Fed [] .new b true
  /-- One more chunk is appended to the buffer and parsed. -/
  | chunk {received chunk : List UInt8} {c after : HttpContext} {b filled next : Buffer} {ok : Bool}
      {receiveTime : Int} (fed : Fed received c b true) (unfinished : c.gotAll = false)
      (appended : b.append chunk chunk.length = .ok filled)
      (parsed : c.parseRequest filled receiveTime = .ok (after, next, ok)) :
      Fed (received ++ chunk) after next ok

/-- A good request line and some headers. -/
structure Opened (line : List UInt8) (lines : List (List UInt8)) (r : HttpRequest) : Prop where
  /-- The request line is one line. -/
  single : ¬kCRLF <:+: line
  /-- The request line is good, and the headers were added to what it says. -/
  stored : ∃ opened receiveTime, processRequestLine .new line = .ok (opened, true) ∧
    r = storeHeaders { opened with receiveTime } lines
  /-- The headers. -/
  headers : HeaderLines lines

/-- What the parser has done with the bytes received so far. -/
inductive Progress (received : List UInt8) (c : HttpContext) (left : List UInt8) : Bool → Prop
  /-- The request line is not complete. -/
  | line (fresh : c = .new) (reads : left = received) (none : ¬kCRLF <:+: received) :
      Progress received c left true
  /-- The request line is bad. -/
  | bad {line rest : List UInt8} {r : HttpRequest} (state : c.state = .kExpectRequestLine)
      (parts : received = line ++ (kCRLF ++ rest)) (single : ¬kCRLF <:+: line)
      (refused : processRequestLine .new line = .ok (r, false)) : Progress received c left false
  /-- The request line and some lines with colons were taken, and the parser has stopped. -/
  | taken {line text : List UInt8} {lines : List (List UInt8)}
      (parts : received = line ++ (kCRLF ++ (lineText lines ++ text)))
      (opened : Opened line lines c.request) (stops : Stops text c.state left) :
      Progress received c left true

/-- Inside the headers, the parser takes up where it stopped. -/
theorem parseLoop_progress (receiveTime : Int) {times : Nat} {c : HttpContext} (valid : b.Valid)
    {received line : List UInt8} {lines : List (List UInt8)} (state : c.state = .kExpectHeaders)
    (enough : b.readableBytes < times) (opened : Opened line lines c.request)
    (parts : received = line ++ (kCRLF ++ (lineText lines ++ b.readable))) :
    ∃ after next, parseLoop receiveTime times c b = .ok (after, next, true) ∧ next.Valid ∧
      Progress received after next.readable true := by
  obtain ⟨after, next, more, text, done, nextValid, headers, request, rest, stops⟩ :=
    parseLoop_stops receiveTime valid state enough
  refine ⟨after, next, done, nextValid, ?_⟩
  have joined : received = line ++ (kCRLF ++ (lineText (lines ++ more) ++ text)) := by
    rw [parts, rest]
    simp [lineText]
  refine .taken joined ⟨opened.single, ?_, ?_⟩ stops
  · obtain ⟨first, time, good, said⟩ := opened.stored
    refine ⟨first, time, good, ?_⟩
    rw [request, said, storeHeaders, storeHeaders, storeHeaders, List.foldl_append]
  · intro other member
    obtain earlier | later := List.mem_append.mp member
    · exact opened.headers other earlier
    · exact headers other later

/-- One call of `parseRequest` after another chunk: it returns, and has gone on in the bytes
received. -/
theorem Progress.parse (receiveTime : Int) {received chunk : List UInt8} {c : HttpContext}
    {left : List UInt8} (progress : Progress received c left true) (unfinished : c.gotAll = false)
    (valid : b.Valid) (reads : b.readable = left ++ chunk) :
    ∃ after next ok, c.parseRequest b receiveTime = .ok (after, next, ok) ∧ next.Valid ∧
      Progress (received ++ chunk) after next.readable ok := by
  cases progress with
  | line fresh same none =>
    subst fresh same
    rw [parseRequest, parseLoop]
    simp only [HttpContext.new]
    obtain ⟨found, none⟩ | ⟨line, crlf, next, found, same, single, taken, nextValid, parts, less⟩ :=
      read_line valid
    · simp only [found]
      rw [reads] at none
      exact ⟨_, b, true, rfl, valid, .line rfl reads none⟩
    · simp only [found, same, taken]
      obtain ⟨request, ok, processed, -⟩ :=
        @processRequestLine_fresh HttpRequest.new rfl line
      simp only [processed, ok_bind]
      rw [← reads]
      cases ok with
      | true =>
        simp only [↓reduceIte]
        obtain ⟨after, last, done, lastValid, progress⟩ :=
          @parseLoop_progress next receiveTime b.readableBytes
            ⟨.kExpectHeaders, { request with receiveTime }⟩ nextValid b.readable line [] rfl less
            ⟨single, ⟨request, receiveTime, processed, rfl⟩, .nil⟩ parts
        exact ⟨after, last, true, done, lastValid, progress⟩
      | false =>
        simp only [Bool.false_eq_true, ↓reduceIte]
        exact ⟨_, b, false, rfl, valid, .bad rfl parts single processed⟩
  | @taken line text lines parts opened stops =>
    generalize now : c.state = state at stops
    cases stops with
    | ends => rw [gotAll, now] at unfinished; cases unfinished
    | waits none =>
      have joined : received ++ chunk = line ++ (kCRLF ++ (lineText lines ++ b.readable)) := by
        rw [parts, reads]
        simp
      obtain ⟨after, next, done, nextValid, progress⟩ :=
        parseLoop_progress receiveTime valid now (Nat.lt_succ_self _) opened joined
      exact ⟨after, next, true, done, nextValid, progress⟩

/-- The call of `parseRequest` after a chunk that was appended to the buffer. -/
theorem Progress.feed (receiveTime : Int) {received chunk : List UInt8} {c : HttpContext}
    {filled : Buffer} (progress : Progress received c b.readable true)
    (unfinished : c.gotAll = false) (valid : b.Valid)
    (appended : b.append chunk chunk.length = .ok filled) :
    ∃ after next ok, c.parseRequest filled receiveTime = .ok (after, next, ok) ∧ next.Valid ∧
      Progress (received ++ chunk) after next.readable ok := by
  obtain ⟨-, filledValid, reads⟩ := Buffer.append_ok valid appended
  rw [List.take_length] at reads
  exact progress.parse receiveTime unfinished filledValid reads

/-- Whatever was received, in whatever chunks: the buffer is valid, and what the parser has done is
determined by the bytes. -/
theorem Fed.progress {received : List UInt8} {c : HttpContext} {ok : Bool}
    (fed : Fed received c b ok) : b.Valid ∧ Progress received c b.readable ok := by
  induction fed with
  | start valid empty => exact ⟨valid, .line rfl empty (by decide)⟩
  | chunk fed unfinished appended parsed ih =>
    obtain ⟨valid, progress⟩ := ih
    obtain ⟨after, next, ok, done, nextValid, result⟩ :=
      progress.feed _ unfinished valid appended
    cases parsed.symm.trans done
    exact ⟨nextValid, result⟩

/-- No call of `parseRequest` fails or runs forever, so that every chunk for which there is room is
parsed. -/
theorem Fed.next (receiveTime : Int) {received chunk : List UInt8} {c : HttpContext}
    {filled : Buffer} (fed : Fed received c b true) (unfinished : c.gotAll = false)
    (appended : b.append chunk chunk.length = .ok filled) :
    ∃ after next ok, c.parseRequest filled receiveTime = .ok (after, next, ok) ∧
      Fed (received ++ chunk) after next ok := by
  obtain ⟨valid, progress⟩ := fed.progress
  obtain ⟨after, next, ok, done, -, -⟩ := progress.feed receiveTime unfinished valid appended
  exact ⟨after, next, ok, done, .chunk fed unfinished appended done⟩

/-- A request line that a fresh request accepts. -/
def goodLine (line : List UInt8) : Bool :=
  match processRequestLine .new line with
  | .ok (_, ok) => ok
  | .error _ => false

/-- The first line without a colon behind a good request line. -/
def firstColonless (received : List UInt8) : Option (List UInt8) :=
  match completeLines received with
  | [] => none
  | line :: rest => if goodLine line then rest.find? fun line => 58 ∉ line else none

/-- Lines with colons are passed over. -/
theorem find_headerLines {lines : List (List UInt8)} (headers : HeaderLines lines)
    (rest : List (List UInt8)) :
    ((lines ++ rest).find? fun line => 58 ∉ line) = rest.find? fun line => 58 ∉ line := by
  have none : (lines.find? fun line => 58 ∉ line) = none := by
    rw [List.find?_eq_none]
    intro line member
    simpa using (headers line member).2
  rw [List.find?_append, none, Option.none_or]

/-- The first line without a colon is behind the lines taken for headers. -/
theorem Opened.firstColonless_eq {line : List UInt8} {lines : List (List UInt8)} {r : HttpRequest}
    (opened : Opened line lines r) (text : List UInt8) :
    firstColonless (line ++ (kCRLF ++ (lineText lines ++ text))) =
      (completeLines text).find? fun line => 58 ∉ line := by
  have good : goodLine line = true := by
    obtain ⟨first, time, processed, -⟩ := opened.stored
    rw [goodLine, processed]
  rw [firstColonless, completeLines_line opened.single,
    completeLines_lineText fun other member => (opened.headers other member).1]
  simp only [good, ↓reduceIte]
  exact find_headerLines opened.headers _

/-- The parser has a request exactly when a line without a colon is complete, and this line is the
last that it took. -/
theorem Progress.gotAll_iff {received left : List UInt8} {c : HttpContext} {ok : Bool}
    (progress : Progress received c left ok) :
    c.gotAll = false ∧ firstColonless received = none ∨
    ∃ line lines last, c.gotAll = true ∧ firstColonless received = some last ∧
      Opened line lines c.request ∧
      received = line ++ (kCRLF ++ (lineText lines ++ (last ++ (kCRLF ++ left)))) := by
  cases progress with
  | line fresh reads none =>
    left
    subst fresh
    rw [firstColonless, completeLines_none none]
    exact ⟨rfl, rfl⟩
  | bad state parts single refused =>
    left
    rw [gotAll, state, firstColonless, parts, completeLines_line single]
    simp only [goodLine, refused]
    exact ⟨rfl, rfl⟩
  | @taken line text lines parts opened stops =>
    have first := opened.firstColonless_eq text
    rw [← parts] at first
    generalize now : c.state = state at stops
    cases stops with
    | waits none =>
      left
      rw [gotAll, now, first, completeLines_none none]
      exact ⟨rfl, rfl⟩
    | @ends last left tail single colonless =>
      right
      subst tail
      refine ⟨line, lines, last, beq_iff_eq.mpr now, ?_, opened, parts⟩
      rw [first, completeLines_line single, List.find?_cons_of_pos (by simpa using colonless)]

/-- The parser has taken a good request line, some headers, which are all in its request, and an
empty line. -/
def EndsAtEmptyLine (received : List UInt8) (c : HttpContext) (left : List UInt8) : Prop :=
  ∃ line lines, Opened line lines c.request ∧
    received = line ++ (kCRLF ++ (lineText lines ++ (kCRLF ++ left)))

/-- The empty line is the first line without a colon. -/
theorem EndsAtEmptyLine.firstColonless_eq {received left : List UInt8} {c : HttpContext}
    (ends : EndsAtEmptyLine received c left) : firstColonless received = some [] := by
  obtain ⟨line, lines, opened, parts⟩ := ends
  rw [parts]
  exact opened.firstColonless_eq (kCRLF ++ left)

/-- Whatever bytes come, in whatever chunks: a completed request ends at an empty line, with every
line before it in the request, exactly when the first line without a colon behind a good request
line, if there is one, is empty. -/
theorem ends_at_empty_line_iff {received : List UInt8} {c : HttpContext} {ok : Bool}
    (fed : Fed received c b ok) :
    (c.gotAll = true → EndsAtEmptyLine received c b.readable) ↔
      ∀ last ∈ firstColonless received, last = [] := by
  obtain ⟨unfinished, none⟩ | ⟨line, lines, last, finished, first, opened, parts⟩ :=
    fed.progress.2.gotAll_iff
  · rw [unfinished, none]
    exact ⟨nofun, nofun⟩
  · rw [first]
    constructor
    · intro ends other same
      have empty := (ends finished).firstColonless_eq
      rw [first] at empty
      exact (Option.mem_some_iff.mp same).symm.trans (Option.some.inj empty)
    · intro empty _
      have nothing : last = [] := empty last rfl
      subst nothing
      exact ⟨line, lines, opened, parts⟩

/-- A buffer with nothing in it. -/
def emptyBuffer : Buffer := ⟨List.replicate 8 0, 8, 8⟩

/-- The buffer is valid. -/
theorem emptyBuffer_valid : emptyBuffer.Valid := by
  constructor <;> decide

/-- A request with one header in two chunks, cut inside the end of the header line. -/
theorem ends_at_empty_line_chunks :
    ∃ c b, Fed (bytes "GET / HTTP/1.1\r\nA: b\r" ++ bytes "\n\r\nGET") c b true ∧
      c.gotAll = true ∧ b.readable = bytes "GET" ∧
      EndsAtEmptyLine (bytes "GET / HTTP/1.1\r\nA: b\r" ++ bytes "\n\r\nGET") c b.readable := by
  have first : Fed (bytes "GET / HTTP/1.1\r\nA: b\r") _ _ true :=
    @Fed.chunk [] (bytes "GET / HTTP/1.1\r\nA: b\r") .new _ _ _ _ true 0
      (.start emptyBuffer_valid (by decide)) rfl rfl rfl
  have second := @Fed.chunk _ (bytes "\n\r\nGET") _ _ _ _ _ true 1 first rfl rfl rfl
  exact ⟨_, _, second, rfl, rfl, (ends_at_empty_line_iff second).mpr (by decide) rfl⟩

/-- A line without a colon behind the request line completes the request, and the header behind it
is left for the next request. -/
theorem colonless_line_ends :
    ∃ c b, Fed (bytes "GET / HTTP/1.1\r\nbad\r\nA: b\r\n\r\n") c b true ∧ c.gotAll = true ∧
      b.readable = bytes "A: b\r\n\r\n" ∧
      ¬EndsAtEmptyLine (bytes "GET / HTTP/1.1\r\nbad\r\nA: b\r\n\r\n") c b.readable := by
  have fed := @Fed.chunk [] (bytes "GET / HTTP/1.1\r\nbad\r\nA: b\r\n\r\n") .new _ _ _ _ true 0
    (.start emptyBuffer_valid (by decide)) rfl rfl rfl
  refine ⟨_, _, fed, rfl, rfl, fun ends => ?_⟩
  exact absurd ends.firstColonless_eq (by decide)

end HttpContext

end Muduo
