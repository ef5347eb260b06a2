import Muduo.Net.Http.HeaderSection
import Muduo.Net.Http.Termination

/-!
# Parsing in chunks and parsing at once

The bytes of a connection may be cut anywhere. `reading` says what the parser makes of the bytes
received so far, from the lines that are complete in them. Every way of feeding the bytes leads to
it, so the chunks do not matter.
-/

open Outcome

namespace Muduo

namespace HttpContext

/-- Chunks are appended to a buffer. -/
def appendChunks (chunks : List (List UInt8)) (buf : Buffer) : Except Fault Buffer :=
  chunks.foldlM (fun buf chunk => buf.append chunk chunk.length) buf

/-- Chunks, with the times of their reception, are fed one by one: each is appended to the buffer
and parsed, up to the first call that returns `false` or completes the request. The chunks behind it
are only appended. -/
def feed (c : HttpContext) (buf : Buffer) :
    List (List UInt8 × Int) → Except Fault (HttpContext × Buffer × Bool)
  | [] => .ok (c, buf, true)
  | (chunk, receiveTime) :: chunks => do
    let filled ← buf.append chunk chunk.length
    let (c, buf, ok) ← c.parseRequest filled receiveTime
    if ok && !c.gotAll then feed c buf chunks
    else do
      let rest ← appendChunks (chunks.map Prod.fst) buf
      .ok (c, rest, ok)

/-- All bytes are appended at once and parsed. -/
def parseOnce (c : HttpContext) (buf : Buffer) (text : List UInt8) (receiveTime : Int) :
    Except Fault (HttpContext × Buffer × Bool) := do
  let filled ← buf.append text text.length
  c.parseRequest filled receiveTime

/-- Two results are the same, apart from the time of reception and the place of the unread bytes. -/
structure Agree (one other : HttpContext × Buffer × Bool) : Prop where
  /-- What the last call returned. -/
  verdict : one.2.2 = other.2.2
  /-- The state of the parser. -/
  state : one.1.state = other.1.state
  /-- The request. -/
  request : one.1.request.content = other.1.request.content
  /-- The unread bytes. -/
  unread : one.2.1.readable = other.2.1.readable

/-- What the parser makes of the bytes received: its context, what is left of the bytes, and what
its last call returned. -/
def reading (received : List UInt8) : HttpContext × List UInt8 × Bool :=
  match completeLines received with
  | [] => (.new, received, true)
  | line :: lines =>
    match processRequestLine .new line with
    | .ok (request, true) =>
      let headers := lines.takeWhile fun line => 58 ∈ line
      match lines.drop headers.length with
      | [] =>
        (⟨.kExpectHeaders, storeHeaders request headers⟩,
          received.drop (lineText (line :: headers)).length, true)
      | last :: _ =>
        (⟨.kGotAll, storeHeaders request headers⟩,
          received.drop (lineText (line :: headers ++ [last])).length, true)
    | .ok (request, false) => (⟨.kExpectRequestLine, request⟩, received, false)
    | .error _ => (.new, received, false)

/-- The parser has made of the bytes what it should. -/
structure Reads (received : List UInt8) (c : HttpContext) (left : List UInt8) (ok : Bool) :
    Prop where
  /-- The state. -/
  state : c.state = (reading received).1.state
  /-- The request. -/
  request : c.request.content = (reading received).1.request.content
  /-- What is left. -/
  left : left = (reading received).2.1
  /-- What the last call returned. -/
  verdict : ok = (reading received).2.2

/-- A result that is the expected one, apart from the time of reception. -/
theorem Reads.of_reading {received left : List UInt8} {c : HttpContext} {ok : Bool}
    {request : HttpRequest} (result : reading received = (⟨c.state, request⟩, left, ok))
    (same : c.request.content = request.content) : Reads received c left ok := by
  constructor
  · rw [result]
  · rw [result]
    exact same
  · rw [result]
  · rw [result]

/-- The time of reception does not matter for the headers. -/
theorem content_storeHeaders (r : HttpRequest) (lines : List (List UInt8)) :
    (storeHeaders r lines).content = storeHeaders r.content lines := by
  induction lines generalizing r with
  | nil => rfl
  | cons line lines ih => exact ih (r.addHeader line (line.idxOf 58))

/-- Lines with colons in front of one without. -/
theorem takeWhile_headers {lines : List (List UInt8)} (headers : HeaderLines lines)
    (rest : List (List UInt8)) :
    (lines ++ rest).takeWhile (fun line => 58 ∈ line) =
      lines ++ rest.takeWhile fun line => 58 ∈ line :=
  List.takeWhile_append_of_pos fun line member => decide_eq_true (headers line member).2

variable {received left : List UInt8} {c : HttpContext}

/-- The request line and the headers in front of the rest. -/
theorem lineText_cons (line : List UInt8) (lines : List (List UInt8)) (text : List UInt8) :
    line ++ (kCRLF ++ (lineText lines ++ text)) = lineText (line :: lines) ++ text := by
  simp [lineText]

/-- What was read behind a good request line and the headers. -/
theorem Opened.reading_eq {line text : List UInt8} {lines : List (List UInt8)} {r : HttpRequest}
    (opened : Opened line lines r) (none : ∀ first ∈ (completeLines text).head?, 58 ∉ first) :
    ∃ request, r.content = (storeHeaders request lines).content ∧
      reading (line ++ (kCRLF ++ (lineText lines ++ text))) =
        match completeLines text with
        | [] => (⟨.kExpectHeaders, storeHeaders request lines⟩, text, true)
        | last :: _ =>
          (⟨.kGotAll, storeHeaders request lines⟩, text.drop (last.length + 2), true) := by
  obtain ⟨request, receiveTime, processed, same⟩ := opened.stored
  refine ⟨request, ?_, ?_⟩
  · rw [same, content_storeHeaders, content_storeHeaders]
    rfl
  · have all := completeLines_line opened.single (lineText lines ++ text)
    rw [completeLines_lineText fun line member => (opened.headers line member).1] at all
    have others : (completeLines text).takeWhile (fun line => 58 ∈ line) = [] := by
      cases rest : completeLines text with
      | nil => rfl
      | cons last lines =>
        rw [rest] at none
        exact List.takeWhile_cons_of_neg (by simpa using none last rfl)
    have headers := takeWhile_headers opened.headers (completeLines text)
    rw [others, List.append_nil] at headers
    rw [reading, all]
    simp only [processed, headers, List.drop_left]
    cases completeLines text with
    | nil =>
      dsimp only
      rw [lineText_cons, List.drop_left]
    | cons last more =>
      have length : (lineText (line :: lines ++ [last])).length =
          (lineText (line :: lines)).length + (last.length + 2) := by
        have two : kCRLF.length = 2 := rfl
        rw [lineText, List.flatMap_append, List.flatMap_singleton, List.length_append,
          List.length_append, two]
        rfl
      dsimp only
      rw [lineText_cons, length, List.drop_length_add_append]

/-- What the parser has done as long as no call returned `false`. -/
theorem Progress.reads (progress : Progress received c left true) : Reads received c left true := by
  cases progress with
  | line fresh same none =>
    subst fresh same
    have nothing : reading left = (.new, left, true) := by
      rw [reading, completeLines_none none]
    exact .of_reading nothing rfl
  | @taken line text lines parts opened stops =>
    generalize now : c.state = state at stops
    cases stops with
    | waits none =>
      have nothing := completeLines_none none
      obtain ⟨request, same, result⟩ := @Opened.reading_eq line left lines _ opened (by
        rw [nothing]
        nofun)
      rw [nothing, ← parts] at result
      dsimp only at result
      rw [← now] at result
      exact .of_reading result same
    | @ends last _ tail single colonless =>
      have first := completeLines_line single left
      rw [← tail] at first
      obtain ⟨request, same, result⟩ := @Opened.reading_eq line text lines _ opened (by
        rw [first]
        rintro _ ⟨⟩
        exact colonless)
      have behind : text.drop (last.length + 2) = left := by
        have two : kCRLF.length = 2 := rfl
        rw [tail, List.drop_length_add_append, ← two, List.drop_left]
      rw [first, ← parts] at result
      dsimp only at result
      rw [behind, ← now] at result
      exact .of_reading result same

/-- The request line is bad, and the parser has stopped at it. -/
structure Refused (received : List UInt8) (c : HttpContext) : Prop where
  /-- The state. -/
  state : c.state = .kExpectRequestLine
  /-- The request line, and what is left of it in the request. -/
  line : ∃ line rest, received = line ++ (kCRLF ++ rest) ∧ ¬kCRLF <:+: line ∧
    processRequestLine .new line = .ok (c.request, false)

/-- More bytes do not make a bad request line better. -/
theorem Refused.append (refused : Refused received c) (more : List UInt8) :
    Refused (received ++ more) c := by
  obtain ⟨line, rest, parts, single, processed⟩ := refused.line
  refine ⟨refused.state, line, rest ++ more, ?_, single, processed⟩
  rw [parts]
  simp

/-- What the parser has done when a call returned `false`. -/
theorem Refused.reads (refused : Refused received c) : Reads received c received false := by
  obtain ⟨line, rest, parts, single, processed⟩ := refused.line
  have all := completeLines_line single rest
  rw [← parts] at all
  refine @Reads.of_reading _ _ _ _ c.request ?_ rfl
  rw [reading, all]
  dsimp only
  rw [processed, refused.state]

/-- More bytes change nothing in a request that is complete. -/
theorem Progress.append_reads (progress : Progress received c left true)
    (finished : c.gotAll = true) (more : List UInt8) :
    Reads (received ++ more) c (left ++ more) true := by
  have state : c.state = .kGotAll := beq_iff_eq.mp finished
  cases progress with
  | line fresh =>
    rw [fresh] at state
    cases state
  | @taken line text lines parts opened stops =>
    rw [state] at stops
    cases stops with
    | @ends last _ tail single colonless =>
      have longer : received ++ more =
          line ++ (kCRLF ++ (lineText lines ++ (last ++ (kCRLF ++ (left ++ more))))) := by
        rw [parts, tail]
        simp
      refine Progress.reads (.taken longer opened ?_)
      rw [state]
      exact .ends rfl single colonless

/-- A call that returns `false` has found a bad request line, and nothing else was taken. -/
theorem Progress.refused {b next : Buffer} {chunk : List UInt8} {receiveTime : Int}
    {after : HttpContext} (progress : Progress received c left true)
    (unfinished : c.gotAll = false) (valid : b.Valid) (reads : b.readable = left ++ chunk)
    (done : c.parseRequest b receiveTime = .ok (after, next, false)) :
    Refused (received ++ chunk) after ∧ next.readable = received ++ chunk := by
  cases progress with
  | line fresh same none =>
    subst fresh same
    rw [parseRequest, parseLoop] at done
    simp only [HttpContext.new] at done
    obtain ⟨found, -⟩ | ⟨line, crlf, rest, found, same, single, taken, restValid, parts, less⟩ :=
      read_line valid
    · simp only [found] at done
      cases done
    · obtain ⟨request, ok, processed, -⟩ :=
        @processRequestLine_fresh HttpRequest.new rfl line
      simp only [found, same, taken, processed, ok_bind] at done
      rw [← reads]
      cases ok with
      | true =>
        simp only [↓reduceIte] at done
        obtain ⟨_, _, _, _, stopped, -⟩ := @parseLoop_stops rest receiveTime b.readableBytes
          ⟨.kExpectHeaders, { request with receiveTime }⟩ restValid rfl less
        cases done.symm.trans stopped
      | false =>
        simp only [Bool.false_eq_true, ↓reduceIte] at done
        cases done
        exact ⟨⟨rfl, line, rest.readable, parts, single, processed⟩, rfl⟩
  | taken parts opened stops =>
    generalize now : c.state = state at stops
    cases stops with
    | ends =>
      rw [gotAll, now] at unfinished
      cases unfinished
    | waits none =>
      obtain ⟨_, _, _, _, stopped, -⟩ := parseLoop_stops receiveTime valid now (Nat.lt_succ_self _)
      cases done.symm.trans stopped

/-- An iteration takes bytes from the front only. -/
theorem iteration_writer {receiveTime : Int} {b rest : Buffer} {after : HttpContext}
    {stop : Option Bool} (done : iteration receiveTime c b = .ok (after, rest, stop)) :
    rest.writerIndex ≤ max kCheapPrepend b.writerIndex := by
  rw [iteration] at done
  split at done
  · split at done
    · obtain ⟨⟨request, ok⟩, -, done⟩ := bind_eq_ok.mp done
      dsimp only at done
      split at done
      · obtain ⟨next, taken, same⟩ := bind_eq_ok.mp done
        cases same
        exact Buffer.retrieveUntil_writer taken
      · cases done
        exact Nat.le_max_right _ _
    · cases done
      exact Nat.le_max_right _ _
  · split at done
    · obtain ⟨next, taken, done⟩ := bind_eq_ok.mp done
      split at done
      · cases done
        exact Buffer.retrieveUntil_writer taken
      · cases done
        exact Buffer.retrieveUntil_writer taken
    · cases done
      exact Nat.le_max_right _ _
  · cases done
    exact Nat.le_max_right _ _
  · cases done
    exact Nat.le_max_right _ _

/-- The loop takes bytes from the front only. -/
theorem parseLoop_writer {receiveTime : Int} {times : Nat} {b next : Buffer} {after : HttpContext}
    {ok : Bool} (done : parseLoop receiveTime times c b = .ok (after, next, ok)) :
    next.writerIndex ≤ max kCheapPrepend b.writerIndex := by
  induction times generalizing c b with
  | zero => cases done
  | succ times ih =>
    rw [parseLoop_iteration] at done
    obtain ⟨⟨middle, rest, stop⟩, taken, done⟩ := bind_eq_ok.mp done
    have bound := iteration_writer taken
    cases stop with
    | some ok =>
      cases done
      exact bound
    | none =>
      have later := ih done
      omega

/-- A buffer that can take so many bytes more. -/
structure Roomy (b : Buffer) (bytes : Nat) : Prop where
  /-- The buffer is valid. -/
  valid : b.Valid
  /-- The bytes fit into the vector. -/
  room : max kCheapPrepend b.writerIndex + bytes ≤ maxSize

/-- A chunk for which there is room is appended. -/
theorem Roomy.append {b : Buffer} {chunk : List UInt8} {bytes : Nat}
    (roomy : Roomy b (chunk.length + bytes)) :
    ∃ filled, b.append chunk chunk.length = .ok filled ∧ Roomy filled bytes ∧
      filled.readable = b.readable ++ chunk := by
  have room := roomy.room
  obtain ⟨filled, done, valid, readable, writer⟩ :=
    @Buffer.append_of_room b roomy.valid chunk (by omega)
  exact ⟨filled, done, ⟨valid, by omega⟩, readable⟩

/-- Chunks for which there is room are appended. -/
theorem Roomy.appendChunks {b : Buffer} {chunks : List (List UInt8)}
    (roomy : Roomy b chunks.flatten.length) :
    ∃ filled, appendChunks chunks b = .ok filled ∧
      filled.readable = b.readable ++ chunks.flatten := by
  induction chunks generalizing b with
  | nil => exact ⟨b, rfl, (List.append_nil _).symm⟩
  | cons chunk chunks ih =>
    rw [List.flatten_cons, List.length_append] at roomy
    obtain ⟨next, first, nextRoomy, added⟩ := roomy.append
    obtain ⟨filled, others, readable⟩ := ih nextRoomy
    refine ⟨filled, bind_eq_ok.mpr ⟨next, first, others⟩, ?_⟩
    rw [readable, added, List.flatten_cons, List.append_assoc]

/-- One more chunk, in a buffer with room for it. -/
theorem Progress.next (receiveTime : Int) {b : Buffer} {chunk : List UInt8} {bytes : Nat}
    (progress : Progress received c b.readable true) (unfinished : c.gotAll = false)
    (roomy : Roomy b (chunk.length + bytes)) :
    ∃ filled after next ok, b.append chunk chunk.length = .ok filled ∧
      c.parseRequest filled receiveTime = .ok (after, next, ok) ∧ Roomy next bytes ∧
      (ok = true ∧ Progress (received ++ chunk) after next.readable true ∨
        ok = false ∧ Refused (received ++ chunk) after ∧ next.readable = received ++ chunk) := by
  obtain ⟨filled, appended, filledRoomy, added⟩ := roomy.append
  obtain ⟨after, next, ok, parsed, valid, later⟩ :=
    progress.parse receiveTime unfinished filledRoomy.valid added
  have writer := parseLoop_writer parsed
  have room := filledRoomy.room
  refine ⟨filled, after, next, ok, appended, parsed, ⟨valid, by omega⟩, ?_⟩
  cases ok with
  | true => exact .inl ⟨rfl, later⟩
  | false =>
    exact .inr ⟨rfl, progress.refused unfinished filledRoomy.valid added parsed⟩

/-- Whatever the chunks are, feeding them ends with what the parser makes of all their bytes. -/
theorem Progress.feed_reads {b : Buffer} {chunks : List (List UInt8 × Int)}
    (progress : Progress received c b.readable true) (unfinished : c.gotAll = false)
    (roomy : Roomy b (chunks.map Prod.fst).flatten.length) :
    ∃ after next ok, c.feed b chunks = .ok (after, next, ok) ∧
      Reads (received ++ (chunks.map Prod.fst).flatten) after next.readable ok := by
  induction chunks generalizing received c b with
  | nil =>
    refine ⟨c, b, true, rfl, ?_⟩
    rw [List.map_nil, List.flatten_nil, List.append_nil]
    exact progress.reads
  | cons pair chunks ih =>
    obtain ⟨chunk, receiveTime⟩ := pair
    rw [List.map_cons, List.flatten_cons, List.length_append] at roomy
    rw [List.map_cons, List.flatten_cons, ← List.append_assoc]
    obtain ⟨filled, after, next, ok, appended, parsed, nextRoomy, result⟩ :=
      progress.next receiveTime unfinished roomy
    obtain ⟨rest, behind, unread⟩ := nextRoomy.appendChunks
    simp only [HttpContext.feed, appended, parsed, behind, ok_bind]
    obtain ⟨rfl, later⟩ | ⟨rfl, refused, kept⟩ := result
    · cases finished : after.gotAll with
      | false => exact ih later finished nextRoomy
      | true =>
        refine ⟨after, rest, true, rfl, ?_⟩
        rw [unread]
        exact later.append_reads finished _
    · refine ⟨after, rest, false, rfl, ?_⟩
      rw [unread, kept]
      exact (refused.append _).reads

/-- All bytes at once lead to what the parser makes of them. -/
theorem Progress.parseOnce_reads (receiveTime : Int) {b : Buffer} {text : List UInt8}
    (progress : Progress received c b.readable true) (unfinished : c.gotAll = false)
    (roomy : Roomy b text.length) :
    ∃ after next ok, c.parseOnce b text receiveTime = .ok (after, next, ok) ∧
      Reads (received ++ text) after next.readable ok := by
  obtain ⟨filled, after, next, ok, appended, parsed, -, result⟩ :=
    @Progress.next _ _ receiveTime b text 0 progress unfinished roomy
  refine ⟨after, next, ok, ?_, ?_⟩
  · rw [parseOnce, appended, ok_bind]
    exact parsed
  · obtain ⟨rfl, later⟩ | ⟨rfl, refused, kept⟩ := result
    · exact later.reads
    · rw [kept]
      exact refused.reads

/-- What the bytes determine is the same. -/
theorem Reads.agree {one other : HttpContext × Buffer × Bool}
    (first : Reads received one.1 one.2.1.readable one.2.2)
    (second : Reads received other.1 other.2.1.readable other.2.2) : Agree one other where
  verdict := first.verdict.trans second.verdict.symm
  state := first.state.trans second.state.symm
  request := first.request.trans second.request.symm
  unread := first.left.trans second.left.symm

/-- However bytes that fit into a vector are cut into chunks: feeding the chunks to a fresh parser
one by one ends as parsing all bytes at once. -/
theorem feed_agrees_parseOnce (text : List UInt8) (chunks : List (List UInt8 × Int))
    (parts : (chunks.map Prod.fst).flatten = text) (receiveTime : Int)
    (room : kCheapPrepend + text.length ≤ maxSize) :
    ∃ buf one other, Buffer.new kInitialSize = .ok buf ∧
      HttpContext.new.feed buf chunks = .ok one ∧
      HttpContext.new.parseOnce buf text receiveTime = .ok other ∧ Agree one other := by
  obtain ⟨buf, made, valid, empty, -, writer⟩ := Buffer.new_kInitialSize
  have roomy : Roomy buf text.length := by
    refine ⟨valid, ?_⟩
    rw [writer, Nat.max_self]
    exact room
  have fresh : Progress [] .new buf.readable true := .line rfl empty (by decide)
  have chunksRoomy := roomy
  rw [← parts] at chunksRoomy
  obtain ⟨after, next, ok, fed, first⟩ := fresh.feed_reads rfl chunksRoomy
  obtain ⟨context, rest, verdict, once, second⟩ := fresh.parseOnce_reads receiveTime rfl roomy
  rw [parts] at first
  exact ⟨buf, (after, next, ok), (context, rest, verdict), made, fed, once,
    @Reads.agree _ (after, next, ok) (context, rest, verdict) first second⟩

/-- A request cut inside the end of a line, with bytes of the next one behind it. -/
theorem feed_agrees_parseOnce_cut :
    ∃ buf one other, Buffer.new kInitialSize = .ok buf ∧
      HttpContext.new.feed buf [(bytes "GET / HTTP/1.1\r", 1), (bytes "\nA: b\r\n\r\nG", 2),
        (bytes "ET", 3)] = .ok one ∧
      HttpContext.new.parseOnce buf (bytes "GET / HTTP/1.1\r\nA: b\r\n\r\nGET") 4 = .ok other ∧
      Agree one other :=
  feed_agrees_parseOnce _ _ (by decide) 4 (by decide)

end HttpContext

end Muduo
