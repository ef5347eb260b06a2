import Muduo.Net.Http.Parse
import Muduo.Net.Http.Response
import Muduo.Net.TcpStream

/-!
# `dc::net::HttpServer`

A connection of the server with its `HttpContext`. The peer sends chunks of bytes; each goes through
`TcpConnection::handleRead` to `HttpServer::onMessage`. Between two chunks anything else may happen
to the connection. What `::write` answers is a function of the bytes offered, and the user's
callback is a function of the request and the response it is to fill, for each chunk another one.
-/

open Outcome Transition

namespace Muduo

/-- `HttpCallback`, with the response as it leaves it. -/
abbrev HttpCallback := HttpRequest → HttpResponse → HttpResponse

namespace HttpServer

/-- `detail::defaultHttpCallback`. -/
def defaultHttpCallback : HttpCallback := fun _ resp =>
  { resp with
    statusCode := .k404NotFound
    statusMessage := bytes "Not Found"
    closeConnection := true }

/-- The answer to a request that cannot be parsed. -/
def badRequest : List UInt8 := bytes "HTTP/1.1 400 Bad Request\r\n\r\n"

/-- `onRequest(conn, req)`. -/
def onRequest (conn : TcpConnection) (req : HttpRequest) (httpCallback : HttpCallback)
    (socket : List UInt8 → WriteResult) : Except Fault TcpConnection := do
  let connection := req.getHeader (bytes "Connection")
  let close := connection == bytes "close" ||
    (req.version == .kHttp10 && connection != bytes "Keep-Alive")
  let resp := httpCallback req (.new close)
  let buf ← Buffer.new kInitialSize
  let filled ← resp.appendToBuffer buf
  let sent ← conn.sendString .loop filled.readable (socket filled.readable)
  .ok (if resp.closeConnection then sent.shutdown .loop else sent)

end HttpServer

/-- A connection of an HTTP server. -/
structure HttpSession where
  /-- The connection. -/
  conn : TcpConnection
  /-- Its context. -/
  context : HttpContext

namespace HttpSession

open HttpServer

/-- `onMessage(conn, buf, receiveTime)`. -/
def onMessage (s : HttpSession) (receiveTime : Int) (httpCallback : HttpCallback)
    (socket : List UInt8 → WriteResult) : Except Fault HttpSession := do
  let (context, inputBuffer, ok) ← s.context.parseRequest s.conn.inputBuffer receiveTime
  let parsed := { s.conn with inputBuffer }
  let answered ← (if !ok then do
      let sent ← parsed.sendString .loop badRequest (socket badRequest)
      .ok (sent.shutdown .loop)
    else
      .ok parsed)
  if context.gotAll then
    let replied ← onRequest answered context.request httpCallback socket
    .ok ⟨replied, context.reset⟩
  else
    .ok ⟨answered, context⟩

/-- A chunk arrives. -/
def receive (s : HttpSession) (data : List UInt8) (receiveTime : Int)
    (httpCallback : HttpCallback) (socket : List UInt8 → WriteResult) :
    Except Fault HttpSession := do
  let conn ← s.conn.handleRead (.ok data)
  onMessage { s with conn } receiveTime httpCallback socket

/-- What happens to a session. -/
inductive Action
  /-- A chunk arrives. -/
  | chunk (data : List UInt8) (receiveTime : Int) (httpCallback : HttpCallback)
      (socket : List UInt8 → WriteResult)
  /-- The read callback finds the end of the stream or an error. -/
  | silence (received : Except Int (List UInt8))
  /-- Anything else on the connection. -/
  | other (action : TcpConnection.Action)

/-- An action that is possible, with its result. -/
inductive Attempt : HttpSession → Action → Except Fault HttpSession → Prop
  | chunk {s : HttpSession} {data : List UInt8} {receiveTime : Int} {httpCallback : HttpCallback}
      {socket : List UInt8 → WriteResult} (handling : s.conn.Handling) (some : data ≠ [])
      (offered : data.length ≤ s.conn.inputBuffer.readvOffer)
      (fits : ∀ offered, (socket offered).Fits offered.length) :
      Attempt s (.chunk data receiveTime httpCallback socket)
        (s.receive data receiveTime httpCallback socket)
  | silence {s : HttpSession} {received : Except Int (List UInt8)} (handling : s.conn.Handling)
      (none : ∀ data, received = .ok data → data = []) :
      Attempt s (.silence received) (do
        let conn ← s.conn.handleRead received
        .ok { s with conn })
  | other {s : HttpSession} {action : TcpConnection.Action} {result : Except Fault TcpConnection}
      (attempt : TcpConnection.Attempt s.conn action result) (still : ¬action.Reads) :
      Attempt s (.other action) (do
        let conn ← result
        .ok { s with conn })

/-- An action that does not stop the program. -/
def Step (before : HttpSession) (action : Action) (after : HttpSession) : Prop :=
  Attempt before action (.ok after)

/-- An attempt that succeeds is a step. -/
theorem Attempt.step {s after : HttpSession} {action : Action} {result : Except Fault HttpSession}
    (attempt : Attempt s action result) (done : result = .ok after) : Step s action after := by
  rw [done] at attempt
  exact attempt

/-- A chunk arrives when no method is left over from a bad request line, and the texts of the
response are shorter than `2^31` bytes. -/
def Careful (s : HttpSession) : Action → Prop
  | .chunk _ _ httpCallback _ => ¬s.context.HalfWritten ∧
      ∀ req close, (httpCallback req (.new close)).Short
  | _ => True

/-- The connection is in order, and the parser can go on. -/
structure Sound (s : HttpSession) : Prop where
  /-- The output of the connection. -/
  flows : s.conn.Flows
  /-- The input buffer is valid. -/
  input : s.conn.inputBuffer.Valid
  /-- The parser waits for a line. -/
  begun : s.context.state = .kExpectRequestLine ∨ s.context.state = .kExpectHeaders
  /-- A method that is left over is named in the first line of the input. -/
  names : s.context.HalfWritten → HttpContext.NamesMethod s.conn.inputBuffer.readable

variable {s : HttpSession} {conn : TcpConnection} {data : List UInt8} {receiveTime : Int}
  {httpCallback : HttpCallback} {socket : List UInt8 → WriteResult}

/-- A response is sent without failing an assertion. -/
theorem onRequest_meets (flows : conn.Flows) (req : HttpRequest)
    (short : ∀ req close, (httpCallback req (.new close)).Short)
    (fits : ∀ offered, (socket offered).Fits offered.length) :
    Meets (onRequest conn req httpCallback socket)
      (fun after => after.Flows ∧ after.inputBuffer = conn.inputBuffer) (· = .lengthError) := by
  rw [onRequest]
  have made := (Buffer.new_meets kInitialSize (by decide)).mono (fun _ => id) fun _ stop => stop.1
  refine made.bind fun buf ⟨valid, _⟩ => ?_
  refine (HttpResponse.appendToBuffer_meets (short _ _) valid).bind fun filled ⟨full, _⟩ => ?_
  refine (TcpConnection.sendString_meets flows full.readable_le (fits _)).bind
    fun sent ⟨order, same⟩ => ?_
  split
  · obtain ⟨closing, input⟩ := TcpConnection.shutdown_meets order
    exact .ok ⟨closing, input.trans same⟩
  · exact .ok ⟨order, same⟩

/-- The answer to a bad request is sent without failing an assertion. -/
theorem badRequest_meets (flows : conn.Flows) (ok : Bool)
    (fits : ∀ offered, (socket offered).Fits offered.length) :
    Meets (if !ok then do
        let sent ← conn.sendString .loop badRequest (socket badRequest)
        .ok (sent.shutdown .loop)
      else .ok conn)
      (fun after => after.Flows ∧ after.inputBuffer = conn.inputBuffer) (· = .lengthError) := by
  split
  · refine (TcpConnection.sendString_meets flows (by decide) (fits _)).bind
      fun sent ⟨order, same⟩ => ?_
    obtain ⟨closing, input⟩ := TcpConnection.shutdown_meets order
    exact .ok ⟨closing, input.trans same⟩
  · exact .ok ⟨flows, rfl⟩

/-- `onMessage` fails no assertion when no method is left over. -/
theorem onMessage_meets (sound : s.Sound) (whole : ¬s.context.HalfWritten)
    (short : ∀ req close, (httpCallback req (.new close)).Short)
    (fits : ∀ offered, (socket offered).Fits offered.length) :
    Meets (s.onMessage receiveTime httpCallback socket) Sound (· = .lengthError) := by
  obtain ⟨context, rest, ok, parsed, left⟩ :=
    HttpContext.parseRequest_parsed receiveTime sound.input sound.begun whole
  have flows : TcpConnection.Flows { s.conn with inputBuffer := rest } := sound.flows.input rest
  rw [onMessage, parsed]
  simp only [ok_bind]
  refine (badRequest_meets flows ok fits).bind fun answered ⟨order, input⟩ => ?_
  by_cases all : context.state = .kGotAll
  · have got : context.gotAll = true := beq_iff_eq.mpr all
    rw [if_pos got]
    refine (onRequest_meets order _ short fits).bind fun replied ⟨order, same⟩ => .ok ?_
    refine ⟨order, ?_, .inl rfl, fun half => absurd rfl half.2⟩
    dsimp only
    rw [same, input]
    exact left.valid
  · rw [if_neg (by simpa [HttpContext.gotAll] using all)]
    refine .ok ⟨order, by dsimp only; rw [input]; exact left.valid, ?_, ?_⟩
    · dsimp only
      cases state : context.state with
      | kExpectRequestLine => exact .inl rfl
      | kExpectHeaders => exact .inr rfl
      | kExpectBody => exact absurd state left.reached
      | kGotAll => exact absurd state all
    · dsimp only
      rw [input]
      exact left.names

/-- A chunk is read without failing an assertion. -/
theorem handleRead_meets (flows : conn.Flows) (valid : conn.inputBuffer.Valid) (some : data ≠ [])
    (offered : data.length ≤ conn.inputBuffer.readvOffer) :
    Meets (conn.handleRead (.ok data))
      (fun after => after.Flows ∧ after.inputBuffer.Valid ∧
        after.inputBuffer.readable = conn.inputBuffer.readable ++ data) (· = .lengthError) := by
  have read := (Buffer.readFd_meets valid offered).mono (fun _ => id) fun _ stop => stop.1
  rw [TcpConnection.handleRead]
  refine read.bind fun result good => ?_
  obtain ⟨inputBuffer, n⟩ := result
  obtain ⟨inputValid, added, count⟩ := good
  have positive : 0 < n := by
    rw [show n = data.length from count]
    exact Int.natCast_pos.mpr (List.length_pos_iff_ne_nil.mpr some)
  have input : TcpConnection.Flows { conn with inputBuffer } := flows.input inputBuffer
  have called : TcpConnection.Move .nothing _ _ :=
    .called (c := { conn with inputBuffer }) (.inl rfl)
  dsimp only
  rw [if_pos positive]
  exact .ok ⟨called.flows input, inputValid, added⟩

/-- A chunk fails no assertion when no method is left over. -/
theorem receive_meets (sound : s.Sound) (whole : ¬s.context.HalfWritten) (some : data ≠ [])
    (offered : data.length ≤ s.conn.inputBuffer.readvOffer)
    (short : ∀ req close, (httpCallback req (.new close)).Short)
    (fits : ∀ offered, (socket offered).Fits offered.length) :
    Meets (s.receive data receiveTime httpCallback socket) Sound (· = .lengthError) := by
  refine (handleRead_meets sound.flows sound.input some offered).bind
    fun conn ⟨flows, valid, _⟩ => ?_
  have read : Sound { s with conn } := ⟨flows, valid, sound.begun, fun half => absurd half whole⟩
  exact onMessage_meets read whole short fits

/-- A chunk that arrives when a method is left over is not processed. -/
theorem receive_half (sound : s.Sound) (half : s.context.HalfWritten) (some : data ≠ [])
    (offered : data.length ≤ s.conn.inputBuffer.readvOffer) :
    Meets (s.receive data receiveTime httpCallback socket) (fun _ => False)
      fun fault => fault = .assertion "method_ == kInvalid" ∨ fault = .lengthError := by
  have read := (handleRead_meets sound.flows sound.input some offered).mono (fun _ => id)
    fun fault stop => (Or.inr stop : fault = .assertion "method_ == kInvalid" ∨ _)
  refine read.bind fun conn ⟨_, valid, added⟩ => ?_
  have names : HttpContext.NamesMethod conn.inputBuffer.readable := by
    rw [added]
    exact (sound.names half).append data
  rw [onMessage]
  dsimp only
  rw [HttpContext.parseRequest_half receiveTime valid half names]
  exact .error (.inl rfl)

/-- The end of the stream or an error leaves the input as it is. -/
theorem handleRead_silence {received : Except Int (List UInt8)} {after : TcpConnection}
    (flows : conn.Flows) (valid : conn.inputBuffer.Valid)
    (none : ∀ data, received = .ok data → data = [])
    (done : conn.handleRead received = .ok after) :
    after.Flows ∧ after.inputBuffer.Valid ∧
      after.inputBuffer.readable = conn.inputBuffer.readable := by
  obtain ⟨inputBuffer, n, read, rest⟩ := TcpConnection.handleRead_cases done
  have kept : inputBuffer.Valid ∧ inputBuffer.readable = conn.inputBuffer.readable := by
    cases received with
    | error errno =>
      cases read
      exact ⟨valid, rfl⟩
    | ok data =>
      obtain rfl := none data rfl
      obtain ⟨inputValid, same, -⟩ :=
        (Buffer.readFd_meets valid (Nat.zero_le _)).of_ok read
      exact ⟨inputValid, same.trans (List.append_nil _)⟩
  have input : TcpConnection.Flows { conn with inputBuffer } := flows.input inputBuffer
  have moves : TcpConnection.Moves .nothing
      { conn with inputBuffer } after := by
    obtain rfl | closed | rfl := rest
    · exact (TcpConnection.Move.called (.inl rfl)).once
    · exact TcpConnection.handleClose_moves closed
    · exact .refl _ _
  have keeps : ∀ before next, before.Flows ∧ before.inputBuffer = inputBuffer →
      TcpConnection.Move .nothing before next →
      next.Flows ∧ next.inputBuffer = inputBuffer :=
    fun _ _ kept move => ⟨move.flows kept.1, (move.input id).trans kept.2⟩
  obtain ⟨order, same⟩ := moves.invariant keeps ⟨input, rfl⟩
  rw [same]
  exact ⟨order, kept⟩

/-- Anything but a chunk leaves the input and the context as they are. -/
theorem Step.still {action : Action} {after : HttpSession} (step : Step s action after)
    (apart : ∀ data receiveTime httpCallback socket,
      action ≠ .chunk data receiveTime httpCallback socket)
    (flows : s.conn.Flows) (valid : s.conn.inputBuffer.Valid) :
    after.conn.Flows ∧ after.conn.inputBuffer.Valid ∧
      after.conn.inputBuffer.readable = s.conn.inputBuffer.readable ∧
      after.context = s.context := by
  have attempt : Attempt s action (.ok after) := step
  generalize outcome : Except.ok after = result at attempt
  cases attempt with
  | @chunk data receiveTime httpCallback socket =>
    exact absurd rfl (apart data receiveTime httpCallback socket)
  | silence handling none =>
    obtain ⟨conn, done, rest⟩ := bind_eq_ok.mp outcome.symm
    obtain rfl := Except.ok.inj rest
    obtain ⟨order, kept, same⟩ := handleRead_silence flows valid none done
    exact ⟨order, kept, same, rfl⟩
  | @other action result attempt still =>
    obtain ⟨conn, done, rest⟩ := bind_eq_ok.mp outcome.symm
    obtain rfl := Except.ok.inj rest
    have step : TcpConnection.Step s.conn action conn := attempt.step done
    have same := step.input flows.valid flows.agrees still
    refine ⟨step.flows flows, ?_, ?_, rfl⟩
    · dsimp only
      rw [same]
      exact valid
    · dsimp only
      rw [same]

/-- A step other than a chunk keeps the session sound. -/
theorem Step.sound_still {action : Action} {after : HttpSession} (step : Step s action after)
    (apart : ∀ data receiveTime httpCallback socket,
      action ≠ .chunk data receiveTime httpCallback socket) (sound : s.Sound) : after.Sound := by
  obtain ⟨flows, valid, same, context⟩ := step.still apart sound.flows sound.input
  refine ⟨flows, valid, ?_, ?_⟩
  · rw [context]
    exact sound.begun
  · rw [context, same]
    exact sound.names

/-- Every step keeps the session sound. -/
theorem Step.sound {action : Action} {after : HttpSession} (step : Step s action after)
    (careful : s.Careful action) (sound : s.Sound) : after.Sound := by
  cases action with
  | chunk data receiveTime httpCallback socket =>
    have attempt : Attempt s (.chunk data receiveTime httpCallback socket) (.ok after) := step
    generalize outcome : Except.ok after = result at attempt
    cases attempt with
    | chunk handling some offered fits =>
      exact (receive_meets sound careful.1 some offered careful.2 fits).of_ok outcome.symm
  | silence received => exact step.sound_still (by simp) sound
  | other action => exact step.sound_still (by simp) sound

/-- A connection that is established has no input yet. -/
theorem established_input {address : ChannelId} {fd : Int} {poller : EpollPoller}
    {highWaterMark : Nat} {writeComplete highWater : Bool} {made : TcpConnection}
    {result : WriteResult} (unknown : poller.channels fd = none)
    (unwatched : poller.interest fd = none)
    (built : TcpConnection.new address fd poller highWaterMark writeComplete highWater = .ok made)
    (established : TcpConnection.Step made (.task result) conn) :
    conn.Flows ∧ conn.inputBuffer.Valid ∧ conn.inputBuffer.readable = [] := by
  have flows := TcpConnection.new_flows unknown unwatched built
  have input : made.inputBuffer.Valid ∧ made.inputBuffer.readable = [] := by
    rw [TcpConnection.new] at built
    obtain ⟨inputBuffer, first, rest⟩ := bind_eq_ok.mp built
    obtain ⟨outputBuffer, _, rest⟩ := bind_eq_ok.mp rest
    obtain rfl := Except.ok.inj rest
    obtain ⟨valid, empty, -⟩ := (Buffer.new_meets kInitialSize (by decide)).of_ok first
    exact ⟨valid, empty⟩
  have same := established.input flows.valid flows.agrees id
  refine ⟨established.flows flows, ?_⟩
  rw [same]
  exact input

/-- A connection that is established, with the context of `onConnection`, is sound. -/
theorem established_sound {address : ChannelId} {fd : Int} {poller : EpollPoller}
    {highWaterMark : Nat} {writeComplete highWater : Bool} {made : TcpConnection}
    {result : WriteResult} (unknown : poller.channels fd = none)
    (unwatched : poller.interest fd = none)
    (built : TcpConnection.new address fd poller highWaterMark writeComplete highWater = .ok made)
    (established : TcpConnection.Step made (.task result) conn) :
    Sound ⟨conn, .new⟩ := by
  obtain ⟨flows, valid, -⟩ := established_input unknown unwatched built established
  exact ⟨flows, valid, .inl rfl, fun half => absurd rfl half.2⟩

/-- Chunks on a connection of the server: in every state that any chunks, with anything else on the
connection between them, lead to, the next chunk fails no assertion when no method is left over from
a bad request line; and when one is left over, the next chunk is never processed. -/
theorem chunks_fail_iff_half_written (address : ChannelId) (fd : Int) (poller : EpollPoller)
    (highWaterMark : Nat) (writeComplete highWater : Bool) (made conn : TcpConnection)
    (result : WriteResult) (unknown : poller.channels fd = none)
    (unwatched : poller.interest fd = none)
    (built : TcpConnection.new address fd poller highWaterMark writeComplete highWater = .ok made)
    (established : TcpConnection.Step made (.task result) conn) (actions : List Action)
    (s : HttpSession) (run : Run (Guarded Step Careful) ⟨conn, .new⟩ actions s)
    (data : List UInt8) (receiveTime : Int) (httpCallback : HttpCallback)
    (socket : List UInt8 → WriteResult) (outcome : Except Fault HttpSession)
    (attempt : Attempt s (.chunk data receiveTime httpCallback socket) outcome) :
    (s.Careful (.chunk data receiveTime httpCallback socket) →
        (∃ after, outcome = .ok after) ∨ outcome = .error .lengthError) ∧
      (s.context.HalfWritten → outcome = .error (.assertion "method_ == kInvalid") ∨
        outcome = .error .lengthError) := by
  have sound : s.Sound := run.invariant (established_sound unknown unwatched built established)
    fun _ _ _ sound taken => taken.1.sound taken.2 sound
  cases attempt with
  | chunk handling some offered fits =>
    refine ⟨fun careful => ?_, fun half => ?_⟩
    · obtain ⟨after, done, -⟩ | ⟨fault, stopped, rfl⟩ :=
        (receive_meets sound careful.1 some offered careful.2 fits).split
      · exact .inl ⟨after, done⟩
      · exact .inr stopped
    · obtain ⟨after, _, never⟩ | ⟨fault, stopped, rfl | rfl⟩ :=
        (receive_half sound half some offered).split
      · exact never.elim
      · exact .inl stopped
      · exact .inr stopped

/-- The answers of a socket that takes everything. -/
def takesAll (offered : List UInt8) : WriteResult := .accepted offered.length

/-- The default callback makes short responses. -/
theorem defaultHttpCallback_short (req : HttpRequest) (close : Bool) :
    (defaultHttpCallback req (.new close)).Short where
  statusMessage := show (bytes "Not Found").length < 2 ^ 31 by decide
  headers := nofun
  body := show 0 < 2 ^ 31 by decide

set_option maxRecDepth 20000 in
/-- A request that arrives in two chunks. -/
theorem chunks_fail_iff_half_written_two :
    ∃ made conn s, TcpConnection.new 0 3 .new 65536 false false = .ok made ∧
      TcpConnection.Step made (.task (.failed 0 0)) conn ∧
      Run (Guarded Step Careful) ⟨conn, .new⟩ [.other (.turn (some ⟨[0], 0⟩)),
        .chunk (bytes "GET / HT") 0 defaultHttpCallback takesAll] s ∧
      ∃ outcome, Attempt s (.chunk (bytes "TP/1.1\r\n\r\n") 0 defaultHttpCallback takesAll)
        outcome ∧ ((∃ after, outcome = .ok after) ∨ outcome = .error .lengthError) := by
  have reached : ∃ made conn s, TcpConnection.new 0 3 .new 65536 false false = .ok made ∧
      TcpConnection.Step made (.task (.failed 0 0)) conn ∧
      Run (Guarded Step Careful) ⟨conn, .new⟩ [.other (.turn (some ⟨[0], 0⟩)),
        .chunk (bytes "GET / HT") 0 defaultHttpCallback takesAll] s ∧
      s.context.request.method = .kInvalid ∧
      ∃ outcome, Attempt s (.chunk (bytes "TP/1.1\r\n\r\n") 0 defaultHttpCallback takesAll)
        outcome := by
    rw [TcpConnection.new, Buffer.new_eq (by decide)]
    refine ⟨_, _, _, rfl, TcpConnection.Attempt.step (.task rfl (.inl rfl) ?_) rfl,
      .cons ⟨Attempt.step (.other .turn id) rfl, trivial⟩
        (.cons ⟨Attempt.step (.chunk ⟨_, rfl, rfl⟩ ?_ ?_ ?_) rfl, ?_⟩ (.nil _)), rfl, _,
      .chunk ⟨_, rfl, rfl⟩ ?_ ?_ ?_⟩
    · intro message other
      cases other
    · exact List.cons_ne_nil _ _
    · decide +kernel
    · exact fun offered => Nat.le_refl _
    · exact ⟨fun half => absurd rfl half.2, defaultHttpCallback_short⟩
    · exact List.cons_ne_nil _ _
    · decide +kernel
    · exact fun offered => Nat.le_refl _
  obtain ⟨made, conn, s, built, established, run, fresh, outcome, attempt⟩ := reached
  have careful : s.Careful (.chunk (bytes "TP/1.1\r\n\r\n") 0 defaultHttpCallback takesAll) :=
    ⟨fun half => half.2 fresh, defaultHttpCallback_short⟩
  exact ⟨made, conn, s, built, established, run, outcome, attempt,
    (chunks_fail_iff_half_written 0 3 .new 65536 false false made conn _ rfl rfl built established
      _ s run _ _ _ _ outcome attempt).1 careful⟩

set_option maxRecDepth 20000 in
/-- A request with a bad version is answered; the next chunk fails the assertion of `setMethod`. -/
theorem chunk_after_bad_version :
    ∃ made conn s, TcpConnection.new 0 3 .new 65536 false false = .ok made ∧
      TcpConnection.Step made (.task (.failed 0 0)) conn ∧
      Run Step ⟨conn, .new⟩ [.other (.turn (some ⟨[0], 0⟩)),
        .chunk (bytes "GET / HTTP/2.0\r\n") 0 defaultHttpCallback takesAll] s ∧
      Attempt s (.chunk (bytes "\r\n") 0 defaultHttpCallback takesAll)
        (.error (.assertion "method_ == kInvalid")) := by
  rw [TcpConnection.new, Buffer.new_eq (by decide)]
  refine ⟨_, _, _, rfl, TcpConnection.Attempt.step (.task rfl (.inl rfl) ?_) rfl,
    .cons (Attempt.step (.other .turn id) rfl)
      (.cons (Attempt.step (.chunk ⟨_, rfl, rfl⟩ ?_ ?_ ?_) rfl) (.nil _)),
    .chunk ⟨_, rfl, rfl⟩ ?_ ?_ ?_⟩
  · intro message other
    cases other
  · exact List.cons_ne_nil _ _
  · decide +kernel
  · exact fun offered => Nat.le_refl _
  · exact List.cons_ne_nil _ _
  · decide +kernel
  · exact fun offered => Nat.le_refl _

end HttpSession

end Muduo
