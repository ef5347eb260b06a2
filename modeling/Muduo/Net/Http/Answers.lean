import Muduo.Net.Http.Pipeline
import Muduo.Net.Http.ResponseStream
import Muduo.Net.TcpSpeech

/-!
# What the server answers on a connection

`HttpServer::onMessage` is the only one that sends on its connection and shuts it down. It answers a
bad request line with a text of its own, and a request with the response that the callback fills.
After an answer that closes the connection it goes on answering, and nothing of that is sent.
-/

open Outcome Transition

namespace Muduo

/-- An answer of the server. -/
inductive HttpAnswer
  /-- The answer to a request line that cannot be parsed. -/
  | badRequest
  /-- A response to a request, with the bytes that were made of it. -/
  | reply (request : HttpRequest) (response : HttpResponse) (text : List UInt8)

namespace HttpAnswer

/-- The bytes of an answer. -/
def text : HttpAnswer → List UInt8
  | badRequest => HttpServer.badRequest
  | reply _ _ text => text

/-- The server shuts the connection down after the answer. -/
def closes : HttpAnswer → Bool
  | badRequest => true
  | reply _ response _ => response.closeConnection

/-- The request that is answered. -/
def request : HttpAnswer → Option HttpRequest
  | badRequest => none
  | reply request _ _ => some request

/-- The bytes are those of the response. -/
def Genuine : HttpAnswer → Prop
  | badRequest => True
  | reply _ response text => response.output = .ok text

/-- No answer closes the connection. -/
def opened (answers : List HttpAnswer) : Bool := !answers.any closes

/-- The bytes of the answers, up to the first that closes the connection. -/
def spoken : List HttpAnswer → List UInt8
  | [] => []
  | answer :: answers => answer.text ++ if answer.closes then [] else spoken answers

/-- One answer more. -/
theorem opened_append (answers : List HttpAnswer) (answer : HttpAnswer) :
    opened (answers ++ [answer]) = (opened answers && !answer.closes) := by
  rw [opened, List.any_append, List.any_cons, List.any_nil, Bool.or_false, Bool.not_or, opened]

/-- One answer more is sent if none before it closes the connection. -/
theorem spoken_append (answers : List HttpAnswer) (answer : HttpAnswer) :
    spoken (answers ++ [answer]) =
      spoken answers ++ if opened answers then answer.text else [] := by
  induction answers with
  | nil => simp [spoken, opened]
  | cons first answers ih =>
    rw [List.cons_append, spoken, spoken, opened, List.any_cons]
    cases closed : first.closes with
    | true => simp
    | false =>
      rw [if_neg Bool.false_ne_true, if_neg Bool.false_ne_true, ih, Bool.false_or,
        List.append_assoc]
      rfl

end HttpAnswer

namespace HttpSession

open HttpServer

/-- `onRequest(conn, req)` with its answer. -/
def onRequestAnswer (conn : TcpConnection) (req : HttpRequest) (httpCallback : HttpCallback)
    (socket : List UInt8 → WriteResult) : Except Fault (TcpConnection × HttpAnswer) := do
  let connection := req.getHeader (bytes "Connection")
  let close := connection == bytes "close" ||
    (req.version == .kHttp10 && connection != bytes "Keep-Alive")
  let resp := httpCallback req (.new close)
  let buf ← Buffer.new kInitialSize
  let filled ← resp.appendToBuffer buf
  let sent ← conn.sendString .loop filled.readable (socket filled.readable)
  .ok (if resp.closeConnection then sent.shutdown .loop else sent,
    .reply req resp filled.readable)

/-- `onMessage(conn, buf, receiveTime)` with its answers. -/
def onMessageAnswers (s : HttpSession) (receiveTime : Int) (httpCallback : HttpCallback)
    (socket : List UInt8 → WriteResult) : Except Fault (HttpSession × List HttpAnswer) := do
  let (context, inputBuffer, ok) ← s.context.parseRequest s.conn.inputBuffer receiveTime
  let parsed := { s.conn with inputBuffer }
  let answered ← (if !ok then do
      let sent ← parsed.sendString .loop badRequest (socket badRequest)
      .ok (sent.shutdown .loop)
    else
      .ok parsed)
  let first : List HttpAnswer := if !ok then [.badRequest] else []
  if context.gotAll then
    let (replied, answer) ← onRequestAnswer answered context.request httpCallback socket
    .ok (⟨replied, context.reset⟩, first ++ [answer])
  else
    .ok (⟨answered, context⟩, first)

/-- A chunk arrives; with the answers. -/
def receiveAnswers (s : HttpSession) (data : List UInt8) (receiveTime : Int)
    (httpCallback : HttpCallback) (socket : List UInt8 → WriteResult) :
    Except Fault (HttpSession × List HttpAnswer) := do
  let conn ← s.conn.handleRead (.ok data)
  onMessageAnswers { s with conn } receiveTime httpCallback socket

variable {s session : HttpSession} {conn : TcpConnection} {data : List UInt8} {receiveTime : Int}
  {httpCallback : HttpCallback} {socket : List UInt8 → WriteResult} {answers : List HttpAnswer}
  {text : List UInt8} {isOpen : Bool}

/-- Without the answer this is `onRequest`. -/
theorem onRequestAnswer_fst (conn : TcpConnection) (req : HttpRequest)
    (httpCallback : HttpCallback) (socket : List UInt8 → WriteResult) :
    (onRequestAnswer conn req httpCallback socket).map Prod.fst =
      onRequest conn req httpCallback socket := by
  simp only [onRequestAnswer, onRequest, map_bind]
  rfl

/-- The answer to a request has this request. -/
theorem onRequestAnswer_request {req : HttpRequest} {after : TcpConnection} {answer : HttpAnswer}
    (done : onRequestAnswer conn req httpCallback socket = .ok (after, answer)) :
    answer.request = some req := by
  obtain ⟨buf, -, rest⟩ := bind_eq_ok.mp done
  obtain ⟨filled, -, rest⟩ := bind_eq_ok.mp rest
  obtain ⟨sent, -, rest⟩ := bind_eq_ok.mp rest
  cases rest
  rfl

/-- The requests that are answered are those for which the callback is called. -/
theorem onMessageAnswers_calls
    (done : s.onMessageAnswers receiveTime httpCallback socket = .ok (session, answers)) :
    s.onMessageCalls receiveTime httpCallback socket =
      .ok (session, answers.filterMap HttpAnswer.request) := by
  obtain ⟨⟨context, next, ok⟩, parsed, rest⟩ := bind_eq_ok.mp done
  obtain ⟨answered, answering, rest⟩ := bind_eq_ok.mp rest
  have none : (if !ok then [HttpAnswer.badRequest] else []).filterMap HttpAnswer.request = [] := by
    cases ok <;> rfl
  rw [onMessageCalls, parsed, ok_bind]
  dsimp only at answering rest ⊢
  rw [answering, ok_bind]
  split at rest
  next got =>
    obtain ⟨⟨replied, answer⟩, replying, rest⟩ := bind_eq_ok.mp rest
    have fst := onRequestAnswer_fst answered context.request httpCallback socket
    have asked := onRequestAnswer_request replying
    rw [replying] at fst
    cases rest
    rw [if_pos got, ← fst, List.filterMap_append, none, List.filterMap_cons_some asked]
    rfl
  next other =>
    cases rest
    rw [if_neg other, none]

/-- The requests that are answered are those for which the callback is called. -/
theorem receiveAnswers_calls
    (done : s.receiveAnswers data receiveTime httpCallback socket = .ok (session, answers)) :
    s.receiveCalls data receiveTime httpCallback socket =
      .ok (session, answers.filterMap HttpAnswer.request) := by
  obtain ⟨conn, reading, rest⟩ := bind_eq_ok.mp done
  rw [receiveCalls, reading, ok_bind]
  exact onMessageAnswers_calls rest

/-- One answer more on a connection that carries those before it. -/
theorem speaks_answer {sent : TcpConnection} (answer : HttpAnswer) {result : WriteResult}
    (speaks : conn.Speaks (HttpAnswer.spoken answers) (HttpAnswer.opened answers))
    (object : answer.text.length ≤ maxSize) (fits : result.Fits answer.text.length)
    (done : conn.sendString .loop answer.text result = .ok sent) :
    (if answer.closes then sent.shutdown .loop else sent).Speaks
      (HttpAnswer.spoken (answers ++ [answer])) (HttpAnswer.opened (answers ++ [answer])) := by
  have said := speaks.sendString object fits done
  rw [HttpAnswer.spoken_append, HttpAnswer.opened_append]
  cases answer.closes with
  | true =>
    rw [if_pos rfl, Bool.not_true, Bool.and_false]
    exact said.shutdown
  | false =>
    rw [if_neg Bool.false_ne_true, Bool.not_false, Bool.and_true]
    exact said

/-- The answer to a request. -/
theorem onRequestAnswer_speaks {req : HttpRequest} {after : TcpConnection} {answer : HttpAnswer}
    (speaks : conn.Speaks (HttpAnswer.spoken answers) (HttpAnswer.opened answers))
    (fits : ∀ offered, (socket offered).Fits offered.length)
    (done : onRequestAnswer conn req httpCallback socket = .ok (after, answer)) :
    after.Speaks (HttpAnswer.spoken (answers ++ [answer]))
        (HttpAnswer.opened (answers ++ [answer])) ∧ answer.Genuine := by
  obtain ⟨buf, made, rest⟩ := bind_eq_ok.mp done
  obtain ⟨filled, appended, rest⟩ := bind_eq_ok.mp rest
  obtain ⟨sent, sending, rest⟩ := bind_eq_ok.mp rest
  have valid := ((Buffer.new_meets kInitialSize (by decide)).of_ok made).1
  have full := HttpResponse.appendAll_ok valid appended
  cases rest
  refine ⟨speaks_answer (.reply _ _ filled.readable) speaks full.readable_le (fits _) sending, ?_⟩
  rw [HttpAnswer.Genuine, HttpResponse.output, made, ok_bind, appended]
  rfl

/-- The answer to a bad request line. -/
theorem badRequest_speaks {ok : Bool} {answered : TcpConnection}
    (speaks : conn.Speaks (HttpAnswer.spoken answers) (HttpAnswer.opened answers))
    (fits : ∀ offered, (socket offered).Fits offered.length)
    (done : (if !ok then do
        let sent ← conn.sendString .loop badRequest (socket badRequest)
        .ok (sent.shutdown .loop)
      else .ok conn) = .ok answered) :
    answered.Speaks (HttpAnswer.spoken (answers ++ if !ok then [.badRequest] else []))
      (HttpAnswer.opened (answers ++ if !ok then [.badRequest] else [])) := by
  cases ok with
  | true =>
    cases done
    rw [Bool.not_true, if_neg Bool.false_ne_true, List.append_nil]
    exact speaks
  | false =>
    obtain ⟨sent, sending, rest⟩ := bind_eq_ok.mp done
    cases rest
    have object : badRequest.length ≤ maxSize := by decide
    exact speaks_answer .badRequest speaks object (fits _) sending

/-- `onMessage` adds its answers to those before. -/
theorem onMessageAnswers_speaks {before : List HttpAnswer}
    (speaks : s.conn.Speaks (HttpAnswer.spoken before) (HttpAnswer.opened before))
    (fits : ∀ offered, (socket offered).Fits offered.length)
    (done : s.onMessageAnswers receiveTime httpCallback socket = .ok (session, answers)) :
    session.conn.Speaks (HttpAnswer.spoken (before ++ answers))
        (HttpAnswer.opened (before ++ answers)) ∧ ∀ answer ∈ answers, answer.Genuine := by
  obtain ⟨⟨context, next, ok⟩, -, rest⟩ := bind_eq_ok.mp done
  obtain ⟨answered, answering, rest⟩ := bind_eq_ok.mp rest
  have first := badRequest_speaks (speaks.input next) fits answering
  dsimp only at rest
  have genuine : ∀ answer ∈ if !ok then [HttpAnswer.badRequest] else [], answer.Genuine := by
    intro answer member
    split at member
    · rw [List.mem_singleton.mp member]
      trivial
    · cases member
  split at rest
  · obtain ⟨⟨replied, answer⟩, replying, rest⟩ := bind_eq_ok.mp rest
    obtain ⟨second, made⟩ := onRequestAnswer_speaks first fits replying
    cases rest
    rw [List.append_assoc] at second
    refine ⟨second, fun other member => ?_⟩
    obtain old | new := List.mem_append.mp member
    · exact genuine other old
    · rw [List.mem_singleton.mp new]
      exact made
  · cases rest
    exact ⟨first, genuine⟩

end HttpSession

/-- A connection of an HTTP server with what was received on it and what was answered. -/
structure HttpDialogue where
  /-- The connection and its context. -/
  session : HttpSession
  /-- The bytes received. -/
  received : List UInt8
  /-- The answers. -/
  answers : List HttpAnswer

namespace HttpDialogue

/-- One step of a connection of the server. -/
inductive Step : HttpDialogue → HttpSession.Action → HttpDialogue → Prop
  | chunk {s : HttpDialogue} {data : List UInt8} {receiveTime : Int} {httpCallback : HttpCallback}
      {socket : List UInt8 → WriteResult} {session : HttpSession} {answers : List HttpAnswer}
      (handling : s.session.conn.Handling) (some : data ≠ [])
      (offered : data.length ≤ s.session.conn.inputBuffer.readvOffer)
      (fits : ∀ offered, (socket offered).Fits offered.length)
      (done : s.session.receiveAnswers data receiveTime httpCallback socket =
        .ok (session, answers)) :
      Step s (.chunk data receiveTime httpCallback socket)
        { session, received := s.received ++ data, answers := s.answers ++ answers }
  | other {s : HttpDialogue} {action : HttpSession.Action} {session : HttpSession}
      (step : HttpSession.Step s.session action session)
      (apart : ∀ data receiveTime httpCallback socket,
        action ≠ .chunk data receiveTime httpCallback socket) :
      Step s action { s with session }

/-- Only the server sends on its connection and closes it. -/
def Alone (_ : HttpDialogue) : HttpSession.Action → Prop
  | .other action => ¬action.Intrudes
  | _ => True

/-- The connection carries the answers, and they are made of their responses. -/
def Carries (s : HttpDialogue) : Prop :=
  s.session.conn.Speaks (HttpAnswer.spoken s.answers) (HttpAnswer.opened s.answers) ∧
    ∀ answer ∈ s.answers, answer.Genuine

variable {s after last : HttpDialogue} {action : HttpSession.Action}

/-- What is not a chunk leaves what the connection carries. -/
theorem still_speaks {session : HttpSession} {text : List UInt8} {isOpen : Bool}
    (step : HttpSession.Step s.session action session)
    (apart : ∀ data receiveTime httpCallback socket,
      action ≠ .chunk data receiveTime httpCallback socket) (alone : s.Alone action)
    (speaks : s.session.conn.Speaks text isOpen) : session.conn.Speaks text isOpen := by
  have attempt : HttpSession.Attempt s.session action (.ok session) := step
  generalize outcome : Except.ok session = result at attempt
  cases attempt with
  | @chunk data receiveTime httpCallback socket =>
    exact absurd rfl (apart data receiveTime httpCallback socket)
  | @silence received handling none =>
    obtain ⟨conn, done, rest⟩ := bind_eq_ok.mp outcome.symm
    cases rest
    have offered : ∀ data, received = .ok data →
        data.length ≤ s.session.conn.inputBuffer.readvOffer := by
      intro data same
      rw [none data same]
      exact Nat.zero_le _
    have read : TcpConnection.Step s.session.conn (.read received) conn :=
      TcpConnection.Attempt.step (.read handling offered) done
    exact speaks.step read id
  | @other action result attempt still =>
    obtain ⟨conn, done, rest⟩ := bind_eq_ok.mp outcome.symm
    cases rest
    exact speaks.step (attempt.step done) alone

/-- Every step of the server alone keeps what the connection carries. -/
theorem Step.carries (step : Step s action after) (alone : s.Alone action)
    (carries : s.Carries) : after.Carries := by
  obtain ⟨speaks, genuine⟩ := carries
  cases step with
  | @chunk data receiveTime httpCallback socket session answers handling some offered fits done =>
    obtain ⟨conn, reading, rest⟩ := bind_eq_ok.mp done
    have read : TcpConnection.Step s.session.conn (.read (.ok data)) conn := by
      refine TcpConnection.Attempt.step (.read handling fun other same => ?_) reading
      cases same
      exact offered
    obtain ⟨carried, made⟩ :=
      HttpSession.onMessageAnswers_speaks (s := { s.session with conn }) (speaks.step read id)
        fits rest
    exact ⟨carried, List.forall_mem_append.mpr ⟨genuine, made⟩⟩
  | other step apart => exact ⟨still_speaks step apart alone speaks, genuine⟩

/-- Every run of the server alone keeps what the connection carries. -/
theorem carries_of_run {start : HttpDialogue} {actions : List HttpSession.Action}
    (carries : start.Carries) (run : Run (Guarded Step Alone) start actions last) :
    last.Carries :=
  run.invariant carries fun _ _ _ carries taken => taken.1.carries taken.2 carries

/-- What the kernel accepted is the beginning of the messages. -/
theorem accepted_starts {conn : TcpConnection} (flows : conn.Flows) :
    conn.accepted <+: conn.messages := by
  rw [← flows.stream]
  exact List.prefix_append _ _

/-- On an established connection nothing is answered. -/
theorem established_carries {address : ChannelId} {fd : Int} {poller : EpollPoller}
    {highWaterMark : Nat} {writeComplete highWater : Bool} {made conn : TcpConnection}
    {result : WriteResult} (unknown : poller.channels fd = none)
    (unwatched : poller.interest fd = none)
    (built : TcpConnection.new address fd poller highWaterMark writeComplete highWater = .ok made)
    (established : TcpConnection.Step made (.task result) conn) (context : HttpContext) :
    Carries ⟨⟨conn, context⟩, [], []⟩ :=
  ⟨TcpConnection.established_speaks unknown unwatched built established,
    fun _ none => absurd none List.not_mem_nil⟩

/-- The answers on a connection of the server, for any bytes in any chunks, any callbacks and any
results of `::write` but a broken connection: what the kernel accepted and what waits in the output
buffer are the answers in their order, each made of its response, up to the first that closes the
connection; a connection that is closed accepted the beginning of that. The connection is up exactly
as long as no answer closes it, and then it is half-closed as soon as everything is written. -/
theorem answers_up_to_closing (address : ChannelId) (fd : Int) (poller : EpollPoller)
    (highWaterMark : Nat) (writeComplete highWater : Bool) (made conn : TcpConnection)
    (result : WriteResult) (unknown : poller.channels fd = none)
    (unwatched : poller.interest fd = none)
    (built : TcpConnection.new address fd poller highWaterMark writeComplete highWater = .ok made)
    (established : TcpConnection.Step made (.task result) conn) (actions : List HttpSession.Action)
    (last : HttpDialogue)
    (run : Run (Guarded Step Alone) ⟨⟨conn, .new⟩, [], []⟩ actions last) :
    (∀ answer ∈ last.answers, answer.Genuine) ∧
      (last.session.conn.Unbroken →
        last.session.conn.accepted <+: HttpAnswer.spoken last.answers) ∧
      (last.session.conn.state ≠ .kDisconnected →
        (last.session.conn.Unbroken → last.session.conn.accepted ++
            last.session.conn.outputBuffer.readable = HttpAnswer.spoken last.answers) ∧
        (last.session.conn.state = .kConnected ↔ HttpAnswer.opened last.answers = true) ∧
        (last.session.conn.Shut ↔ HttpAnswer.opened last.answers = false ∧
          last.session.conn.outputBuffer.readable = [])) := by
  have carries := carries_of_run
    (established_carries unknown unwatched built established .new) run
  obtain ⟨speaks, genuine⟩ := carries
  refine ⟨genuine, fun unbroken => ?_, fun up => ⟨fun unbroken => ?_, ?_⟩⟩
  · exact (accepted_starts speaks.flows).trans (speaks.front unbroken)
  · rw [speaks.flows.stream]
    exact speaks.whole up unbroken
  · cases state : last.session.conn.state with
    | kDisconnected => exact absurd state up
    | kConnecting => exact absurd state speaks.begun
    | kConnected =>
      obtain ⟨isOpen, unshut⟩ := speaks.up state
      rw [isOpen]
      exact ⟨iff_of_true rfl rfl, iff_of_false unshut fun closed => by cases closed.1⟩
    | kDisconnecting =>
      obtain ⟨closed, shut⟩ := speaks.closing state
      rw [closed, shut]
      exact ⟨iff_of_false StateE.noConfusion Bool.false_ne_true,
        ⟨fun empty => ⟨rfl, empty⟩, fun both => both.2⟩⟩

set_option maxRecDepth 20000 in
/-- A request, a line that is none, and another request in the same chunk. -/
theorem answers_up_to_closing_bad_line :
    ∃ made conn last, TcpConnection.new 0 3 .new 65536 false false = .ok made ∧
      TcpConnection.Step made (.task (.failed 0 0)) conn ∧
      Run (Guarded Step Alone) ⟨⟨conn, .new⟩, [], []⟩ [.other (.turn (some ⟨[0], 0⟩)),
        .chunk (bytes "GET / HTTP/1.1\r\n\r\nGET\r\n") 0 HttpExchange.emptyReply
          HttpSession.takesAll,
        .chunk (bytes "\r\n") 0 HttpExchange.emptyReply HttpSession.takesAll] last ∧
      HttpAnswer.opened last.answers = false ∧ last.session.conn.Unbroken ∧
      last.session.conn.accepted <+: HttpAnswer.spoken last.answers := by
  have reached : ∃ made conn last, TcpConnection.new 0 3 .new 65536 false false = .ok made ∧
      TcpConnection.Step made (.task (.failed 0 0)) conn ∧
      Run (Guarded Step Alone) ⟨⟨conn, .new⟩, [], []⟩ [.other (.turn (some ⟨[0], 0⟩)),
        .chunk (bytes "GET / HTTP/1.1\r\n\r\nGET\r\n") 0 HttpExchange.emptyReply
          HttpSession.takesAll,
        .chunk (bytes "\r\n") 0 HttpExchange.emptyReply HttpSession.takesAll] last ∧
      HttpAnswer.opened last.answers = false ∧ last.session.conn.Unbroken := by
    rw [TcpConnection.new, Buffer.new_eq (by decide)]
    refine ⟨_, _, _, rfl, TcpConnection.Attempt.step (.task rfl (.inl rfl) ?_) rfl,
      .cons ⟨.other (HttpSession.Attempt.step (.other .turn id) rfl) ?_, id⟩
        (.cons ⟨.chunk ⟨_, rfl, rfl⟩ ?_ ?_ ?_ rfl, trivial⟩
          (.cons ⟨.chunk ⟨_, rfl, rfl⟩ ?_ ?_ ?_ rfl, trivial⟩ (.nil _))), rfl, ?_⟩
    · intro message other
      cases other
    · intro data receiveTime httpCallback socket same
      cases same
    · exact List.cons_ne_nil _ _
    · decide +kernel
    · exact fun offered => Nat.le_refl _
    · exact List.cons_ne_nil _ _
    · decide +kernel
    · exact fun offered => Nat.le_refl _
    · rw [TcpConnection.Unbroken]
      decide +kernel
  obtain ⟨made, conn, last, built, established, run, closed, unbroken⟩ := reached
  exact ⟨made, conn, last, built, established, run, closed, unbroken,
    (answers_up_to_closing 0 3 .new 65536 false false made conn _ rfl rfl built established _
      last run).2.1 unbroken⟩

end HttpDialogue

end Muduo
