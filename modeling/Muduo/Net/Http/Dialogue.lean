import Muduo.Net.Http.Answers

/-!
# A client that reads the answers to its requests

A client sends well-formed requests without a body, none of which asks to close the connection. The
server parses them, calls its callback, and sends what the callback fills. The client reads the
bytes that come back with a reader of responses.
-/

open Outcome Transition

namespace Muduo

/-- `close` of `HttpServer::onRequest`. -/
def HttpRequest.asksToClose (req : HttpRequest) : Bool :=
  let connection := req.getHeader (bytes "Connection")
  connection == bytes "close" || (req.version == .kHttp10 && connection != bytes "Keep-Alive")

namespace HttpContext

variable {b next : Buffer} {future : List UInt8} {remaining : List RequestText}
  {c after : HttpContext} {ok : Bool} {receiveTime : Int}

/-- In a stream of requests with methods that `setMethod` knows, `parseRequest` finds nothing
wrong. -/
theorem parseRequest_supported (valid : b.Valid)
    (ahead : Ahead remaining c (b.readable ++ future))
    (supported : ∀ t ∈ remaining, t.method ≠ .kHead)
    (done : c.parseRequest b receiveTime = .ok (after, next, ok)) : ok = true := by
  generalize reads : b.readable ++ future = coming at ahead
  cases ahead with
  | line =>
    cases remaining with
    | nil =>
      have empty : b.readable = [] := (List.append_eq_nil_iff.mp reads).1
      rw [parseRequest_empty receiveTime valid empty] at done
      cases done
      rfl
    | cons t rest =>
      have known : t.method ≠ .kHead := supported t List.mem_cons_self
      have text : b.readable ++ future = requestLine t.method t.target t.version ++
          (kCRLF ++ (RequestText.headerText t.headers ++ RequestText.stream rest)) := by
        rw [reads]
        simp [RequestText.stream, RequestText.text]
      rw [parseRequest, parseLoop] at done
      simp only [HttpContext.new] at done
      obtain ⟨none, -⟩ | ⟨crlf, line, found, same, taken, lineValid, left, less⟩ :=
        next_line valid t.single text
      · simp only [none] at done
        cases done
        rfl
      · simp only [found, same] at done
        rw [processRequestLine_opening t known] at done
        simp only [ok_bind, ↓reduceIte, taken] at done
        obtain ⟨last, rest, finished, -⟩ :=
          parseLoop_headers (c := ⟨.kExpectHeaders, { t.opening with receiveTime }⟩) receiveTime
            t.headers t.names t.lines lineValid rfl left less
        rw [finished] at done
        cases done
        rfl
  | @headers t rest _ read more known split state content =>
    have names : ∀ header ∈ more, 58 ∉ header.1 := fun header member =>
      t.names header (by rw [split]; exact List.mem_append_right _ member)
    have lines : ∀ header ∈ more, ¬kCRLF <:+: headerLine header := fun header member =>
      t.lines header (by rw [split]; exact List.mem_append_right _ member)
    obtain ⟨last, left, finished, -⟩ :=
      parseLoop_headers receiveTime more names lines valid state reads (Nat.lt_succ_self _)
    rw [parseRequest, finished] at done
    cases done
    rfl

end HttpContext

namespace HttpAnswer

/-- A reply with the response that the callback makes of the request. -/
def IsReply (httpCallback : HttpCallback) : HttpAnswer → Prop
  | badRequest => False
  | reply request response _ => response = httpCallback request (.new request.asksToClose)

end HttpAnswer

namespace HttpSession

variable {s session : HttpSession} {data : List UInt8} {receiveTime : Int}
  {httpCallback : HttpCallback} {socket : List UInt8 → WriteResult} {answers : List HttpAnswer}

/-- A chunk behind which nothing is wrong is answered with replies only. -/
theorem onMessageAnswers_replies
    (fine : ∀ context next ok, s.context.parseRequest s.conn.inputBuffer receiveTime =
      .ok (context, next, ok) → ok = true)
    (done : s.onMessageAnswers receiveTime httpCallback socket = .ok (session, answers)) :
    ∀ answer ∈ answers, answer.IsReply httpCallback := by
  obtain ⟨⟨context, next, ok⟩, parsed, rest⟩ := bind_eq_ok.mp done
  obtain rfl := fine context next ok parsed
  obtain ⟨answered, -, rest⟩ := bind_eq_ok.mp rest
  dsimp only at rest
  split at rest
  · obtain ⟨⟨replied, answer⟩, replying, rest⟩ := bind_eq_ok.mp rest
    obtain ⟨buf, -, made⟩ := bind_eq_ok.mp replying
    obtain ⟨filled, -, made⟩ := bind_eq_ok.mp made
    obtain ⟨sent, -, made⟩ := bind_eq_ok.mp made
    cases made
    cases rest
    intro answer member
    rw [List.mem_singleton.mp member]
    rfl
  · cases rest
    exact nofun

end HttpSession

namespace HttpDialogue

/-- The requests for which the callback was called. -/
def calls (s : HttpDialogue) : List HttpRequest := s.answers.filterMap HttpAnswer.request

/-- The exchange of requests that a dialogue is. -/
def exchange (s : HttpDialogue) : HttpExchange where
  session := s.session
  received := s.received
  dispatched := s.calls

/-- The server answers with one callback; the bytes that arrive are those of the requests, and a
chunk completes at most one of them. -/
def Serves (httpCallback : HttpCallback) (requests : List RequestText) (s : HttpDialogue) :
    HttpSession.Action → Prop
  | .chunk data receiveTime callback socket => callback = httpCallback ∧
      s.received ++ data <+: RequestText.stream requests ∧
      s.exchange.Paced requests (.chunk data receiveTime callback socket)
  | action => s.Alone action

/-- All complete requests were answered, with what the callback makes of them. -/
structure Attended (httpCallback : HttpCallback) (requests : List RequestText)
    (s : HttpDialogue) : Prop where
  /-- The callback was called for all complete requests. -/
  following : s.exchange.Following requests
  /-- The connection carries the answers. -/
  carries : s.Carries
  /-- The answers are replies. -/
  replies : ∀ answer ∈ s.answers, answer.IsReply httpCallback

variable {httpCallback : HttpCallback} {requests : List RequestText} {s after last : HttpDialogue}
  {action : HttpSession.Action}

/-- In a stream of requests with known methods the parser finds nothing wrong in the next chunk. -/
theorem Attended.fine (attended : s.Attended httpCallback requests)
    (supported : ∀ t ∈ requests, t.method ≠ .kHead) {data : List UInt8} {conn : TcpConnection}
    {receiveTime : Int} {context : HttpContext} {next : Buffer} {ok : Bool} (some : data ≠ [])
    (offered : data.length ≤ s.session.conn.inputBuffer.readvOffer)
    (stream : s.received ++ data <+: RequestText.stream requests)
    (read : s.session.conn.handleRead (.ok data) = .ok conn)
    (parsed : s.session.context.parseRequest conn.inputBuffer receiveTime =
      .ok (context, next, ok)) : ok = true := by
  obtain ⟨⟨front, back, future, place⟩, -⟩ := attended.following
  obtain ⟨later, cut⟩ := stream
  have split : future = data ++ later := by
    have both := place.whole.trans cut.symm
    rw [List.append_assoc] at both
    exact List.append_cancel_left both
  obtain ⟨-, valid, added⟩ :=
    (HttpSession.handleRead_meets place.flows place.input some offered).of_ok read
  have ahead := place.ahead
  rw [split, ← List.append_assoc] at ahead
  have known : ∀ t ∈ back, t.method ≠ .kHead := by
    intro t member
    refine supported t ?_
    rw [place.parts]
    exact List.mem_append_right _ member
  rw [← added] at ahead
  exact HttpContext.parseRequest_supported valid ahead known parsed

/-- A chunk answers the request that it completes. -/
theorem Step.attended (step : Step s action after) (serves : s.Serves httpCallback requests action)
    (supported : ∀ t ∈ requests, t.method ≠ .kHead)
    (attended : s.Attended httpCallback requests) : after.Attended httpCallback requests := by
  cases step with
  | @chunk data receiveTime callback socket session answers handling some offered fits done =>
    obtain ⟨rfl, stream, paced⟩ := serves
    have called := HttpSession.receiveAnswers_calls done
    have exchanged : HttpExchange.Step requests s.exchange (.chunk data receiveTime callback socket)
        (exchange ⟨session, s.received ++ data, s.answers ++ answers⟩) := by
      have joined : exchange ⟨session, s.received ++ data, s.answers ++ answers⟩ =
          ⟨session, s.received ++ data, s.calls ++ answers.filterMap HttpAnswer.request⟩ :=
        congrArg (HttpExchange.mk session _) List.filterMap_append
      rw [joined]
      exact .chunk handling some offered fits stream called
    have following := HttpExchange.following_of_run attended.following
      (.cons ⟨exchanged, paced⟩ (.nil _))
    have carries : Carries ⟨session, s.received ++ data, s.answers ++ answers⟩ :=
      Step.carries (.chunk handling some offered fits done) trivial attended.carries
    refine ⟨following, carries, List.forall_mem_append.mpr ⟨attended.replies, ?_⟩⟩
    obtain ⟨conn, reading, rest⟩ := bind_eq_ok.mp done
    exact HttpSession.onMessageAnswers_replies (s := { s.session with conn })
      (fun context next ok parsed => attended.fine supported some offered stream reading parsed)
      rest
  | @other action session step apart =>
    have alone : s.Alone action := by
      cases action with
      | chunk data receiveTime callback socket =>
        exact absurd rfl (apart data receiveTime callback socket)
      | silence received => exact serves
      | other action => exact serves
    have paced : s.exchange.Paced requests action := by
      cases action with
      | chunk data receiveTime callback socket =>
        exact absurd rfl (apart data receiveTime callback socket)
      | silence received => trivial
      | other action => trivial
    have exchanged : HttpExchange.Step requests s.exchange action
        (exchange { s with session }) := .other step apart
    exact ⟨HttpExchange.following_of_run attended.following (.cons ⟨exchanged, paced⟩ (.nil _)),
      Step.carries (.other step apart) alone attended.carries, attended.replies⟩

/-- A request that was dispatched is one of the stream. -/
theorem Attended.asked (attended : s.Attended httpCallback requests) {req : HttpRequest}
    (called : req ∈ s.calls) : ∃ t ∈ requests, req.content = t.request := by
  obtain ⟨⟨front, back, future, place⟩, -⟩ := attended.following
  have member : req.content ∈ front.map RequestText.request := by
    rw [← place.content]
    exact List.mem_map_of_mem called
  obtain ⟨t, inside, same⟩ := List.mem_map.mp member
  refine ⟨t, ?_, same.symm⟩
  rw [place.parts]
  exact List.mem_append_left _ inside

/-- The bytes of replies that are made of plain responses. -/
theorem replies_text {answers : List HttpAnswer}
    (genuine : ∀ answer ∈ answers, answer.Genuine)
    (replies : ∀ answer ∈ answers, answer.IsReply httpCallback)
    (stays : ∀ req ∈ answers.filterMap HttpAnswer.request, req.asksToClose = false)
    (plain : ∀ req, (httpCallback req (.new false)).Plain ∧ (httpCallback req (.new false)).Fits) :
    HttpAnswer.opened answers = true ∧ HttpAnswer.spoken answers =
      (((answers.filterMap HttpAnswer.request).map fun req =>
        httpCallback req (.new false)).map HttpResponse.text).flatten := by
  induction answers with
  | nil => exact ⟨rfl, rfl⟩
  | cons answer answers ih =>
    obtain ⟨made, others⟩ := List.forall_mem_cons.mp genuine
    obtain ⟨isReply, more⟩ := List.forall_mem_cons.mp replies
    cases answer with
    | badRequest => exact isReply.elim
    | reply req response text =>
      obtain ⟨keeps, rest⟩ : req.asksToClose = false ∧
          ∀ req ∈ answers.filterMap HttpAnswer.request, req.asksToClose = false :=
        List.forall_mem_cons.mp stays
      obtain ⟨isPlain, fits⟩ := plain req
      have filled : response = httpCallback req (.new false) := by
        rw [← keeps]
        exact isReply
      have bytes : response.output = .ok text := made
      rw [filled, isPlain.output_fits fits] at bytes
      obtain rfl := Except.ok.inj bytes
      have up : response.closeConnection = false := by
        rw [filled]
        exact isPlain.keepAlive
      obtain ⟨isOpen, same⟩ := ih others more rest
      constructor
      · rw [HttpAnswer.opened, List.any_cons, HttpAnswer.closes, up, Bool.false_or]
        exact isOpen
      · rw [HttpAnswer.spoken, HttpAnswer.closes, up, if_neg Bool.false_ne_true, same]
        rfl

/-- On an established connection nothing is complete. -/
theorem established_attended {address : ChannelId} {fd : Int} {poller : EpollPoller}
    {highWaterMark : Nat} {writeComplete highWater : Bool} {made conn : TcpConnection}
    {result : WriteResult} (unknown : poller.channels fd = none)
    (unwatched : poller.interest fd = none)
    (built : TcpConnection.new address fd poller highWaterMark writeComplete highWater = .ok made)
    (established : TcpConnection.Step made (.task result) conn) (httpCallback : HttpCallback)
    (requests : List RequestText) :
    Attended httpCallback requests ⟨⟨conn, .new⟩, [], []⟩ :=
  ⟨HttpExchange.established_following unknown unwatched built established requests,
    established_carries unknown unwatched built established .new,
    fun _ none => absurd none List.not_mem_nil⟩

/-- A client whose requests do not ask to close the connection, and a callback that fills plain
responses: at every moment the callback was called for the requests that are complete, in their
order; the bytes that the server has for the client are read back as exactly one response for each
of them, the one that the callback filled; as long as the connection is not closed it is up and all
of these bytes were accepted by the kernel or wait in the output buffer. -/
theorem client_reads_one_response_each (address : ChannelId) (fd : Int) (poller : EpollPoller)
    (highWaterMark : Nat) (writeComplete highWater : Bool) (made conn : TcpConnection)
    (result : WriteResult) (unknown : poller.channels fd = none)
    (unwatched : poller.interest fd = none)
    (built : TcpConnection.new address fd poller highWaterMark writeComplete highWater = .ok made)
    (established : TcpConnection.Step made (.task result) conn) (requests : List RequestText)
    (supported : ∀ t ∈ requests, t.method ≠ .kHead)
    (stays : ∀ t ∈ requests, t.request.asksToClose = false) (httpCallback : HttpCallback)
    (plain : ∀ req, (httpCallback req (.new false)).Plain ∧ (httpCallback req (.new false)).Fits)
    (actions : List HttpSession.Action) (last : HttpDialogue)
    (run : Run (Guarded Step (Serves httpCallback requests)) ⟨⟨conn, .new⟩, [], []⟩ actions last) :
    last.calls.map HttpRequest.content =
        (RequestText.complete requests last.received.length).map RequestText.request ∧
      ∃ sent, ReadResponse.readResponses (sent.length + 1) sent =
          some (last.calls.map fun req => (httpCallback req (.new false)).read) ∧
        (last.session.conn.Unbroken → last.session.conn.accepted <+: sent) ∧
        (last.session.conn.state ≠ .kDisconnected → last.session.conn.state = .kConnected ∧
          (last.session.conn.Unbroken →
            last.session.conn.accepted ++ last.session.conn.outputBuffer.readable = sent)) := by
  have start := established_attended unknown unwatched built established httpCallback requests
  have attended : last.Attended httpCallback requests := run.invariant start
    fun _ _ _ attended taken => taken.1.attended taken.2 supported attended
  obtain ⟨speaks, genuine⟩ := attended.carries
  have keeps : ∀ req ∈ last.calls, req.asksToClose = false := by
    intro req called
    obtain ⟨t, inside, same⟩ := attended.asked called
    have said := stays t inside
    rw [← same] at said
    exact said
  obtain ⟨isOpen, bytes⟩ := replies_text genuine attended.replies keeps plain
  rw [bytes, isOpen] at speaks
  have filled : ∀ r ∈ last.calls.map fun req => httpCallback req (.new false), r.Plain := by
    intro r member
    obtain ⟨req, -, rfl⟩ := List.mem_map.mp member
    exact (plain req).1
  refine ⟨attended.following.2, _,
    (HttpResponse.readResponses_texts filled (Nat.lt_succ_self _)).trans ?_, fun unbroken => ?_,
    fun up => ⟨?_, fun unbroken => ?_⟩⟩
  · rw [List.map_map]
    rfl
  · exact (accepted_starts speaks.flows).trans (speaks.front unbroken)
  · cases state : last.session.conn.state with
    | kDisconnected => exact absurd state up
    | kConnecting => exact absurd state speaks.begun
    | kConnected => rfl
    | kDisconnecting => cases (speaks.closing state).1
  · rw [speaks.flows.stream]
    exact speaks.whole up unbroken

/-- The response of `emptyReply` is plain. -/
theorem emptyReply_plain (req : HttpRequest) :
    (HttpExchange.emptyReply req (.new false)).Plain where
  keepAlive := rfl
  statusMessage := show 13 ∉ bytes "OK" ∧ 10 ∉ bytes "OK" by decide
  names := nofun
  values := nofun
  colonless := nofun
  other := nofun
  sorted := .nil
  body := show ([] : List UInt8).length < 2 ^ 31 by decide

/-- The response of `emptyReply` fits. -/
theorem emptyReply_fits (req : HttpRequest) : (HttpExchange.emptyReply req (.new false)).Fits where
  statusMessage := show (bytes "OK").length < 2 ^ 31 by decide
  headers := nofun
  room := by
    change kCheapPrepend + (HttpExchange.emptyReply .new (.new false)).texts.flatten.length ≤ _
    decide +kernel

set_option maxRecDepth 20000 in
/-- Two requests, of which the second chunk completes the first. -/
theorem client_reads_one_response_each_two :
    ∃ made conn last, TcpConnection.new 0 3 .new 65536 false false = .ok made ∧
      TcpConnection.Step made (.task (.failed 0 0)) conn ∧
      Run (Guarded Step (Serves HttpExchange.emptyReply
          [HttpExchange.rootRequest, HttpExchange.rootRequest]))
        ⟨⟨conn, .new⟩, [], []⟩ [.other (.turn (some ⟨[0], 0⟩)),
          .chunk (bytes "GET / HT") 0 HttpExchange.emptyReply HttpSession.takesAll,
          .chunk (bytes "TP/1.1\r\n\r\nGET ") 0 HttpExchange.emptyReply
            HttpSession.takesAll] last ∧
      last.calls.map HttpRequest.content = [HttpExchange.rootRequest.request] := by
  have reached : ∃ made conn last, TcpConnection.new 0 3 .new 65536 false false = .ok made ∧
      TcpConnection.Step made (.task (.failed 0 0)) conn ∧
      Run (Guarded Step (Serves HttpExchange.emptyReply
          [HttpExchange.rootRequest, HttpExchange.rootRequest]))
        ⟨⟨conn, .new⟩, [], []⟩ [.other (.turn (some ⟨[0], 0⟩)),
          .chunk (bytes "GET / HT") 0 HttpExchange.emptyReply HttpSession.takesAll,
          .chunk (bytes "TP/1.1\r\n\r\nGET ") 0 HttpExchange.emptyReply
            HttpSession.takesAll] last ∧
      RequestText.complete [HttpExchange.rootRequest, HttpExchange.rootRequest]
        last.received.length = [HttpExchange.rootRequest] := by
    rw [TcpConnection.new, Buffer.new_eq (by decide)]
    refine ⟨_, _, _, rfl, TcpConnection.Attempt.step (.task rfl (.inl rfl) ?_) rfl,
      .cons ⟨.other (HttpSession.Attempt.step (.other .turn id) rfl) ?_, id⟩
        (.cons ⟨.chunk ⟨_, rfl, rfl⟩ ?_ ?_ ?_ rfl, rfl, ?_, ?_⟩
          (.cons ⟨.chunk ⟨_, rfl, rfl⟩ ?_ ?_ ?_ rfl, rfl, ?_, ?_⟩ (.nil _))), rfl⟩
    · intro message other
      cases other
    · intro data receiveTime httpCallback socket same
      cases same
    · exact List.cons_ne_nil _ _
    · decide +kernel
    · exact fun offered => Nat.le_refl _
    · decide +kernel
    · rw [HttpExchange.Paced]
      decide +kernel
    · exact List.cons_ne_nil _ _
    · decide +kernel
    · exact fun offered => Nat.le_refl _
    · decide +kernel
    · rw [HttpExchange.Paced]
      decide +kernel
  obtain ⟨made, conn, last, built, established, run, complete⟩ := reached
  have read := (client_reads_one_response_each 0 3 .new 65536 false false made conn _ rfl rfl built
    established _ (by decide) (by decide) HttpExchange.emptyReply
    (fun req => ⟨emptyReply_plain req, emptyReply_fits req⟩) _ last run).1
  rw [complete] at read
  exact ⟨made, conn, last, built, established, run, read⟩

end HttpDialogue

end Muduo
