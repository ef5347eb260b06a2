import Muduo.Net.Http.Message
import Muduo.Net.Http.Server

/-!
# Requests one after the other on a connection

A client sends well-formed requests without a body, cut into chunks anyhow, and anything else may
happen to the connection between the chunks. `HttpServer::onMessage` parses and dispatches at most
one request for each chunk, so a request that is completed by the chunk that completes the one
before it waits in the input buffer for the next chunk. `HEAD`, which `HttpRequest` has a name for,
is not among the methods that `setMethod` knows.
-/

open Outcome Transition

namespace Muduo

namespace HttpSession

open HttpServer

/-- `onMessage(conn, buf, receiveTime)` with the requests for which it calls `httpCallback_`. -/
def onMessageCalls (s : HttpSession) (receiveTime : Int) (httpCallback : HttpCallback)
    (socket : List UInt8 → WriteResult) : Except Fault (HttpSession × List HttpRequest) := do
  let (context, inputBuffer, ok) ← s.context.parseRequest s.conn.inputBuffer receiveTime
  let parsed := { s.conn with inputBuffer }
  let answered ← (if !ok then do
      let sent ← parsed.sendString .loop badRequest (socket badRequest)
      .ok (sent.shutdown .loop)
    else
      .ok parsed)
  if context.gotAll then
    let replied ← onRequest answered context.request httpCallback socket
    .ok (⟨replied, context.reset⟩, [context.request])
  else
    .ok (⟨answered, context⟩, [])

/-- A chunk arrives; with the requests for which the callback is called. -/
def receiveCalls (s : HttpSession) (data : List UInt8) (receiveTime : Int)
    (httpCallback : HttpCallback) (socket : List UInt8 → WriteResult) :
    Except Fault (HttpSession × List HttpRequest) := do
  let conn ← s.conn.handleRead (.ok data)
  onMessageCalls { s with conn } receiveTime httpCallback socket

variable {s session : HttpSession} {conn : TcpConnection} {data : List UInt8} {receiveTime : Int}
  {httpCallback : HttpCallback} {socket : List UInt8 → WriteResult} {calls : List HttpRequest}

/-- Without the calls this is `onMessage`. -/
theorem onMessageCalls_fst (s : HttpSession) (receiveTime : Int) (httpCallback : HttpCallback)
    (socket : List UInt8 → WriteResult) :
    (s.onMessageCalls receiveTime httpCallback socket).map Prod.fst =
      s.onMessage receiveTime httpCallback socket := by
  rw [onMessageCalls, onMessage, map_bind]
  congr 1
  funext parsed
  obtain ⟨context, inputBuffer, ok⟩ := parsed
  dsimp only
  rw [map_bind]
  congr 1
  funext answered
  split
  · rw [map_bind]
    rfl
  · rfl

/-- Without the calls this is the arrival of a chunk. -/
theorem receiveCalls_fst (s : HttpSession) (data : List UInt8) (receiveTime : Int)
    (httpCallback : HttpCallback) (socket : List UInt8 → WriteResult) :
    (s.receiveCalls data receiveTime httpCallback socket).map Prod.fst =
      s.receive data receiveTime httpCallback socket := by
  rw [receiveCalls, receive, map_bind]
  congr 1
  funext conn
  exact onMessageCalls_fst { s with conn } receiveTime httpCallback socket

/-- What is sent in the loop thread leaves the input alone. -/
theorem sendString_keeps {message : List UInt8} {result : WriteResult} {after : TcpConnection}
    (flows : conn.Flows) (object : message.length ≤ maxSize) (fits : result.Fits message.length)
    (done : conn.sendString .loop message result = .ok after) :
    after.Flows ∧ after.inputBuffer = conn.inputBuffer :=
  (TcpConnection.sendString_meets flows object fits).of_ok done

/-- A response leaves the input alone. -/
theorem onRequest_keeps {req : HttpRequest} {after : TcpConnection} (flows : conn.Flows)
    (fits : ∀ offered, (socket offered).Fits offered.length)
    (done : onRequest conn req httpCallback socket = .ok after) :
    after.Flows ∧ after.inputBuffer = conn.inputBuffer := by
  rw [onRequest] at done
  obtain ⟨buf, made, rest⟩ := bind_eq_ok.mp done
  obtain ⟨filled, appended, rest⟩ := bind_eq_ok.mp rest
  obtain ⟨sent, sending, rest⟩ := bind_eq_ok.mp rest
  have valid := ((Buffer.new_meets kInitialSize (by decide)).of_ok made).1
  have full := HttpResponse.appendAll_ok valid appended
  obtain ⟨order, same⟩ := sendString_keeps flows full.readable_le (fits _) sending
  obtain rfl := Except.ok.inj rest
  split
  · obtain ⟨closing, input⟩ := TcpConnection.shutdown_meets order
    exact ⟨closing, input.trans same⟩
  · exact ⟨order, same⟩

/-- What `onMessage` does after `parseRequest`. -/
theorem onMessageCalls_ok {context : HttpContext} {next : Buffer} {ok : Bool}
    (flows : s.conn.Flows) (fits : ∀ offered, (socket offered).Fits offered.length)
    (parsed : s.context.parseRequest s.conn.inputBuffer receiveTime = .ok (context, next, ok))
    (done : s.onMessageCalls receiveTime httpCallback socket = .ok (session, calls)) :
    session.conn.Flows ∧ session.conn.inputBuffer = next ∧
      (context.gotAll = true ∧ session.context = .new ∧ calls = [context.request] ∨
        context.gotAll = false ∧ session.context = context ∧ calls = []) := by
  rw [onMessageCalls, parsed, ok_bind] at done
  obtain ⟨answered, answering, rest⟩ := bind_eq_ok.mp done
  have input : TcpConnection.Flows { s.conn with inputBuffer := next } := flows.input next
  obtain ⟨order, same⟩ := (badRequest_meets input ok fits).of_ok answering
  split at rest
  next got =>
    obtain ⟨replied, replying, rest⟩ := bind_eq_ok.mp rest
    obtain ⟨kept, still⟩ := onRequest_keeps order fits replying
    cases rest
    exact ⟨kept, still.trans same, .inl ⟨got, rfl, rfl⟩⟩
  next other =>
    cases rest
    exact ⟨order, same, .inr ⟨Bool.eq_false_iff.mpr other, rfl, rfl⟩⟩

end HttpSession

/-- A connection of an HTTP server with what was received on it, and the requests for which the
callback was called. -/
structure HttpExchange where
  /-- The connection and its context. -/
  session : HttpSession
  /-- The bytes received. -/
  received : List UInt8
  /-- The requests dispatched. -/
  dispatched : List HttpRequest

namespace HttpExchange

/-- One step of a connection on which the client sends these requests. -/
inductive Step (requests : List RequestText) :
    HttpExchange → HttpSession.Action → HttpExchange → Prop
  | chunk {s : HttpExchange} {data : List UInt8} {receiveTime : Int} {httpCallback : HttpCallback}
      {socket : List UInt8 → WriteResult} {session : HttpSession} {calls : List HttpRequest}
      (handling : s.session.conn.Handling) (some : data ≠ [])
      (offered : data.length ≤ s.session.conn.inputBuffer.readvOffer)
      (fits : ∀ offered, (socket offered).Fits offered.length)
      (stream : s.received ++ data <+: RequestText.stream requests)
      (done : s.session.receiveCalls data receiveTime httpCallback socket =
        .ok (session, calls)) :
      Step requests s (.chunk data receiveTime httpCallback socket)
        { session, received := s.received ++ data, dispatched := s.dispatched ++ calls }
  | other {s : HttpExchange} {action : HttpSession.Action} {session : HttpSession}
      (step : HttpSession.Step s.session action session)
      (apart : ∀ data receiveTime httpCallback socket,
        action ≠ .chunk data receiveTime httpCallback socket) :
      Step requests s action { s with session }

/-- The callback was called for the requests that are complete in the bytes received, once for each
and in their order. -/
def Current (requests : List RequestText) (s : HttpExchange) : Prop :=
  s.dispatched.map HttpRequest.content =
    (RequestText.complete requests s.received.length).map RequestText.request

/-- A chunk completes at most one request, and none with the method `HEAD`. -/
def Paced (requests : List RequestText) (s : HttpExchange) : HttpSession.Action → Prop
  | .chunk data _ _ _ =>
    (RequestText.complete requests (s.received.length + data.length)).length ≤
        (RequestText.complete requests s.received.length).length + 1 ∧
      ∀ t ∈ RequestText.complete requests (s.received.length + data.length), t.method ≠ .kHead
  | _ => True

variable {requests : List RequestText} {s after : HttpExchange} {action : HttpSession.Action}

/-- A step is a step of the session. -/
theorem Step.session (step : Step requests s action after) :
    HttpSession.Step s.session action after.session := by
  cases step with
  | @chunk data receiveTime httpCallback socket session calls handling some offered fits _ done =>
    have received := s.session.receiveCalls_fst data receiveTime httpCallback socket
    rw [done] at received
    exact HttpSession.Attempt.step (.chunk handling some offered fits) received.symm
  | other step => exact step

/-- The requests dispatched, those that are not, and the bytes to come. -/
structure Place (requests : List RequestText) (s : HttpExchange) (front back : List RequestText)
    (future : List UInt8) : Prop where
  /-- The output of the connection. -/
  flows : s.session.conn.Flows
  /-- The input buffer is valid. -/
  input : s.session.conn.inputBuffer.Valid
  /-- The requests are these. -/
  parts : requests = front ++ back
  /-- The bytes received and those to come are the stream. -/
  whole : s.received ++ future = RequestText.stream requests
  /-- The dispatched requests are as the client wrote them. -/
  content : s.dispatched.map HttpRequest.content = front.map RequestText.request
  /-- `HEAD` is never dispatched. -/
  supported : ∀ t ∈ front, t.method ≠ .kHead
  /-- The parser is at the first of the requests that are not dispatched. -/
  ahead : HttpContext.Ahead back s.session.context
    (s.session.conn.inputBuffer.readable ++ future)

variable {front back : List RequestText} {future : List UInt8}

/-- The requests that are complete are the dispatched ones and those that are complete behind
them. -/
theorem Place.complete (place : s.Place requests front back future) :
    RequestText.complete requests s.received.length = front ++ RequestText.complete back
      ((RequestText.stream back).length - future.length) := by
  have length := place.ahead.length_le
  rw [List.length_append] at length
  exact RequestText.complete_received place.parts place.whole (by omega)

/-- All complete requests are dispatched when none is complete behind the dispatched ones. -/
theorem Place.current_iff (place : s.Place requests front back future) :
    s.Current requests ↔
      RequestText.complete back ((RequestText.stream back).length - future.length) = [] := by
  rw [Current, place.content, place.complete, List.map_append]
  constructor
  · intro same
    have length := congrArg List.length same
    rw [List.length_append, List.length_map, List.length_map] at length
    exact List.length_eq_zero_iff.mp (by omega)
  · intro none
    rw [none, List.map_nil, List.append_nil]

/-- What a chunk does: the first request behind the dispatched ones is not complete, or has the
method `HEAD`, and nothing is dispatched; or it is dispatched. -/
inductive Progress (requests : List RequestText) (front back : List RequestText)
    (after : HttpExchange) : Prop
  /-- Nothing is dispatched. -/
  | waits {future : List UInt8} (place : after.Place requests front back future)
      (incomplete : ∀ t rest, back = t :: rest → t.method ≠ .kHead →
        (RequestText.stream rest).length < future.length)
  /-- One request is dispatched. -/
  | dispatches {t : RequestText} {rest : List RequestText} {future : List UInt8}
      (place : after.Place requests (front ++ [t]) rest future)

/-- One chunk in a stream of requests. -/
theorem Place.chunk {data : List UInt8} {receiveTime : Int} {httpCallback : HttpCallback}
    {socket : List UInt8 → WriteResult} {session : HttpSession} {calls : List HttpRequest}
    (place : s.Place requests front back future) (some : data ≠ [])
    (offered : data.length ≤ s.session.conn.inputBuffer.readvOffer)
    (fits : ∀ offered, (socket offered).Fits offered.length)
    (stream : s.received ++ data <+: RequestText.stream requests)
    (done : s.session.receiveCalls data receiveTime httpCallback socket = .ok (session, calls)) :
    Progress requests front back
      { session, received := s.received ++ data, dispatched := s.dispatched ++ calls } := by
  obtain ⟨later, cut⟩ := stream
  have split : future = data ++ later := by
    have both := place.whole.trans cut.symm
    rw [List.append_assoc] at both
    exact List.append_cancel_left both
  obtain ⟨conn, reading, rest⟩ := bind_eq_ok.mp done
  obtain ⟨flows, valid, added⟩ :=
    (HttpSession.handleRead_meets place.flows place.input some offered).of_ok reading
  have ahead := place.ahead
  rw [split, ← List.append_assoc, ← added] at ahead
  obtain ⟨context, next, ok, parsed, nextValid, advances⟩ :=
    HttpContext.parseRequest_ahead receiveTime valid ahead
  obtain ⟨kept, input, answer⟩ :=
    HttpSession.onMessageCalls_ok (s := { s.session with conn }) flows fits parsed rest
  cases advances with
  | waits unfinished ahead incomplete =>
    obtain ⟨got, -⟩ | ⟨-, same, none⟩ := answer
    · cases unfinished.symm.trans got
    · refine .waits ⟨kept, ?_, place.parts, cut, ?_, place.supported, ?_⟩ incomplete
      · rw [input]
        exact nextValid
      · rw [none, List.append_nil]
        exact place.content
      · rw [input, same]
        exact ahead
  | @parses t others first supported finished content reads =>
    obtain ⟨-, fresh, called⟩ | ⟨other, -⟩ := answer
    · have further : Place requests ⟨session, s.received ++ data, s.dispatched ++ calls⟩
          (front ++ [t]) others later := by
        refine ⟨kept, ?_, ?_, cut, ?_, ?_, ?_⟩
        · rw [input]
          exact nextValid
        · rw [place.parts, first, List.append_assoc]
          rfl
        · rw [called, List.map_append, List.map_append, place.content]
          exact congrArg (_ ++ [·]) content
        · intro other member
          obtain old | new := List.mem_append.mp member
          · exact place.supported other old
          · rw [List.mem_singleton.mp new]
            exact supported
        · rw [input, fresh, reads]
          exact .line
      exact .dispatches further
    · cases other.symm.trans finished

/-- The server has kept up: the parser is behind the requests that are complete, and all of them are
dispatched. -/
def Following (requests : List RequestText) (s : HttpExchange) : Prop :=
  (∃ front back future, s.Place requests front back future) ∧ s.Current requests

/-- In a stream the first of the complete requests is the first request. -/
theorem complete_cases (remaining : List RequestText) (received : Nat) :
    RequestText.complete remaining received = [] ∨
      ∃ t rest more, remaining = t :: rest ∧
        RequestText.complete remaining received = t :: more := by
  cases remaining with
  | nil => exact .inl rfl
  | cons t rest =>
    rw [RequestText.complete]
    split
    · exact .inr ⟨t, rest, _, rfl, rfl⟩
    · exact .inl rfl

/-- After a chunk there is a place again. -/
theorem Progress.place (progress : Progress requests front back after) :
    ∃ front back future, after.Place requests front back future := by
  cases progress with
  | waits place => exact ⟨_, _, _, place⟩
  | dispatches place => exact ⟨_, _, _, place⟩

/-- After a chunk all complete requests are dispatched exactly if there is at most one more than
before the chunk, and none of them has the method `HEAD`. -/
theorem Progress.current_iff (progress : Progress requests front back after) :
    after.Current requests ↔
      (RequestText.complete requests after.received.length).length ≤ front.length + 1 ∧
        ∀ t ∈ RequestText.complete requests after.received.length, t.method ≠ .kHead := by
  cases progress with
  | @waits future place incomplete =>
    rw [place.current_iff, place.complete]
    obtain none | ⟨t, rest, more, first, some⟩ :=
      complete_cases back ((RequestText.stream back).length - future.length)
    · rw [none, List.append_nil]
      exact ⟨fun _ => ⟨Nat.le_succ _, place.supported⟩, fun _ => rfl⟩
    · constructor
      · intro none
        cases none.symm.trans some
      · intro ⟨_, supported⟩
        have known : t.method ≠ .kHead :=
          supported t (List.mem_append_right _ (some ▸ List.mem_cons_self))
        subst first
        exact RequestText.complete_none (incomplete t rest rfl known)
  | dispatches place =>
    rw [place.current_iff, place.complete]
    constructor
    · intro none
      rw [none, List.append_nil, List.length_append]
      exact ⟨Nat.le_refl _, place.supported⟩
    · intro ⟨few, _⟩
      rw [List.length_append, List.length_append, List.length_singleton] at few
      exact List.length_eq_zero_iff.mp (by omega)

/-- When the server has kept up, the requests that are complete are those at the front. -/
theorem Place.caught_up (place : s.Place requests front back future)
    (current : s.Current requests) :
    RequestText.complete requests s.received.length = front := by
  rw [place.complete, place.current_iff.mp current, List.append_nil]

/-- A step from a state in which the server has kept up: it leads to a place again, and the server
keeps up exactly if the step is paced. -/
theorem Step.follows (step : Step requests s action after) (following : s.Following requests) :
    (∃ front back future, after.Place requests front back future) ∧
      (after.Current requests ↔ s.Paced requests action) := by
  obtain ⟨⟨front, back, future, place⟩, current⟩ := following
  cases step with
  | @chunk data receiveTime httpCallback socket session calls handling some offered fits stream
      done =>
    have progress := place.chunk some offered fits stream done
    refine ⟨progress.place, ?_⟩
    rw [progress.current_iff, Paced, place.caught_up current, List.length_append]
  | @other action session step apart =>
    obtain ⟨flows, valid, same, context⟩ := step.still apart place.flows place.input
    refine ⟨⟨front, back, future, flows, valid, place.parts, place.whole, place.content,
      place.supported, ?_⟩, ?_⟩
    · dsimp only
      rw [same, context]
      exact place.ahead
    · have paced : s.Paced requests action := by
        cases action with
        | chunk data receiveTime httpCallback socket =>
          exact absurd rfl (apart data receiveTime httpCallback socket)
        | silence received => trivial
        | other action => trivial
      exact iff_of_true current paced

/-- The parser in a stream of well-formed requests is sound, and no method is left over. -/
theorem Place.sound (place : s.Place requests front back future) :
    s.session.Sound ∧ ¬s.session.context.HalfWritten := by
  have begun : (s.session.context.state = .kExpectRequestLine ∨
      s.session.context.state = .kExpectHeaders) ∧ ¬s.session.context.HalfWritten := by
    have ahead := place.ahead
    generalize s.session.context = context at ahead ⊢
    generalize s.session.conn.inputBuffer.readable ++ future = coming at ahead
    cases ahead with
    | line => exact ⟨.inl rfl, fun half => half.2 rfl⟩
    | headers supported split state content =>
      refine ⟨.inr state, fun half => ?_⟩
      cases state.symm.trans half.1
  exact ⟨⟨place.flows, place.input, begun.1, fun half => absurd half begun.2⟩, begun.2⟩

/-- On an established connection the server has kept up. -/
theorem established_following {address : ChannelId} {fd : Int} {poller : EpollPoller}
    {highWaterMark : Nat} {writeComplete highWater : Bool} {made conn : TcpConnection}
    {result : WriteResult} (unknown : poller.channels fd = none)
    (unwatched : poller.interest fd = none)
    (built : TcpConnection.new address fd poller highWaterMark writeComplete highWater = .ok made)
    (established : TcpConnection.Step made (.task result) conn) (requests : List RequestText) :
    Following requests ⟨⟨conn, .new⟩, [], []⟩ := by
  obtain ⟨flows, valid, empty⟩ :=
    HttpSession.established_input unknown unwatched built established
  have place : Place requests ⟨⟨conn, .new⟩, [], []⟩ [] requests
      (RequestText.stream requests) := by
    refine ⟨flows, valid, rfl, rfl, rfl, fun t member => absurd member List.not_mem_nil, ?_⟩
    dsimp only
    rw [empty]
    exact .line
  refine ⟨⟨_, _, _, place⟩, place.current_iff.mpr ?_⟩
  rw [Nat.sub_self]
  obtain none | ⟨t, rest, more, first, some⟩ := complete_cases requests 0
  · exact none
  · have positive := t.text_length_pos
    rw [first, RequestText.complete, if_neg (by omega)] at some
    cases some

/-- The server keeps up along every paced run. -/
theorem following_of_run {start : HttpExchange} {actions : List HttpSession.Action}
    {last : HttpExchange} (following : start.Following requests)
    (run : Run (Guarded (Step requests) (Paced requests)) start actions last) :
    last.Following requests := by
  refine run.invariant following fun before action after following taken => ?_
  obtain ⟨place, same⟩ := taken.1.follows following
  exact ⟨place, same.mpr taken.2⟩

/-- A chunk of a stream of well-formed requests is processed, unless there is no memory for it. -/
theorem Following.receives {data : List UInt8} {httpCallback : HttpCallback}
    {socket : List UInt8 → WriteResult} (following : s.Following requests) (receiveTime : Int)
    (handling : s.session.conn.Handling) (some : data ≠ [])
    (offered : data.length ≤ s.session.conn.inputBuffer.readvOffer)
    (fits : ∀ offered, (socket offered).Fits offered.length)
    (stream : s.received ++ data <+: RequestText.stream requests)
    (short : ∀ req close, (httpCallback req (.new close)).Short) :
    (∃ after, Step requests s (.chunk data receiveTime httpCallback socket) after) ∨
      s.session.receiveCalls data receiveTime httpCallback socket = .error .lengthError := by
  obtain ⟨⟨front, back, future, place⟩, -⟩ := following
  obtain ⟨sound, whole⟩ := place.sound
  have apart := s.session.receiveCalls_fst data receiveTime httpCallback socket
  have meets : Meets (s.session.receive data receiveTime httpCallback socket) HttpSession.Sound
      (· = .lengthError) := HttpSession.receive_meets sound whole some offered short fits
  cases outcome : s.session.receiveCalls data receiveTime httpCallback socket with
  | ok result => exact .inl ⟨_, .chunk handling some offered fits stream outcome⟩
  | error fault =>
    rw [outcome] at apart
    exact .inr (congrArg _ (meets.of_error apart.symm))

/-- Well-formed requests without a body on a connection of the server, in chunks: after every chunk
the callback has been called once for each request that is complete, in their order, exactly in the
runs in which every chunk completes at most one request and none with the method `HEAD`. In these
runs every chunk is processed, unless there is no memory for it, and how the bytes were cut into
chunks makes no difference. -/
theorem dispatched_iff_paced (address : ChannelId) (fd : Int) (poller : EpollPoller)
    (highWaterMark : Nat) (writeComplete highWater : Bool) (made conn : TcpConnection)
    (result : WriteResult) (unknown : poller.channels fd = none)
    (unwatched : poller.interest fd = none)
    (built : TcpConnection.new address fd poller highWaterMark writeComplete highWater = .ok made)
    (established : TcpConnection.Step made (.task result) conn) (requests : List RequestText)
    (actions : List HttpSession.Action) (last : HttpExchange) :
    (Run (Reaching (Step requests) (Current requests)) ⟨⟨conn, .new⟩, [], []⟩ actions last ↔
      Run (Guarded (Step requests) (Paced requests)) ⟨⟨conn, .new⟩, [], []⟩ actions last) ∧
    (Run (Guarded (Step requests) (Paced requests)) ⟨⟨conn, .new⟩, [], []⟩ actions last →
      (∀ data receiveTime httpCallback socket, last.session.conn.Handling → data ≠ [] →
        data.length ≤ last.session.conn.inputBuffer.readvOffer →
        (∀ offered, (socket offered).Fits offered.length) →
        last.received ++ data <+: RequestText.stream requests →
        (∀ req close, (httpCallback req (.new close)).Short) →
        (∃ after, Step requests last (.chunk data receiveTime httpCallback socket) after) ∨
          last.session.receiveCalls data receiveTime httpCallback socket =
            .error .lengthError) ∧
      ∀ others other,
        Run (Guarded (Step requests) (Paced requests)) ⟨⟨conn, .new⟩, [], []⟩ others other →
        other.received = last.received →
        other.dispatched.map HttpRequest.content = last.dispatched.map HttpRequest.content) := by
  have start := established_following unknown unwatched built established requests
  refine ⟨Run.reaching_iff start ?_ ?_, fun run => ⟨?_, ?_⟩⟩
  · intro before action after following step
    exact (step.follows following).2
  · intro before action after following taken
    exact following_of_run following (.cons taken (.nil _))
  · intro data receiveTime httpCallback socket handling some offered fits stream short
    exact (following_of_run start run).receives receiveTime handling some offered fits stream short
  · intro others other again same
    have first : last.Current requests := (following_of_run start run).2
    have second : other.Current requests := (following_of_run start again).2
    rw [Current, same] at second
    exact second.trans first.symm

/-- A request for the root without headers. -/
def rootRequest : RequestText where
  method := .kGet
  target := bytes "/"
  version := .kHttp11
  headers := []
  named := by decide
  known := by decide
  spaceless := by decide
  single := by decide
  names := fun _ member => absurd member List.not_mem_nil
  lines := fun _ member => absurd member List.not_mem_nil

/-- A callback that answers with an empty body and keeps the connection open. -/
def emptyReply : HttpCallback := fun _ resp =>
  { resp with statusCode := .k200ok, statusMessage := bytes "OK" }

set_option maxRecDepth 20000 in
/-- Two requests, of which the second chunk completes the first. -/
theorem dispatched_iff_paced_two :
    ∃ made conn last, TcpConnection.new 0 3 .new 65536 false false = .ok made ∧
      TcpConnection.Step made (.task (.failed 0 0)) conn ∧
      Run (Guarded (Step [rootRequest, rootRequest]) (Paced [rootRequest, rootRequest]))
        ⟨⟨conn, .new⟩, [], []⟩ [.other (.turn (some ⟨[0], 0⟩)),
          .chunk (bytes "GET / HT") 0 emptyReply HttpSession.takesAll,
          .chunk (bytes "TP/1.1\r\n\r\nGET ") 0 emptyReply HttpSession.takesAll] last ∧
      Run (Reaching (Step [rootRequest, rootRequest]) (Current [rootRequest, rootRequest]))
        ⟨⟨conn, .new⟩, [], []⟩ [.other (.turn (some ⟨[0], 0⟩)),
          .chunk (bytes "GET / HT") 0 emptyReply HttpSession.takesAll,
          .chunk (bytes "TP/1.1\r\n\r\nGET ") 0 emptyReply HttpSession.takesAll] last := by
  have reached : ∃ made conn last, TcpConnection.new 0 3 .new 65536 false false = .ok made ∧
      TcpConnection.Step made (.task (.failed 0 0)) conn ∧
      Run (Guarded (Step [rootRequest, rootRequest]) (Paced [rootRequest, rootRequest]))
        ⟨⟨conn, .new⟩, [], []⟩ [.other (.turn (some ⟨[0], 0⟩)),
          .chunk (bytes "GET / HT") 0 emptyReply HttpSession.takesAll,
          .chunk (bytes "TP/1.1\r\n\r\nGET ") 0 emptyReply HttpSession.takesAll] last := by
    rw [TcpConnection.new, Buffer.new_eq (by decide)]
    refine ⟨_, _, _, rfl, TcpConnection.Attempt.step (.task rfl (.inl rfl) ?_) rfl,
      .cons ⟨.other (HttpSession.Attempt.step (.other .turn id) rfl) ?_, trivial⟩
        (.cons ⟨.chunk ⟨_, rfl, rfl⟩ ?_ ?_ ?_ ?_ rfl, ?_⟩
          (.cons ⟨.chunk ⟨_, rfl, rfl⟩ ?_ ?_ ?_ ?_ rfl, ?_⟩ (.nil _)))⟩
    · intro message other
      cases other
    · intro data receiveTime httpCallback socket same
      cases same
    · exact List.cons_ne_nil _ _
    · decide +kernel
    · exact fun offered => Nat.le_refl _
    · decide +kernel
    · rw [Paced]
      decide +kernel
    · exact List.cons_ne_nil _ _
    · decide +kernel
    · exact fun offered => Nat.le_refl _
    · decide +kernel
    · rw [Paced]
      decide +kernel
  obtain ⟨made, conn, last, built, established, run⟩ := reached
  exact ⟨made, conn, last, built, established, run,
    (dispatched_iff_paced 0 3 .new 65536 false false made conn _ rfl rfl built established _ _
      last).1.mpr run⟩

set_option maxRecDepth 20000 in
/-- Two requests in one chunk: both are complete, and one is dispatched. -/
theorem second_request_waits :
    ∃ made conn last, TcpConnection.new 0 3 .new 65536 false false = .ok made ∧
      TcpConnection.Step made (.task (.failed 0 0)) conn ∧
      Run (Step [rootRequest, rootRequest]) ⟨⟨conn, .new⟩, [], []⟩
        [.other (.turn (some ⟨[0], 0⟩)),
          .chunk (bytes "GET / HTTP/1.1\r\n\r\nGET / HTTP/1.1\r\n\r\n") 0 emptyReply
            HttpSession.takesAll] last ∧
      RequestText.complete [rootRequest, rootRequest] last.received.length =
        [rootRequest, rootRequest] ∧
      last.dispatched.map HttpRequest.content = [rootRequest.request] ∧
      ¬last.Current [rootRequest, rootRequest] := by
  have reached : ∃ made conn last, TcpConnection.new 0 3 .new 65536 false false = .ok made ∧
      TcpConnection.Step made (.task (.failed 0 0)) conn ∧
      Run (Step [rootRequest, rootRequest]) ⟨⟨conn, .new⟩, [], []⟩
        [.other (.turn (some ⟨[0], 0⟩)),
          .chunk (bytes "GET / HTTP/1.1\r\n\r\nGET / HTTP/1.1\r\n\r\n") 0 emptyReply
            HttpSession.takesAll] last ∧
      RequestText.complete [rootRequest, rootRequest] last.received.length =
        [rootRequest, rootRequest] ∧
      last.dispatched.map HttpRequest.content = [rootRequest.request] := by
    rw [TcpConnection.new, Buffer.new_eq (by decide)]
    refine ⟨_, _, _, rfl, TcpConnection.Attempt.step (.task rfl (.inl rfl) ?_) rfl,
      .cons (.other (HttpSession.Attempt.step (.other .turn id) rfl) ?_)
        (.cons (.chunk ⟨_, rfl, rfl⟩ ?_ ?_ ?_ ?_ rfl) (.nil _)), rfl, rfl⟩
    · intro message other
      cases other
    · intro data receiveTime httpCallback socket same
      cases same
    · exact List.cons_ne_nil _ _
    · decide +kernel
    · exact fun offered => Nat.le_refl _
    · decide +kernel
  obtain ⟨made, conn, last, built, established, run, complete, dispatched⟩ := reached
  refine ⟨made, conn, last, built, established, run, complete, dispatched, fun current => ?_⟩
  rw [Current, dispatched, complete] at current
  cases congrArg List.length current

end HttpExchange

end Muduo
