import Muduo.Net.Http.Pipeline

/-!
# The loop of `parseRequest` ends

The loop looks for a line in two of its four states, and in the other two it turns for ever. A line
that is taken has at least the two bytes of its end, so the readable bytes bound the number of
turns. The server resets a context as soon as it has a whole request, so no chunk finds it in a
state without progress.
-/

open Outcome Transition

namespace Muduo

namespace HttpContext

/-- The states in which the loop looks for a line. -/
def Begun (c : HttpContext) : Prop :=
  c.state = .kExpectRequestLine ∨ c.state = .kExpectHeaders

/-- The body of the loop of `parseRequest`, with the value of `ok` when it has set `hasMore` to
false. -/
def iteration (receiveTime : Int) (c : HttpContext) (buf : Buffer) :
    Except Fault (HttpContext × Buffer × Option Bool) :=
  match c.state with
  | .kExpectRequestLine =>
    match buf.findCRLF with
    | some crlf => do
      let (request, ok) ← processRequestLine c.request (lineTo buf crlf)
      if ok then
        let rest ← buf.retrieveUntil (crlf + 2)
        .ok (⟨.kExpectHeaders, { request with receiveTime }⟩, rest, none)
      else
        .ok ({ c with request }, buf, some false)
    | none => .ok (c, buf, some true)
  | .kExpectHeaders =>
    match buf.findCRLF with
    | some crlf => do
      let line := lineTo buf crlf
      let colon := line.idxOf 58
      let rest ← buf.retrieveUntil (crlf + 2)
      if colon ≠ line.length then
        .ok ({ c with request := c.request.addHeader line colon }, rest, none)
      else
        .ok ({ c with state := .kGotAll }, rest, some true)
    | none => .ok (c, buf, some true)
  | .kExpectBody => .ok (c, buf, none)
  | .kGotAll => .ok (c, buf, none)

/-- The loop goes on, or returns. -/
def goOn (receiveTime : Int) (times : Nat) (result : HttpContext × Buffer × Option Bool) :
    Except Fault (HttpContext × Buffer × Bool) :=
  match result with
  | (c, buf, none) => parseLoop receiveTime times c buf
  | (c, buf, some ok) => .ok (c, buf, ok)

/-- The loop repeats its body. -/
theorem parseLoop_iteration (receiveTime : Int) (times : Nat) (c : HttpContext) (buf : Buffer) :
    parseLoop receiveTime (times + 1) c buf =
      iteration receiveTime c buf >>= goOn receiveTime times := by
  rw [parseLoop, iteration]
  cases c.state with
  | kExpectRequestLine =>
    dsimp only
    cases buf.findCRLF with
    | none => rfl
    | some crlf =>
      dsimp only
      cases processRequestLine c.request (lineTo buf crlf) with
      | error fault => rfl
      | ok result =>
        obtain ⟨request, ok⟩ := result
        cases ok with
        | false => rfl
        | true =>
          change (buf.retrieveUntil (crlf + 2) >>= _) = ((buf.retrieveUntil (crlf + 2) >>= _) >>= _)
          cases buf.retrieveUntil (crlf + 2) <;> rfl
  | kExpectHeaders =>
    dsimp only
    cases buf.findCRLF with
    | none => rfl
    | some crlf =>
      dsimp only
      cases buf.retrieveUntil (crlf + 2) with
      | error fault => rfl
      | ok rest =>
        rw [ok_bind, ok_bind]
        split <;> rfl
  | kExpectBody => rfl
  | kGotAll => rfl

/-- Outside the two states the loop does not end. -/
theorem parseLoop_endless (receiveTime : Int) {c : HttpContext} (waits : ¬c.Begun) (times : Nat)
    (b : Buffer) : parseLoop receiveTime times c b = .error .endless := by
  induction times with
  | zero => rfl
  | succ times ih =>
    rw [parseLoop]
    cases state : c.state with
    | kExpectRequestLine => exact absurd (.inl state) waits
    | kExpectHeaders => exact absurd (.inr state) waits
    | kExpectBody => exact ih
    | kGotAll => exact ih

/-- A request line is processed without a loop. -/
theorem processRequestLine_meets (r : HttpRequest) (line : List UInt8) :
    Meets (processRequestLine r line) (fun _ => True) (· ≠ .endless) := by
  rw [processRequestLine]
  dsimp only
  split
  · rw [HttpRequest.setMethod, ensure]
    split
    · rw [ok_bind, ok_bind]
      dsimp only
      split
      · exact .ok trivial
      · exact .ok trivial
    · refine .error fun same => ?_
      cases same
  · exact .ok trivial

/-- What one iteration leaves: it stops the loop, or it has taken at least two bytes. -/
structure Advanced (b : Buffer) (result : HttpContext × Buffer × Option Bool) : Prop where
  /-- The buffer is valid. -/
  valid : result.2.1.Valid
  /-- No iteration leads to this state. -/
  reached : result.1.state ≠ .kExpectBody
  /-- Where the loop goes on, it looks for a line in fewer bytes. -/
  shorter : result.2.2 = none →
    result.1.Begun ∧ result.2.1.readableBytes + 2 ≤ b.readableBytes

/-- One iteration in a state that looks for a line. -/
theorem iteration_meets (receiveTime : Int) {c : HttpContext} (begun : c.Begun) {b : Buffer}
    (valid : b.Valid) : Meets (iteration receiveTime c b) (Advanced b) (· ≠ .endless) := by
  rw [iteration]
  obtain line | headers := begun
  · simp only [line]
    split
    next crlf found =>
      obtain ⟨rest, taken, restValid, shorter⟩ := retrieveUntil_line valid found
      refine (processRequestLine_meets c.request (lineTo b crlf)).bind fun result _ => ?_
      obtain ⟨request, ok⟩ := result
      simp only [taken, ok_bind]
      split
      · exact .ok ⟨restValid, nofun, fun _ => ⟨.inr rfl, shorter⟩⟩
      · exact .ok ⟨valid, nofun, nofun⟩
    next => exact .ok ⟨valid, (fun body => nomatch line.symm.trans body), nofun⟩
  · simp only [headers]
    split
    next crlf found =>
      obtain ⟨rest, taken, restValid, shorter⟩ := retrieveUntil_line valid found
      simp only [taken, ok_bind]
      split
      · exact .ok ⟨restValid, nofun, fun _ => ⟨.inr rfl, shorter⟩⟩
      · exact .ok ⟨restValid, nofun, nofun⟩
    next => exact .ok ⟨valid, (fun body => nomatch headers.symm.trans body), nofun⟩

/-- With more turns than readable bytes, the loop ends. -/
theorem parseLoop_meets (receiveTime : Int) {times : Nat} {c : HttpContext} (begun : c.Begun)
    {b : Buffer} (valid : b.Valid) (enough : b.readableBytes < times) :
    Meets (parseLoop receiveTime times c b)
      (fun result => result.2.1.Valid ∧ result.1.state ≠ .kExpectBody) (· ≠ .endless) := by
  induction times generalizing c b with
  | zero => cases enough
  | succ times ih =>
    rw [parseLoop_iteration]
    refine (iteration_meets receiveTime begun valid).bind fun result advanced => ?_
    obtain ⟨next, rest, stop⟩ := result
    cases stop with
    | some ok => exact .ok ⟨advanced.valid, advanced.reached⟩
    | none =>
      obtain ⟨again, shorter⟩ := advanced.shorter rfl
      dsimp only at shorter
      exact ih again advanced.valid (by omega)

/-- The number of turns does not matter when it is more than the number of readable bytes. -/
theorem parseLoop_times (receiveTime : Int) {times others : Nat} {c : HttpContext}
    (begun : c.Begun) {b : Buffer} (valid : b.Valid) (enough : b.readableBytes < times)
    (also : b.readableBytes < others) :
    parseLoop receiveTime times c b = parseLoop receiveTime others c b := by
  induction times generalizing c b others with
  | zero => cases enough
  | succ times ih =>
    obtain ⟨others, rfl⟩ := Nat.exists_eq_succ_of_ne_zero (Nat.ne_zero_of_lt also)
    rw [Nat.succ_eq_add_one, parseLoop_iteration, parseLoop_iteration]
    obtain ⟨⟨next, rest, stop⟩, done, advanced⟩ | ⟨fault, stopped, -⟩ :=
      (iteration_meets receiveTime begun valid).split
    · rw [done, ok_bind, ok_bind]
      cases stop with
      | some ok => rfl
      | none =>
        obtain ⟨again, shorter⟩ := advanced.shorter rfl
        dsimp only at shorter
        exact ih again advanced.valid (by omega) (by omega)
    · rw [stopped]
      rfl

/-- A context without a whole request looks for a line. -/
theorem begun_of_unfinished {c : HttpContext} (unfinished : c.gotAll = false)
    (reached : c.state ≠ .kExpectBody) : c.Begun := by
  cases state : c.state with
  | kExpectRequestLine => exact .inl state
  | kExpectHeaders => exact .inr state
  | kExpectBody => exact absurd state reached
  | kGotAll =>
    rw [gotAll, state] at unfinished
    cases unfinished

/-- The loop of `parseRequest` ends: there is one result for all sufficiently large numbers of
turns, and `parseRequest` returns it. -/
def Ends (receiveTime : Int) (c : HttpContext) (b : Buffer) : Prop :=
  c.parseRequest b receiveTime ≠ .error .endless ∧
    ∀ times, b.readableBytes < times →
      parseLoop receiveTime times c b = c.parseRequest b receiveTime

/-- `parseRequest` ends in the two states. -/
theorem Begun.ends (receiveTime : Int) {c : HttpContext} (begun : c.Begun) {b : Buffer}
    (valid : b.Valid) : Ends receiveTime c b := by
  refine ⟨fun endless => ?_, fun times enough => ?_⟩
  · exact (parseLoop_meets receiveTime begun valid (Nat.lt_succ_self _)).of_error endless rfl
  · exact parseLoop_times receiveTime begun valid enough (Nat.lt_succ_self _)

end HttpContext

namespace HttpSession

open HttpContext HttpServer

/-- The connection is in order, and the parser looks for a line. -/
structure Waiting (s : HttpSession) : Prop where
  /-- The output of the connection. -/
  flows : s.conn.Flows
  /-- The input buffer is valid. -/
  input : s.conn.inputBuffer.Valid
  /-- The parser looks for a line. -/
  begun : s.context.Begun

variable {s : HttpSession} {conn : TcpConnection}

/-- A chunk that is processed leaves the parser looking for a line, whatever it holds. -/
theorem Waiting.chunk {data : List UInt8} {receiveTime : Int} {httpCallback : HttpCallback}
    {socket : List UInt8 → WriteResult} {after : HttpSession} (waiting : s.Waiting)
    (some : data ≠ []) (offered : data.length ≤ s.conn.inputBuffer.readvOffer)
    (fits : ∀ offered, (socket offered).Fits offered.length)
    (done : s.receive data receiveTime httpCallback socket = .ok after) : after.Waiting := by
  obtain ⟨conn, read, answered⟩ := bind_eq_ok.mp done
  obtain ⟨flows, valid, -⟩ := (handleRead_meets waiting.flows waiting.input some offered).of_ok read
  have calls := onMessageCalls_fst { s with conn } receiveTime httpCallback socket
  rw [answered] at calls
  cases called : onMessageCalls { s with conn } receiveTime httpCallback socket with
  | error fault =>
    rw [called] at calls
    cases calls
  | ok result =>
    obtain ⟨session, requests⟩ := result
    rw [called] at calls
    obtain rfl := Except.ok.inj calls
    obtain ⟨⟨context, next, ok⟩, parsed, -⟩ := bind_eq_ok.mp called
    obtain ⟨nextValid, reached⟩ := (parseLoop_meets receiveTime waiting.begun valid
      (Nat.lt_succ_self _)).of_ok parsed
    obtain ⟨order, input, context⟩ := onMessageCalls_ok flows fits parsed called
    dsimp only at nextValid reached
    refine ⟨order, ?_, ?_⟩
    · rw [input]
      exact nextValid
    · obtain ⟨-, fresh, -⟩ | ⟨unfinished, same, -⟩ := context
      · rw [fresh]
        exact .inl rfl
      · rw [same]
        exact begun_of_unfinished unfinished reached

/-- Every step leaves the parser looking for a line. -/
theorem Step.waiting {action : Action} {after : HttpSession} (step : Step s action after)
    (waiting : s.Waiting) : after.Waiting := by
  have still (apart : ∀ data receiveTime httpCallback socket,
      action ≠ .chunk data receiveTime httpCallback socket) : after.Waiting := by
    obtain ⟨flows, valid, -, context⟩ := step.still apart waiting.flows waiting.input
    exact ⟨flows, valid, context ▸ waiting.begun⟩
  cases action with
  | chunk data receiveTime httpCallback socket =>
    have attempt : Attempt s (.chunk data receiveTime httpCallback socket) (.ok after) := step
    generalize outcome : Except.ok after = result at attempt
    cases attempt with
    | chunk handling some offered fits => exact waiting.chunk some offered fits outcome.symm
  | silence received => exact still nofun
  | other action => exact still nofun

/-- Whatever arrives on a connection of the server: `parseRequest` is called only in the two states
in which its loop looks for a line, and it ends there. The loop repeats its iteration, and each
iteration in these states stops the loop or takes at least two bytes from the buffer; in the other
states the loop would not end. -/
theorem parseRequest_ends (address : ChannelId) (fd : Int) (poller : EpollPoller)
    (highWaterMark : Nat) (writeComplete highWater : Bool) (made conn : TcpConnection)
    (result : WriteResult) (unknown : poller.channels fd = none)
    (unwatched : poller.interest fd = none)
    (built : TcpConnection.new address fd poller highWaterMark writeComplete highWater = .ok made)
    (established : TcpConnection.Step made (.task result) conn) (actions : List Action)
    (s : HttpSession) (run : Run Step ⟨conn, .new⟩ actions s) :
    s.context.Begun ∧
    (∀ data conn receiveTime, data ≠ [] → data.length ≤ s.conn.inputBuffer.readvOffer →
      s.conn.handleRead (.ok data) = .ok conn → Ends receiveTime s.context conn.inputBuffer) ∧
    (∀ (c : HttpContext) (b : Buffer) receiveTime times, parseLoop receiveTime (times + 1) c b =
      iteration receiveTime c b >>= goOn receiveTime times) ∧
    (∀ (c : HttpContext) (b : Buffer) receiveTime, c.Begun → b.Valid →
      Meets (iteration receiveTime c b) (Advanced b) (· ≠ .endless) ∧ Ends receiveTime c b) ∧
    ∀ (c : HttpContext) (b : Buffer) receiveTime times, ¬c.Begun →
      parseLoop receiveTime times c b = .error .endless := by
  have sound := established_sound unknown unwatched built established
  have waiting : s.Waiting := run.invariant
    (⟨sound.flows, sound.input, sound.begun⟩ : Waiting ⟨conn, .new⟩)
    fun _ _ _ waiting step => step.waiting waiting
  refine ⟨waiting.begun, ?_, ?_, ?_, ?_⟩
  · intro data conn receiveTime some offered read
    obtain ⟨-, valid, -⟩ := (handleRead_meets waiting.flows waiting.input some offered).of_ok read
    exact waiting.begun.ends receiveTime valid
  · intro c b receiveTime times
    exact parseLoop_iteration receiveTime times c b
  · intro c b receiveTime begun valid
    exact ⟨iteration_meets receiveTime begun valid, begun.ends receiveTime valid⟩
  · intro c b receiveTime times waits
    exact parseLoop_endless receiveTime waits times b

set_option maxRecDepth 20000 in
/-- After a chunk that ends inside a header line. -/
theorem parseRequest_ends_in_headers :
    ∃ made conn s, TcpConnection.new 0 3 .new 65536 false false = .ok made ∧
      TcpConnection.Step made (.task (.failed 0 0)) conn ∧
      Run Step ⟨conn, .new⟩ [.other (.turn (some ⟨[0], 0⟩)),
        .chunk (bytes "GET / HTTP/1.1\r\nA:") 0 defaultHttpCallback takesAll] s ∧
      s.context.state = .kExpectHeaders ∧ s.context.Begun := by
  have reached : ∃ made conn s, TcpConnection.new 0 3 .new 65536 false false = .ok made ∧
      TcpConnection.Step made (.task (.failed 0 0)) conn ∧
      Run Step ⟨conn, .new⟩ [.other (.turn (some ⟨[0], 0⟩)),
        .chunk (bytes "GET / HTTP/1.1\r\nA:") 0 defaultHttpCallback takesAll] s ∧
      s.context.state = .kExpectHeaders := by
    rw [TcpConnection.new, Buffer.new_eq (by decide)]
    refine ⟨_, _, _, rfl, TcpConnection.Attempt.step (.task rfl (.inl rfl) ?_) rfl,
      .cons (Attempt.step (.other .turn id) rfl)
        (.cons (Attempt.step (.chunk ⟨_, rfl, rfl⟩ ?_ ?_ ?_) rfl) (.nil _)), rfl⟩
    · intro message other
      cases other
    · exact List.cons_ne_nil _ _
    · decide +kernel
    · exact fun offered => Nat.le_refl _
  obtain ⟨made, conn, s, built, established, run, headers⟩ := reached
  exact ⟨made, conn, s, built, established, run, headers,
    (parseRequest_ends 0 3 .new 65536 false false made conn _ rfl rfl built established _ s run).1⟩

end HttpSession

end Muduo
