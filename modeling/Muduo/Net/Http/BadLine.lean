import Muduo.Net.Http.HeaderSection
import Muduo.Net.Http.Server

/-!
# What leaves a method over

A context keeps a method without a request line exactly when the first line of the bytes it was
given names the method and is malformed behind it. The description is by the bytes alone.
-/

open Outcome

namespace Muduo

/-- What follows the method in a good request line: a target, a space and a version. -/
def IsTarget (text : List UInt8) : Prop :=
  ∃ target version, 32 ∉ target ∧ version ≠ HttpVersion.kUnknown ∧
    text = target ++ 32 :: versionString version

/-- A line that names `GET`, `POST`, `PUT` or `DELETE` before a space and is malformed behind it. -/
def BreaksOff (line : List UInt8) : Prop :=
  ∃ method text, method ≠ HttpMethod.kInvalid ∧ method ≠ .kHead ∧
    line = HttpRequest.methodString method ++ 32 :: text ∧ ¬IsTarget text

/-- The first line of the text is there with its end, and breaks off behind its method. -/
def BeginsBadly (text : List UInt8) : Prop :=
  ∃ line rest, ¬kCRLF <:+: line ∧ text = line ++ (kCRLF ++ rest) ∧ BreaksOff line

namespace HttpRequest

/-- The texts that `setMethod` knows. -/
theorem methodOf_known {name : List UInt8} (known : methodOf name ≠ .kInvalid) :
    ∃ method, method ≠ HttpMethod.kInvalid ∧ method ≠ .kHead ∧ name = methodString method := by
  rw [methodOf] at known
  split at known
  next same => exact ⟨.kGet, by decide, by decide, same⟩
  split at known
  next same => exact ⟨.kPost, by decide, by decide, same⟩
  split at known
  next same => exact ⟨.kPut, by decide, by decide, same⟩
  split at known
  next same => exact ⟨.kDelete, by decide, by decide, same⟩
  exact absurd rfl known

/-- The versions that `processRequestLine` knows. -/
theorem readVersion_good (r : HttpRequest) (text : List UInt8) :
    (r.readVersion text).2 = true ↔
      ∃ version ≠ HttpVersion.kUnknown, text = versionString version := by
  constructor
  · intro good
    rw [readVersion] at good
    split at good
    next prefixed =>
      have parts := (List.take_append_drop 7 text).symm
      rw [prefixed.2] at parts
      split at good
      next one => exact ⟨.kHttp11, by decide, by rw [parts, one]; rfl⟩
      split at good
      next zero => exact ⟨.kHttp10, by decide, by rw [parts, zero]; rfl⟩
      cases good
    · cases good
  · rintro ⟨version, known, rfl⟩
    rw [HttpContext.readVersion_eq r known]

/-- The version leaves the method as it is. -/
theorem readVersion_method (r : HttpRequest) (text : List UInt8) :
    (r.readVersion text).1.method = r.method := by
  rw [readVersion]
  split
  · split
    · rfl
    · split
      · rfl
      · rfl
  · rfl

/-- The part behind the method is good when it is a target, a space and a version. -/
theorem readRest_good (r : HttpRequest) (text : List UInt8) :
    (r.readRest text).2 = true ↔ IsTarget text := by
  by_cases space : 32 ∈ text
  · obtain ⟨target, back, rfl, absent⟩ := List.eq_append_cons_of_mem space
    have cut := Search.CutAt.of_not_mem absent back
    rw [readRest, cut.position, if_pos cut.inside, cut.before, cut.behind, readVersion_good]
    constructor
    · rintro ⟨version, known, rfl⟩
      exact ⟨target, version, absent, known, rfl⟩
    · rintro ⟨other, version, without, known, same⟩
      have also := Search.CutAt.of_not_mem without (versionString version)
      rw [← same] at also
      have front : target.length = other.length := cut.position.symm.trans also.position
      exact ⟨version, known, cut.behind.symm.trans (front ▸ also.behind)⟩
  · constructor
    · intro good
      rw [readRest, if_neg (not_not.mpr (List.idxOf_eq_length space))] at good
      cases good
    · rintro ⟨target, version, -, -, rfl⟩
      exact absurd (List.mem_append_right target List.mem_cons_self) space

/-- The part behind the method leaves the method as it is. -/
theorem readRest_method (r : HttpRequest) (text : List UInt8) :
    (r.readRest text).1.method = r.method := by
  rw [readRest]
  split
  · rw [readVersion_method, readTarget]
    split
    · rfl
    · rfl
  · rfl

end HttpRequest

/-- A line breaks off when `setMethod` knows what is before its first space, and what is behind the
space is malformed. -/
theorem breaksOff_iff {front : List UInt8} (absent : 32 ∉ front) (back : List UInt8) :
    BreaksOff (front ++ 32 :: back) ↔
      HttpRequest.methodOf front ≠ .kInvalid ∧ ¬IsTarget back := by
  have cut := Search.CutAt.of_not_mem absent back
  constructor
  · rintro ⟨method, text, named, head, same, bad⟩
    have also := Search.CutAt.of_not_mem (HttpContext.methodString_spaceless method) text
    rw [← same] at also
    have length := cut.position.symm.trans also.position
    have name : front = HttpRequest.methodString method :=
      cut.before.symm.trans (length ▸ also.before)
    have rest : back = text := cut.behind.symm.trans (length ▸ also.behind)
    rw [name, rest, HttpContext.methodOf_eq named, if_neg head]
    exact ⟨named, bad⟩
  · rintro ⟨known, bad⟩
    obtain ⟨method, named, head, rfl⟩ := HttpRequest.methodOf_known known
    exact ⟨method, back, named, head, rfl, bad⟩

/-- A line that breaks off has a space. -/
theorem BreaksOff.space {line : List UInt8} (breaks : BreaksOff line) : 32 ∈ line := by
  obtain ⟨method, text, -, -, rfl, -⟩ := breaks
  exact List.mem_append_right _ List.mem_cons_self

namespace HttpContext

variable {b : Buffer}

/-- A request line is bad and leaves its method in a fresh request when it breaks off. -/
theorem processRequestLine_breaks {r after : HttpRequest} (fresh : r.method = .kInvalid)
    {line : List UInt8} {ok : Bool} (done : processRequestLine r line = .ok (after, ok)) :
    ok = false ∧ after.method ≠ .kInvalid ↔ BreaksOff line := by
  by_cases space : 32 ∈ line
  · obtain ⟨front, back, rfl, absent⟩ := List.eq_append_cons_of_mem space
    have cut := Search.CutAt.of_not_mem absent back
    rw [breaksOff_iff absent]
    rw [processRequestLine] at done
    dsimp only at done
    rw [cut.position, if_pos cut.inside, cut.before, cut.behind, HttpRequest.setMethod, fresh,
      BEq.rfl, ensure_true] at done
    simp only [ok_bind] at done
    by_cases known : HttpRequest.methodOf front = .kInvalid
    · rw [known] at done
      cases done
      simp [known]
    · rw [if_pos (bne_iff_ne.mpr known)] at done
      have result := Except.ok.inj done
      have good := HttpRequest.readRest_good
        { r with method := HttpRequest.methodOf front } back
      have kept := HttpRequest.readRest_method
        { r with method := HttpRequest.methodOf front } back
      rw [result] at good kept
      rw [← good, kept]
      simp [known]
  · rw [processRequestLine] at done
    dsimp only at done
    rw [if_neg (not_not.mpr (List.idxOf_eq_length space))] at done
    cases done
    exact ⟨fun left => absurd fresh left.2, fun breaks => absurd breaks.space space⟩

/-- A call of `parseRequest` that looks for the request line leaves a method over when the first
line of the buffer breaks off behind it. -/
theorem parseRequest_half_iff {receiveTime : Int} {c after : HttpContext} {rest : Buffer}
    {ok : Bool} (valid : b.Valid) (waits : c.state = .kExpectRequestLine)
    (fresh : c.request.method = .kInvalid)
    (done : c.parseRequest b receiveTime = .ok (after, rest, ok)) :
    after.HalfWritten ↔ BeginsBadly b.readable := by
  rw [parseRequest, parseLoop] at done
  simp only [waits] at done
  obtain ⟨found, none⟩ | ⟨line, crlf, next, found, same, single, taken, nextValid, parts, less⟩ :=
    read_line valid
  · simp only [found] at done
    cases done
    refine ⟨fun half => absurd fresh half.2, fun begins => ?_⟩
    obtain ⟨line, others, -, text, -⟩ := begins
    refine absurd ?_ none
    rw [text]
    exact ⟨line, others, List.append_assoc _ _ _⟩
  · have first : BeginsBadly b.readable ↔ BreaksOff line := by
      refine ⟨fun begins => ?_, fun breaks => ⟨line, next.readable, single, parts, breaks⟩⟩
      obtain ⟨other, others, alone, text, breaks⟩ := begins
      have length : line.length = other.length := by
        rw [← search_line single next.readable, ← search_line alone others, ← parts, ← text]
      rw [← (List.append_inj (parts.symm.trans text) length).1] at breaks
      exact breaks
    obtain ⟨request, good, processed, -⟩ := processRequestLine_fresh fresh line
    have breaks := processRequestLine_breaks fresh processed
    simp only [found, same, processed, ok_bind] at done
    rw [first, ← breaks]
    cases good with
    | true =>
      simp only [↓reduceIte, taken, ok_bind] at done
      obtain ⟨last, left, lines, text, finished, -, -, -, -, stops⟩ :=
        parseLoop_stops receiveTime nextValid (c := ⟨.kExpectHeaders, { request with receiveTime }⟩)
          rfl less
      rw [finished] at done
      cases done
      refine ⟨fun half => ?_, fun left => absurd left.1 (by decide)⟩
      rw [half.1] at stops
      cases stops
    | false =>
      simp only [Bool.false_eq_true, ↓reduceIte] at done
      cases done
      exact ⟨fun half => ⟨rfl, half.2⟩, fun left => ⟨rfl, left.2⟩⟩

/-- A call of `parseRequest` that looks for a header leaves no method over. -/
theorem parseRequest_headers_whole {receiveTime : Int} {c after : HttpContext} {rest : Buffer}
    {ok : Bool} (valid : b.Valid) (state : c.state = .kExpectHeaders)
    (done : c.parseRequest b receiveTime = .ok (after, rest, ok)) : ¬after.HalfWritten := by
  obtain ⟨last, left, lines, text, finished, -, -, -, -, stops⟩ :=
    parseLoop_stops receiveTime valid state (Nat.lt_succ_self _)
  rw [parseRequest, finished] at done
  cases done
  intro half
  rw [half.1] at stops
  cases stops

end HttpContext

namespace HttpSession

variable {s after : HttpSession} {receiveTime : Int} {httpCallback : HttpCallback}
  {socket : List UInt8 → WriteResult}

/-- `onMessage` leaves a method over when `parseRequest` does. -/
theorem onMessage_context (done : s.onMessage receiveTime httpCallback socket = .ok after) :
    ∃ context rest ok,
      s.context.parseRequest s.conn.inputBuffer receiveTime = .ok (context, rest, ok) ∧
        (after.context.HalfWritten ↔ context.HalfWritten) := by
  rw [onMessage] at done
  obtain ⟨⟨context, rest, ok⟩, parsed, answering⟩ := bind_eq_ok.mp done
  obtain ⟨answered, -, finished⟩ := bind_eq_ok.mp answering
  refine ⟨context, rest, ok, parsed, ?_⟩
  by_cases all : context.state = .kGotAll
  · have got : context.gotAll = true := beq_iff_eq.mpr all
    simp only [got, ↓reduceIte] at finished
    obtain ⟨replied, -, last⟩ := bind_eq_ok.mp finished
    cases last
    refine ⟨fun half => absurd rfl half.2, fun half => ?_⟩
    rw [HttpContext.HalfWritten, all] at half
    cases half.1
  · have got : context.gotAll = false := beq_eq_false_iff_ne.mpr all
    simp only [got, Bool.false_eq_true, ↓reduceIte] at finished
    cases finished
    rfl

/-- A chunk that is processed leaves a method over exactly when the parser looked for a request line
and the unread input with the chunk begins with a line that breaks off behind its method. -/
theorem Step.half_iff {data : List UInt8} (sound : s.Sound) (whole : ¬s.context.HalfWritten)
    (taken : Step s (.chunk data receiveTime httpCallback socket) after) :
    after.context.HalfWritten ↔ s.context.state = .kExpectRequestLine ∧
      BeginsBadly (s.conn.inputBuffer.readable ++ data) := by
  rw [Step] at taken
  generalize result : (Except.ok after : Except Fault HttpSession) = outcome at taken
  cases taken with
  | chunk handling some offered fits =>
    rw [receive] at result
    obtain ⟨conn, read, processed⟩ := bind_eq_ok.mp result.symm
    obtain ⟨-, valid, added⟩ := (handleRead_meets sound.flows sound.input some offered).of_ok read
    obtain ⟨context, rest, ok, parsed, same⟩ := onMessage_context processed
    rw [same, ← added]
    obtain line | headers := sound.begun
    · have fresh : s.context.request.method = .kInvalid := by
        by_contra named
        exact whole ⟨line, named⟩
      rw [HttpContext.parseRequest_half_iff valid line fresh parsed]
      exact ⟨fun bad => ⟨line, bad⟩, fun both => both.2⟩
    · have none := HttpContext.parseRequest_headers_whole valid headers parsed
      refine ⟨fun half => absurd half none, fun both => ?_⟩
      rw [headers] at both
      cases both.1

end HttpSession

end Muduo
