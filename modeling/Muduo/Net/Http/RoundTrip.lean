import Muduo.Net.Http.Message

/-!
# Requests that are read back as they were written

A `WireRequest` has its path, its query and its headers apart, with what keeps them apart in the
text as its fields. A fresh parser takes the text of a request from the front of a buffer, neither
less nor more, and has what the request was written from.
-/

open Outcome

namespace Muduo

namespace StringMap

variable {name key value : List UInt8} {map : StringMap}

/-- The keys are in order, and no key is there twice. -/
def Sorted (map : StringMap) : Prop := map.Pairwise fun one other => one.1 < other.1

/-- Looking up a name from the front. -/
theorem lookup_pair (name key value : List UInt8) (rest : StringMap) :
    List.lookup name ((key, value) :: rest) =
      if name = key then some value else rest.lookup name := by
  rw [List.lookup_cons]
  by_cases here : name = key
  · rw [if_pos here, beq_iff_eq.mpr here]
  · rw [if_neg here, beq_eq_false_iff_ne.mpr here]

/-- What a map has after an assignment. -/
theorem lookup_set (name key value : List UInt8) (map : StringMap) :
    (map.set key value).lookup name = if name = key then some value else map.lookup name := by
  induction map with
  | nil => exact lookup_pair name key value []
  | cons pair rest ih =>
    obtain ⟨other, old⟩ := pair
    rw [set]
    by_cases same : key = other
    · subst same
      rw [if_pos rfl, lookup_pair, lookup_pair]
      by_cases here : name = key
      · rw [if_pos here, if_pos here]
      · rw [if_neg here, if_neg here, if_neg here]
    · rw [if_neg same]
      by_cases before : key < other
      · rw [if_pos before, lookup_pair]
      · rw [if_neg before, lookup_pair, lookup_pair, ih]
        by_cases here : name = other
        · have apart : name ≠ key := fun also => same (also.symm.trans here)
          rw [if_pos here, if_neg apart, if_pos here]
        · rw [if_neg here, if_neg here]

/-- The pairs of a map after an assignment. -/
theorem mem_set {pair : List UInt8 × List UInt8} (member : pair ∈ map.set key value) :
    pair = (key, value) ∨ pair ∈ map := by
  induction map with
  | nil => exact .inl (List.mem_singleton.mp member)
  | cons first rest ih =>
    obtain ⟨other, old⟩ := first
    rw [set] at member
    split at member
    · obtain rfl | later := List.mem_cons.mp member
      · exact .inl rfl
      · exact .inr (List.mem_cons_of_mem _ later)
    · split at member
      · obtain rfl | later := List.mem_cons.mp member
        · exact .inl rfl
        · exact .inr later
      · obtain rfl | later := List.mem_cons.mp member
        · exact .inr List.mem_cons_self
        · exact (ih later).imp_right (List.mem_cons_of_mem _)

/-- An assignment keeps the order of the keys. -/
theorem Sorted.set (sorted : Sorted map) (key value : List UInt8) : Sorted (map.set key value) := by
  induction map with
  | nil => exact List.pairwise_singleton _ _
  | cons first rest ih =>
    obtain ⟨other, old⟩ := first
    obtain ⟨least, increasing⟩ := List.pairwise_cons.mp sorted
    rw [StringMap.set]
    by_cases same : key = other
    · rw [if_pos same, same]
      exact List.pairwise_cons.mpr ⟨least, increasing⟩
    · rw [if_neg same]
      by_cases before : key < other
      · rw [if_pos before]
        refine List.pairwise_cons.mpr ⟨fun pair member => ?_, sorted⟩
        obtain rfl | later := List.mem_cons.mp member
        · exact before
        · exact List.lt_trans before (least pair later)
      · rw [if_neg before]
        refine List.pairwise_cons.mpr ⟨fun pair member => ?_, ih increasing⟩
        obtain here | later := mem_set member
        · have after : other < key := by
            obtain less | equal := List.le_iff_lt_or_eq.mp (List.not_lt.mp before)
            · exact less
            · exact absurd equal.symm same
          rw [here]
          exact after
        · exact least pair later

end StringMap

/-- A header as it is written: a name, a colon, any number of spaces, and a value. -/
structure HeaderField where
  /-- The name. -/
  name : List UInt8
  /-- The number of spaces after the colon. -/
  spaces : Nat
  /-- The value. -/
  value : List UInt8
  /-- The name has no colon. -/
  colonless : 58 ∉ name
  /-- The name has no end of a line inside. -/
  nameSingle : ¬kCRLF <:+: name
  /-- The value has no end of a line inside. -/
  valueSingle : ¬kCRLF <:+: value
  /-- The value does not start with white space. -/
  begins : ∀ byte ∈ value.head?, isspace byte = false
  /-- The value does not end with white space. -/
  ends : ∀ byte ∈ value.getLast?, isspace byte = false

namespace HeaderField

/-- What is written after the colon. -/
def padded (field : HeaderField) : List UInt8 := List.replicate field.spaces 32 ++ field.value

/-- The header line with its end. -/
def text (field : HeaderField) : List UInt8 := field.name ++ 58 :: (field.padded ++ kCRLF)

/-- The value that headers give last for a name. -/
def lastValue (fields : List HeaderField) (name : List UInt8) : Option (List UInt8) :=
  (fields.reverse.find? fun field => field.name = name).map value

end HeaderField

/-- A request as it is written. -/
structure WireRequest where
  /-- The method. -/
  method : HttpMethod
  /-- The path. -/
  path : List UInt8
  /-- The query, with its question mark. -/
  query : List UInt8
  /-- The version. -/
  version : HttpVersion
  /-- The headers. -/
  fields : List HeaderField
  /-- The method is one of these. -/
  supported : method ∈ [.kGet, .kPost, .kPut, .kDelete]
  /-- The version is one of these. -/
  known : version ∈ [.kHttp10, .kHttp11]
  /-- The path has no space. -/
  pathSpaceless : 32 ∉ path
  /-- The path has no question mark. -/
  questionless : 63 ∉ path
  /-- The path has no end of a line inside. -/
  pathSingle : ¬kCRLF <:+: path
  /-- The query is empty or starts with a question mark. -/
  asked : query = [] ∨ query.head? = some 63
  /-- The query has no space. -/
  querySpaceless : 32 ∉ query
  /-- The query has no end of a line inside. -/
  querySingle : ¬kCRLF <:+: query

/-- The text of a request. -/
def WireRequest.text (w : WireRequest) : List UInt8 :=
  HttpRequest.methodString w.method ++ 32 :: (w.path ++ w.query ++ 32 ::
    (versionString w.version ++ kCRLF ++ w.fields.flatMap HeaderField.text ++ kCRLF))

/-- Texts without the end of a line inside, and a byte between them that is not part of one. -/
theorem single_append {front back : List UInt8} {byte : UInt8} (first : ¬kCRLF <:+: front)
    (second : ¬kCRLF <:+: back) (notReturn : byte ≠ 13) (notFeed : byte ≠ 10) :
    ¬kCRLF <:+: front ++ byte :: back := by
  induction front with
  | nil =>
    intro inside
    obtain here | later := List.infix_cons_iff.mp inside
    · exact notReturn (List.cons_prefix_cons.mp here).1.symm
    · exact second later
  | cons head rest ih =>
    intro inside
    have shorter : ¬kCRLF <:+: rest := fun within =>
      first (within.trans (List.suffix_cons _ _).isInfix)
    obtain here | later := List.infix_cons_iff.mp inside
    · obtain ⟨same, next⟩ := List.cons_prefix_cons.mp here
      cases rest with
      | nil => exact notFeed (List.cons_prefix_cons.mp next).1.symm
      | cons second rest =>
        obtain ⟨also, -⟩ := List.cons_prefix_cons.mp next
        refine first ⟨[], rest, ?_⟩
        rw [← same, ← also]
        rfl
    · exact ih shorter later

namespace HeaderField

variable (field : HeaderField)

/-- Spaces and the value have no end of a line inside. -/
theorem padded_single : ¬kCRLF <:+: field.padded := by
  have apart (count : Nat) : ¬kCRLF <:+: List.replicate count 32 ++ field.value := by
    induction count with
    | zero => exact field.valueSingle
    | succ count ih =>
      rw [List.replicate_succ, List.cons_append]
      exact @single_append [] _ 32 (by simp [kCRLF]) ih (by decide) (by decide)
  exact apart field.spaces

/-- The spaces before the value are trimmed, and nothing else. -/
theorem trim_padded : trim field.padded = field.value := by
  have front : field.padded.dropWhile isspace = field.value := by
    have spaces : ∀ byte ∈ List.replicate field.spaces (32 : UInt8), isspace byte = true := by
      intro byte member
      rw [List.eq_of_mem_replicate member]
      rfl
    rw [padded, List.dropWhile_append_of_pos spaces]
    cases value : field.value with
    | nil => rfl
    | cons first rest =>
      have begins : isspace first = false := field.begins first (by rw [value]; rfl)
      rw [List.dropWhile_cons_of_neg (by rw [begins]; nofun)]
  rw [trim, front]
  cases value : field.value.reverse with
  | nil => exact (List.reverse_eq_nil_iff.mp value).symm
  | cons last rest =>
    have whole : field.value = rest.reverse ++ [last] := by
      rw [← List.reverse_reverse field.value, value, List.reverse_cons]
    have ends : isspace last = false := field.ends last (by rw [whole, List.getLast?_concat]; rfl)
    rw [List.dropWhile_cons_of_neg (by rw [ends]; nofun), ← value, List.reverse_reverse]

/-- The header as a name and what follows its colon. -/
def pair : List UInt8 × List UInt8 := (field.name, field.padded)

/-- A later header takes the place of an earlier one. -/
theorem lastValue_concat (fields : List HeaderField) (name : List UInt8) :
    lastValue (fields ++ [field]) name =
      if name = field.name then some field.value else lastValue fields name := by
  rw [lastValue, List.reverse_append, List.reverse_singleton, List.singleton_append,
    List.find?_cons]
  by_cases here : name = field.name
  · rw [if_pos here, decide_eq_true here.symm]
    rfl
  · rw [if_neg here, decide_eq_false (Ne.symm here)]
    rfl

/-- The map after the headers were added: it is in order, and the last value for each name wins. -/
theorem addHeaders_lookup (r : HttpRequest) (none : r.headers = []) (fields : List HeaderField) :
    (addHeaders r (fields.map pair)).headers.Sorted ∧
      ∀ name, (addHeaders r (fields.map pair)).headers.lookup name = lastValue fields name := by
  induction fields using List.reverseRecOn with
  | nil =>
    have empty : (addHeaders r []).headers = [] := none
    rw [List.map_nil, empty]
    exact ⟨.nil, fun _ => rfl⟩
  | append_singleton fields field ih =>
    obtain ⟨sorted, last⟩ := ih
    have added : (addHeaders r ((fields ++ [field]).map pair)).headers =
        (addHeaders r (fields.map pair)).headers.set field.name field.value := by
      rw [addHeaders, addHeaders, List.map_append, List.foldl_append, ← field.trim_padded]
      rfl
    rw [added]
    refine ⟨sorted.set _ _, fun name => ?_⟩
    rw [StringMap.lookup_set, last, lastValue_concat]

end HeaderField

namespace WireRequest

variable (w : WireRequest)

/-- The method is supported by `setMethod`. -/
theorem method_ne : w.method ≠ .kInvalid ∧ w.method ≠ .kHead := by
  have supported := w.supported
  constructor
  · intro same
    rw [same] at supported
    exact absurd supported (by decide)
  · intro same
    rw [same] at supported
    exact absurd supported (by decide)

/-- The version is known. -/
theorem version_ne : w.version ≠ .kUnknown := by
  intro same
  have known := w.known
  rw [same] at known
  exact absurd known (by decide)

/-- The target has no end of a line inside. -/
theorem target_single : ¬kCRLF <:+: w.path ++ w.query := by
  obtain empty | asked := w.asked
  · rw [empty, List.append_nil]
    exact w.pathSingle
  · cases query : w.query with
    | nil => rw [List.append_nil]; exact w.pathSingle
    | cons first rest =>
      rw [query] at asked
      have question : first = 63 := Option.some.inj asked
      have single : ¬kCRLF <:+: rest := fun inside =>
        w.querySingle (by rw [query]; exact inside.trans (List.suffix_cons _ _).isInfix)
      rw [question]
      exact single_append w.pathSingle single (by decide) (by decide)

/-- The request line is one line. -/
theorem line_single : ¬kCRLF <:+: requestLine w.method (w.path ++ w.query) w.version := by
  have method : ¬kCRLF <:+: HttpRequest.methodString w.method := by
    cases w.method <;> decide
  have version : ¬kCRLF <:+: versionString w.version := by
    cases w.version <;> decide
  have rest := single_append w.target_single version (by decide : (32 : UInt8) ≠ 13) (by decide)
  exact single_append method rest (by decide) (by decide)

/-- The request with its target in one piece. -/
def requestText : RequestText where
  method := w.method
  target := w.path ++ w.query
  version := w.version
  headers := w.fields.map HeaderField.pair
  named := w.method_ne.1
  known := w.version_ne
  spaceless := List.not_mem_append w.pathSpaceless w.querySpaceless
  single := w.line_single
  names := List.forall_mem_map.mpr fun field _ => field.colonless
  lines := List.forall_mem_map.mpr fun field _ =>
    single_append field.nameSingle field.padded_single (by decide) (by decide)

/-- Both have the same text. -/
theorem requestText_text : w.requestText.text = w.text := by
  have lines : (w.fields.map HeaderField.pair).flatMap (fun pair => headerLine pair ++ kCRLF) =
      w.fields.flatMap HeaderField.text := by
    rw [List.flatMap_map]
    congr 1
    funext field
    simp [HeaderField.pair, HeaderField.text, headerLine]
  have texts : w.requestText.text = requestLine w.method (w.path ++ w.query) w.version ++ (kCRLF ++
      ((w.fields.map HeaderField.pair).flatMap (fun pair => headerLine pair ++ kCRLF) ++
        kCRLF)) := rfl
  rw [texts, lines]
  simp [requestLine, text]

/-- The target is cut into the path and the query. -/
theorem requestText_opening :
    w.requestText.opening.path = w.path ∧ w.requestText.opening.query = w.query := by
  have path : ∀ byte ∈ w.path, (byte != 63) = true := fun byte member =>
    bne_iff_ne.mpr fun same => w.questionless (same ▸ member)
  have stops : w.query.takeWhile (· != 63) = [] ∧ w.query.dropWhile (· != 63) = w.query := by
    cases query : w.query with
    | nil => exact ⟨rfl, rfl⟩
    | cons first rest =>
      obtain empty | asked := w.asked
      · rw [query] at empty
        cases empty
      · rw [query] at asked
        have question : first = 63 := Option.some.inj asked
        rw [question]
        exact ⟨rfl, rfl⟩
  constructor
  · change (w.path ++ w.query).takeWhile (· != 63) = w.path
    rw [List.takeWhile_append_of_pos path, stops.1, List.append_nil]
  · change (w.path ++ w.query).dropWhile (· != 63) = w.query
    rw [List.dropWhile_append_of_pos path, stops.2]

end WireRequest

namespace HttpContext

/-- Parsing a request whose whole text is in the buffer. -/
theorem parseRequest_whole (receiveTime : Int) (t : RequestText) (supported : t.method ≠ .kHead)
    {b : Buffer} {tail : List UInt8} (valid : b.Valid) (reads : b.readable = t.text ++ tail) :
    ∃ after next, HttpContext.new.parseRequest b receiveTime = .ok (after, next, true) ∧
      next.Valid ∧ after.state = .kGotAll ∧ next.readable = tail ∧
      after.request = addHeaders { t.opening with receiveTime } t.headers := by
  have text : b.readable ++ [] = requestLine t.method t.target t.version ++
      (kCRLF ++ (RequestText.headerText t.headers ++ tail)) := by
    rw [List.append_nil, reads]
    simp [RequestText.text]
  have two : kCRLF.length = 2 := rfl
  rw [parseRequest, parseLoop]
  simp only [HttpContext.new]
  obtain ⟨-, short⟩ | ⟨crlf, next, found, same, taken, nextValid, left, less⟩ :=
    next_line valid t.single text
  · have length := congrArg List.length text
    simp only [List.length_append, List.length_nil] at length
    omega
  · simp only [found, same]
    rw [processRequestLine_opening t supported]
    simp only [ok_bind, ↓reduceIte, taken]
    obtain ⟨after, last, done, lastValid, result⟩ :=
      parseLoop_headers (c := ⟨.kExpectHeaders, { t.opening with receiveTime }⟩) receiveTime
        t.headers t.names t.lines nextValid rfl left less
    refine ⟨after, last, done, lastValid, ?_⟩
    cases result with
    | all state request reads => exact ⟨state, (List.append_nil _).symm.trans reads, request⟩
    | some split state request reads short =>
      have length := congrArg List.length reads
      simp only [List.length_append, List.length_nil] at length
      omega

/-- A fresh parser reads every request back from its text, whatever follows the text: the method,
the path, the query and the version as they were, the last value for each name of a header, and
nothing of what follows. -/
theorem parseRequest_text (w : WireRequest) (tail : List UInt8) (receiveTime : Int) {b : Buffer}
    (valid : b.Valid) (reads : b.readable = w.text ++ tail) :
    ∃ after next, HttpContext.new.parseRequest b receiveTime = .ok (after, next, true) ∧
      after.gotAll = true ∧ after.request.method = w.method ∧ after.request.path = w.path ∧
      after.request.query = w.query ∧ after.request.version = w.version ∧
      after.request.headers.Sorted ∧
      (∀ name, after.request.headers.lookup name = HeaderField.lastValue w.fields name) ∧
      next.readable = tail := by
  rw [← w.requestText_text] at reads
  obtain ⟨after, next, done, -, state, left, request⟩ :=
    parseRequest_whole receiveTime w.requestText w.method_ne.2 valid reads
  obtain ⟨path, query⟩ := w.requestText_opening
  obtain ⟨sorted, last⟩ := HeaderField.addHeaders_lookup
    { w.requestText.opening with receiveTime } rfl w.fields
  refine ⟨after, next, done, beq_iff_eq.mpr state, ?_⟩
  rw [request]
  exact ⟨rfl, path, query, rfl, sorted, last, left⟩

/-- A header `Accept` with some value after two spaces. -/
def acceptField (value : List UInt8) (single : ¬kCRLF <:+: value)
    (begins : ∀ byte ∈ value.head?, isspace byte = false)
    (ends : ∀ byte ∈ value.getLast?, isspace byte = false) : HeaderField where
  name := bytes "Accept"
  spaces := 2
  value := value
  colonless := by decide
  nameSingle := by decide
  valueSingle := single
  begins := begins
  ends := ends

/-- A request that gives a header twice. -/
def repeatedRequest : WireRequest where
  method := .kPut
  path := bytes "/a"
  query := bytes "?b"
  version := .kHttp10
  fields := [
    acceptField (bytes "x: y") (by decide) (by rintro _ ⟨⟩; rfl) (by rintro _ ⟨⟩; rfl),
    acceptField (bytes "z") (by decide) (by rintro _ ⟨⟩; rfl) (by rintro _ ⟨⟩; rfl)]
  supported := by decide
  known := by decide
  pathSpaceless := by decide
  questionless := by decide
  pathSingle := by decide
  asked := .inr (by decide)
  querySpaceless := by decide
  querySingle := by decide

/-- The request that gives a header twice, with three bytes of the next one behind it. -/
theorem parseRequest_text_repeated :
    ∃ after next, HttpContext.new.parseRequest
        ⟨List.replicate 8 0 ++ (repeatedRequest.text ++ bytes "GET"), 8, 59⟩ 1 =
          .ok (after, next, true) ∧
      after.request.query = bytes "?b" ∧
      after.request.headers.lookup (bytes "Accept") = some (bytes "z") ∧
      next.readable = bytes "GET" := by
  obtain ⟨after, next, done, -, -, -, query, -, -, last, left⟩ :=
    @parseRequest_text repeatedRequest (bytes "GET") 1
      ⟨List.replicate 8 0 ++ (repeatedRequest.text ++ bytes "GET"), 8, 59⟩
      (by constructor <;> decide) (by decide)
  exact ⟨after, next, done, query, (last _).trans (by decide), left⟩

end HttpContext

end Muduo
