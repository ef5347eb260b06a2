import Muduo.Base.Convert
import Muduo.Net.Http.RoundTrip

/-!
# A reader of responses

What a client does with the bytes of a connection that stays open: the status line up to its end,
the header lines up to the first empty line, each cut at its first colon, and then as many bytes as
`Content-Length` says. A response in front of any other bytes is read as it was written, neither
less nor more.
-/

namespace Muduo

/-- What a reader knows of a response. -/
structure ReadResponse where
  /-- The number of the status. -/
  statusCode : Nat
  /-- The text of the status. -/
  statusMessage : List UInt8
  /-- The headers other than `Content-Length` and `Connection`. -/
  headers : StringMap
  /-- The body. -/
  body : List UInt8
  deriving DecidableEq, Repr

namespace ReadResponse

/-- A line up to its end, and what follows. -/
def readLine (text : List UInt8) : Option (List UInt8 × List UInt8) :=
  let stop := Search.search kCRLF text
  if stop < text.length then some (text.take stop, text.drop (stop + 2)) else none

/-- The number in front of one more digit. -/
def readDigit (number : Nat) (digit : UInt8) : Option Nat :=
  if 48 ≤ digit ∧ digit ≤ 57 then some (number * 10 + (digit.toNat - 48)) else none

/-- A decimal number. -/
def readNumber (text : List UInt8) : Option Nat :=
  if text = [] then none else text.foldlM readDigit 0

/-- The status line. -/
def readStatus (line : List UInt8) : Option (Nat × List UInt8) :=
  if (bytes "HTTP/1.1 ").isPrefixOf line then do
    let rest := line.drop 9
    let space := rest.idxOf 32
    if space = rest.length then none
    else
      let code ← readNumber (rest.take space)
      some (code, rest.drop (space + 1))
  else none

/-- The header lines up to the first empty line, at most so many. -/
def readHeaders : Nat → StringMap → List UInt8 → Option (StringMap × List UInt8)
  | 0, _, _ => none
  | times + 1, map, text => do
    let (line, rest) ← readLine text
    if line = [] then some (map, rest)
    else
      let colon := line.idxOf 58
      if colon = line.length then none
      else readHeaders times (map.set (line.take colon) (line.drop (colon + 1))) rest

/-- As many bytes as `Content-Length` says. -/
def readBody (map : StringMap) (text : List UInt8) : Option (List UInt8 × List UInt8) := do
  let value ← map.lookup (bytes "Content-Length")
  let length ← readNumber (value.dropWhile (· == 32))
  if length ≤ text.length then some (text.take length, text.drop length) else none

/-- The name is not one of those that `appendToBuffer` writes itself. -/
def isOther (name : List UInt8) : Bool :=
  name != bytes "Content-Length" && name != bytes "Connection"

/-- One response, and what follows. -/
def readResponse (text : List UInt8) : Option (ReadResponse × List UInt8) := do
  let (line, rest) ← readLine text
  let (statusCode, statusMessage) ← readStatus line
  let (map, rest) ← readHeaders (rest.length + 1) [] rest
  let (body, rest) ← readBody map rest
  some (⟨statusCode, statusMessage, map.filter fun pair => isOther pair.1, body⟩, rest)

/-- Responses up to the end of the bytes, at most so many. -/
def readResponses : Nat → List UInt8 → Option (List ReadResponse)
  | _, [] => some []
  | 0, _ :: _ => none
  | times + 1, byte :: text => do
    let (response, rest) ← readResponse (byte :: text)
    let others ← readResponses times rest
    some (response :: others)

/-- The first of some responses that were read. -/
theorem readResponses_eq_cons {times : Nat} {text : List UInt8} {first : ReadResponse}
    {others : List ReadResponse} (reads : readResponses times text = some (first :: others)) :
    ∃ less left, readResponse text = some (first, left) ∧
      readResponses less left = some others := by
  cases text with
  | nil =>
    rw [readResponses] at reads
    cases reads
  | cons byte text =>
    cases times with
    | zero => cases reads
    | succ times =>
      obtain ⟨⟨response, left⟩, done, later⟩ := Option.bind_eq_some_iff.mp reads
      obtain ⟨rest, more, same⟩ := Option.bind_eq_some_iff.mp later
      obtain ⟨rfl, rfl⟩ := List.cons.inj (Option.some.inj same)
      exact ⟨times, left, done, more⟩

/-- A line without an end inside is read. -/
theorem readLine_eq {line : List UInt8} (single : ¬kCRLF <:+: line) (rest : List UInt8) :
    readLine (line ++ (kCRLF ++ rest)) = some (line, rest) := by
  have two : kCRLF.length = 2 := rfl
  have inside : line.length < (line ++ (kCRLF ++ rest)).length := by
    rw [List.length_append, List.length_append]
    omega
  have behind : (line ++ (kCRLF ++ rest)).drop (line.length + 2) = rest := by
    rw [← List.drop_drop, List.drop_left, ← two, List.drop_left]
  rw [readLine, search_line single, if_pos inside, List.take_left, behind]

/-- A digit that `%d` prints. -/
theorem readDigit_eq (number : Nat) {digit : Nat} (small : digit < 10) :
    readDigit number (48 + digit).toUInt8 = some (number * 10 + digit) := by
  have value : (48 + digit).toUInt8.toNat = 48 + digit := by
    rw [Nat.toUInt8, UInt8.toNat_ofNat']
    omega
  have lower : 48 ≤ (48 + digit).toUInt8 := by
    rw [UInt8.le_iff_toNat_le, value]
    exact Nat.le_add_right 48 digit
  have upper : (48 + digit).toUInt8 ≤ 57 := by
    rw [UInt8.le_iff_toNat_le, value]
    exact Nat.add_le_add_left (Nat.le_of_lt_succ small) 48
  rw [readDigit, if_pos ⟨lower, upper⟩, value, Nat.add_sub_cancel_left]

/-- The digits of a number give the number back. -/
theorem foldlM_decimal (number : Nat) : (decimal number).foldlM readDigit 0 = some number := by
  induction number using Nat.strongRecOn with
  | ind number ih =>
    have last (front : Nat) : [(48 + number % 10).toUInt8].foldlM readDigit front =
        some (front * 10 + number % 10) := by
      rw [List.foldlM_cons, readDigit_eq front (Nat.mod_lt number (by decide))]
      rfl
    rw [decimal_eq, List.foldlM_append]
    by_cases small : number < 10
    · rw [if_pos small, List.foldlM_nil, Option.pure_def, Option.bind_eq_bind, Option.bind_some,
        last, Nat.mod_eq_of_lt small, Nat.zero_mul, Nat.zero_add]
    · rw [if_neg small, ih _ (by omega), Option.bind_eq_bind, Option.bind_some, last,
        Nat.div_add_mod']

/-- A number has digits. -/
theorem decimal_ne_nil (number : Nat) : decimal number ≠ [] := by
  rw [decimal_eq]
  exact List.append_ne_nil_of_right_ne_nil _ (List.cons_ne_nil _ _)

/-- A printed number is read back. -/
theorem readNumber_decimal (number : Nat) : readNumber (decimal number) = some number := by
  rw [readNumber, if_neg (decimal_ne_nil number), foldlM_decimal]

/-- A text without the first byte of an end of a line. -/
theorem single_of_not_mem {text : List UInt8} (none : 13 ∉ text) : ¬kCRLF <:+: text := fun inside =>
  none (inside.subset List.mem_cons_self)

/-- The beginning of the status line. -/
theorem statusFront_single (code : Nat) : ¬kCRLF <:+: bytes "HTTP/1.1 " ++ decimal code := by
  refine single_of_not_mem (List.not_mem_append (by decide) fun member => ?_)
  exact absurd (le_of_mem_decimal member) (by decide)

/-- The status line is read back. -/
theorem readStatus_eq (code : Nat) (message : List UInt8) :
    readStatus (bytes "HTTP/1.1 " ++ (decimal code ++ 32 :: message)) = some (code, message) := by
  have front := List.isPrefixOf_iff_prefix.mpr
    (List.prefix_append (bytes "HTTP/1.1 ") (decimal code ++ 32 :: message))
  have rest : (bytes "HTTP/1.1 " ++ (decimal code ++ 32 :: message)).drop 9 =
      decimal code ++ 32 :: message := rfl
  have digits : 32 ∉ decimal code := fun member =>
    absurd (le_of_mem_decimal member) (by decide)
  have cut := Search.CutAt.of_not_mem digits message
  rw [readStatus, if_pos front, rest]
  dsimp only
  rw [cut.position, if_neg cut.inside, cut.before, readNumber_decimal, cut.behind]
  rfl

/-- The fields of a section of headers, the later ones in the place of earlier ones. -/
def assign (map : StringMap) (lines : List (List UInt8 × List UInt8)) : StringMap :=
  lines.foldl (fun map line => map.set line.1 line.2) map

/-- A section of headers is read line by line. -/
theorem readHeaders_eq {lines : List (List UInt8 × List UInt8)}
    (names : ∀ line ∈ lines, 58 ∉ line.1) (single : ∀ line ∈ lines, ¬kCRLF <:+: headerLine line)
    (map : StringMap) (rest : List UInt8) {times : Nat} (enough : lines.length < times) :
    readHeaders times map (RequestText.headerText lines ++ rest) =
      some (assign map lines, rest) := by
  induction lines generalizing map times with
  | nil =>
    obtain ⟨times, rfl⟩ := Nat.exists_eq_succ_of_ne_zero (Nat.ne_zero_of_lt enough)
    have empty := @readLine_eq [] (by simp [kCRLF]) rest
    rw [List.nil_append] at empty
    rw [readHeaders, RequestText.headerText, List.flatMap_nil, List.nil_append, empty]
    rfl
  | cons line lines ih =>
    obtain ⟨times, rfl⟩ := Nat.exists_eq_succ_of_ne_zero (Nat.ne_zero_of_lt enough)
    have first := readLine_eq (single line List.mem_cons_self)
      (RequestText.headerText lines ++ rest)
    have text : RequestText.headerText (line :: lines) ++ rest =
        headerLine line ++ (kCRLF ++ (RequestText.headerText lines ++ rest)) := by
      simp [RequestText.headerText]
    have cut : Search.CutAt 58 (headerLine line) line.1 line.2 :=
      .of_not_mem (names line List.mem_cons_self) _
    have some : headerLine line ≠ [] := List.append_ne_nil_of_right_ne_nil _ (List.cons_ne_nil _ _)
    rw [readHeaders, text, first, Option.bind_eq_bind, Option.bind_some]
    dsimp only
    rw [if_neg some, cut.position, if_neg cut.inside, cut.before, cut.behind,
      ih (fun line mem => names line (.tail _ mem)) (fun line mem => single line (.tail _ mem)) _
        (Nat.lt_of_succ_lt_succ enough)]
    rfl

/-- There are more bytes than lines. -/
theorem length_lt_headerText (lines : List (List UInt8 × List UInt8)) :
    lines.length < (RequestText.headerText lines).length := by
  have two : kCRLF.length = 2 := rfl
  induction lines with
  | nil => decide
  | cons line lines ih =>
    rw [RequestText.headerText, List.length_append] at ih ⊢
    rw [List.flatMap_cons, List.length_append, List.length_append, List.length_cons]
    omega

/-- The text of a response that does not end its connection. -/
def responseText (code : Nat) (message : List UInt8) (lines : List (List UInt8 × List UInt8))
    (body : List UInt8) : List UInt8 :=
  bytes "HTTP/1.1 " ++ (decimal code ++ 32 :: message) ++ (kCRLF ++
    (RequestText.headerText lines ++ body))

/-- A response is read up to its body. -/
theorem readResponse_eq {code : Nat} {message : List UInt8}
    {lines : List (List UInt8 × List UInt8)} (single : ¬kCRLF <:+: message)
    (names : ∀ line ∈ lines, 58 ∉ line.1) (each : ∀ line ∈ lines, ¬kCRLF <:+: headerLine line)
    (body rest : List UInt8) :
    readResponse (responseText code message lines body ++ rest) =
      (readBody (assign [] lines) (body ++ rest)).map fun result =>
        (⟨code, message, (assign [] lines).filter fun pair => isOther pair.1, result.1⟩,
          result.2) := by
  have status : ¬kCRLF <:+: bytes "HTTP/1.1 " ++ (decimal code ++ 32 :: message) := by
    rw [← List.append_assoc]
    exact single_append (statusFront_single code) single (by decide) (by decide)
  have first := readLine_eq status (RequestText.headerText lines ++ (body ++ rest))
  have text : responseText code message lines body ++ rest =
      bytes "HTTP/1.1 " ++ (decimal code ++ 32 :: message) ++ (kCRLF ++
        (RequestText.headerText lines ++ (body ++ rest))) := by
    simp [responseText]
  have enough : lines.length < (RequestText.headerText lines ++ (body ++ rest)).length + 1 := by
    have count := length_lt_headerText lines
    rw [List.length_append]
    omega
  rw [text, readResponse, first, Option.bind_eq_bind, Option.bind_some]
  dsimp only
  rw [readStatus_eq, Option.bind_eq_bind, Option.bind_some]
  dsimp only
  rw [readHeaders_eq names each [] _ enough, Option.bind_eq_bind, Option.bind_some]
  dsimp only
  cases readBody (assign [] lines) (body ++ rest) <;> rfl

/-- A field comes from a line or was there before. -/
theorem mem_assign {map : StringMap} {lines : List (List UInt8 × List UInt8)}
    {pair : List UInt8 × List UInt8} (member : pair ∈ assign map lines) :
    pair ∈ map ∨ pair ∈ lines := by
  induction lines generalizing map with
  | nil => exact .inl member
  | cons line lines ih =>
    obtain before | later := ih member
    · obtain rfl | kept := StringMap.mem_set before
      · exact .inr List.mem_cons_self
      · exact .inl kept
    · exact .inr (List.mem_cons_of_mem _ later)

/-- Lines do not change the value of a name that they do not have. -/
theorem lookup_assign {map : StringMap} {lines : List (List UInt8 × List UInt8)}
    {name : List UInt8} (absent : ∀ line ∈ lines, name ≠ line.1) :
    (assign map lines).lookup name = map.lookup name := by
  induction lines generalizing map with
  | nil => rfl
  | cons line lines ih =>
    have kept := StringMap.lookup_set name line.1 line.2 map
    rw [if_neg (absent line List.mem_cons_self)] at kept
    exact (ih fun line mem => absent line (.tail _ mem)).trans kept

/-- A field behind all others of its kind. -/
theorem filter_set {map : StringMap} (sorted : map.Sorted) {kind : List UInt8 → Bool}
    {key : List UInt8} (value : List UInt8) (chosen : kind key = true)
    (last : ∀ pair ∈ map, kind pair.1 = true → pair.1 < key) :
    (map.set key value).filter (fun pair => kind pair.1) =
      map.filter (fun pair => kind pair.1) ++ [(key, value)] := by
  induction map with
  | nil => simp [StringMap.set, chosen]
  | cons first rest ih =>
    obtain ⟨other, old⟩ := first
    obtain ⟨least, increasing⟩ := List.pairwise_cons.mp sorted
    have before := last (other, old) List.mem_cons_self
    rw [StringMap.set]
    by_cases same : key = other
    · subst same
      exact absurd (before chosen) (List.lt_irrefl _)
    · rw [if_neg same]
      by_cases less : key < other
      · have excluded : ∀ pair ∈ (other, old) :: rest, ¬kind pair.1 = true := by
          intro pair member also
          have up : key < pair.1 := by
            obtain rfl | later := List.mem_cons.mp member
            · exact less
            · exact List.lt_trans less (least pair later)
          exact List.lt_asymm up (last pair member also)
        have none : ((other, old) :: rest).filter (fun pair => kind pair.1) = [] :=
          List.filter_eq_nil_iff.mpr excluded
        rw [if_pos less, List.filter_cons, none, if_pos chosen]
        rfl
      · have again := ih increasing fun pair member => last pair (.tail _ member)
        rw [if_neg less, List.filter_cons, List.filter_cons, again]
        split
        · rfl
        · rfl

/-- Lines in the order of their names are added behind the other fields of their kind. -/
theorem filter_assign {map : StringMap} (sorted : map.Sorted) {kind : List UInt8 → Bool}
    {lines : List (List UInt8 × List UInt8)} (ordered : StringMap.Sorted lines)
    (chosen : ∀ line ∈ lines, kind line.1 = true)
    (last : ∀ pair ∈ map, kind pair.1 = true → ∀ line ∈ lines, pair.1 < line.1) :
    (assign map lines).filter (fun pair => kind pair.1) =
      map.filter (fun pair => kind pair.1) ++ lines := by
  induction lines generalizing map with
  | nil => exact (List.append_nil _).symm
  | cons line lines ih =>
    obtain ⟨least, increasing⟩ := List.pairwise_cons.mp ordered
    have added := filter_set sorted line.2 (chosen line List.mem_cons_self)
      fun pair member also => last pair member also line List.mem_cons_self
    have again := ih (sorted.set line.1 line.2) increasing
      (fun line member => chosen line (.tail _ member)) fun pair member also later behind => by
        obtain rfl | kept := StringMap.mem_set member
        · exact least later behind
        · exact last pair kept also later (.tail _ behind)
    refine again.trans ?_
    rw [added, List.append_assoc]
    rfl

/-- The header lines that `appendToBuffer` writes itself for a body of so many bytes. -/
def ownLines (length : Nat) : List (List UInt8 × List UInt8) :=
  [(bytes "Content-Length", 32 :: decimal length), (bytes "Connection", bytes " Keep-Alive")]

/-- The fields of these lines. -/
def ownFields (length : Nat) : StringMap :=
  [(bytes "Connection", bytes " Keep-Alive"), (bytes "Content-Length", 32 :: decimal length)]

/-- The lines of the server come first. -/
theorem assign_ownLines (length : Nat) (lines : List (List UInt8 × List UInt8)) :
    assign [] (ownLines length ++ lines) = assign (ownFields length) lines := by
  rw [assign, List.foldl_append]
  rfl

/-- The body is found by its length. -/
theorem readBody_eq {map : StringMap} {body : List UInt8}
    (named : map.lookup (bytes "Content-Length") = some (32 :: decimal body.length))
    (rest : List UInt8) : readBody map (body ++ rest) = some (body, rest) := by
  have digits : (32 :: decimal body.length).dropWhile (· == 32) = decimal body.length := by
    rw [List.dropWhile_cons_of_pos rfl]
    cases number : decimal body.length with
    | nil => rfl
    | cons digit others =>
      have large : 48 ≤ digit := le_of_mem_decimal (number ▸ List.mem_cons_self)
      refine List.dropWhile_cons_of_neg fun space => ?_
      rw [beq_iff_eq.mp space] at large
      exact absurd large (by decide)
  have inside : body.length ≤ (body ++ rest).length := by
    rw [List.length_append]
    omega
  rw [readBody, named, Option.bind_eq_bind, Option.bind_some, digits, readNumber_decimal,
    Option.bind_eq_bind, Option.bind_some, if_pos inside, List.take_left, List.drop_left]

/-- The lines of the server can be told apart. -/
theorem ownLines_lines (length : Nat) :
    ∀ line ∈ ownLines length, 58 ∉ line.1 ∧ ¬kCRLF <:+: headerLine line := by
  intro line member
  have digits : 13 ∉ decimal length := fun member => absurd (le_of_mem_decimal member) (by decide)
  obtain rfl | rfl : line = _ ∨ line = _ := by simpa [ownLines] using member
  · have name : 58 ∉ bytes "Content-Length" ∧ 13 ∉ bytes "Content-Length" := by decide
    refine ⟨name.1, single_of_not_mem ?_⟩
    exact List.not_mem_append name.2
      (List.not_mem_cons_of_ne_of_not_mem (by decide)
        (List.not_mem_cons_of_ne_of_not_mem (by decide) digits))
  · exact ⟨by decide, by decide⟩

section

variable {code length : Nat} {message : List UInt8} {lines : List (List UInt8 × List UInt8)}

/-- A response with the lines of the server is read up to its body. -/
theorem readResponse_lines (single : ¬kCRLF <:+: message)
    (each : ∀ line ∈ lines, 58 ∉ line.1 ∧ ¬kCRLF <:+: headerLine line) (body rest : List UInt8) :
    readResponse (responseText code message (ownLines length ++ lines) body ++ rest) =
      (readBody (assign (ownFields length) lines) (body ++ rest)).map fun result =>
        (⟨code, message, (assign (ownFields length) lines).filter fun pair => isOther pair.1,
          result.1⟩, result.2) := by
  have all : ∀ line ∈ ownLines length ++ lines, 58 ∉ line.1 ∧ ¬kCRLF <:+: headerLine line := by
    intro line member
    obtain own | other := List.mem_append.mp member
    · exact ownLines_lines length line own
    · exact each line other
  rw [readResponse_eq single (fun line member => (all line member).1)
    (fun line member => (all line member).2), assign_ownLines]

/-- What a reader has of a response comes from it, even where the body was cut at a wrong place. -/
theorem readResponse_some (single : ¬kCRLF <:+: message)
    (each : ∀ line ∈ lines, 58 ∉ line.1 ∧ ¬kCRLF <:+: headerLine line) {body rest left : List UInt8}
    {response : ReadResponse}
    (done : readResponse (responseText code message (ownLines length ++ lines) body ++ rest) =
      some (response, left)) :
    response.statusMessage = message ∧ ∀ pair ∈ response.headers, pair ∈ lines := by
  rw [readResponse_lines single each] at done
  obtain ⟨result, -, same⟩ := Option.map_eq_some_iff.mp done
  obtain ⟨rfl, -⟩ := Prod.mk.inj same
  refine ⟨rfl, fun pair member => ?_⟩
  obtain ⟨inside, other⟩ := List.mem_filter.mp member
  obtain own | line := mem_assign inside
  · obtain rfl | rfl : pair = _ ∨ pair = _ := by simpa [ownFields] using own
    · cases other
    · cases other
  · exact line

/-- A response is read back, and nothing of what follows. -/
theorem readResponse_whole (single : ¬kCRLF <:+: message)
    (each : ∀ line ∈ lines, 58 ∉ line.1 ∧ ¬kCRLF <:+: headerLine line)
    (ordered : StringMap.Sorted lines) (other : ∀ line ∈ lines, isOther line.1 = true)
    (body rest : List UInt8) :
    readResponse (responseText code message (ownLines body.length ++ lines) body ++ rest) =
      some (⟨code, message, lines, body⟩, rest) := by
  have named : (assign (ownFields body.length) lines).lookup (bytes "Content-Length") =
      some (32 :: decimal body.length) := by
    refine (lookup_assign fun line member same => ?_).trans rfl
    have different := other line member
    rw [← same] at different
    cases different
  have headers : (assign (ownFields body.length) lines).filter (fun pair => isOther pair.1) =
      lines := by
    have own : ∀ pair ∈ ownFields body.length, isOther pair.1 = true → False := by
      intro pair member also
      obtain rfl | rfl : pair = _ ∨ pair = _ := by simpa [ownFields] using member
      · cases also
      · cases also
    have sorted : (ownFields body.length).Sorted := by
      have order : bytes "Connection" < bytes "Content-Length" := by decide
      refine List.pairwise_cons.mpr ⟨fun pair member => ?_, List.pairwise_singleton _ _⟩
      rw [List.mem_singleton.mp member]
      exact order
    rw [filter_assign sorted ordered other fun pair member also => (own pair member also).elim]
    rfl
  rw [readResponse_lines single each, readBody_eq named, headers]
  rfl

end

end ReadResponse

end Muduo
