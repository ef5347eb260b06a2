import Mathlib.Logic.Function.Basic
import Muduo.Lib.Run
import Muduo.Net.Connector

/-!
# `dc::net::Acceptor`

The descriptors of a process are one table with a limit, and connections wait in the queue of the
listening socket until somebody accepts them. The acceptor keeps a descriptor of `/dev/null` to
itself: when the table is full it closes it, accepts a connection in its place, closes that, and
opens `/dev/null` again.

Every system call is a step of its own. Between two of them other threads open and close their own
descriptors, connections arrive, and peers give up before they are accepted. `handleRead()` tests
`errno` after it has logged that `accept` failed, so the logging is a step too, which may change it.
-/

open Function Transition

namespace Muduo

/-- `EPERM`. -/
def ePerm : Nat := 1
/-- `EMFILE`. -/
def eMFile : Nat := 24
/-- `EPROTO`. -/
def eProto : Nat := 71
/-- `ECONNABORTED`. -/
def eConnAborted : Nat := 103

/-- What is open under a descriptor. -/
inductive OpenFile
  /-- `m_acceptSocket`. -/
  | acceptSocket
  /-- `/dev/null`, opened for `m_idleFd`. -/
  | devNull
  /-- A connection that the acceptor has accepted and nobody else has. -/
  | accepted (peer : Nat)
  /-- A connection that was passed to the callback. -/
  | served (peer : Nat)
  /-- Anything that other threads opened. -/
  | foreign
  deriving DecidableEq, Repr

/-- The acceptor does not own what was passed on and what others opened. -/
def OpenFile.isForeign : OpenFile → Bool
  | .served _ => true
  | .foreign => true
  | _ => false

/-- Where the acceptor is. -/
inductive AcceptStage
  /-- Between two events. -/
  | idle
  /-- Before `m_acceptSocket.accept(&peerAddr)`. -/
  | accepting
  /-- With a connection in `connfd`. -/
  | delivering (connfd : Int)
  /-- Before `LOG_SYSERR`, with the `errno` of `m_acceptSocket.accept(&peerAddr)`. -/
  | logging (errno : Nat)
  /-- `EMFILE`, before `::close(m_idleFd)`. -/
  | closingIdle
  /-- Before `::accept(m_acceptSocket.fd(), nullptr, nullptr)`. -/
  | acceptingAgain
  /-- Before the second `::close(m_idleFd)`. -/
  | closingAccepted
  /-- Before `::open("/dev/null", O_RDONLY | O_CLOEXEC )`. -/
  | reopening
  /-- After the destructor. -/
  | destroyed
  /-- After `LOG_FATAL`. -/
  | aborted
  deriving DecidableEq, Repr

/-- `class Acceptor`, the descriptors of its process and the connections of its socket. -/
structure Acceptor where
  /-- The limit of the descriptors. -/
  limit : Int
  /-- The descriptors. -/
  table : Int → Option OpenFile
  /-- The connections that wait, by their number. -/
  pending : List Nat
  /-- How many peers have connected. -/
  peers : Nat
  /-- `m_acceptSocket.fd()`. -/
  sockfd : Int
  /-- `m_idleFd`. -/
  idleFd : Int
  /-- `m_newConnectionCallback` is set. -/
  hasCallback : Bool
  /-- `is_listening`. -/
  isListening : Bool
  /-- Where it is. -/
  stage : AcceptStage
  /-- The peers that were passed to the callback. -/
  served : List Nat
  /-- The peers whose connection was closed at once. -/
  refused : List Nat
  /-- The peers that gave up. -/
  withdrawn : List Nat
  /-- How often the acceptor closed what it does not own. -/
  trespasses : Nat

/-- What happens. -/
inductive AcceptAction
  /-- `listen()`. -/
  | listen
  /-- `handleRead()` is called. -/
  | handleRead
  /-- `m_acceptSocket.accept(&peerAddr)`. -/
  | accept
  /-- The callback, or `sockets::close(connfd)`. -/
  | deliver
  /-- `LOG_SYSERR << "in Acceptor::handleRead"`, with `errno` after it if the logger changes it. -/
  | log (changed : Option Nat)
  /-- `::close(m_idleFd)` for the first time. -/
  | closeIdle
  /-- `::accept(m_acceptSocket.fd(), nullptr, nullptr)`. -/
  | acceptAgain
  /-- `::close(m_idleFd)` for the second time. -/
  | closeAccepted
  /-- `::open("/dev/null", O_RDONLY | O_CLOEXEC )`. -/
  | reopen
  /-- A system call of the acceptor fails by chance. -/
  | fail (errno : Nat)
  /-- The destructor. -/
  | destroy
  /-- A peer connects. -/
  | connect
  /-- A peer gives up. -/
  | withdraw (peer : Nat)
  /-- Another thread opens a descriptor. -/
  | openOther (fd : Int)
  /-- Another thread closes its descriptor, or that of a connection it was passed. -/
  | closeOther (fd : Int)
  deriving DecidableEq, Repr

namespace Acceptor

/-- A descriptor that the kernel may give out. -/
def Free (a : Acceptor) (fd : Int) : Prop := 0 ≤ fd ∧ fd < a.limit ∧ a.table fd = none

/-- The kernel opens something under a free descriptor. -/
def install (a : Acceptor) (fd : Int) (file : OpenFile) : Acceptor :=
  { a with table := update a.table fd (some file) }

/-- `::close()`, by the acceptor. A descriptor that is not open is left alone. -/
def close (a : Acceptor) (fd : Int) : Acceptor :=
  match a.table fd with
  | none => a
  | some (.accepted peer) =>
    { a with table := update a.table fd none, refused := a.refused ++ [peer] }
  | some file =>
    { a with
      table := update a.table fd none
      trespasses := a.trespasses + if file.isForeign then 1 else 0 }

/-- The errors of `::accept` after which `sockets::accept` returns. -/
def expected (errno : Nat) : Bool :=
  errno ∈ [eAgain, eConnAborted, eIntr, eProto, ePerm, eMFile]

/-- The callback gets the connection. -/
def handOver (a : Acceptor) (connfd : Int) : Acceptor :=
  match a.table connfd with
  | some (.accepted peer) =>
    { a with table := update a.table connfd (some (.served peer)), served := a.served ++ [peer] }
  | _ => a

/-- A step of the acceptor, of another thread or of a peer. -/
inductive Step (a : Acceptor) : AcceptAction → Acceptor → Prop
  /-- `listen()`. -/
  | listen (idle : a.stage = .idle) : Step a .listen { a with isListening := true }
  /-- The listening socket is readable. -/
  | handleRead (idle : a.stage = .idle) (listening : a.isListening = true) :
      Step a .handleRead { a with stage := .accepting }
  /-- A connection is accepted. -/
  | accept {fd : Int} {peer : Nat} {rest : List Nat} (accepting : a.stage = .accepting)
      (waits : a.pending = peer :: rest) (free : a.Free fd) :
      Step a .accept
        { a.install fd (.accepted peer) with pending := rest, stage := .delivering fd }
  /-- `EAGAIN`. -/
  | acceptNone (accepting : a.stage = .accepting) (nobody : a.pending = []) :
      Step a .accept { a with stage := .logging eAgain }
  /-- `EMFILE`. -/
  | acceptFull (accepting : a.stage = .accepting) (full : ∀ fd, ¬a.Free fd) :
      Step a .accept { a with stage := .logging eMFile }
  /-- Any other error. -/
  | acceptFails {errno : Nat} (accepting : a.stage = .accepting) (other : errno ≠ eMFile) :
      Step a (.fail errno)
        { a with stage := if expected errno then .logging errno else .aborted }
  /-- The failure is logged, and `errno` tested. -/
  | log {errno : Nat} {changed : Option Nat} (logging : a.stage = .logging errno) :
      Step a (.log changed)
        { a with stage := if changed.getD errno = eMFile then .closingIdle else .idle }
  /-- The callback, or `sockets::close(connfd)`. -/
  | deliver {connfd : Int} (delivering : a.stage = .delivering connfd) :
      Step a .deliver
        { (if a.hasCallback then a.handOver connfd else a.close connfd) with stage := .idle }
  /-- `::close(m_idleFd)`. -/
  | closeIdle (closing : a.stage = .closingIdle) :
      Step a .closeIdle { a.close a.idleFd with stage := .acceptingAgain }
  /-- A connection is accepted in place of `/dev/null`. -/
  | acceptAgain {fd : Int} {peer : Nat} {rest : List Nat} (accepting : a.stage = .acceptingAgain)
      (waits : a.pending = peer :: rest) (free : a.Free fd) :
      Step a .acceptAgain { a.install fd (.accepted peer) with
        pending := rest, idleFd := fd, stage := .closingAccepted }
  /-- There is nobody to accept, or no descriptor. -/
  | acceptAgainNone (accepting : a.stage = .acceptingAgain)
      (no : a.pending = [] ∨ ∀ fd, ¬a.Free fd) :
      Step a .acceptAgain { a with idleFd := -1, stage := .closingAccepted }
  /-- Any other error. -/
  | acceptAgainFails {errno : Nat} (accepting : a.stage = .acceptingAgain) :
      Step a (.fail errno) { a with idleFd := -1, stage := .closingAccepted }
  /-- `::close(m_idleFd)`. -/
  | closeAccepted (closing : a.stage = .closingAccepted) :
      Step a .closeAccepted { a.close a.idleFd with stage := .reopening }
  /-- `/dev/null` is open again. -/
  | reopen {fd : Int} (reopening : a.stage = .reopening) (free : a.Free fd) :
      Step a .reopen { a.install fd .devNull with idleFd := fd, stage := .idle }
  /-- There is no descriptor. -/
  | reopenNone (reopening : a.stage = .reopening) (full : ∀ fd, ¬a.Free fd) :
      Step a .reopen { a with idleFd := -1, stage := .idle }
  /-- Any other error. -/
  | reopenFails {errno : Nat} (reopening : a.stage = .reopening) :
      Step a (.fail errno) { a with idleFd := -1, stage := .idle }
  /-- The destructor closes `m_idleFd`, and then the listening socket. -/
  | destroy (idle : a.stage = .idle) :
      Step a .destroy { (a.close a.idleFd).close a.sockfd with stage := .destroyed }
  /-- A peer connects. -/
  | connect : Step a .connect { a with pending := a.pending ++ [a.peers], peers := a.peers + 1 }
  /-- A peer gives up. -/
  | withdraw {front back : List Nat} {peer : Nat} (waits : a.pending = front ++ peer :: back) :
      Step a (.withdraw peer)
        { a with pending := front ++ back, withdrawn := a.withdrawn ++ [peer] }
  /-- Another thread opens a descriptor. -/
  | openOther {fd : Int} (free : a.Free fd) : Step a (.openOther fd) (a.install fd .foreign)
  /-- Another thread closes what it owns. -/
  | closeOther {fd : Int} {file : OpenFile} (there : a.table fd = some file)
      (owns : file.isForeign = true) :
      Step a (.closeOther fd) { a with table := update a.table fd none }

/-- After the constructor, in a process with any descriptors of others. -/
structure Fresh (a : Acceptor) : Prop where
  /-- The kernel gives out descriptors in these bounds. -/
  bounds : ∀ fd file, a.table fd = some file → 0 ≤ fd ∧ fd < a.limit
  /-- The listening socket. -/
  socket : a.table a.sockfd = some .acceptSocket
  /-- `assert(m_idleFd >= 0 )`. -/
  idle : a.table a.idleFd = some .devNull
  /-- Everything else is of others. -/
  others : ∀ fd file, a.table fd = some file → fd ≠ a.sockfd → fd ≠ a.idleFd →
    file.isForeign = true
  /-- Nobody has connected. -/
  nobody : a.pending = [] ∧ a.peers = 0 ∧ a.served = [] ∧ a.refused = [] ∧ a.withdrawn = []
  /-- Nothing has happened. -/
  start : a.stage = .idle ∧ a.isListening = false ∧ a.trespasses = 0

/-- What is open for the acceptor besides the listening socket. -/
def Owns (a : Acceptor) (fd : Int) (file : OpenFile) : Prop :=
  match a.stage with
  | .delivering connfd =>
    fd = a.idleFd ∧ file = .devNull ∨ fd = connfd ∧ ∃ peer, file = .accepted peer
  | .closingAccepted => fd = a.idleFd ∧ ∃ peer, file = .accepted peer
  | .acceptingAgain => False
  | .reopening => False
  | .destroyed => False
  | _ => fd = a.idleFd ∧ file = .devNull

/-- `m_idleFd` is `/dev/null`, or no descriptor. -/
def HasIdle (a : Acceptor) : Prop := a.idleFd = -1 ∨ a.table a.idleFd = some .devNull

/-- What the acceptor has in hand is open. -/
def Holds (a : Acceptor) : Prop :=
  match a.stage with
  | .delivering connfd => a.HasIdle ∧ ∃ peer, a.table connfd = some (.accepted peer)
  | .closingAccepted => a.idleFd = -1 ∨ ∃ peer, a.table a.idleFd = some (.accepted peer)
  | .acceptingAgain => True
  | .reopening => True
  | .destroyed => True
  | _ => a.HasIdle

/-- The peer of a connection that is accepted. -/
def peerAt (table : Int → Option OpenFile) (fd : Int) : List Nat :=
  match table fd with
  | some (.accepted peer) => [peer]
  | _ => []

/-- The peer whose connection the acceptor has in hand. -/
def inHand (a : Acceptor) : List Nat :=
  match a.stage with
  | .delivering connfd => peerAt a.table connfd
  | .closingAccepted => peerAt a.table a.idleFd
  | _ => []

/-- The acceptor closes nothing of others, what is open for it is what it has in hand, and every
peer is in one place. -/
structure Sound (a : Acceptor) : Prop where
  /-- The kernel gives out descriptors in these bounds. -/
  bounds : ∀ fd file, a.table fd = some file → 0 ≤ fd ∧ fd < a.limit
  /-- Nothing of others was closed. -/
  harmless : a.trespasses = 0
  /-- The listening socket. -/
  socket : a.stage ≠ .destroyed → a.table a.sockfd = some .acceptSocket
  /-- What is open. -/
  files : ∀ fd file, a.table fd = some file → file.isForeign = true ∨
    (a.stage ≠ .destroyed ∧ fd = a.sockfd ∧ file = .acceptSocket) ∨ a.Owns fd file
  /-- What is in hand. -/
  holds : a.Holds
  /-- The peers. -/
  peers : ∀ peer, a.served.count peer + a.refused.count peer + a.withdrawn.count peer +
    a.inHand.count peer + a.pending.count peer = if peer < a.peers then 1 else 0

variable {a after : Acceptor} {action : AcceptAction} {fd other : Int} {file : OpenFile}

/-- At the beginning. -/
theorem Fresh.sound (fresh : a.Fresh) : a.Sound := by
  obtain ⟨pending, peers, served, refused, withdrawn⟩ := fresh.nobody
  obtain ⟨stage, -, harmless⟩ := fresh.start
  refine ⟨fresh.bounds, harmless, fun _ => fresh.socket, ?_, ?_, ?_⟩
  · intro fd file there
    by_cases socket : fd = a.sockfd
    · subst socket
      rw [fresh.socket, Option.some.injEq] at there
      exact .inr (.inl ⟨by simp [stage], rfl, there.symm⟩)
    · by_cases idle : fd = a.idleFd
      · subst idle
        rw [fresh.idle, Option.some.injEq] at there
        refine .inr (.inr ?_)
        simp [Owns, stage, there.symm]
      · exact .inl (fresh.others fd file there socket idle)
  · simp [Holds, stage, HasIdle, fresh.idle]
  · simp [pending, peers, served, refused, withdrawn, inHand, stage]

/-- What is open after a close was open before. -/
theorem of_closed {table : Int → Option OpenFile}
    (there : update table fd none other = some file) : other ≠ fd ∧ table other = some file := by
  by_cases same : other = fd
  · simp [same] at there
  · rw [update_of_ne same] at there
    exact ⟨same, there⟩

/-- What is open after something was opened. -/
theorem of_opened {table : Int → Option OpenFile} {opened : OpenFile}
    (there : update table fd (some opened) other = some file) :
    other = fd ∧ file = opened ∨ other ≠ fd ∧ table other = some file := by
  by_cases same : other = fd
  · subst same
    rw [update_self, Option.some.injEq] at there
    exact .inl ⟨rfl, there.symm⟩
  · rw [update_of_ne same] at there
    exact .inr ⟨same, there⟩

/-- The acceptor closes `/dev/null` or the listening socket. -/
theorem close_own (there : a.table fd = some file) (own : file.isForeign = false)
    (unused : ∀ peer, file ≠ .accepted peer) :
    a.close fd = { a with table := update a.table fd none } := by
  rw [close, there]
  cases file with
  | accepted peer => exact absurd rfl (unused peer)
  | _ => simp [own]

/-- The acceptor closes a connection. -/
theorem close_accepted {peer : Nat} (there : a.table fd = some (.accepted peer)) :
    a.close fd =
      { a with table := update a.table fd none, refused := a.refused ++ [peer] } := by
  rw [close, there]

/-- The callback gets a connection. -/
theorem handOver_accepted {peer : Nat} (there : a.table fd = some (.accepted peer)) :
    a.handOver fd =
      { a with
        table := update a.table fd (some (.served peer))
        served := a.served ++ [peer] } := by
  rw [handOver, there]

/-- Nothing is open under -1. -/
theorem Sound.close_none (sound : a.Sound) : a.close (-1) = a := by
  have nothing : a.table (-1) = none := by
    by_contra some
    obtain ⟨file, there⟩ := Option.ne_none_iff_exists'.mp some
    have bound := (sound.bounds _ _ there).1
    omega
  rw [close, nothing]

/-- A stage in which the acceptor has nothing but `/dev/null` in hand. -/
def Rests : AcceptStage → Prop
  | .idle => True
  | .accepting => True
  | .logging _ => True
  | .closingIdle => True
  | .aborted => True
  | _ => False

/-- What a resting acceptor owns. -/
theorem owns_of_rests (rests : Rests a.stage) :
    a.Owns fd file ↔ fd = a.idleFd ∧ file = .devNull := by
  unfold Owns
  cases stage : a.stage <;> simp [stage, Rests] at rests ⊢

/-- What a resting acceptor holds. -/
theorem holds_of_rests (rests : Rests a.stage) : a.Holds ↔ a.HasIdle := by
  unfold Holds
  cases stage : a.stage <;> simp [stage, Rests] at rests ⊢

/-- A resting acceptor has no connection in hand. -/
theorem inHand_of_rests (rests : Rests a.stage) : a.inHand = [] := by
  unfold inHand
  cases stage : a.stage <;> simp [stage, Rests] at rests ⊢

/-- A resting acceptor has its listening socket. -/
theorem Rests.alive {stage : AcceptStage} (rests : Rests stage) : stage ≠ .destroyed := by
  intro destroyed
  simp [destroyed, Rests] at rests

/-- The acceptor goes from rest to rest. -/
theorem Sound.restage (sound : a.Sound) {stage : AcceptStage} (rests : Rests a.stage)
    (still : Rests stage) : Sound { a with stage } := by
  refine ⟨sound.bounds, sound.harmless, fun _ => sound.socket rests.alive, ?_, ?_, ?_⟩
  · intro fd file there
    rw [owns_of_rests still]
    have files := sound.files fd file there
    rw [owns_of_rests rests] at files
    exact files.imp_right fun own => own.imp_left fun socket => ⟨still.alive, socket.2⟩
  · rw [holds_of_rests still]
    exact (holds_of_rests rests).mp sound.holds
  · have peers := sound.peers
    rw [inHand_of_rests rests] at peers
    rw [inHand_of_rests still]
    exact peers

/-- Others change only what is theirs. -/
theorem Sound.frame (sound : a.Sound) {table : Int → Option OpenFile}
    (bounds : ∀ fd file, table fd = some file → 0 ≤ fd ∧ fd < a.limit)
    (same : ∀ fd file, file.isForeign = false → (table fd = some file ↔ a.table fd = some file)) :
    Sound { a with table } := by
  have still (fd : Int) : peerAt table fd = peerAt a.table fd := by
    unfold peerAt
    cases old : a.table fd with
    | none =>
      cases new : table fd with
      | none => simp
      | some file =>
        cases file with
        | accepted peer =>
          rw [same fd _ rfl, old] at new
          cases new
        | _ => simp
    | some file =>
      cases file with
      | accepted peer => simp [(same fd _ rfl).mpr old]
      | _ =>
        cases new : table fd with
        | none => simp
        | some file =>
          cases file with
          | accepted peer =>
            rw [same fd _ rfl, old] at new
            cases new
          | _ => simp
  have idle (has : a.HasIdle) : HasIdle { a with table } :=
    has.imp_right fun there => (same _ _ rfl).mpr there
  refine ⟨bounds, sound.harmless, fun alive => (same _ _ rfl).mpr (sound.socket alive), ?_, ?_, ?_⟩
  · intro fd file there
    cases foreign : file.isForeign with
    | true => exact .inl rfl
    | false =>
      have files := sound.files fd file ((same fd file foreign).mp there)
      rw [foreign] at files
      exact files
  · have holds := sound.holds
    unfold Holds at holds ⊢
    cases stage : a.stage <;> simp only [stage] at holds ⊢
    case delivering connfd =>
      obtain ⟨has, peer, there⟩ := holds
      exact ⟨idle has, peer, (same _ _ rfl).mpr there⟩
    case closingAccepted =>
      exact holds.imp_right fun some => some.imp fun peer there => (same _ _ rfl).mpr there
    all_goals exact idle holds
  · have hand : inHand { a with table } = a.inHand := by
      unfold inHand
      cases stage : a.stage <;> simp only [still]
    rw [hand]
    exact sound.peers

/-- A connection is accepted. -/
theorem Sound.accept (sound : a.Sound) {peer : Nat} {rest : List Nat}
    (accepting : a.stage = .accepting) (waits : a.pending = peer :: rest) (free : a.Free fd) :
    Sound { a.install fd (.accepted peer) with pending := rest, stage := .delivering fd } := by
  have rests : Rests a.stage := by simp [accepting, Rests]
  have socket := sound.socket rests.alive
  have idle := (holds_of_rests rests).mp sound.holds
  have apart (other : Int) (there : a.table other ≠ none) : other ≠ fd := by
    intro same
    exact there (same ▸ free.2.2)
  refine ⟨?_, sound.harmless, fun _ => ?_, ?_, ?_, ?_⟩
  · intro other file there
    obtain ⟨rfl, -⟩ | ⟨-, before⟩ := of_opened there
    · exact ⟨free.1, free.2.1⟩
    · exact sound.bounds other file before
  · show update a.table fd _ a.sockfd = _
    rw [update_of_ne (apart a.sockfd (by simp [socket])), socket]
  · intro other file there
    obtain ⟨rfl, rfl⟩ | ⟨-, before⟩ := of_opened there
    · exact .inr (.inr (.inr ⟨rfl, peer, rfl⟩))
    · have files := sound.files other file before
      rw [owns_of_rests rests] at files
      refine files.imp_right fun own => own.imp (fun own => ⟨?_, own.2⟩) .inl
      simp
  · refine ⟨?_, peer, update_self ..⟩
    refine idle.imp_right fun there => ?_
    show update a.table fd _ a.idleFd = _
    rw [update_of_ne (apart a.idleFd (by simp [there])), there]
  · have peers := sound.peers
    rw [inHand_of_rests rests, waits] at peers
    have hand : peerAt (update a.table fd (some (.accepted peer))) fd = [peer] := by simp [peerAt]
    intro one
    refine Eq.trans ?_ (peers one)
    simp only [inHand, install, hand, List.count_cons, List.count_nil]
    omega

/-- The callback gets the connection, or it is closed. -/
theorem Sound.deliver (sound : a.Sound) {connfd : Int} (delivering : a.stage = .delivering connfd) :
    Sound { (if a.hasCallback then a.handOver connfd else a.close connfd) with
      stage := .idle } := by
  have holds := sound.holds
  simp only [Holds, delivering] at holds
  obtain ⟨idle, peer, there⟩ := holds
  have alive : a.stage ≠ .destroyed := by simp [delivering]
  have socket := sound.socket alive
  have apart : a.sockfd ≠ connfd := by
    intro same
    rw [same, there] at socket
    cases socket
  have distinct (has : a.table a.idleFd = some .devNull) : a.idleFd ≠ connfd := by
    intro same
    rw [same, there] at has
    cases has
  have peers := sound.peers
  have hand : peerAt a.table connfd = [peer] := by simp [peerAt, there]
  simp only [inHand, delivering, hand] at peers
  have files (other : Int) (file : OpenFile) (different : other ≠ connfd)
      (before : a.table other = some file) : file.isForeign = true ∨
      (other = a.sockfd ∧ file = .acceptSocket) ∨ other = a.idleFd ∧ file = .devNull := by
    have own := sound.files other file before
    simp only [Owns, delivering] at own
    obtain foreign | ⟨-, socket⟩ | idle | conn := own
    · exact .inl foreign
    · exact .inr (.inl socket)
    · exact .inr (.inr idle)
    · exact absurd conn.1 different
  cases a.hasCallback with
  | true =>
    rw [if_pos rfl, handOver_accepted there]
    refine ⟨?_, sound.harmless, fun _ => ?_, ?_, ?_, ?_⟩
    · intro other file now
      obtain ⟨rfl, -⟩ | ⟨-, before⟩ := of_opened now
      · exact sound.bounds other _ there
      · exact sound.bounds other file before
    · show update a.table connfd _ a.sockfd = _
      rw [update_of_ne apart, socket]
    · intro other file now
      obtain ⟨rfl, rfl⟩ | ⟨different, before⟩ := of_opened now
      · exact .inl rfl
      · have own := files other file different before
        exact own.imp_right fun own => own.imp_left fun own => ⟨by simp, own⟩
    · refine idle.imp_right fun has => ?_
      show update a.table connfd _ a.idleFd = _
      rw [update_of_ne (distinct has), has]
    · intro one
      have once := peers one
      simp only [inHand, List.count_append, List.count_nil] at once ⊢
      omega
  | false =>
    rw [if_neg Bool.false_ne_true, close_accepted there]
    refine ⟨?_, sound.harmless, fun _ => ?_, ?_, ?_, ?_⟩
    · intro other file now
      exact sound.bounds other file (of_closed now).2
    · show update a.table connfd _ a.sockfd = _
      rw [update_of_ne apart, socket]
    · intro other file now
      obtain ⟨different, before⟩ := of_closed now
      have own := files other file different before
      exact own.imp_right fun own => own.imp_left fun own => ⟨by simp, own⟩
    · refine idle.imp_right fun has => ?_
      show update a.table connfd _ a.idleFd = _
      rw [update_of_ne (distinct has), has]
    · intro one
      have once := peers one
      simp only [inHand, List.count_append, List.count_nil] at once ⊢
      omega

/-- `/dev/null` is closed. -/
theorem Sound.closeIdle (sound : a.Sound) (closing : a.stage = .closingIdle) :
    Sound { a.close a.idleFd with stage := .acceptingAgain } := by
  have rests : Rests a.stage := by simp [closing, Rests]
  have socket := sound.socket rests.alive
  have files (other : Int) (file : OpenFile) (there : a.table other = some file) :
      file.isForeign = true ∨ (other = a.sockfd ∧ file = .acceptSocket) ∨
        other = a.idleFd ∧ file = .devNull := by
    have own := sound.files other file there
    rw [owns_of_rests rests] at own
    exact own.imp_right fun own => own.imp_left fun socket => socket.2
  have peers := sound.peers
  rw [inHand_of_rests rests] at peers
  obtain none | idle := (holds_of_rests rests).mp sound.holds
  · rw [none, sound.close_none]
    refine ⟨sound.bounds, sound.harmless, fun _ => socket, ?_, trivial, peers⟩
    intro other file there
    obtain foreign | own | own := files other file there
    · exact .inl foreign
    · exact .inr (.inl ⟨by simp, own⟩)
    · rw [own.1, none] at there
      have bound := (sound.bounds _ _ there).1
      omega
  · rw [close_own idle rfl (by simp)]
    refine ⟨?_, sound.harmless, fun _ => ?_, ?_, trivial, peers⟩
    · intro other file now
      exact sound.bounds other file (of_closed now).2
    · have apart : a.sockfd ≠ a.idleFd := by
        intro same
        rw [same, idle] at socket
        cases socket
      show update a.table a.idleFd _ a.sockfd = _
      rw [update_of_ne apart, socket]
    · intro other file now
      obtain ⟨different, there⟩ := of_closed now
      obtain foreign | own | own := files other file there
      · exact .inl foreign
      · exact .inr (.inl ⟨by simp, own⟩)
      · exact absurd own.1 different

/-- The acceptor has nothing but its socket between two system calls. -/
theorem Sound.bare (sound : a.Sound) (bare : a.stage = .acceptingAgain ∨ a.stage = .reopening) :
    a.table a.sockfd = some .acceptSocket ∧ a.inHand = [] ∧
      ∀ fd file, a.table fd = some file →
        file.isForeign = true ∨ fd = a.sockfd ∧ file = .acceptSocket := by
  have alive : a.stage ≠ .destroyed := by
    obtain stage | stage := bare <;> simp [stage]
  refine ⟨sound.socket alive, ?_, fun fd file there => ?_⟩
  · obtain stage | stage := bare <;> simp [inHand, stage]
  · obtain foreign | socket | own := sound.files fd file there
    · exact .inl foreign
    · exact .inr socket.2
    · obtain stage | stage := bare <;> simp [Owns, stage] at own

/-- A connection is accepted in place of `/dev/null`. -/
theorem Sound.acceptAgain (sound : a.Sound) {peer : Nat} {rest : List Nat}
    (accepting : a.stage = .acceptingAgain) (waits : a.pending = peer :: rest)
    (free : a.Free fd) :
    Sound { a.install fd (.accepted peer) with
      pending := rest, idleFd := fd, stage := .closingAccepted } := by
  obtain ⟨socket, hand, files⟩ := sound.bare (.inl accepting)
  refine ⟨?_, sound.harmless, fun _ => ?_, ?_, ?_, ?_⟩
  · intro other file there
    obtain ⟨rfl, -⟩ | ⟨-, before⟩ := of_opened there
    · exact ⟨free.1, free.2.1⟩
    · exact sound.bounds other file before
  · have apart : a.sockfd ≠ fd := by
      intro same
      rw [same, free.2.2] at socket
      cases socket
    show update a.table fd _ a.sockfd = _
    rw [update_of_ne apart, socket]
  · intro other file there
    obtain ⟨rfl, rfl⟩ | ⟨-, before⟩ := of_opened there
    · exact .inr (.inr ⟨rfl, peer, rfl⟩)
    · exact (files other file before).imp_right fun own => .inl ⟨by simp, own⟩
  · exact .inr ⟨peer, update_self ..⟩
  · intro one
    have once := sound.peers one
    have there : peerAt (update a.table fd (some (.accepted peer))) fd = [peer] := by simp [peerAt]
    rw [hand, waits] at once
    refine Eq.trans ?_ once
    simp only [inHand, install, there, List.count_cons, List.count_nil]
    omega

/-- No connection is accepted in place of `/dev/null`. -/
theorem Sound.acceptAgainNone (sound : a.Sound) (accepting : a.stage = .acceptingAgain) :
    Sound { a with idleFd := -1, stage := .closingAccepted } := by
  obtain ⟨socket, hand, files⟩ := sound.bare (.inl accepting)
  refine ⟨sound.bounds, sound.harmless, fun _ => socket, ?_, .inl rfl, ?_⟩
  · intro other file there
    exact (files other file there).imp_right fun own => .inl ⟨by simp, own⟩
  · intro one
    have once := sound.peers one
    have nothing : peerAt a.table (-1) = [] := by
      unfold peerAt
      cases there : a.table (-1) with
      | none => rfl
      | some file =>
        have bound := (sound.bounds _ _ there).1
        omega
    rw [hand] at once
    simpa [inHand, nothing] using once

/-- The connection that was accepted in place of `/dev/null` is closed. -/
theorem Sound.closeAccepted (sound : a.Sound) (closing : a.stage = .closingAccepted) :
    Sound { a.close a.idleFd with stage := .reopening } := by
  have socket := sound.socket (by simp [closing])
  have holds := sound.holds
  simp only [Holds, closing] at holds
  have files (other : Int) (file : OpenFile) (there : a.table other = some file) :
      file.isForeign = true ∨ (other = a.sockfd ∧ file = .acceptSocket) ∨ other = a.idleFd := by
    have own := sound.files other file there
    simp only [Owns, closing] at own
    exact own.imp_right fun own => own.imp (fun socket => socket.2) fun conn => conn.1
  obtain none | ⟨peer, there⟩ := holds
  · rw [none, sound.close_none]
    refine ⟨sound.bounds, sound.harmless, fun _ => socket, ?_, trivial, ?_⟩
    · intro other file there
      obtain foreign | own | own := files other file there
      · exact .inl foreign
      · exact .inr (.inl ⟨by simp, own⟩)
      · rw [own, none] at there
        have bound := (sound.bounds _ _ there).1
        omega
    · intro one
      have once := sound.peers one
      have nothing : peerAt a.table a.idleFd = [] := by
        unfold peerAt
        cases there : a.table a.idleFd with
        | none => rfl
        | some file =>
          have bound := (sound.bounds _ _ there).1
          omega
      simpa [inHand, closing, nothing] using once
  · rw [close_accepted there]
    refine ⟨?_, sound.harmless, fun _ => ?_, ?_, trivial, ?_⟩
    · intro other file now
      exact sound.bounds other file (of_closed now).2
    · have apart : a.sockfd ≠ a.idleFd := by
        intro same
        rw [same, there] at socket
        cases socket
      show update a.table a.idleFd _ a.sockfd = _
      rw [update_of_ne apart, socket]
    · intro other file now
      obtain ⟨different, before⟩ := of_closed now
      obtain foreign | own | own := files other file before
      · exact .inl foreign
      · exact .inr (.inl ⟨by simp, own⟩)
      · exact absurd own different
    · intro one
      have once := sound.peers one
      have hand : peerAt a.table a.idleFd = [peer] := by simp [peerAt, there]
      simp only [inHand, closing, hand, List.count_append, List.count_nil] at once ⊢
      omega

/-- `/dev/null` is open again. -/
theorem Sound.reopen (sound : a.Sound) (reopening : a.stage = .reopening) (free : a.Free fd) :
    Sound { a.install fd .devNull with idleFd := fd, stage := .idle } := by
  obtain ⟨socket, hand, files⟩ := sound.bare (.inr reopening)
  refine ⟨?_, sound.harmless, fun _ => ?_, ?_, ?_, ?_⟩
  · intro other file there
    obtain ⟨rfl, -⟩ | ⟨-, before⟩ := of_opened there
    · exact ⟨free.1, free.2.1⟩
    · exact sound.bounds other file before
  · have apart : a.sockfd ≠ fd := by
      intro same
      rw [same, free.2.2] at socket
      cases socket
    show update a.table fd _ a.sockfd = _
    rw [update_of_ne apart, socket]
  · intro other file there
    obtain ⟨rfl, rfl⟩ | ⟨-, before⟩ := of_opened there
    · exact .inr (.inr ⟨rfl, rfl⟩)
    · exact (files other file before).imp_right fun own => .inl ⟨by simp, own⟩
  · exact .inr (update_self ..)
  · intro one
    have once := sound.peers one
    rw [hand] at once
    exact once

/-- `/dev/null` is not open again. -/
theorem Sound.reopenNone (sound : a.Sound) (reopening : a.stage = .reopening) :
    Sound { a with idleFd := -1, stage := .idle } := by
  obtain ⟨socket, hand, files⟩ := sound.bare (.inr reopening)
  refine ⟨sound.bounds, sound.harmless, fun _ => socket, ?_, .inl rfl, ?_⟩
  · intro other file there
    exact (files other file there).imp_right fun own => .inl ⟨by simp, own⟩
  · intro one
    have once := sound.peers one
    rw [hand] at once
    exact once

/-- The destructor closes both descriptors. -/
theorem Sound.destroy (sound : a.Sound) (idle : a.stage = .idle) :
    Sound { (a.close a.idleFd).close a.sockfd with stage := .destroyed } := by
  have rests : Rests a.stage := by simp [idle, Rests]
  have socket := sound.socket rests.alive
  have peers := sound.peers
  rw [inHand_of_rests rests] at peers
  have files (other : Int) (file : OpenFile) (there : a.table other = some file) :
      file.isForeign = true ∨ other = a.sockfd ∨ other = a.idleFd := by
    have own := sound.files other file there
    rw [owns_of_rests rests] at own
    exact own.imp_right fun own => own.imp (fun socket => socket.2.1) fun idle => idle.1
  have closed : ∃ table, (a.close a.idleFd).close a.sockfd =
      { a with table := update table a.sockfd none } ∧
        ∀ fd file, table fd = some file → a.table fd = some file ∧ fd ≠ a.idleFd := by
    obtain none | has := (holds_of_rests rests).mp sound.holds
    · refine ⟨a.table, ?_, fun fd file there => ⟨there, ?_⟩⟩
      · have same : a.close a.idleFd = a := by rw [none, sound.close_none]
        rw [same]
        exact close_own socket rfl (by simp)
      · have bound := (sound.bounds fd file there).1
        omega
    · refine ⟨update a.table a.idleFd none, ?_, fun fd file there => ?_⟩
      · have apart : a.sockfd ≠ a.idleFd := by
          intro same
          rw [same, has] at socket
          cases socket
        have still : update a.table a.idleFd none a.sockfd = some .acceptSocket := by
          rw [update_of_ne apart, socket]
        rw [close_own has rfl (by simp)]
        exact close_own still rfl (by simp)
      · obtain ⟨different, before⟩ := of_closed there
        exact ⟨before, different⟩
  obtain ⟨table, same, before⟩ := closed
  rw [same]
  refine ⟨?_, sound.harmless, fun alive => absurd rfl alive, ?_, trivial, peers⟩
  · intro other file now
    exact sound.bounds other file (before other file (of_closed now).2).1
  · intro other file now
    obtain ⟨different, there⟩ := of_closed now
    obtain ⟨old, apart⟩ := before other file there
    obtain foreign | socket | idle := files other file old
    · exact .inl foreign
    · exact absurd socket different
    · exact absurd idle apart

/-- Another thread opens a descriptor. -/
theorem Sound.openOther (sound : a.Sound) (free : a.Free fd) : Sound (a.install fd .foreign) := by
  apply sound.frame
  · intro other file there
    obtain ⟨rfl, -⟩ | ⟨-, before⟩ := of_opened there
    · exact ⟨free.1, free.2.1⟩
    · exact sound.bounds other file before
  · intro other file own
    by_cases same : other = fd
    · subst same
      rw [update_self, free.2.2]
      constructor
      · intro foreign
        rw [Option.some.injEq] at foreign
        rw [← foreign] at own
        cases own
      · simp
    · rw [update_of_ne same]

/-- Another thread closes what it owns. -/
theorem Sound.closeOther (sound : a.Sound) (there : a.table fd = some file)
    (owns : file.isForeign = true) : Sound { a with table := update a.table fd none } := by
  apply sound.frame
  · intro other file now
    exact sound.bounds other file (of_closed now).2
  · intro other found own
    by_cases same : other = fd
    · subst same
      rw [update_self, there, Option.some.injEq]
      constructor
      · simp
      · intro foreign
        rw [← foreign, owns] at own
        cases own
    · rw [update_of_ne same]

/-- Every step keeps everything. -/
theorem Step.sound (step : Step a action after) (sound : a.Sound) : after.Sound := by
  cases step with
  | listen idle =>
    exact ⟨sound.bounds, sound.harmless, sound.socket, sound.files, sound.holds, sound.peers⟩
  | handleRead idle => exact sound.restage (by simp [idle, Rests]) trivial
  | accept accepting waits free => exact sound.accept accepting waits free
  | acceptNone accepting => exact sound.restage (by simp [accepting, Rests]) trivial
  | acceptFull accepting => exact sound.restage (by simp [accepting, Rests]) trivial
  | acceptFails accepting =>
    apply sound.restage
    · simp [accepting, Rests]
    · split <;> trivial
  | log logging =>
    apply sound.restage
    · simp [logging, Rests]
    · split <;> trivial
  | deliver delivering => exact sound.deliver delivering
  | closeIdle closing => exact sound.closeIdle closing
  | acceptAgain accepting waits free => exact sound.acceptAgain accepting waits free
  | acceptAgainNone accepting => exact sound.acceptAgainNone accepting
  | acceptAgainFails accepting => exact sound.acceptAgainNone accepting
  | closeAccepted closing => exact sound.closeAccepted closing
  | reopen reopening free => exact sound.reopen reopening free
  | reopenNone reopening => exact sound.reopenNone reopening
  | reopenFails reopening => exact sound.reopenNone reopening
  | destroy idle => exact sound.destroy idle
  | connect =>
    refine ⟨sound.bounds, sound.harmless, sound.socket, sound.files, sound.holds, ?_⟩
    intro one
    have once := sound.peers one
    show _ + (a.pending ++ [a.peers]).count one = if one < a.peers + 1 then 1 else 0
    rw [List.count_append, List.count_singleton]
    by_cases new : a.peers = one
    · subst new
      simp only [Nat.lt_irrefl, if_false] at once
      simp only [beq_self_eq_true, if_true, Nat.lt_succ_self]
      show _ + _ + _ + a.inHand.count a.peers + _ = 1
      omega
    · have same : (one < a.peers + 1) = (one < a.peers) := by
        apply propext
        omega
      simp only [beq_iff_eq, new, if_false, same]
      exact once
  | @withdraw front back peer waits =>
    refine ⟨sound.bounds, sound.harmless, sound.socket, sound.files, sound.holds, ?_⟩
    intro one
    have once := sound.peers one
    rw [waits] at once
    refine Eq.trans ?_ once
    show _ + _ + (a.withdrawn ++ [peer]).count one + a.inHand.count one + _ = _
    simp only [List.count_append, List.count_cons, List.count_nil]
    omega
  | openOther free => exact sound.openOther free
  | closeOther there owns => exact sound.closeOther there owns

/-- Whatever other threads and peers do between the system calls of the acceptor: it never closes a
descriptor that is not its own; every peer that has connected waits, gave up, was passed to the
callback or had its connection closed by the acceptor, one of them and once, but for the one in
hand; between two events the acceptor has nothing open but its listening socket and `m_idleFd`; and
after the destructor it has nothing open. -/
theorem descriptors_of_run (first : Acceptor) (fresh : first.Fresh) (actions : List AcceptAction)
    (a : Acceptor) (run : Run Step first actions a) :
    a.trespasses = 0 ∧
      (∀ peer, a.served.count peer + a.refused.count peer + a.withdrawn.count peer +
        a.inHand.count peer + a.pending.count peer = if peer < a.peers then 1 else 0) ∧
      (a.stage = .idle → a.inHand = [] ∧ ∀ fd file, a.table fd = some file →
        file.isForeign = true ∨ fd = a.sockfd ∧ file = .acceptSocket ∨
          fd = a.idleFd ∧ file = .devNull) ∧
      (a.stage = .destroyed → ∀ fd file, a.table fd = some file → file.isForeign = true) := by
  have sound : a.Sound := run.invariant fresh.sound fun _ _ _ sound step => step.sound sound
  refine ⟨sound.harmless, sound.peers, fun idle => ?_, fun destroyed fd file there => ?_⟩
  · have rests : Rests a.stage := by simp [idle, Rests]
    refine ⟨inHand_of_rests rests, fun fd file there => ?_⟩
    have own := sound.files fd file there
    rw [owns_of_rests rests] at own
    exact own.imp_right fun own => own.imp_left fun socket => socket.2
  · obtain foreign | socket | own := sound.files fd file there
    · exact foreign
    · exact absurd destroyed socket.1
    · simp [Owns, destroyed] at own

/-- The acceptor of a process that has room for its two descriptors only. -/
def cramped : Acceptor where
  limit := 2
  table fd := if fd = 0 then some .acceptSocket else if fd = 1 then some .devNull else none
  pending := []
  peers := 0
  sockfd := 0
  idleFd := 1
  hasCallback := true
  isListening := false
  stage := .idle
  served := []
  refused := []
  withdrawn := []
  trespasses := 0

/-- It is as its constructor left it. -/
theorem cramped_fresh : cramped.Fresh := by
  refine ⟨?_, rfl, rfl, ?_, by simp [cramped], by simp [cramped]⟩
  · intro fd file there
    simp only [cramped] at there ⊢
    split at there
    · omega
    · split at there
      · omega
      · cases there
  · intro fd file there socket idle
    simp only [cramped] at there socket idle
    simp [socket, idle] at there

/-- No descriptor is left. -/
theorem cramped_full (fd : Int) (free : cramped.Free fd) : False := by
  obtain ⟨low, high, nothing⟩ := free
  simp only [cramped] at high nothing
  have first : fd = 0 ∨ fd = 1 := by omega
  obtain rfl | rfl := first <;> simp at nothing

/-- A peer connects, and its connection is closed in place of `/dev/null`. -/
theorem descriptors_of_run_full : ∃ a, Run Step cramped [.listen, .connect, .handleRead, .accept,
    .log none, .closeIdle, .acceptAgain, .closeAccepted, .reopen] a ∧ a.stage = .idle ∧
      a.refused = [0] ∧ a.trespasses = 0 := by
  have run : Run Step cramped [.listen, .connect, .handleRead, .accept, .log none, .closeIdle,
      .acceptAgain, .closeAccepted, .reopen] _ :=
    .cons (.listen rfl) <| .cons .connect <| .cons (.handleRead rfl rfl) <|
      .cons (.acceptFull rfl cramped_full) <| .cons (.log rfl) <| .cons (.closeIdle rfl) <|
      .cons (.acceptAgain rfl rfl (show Free _ 1 from ⟨by decide, by decide, rfl⟩)) <|
      .cons (.closeAccepted rfl) <|
      .cons (.reopen rfl (show Free _ 1 from ⟨by decide, by decide, rfl⟩)) <| .nil _
  exact ⟨_, run, rfl, by decide, (descriptors_of_run cramped cramped_fresh _ _ run).1⟩

/-- A system call of `handleRead()` that does not fail by chance, or logging that keeps `errno`. -/
def Undisturbed : AcceptAction → Prop
  | .accept => True
  | .deliver => True
  | .log changed => changed = none
  | .closeIdle => True
  | .acceptAgain => True
  | .closeAccepted => True
  | .reopen => True
  | _ => False

/-- `handleRead()` is about to serve the first of the peers that wait, or has served it. -/
def Serves (peer : Nat) (rest : List Nat) (a : Acceptor) : Prop :=
  match a.stage with
  | .accepting => a.pending = peer :: rest ∧ a.table a.idleFd = some .devNull
  | .delivering connfd => a.pending = rest ∧ a.table a.idleFd = some .devNull ∧
    a.table connfd = some (.accepted peer)
  | .logging errno =>
    errno = eMFile ∧ a.pending = peer :: rest ∧ a.table a.idleFd = some .devNull
  | .closingIdle => a.pending = peer :: rest ∧ a.table a.idleFd = some .devNull
  | .acceptingAgain => a.pending = peer :: rest ∧ a.Free a.idleFd
  | .closingAccepted => a.pending = rest ∧ a.table a.idleFd = some (.accepted peer)
  | .reopening => a.pending = rest ∧ a.Free a.idleFd ∧ peer ∈ a.refused
  | .idle => a.pending = rest ∧ a.table a.idleFd = some .devNull ∧
    (peer ∈ a.served ∨ peer ∈ a.refused)
  | _ => False

/-- How many system calls `handleRead()` still makes at most. -/
def remaining : AcceptStage → Nat
  | .accepting => 6
  | .logging _ => 5
  | .closingIdle => 4
  | .acceptingAgain => 3
  | .closingAccepted => 2
  | .reopening => 1
  | .delivering _ => 1
  | _ => 0

/-- Another descriptor is left as it was. -/
theorem table_of_ne (there : a.table other = some file) (free : a.table fd = none)
    (opened : OpenFile) : update a.table fd (some opened) other = some file := by
  have apart : other ≠ fd := by
    intro same
    rw [same, free] at there
    cases there
  rw [update_of_ne apart, there]

/-- A system call that nobody disturbs goes on with the first peer. -/
theorem Step.serves {peer : Nat} {rest : List Nat} (step : Step a action after)
    (undisturbed : Undisturbed action) (sound : a.Sound) (serves : a.Serves peer rest) :
    after.Serves peer rest := by
  have freed {fd : Int} (there : a.table fd ≠ none) : 0 ≤ fd ∧ fd < a.limit ∧
      update a.table fd none fd = none := by
    obtain ⟨file, found⟩ := Option.ne_none_iff_exists'.mp there
    have bounds := sound.bounds fd file found
    exact ⟨bounds.1, bounds.2, update_self ..⟩
  cases step with
  | accept accepting waits free =>
    simp only [Serves, accepting, waits, List.cons.injEq] at serves
    obtain ⟨⟨rfl, rfl⟩, idle⟩ := serves
    exact ⟨rfl, table_of_ne idle free.2.2 _, update_self ..⟩
  | acceptNone accepting nobody => simp [Serves, accepting, nobody] at serves
  | acceptFull accepting full =>
    simp only [Serves, accepting] at serves
    exact ⟨rfl, serves⟩
  | log logging =>
    simp only [Serves, logging] at serves
    obtain ⟨rfl, waits⟩ := serves
    obtain rfl : _ = none := undisturbed
    exact waits
  | @deliver connfd delivering =>
    simp only [Serves, delivering] at serves
    obtain ⟨waits, idle, conn⟩ := serves
    have apart : a.idleFd ≠ connfd := by
      intro same
      rw [same, conn] at idle
      cases idle
    cases a.hasCallback with
    | true =>
      rw [if_pos rfl, handOver_accepted conn]
      refine ⟨waits, ?_, .inl (by simp)⟩
      show update a.table connfd _ a.idleFd = _
      rw [update_of_ne apart, idle]
    | false =>
      rw [if_neg Bool.false_ne_true, close_accepted conn]
      refine ⟨waits, ?_, .inr (by simp)⟩
      show update a.table connfd _ a.idleFd = _
      rw [update_of_ne apart, idle]
  | closeIdle closing =>
    simp only [Serves, closing] at serves
    obtain ⟨waits, idle⟩ := serves
    rw [close_own idle rfl (by simp)]
    exact ⟨waits, freed (by simp [idle])⟩
  | acceptAgain accepting waits free =>
    simp only [Serves, accepting, waits, List.cons.injEq] at serves
    obtain ⟨⟨rfl, rfl⟩, -⟩ := serves
    exact ⟨rfl, update_self ..⟩
  | acceptAgainNone accepting no =>
    simp only [Serves, accepting] at serves
    obtain nobody | full := no
    · simp [nobody] at serves
    · exact absurd serves.2 (full a.idleFd)
  | closeAccepted closing =>
    simp only [Serves, closing] at serves
    obtain ⟨waits, conn⟩ := serves
    rw [close_accepted conn]
    exact ⟨waits, freed (by simp [conn]), by simp⟩
  | reopen reopening free =>
    simp only [Serves, reopening] at serves
    obtain ⟨waits, -, refused⟩ := serves
    exact ⟨waits, update_self .., .inr refused⟩
  | reopenNone reopening full =>
    simp only [Serves, reopening] at serves
    exact absurd serves.2.1 (full a.idleFd)
  | _ => exact absurd undisturbed id

/-- System calls that nobody disturbs go on with the first peer. -/
theorem Serves.of_run {peer : Nat} {rest : List Nat} {actions : List AcceptAction}
    (serves : a.Serves peer rest) (sound : a.Sound)
    (run : Run (Guarded Step fun _ => Undisturbed) a actions after) :
    after.Serves peer rest := by
  induction run with
  | nil => exact serves
  | cons head _ ih => exact ih (head.1.serves head.2 sound serves) (head.1.sound sound)

/-- As long as `handleRead()` has not returned, its next system call is possible. -/
theorem Serves.goes_on {peer : Nat} {rest : List Nat} (serves : a.Serves peer rest)
    (inside : a.stage ≠ .idle) : ∃ action after, Undisturbed action ∧ Step a action after ∧
      remaining after.stage < remaining a.stage := by
  unfold Serves at serves
  cases stage : a.stage <;> simp only [stage] at serves
  case idle => exact absurd stage inside
  case accepting =>
    by_cases full : ∀ fd, ¬a.Free fd
    · exact ⟨.accept, _, trivial, .acceptFull stage full, by simp [remaining]⟩
    · obtain ⟨fd, free⟩ := not_forall_not.mp full
      exact ⟨.accept, _, trivial, .accept stage serves.1 free, by simp [remaining]⟩
  case delivering connfd =>
    exact ⟨.deliver, _, trivial, .deliver stage, by simp [remaining]⟩
  case logging errno =>
    obtain ⟨rfl, -⟩ := serves
    exact ⟨.log none, _, rfl, .log stage, by simp [remaining]⟩
  case closingIdle => exact ⟨.closeIdle, _, trivial, .closeIdle stage, by simp [remaining]⟩
  case acceptingAgain =>
    exact ⟨.acceptAgain, _, trivial, .acceptAgain stage serves.1 serves.2, by simp [remaining]⟩
  case closingAccepted =>
    exact ⟨.closeAccepted, _, trivial, .closeAccepted stage, by simp [remaining]⟩
  case reopening => exact ⟨.reopen, _, trivial, .reopen stage serves.2.1, by simp [remaining]⟩

/-- `handleRead()` returns. -/
theorem Serves.returns {peer : Nat} {rest : List Nat} (sound : a.Sound)
    (serves : a.Serves peer rest) : ∃ actions last,
      Run (Guarded Step fun _ => Undisturbed) a actions last ∧ last.stage = .idle := by
  induction bound : remaining a.stage using Nat.strong_induction_on generalizing a with
  | _ bound' ih =>
    by_cases idle : a.stage = .idle
    · exact ⟨[], a, .nil a, idle⟩
    · obtain ⟨action, after, undisturbed, step, less⟩ := serves.goes_on idle
      rw [bound] at less
      obtain ⟨actions, last, run, returned⟩ :=
        ih _ less (step.sound sound) (step.serves undisturbed sound serves) rfl
      exact ⟨action :: actions, last, .cons ⟨step, undisturbed⟩ run, returned⟩

/-- A `handleRead()` that no other thread disturbs, and in which logging keeps the `errno` of
`accept`, takes care of exactly the first peer that waits, by the callback or by closing its
connection, whether the table of descriptors is full or not, and leaves `m_idleFd` open for the next
time. -/
theorem handleRead_serves_first (first : Acceptor) (fresh : first.Fresh)
    (before : List AcceptAction) (a : Acceptor) (run : Run Step first before a)
    (spare : a.idleFd ≠ -1) (peer : Nat) (rest : List Nat) (waits : a.pending = peer :: rest)
    (called : Acceptor) (call : Step a .handleRead called) :
    (∃ actions last, Run (Guarded Step fun _ => Undisturbed) called actions last ∧
        last.stage = .idle) ∧
      ∀ actions last, Run (Guarded Step fun _ => Undisturbed) called actions last →
        last.stage = .idle → last.pending = rest ∧ last.table last.idleFd = some .devNull ∧
          (peer ∈ last.served ∨ peer ∈ last.refused) := by
  have sound : a.Sound := run.invariant fresh.sound fun _ _ _ sound step => step.sound sound
  have sound' := call.sound sound
  have serves : called.Serves peer rest := by
    cases call with
    | handleRead idle listening =>
      have rests : Rests a.stage := by simp [idle, Rests]
      exact ⟨waits, ((holds_of_rests rests).mp sound.holds).resolve_left spare⟩
  refine ⟨serves.returns sound', fun actions last undisturbed returned => ?_⟩
  have served := serves.of_run sound' undisturbed
  simp only [Serves, returned] at served
  exact served

/-- The peer of a process without room for it is taken care of. -/
theorem handleRead_serves_first_full : ∃ called actions last,
    Step { cramped with isListening := true, pending := [0], peers := 1 } .handleRead called ∧
      Run (Guarded Step fun _ => Undisturbed) called actions last ∧ last.stage = .idle ∧
        last.pending = [] ∧ (0 ∈ last.served ∨ 0 ∈ last.refused) := by
  have before : Run Step cramped [.listen, .connect]
      { cramped with isListening := true, pending := [0], peers := 1 } :=
    .cons (.listen rfl) <| .cons .connect <| .nil _
  have call : Step { cramped with isListening := true, pending := [0], peers := 1 } .handleRead _ :=
    .handleRead rfl rfl
  obtain ⟨⟨actions, last, run, returned⟩, serves⟩ :=
    handleRead_serves_first cramped cramped_fresh _ _ before (by decide) 0 [] rfl _ call
  obtain ⟨pending, -, care⟩ := serves actions last run returned
  exact ⟨_, actions, last, call, run, returned, pending, care⟩

end Acceptor

end Muduo
