import Mathlib.Data.Option.Basic
import Mathlib.Logic.Function.Basic
import Mathlib.Tactic.Common

/-!
# Ledgers of resources under reusable handles

A resource is opened under a handle that is free, and the handle is free again after the resource is
closed, so handles do not tell resources apart. A ledger numbers the resources in the order in which
they were opened and counts, for each, how often its owner closed it and how often its owner gave it
away; what is given away is closed by others. A close or a gift under a free handle is stray.
-/

/-- What happened to the resources that an owner opened. -/
structure Ledger (δ : Type) where
  /-- The open resource under a handle. -/
  table : δ → Option Nat
  /-- How many resources were opened. -/
  opened : Nat
  /-- How often the owner closed a resource. -/
  closes : Nat → Nat
  /-- How often the owner gave a resource away. -/
  gifts : Nat → Nat
  /-- How often the owner closed or gave away what is not there. -/
  stray : Nat

namespace Ledger

variable {δ : Type}

/-- Nothing was opened. -/
def new : Ledger δ where
  table _ := none
  opened := 0
  closes _ := 0
  gifts _ := 0
  stray := 0

/-- Opens a resource under a handle. -/
def create [DecidableEq δ] (l : Ledger δ) (handle : δ) : Ledger δ :=
  { l with
    table := Function.update l.table handle (some l.opened)
    opened := l.opened + 1 }

/-- The owner closes what is open under a handle. -/
def close [DecidableEq δ] (l : Ledger δ) (handle : δ) : Ledger δ :=
  match l.table handle with
  | none => { l with stray := l.stray + 1 }
  | some resource =>
    { l with
      table := Function.update l.table handle none
      closes := Function.update l.closes resource (l.closes resource + 1) }

/-- The owner gives away what is open under a handle. -/
def give (l : Ledger δ) (handle : δ) : Ledger δ :=
  match l.table handle with
  | none => { l with stray := l.stray + 1 }
  | some resource =>
    { l with gifts := Function.update l.gifts resource (l.gifts resource + 1) }

/-- Somebody else closes what is open under a handle. -/
def release [DecidableEq δ] (l : Ledger δ) (handle : δ) : Ledger δ :=
  { l with table := Function.update l.table handle none }

/-- A resource is in exactly one of three conditions: open under the handle that the owner holds,
closed once by the owner, or given away once. -/
def Accounted (l : Ledger δ) (held : Option δ) (resource : Nat) : Prop :=
  (l.closes resource = 0 ∧ l.gifts resource = 0 ∧
      ∃ handle, held = some handle ∧ l.table handle = some resource) ∨
    ((l.closes resource = 1 ∧ l.gifts resource = 0 ∨
        l.closes resource = 0 ∧ l.gifts resource = 1) ∧
      ∀ handle, held = some handle → l.table handle ≠ some resource)

/-- The ledger of an owner who holds at most one resource. -/
structure Balanced (held : Option δ) (l : Ledger δ) : Prop where
  /-- Nothing is stray. -/
  stray : l.stray = 0
  /-- What is open was opened, and is not closed. -/
  listed : ∀ {handle resource}, l.table handle = some resource →
    resource < l.opened ∧ l.closes resource = 0
  /-- Open resources have one handle each. -/
  unique : ∀ {handle other resource}, l.table handle = some resource →
    l.table other = some resource → handle = other
  /-- What the owner holds is open. -/
  live : ∀ {handle}, held = some handle → ∃ resource, l.table handle = some resource
  /-- Every resource is accounted for. -/
  account : ∀ {resource}, resource < l.opened → l.Accounted held resource
  /-- Nothing happened to resources that are yet to come. -/
  future : ∀ {resource}, l.opened ≤ resource → l.closes resource = 0 ∧ l.gifts resource = 0

variable {l : Ledger δ} {handle : δ}

/-- A new ledger is balanced. -/
theorem new_balanced : Balanced (none : Option δ) new where
  stray := rfl
  listed found := by cases found
  unique found := by cases found
  live held := by cases held
  account before := absurd before (Nat.not_lt_zero _)
  future _ := ⟨rfl, rfl⟩

/-- The resource that the owner holds is neither closed nor given away. -/
theorem Balanced.held (balanced : Balanced (some handle) l) {resource : Nat}
    (found : l.table handle = some resource) :
    resource < l.opened ∧ l.closes resource = 0 ∧ l.gifts resource = 0 := by
  obtain ⟨before, unclosed⟩ := balanced.listed found
  obtain ⟨-, kept, -⟩ | ⟨-, elsewhere⟩ := balanced.account before
  · exact ⟨before, unclosed, kept⟩
  · exact absurd found (elsewhere handle rfl)

/-- Other resources than the one that the owner holds were closed once or given away once. -/
theorem Balanced.others (balanced : Balanced (some handle) l) {resource item : Nat}
    (found : l.table handle = some resource) (past : item < l.opened) (other : item ≠ resource) :
    l.closes item = 1 ∧ l.gifts item = 0 ∨ l.closes item = 0 ∧ l.gifts item = 1 := by
  obtain ⟨-, -, holder, held, there⟩ | ⟨once, -⟩ := balanced.account past
  · obtain rfl := Option.some.inj held
    exact absurd (Option.some.inj (there.symm.trans found)) other
  · exact once

/-- The owner gives away the resource that it holds. -/
theorem Balanced.give (balanced : Balanced (some handle) l) :
    Balanced none (l.give handle) := by
  obtain ⟨resource, found⟩ := balanced.live rfl
  obtain ⟨before, unclosed, kept⟩ := balanced.held found
  have given : l.give handle = { l with gifts := Function.update l.gifts resource 1 } := by
    rw [Ledger.give, found]
    dsimp only
    rw [kept]
  rw [given]
  refine ⟨balanced.stray, balanced.listed, balanced.unique, nofun,
    fun {item} past => .inr ⟨?_, nofun⟩, fun {item} later => ?_⟩
  · dsimp only
    by_cases same : item = resource
    · rw [same, Function.update_self]
      exact .inr ⟨unclosed, rfl⟩
    · rw [Function.update_of_ne same]
      exact balanced.others found past same
  · dsimp only
    rw [Function.update_of_ne (Nat.ne_of_gt (Nat.lt_of_lt_of_le before later))]
    exact balanced.future later

variable [DecidableEq δ]

/-- An owner who holds nothing opens a resource and holds it. -/
theorem Balanced.create (balanced : Balanced none l) (handle : δ) :
    Balanced (some handle) (l.create handle) := by
  have self : (l.create handle).table handle = some l.opened := Function.update_self _ _ _
  have apart {other : δ} (different : other ≠ handle) :
      (l.create handle).table other = l.table other := Function.update_of_ne different _ _
  have fresh (other : δ) : l.table other ≠ some l.opened := by
    intro found
    exact absurd (balanced.listed found).1 (Nat.lt_irrefl _)
  refine ⟨balanced.stray, fun {other resource} found => ?_,
    fun {one two resource} found again => ?_,
    fun held => ⟨l.opened, Option.some.inj held ▸ self⟩, fun {resource} before => ?_,
    fun {resource} later => balanced.future (Nat.le_of_succ_le later)⟩
  · by_cases same : other = handle
    · rw [same, self] at found
      obtain rfl := Option.some.inj found
      exact ⟨Nat.lt_succ_self _, (balanced.future (Nat.le_refl _)).1⟩
    · rw [apart same] at found
      obtain ⟨before, unclosed⟩ := balanced.listed found
      exact ⟨Nat.lt_succ_of_lt before, unclosed⟩
  · by_cases first : one = handle
    · by_cases second : two = handle
      · exact first.trans second.symm
      · rw [first, self] at found
        rw [apart second, ← found] at again
        exact absurd again (fresh two)
    · by_cases second : two = handle
      · rw [second, self] at again
        rw [apart first, ← again] at found
        exact absurd found (fresh one)
      · rw [apart first] at found
        rw [apart second] at again
        exact balanced.unique found again
  · by_cases new : resource = l.opened
    · obtain ⟨unclosed, kept⟩ := balanced.future (Nat.le_of_eq new.symm)
      exact .inl ⟨unclosed, kept, handle, rfl, new ▸ self⟩
    · obtain ⟨-, -, _, impossible, -⟩ | ⟨once, -⟩ :=
        balanced.account (show resource < l.opened from
          Nat.lt_of_le_of_ne (Nat.le_of_lt_succ before) new)
      · cases impossible
      · refine .inr ⟨once, fun other held found => ?_⟩
        obtain rfl := Option.some.inj held
        exact new (Option.some.inj (found.symm.trans self))

/-- What is open after a handle is freed was open before, under another handle. -/
theorem open_of_freed {table : δ → Option Nat} {other : δ} {resource : Nat}
    (there : Function.update table handle none other = some resource) :
    other ≠ handle ∧ table other = some resource := by
  by_cases same : other = handle
  · rw [same, Function.update_self] at there
    cases there
  · rw [Function.update_of_ne same] at there
    exact ⟨same, there⟩

/-- The owner closes the resource that it holds. -/
theorem Balanced.close (balanced : Balanced (some handle) l) :
    Balanced none (l.close handle) := by
  obtain ⟨resource, found⟩ := balanced.live rfl
  obtain ⟨before, unclosed, kept⟩ := balanced.held found
  have closed : l.close handle = { l with
      table := Function.update l.table handle none
      closes := Function.update l.closes resource 1 } := by
    rw [Ledger.close, found]
    dsimp only
    rw [unclosed]
  have open_of {other : δ} {item : Nat}
      (there : Function.update l.table handle none other = some item) :
      l.table other = some item ∧ item ≠ resource := by
    obtain ⟨apart, still⟩ := open_of_freed there
    refine ⟨still, fun equal => apart ?_⟩
    rw [equal] at still
    exact balanced.unique still found
  rw [closed]
  refine ⟨balanced.stray, fun {other item} there => ?_, fun {one two item} there again => ?_,
    nofun, fun {item} past => .inr ⟨?_, nofun⟩, fun {item} later => ?_⟩
  · obtain ⟨open', different⟩ := open_of there
    dsimp only
    rw [Function.update_of_ne different]
    exact balanced.listed open'
  · exact balanced.unique (open_of there).1 (open_of again).1
  · dsimp only
    by_cases same : item = resource
    · rw [same, Function.update_self]
      exact .inl ⟨rfl, kept⟩
    · rw [Function.update_of_ne same]
      exact balanced.others found past same
  · dsimp only
    rw [Function.update_of_ne (Nat.ne_of_gt (Nat.lt_of_lt_of_le before later))]
    exact balanced.future later

/-- Somebody else closes what was given away. -/
theorem Balanced.release {held : Option δ} (balanced : Balanced held l) {resource : Nat}
    (found : l.table handle = some resource) (given : l.gifts resource = 1) :
    Balanced held (l.release handle) := by
  have stays {other : δ} {item : Nat} (mine : held = some other)
      (there : l.table other = some item) : (l.release handle).table other = some item := by
    subst mine
    have different : other ≠ handle := by
      rintro rfl
      obtain ⟨-, -, kept⟩ := balanced.held found
      omega
    exact (Function.update_of_ne different _ _).trans there
  refine ⟨balanced.stray, fun there => balanced.listed (open_of_freed there).2,
    fun there again => balanced.unique (open_of_freed there).2 (open_of_freed again).2,
    fun mine => ?_, fun {item} past => ?_, balanced.future⟩
  · obtain ⟨item, there⟩ := balanced.live mine
    exact ⟨item, stays mine there⟩
  · obtain ⟨unclosed, kept, other, mine, there⟩ | ⟨once, elsewhere⟩ := balanced.account past
    · exact .inl ⟨unclosed, kept, other, mine, stays mine there⟩
    · exact .inr ⟨once, fun other mine there => elsewhere other mine (open_of_freed there).2⟩

end Ledger
