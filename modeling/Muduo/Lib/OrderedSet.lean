import Mathlib.Algebra.Order.Ring.Int
import Mathlib.Data.List.TakeWhile
import Mathlib.Tactic.Common
import Mathlib.Tactic.Tauto

/-!
# Ordered sets

An ordered set is a strictly increasing list of its elements, which is the order in which an
iterator visits them. `below bound` are the elements an iterator passes before it comes to the
lower bound of `bound`, and `above bound` are the others.
-/

/-- A set kept as the strictly increasing list of its elements. -/
structure OrderedSet (α : Type) [LT α] where
  /-- The elements in order. -/
  elements : List α
  /-- The order is strict. -/
  sorted : elements.Pairwise (· < ·)

namespace OrderedSet

variable {α : Type} [LinearOrder α]

instance : Membership α (OrderedSet α) := ⟨fun s a => a ∈ s.elements⟩

instance (a : α) (s : OrderedSet α) : Decidable (a ∈ s) :=
  inferInstanceAs (Decidable (a ∈ s.elements))

/-- Membership is membership in the list. -/
theorem mem_def {a : α} {s : OrderedSet α} : a ∈ s ↔ a ∈ s.elements := Iff.rfl

/-- The set without elements. -/
def empty : OrderedSet α := ⟨[], .nil⟩

/-- The number of elements. -/
def size (s : OrderedSet α) : Nat := s.elements.length

/-- The least element. -/
def first (s : OrderedSet α) : Option α := s.elements.head?

/-- Puts an element in its place in a list. -/
def place (a : α) : List α → List α
  | [] => [a]
  | b :: rest => if a < b then a :: b :: rest else if b < a then b :: place a rest else b :: rest

/-- The elements after an insertion. -/
theorem mem_place {a b : α} {list : List α} : b ∈ place a list ↔ b = a ∨ b ∈ list := by
  induction list with
  | nil => simp [place]
  | cons c rest ih =>
    rw [place]
    by_cases before : a < c
    · simp [before]
    · by_cases after : c < a
      · simp only [before, after, ↓reduceIte, List.mem_cons, ih]
        tauto
      · have same : a = c := le_antisymm (not_lt.mp after) (not_lt.mp before)
        rw [if_neg before, if_neg after, same, List.mem_cons]
        tauto

/-- An insertion keeps the order. -/
theorem sorted_place (a : α) {list : List α} (sorted : list.Pairwise (· < ·)) :
    (place a list).Pairwise (· < ·) := by
  induction list with
  | nil => exact List.pairwise_singleton _ _
  | cons c rest ih =>
    obtain ⟨least, increasing⟩ := List.pairwise_cons.mp sorted
    rw [place]
    by_cases before : a < c
    · rw [if_pos before]
      refine List.pairwise_cons.mpr ⟨fun b member => ?_, sorted⟩
      obtain rfl | later := List.mem_cons.mp member
      · exact before
      · exact lt_trans before (least b later)
    · rw [if_neg before]
      by_cases after : c < a
      · rw [if_pos after]
        refine List.pairwise_cons.mpr ⟨fun b member => ?_, ih increasing⟩
        obtain rfl | later := mem_place.mp member
        · exact after
        · exact least b later
      · rw [if_neg after]
        exact sorted

/-- An insertion of a new element adds one. -/
theorem length_place {a : α} {list : List α} (fresh : a ∉ list) :
    (place a list).length = list.length + 1 := by
  induction list with
  | nil => rfl
  | cons c rest ih =>
    rw [List.mem_cons, not_or] at fresh
    rw [place]
    by_cases before : a < c
    · rw [if_pos before]
      rfl
    · have after : c < a := lt_of_le_of_ne (not_lt.mp before) (Ne.symm fresh.1)
      rw [if_neg before, if_pos after, List.length_cons, ih fresh.2, List.length_cons]

/-- The set with one element more. -/
def insert (s : OrderedSet α) (a : α) : OrderedSet α :=
  ⟨place a s.elements, sorted_place a s.sorted⟩

/-- The set with one element less. -/
def erase (s : OrderedSet α) (a : α) : OrderedSet α :=
  ⟨s.elements.erase a, s.sorted.sublist List.erase_sublist⟩

/-- The elements before the lower bound. -/
def below (s : OrderedSet α) (bound : α) : List α := s.elements.takeWhile (· < bound)

/-- The elements from the lower bound on. -/
def above (s : OrderedSet α) (bound : α) : OrderedSet α :=
  ⟨s.elements.dropWhile (· < bound), s.sorted.sublist (List.dropWhile_sublist _)⟩

/-- The empty set has no elements. -/
@[simp] theorem mem_empty {a : α} : ¬a ∈ (empty : OrderedSet α) := List.not_mem_nil

/-- The elements after an insertion. -/
@[simp] theorem mem_insert {s : OrderedSet α} {a b : α} : b ∈ s.insert a ↔ b = a ∨ b ∈ s :=
  mem_place

/-- An insertion of a new element adds one. -/
theorem size_insert {s : OrderedSet α} {a : α} (fresh : ¬a ∈ s) :
    (s.insert a).size = s.size + 1 :=
  length_place fresh

/-- No element is listed twice. -/
theorem nodup (s : OrderedSet α) : s.elements.Nodup := s.sorted.imp fun less => ne_of_lt less

/-- The elements after a removal. -/
@[simp] theorem mem_erase {s : OrderedSet α} {a b : α} : b ∈ s.erase a ↔ b ∈ s ∧ b ≠ a :=
  s.nodup.mem_erase_iff.trans and_comm

/-- Removal of an element takes one away. -/
theorem size_erase {s : OrderedSet α} {a : α} (member : a ∈ s) :
    (s.erase a).size + 1 = s.size := by
  have length := List.length_erase_of_mem member
  have positive := List.length_pos_of_mem member
  change (s.elements.erase a).length + 1 = s.elements.length
  omega

/-- The elements are those below the bound followed by those above it. -/
theorem below_append_above (s : OrderedSet α) (bound : α) :
    s.below bound ++ (s.above bound).elements = s.elements :=
  List.takeWhile_append_dropWhile

/-- Above any bound the empty set is empty. -/
theorem above_of_empty {s : OrderedSet α} {bound : α} (none : s.elements = []) :
    s.above bound = s := by
  obtain ⟨elements, sorted⟩ := s
  subst none
  rfl

/-- The least element is an element, and none is less. -/
theorem first_least {s : OrderedSet α} {a : α} (first : s.first = some a) :
    a ∈ s ∧ ∀ b ∈ s, a ≤ b := by
  obtain ⟨rest, elements⟩ := List.head?_eq_some_iff.mp first
  have sorted := s.sorted
  rw [elements, List.pairwise_cons] at sorted
  constructor
  · rw [mem_def, elements]
    exact List.mem_cons_self
  · intro b member
    rw [mem_def, elements, List.mem_cons] at member
    rcases member with same | later
    · exact same.ge
    · exact (sorted.1 b later).le

/-- A set with an element has a least one. -/
theorem exists_first {s : OrderedSet α} {a : α} (member : a ∈ s) :
    ∃ first, s.first = some first ∧ first ≤ a := by
  cases first : s.first with
  | none =>
    rw [mem_def, List.head?_eq_none_iff.mp first] at member
    cases member
  | some least => exact ⟨least, rfl, (first_least first).2 a member⟩

/-- The elements below a bound are less than it. -/
theorem lt_of_mem_below {s : OrderedSet α} {bound a : α} (member : a ∈ s.below bound) :
    a < bound := by
  simpa using List.mem_takeWhile_imp member

/-- The elements above a bound are not less than it. -/
theorem le_of_mem_above {s : OrderedSet α} {bound a : α} (member : a ∈ s.above bound) :
    bound ≤ a := by
  have sorted := (s.above bound).sorted
  rw [mem_def] at member
  cases elements : (s.above bound).elements with
  | nil =>
    rw [elements] at member
    cases member
  | cons head rest =>
    have least : bound ≤ head := by
      have stopped := List.head?_dropWhile_not (· < bound) s.elements
      rw [show s.elements.dropWhile (· < bound) = head :: rest from elements] at stopped
      simpa using stopped
    rw [elements] at member sorted
    obtain rfl | later := List.mem_cons.mp member
    · exact least
    · exact le_of_lt (lt_of_le_of_lt least (List.rel_of_pairwise_cons sorted later))

/-- Membership below a bound. -/
theorem mem_below {s : OrderedSet α} {bound a : α} : a ∈ s.below bound ↔ a ∈ s ∧ a < bound := by
  constructor
  · exact fun member => ⟨List.takeWhile_subset _ member, lt_of_mem_below member⟩
  · rintro ⟨member, less⟩
    rw [mem_def, ← s.below_append_above bound, List.mem_append] at member
    obtain inside | outside := member
    · exact inside
    · exact absurd less (not_lt.mpr (le_of_mem_above outside))

/-- Membership above a bound. -/
theorem mem_above {s : OrderedSet α} {bound a : α} : a ∈ s.above bound ↔ a ∈ s ∧ bound ≤ a := by
  constructor
  · exact fun member => ⟨List.dropWhile_subset _ member, le_of_mem_above member⟩
  · rintro ⟨member, least⟩
    rw [mem_def, ← s.below_append_above bound, List.mem_append] at member
    obtain inside | outside := member
    · exact absurd (lt_of_mem_below inside) (not_lt.mpr least)
    · exact outside

end OrderedSet
