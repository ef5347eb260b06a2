import Mathlib.Algebra.Order.Ring.Int
import Mathlib.Data.List.Infix

/-!
# The first occurrence of a pattern

`std::find` is `List.idxOf`: the position of a value, or the length of the list. `search` is
`std::search`, which does the same for a pattern.
-/

namespace Search

variable {α : Type} [BEq α]

/-- The first position at which the pattern occurs, or the length of the list. -/
def search (pattern : List α) : List α → Nat
  | [] => 0
  | head :: rest => if pattern.isPrefixOf (head :: rest) then 0 else search pattern rest + 1

/-- The position is not past the end. -/
theorem search_le (pattern text : List α) : search pattern text ≤ text.length := by
  induction text with
  | nil => exact Nat.le_refl 0
  | cons head rest ih =>
    rw [search]
    split
    · exact Nat.zero_le _
    · exact Nat.succ_le_succ ih

variable [LawfulBEq α]

/-- The pattern occurs at a position before the end. -/
theorem search_occurs {pattern text : List α} (found : search pattern text < text.length) :
    pattern <+: text.drop (search pattern text) := by
  induction text with
  | nil => cases found
  | cons head rest ih =>
    by_cases here : pattern.isPrefixOf (head :: rest)
    · rw [search, if_pos here]
      exact List.isPrefixOf_iff_prefix.mp here
    · rw [search, if_neg here] at found ⊢
      exact ih (Nat.lt_of_succ_lt_succ found)

/-- The occurrence lies inside the list. -/
theorem search_inside {pattern text : List α} (found : search pattern text < text.length) :
    search pattern text + pattern.length ≤ text.length := by
  have inside := (search_occurs found).length_le
  rw [List.length_drop] at inside
  omega

/-- What follows the list does not change where the pattern occurs first. -/
theorem search_append {pattern text : List α} (more : List α)
    (found : search pattern text < text.length) :
    search pattern (text ++ more) = search pattern text := by
  induction text with
  | nil => cases found
  | cons head rest ih =>
    by_cases here : pattern <+: head :: rest
    · have still : pattern <+: head :: (rest ++ more) := here.trans (List.prefix_append _ _)
      rw [List.cons_append, search, search, if_pos (List.isPrefixOf_iff_prefix.mpr here),
        if_pos (List.isPrefixOf_iff_prefix.mpr still)]
    · have later : search pattern (head :: rest) = search pattern rest + 1 := by
        rw [search, if_neg (mt List.isPrefixOf_iff_prefix.mp here)]
      rw [later] at found
      have inside := search_inside (Nat.lt_of_succ_lt_succ found)
      have nor : ¬pattern <+: head :: (rest ++ more) := by
        intro longer
        refine here (List.prefix_of_prefix_length_le longer (List.prefix_append _ _) ?_)
        rw [List.length_cons]
        omega
      rw [List.cons_append, later, search, if_neg (mt List.isPrefixOf_iff_prefix.mp nor),
        ih (Nat.lt_of_succ_lt_succ found)]

/-- A pattern is found where it occurs first. -/
theorem search_eq {pattern text : List α} {position : Nat} (inside : position < text.length)
    (occurs : pattern <+: text.drop position)
    (first : ∀ earlier < position, ¬pattern <+: text.drop earlier) :
    search pattern text = position := by
  induction text generalizing position with
  | nil => cases inside
  | cons head rest ih =>
    cases position with
    | zero =>
      have here : pattern <+: head :: rest := occurs
      rw [search, if_pos (List.isPrefixOf_iff_prefix.mpr here)]
    | succ position =>
      have later : ¬pattern.isPrefixOf (head :: rest) := fun here =>
        first 0 (Nat.succ_pos _) (List.isPrefixOf_iff_prefix.mp here)
      have none : ∀ earlier < position, ¬pattern <+: rest.drop earlier :=
        fun earlier before => first (earlier + 1) (Nat.succ_lt_succ before)
      rw [search, if_neg later, ih (Nat.lt_of_succ_lt_succ inside) occurs none]

/-- A text is cut at the first occurrence of a value, which `List.idxOf` finds. -/
structure CutAt (value : α) (text front back : List α) : Prop where
  /-- Where the value is found. -/
  position : text.idxOf value = front.length
  /-- It is found. -/
  inside : front.length ≠ text.length
  /-- What is before it. -/
  before : text.take front.length = front
  /-- What is behind it. -/
  behind : text.drop (front.length + 1) = back

/-- A value that does not occur before. -/
theorem CutAt.of_not_mem {value : α} {front : List α} (absent : value ∉ front) (back : List α) :
    CutAt value (front ++ value :: back) front back where
  position := by rw [List.idxOf_append_of_notMem absent, List.idxOf_cons_self, Nat.add_zero]
  inside := by
    rw [List.length_append, List.length_cons]
    omega
  before := List.take_left
  behind := by
    rw [← List.drop_drop, List.drop_left]
    rfl

end Search
