import Mathlib.Algebra.Order.Ring.Int
import Mathlib.Tactic.Common

/-!
# Binary search for an upper bound

`std::upper_bound` halves a range until nothing is left of it. In a sorted range the result is the
first element that is above the bound. The lemmas here ask for no order: the element before the
result is never above the bound, and the result is not the beginning when the first element is not
above.
-/

namespace UpperBound

/-- The search in the positions from `first` on, so many as `length` says. -/
def halve (above : Nat → Bool) : Nat → Nat → Nat → Nat
  | 0, first, _ => first
  | fuel + 1, first, length =>
    if length = 0 then first
    else
      let half := length / 2
      if above (first + half) then halve above fuel first half
      else halve above fuel (first + half + 1) (length - half - 1)

variable {above : Nat → Bool}

/-- The result is in the range or at its end. -/
theorem halve_range {fuel first length : Nat} :
    first ≤ halve above fuel first length ∧ halve above fuel first length ≤ first + length := by
  induction fuel generalizing first length with
  | zero =>
    rw [halve]
    omega
  | succ fuel ih =>
    rw [halve]
    by_cases none : length = 0
    · rw [if_pos none]
      omega
    · rw [if_neg none]
      dsimp only
      split
      · have inside := @ih first (length / 2)
        omega
      · have inside := @ih (first + length / 2 + 1) (length - length / 2 - 1)
        omega

/-- The position before the result is not above, unless the result is the beginning. -/
theorem halve_before {fuel first length : Nat} :
    halve above fuel first length = first ∨
      ∃ before, halve above fuel first length = before + 1 ∧ first ≤ before ∧
        above before = false := by
  induction fuel generalizing first length with
  | zero => exact .inl rfl
  | succ fuel ih =>
    rw [halve]
    by_cases none : length = 0
    · rw [if_pos none]
      exact .inl rfl
    · rw [if_neg none]
      dsimp only
      split
      · exact ih
      next below =>
        right
        obtain same | ⟨before, same, behind, low⟩ :=
          @ih (first + length / 2 + 1) (length - length / 2 - 1)
        · exact ⟨first + length / 2, same, by omega, by simpa using below⟩
        · exact ⟨before, same, by omega, low⟩

/-- The result is behind the first position when that is not above. -/
theorem lt_halve {fuel first length : Nat} (enough : length ≤ fuel) (some : 0 < length)
    (low : above first = false) : first < halve above fuel first length := by
  induction fuel generalizing length with
  | zero => omega
  | succ fuel ih =>
    rw [halve, if_neg (by omega)]
    dsimp only
    split
    next high =>
      have apart : length / 2 ≠ 0 := by
        intro zero
        rw [zero, Nat.add_zero, low] at high
        cases high
      exact ih (by omega) (by omega)
    · have inside := @halve_range above fuel (first + length / 2 + 1) (length - length / 2 - 1)
      omega

variable {α : Type}

/-- The position that `std::upper_bound` returns in a list, for a test of which elements are above
the bound. -/
def upperBound (above : α → Bool) (list : List α) : Nat :=
  halve (fun position => (list[position]?.map above).getD true) list.length 0 list.length

variable {test : α → Bool}

/-- A list whose first element is not above: the search ends behind an element that is not above. -/
theorem upperBound_cons {first : α} {rest : List α} (low : test first = false) :
    ∃ before element, upperBound test (first :: rest) = before + 1 ∧
      (first :: rest)[before]? = some element ∧ test element = false := by
  have behind : 0 < upperBound test (first :: rest) := by
    refine lt_halve (Nat.le_refl _) (Nat.succ_pos _) ?_
    rw [List.getElem?_cons_zero, Option.map_some, Option.getD_some, low]
  obtain none | ⟨before, same, -, below⟩ :=
    @halve_before (fun position => ((first :: rest)[position]?.map test).getD true)
      (first :: rest).length 0 (first :: rest).length
  · rw [upperBound, none] at behind
    cases behind
  · cases found : (first :: rest)[before]? with
    | none =>
      rw [found] at below
      cases below
    | some element =>
      rw [found] at below
      exact ⟨before, element, same, found, below⟩

end UpperBound
