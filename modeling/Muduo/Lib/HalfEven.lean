import Mathlib.Algebra.Order.Floor.Ring
import Mathlib.Tactic.Linarith
import Mathlib.Tactic.Ring

/-!
# Rounding to the nearest integer, ties to even

A number is rounded to an integer that is at most a half away, and of two such integers to the even
one. The multiple of a step that is found so is near a number exactly when some multiple is.
-/

namespace HalfEven

variable {α : Type} [Field α] [LinearOrder α] [IsStrictOrderedRing α] [FloorRing α]

/-- The nearest integer, or the even one of the two nearest. -/
def roundHalfEven (x : α) : Int :=
  if x - ⌊x⌋ < 1 / 2 then ⌊x⌋
  else if 1 / 2 < x - ⌊x⌋ then ⌊x⌋ + 1
  else if ⌊x⌋ % 2 = 0 then ⌊x⌋ else ⌊x⌋ + 1

variable {x : α} {whole : Int}

/-- A half is the largest error. -/
theorem abs_roundHalfEven_sub (x : α) : |(roundHalfEven x : α) - x| ≤ 1 / 2 := by
  have lower := Int.floor_le x
  have upper := Int.lt_floor_add_one x
  rw [abs_le, roundHalfEven]
  split_ifs <;> push_cast <;> constructor <;> linarith

/-- What is less than a half below an integer is not rounded to a larger one. -/
theorem roundHalfEven_le (below : x < whole + 1 / 2) : roundHalfEven x ≤ whole := by
  have error := abs_le.mp (abs_roundHalfEven_sub x)
  have less : ((roundHalfEven x : Int) : α) < (whole + 1 : Int) := by
    push_cast
    linarith
  exact Int.lt_add_one_iff.mp (Int.cast_lt.mp less)

/-- A number that is not negative is not rounded to a negative one. -/
theorem roundHalfEven_nonneg (nonneg : 0 ≤ x) : 0 ≤ roundHalfEven x := by
  have error := abs_le.mp (abs_roundHalfEven_sub x)
  have more : ((-1 : Int) : α) < (roundHalfEven x : Int) := by
    push_cast
    linarith
  have above := Int.cast_lt.mp more
  omega

/-- The error of a multiple of a step that is found by rounding is at most half of the step. -/
theorem two_mul_abs_sub_le {step number : Int} (positive : 0 < step) :
    2 * |roundHalfEven ((number : α) / step) * step - number| ≤ step := by
  have step_pos : (0 : α) < step := Int.cast_pos.mpr positive
  have error := abs_roundHalfEven_sub ((number : α) / step)
  have scaled : (roundHalfEven ((number : α) / step) * step - number : α) =
      (roundHalfEven ((number : α) / step) - number / step) * step := by
    field_simp
  have bound : 2 * |(roundHalfEven ((number : α) / step) * step - number : α)| ≤ step := by
    rw [scaled, abs_mul, abs_of_pos step_pos]
    nlinarith
  exact_mod_cast bound

/-- It is near the number exactly when the number is near a multiple of the step. -/
theorem near_iff {step number near : Int} (positive : 0 < step) :
    |roundHalfEven ((number : α) / step) * step - number| ≤ near ↔
      number % step ≤ near ∨ step ≤ number % step + near := by
  have error := @two_mul_abs_sub_le α _ _ _ _ step number positive
  generalize roundHalfEven ((number : α) / step) = multiple at error ⊢
  have whole := Int.mul_ediv_add_emod number step
  have lower := Int.emod_nonneg number positive.ne'
  have upper := Int.emod_lt_of_pos number positive
  have split : multiple * step - number = (multiple - number / step) * step - number % step := by
    linarith [mul_comm step (number / step), sub_mul multiple (number / step) step]
  rw [split] at error ⊢
  generalize multiple - number / step = more at error ⊢
  generalize number % step = rest at *
  have larger := le_abs_self (more * step - rest)
  have smaller := neg_abs_le (more * step - rest)
  have above : -1 < more := by nlinarith
  have below : more < 2 := by nlinarith
  obtain rfl | rfl : more = 0 ∨ more = 1 := by omega
  · rw [abs_le]
    omega
  · rw [abs_le]
    omega

end HalfEven
