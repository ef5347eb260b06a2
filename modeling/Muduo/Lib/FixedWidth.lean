import Mathlib.Data.List.Lex
import Muduo.Lib.Positional

/-!
# Texts of one width

Texts of one length that denote numbers are in the order of these numbers, when the digits are in
the order of their values. So are texts that are put together from such fields: the first field in
which they differ decides.
-/

namespace Alphabet

variable {δ : Type} {alphabet : Alphabet δ} {r : δ → δ → Prop} {text other front back : List δ}
  {number otherNumber : Nat}

/-- The digits are in the order of their values. -/
def Ordered (alphabet : Alphabet δ) (r : δ → δ → Prop) : Prop :=
  ∀ {one two : δ} {value otherValue : Nat}, alphabet.valueOf one = some value →
    alphabet.valueOf two = some otherValue → value < otherValue → r one two

/-- What is behind texts of one length does not change their order. -/
theorem lex_append (less : List.Lex r text other) (width : text.length = other.length) :
    List.Lex r (text ++ front) (other ++ back) := by
  induction less with
  | nil => cases width
  | cons _ ih => exact .cons (ih (Nat.succ.inj width))
  | rel first => exact .rel first

/-- Texts of one length denote different numbers, and are in the order of these. -/
theorem lex_of_number_lt (ordered : alphabet.Ordered r) (width : text.length = other.length)
    (reads : alphabet.number text = some number)
    (otherReads : alphabet.number other = some otherNumber) :
    (number < otherNumber → List.Lex r text other) ∧ (number = otherNumber → text = other) := by
  induction text using List.reverseRecOn generalizing other number otherNumber with
  | nil =>
    obtain rfl := List.length_eq_zero_iff.mp width.symm
    cases reads
    cases otherReads
    exact ⟨fun less => absurd less (Nat.lt_irrefl 0), fun _ => rfl⟩
  | append_singleton text digit ih =>
    cases other using List.reverseRecOn with
    | nil =>
      rw [List.length_append, List.length_singleton] at width
      cases width
    | append_singleton other last =>
      rw [List.length_append, List.length_append, List.length_singleton, List.length_singleton,
        Nat.add_right_cancel_iff] at width
      obtain ⟨before, value, shorter, known, rfl⟩ := number_concat.mp reads
      obtain ⟨otherBefore, otherValue, otherShorter, otherKnown, rfl⟩ :=
        number_concat.mp otherReads
      obtain ⟨less, same⟩ := ih width shorter otherShorter
      have small := alphabet.small known
      have otherSmall := alphabet.small otherKnown
      obtain earlier | equal | later := Nat.lt_trichotomy before otherBefore
      · have gap := Nat.mul_le_mul_right alphabet.base (Nat.succ_le_of_lt earlier)
        rw [Nat.succ_mul] at gap
        exact ⟨fun _ => lex_append (less earlier) width, fun _ => by omega⟩
      · obtain rfl := same equal
        subst equal
        refine ⟨fun smaller => ?_, fun equal => ?_⟩
        · exact .append_left r (.rel (ordered known otherKnown (by omega))) text
        · obtain rfl : value = otherValue := by omega
          rw [alphabet.injective known otherKnown]
      · have gap := Nat.mul_le_mul_right alphabet.base (Nat.succ_le_of_lt later)
        rw [Nat.succ_mul] at gap
        exact ⟨fun _ => by omega, fun _ => by omega⟩

/-- The first field decides, or what is behind it. -/
theorem lex_field (ordered : alphabet.Ordered r) (width : text.length = other.length)
    (reads : alphabet.number text = some number)
    (otherReads : alphabet.number other = some otherNumber)
    (decides : number < otherNumber ∨ number = otherNumber ∧ List.Lex r front back) :
    List.Lex r (text ++ front) (other ++ back) := by
  obtain ⟨less, same⟩ := lex_of_number_lt ordered width reads otherReads
  obtain smaller | ⟨equal, rest⟩ := decides
  · exact lex_append (less smaller) width
  · rw [same equal]
    exact .append_left r rest other

end Alphabet
