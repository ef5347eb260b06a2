import Mathlib.Algebra.Order.Ring.Nat
import Mathlib.Data.List.Basic
import Mathlib.Data.List.Induction
import Mathlib.Tactic.Common

/-!
# Positional notation

A text of digits denotes a number: each digit counts for its value after what is in front of it is
taken times the base. A text is canonical when it has a digit and does not begin with a zero in
front of other digits. A number has one canonical text, and what divides a number by the base and
appends the last digit writes it.
-/

/-- The digits of a base. -/
structure Alphabet (δ : Type) where
  /-- The base. -/
  base : Nat
  /-- The value of a digit. -/
  valueOf : δ → Option Nat
  /-- There is a digit for zero and one for one. -/
  large : 1 < base
  /-- A digit is less than the base. -/
  small : ∀ {digit value}, valueOf digit = some value → value < base
  /-- Different digits have different values. -/
  injective : ∀ {one two value}, valueOf one = some value → valueOf two = some value → one = two

namespace Alphabet

variable {δ : Type} (alphabet : Alphabet δ)

/-- The number in front of one more digit. -/
def place (number : Nat) (digit : δ) : Option Nat :=
  (alphabet.valueOf digit).map (number * alphabet.base + ·)

/-- The number of some digits, which is zero without any. -/
def number (text : List δ) : Option Nat := text.foldlM alphabet.place 0

/-- The number that a text denotes. -/
def read (text : List δ) : Option Nat := if text.isEmpty then none else alphabet.number text

/-- The text of a number that has no zero in front. -/
structure Canonical (text : List δ) (number : Nat) : Prop where
  /-- The text denotes the number. -/
  reads : alphabet.read text = some number
  /-- A zero in front is the whole text. -/
  leading : ∀ digit ∈ text.head?, alphabet.valueOf digit = some 0 → text.length = 1

variable {alphabet} {text other : List δ} {digit : δ} {number value : Nat}

/-- The parts of the number of a text with a last digit. -/
theorem number_concat : alphabet.number (text ++ [digit]) = some number ↔
    ∃ before value, alphabet.number text = some before ∧ alphabet.valueOf digit = some value ∧
      number = before * alphabet.base + value := by
  rw [Alphabet.number, List.foldlM_append, Option.bind_eq_bind, Option.bind_eq_some_iff]
  simp only [List.foldlM_cons, List.foldlM_nil, Option.bind_eq_bind, Option.pure_def,
    Option.bind_fun_some]
  constructor
  · rintro ⟨before, reads, placed⟩
    obtain ⟨value, same, rfl⟩ := Option.map_eq_some_iff.mp placed
    exact ⟨before, value, reads, same, rfl⟩
  · rintro ⟨before, value, reads, same, rfl⟩
    exact ⟨before, reads, by rw [place, same, Option.map_some]⟩

/-- A text that denotes a number has digits, which count for it. -/
theorem read_eq_some :
    alphabet.read text = some number ↔ text ≠ [] ∧ alphabet.number text = some number := by
  rw [read]
  cases text with
  | nil => simp
  | cons => simp

/-- Digits count for their number taken times the base for each digit behind them. -/
theorem number_append {front back : List δ} {before after : Nat}
    (reads : alphabet.number front = some before) (rest : alphabet.number back = some after) :
    alphabet.number (front ++ back) = some (before * alphabet.base ^ back.length + after) := by
  induction back using List.reverseRecOn generalizing after with
  | nil =>
    cases rest
    rw [List.append_nil, reads, List.length_nil, pow_zero, Nat.mul_one, Nat.add_zero]
  | append_singleton back digit ih =>
    obtain ⟨middle, value, shorter, known, rfl⟩ := number_concat.mp rest
    rw [← List.append_assoc]
    refine number_concat.mpr ⟨_, value, ih shorter, known, ?_⟩
    rw [List.length_append, List.length_singleton, pow_succ, Nat.add_mul, Nat.add_assoc,
      Nat.mul_assoc]

/-- Zeros count for nothing. -/
theorem number_zeros (known : alphabet.valueOf digit = some 0) (count : Nat) :
    alphabet.number (List.replicate count digit) = some 0 := by
  induction count with
  | zero => rfl
  | succ count ih =>
    rw [List.replicate_succ']
    exact number_concat.mpr ⟨0, 0, ih, known, by rw [Nat.zero_mul]⟩

/-- Digits the first of which is not zero count for something. -/
theorem number_pos (some : text ≠ []) (reads : alphabet.number text = .some number)
    (nonzero : ∀ digit ∈ text.head?, alphabet.valueOf digit ≠ .some 0) : 0 < number := by
  induction text using List.reverseRecOn generalizing number with
  | nil => exact absurd rfl some
  | append_singleton text digit ih =>
    obtain ⟨before, value, front, known, rfl⟩ := number_concat.mp reads
    by_cases single : text = []
    · subst single
      have positive : value ≠ 0 := by
        rintro rfl
        exact nonzero digit rfl known
      omega
    · rw [List.head?_append_of_ne_nil _ single] at nonzero
      have positive := ih single front nonzero
      have large := alphabet.large
      have more := Nat.mul_pos positive (by omega : 0 < alphabet.base)
      omega

/-- The last digit of a canonical text, and the text in front of it. -/
theorem canonical_concat : alphabet.Canonical (text ++ [digit]) number ↔
    alphabet.valueOf digit = some (number % alphabet.base) ∧
      (text = [] ∧ number < alphabet.base ∨
        alphabet.Canonical text (number / alphabet.base) ∧ alphabet.base ≤ number) := by
  have large := alphabet.large
  constructor
  · rintro ⟨reads, leading⟩
    obtain ⟨before, value, front, known, rfl⟩ := number_concat.mp (read_eq_some.mp reads).2
    have less := alphabet.small known
    have quotient : (before * alphabet.base + value) / alphabet.base = before := by
      rw [Nat.add_comm, Nat.add_mul_div_right _ _ (by omega), Nat.div_eq_of_lt less, Nat.zero_add]
    rw [Nat.mul_add_mod_of_lt less, quotient]
    refine ⟨known, ?_⟩
    by_cases single : text = []
    · subst single
      cases front
      exact .inl ⟨rfl, by omega⟩
    · right
      rw [List.head?_append_of_ne_nil _ single] at leading
      have nonzero : ∀ digit ∈ text.head?, alphabet.valueOf digit ≠ some 0 := by
        intro first member isZero
        have length := leading first member isZero
        have several := List.length_pos_iff.mpr single
        rw [List.length_append, List.length_singleton] at length
        omega
      have positive := number_pos single front nonzero
      have more := Nat.le_mul_of_pos_left alphabet.base positive
      exact ⟨⟨read_eq_some.mpr ⟨single, front⟩,
        fun first member isZero => absurd isZero (nonzero first member)⟩, by omega⟩
  · rintro ⟨known, ⟨rfl, less⟩ | ⟨front, large⟩⟩
    · refine ⟨read_eq_some.mpr ⟨List.cons_ne_nil _ _, ?_⟩, fun _ _ _ => rfl⟩
      refine number_concat.mpr ⟨0, number, rfl, ?_, by omega⟩
      rw [known, Nat.mod_eq_of_lt less]
    · obtain ⟨some, reads⟩ := read_eq_some.mp front.reads
      have whole : number = number / alphabet.base * alphabet.base + number % alphabet.base := by
        rw [Nat.mul_comm, Nat.div_add_mod]
      refine ⟨read_eq_some.mpr ⟨List.append_ne_nil_of_left_ne_nil some _,
        number_concat.mpr ⟨_, _, reads, known, whole⟩⟩, ?_⟩
      rw [List.head?_append_of_ne_nil _ some]
      intro first member isZero
      have length := front.leading first member isZero
      obtain ⟨only, rfl⟩ := List.length_eq_one_iff.mp length
      cases member
      obtain ⟨before, value, none, same, total⟩ := (@number_concat δ alphabet [] _ _).mp reads
      rw [isZero] at same
      cases none
      cases same
      have positive := Nat.div_pos large (by omega)
      omega

/-- A number has one canonical text. -/
theorem Canonical.unique (one : alphabet.Canonical text number)
    (two : alphabet.Canonical other number) : text = other := by
  induction text using List.reverseRecOn generalizing other number with
  | nil => exact absurd rfl (read_eq_some.mp one.reads).1
  | append_singleton text digit ih =>
    cases other using List.reverseRecOn with
    | nil => exact absurd rfl (read_eq_some.mp two.reads).1
    | append_singleton other last =>
      obtain ⟨known, front⟩ := canonical_concat.mp one
      obtain ⟨same, otherFront⟩ := canonical_concat.mp two
      rw [alphabet.injective known same]
      congr 1
      obtain ⟨rfl, less⟩ | ⟨front, more⟩ := front
      · obtain ⟨rfl, -⟩ | ⟨-, more⟩ := otherFront
        · rfl
        · omega
      · obtain ⟨rfl, less⟩ | ⟨otherFront, -⟩ := otherFront
        · omega
        · exact ih front otherFront

/-- What writes the digits of the quotient in front of the digit of the remainder writes the
canonical text. -/
theorem canonical_of_last {digits : Nat → List δ} {digit : Nat → δ}
    (last : ∀ number, digits number =
      (if number < alphabet.base then [] else digits (number / alphabet.base)) ++
        [digit (number % alphabet.base)])
    (known : ∀ value < alphabet.base, alphabet.valueOf (digit value) = some value)
    (number : Nat) : alphabet.Canonical (digits number) number := by
  have large := alphabet.large
  induction number using Nat.strong_induction_on with
  | _ number ih =>
    rw [last, canonical_concat]
    refine ⟨known _ (Nat.mod_lt _ (by omega)), ?_⟩
    split
    case isTrue less => exact .inl ⟨rfl, less⟩
    case isFalse more =>
      exact .inr ⟨ih _ (Nat.div_lt_self (by omega) large), by omega⟩

end Alphabet
