import Muduo.Base.Canonical
import Muduo.Lib.HalfEven
import Mathlib.Data.Rat.Floor

/-!
# What `printf` prints

A width pads the text of a number in front, with spaces or with zeros. A precision prints so many
digits behind the point, of a number that is rounded to the nearest one with so many digits; where
the program divides `double` numbers, the model takes the quotient and the rounding exactly.
-/

namespace Muduo

open HalfEven

/-- A text with a byte in front of it, up to a width. -/
def padLeft (width : Nat) (fill : UInt8) (text : List UInt8) : List UInt8 :=
  List.replicate (width - text.length) fill ++ text

/-- What `%4d` prints, for the width 4. -/
def spacePadded (width : Nat) (value : Int) : List UInt8 := padLeft width 32 (formatInt value)

/-- What `%02d` prints, for the width 2. -/
def zeroPadded (width : Nat) (value : Int) : List UInt8 :=
  if value < 0 then bytes "-" ++ padLeft (width - 1) 48 (decimal value.natAbs)
  else padLeft width 48 (decimal value.toNat)

/-- What `%.2f` prints of a number that is not negative, for the precision 2. -/
def fixedPoint (precision : Nat) (value : ℚ) : List UInt8 :=
  let units := (roundHalfEven (value * 10 ^ precision)).toNat
  if precision = 0 then decimal units
  else decimal (units / 10 ^ precision) ++ bytes "." ++
    zeroPadded precision (units % 10 ^ precision : Nat)

/-- The number that a text with or without a point denotes. -/
def readFixed (text : List UInt8) : Option ℚ :=
  let whole := text.takeWhile (· ≠ 46)
  let fraction := (text.dropWhile (· ≠ 46)).tail
  (decimalDigits.read (whole ++ fraction)).map fun (units : Nat) =>
    (units : ℚ) / 10 ^ fraction.length

/-- A text that is shorter than the width is padded to the width. -/
theorem length_padLeft (width : Nat) (fill : UInt8) (text : List UInt8) :
    (padLeft width fill text).length = max width text.length := by
  rw [padLeft, List.length_append, List.length_replicate]
  omega

/-- A number with zeros in front of it has the width, if it is not too large, and is read back. -/
theorem zeroPadded_eq {width number : Nat} (small : number < 10 ^ width) (wide : 0 < width) :
    (zeroPadded width number).length = width ∧
      decimalDigits.number (zeroPadded width number) = some number := by
  have digits := decimal_length_le wide small
  have nonneg : ¬(number : Int) < 0 := by omega
  rw [zeroPadded, if_neg nonneg, Int.toNat_natCast]
  constructor
  · rw [length_padLeft, Nat.max_eq_left digits]
  · have zero : decimalDigits.valueOf 48 = some 0 := rfl
    obtain ⟨-, reads⟩ := Alphabet.read_eq_some.mp (decimal_canonical number).reads
    have padded := Alphabet.number_append
      (Alphabet.number_zeros zero (width - (decimal number).length)) reads
    rw [Nat.zero_mul, Nat.zero_add] at padded
    exact padded

/-- The digits of a number are not a point. -/
theorem takeWhile_decimal (number : Nat) (rest : List UInt8) :
    (decimal number ++ rest).takeWhile (· ≠ 46) = decimal number ++ rest.takeWhile (· ≠ 46) ∧
      (decimal number ++ rest).dropWhile (· ≠ 46) = rest.dropWhile (· ≠ 46) := by
  have digits : ∀ byte ∈ decimal number, decide (byte ≠ 46) = true := by
    intro byte member
    have digit := le_of_mem_decimal member
    refine decide_eq_true ?_
    rintro rfl
    exact absurd digit (by decide)
  exact ⟨List.takeWhile_append_of_pos digits, List.dropWhile_append_of_pos digits⟩

/-- A decimal text denotes its number. -/
theorem read_decimal (number : Nat) : decimalDigits.read (decimal number) = some number :=
  (decimal_canonical number).reads

/-- Digits behind a decimal text are read with it. -/
theorem read_decimal_append {number rest : Nat} {fraction : List UInt8}
    (digits : decimalDigits.number fraction = some rest) :
    decimalDigits.read (decimal number ++ fraction) =
      some (number * 10 ^ fraction.length + rest) := by
  obtain ⟨some, front⟩ := Alphabet.read_eq_some.mp (read_decimal number)
  exact Alphabet.read_eq_some.mpr
    ⟨List.append_ne_nil_of_left_ne_nil some _, Alphabet.number_append front digits⟩

/-- A number that is printed with a precision is read back as it was rounded. -/
theorem readFixed_fixedPoint (precision : Nat) (value : ℚ) :
    readFixed (fixedPoint precision value) =
      some (((roundHalfEven (value * 10 ^ precision)).toNat : ℚ) / 10 ^ precision) := by
  rw [fixedPoint]
  generalize (roundHalfEven (value * 10 ^ precision)).toNat = units
  split
  case isTrue whole =>
    subst whole
    obtain ⟨taken, dropped⟩ := takeWhile_decimal units []
    rw [List.append_nil] at taken dropped
    rw [readFixed, taken, dropped, List.takeWhile_nil, List.dropWhile_nil, List.append_nil]
    rw [List.tail_nil, List.append_nil, read_decimal, Option.map_some, List.length_nil]
  case isFalse some =>
    have positive : 0 < precision := by omega
    have less := Nat.mod_lt units (Nat.pow_pos (by decide : 0 < 10) : 0 < 10 ^ precision)
    obtain ⟨length, digits⟩ := zeroPadded_eq less positive
    rw [List.append_assoc]
    obtain ⟨taken, dropped⟩ := takeWhile_decimal (units / 10 ^ precision)
      (bytes "." ++ zeroPadded precision (units % 10 ^ precision : Nat))
    have point : bytes "." ++ zeroPadded precision (units % 10 ^ precision : Nat) =
      46 :: zeroPadded precision (units % 10 ^ precision : Nat) := rfl
    rw [readFixed, taken, dropped, point, List.takeWhile_cons_of_neg (by decide),
      List.dropWhile_cons_of_neg (by decide), List.append_nil]
    rw [List.tail_cons, read_decimal_append digits, length, Option.map_some, Nat.mul_comm,
      Nat.div_add_mod]

example : fixedPoint 1 (1005 / 100) = bytes "10.0" := by decide +kernel

/-- A number that is printed with a precision has its digits and a point. -/
theorem length_fixedPoint_le {precision digits : Nat} {value : ℚ} (few : precision < digits)
    (small : roundHalfEven (value * 10 ^ precision) < 10 ^ digits) :
    (fixedPoint precision value).length ≤ digits + 1 := by
  have less : (roundHalfEven (value * 10 ^ precision)).toNat < 10 ^ digits := by
    have positive : 0 < 10 ^ digits := Nat.pow_pos (by decide)
    exact (Int.toNat_lt' positive).mpr (by exact_mod_cast small)
  rw [fixedPoint]
  generalize (roundHalfEven (value * 10 ^ precision)).toNat = units at less
  split
  case isTrue =>
    have whole := decimal_length_le (by omega) less
    omega
  case isFalse some =>
    have scale : 0 < 10 ^ precision := Nat.pow_pos (by decide)
    obtain ⟨length, -⟩ := zeroPadded_eq (Nat.mod_lt units scale) (by omega : 0 < precision)
    have front : units / 10 ^ precision < 10 ^ (digits - precision) := by
      refine Nat.div_lt_of_lt_mul ?_
      rw [← pow_add, Nat.add_sub_cancel' few.le]
      exact less
    have whole := decimal_length_le (by omega) front
    have point : (bytes ".").length = 1 := rfl
    rw [List.length_append, List.length_append, length, point]
    omega

/-- An integer is printed with digits and a minus. -/
theorem le_of_mem_formatInt {value : Int} {byte : UInt8} (member : byte ∈ formatInt value) :
    45 ≤ byte := by
  have digit : ∀ {number : Nat}, byte ∈ decimal number → 45 ≤ byte := fun member =>
    UInt8.le_trans (by decide : 45 ≤ 48) (le_of_mem_decimal member)
  rw [formatInt] at member
  split at member
  · obtain minus | digits := List.mem_append.mp member
    · rw [List.mem_singleton.mp minus]
      decide
    · exact digit digits
  · exact digit member

/-- A text without control characters. -/
def Printable (text : List UInt8) : Prop := ∀ byte ∈ text, 32 ≤ byte

instance (text : List UInt8) : Decidable (Printable text) :=
  List.decidableBAll (32 ≤ ·) text

namespace Printable

variable {text other : List UInt8}

/-- Printable texts one after the other. -/
theorem append (first : Printable text) (second : Printable other) : Printable (text ++ other) :=
  fun byte member => (List.mem_append.mp member).elim (first byte) (second byte)

/-- A printable text has no NUL. -/
theorem zero_not_mem (printable : Printable text) : 0 ∉ text :=
  fun member => absurd (printable 0 member) (by decide)

/-- A text is printable with a printable byte in front. -/
theorem padLeft {fill : UInt8} (visible : 32 ≤ fill) (printable : Printable text) (width : Nat) :
    Printable (padLeft width fill text) := by
  refine append (fun byte member => ?_) printable
  rw [List.eq_of_mem_replicate member]
  exact visible

/-- Digits are printable. -/
theorem decimal (number : Nat) : Printable (decimal number) := fun _ member =>
  UInt8.le_trans (by decide : 32 ≤ 48) (le_of_mem_decimal member)

/-- A padded integer is printable. -/
theorem spacePadded (width : Nat) (value : Int) : Printable (spacePadded width value) :=
  padLeft (UInt8.le_refl 32) (fun _ member =>
    UInt8.le_trans (by decide : 32 ≤ 45) (le_of_mem_formatInt member)) width

/-- A padded integer is printable. -/
theorem zeroPadded (width : Nat) (value : Int) : Printable (zeroPadded width value) := by
  rw [Muduo.zeroPadded]
  split
  · exact append (by decide) (padLeft (by decide) (decimal _) _)
  · exact padLeft (by decide) (decimal _) _

end Printable

/-- Different integers are printed differently. -/
theorem formatInt_injective : Function.Injective formatInt := by
  intro one two same
  have first := (formatInt_canonical one).reads
  rw [same, (formatInt_canonical two).reads] at first
  exact (Option.some.inj first).symm

/-- No space is in the text of an integer. -/
theorem dropWhile_spacePadded (width : Nat) (value : Int) :
    (spacePadded width value).dropWhile (· == 32) = formatInt value := by
  have spaces : ∀ byte ∈ List.replicate (width - (formatInt value).length) (32 : UInt8),
      (byte == 32) = true := fun byte member => beq_iff_eq.mpr (List.eq_of_mem_replicate member)
  rw [spacePadded, padLeft, List.dropWhile_append_of_pos spaces]
  cases text : formatInt value with
  | nil => rfl
  | cons first rest =>
    refine List.dropWhile_cons_of_neg fun space => ?_
    have visible := le_of_mem_formatInt (text ▸ List.mem_cons_self)
    rw [beq_iff_eq.mp space] at visible
    exact absurd visible (by decide)

/-- Different integers are printed differently with a width. -/
theorem spacePadded_injective (width : Nat) : Function.Injective (spacePadded width) := by
  intro one two same
  have text := congrArg (List.dropWhile (· == 32)) same
  rw [dropWhile_spacePadded, dropWhile_spacePadded] at text
  exact formatInt_injective text

/-- Numbers that are not too large for a width are printed differently and with the width. -/
theorem zeroPadded_of_range {width : Nat} {value : Int} (wide : 0 < width) (nonneg : 0 ≤ value)
    (small : value < 10 ^ width) :
    (zeroPadded width value).length = width ∧
      decimalDigits.number (zeroPadded width value) = some value.toNat := by
  obtain ⟨number, rfl⟩ := Int.eq_ofNat_of_zero_le nonneg
  rw [Int.toNat_natCast]
  exact zeroPadded_eq (by exact_mod_cast small) wide

end Muduo
