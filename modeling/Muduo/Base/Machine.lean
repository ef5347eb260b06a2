import Mathlib.Algebra.Order.Ring.Int
import Mathlib.Tactic.Common

/-!
# Machine integers and string views

`size_t` has 64 bits and its sums and differences wrap around. `StringPiece` keeps its length in
an `int`, so a length goes through two conversions on its way from a string to a `size_t`.
-/

namespace Muduo

/-- Sum of two `size_t` values. -/
def sizeAdd (left right : Nat) : Nat := (left + right) % 2 ^ 64

/-- Difference of two `size_t` values. -/
def sizeSub (left right : Nat) : Nat := (left + (2 ^ 64 - right)) % 2 ^ 64

/-- `static_cast<int>` of a `size_t`: the low 32 bits, read in two's complement. -/
def intOfSize (size : Nat) : Int :=
  if size % 2 ^ 32 < 2 ^ 31 then (size % 2 ^ 32 : Nat) else (size % 2 ^ 32 : Nat) - 2 ^ 32

/-- Conversion of an `int` to `size_t`. -/
def sizeOfInt (value : Int) : Nat := (value % 2 ^ 64).toNat

/-- A number that is kept in an `int`. -/
def wrapInt (value : Int) : Int := value.bmod (2 ^ 32)

/-- `PTRDIFF_MAX`, the bound on the size of every object and of every `std::vector<char>`. -/
def maxSize : Nat := 2 ^ 63 - 1

/-- A sum that fits the word is the sum of the numbers. -/
theorem sizeAdd_of_lt {left right : Nat} (fits : left + right < 2 ^ 64) :
    sizeAdd left right = left + right := Nat.mod_eq_of_lt fits

/-- The difference of ordered words is the difference of the numbers. -/
theorem sizeSub_of_le {left right : Nat} (ordered : right ≤ left) (fits : left < 2 ^ 64) :
    sizeSub left right = left - right := by
  simp only [sizeSub]
  omega

/-- A length below `2^31` is an `int`. -/
theorem intOfSize_of_lt {size : Nat} (fits : size < 2 ^ 31) : intOfSize size = size := by
  rw [intOfSize, if_pos (by omega), Nat.mod_eq_of_lt (by omega)]

/-- A length below `2^31` survives the way through `int`. -/
theorem sizeOfInt_intOfSize {size : Nat} (fits : size < 2 ^ 31) :
    sizeOfInt (intOfSize size) = size := by
  rw [intOfSize_of_lt fits, sizeOfInt]
  omega

/-- Wrapping in between changes nothing. -/
theorem wrapInt_add_wrapInt (left right : Int) : wrapInt (wrapInt left + right) =
    wrapInt (left + right) := Int.bmod_add_bmod

/-- An `int` is kept as it is. -/
theorem wrapInt_of_lt {value : Int} (lower : 0 ≤ value) (upper : value < 2 ^ 31) :
    wrapInt value = value := by
  rw [wrapInt, Int.bmod_eq_of_le] <;> omega

/-- A converted `int` is a `size_t`. -/
theorem sizeOfInt_lt (value : Int) : sizeOfInt value < 2 ^ 64 := by
  rw [sizeOfInt]
  omega

/-- A length from `2^31` on never survives the way through `int`. -/
theorem sizeOfInt_intOfSize_ne {size : Nat} (large : 2 ^ 31 ≤ size) (object : size ≤ maxSize) :
    sizeOfInt (intOfSize size) ≠ size := by
  rw [maxSize] at object
  rw [sizeOfInt, intOfSize]
  split <;> omega

/-- `StringPiece`: the bytes from its pointer on, and its length. -/
structure StringPiece where
  /-- What may be read from `m_ptr` on. -/
  data : List UInt8
  /-- `m_length`, an `int`. -/
  length : Int
  deriving DecidableEq, Repr

/-- The bytes of a text of the source, all of whose characters are ASCII. -/
def bytes (text : String) : List UInt8 := text.toList.map fun character => character.toNat.toUInt8

/-- The digits that `%d` and `%zd` print of a number that is not negative. -/
def decimal (number : Nat) : List UInt8 :=
  (Nat.toDigits 10 number).map fun digit => digit.toNat.toUInt8

/-- Different numbers have different digits. -/
theorem decimal_injective : Function.Injective decimal := by
  intro one two same
  have back (digits : List Char) (all : ∀ digit ∈ digits, digit.isDigit) :
      (digits.map fun digit => digit.toNat.toUInt8).map (fun byte => Char.ofNat byte.toNat) =
        digits := by
    rw [List.map_map]
    refine (List.map_congr_left fun digit member => ?_).trans (List.map_id digits)
    have small : digit.toNat < 2 ^ 8 := by
      have range := all digit member
      simp only [Char.isDigit, Bool.and_eq_true, decide_eq_true_eq] at range
      have upper := range.2
      rw [UInt32.le_iff_toNat_le] at upper
      exact Nat.lt_of_le_of_lt upper (by decide)
    simp only [Function.comp_apply, id_eq]
    rw [UInt8.toNat_ofNat_of_lt' small]
    exact Char.ofNat_toNat digit
  have digits (number : Nat) : ∀ digit ∈ Nat.toDigits 10 number, digit.isDigit := fun _ member =>
    Nat.isDigit_of_mem_toDigits (by decide) (by decide) member
  have equal := congrArg (List.map fun byte : UInt8 => Char.ofNat byte.toNat) same
  rw [decimal, decimal, back _ (digits one), back _ (digits two)] at equal
  have value := congrArg (fun list => Nat.ofDigitChars 10 list 0) equal
  simpa using value

/-- Numbers below a power of ten have no more digits than its exponent. -/
theorem decimal_length_le {number digits : Nat} (some : 0 < digits) (small : number < 10 ^ digits) :
    (decimal number).length ≤ digits := by
  rw [decimal, List.length_map]
  exact (Nat.length_toDigits_le_iff (by decide) some).mpr small

/-- What `%d` prints. -/
def formatInt (value : Int) : List UInt8 :=
  if value < 0 then bytes "-" ++ decimal value.natAbs else decimal value.toNat

/-- What `snprintf(buf, size, ..)` leaves of a text in the buffer. -/
def snprintf (size : Nat) (text : List UInt8) : List UInt8 := text.take (size - 1)

/-- A text that fits is left whole. -/
theorem snprintf_of_lt {size : Nat} {text : List UInt8} (fits : text.length < size) :
    snprintf size text = text := List.take_of_length_le (by omega)

/-- `StringPiece(const std::string&)`. -/
def StringPiece.ofString (text : List UInt8) : StringPiece := ⟨text, intOfSize text.length⟩

end Muduo
