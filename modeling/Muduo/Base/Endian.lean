import Mathlib.Data.List.Induction
import Mathlib.Tactic.Ring

/-!
# Numbers as bytes

In network byte order the first byte of a number is its most significant one. The host keeps a
number the other way round, so `htobe64` and its relatives swap the bytes of a number. What is in
memory after the swap are the bytes in network order.
-/

namespace Muduo

/-- A number in network byte order. -/
def bigEndian (digits : List UInt8) : Nat :=
  digits.foldl (fun number digit => number * 256 + digit.toNat) 0

/-- So many digits of a number, in network byte order. -/
def bigEndianDigits : Nat → Nat → List UInt8
  | 0, _ => []
  | size + 1, value => bigEndianDigits size (value / 256) ++ [(value % 256).toUInt8]

/-- The bytes of an integer in two's complement. -/
def encodeInt (size : Nat) (value : Int) : List UInt8 :=
  bigEndianDigits size (value % 256 ^ size).toNat

/-- The bytes of an unsigned number in the memory of the host. -/
def memory (size value : Nat) : List UInt8 := (bigEndianDigits size value).reverse

/-- The number that has these bytes in the memory of the host. -/
def fromMemory (bytes : List UInt8) : Nat := bigEndian bytes.reverse

/-- The number with its bytes in the opposite order. -/
def byteSwap (size value : Nat) : Nat := bigEndian (memory size value)

/-- The digits have the value of the number. -/
theorem bigEndian_digits (size value : Nat) :
    (bigEndianDigits size value).length = size ∧
      bigEndian (bigEndianDigits size value) = value % 256 ^ size := by
  induction size generalizing value with
  | zero =>
    rw [Nat.pow_zero, Nat.mod_one]
    exact ⟨rfl, rfl⟩
  | succ size ih =>
    obtain ⟨length, digits⟩ := ih (value / 256)
    have last : (value % 256).toUInt8.toNat = value % 256 :=
      UInt8.toNat_ofNat_of_lt' (Nat.mod_lt _ (by decide))
    constructor
    · rw [bigEndianDigits, List.length_append, length, List.length_singleton]
    · have split : bigEndian (bigEndianDigits (size + 1) value) =
          bigEndian (bigEndianDigits size (value / 256)) * 256 + value % 256 := by
        rw [bigEndianDigits, bigEndian, List.foldl_append, ← bigEndian, List.foldl_cons,
          List.foldl_nil, last]
      rw [split, digits, Nat.pow_succ, Nat.mul_comm (256 ^ size), Nat.mod_mul]
      omega

/-- An integer has so many bytes. -/
theorem length_encodeInt (size : Nat) (value : Int) : (encodeInt size value).length = size :=
  (bigEndian_digits size _).1

/-- The bytes of an integer have its value, up to a multiple of the range. -/
theorem bigEndian_encodeInt (size : Nat) (value : Int) :
    (bigEndian (encodeInt size value) : Int) = value % 256 ^ size := by
  have positive : (0 : Int) < 256 ^ size := Int.pow_pos (by decide)
  have nonneg : 0 ≤ value % 256 ^ size := Int.emod_nonneg _ positive.ne'
  have less : value % 256 ^ size < 256 ^ size := Int.emod_lt_of_pos _ positive
  have cast : ((256 ^ size : Nat) : Int) = 256 ^ size := by simp
  have small : (value % 256 ^ size).toNat < 256 ^ size := by omega
  rw [encodeInt, (bigEndian_digits size _).2, Nat.mod_eq_of_lt small, Int.toNat_of_nonneg nonneg]

/-- The bytes of an integer of a signed type have its value. -/
theorem bmod_encodeInt {size : Nat} {value : Int} (lower : -((256 ^ size : Nat) : Int) ≤ 2 * value)
    (upper : 2 * value < (256 ^ size : Nat)) :
    Int.bmod (bigEndian (encodeInt size value)) (256 ^ size) = value := by
  have cast : (256 : Int) ^ size = (256 ^ size : Nat) := by simp
  rw [bigEndian_encodeInt, cast, Int.emod_bmod]
  exact Int.bmod_eq_of_le (by omega) (by omega)

/-- Another digit. -/
theorem bigEndian_append_singleton (digits : List UInt8) (digit : UInt8) :
    bigEndian (digits ++ [digit]) = bigEndian digits * 256 + digit.toNat := by
  rw [bigEndian, List.foldl_append, ← bigEndian]
  rfl

/-- More digits. -/
theorem bigEndian_append (front back : List UInt8) :
    bigEndian (front ++ back) = bigEndian front * 256 ^ back.length + bigEndian back := by
  induction back using List.reverseRecOn with
  | nil =>
    rw [List.append_nil, List.length_nil, Nat.pow_zero, Nat.mul_one]
    rfl
  | append_singleton back digit ih =>
    rw [← List.append_assoc, bigEndian_append_singleton, bigEndian_append_singleton, ih,
      List.length_append, List.length_singleton, Nat.pow_succ]
    ring

/-- The digits of the value of some digits are these digits. -/
theorem digits_bigEndian (digits : List UInt8) :
    bigEndianDigits digits.length (bigEndian digits) = digits := by
  induction digits using List.reverseRecOn with
  | nil => rfl
  | append_singleton digits digit ih =>
    have less := digit.toNat_lt
    have front : (bigEndian digits * 256 + digit.toNat) / 256 = bigEndian digits := by omega
    have last : (bigEndian digits * 256 + digit.toNat) % 256 = digit.toNat := by omega
    rw [List.length_append, List.length_singleton, bigEndian_append_singleton, bigEndianDigits,
      front, last, ih]
    simp

/-- So many digits have a value below the power. -/
theorem bigEndian_lt (digits : List UInt8) : bigEndian digits < 256 ^ digits.length := by
  have value := (bigEndian_digits digits.length (bigEndian digits)).2
  rw [digits_bigEndian] at value
  rw [value]
  exact Nat.mod_lt _ (Nat.pow_pos (by decide))

/-- In memory a swapped number has its bytes in network order. -/
theorem memory_byteSwap (size value : Nat) :
    memory size (byteSwap size value) = bigEndianDigits size value := by
  have length : (memory size value).length = size := by
    rw [memory, List.length_reverse, (bigEndian_digits size value).1]
  have digits := digits_bigEndian (memory size value)
  rw [length] at digits
  rw [memory, byteSwap, digits, memory, List.reverse_reverse]

/-- A number that is swapped after it was copied from memory has the bytes in network order. -/
theorem byteSwap_fromMemory {bytes : List UInt8} {size : Nat} (length : bytes.length = size) :
    byteSwap size (fromMemory bytes) = bigEndian bytes := by
  have digits := digits_bigEndian bytes.reverse
  rw [List.length_reverse, length] at digits
  rw [byteSwap, memory, fromMemory, digits, List.reverse_reverse]

/-- The low bytes of a number come first in memory. -/
theorem fromMemory_mod (bytes : List UInt8) {size : Nat} (enough : size ≤ bytes.length) :
    fromMemory bytes % 256 ^ size = fromMemory (bytes.take size) := by
  have split : bytes.reverse = (bytes.drop size).reverse ++ (bytes.take size).reverse := by
    rw [← List.reverse_append, List.take_append_drop]
  have length : (bytes.take size).reverse.length = size := by
    rw [List.length_reverse, List.length_take, Nat.min_eq_left enough]
  have less := bigEndian_lt (bytes.take size).reverse
  rw [length] at less
  rw [fromMemory, split, bigEndian_append, length, Nat.mul_add_mod_of_lt less]
  rfl

end Muduo
