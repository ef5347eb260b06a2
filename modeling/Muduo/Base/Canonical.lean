import Muduo.Base.Convert
import Muduo.Lib.Positional

/-!
# The text of an integer

`convert` is a template: its loop divides a number of its own type, and what it stores in `i` has
that type again. At every type the result is the text that the mathematical number has in canonical
form, so that the number is read back from it, the smallest number of a signed type included.
-/

namespace Muduo

open Storage Outcome

/-- The value of a digit from `0` to `9`. -/
def decimalValue (digit : UInt8) : Option Nat :=
  if 48 ≤ digit ∧ digit ≤ 57 then some (digit.toNat - 48) else none

/-- The value of a digit from `0` to `9` and from `A` to `F`. -/
def hexadecimalValue (digit : UInt8) : Option Nat :=
  if 65 ≤ digit ∧ digit ≤ 70 then some (digit.toNat - 55) else decimalValue digit

/-- The codes of the decimal digits. -/
theorem decimalValue_eq_some {digit : UInt8} {value : Nat} :
    decimalValue digit = some value ↔ value < 10 ∧ digit.toNat = 48 + value := by
  simp only [decimalValue, Option.ite_none_right_eq_some, Option.some.injEq,
    UInt8.le_iff_toNat_le, UInt8.reduceToNat]
  omega

/-- The codes of the hexadecimal digits. -/
theorem hexadecimalValue_eq_some {digit : UInt8} {value : Nat} :
    hexadecimalValue digit = some value ↔
      value < 10 ∧ digit.toNat = 48 + value ∨
        (10 ≤ value ∧ value < 16) ∧ digit.toNat = 55 + value := by
  simp only [hexadecimalValue, UInt8.le_iff_toNat_le, UInt8.reduceToNat]
  split
  case isTrue =>
    rw [Option.some.injEq]
    omega
  case isFalse =>
    rw [decimalValue_eq_some]
    omega

/-- `0` to `9`. -/
def decimalDigits : Alphabet UInt8 where
  base := 10
  valueOf := decimalValue
  large := by decide
  small known := (decimalValue_eq_some.mp known).1
  injective one two := by
    have first := decimalValue_eq_some.mp one
    have second := decimalValue_eq_some.mp two
    exact UInt8.toNat_inj.mp (by omega)

/-- `0` to `9` and `A` to `F`. -/
def hexadecimalDigits : Alphabet UInt8 where
  base := 16
  valueOf := hexadecimalValue
  large := by decide
  small known := by
    have digit := hexadecimalValue_eq_some.mp known
    omega
  injective one two := by
    have first := hexadecimalValue_eq_some.mp one
    have second := hexadecimalValue_eq_some.mp two
    exact UInt8.toNat_inj.mp (by omega)

/-- The text of an integer in canonical form. -/
structure CanonicalInteger (text : List UInt8) (value : Int) : Prop where
  /-- A minus stands in front exactly when the number is negative. -/
  sign : text.head? = some 45 ↔ value < 0
  /-- The digits are those of the absolute value. -/
  digits : decimalDigits.Canonical (text.drop (if value < 0 then 1 else 0)) value.natAbs

/-- The integer that a text denotes. -/
def readInteger (text : List UInt8) : Option Int :=
  if text.head? = some 45 then
    (decimalDigits.read text.tail).map fun (number : Nat) => -(number : Int)
  else (decimalDigits.read text).map Int.ofNat

/-- The integer types of 16, 32 and 64 bits. -/
inductive IntegerType
  /-- `int16_t`. -/
  | int16
  /-- `uint16_t`. -/
  | uint16
  /-- `int32_t`. -/
  | int32
  /-- `uint32_t`. -/
  | uint32
  /-- `int64_t`. -/
  | int64
  /-- `uint64_t`. -/
  | uint64
  deriving DecidableEq, Repr

namespace IntegerType

/-- The size of the type. -/
def bits : IntegerType → Nat
  | int16 | uint16 => 16
  | int32 | uint32 => 32
  | int64 | uint64 => 64

/-- The type has negative numbers. -/
def signed : IntegerType → Bool
  | int16 | int32 | int64 => true
  | uint16 | uint32 | uint64 => false

/-- The number of a value of the type. -/
def number (type : IntegerType) (value : BitVec type.bits) : Int :=
  if type.signed then value.toInt else value.toNat

/-- A number converted to the type. -/
def cast (type : IntegerType) (number : Int) : BitVec type.bits := BitVec.ofInt type.bits number

end IntegerType

/-- The loop of `convert<T>`, from `*p` on. What `i /= 10` stores is converted to the type, and
`lsd` is an `int`. -/
def convertLoopAt (type : IntegerType) :
    Nat → List UInt8 → Nat → BitVec type.bits → Except Fault (List UInt8 × Nat)
  | 0, _, _, _ => .error .endless
  | fuel + 1, cells, p, i => do
    let lsd := wrapInt ((type.number i).tmod 10)
    let i := type.cast ((type.number i).tdiv 10)
    let cells ← store cells p [← zeroAt lsd]
    if i ≠ 0 then convertLoopAt type fuel cells (p + 1) i else return (cells, p + 1)

/-- `convert<T>(buf, value)`, where `buf` is an offset. -/
def convertAt (type : IntegerType) (cells : List UInt8) (buf : Nat) (value : BitVec type.bits) :
    Except Fault (List UInt8 × Nat) := do
  let (cells, p) ← convertLoopAt type ((type.number value).natAbs + 1) cells buf value
  let (cells, p) ← convertSign cells p (type.number value)
  let cells ← store cells p [0]
  let cells ← stdReverse cells buf p
  return (cells, p - buf)

namespace IntegerType

/-- The range of the numbers of a type. -/
theorem number_range (type : IntegerType) (value : BitVec type.bits) :
    -2 ^ 63 ≤ type.number value ∧ type.number value < 2 ^ 64 := by
  have less := value.isLt
  rw [number]
  cases type <;> simp only [bits, signed] at * <;> grind

/-- Division by ten leads towards zero. -/
theorem tdiv_range (number : Int) :
    min number 0 ≤ number.tdiv 10 ∧ number.tdiv 10 ≤ max number 0 := by
  obtain nonneg | negative := Int.le_total 0 number
  · rw [Int.tdiv_eq_ediv_of_nonneg nonneg]
    omega
  · have positive : 0 ≤ -number := by omega
    have opposite := Int.neg_tdiv (-number) 10
    rw [Int.neg_neg, Int.tdiv_eq_ediv_of_nonneg positive] at opposite
    omega

/-- A quotient has the type of what was divided. -/
theorem number_cast_tdiv (type : IntegerType) (value : BitVec type.bits) :
    type.number (type.cast ((type.number value).tdiv 10)) = (type.number value).tdiv 10 := by
  have power : ((2 ^ type.bits : Nat) : Int) = 2 ^ type.bits := Int.natCast_pow 2 _
  rw [number, number, cast]
  cases type.signed
  case true =>
    have lower := BitVec.le_two_mul_toInt (x := value)
    have upper := BitVec.two_mul_toInt_lt (x := value)
    have range := tdiv_range value.toInt
    rw [if_pos rfl, if_pos rfl, BitVec.toInt_ofInt]
    exact Int.bmod_eq_of_le_mul_two (by omega) (by omega)
  case false =>
    have less := value.isLt
    have range := tdiv_range value.toNat
    rw [if_neg Bool.false_ne_true, if_neg Bool.false_ne_true, BitVec.toNat_ofInt]
    rw [Int.emod_eq_of_lt (by omega) (by omega)]
    omega

/-- Zero is the only value of its number. -/
theorem number_eq_zero (type : IntegerType) (value : BitVec type.bits) :
    type.number value = 0 ↔ value = 0 := by
  rw [number]
  split
  case isTrue => rw [← BitVec.toInt_inj, BitVec.ofNat_eq_ofNat, BitVec.toInt_zero]
  case isFalse =>
    rw [← BitVec.toNat_inj, BitVec.ofNat_eq_ofNat, BitVec.toNat_zero, Int.natCast_eq_zero]

end IntegerType

/-- At every type the loop does what it does on the mathematical number. -/
theorem convertLoopAt_eq (type : IntegerType) (fuel : Nat) (cells : List UInt8) (p : Nat)
    (i : BitVec type.bits) :
    convertLoopAt type fuel cells p i = convertLoop fuel cells p (type.number i) := by
  induction fuel generalizing cells p i with
  | zero => rfl
  | succ fuel ih =>
    have remainder : wrapInt ((type.number i).tmod 10) = (type.number i).tmod 10 := by
      have lower := Int.lt_tmod_of_pos (type.number i) (by decide : (0 : Int) < 10)
      have upper := Int.tmod_lt_of_pos (type.number i) (by decide : (0 : Int) < 10)
      exact Int.bmod_eq_of_le (by omega) (by omega)
    have stop := type.number_eq_zero (type.cast ((type.number i).tdiv 10))
    rw [type.number_cast_tdiv] at stop
    rw [convertLoopAt, convertLoop, remainder]
    simp only [ih, type.number_cast_tdiv, ne_eq, stop]

/-- `convert<T>` does what `convert` does on the mathematical number. -/
theorem convertAt_eq (type : IntegerType) (cells : List UInt8) (buf : Nat)
    (value : BitVec type.bits) :
    convertAt type cells buf value = convert cells buf (type.number value) := by
  rw [convertAt, convert, convertLoopAt_eq]

/-- The decimal text of a number is canonical. -/
theorem decimal_canonical (number : Nat) : decimalDigits.Canonical (decimal number) number := by
  refine @Alphabet.canonical_of_last _ decimalDigits decimal (fun digit => (48 + digit).toUInt8)
    decimal_eq (fun value less => ?_) number
  have small : value < 10 := less
  have byte : 48 + value < 256 := by omega
  exact decimalValue_eq_some.mpr ⟨small, UInt8.toNat_ofNat_of_lt' byte⟩

/-- The hexadecimal text of a number is canonical. -/
theorem hexadecimal_canonical (number : Nat) :
    hexadecimalDigits.Canonical (hexadecimal number) number := by
  refine @Alphabet.canonical_of_last _ hexadecimalDigits hexadecimal
    (fun digit => (Nat.digitChar digit).toUpper.toNat.toUInt8) hexadecimal_eq ?_ number
  show ∀ value < 16, hexadecimalValue (Nat.digitChar value).toUpper.toNat.toUInt8 = some value
  decide

/-- The text of an integer is canonical. -/
theorem formatInt_canonical (value : Int) : CanonicalInteger (formatInt value) value := by
  have minus : ∀ text, (bytes "-" ++ text).head? = some 45 := fun _ => rfl
  by_cases negative : value < 0
  · rw [formatInt, if_pos negative]
    refine ⟨iff_of_true (minus _) negative, ?_⟩
    rw [if_pos negative]
    exact decimal_canonical value.natAbs
  · have same : value.toNat = value.natAbs := by omega
    rw [formatInt, if_neg negative, same]
    refine ⟨iff_of_false (fun front => ?_) negative, ?_⟩
    · obtain ⟨rest, text⟩ := List.head?_eq_some_iff.mp front
      have digit := le_of_mem_decimal (text ▸ List.mem_cons_self)
      exact absurd digit (by decide)
    · rw [if_neg negative]
      exact decimal_canonical value.natAbs

namespace CanonicalInteger

variable {text other : List UInt8} {value : Int}

/-- An integer is read back from its canonical text. -/
theorem reads (canonical : CanonicalInteger text value) : readInteger text = some value := by
  have digits := canonical.digits.reads
  rw [readInteger]
  by_cases negative : value < 0
  · rw [if_pos negative, List.drop_one] at digits
    rw [if_pos (canonical.sign.mpr negative), digits, Option.map_some]
    congr 1
    omega
  · rw [if_neg negative, List.drop_zero] at digits
    rw [if_neg (mt canonical.sign.mp negative), digits, Option.map_some]
    exact congrArg some (Int.natAbs_of_nonneg (not_lt.mp negative))

/-- An integer has one canonical text. -/
theorem unique (one : CanonicalInteger text value) (two : CanonicalInteger other value) :
    text = other := by
  have digits := one.digits.unique two.digits
  by_cases negative : value < 0
  · rw [if_pos negative, List.drop_one, List.drop_one] at digits
    rw [← List.cons_head?_tail (one.sign.mpr negative), digits,
      List.cons_head?_tail (two.sign.mpr negative)]
  · rw [if_neg negative] at digits
    exact digits

end CanonicalInteger

/-- Every value of every integer type of 16, 32 or 64 bits has one canonical text. It has at most
twenty characters, the value is read back from it, and `convert` writes it with a NUL behind it,
changes no other byte and returns its length. The same holds of `convertHex` and the hexadecimal
text of a `uintptr_t`, which has at most sixteen characters. -/
theorem convert_canonical :
    (∀ (type : IntegerType) (value : BitVec type.bits), ∃ text : List UInt8,
      (∀ other, CanonicalInteger other (type.number value) ↔ other = text) ∧
        readInteger text = some (type.number value) ∧ text.length ≤ 20 ∧
        ∀ (cells : List UInt8) (buf : Nat), buf + (text.length + 1) ≤ cells.length →
          convertAt type cells buf value =
            .ok (overwrite cells buf (text ++ [0]), text.length)) ∧
    ∀ value : UInt64, ∃ text : List UInt8,
      (∀ other, hexadecimalDigits.Canonical other value.toNat ↔ other = text) ∧
        hexadecimalDigits.read text = some value.toNat ∧ text.length ≤ 16 ∧
        ∀ (cells : List UInt8) (buf : Nat), buf + (text.length + 1) ≤ cells.length →
          convertHex cells buf value.toNat =
            .ok (overwrite cells buf (text ++ [0]), text.length) := by
  constructor
  · intro type value
    have canonical := formatInt_canonical (type.number value)
    obtain ⟨lower, upper⟩ := type.number_range value
    refine ⟨formatInt (type.number value), fun other => ?_, canonical.reads,
      length_formatInt lower upper, fun cells buf room => ?_⟩
    · constructor
      · intro same
        exact same.unique canonical
      · rintro rfl
        exact canonical
    · rw [convertAt_eq]
      exact convert_eq (by omega)
  · intro value
    have canonical := hexadecimal_canonical value.toNat
    refine ⟨hexadecimal value.toNat, fun other => ?_, canonical.reads,
      length_hexadecimal value.toNat_lt, fun cells buf room => convertHex_eq (by omega)⟩
    constructor
    · intro same
      exact same.unique canonical
    · rintro rfl
      exact canonical

/-- The smallest number of 64 bits, behind a byte that stays. -/
theorem convert_canonical_smallest :
    convertAt .int64 (7 :: List.replicate 21 0) 1 (BitVec.ofInt 64 (-2 ^ 63)) =
      .ok (7 :: bytes "-9223372036854775808" ++ [0], 20) := by
  obtain ⟨text, only, -, -, writes⟩ := convert_canonical.1 .int64 (BitVec.ofInt 64 (-2 ^ 63))
  have smallest : IntegerType.int64.number (BitVec.ofInt 64 (-2 ^ 63)) = -2 ^ 63 := by decide
  have digits : formatInt (-2 ^ 63) = bytes "-9223372036854775808" := by decide
  have canonical := formatInt_canonical (-2 ^ 63)
  rw [← smallest, only, smallest, digits] at canonical
  subst canonical
  exact (writes _ _ (by decide)).trans (by decide)

end Muduo
