import Muduo.Base.Machine
import Muduo.Base.Memory

/-!
# Conversion of integers to text

`convert` writes the digits of a number from the last one on, then the sign and a NUL, and turns
round what is in front of the NUL. It works on the number itself and not on its absolute value, so
the remainders of a negative number are negative; the table of digits is read in both directions
from its middle. `convertHex` does the same with sixteen digits and no sign.
-/

namespace Muduo

open Storage Outcome

/-- `digits`. -/
def digitTable : List UInt8 := bytes "9876543210123456789"

/-- `digitsHex`. -/
def digitsHex : List UInt8 := bytes "0123456789ABCDEF"

/-- An element of a constant table. -/
def tableAt (table : List UInt8) (index : Int) : Except Fault UInt8 :=
  if index < 0 then .error .outOfRange
  else
    match table[index.toNat]? with
    | some byte => .ok byte
    | none => .error .outOfRange

/-- `zero[lsd]`, where `zero` points to the middle of the table. -/
def zeroAt (lsd : Int) : Except Fault UInt8 := tableAt digitTable (9 + lsd)

/-- The loop of `convert`, from `*p` on. The fuel is more than it needs. -/
def convertLoop : Nat → List UInt8 → Nat → Int → Except Fault (List UInt8 × Nat)
  | 0, _, _, _ => .error .endless
  | fuel + 1, cells, p, i => do
    let lsd := i.tmod 10
    let i := i.tdiv 10
    let cells ← store cells p [← zeroAt lsd]
    if i ≠ 0 then convertLoop fuel cells (p + 1) i else return (cells, p + 1)

/-- `std::reverse(buf, p)`. -/
def stdReverse (cells : List UInt8) (buf p : Nat) : Except Fault (List UInt8) :=
  store cells buf (window cells buf p).reverse

/-- `if (value < 0) *p++ = '-'`. -/
def convertSign (cells : List UInt8) (p : Nat) (value : Int) : Except Fault (List UInt8 × Nat) :=
  if value < 0 then do
    let cells ← store cells p (bytes "-")
    return (cells, p + 1)
  else .ok (cells, p)

/-- `convert(buf, value)`, where `buf` is an offset. -/
def convert (cells : List UInt8) (buf : Nat) (value : Int) : Except Fault (List UInt8 × Nat) := do
  let (cells, p) ← convertLoop (value.natAbs + 1) cells buf value
  let (cells, p) ← convertSign cells p value
  let cells ← store cells p [0]
  let cells ← stdReverse cells buf p
  return (cells, p - buf)

/-- The loop of `convertHex`, from `*p` on. The fuel is more than it needs. -/
def convertHexLoop : Nat → List UInt8 → Nat → Nat → Except Fault (List UInt8 × Nat)
  | 0, _, _, _ => .error .endless
  | fuel + 1, cells, p, i => do
    let lsd := i % 16
    let i := i / 16
    let cells ← store cells p [← tableAt digitsHex lsd]
    if i ≠ 0 then convertHexLoop fuel cells (p + 1) i else return (cells, p + 1)

/-- `convertHex(buf, value)`, where `buf` is an offset. -/
def convertHex (cells : List UInt8) (buf value : Nat) : Except Fault (List UInt8 × Nat) := do
  let (cells, p) ← convertHexLoop (value + 1) cells buf value
  let cells ← store cells p [0]
  let cells ← stdReverse cells buf p
  return (cells, p - buf)

/-- The hexadecimal digits of a number, in upper case. -/
def hexadecimal (number : Nat) : List UInt8 :=
  (Nat.toDigits 16 number).map fun digit => digit.toUpper.toNat.toUInt8

/-- The text of a number is that of its front digits and its last digit. -/
theorem map_toDigits {base : Nat} (large : 1 < base) (byteOf : Char → UInt8) (number : Nat) :
    (Nat.toDigits base number).map byteOf =
      (if number < base then [] else (Nat.toDigits base (number / base)).map byteOf) ++
        [byteOf (Nat.digitChar (number % base))] := by
  rw [Nat.toDigits_eq_if large]
  split
  case isTrue less =>
    rw [Nat.mod_eq_of_lt less]
    rfl
  case isFalse =>
    rw [List.map_append]
    rfl

/-- The last decimal digit. -/
theorem decimal_eq (number : Nat) :
    decimal number = (if number < 10 then [] else decimal (number / 10)) ++
      [(48 + number % 10).toUInt8] := by
  rw [← Nat.toNat_digitChar_of_lt_ten (Nat.mod_lt number (by decide))]
  exact map_toDigits (by decide) _ number

/-- The digits of a number are digits. -/
theorem le_of_mem_decimal {number : Nat} {byte : UInt8} (member : byte ∈ decimal number) :
    48 ≤ byte := by
  induction number using Nat.strongRecOn with
  | ind number ih =>
    rw [decimal_eq] at member
    obtain front | last := List.mem_append.mp member
    · split at front
      · cases front
      · exact ih _ (by omega) front
    · have digit : ∀ digit < 10, 48 ≤ (48 + digit).toUInt8 := by decide
      rw [List.mem_singleton.mp last]
      exact digit _ (Nat.mod_lt number (by decide))

/-- The table has the digit of a remainder and of its opposite. -/
theorem zeroAt_eq {lsd : Int} (lower : -9 ≤ lsd) (upper : lsd ≤ 9) :
    zeroAt lsd = .ok (48 + lsd.natAbs).toUInt8 := by
  have values : lsd = -9 ∨ lsd = -8 ∨ lsd = -7 ∨ lsd = -6 ∨ lsd = -5 ∨ lsd = -4 ∨ lsd = -3 ∨
      lsd = -2 ∨ lsd = -1 ∨ lsd = 0 ∨ lsd = 1 ∨ lsd = 2 ∨ lsd = 3 ∨ lsd = 4 ∨ lsd = 5 ∨ lsd = 6 ∨
      lsd = 7 ∨ lsd = 8 ∨ lsd = 9 := by omega
  rcases values with rfl | rfl | rfl | rfl | rfl | rfl | rfl | rfl | rfl | rfl | rfl | rfl | rfl |
    rfl | rfl | rfl | rfl | rfl | rfl <;> rfl

/-- The digits of a hexadecimal digit. -/
theorem tableAt_hex {lsd : Nat} (upper : lsd < 16) :
    tableAt digitsHex lsd = .ok (Nat.digitChar lsd).toUpper.toNat.toUInt8 := by
  revert upper
  revert lsd
  decide

/-- The last hexadecimal digit. -/
theorem hexadecimal_eq (number : Nat) :
    hexadecimal number = (if number < 16 then [] else hexadecimal (number / 16)) ++
      [(Nat.digitChar (number % 16)).toUpper.toNat.toUInt8] :=
  map_toDigits (by decide) _ number

/-- The digit that is written first is the last one of the text. -/
theorem overwrite_digit {cells front : List UInt8} {p : Nat} (digit : UInt8)
    (inside : p ≤ cells.length) :
    overwrite (overwrite cells p [digit]) (p + 1) front.reverse =
      overwrite cells p (front ++ [digit]).reverse := by
  rw [List.reverse_append, ← overwrite_adjacent _ _ inside]
  rfl

/-- A loop that writes the last digit and goes on with the quotient, as long as that is not zero.
The numbers of the loop have a size, which is what is written. -/
structure DigitLoop {ι : Type} (base : Nat) (digits : Nat → List UInt8) (digit : Nat → UInt8)
    (size : ι → Nat) (quotient : ι → ι)
    (loop : Nat → List UInt8 → Nat → ι → Except Fault (List UInt8 × Nat)) : Prop where
  /-- There is a digit for zero and one for one. -/
  large : 1 < base
  /-- The text of a number ends with its last digit. -/
  last : ∀ number, digits number =
    (if number < base then [] else digits (number / base)) ++ [digit (number % base)]
  /-- The size of the quotient. -/
  divides : ∀ i, size (quotient i) = size i / base
  /-- One turn of the loop. -/
  turn : ∀ fuel cells p i, loop (fuel + 1) cells p i = (do
    let cells ← store cells p [digit (size i % base)]
    if size (quotient i) ≠ 0 then loop fuel cells (p + 1) (quotient i) else .ok (cells, p + 1))

/-- Such a loop writes the digits from the last one on. -/
theorem DigitLoop.writes {ι : Type} {base : Nat} {digits : Nat → List UInt8} {digit : Nat → UInt8}
    {size : ι → Nat} {quotient : ι → ι}
    {loop : Nat → List UInt8 → Nat → ι → Except Fault (List UInt8 × Nat)}
    (writer : DigitLoop base digits digit size quotient loop) {fuel : Nat} {cells : List UInt8}
    {p : Nat} {i : ι} (enough : size i < fuel)
    (room : p + (digits (size i)).length ≤ cells.length) :
    loop fuel cells p i =
      .ok (overwrite cells p (digits (size i)).reverse, p + (digits (size i)).length) := by
  induction fuel generalizing cells p i with
  | zero => omega
  | succ fuel ih =>
    have large := writer.large
    have divides := writer.divides i
    have positive := @Nat.div_eq_zero_iff (size i) base
    rw [writer.last, List.length_append, List.length_singleton] at room
    have fits : p + [digit (size i % base)].length ≤ cells.length := by
      rw [List.length_singleton]
      omega
    have kept := length_overwrite cells [digit (size i % base)] p fits
    rw [writer.turn, store_eq fits, ok_bind, writer.last (size i), divides]
    by_cases last : size i < base
    · rw [if_neg (by omega), if_pos last]
      rfl
    · have smaller := Nat.div_lt_self (by omega : 0 < size i) large
      rw [if_neg last] at room
      rw [if_pos (by omega), if_neg last, ih (by omega) (by rw [divides, kept]; omega), divides,
        overwrite_digit _ (by omega), List.length_append, List.length_singleton]
      congr 2
      omega

/-- The loop of `convert`, on the absolute value. -/
theorem convertLoop_digits : DigitLoop 10 decimal (fun digit => (48 + digit).toUInt8) Int.natAbs
    (Int.tdiv · 10) convertLoop where
  large := by decide
  last := decimal_eq
  divides i := by
    rw [Int.natAbs_tdiv]
    rfl
  turn fuel cells p i := by
    have remainder : (i.tmod 10).natAbs = i.natAbs % 10 := by
      rw [Int.natAbs_tmod]
      rfl
    have digit : zeroAt (i.tmod 10) = .ok (48 + i.natAbs % 10).toUInt8 := by
      rw [zeroAt_eq (by omega) (by omega), remainder]
    rw [convertLoop, digit, ok_bind]
    simp only [ne_eq, Int.natAbs_eq_zero]
    rfl

/-- The loop of `convertHex`. -/
theorem convertHexLoop_digits : DigitLoop 16 hexadecimal
    (fun digit => (Nat.digitChar digit).toUpper.toNat.toUInt8) id (· / 16) convertHexLoop where
  large := by decide
  last := hexadecimal_eq
  divides _ := rfl
  turn fuel cells p i := by
    rw [convertHexLoop, tableAt_hex (Nat.mod_lt i (by decide))]
    rfl

/-- Data written behind other data. -/
theorem store_adjacent {cells first : List UInt8} {buf : Nat} (second : List UInt8)
    (room : buf + first.length + second.length ≤ cells.length) :
    store (overwrite cells buf first) (buf + first.length) second =
      .ok (overwrite cells buf (first ++ second)) := by
  have kept := length_overwrite cells first buf (by omega)
  rw [store_eq (by omega), overwrite_adjacent _ _ (by omega)]

/-- A text that was written backwards, with a NUL behind it, is turned round. -/
theorem stdReverse_eq {cells text : List UInt8} {buf : Nat}
    (room : buf + text.length + 1 ≤ cells.length) :
    stdReverse (overwrite cells buf (text.reverse ++ [0])) buf (buf + text.length) =
      .ok (overwrite cells buf (text ++ [0])) := by
  have length : (text.reverse ++ [(0 : UInt8)]).length = text.length + 1 := by
    rw [List.length_append, List.length_reverse, List.length_singleton]
  have kept := length_overwrite cells (text.reverse ++ [0]) buf (by omega)
  have backwards : window (overwrite cells buf (text.reverse ++ [0])) buf (buf + text.length) =
      text.reverse := by
    have all := window_overwrite_self (text.reverse ++ [0]) (by omega : buf ≤ cells.length)
    rw [window_take _ (by omega : text.length ≤ buf + (text.reverse ++ [(0 : UInt8)]).length - buf),
      all, ← List.length_reverse, List.take_left]
  rw [stdReverse, backwards, List.reverse_reverse, store_eq (by omega)]
  rw [overwrite_front [0] List.length_reverse.symm (by omega)]

/-- The sign is written behind the digits of a negative number. -/
theorem convertSign_eq {cells : List UInt8} {buf : Nat} {value : Int}
    (room : buf + (formatInt value).length + 1 ≤ cells.length) :
    convertSign (overwrite cells buf (decimal value.natAbs).reverse)
        (buf + (decimal value.natAbs).length) value =
      .ok (overwrite cells buf (formatInt value).reverse, buf + (formatInt value).length) := by
  have minus : (bytes "-").length = 1 := rfl
  by_cases negative : value < 0
  · have text : formatInt value = bytes "-" ++ decimal value.natAbs := if_pos negative
    rw [text, List.length_append, minus] at room ⊢
    have stored := @store_adjacent cells (decimal value.natAbs).reverse buf (bytes "-") (by
      rw [List.length_reverse, minus]
      omega)
    rw [List.length_reverse] at stored
    rw [convertSign, if_pos negative, stored, ok_bind, List.reverse_append, Nat.add_comm 1,
      Nat.add_assoc]
    rfl
  · have text : formatInt value = decimal value.natAbs := by
      rw [formatInt, if_neg negative]
      congr 1
      omega
    rw [convertSign, if_neg negative, text]

/-- `convert` writes what `%d` prints, with a NUL behind it, and returns its length. -/
theorem convert_eq {cells : List UInt8} {buf : Nat} {value : Int}
    (room : buf + (formatInt value).length + 1 ≤ cells.length) :
    convert cells buf value =
      .ok (overwrite cells buf (formatInt value ++ [0]), (formatInt value).length) := by
  have digits : (decimal value.natAbs).length ≤ (formatInt value).length := by
    rw [formatInt]
    split
    · rw [List.length_append]
      omega
    · exact (congrArg (fun number => (decimal number).length) (by omega)).le
  have terminated := @store_adjacent cells (formatInt value).reverse buf [0] (by
    rw [List.length_reverse, List.length_singleton]
    omega)
  rw [List.length_reverse] at terminated
  rw [convert, convertLoop_digits.writes (by omega) (by omega), ok_bind]
  dsimp only
  rw [convertSign_eq room, ok_bind]
  dsimp only
  rw [terminated, ok_bind, stdReverse_eq room, ok_bind, Nat.add_sub_cancel_left]
  rfl

/-- `convertHex` writes the hexadecimal digits, with a NUL behind them, and returns their number. -/
theorem convertHex_eq {cells : List UInt8} {buf value : Nat}
    (room : buf + (hexadecimal value).length + 1 ≤ cells.length) :
    convertHex cells buf value =
      .ok (overwrite cells buf (hexadecimal value ++ [0]), (hexadecimal value).length) := by
  have terminated := @store_adjacent cells (hexadecimal value).reverse buf [0] (by
    rw [List.length_reverse, List.length_singleton]
    omega)
  rw [List.length_reverse] at terminated
  rw [convertHex, convertHexLoop_digits.writes (Nat.lt_succ_self value) (by dsimp only [id]; omega),
    ok_bind]
  dsimp only [id]
  rw [terminated, ok_bind, stdReverse_eq room, ok_bind, Nat.add_sub_cancel_left]
  rfl

/-- A number of 64 bits, signed or not, has at most twenty characters. -/
theorem length_formatInt {value : Int} (lower : -2 ^ 63 ≤ value) (upper : value < 2 ^ 64) :
    (formatInt value).length ≤ 20 := by
  rw [formatInt]
  split
  · have digits := @decimal_length_le value.natAbs 19 (by decide) (by omega)
    have minus : (bytes "-").length = 1 := rfl
    rw [List.length_append, minus]
    omega
  · exact decimal_length_le (by decide) (by omega)

/-- A number of 64 bits has at most sixteen hexadecimal digits. -/
theorem length_hexadecimal {value : Nat} (upper : value < 2 ^ 64) :
    (hexadecimal value).length ≤ 16 := by
  rw [hexadecimal, List.length_map]
  exact (Nat.length_toDigits_le_iff (by decide) (by decide)).mpr upper

end Muduo
