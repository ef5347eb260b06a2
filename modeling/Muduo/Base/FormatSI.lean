import Mathlib.Data.Nat.Log
import Muduo.Base.Printf

/-!
# `formatSI`

A number is printed with one of six units and as many digits behind the point as leave three in all.
The thresholds between the formats are where the rounding carries into a fourth digit. From ten to a
hundred `T` and from a tenth of a `P` on, the formats leave two digits: the branch for `%.1fT` is
missing, so the ones behind it stand a place too early.
-/

namespace Muduo

open HalfEven

/-- `snprintf(buf, sizeof(buf), "%.2fk", n/1e3)`, for the precision 2, the exponent 3 and `k`. -/
def printScaled (s : Int) (precision exponent : Nat) (unit : String) : List UInt8 :=
  snprintf 64 (fixedPoint precision ((s : ℚ) / 10 ^ exponent) ++ bytes unit)

/-- `formatSI(s)`. -/
def formatSI (s : Int) : List UInt8 :=
  if s < 1000 then snprintf 64 (formatInt s)
  else if s < 9995 then printScaled s 2 3 "k"
  else if s < 99950 then printScaled s 1 3 "k"
  else if s < 999500 then printScaled s 0 3 "k"
  else if s < 9995000 then printScaled s 2 6 "M"
  else if s < 99950000 then printScaled s 1 6 "M"
  else if s < 999500000 then printScaled s 0 6 "M"
  else if s < 9995000000 then printScaled s 2 9 "G"
  else if s < 99950000000 then printScaled s 1 9 "G"
  else if s < 999500000000 then printScaled s 0 9 "G"
  else if s < 9995000000000 then printScaled s 2 12 "T"
  else if s < 99950000000000 then printScaled s 0 12 "T"
  else if s < 9995000000000000 then printScaled s 2 15 "P"
  else if s < 99950000000000000 then printScaled s 1 15 "P"
  else if s < 999500000000000000 then printScaled s 0 15 "P"
  else printScaled s 2 18 "E"

/-- The exponent of a unit. -/
def siExponent (unit : UInt8) : Option Nat :=
  if unit = 107 then some 3
  else if unit = 77 then some 6
  else if unit = 71 then some 9
  else if unit = 84 then some 12
  else if unit = 80 then some 15
  else if unit = 69 then some 18
  else none

/-- The number that a text with or without a unit denotes. -/
def readSI (text : List UInt8) : Option ℚ :=
  match text.getLast?.bind siExponent with
  | some exponent => (readFixed text.dropLast).map (· * 10 ^ exponent)
  | none => readFixed text

/-- The unit of the third significant digit of a number from 1000 on. -/
def thirdDigit (n : Int) : Int := 10 ^ (Nat.log 10 n.toNat - 2)

/-- A text of at most five characters that denotes a number to three significant digits. -/
structure ThreeDigits (text : List UInt8) (n : Int) : Prop where
  /-- The text has at most five characters. -/
  short : text.length ≤ 5
  /-- What it denotes differs from the number by at most half a unit of the third digit, so by at
  most 0.5 percent. -/
  near : 1000 ≤ n → ∃ value, readSI text = some value ∧
    |value - n| ≤ (thirdDigit n : ℚ) / 2 ∧ |value - n| ≤ (n : ℚ) / 200

/-- The number has 14 or 15 digits, and there is no number with two digits and zeros behind them
within half a unit of its third digit. -/
def NeedsThirdDigit (n : Int) : Prop :=
  ∃ digits ∈ [14, 15], (10 ^ (digits - 1) ≤ n ∧ n < 10 ^ digits) ∧
    5 * 10 ^ (digits - 4) < n % 10 ^ (digits - 2) ∧
      n % 10 ^ (digits - 2) < 95 * 10 ^ (digits - 4)

instance (n : Int) : Decidable (NeedsThirdDigit n) :=
  inferInstanceAs (Decidable (∃ digits ∈ [14, 15], _ ∧ _))

/-- A text with a unit behind it is read with the unit. -/
theorem readSI_unit {unit : UInt8} {exponent : Nat} (known : siExponent unit = some exponent)
    (text : List UInt8) :
    readSI (text ++ [unit]) = (readFixed text).map (· * 10 ^ exponent) := by
  rw [readSI, List.getLast?_concat, Option.bind_some, known, List.dropLast_concat]

section

variable {s : Int} {precision exponent : Nat} {unit : String} {letter : UInt8}

/-- The number in units of the last digit that is printed. -/
theorem scaled_units (precise : precision ≤ exponent) :
    (s : ℚ) / 10 ^ exponent * 10 ^ precision =
      (s : ℚ) / (10 ^ (exponent - precision) : Int) := by
  rw [← pow_sub_mul_pow (10 : ℚ) precise]
  push_cast
  field_simp

/-- A number is printed in five characters and read back as a multiple of the unit of the last
digit. -/
theorem printScaled_eq (precise : precision ≤ 2) (unit_eq : bytes unit = [letter])
    (known : siExponent letter = some exponent) (larger : precision ≤ exponent) (nonneg : 0 ≤ s)
    (small : 2 * s < 1999 * 10 ^ (exponent - precision)) :
    (printScaled s precision exponent unit).length ≤ 5 ∧
      readSI (printScaled s precision exponent unit) =
        some ((roundHalfEven ((s : ℚ) / (10 ^ (exponent - precision) : Int)) *
          10 ^ (exponent - precision) : Int) : ℚ) := by
  have units := @scaled_units s precision exponent larger
  have positive : (0 : ℚ) < (10 ^ (exponent - precision) : Int) := by positivity
  have bound : roundHalfEven ((s : ℚ) / (10 ^ (exponent - precision) : Int)) ≤ 999 := by
    refine roundHalfEven_le ?_
    rw [div_lt_iff₀ positive]
    have scaled : (2 * s : ℚ) < 1999 * (10 ^ (exponent - precision) : Int) := by
      exact_mod_cast small
    linarith
  have least : 0 ≤ roundHalfEven ((s : ℚ) / (10 ^ (exponent - precision) : Int)) :=
    roundHalfEven_nonneg (by positivity)
  have mantissa := @length_fixedPoint_le precision 3 ((s : ℚ) / 10 ^ exponent) (by omega) (by
    rw [units]
    omega)
  have length : (fixedPoint precision ((s : ℚ) / 10 ^ exponent) ++ bytes unit).length ≤ 5 := by
    rw [List.length_append, unit_eq, List.length_singleton]
    omega
  have whole := @snprintf_of_lt 64 _ (by omega :
    (fixedPoint precision ((s : ℚ) / 10 ^ exponent) ++ bytes unit).length < 64)
  rw [printScaled, whole]
  refine ⟨length, ?_⟩
  rw [unit_eq, readSI_unit known, readFixed_fixedPoint, units, Option.map_some]
  obtain ⟨multiple, same⟩ := Int.eq_ofNat_of_zero_le least
  rw [same, Int.toNat_natCast, ← pow_sub_mul_pow (10 : ℚ) larger]
  push_cast
  field_simp

/-- Half a unit of the third digit, in the decade of the number. -/
theorem thirdDigit_eq {decade : Nat} (lower : 10 ^ (decade + 3) ≤ s)
    (upper : s < 10 ^ (decade + 4)) : thirdDigit s = 2 * (5 * 10 ^ decade) := by
  have positive : (0 : Int) < 10 ^ (decade + 3) := by positivity
  have next : (10 : Int) ^ (decade + 4) = 10 * 10 ^ (decade + 3) := by ring
  have digits : Nat.log 10 s.toNat = decade + 3 :=
    Nat.log_eq_of_pow_le_of_lt_pow (by zify; omega) (by zify; omega)
  rw [thirdDigit, digits, Nat.add_sub_assoc (by decide), pow_add]
  ring

/-- A number is printed to three digits exactly when a multiple of the unit of the last digit that
is printed is within half a unit of the third one. -/
theorem threeDigits_iff {decade : Nat} (precise : precision ≤ 2) (unit_eq : bytes unit = [letter])
    (known : siExponent letter = some exponent) (larger : precision ≤ exponent)
    (lower : 10 ^ (decade + 3) ≤ s) (upper : s < 10 ^ (decade + 4))
    (small : 2 * s < 1999 * 10 ^ (exponent - precision)) :
    ThreeDigits (printScaled s precision exponent unit) s ↔
      s % 10 ^ (exponent - precision) ≤ 5 * 10 ^ decade ∨
        10 ^ (exponent - precision) ≤ s % 10 ^ (exponent - precision) + 5 * 10 ^ decade := by
  have positive : (0 : Int) < 10 ^ (exponent - precision) := by positivity
  have thousand : (10 : Int) ^ (decade + 3) = 1000 * 10 ^ decade := by ring
  have some : (0 : Int) < 10 ^ decade := by positivity
  obtain ⟨short, reads⟩ := printScaled_eq precise unit_eq known larger (by omega) small
  rw [← @near_iff ℚ _ _ _ _ _ s (5 * 10 ^ decade) positive]
  generalize roundHalfEven ((s : ℚ) / (10 ^ (exponent - precision) : Int)) *
    10 ^ (exponent - precision) = value at reads ⊢
  have half : (thirdDigit s : ℚ) / 2 = (5 * 10 ^ decade : Int) := by
    rw [thirdDigit_eq lower upper]
    push_cast
    ring
  constructor
  · rintro ⟨-, near⟩
    obtain ⟨other, same, close, -⟩ := near (by omega)
    rw [reads] at same
    cases same
    rw [half] at close
    exact_mod_cast close
  · intro close
    have bound : |(value - s : ℚ)| ≤ (5 * 10 ^ decade : Int) := by exact_mod_cast close
    refine ⟨short, fun _ => ⟨value, reads, half ▸ bound, bound.trans ?_⟩⟩
    have large : (1000 * 10 ^ decade : ℚ) ≤ s := by exact_mod_cast thousand ▸ lower
    push_cast
    linarith

/-- The two decades. -/
theorem needsThirdDigit_iff : NeedsThirdDigit s ↔
    (10 ^ 13 ≤ s ∧ s < 10 ^ 14) ∧ 5 * 10 ^ 10 < s % 10 ^ 12 ∧ s % 10 ^ 12 < 95 * 10 ^ 10 ∨
      (10 ^ 14 ≤ s ∧ s < 10 ^ 15) ∧ 5 * 10 ^ 11 < s % 10 ^ 13 ∧ s % 10 ^ 13 < 95 * 10 ^ 11 := by
  simp [NeedsThirdDigit]

/-- A number of fewer than 14 or of more than 15 digits. -/
theorem not_needsThirdDigit (outside : s < 10 ^ 13 ∨ 10 ^ 15 ≤ s) : ¬NeedsThirdDigit s := by
  rw [needsThirdDigit_iff]
  rintro (⟨⟨lower, upper⟩, -⟩ | ⟨⟨lower, upper⟩, -⟩)
  · omega
  · omega

/-- A format with the right number of digits behind the point, from where the rounding carries into
its first digit to where it carries into a fourth one. -/
theorem threeDigits_of_range {step : Nat} (precise : precision ≤ 2)
    (unit_eq : bytes unit = [letter]) (known : siExponent letter = some exponent)
    (larger : exponent = step + 1 + precision) (thousand : 1000 ≤ s)
    (lower : 1999 * 10 ^ step ≤ 2 * s) (upper : 2 * s < 1999 * 10 ^ (step + 1)) :
    ThreeDigits (printScaled s precision exponent unit) s := by
  have cut : exponent - precision = step + 1 := by omega
  have some : (0 : Int) < 10 ^ step := by positivity
  have power : (10 : Int) ^ (step + 3) = 1000 * 10 ^ step := by ring
  have next : (10 : Int) ^ (step + 4) = 10000 * 10 ^ step := by ring
  have one : (10 : Int) ^ (step + 1) = 10 * 10 ^ step := by ring
  rw [one] at upper
  by_cases carried : s < 10 ^ (step + 3)
  · cases step with
    | zero => omega
    | succ step =>
      have unit : (10 : Int) ^ (step + 1) = 10 * 10 ^ step := by ring
      have decade : (10 : Int) ^ (step + 3) = 1000 * 10 ^ step := by ring
      have above : (10 : Int) ^ (step + 4) = 10000 * 10 ^ step := by ring
      have modulus : (10 : Int) ^ (step + 1 + 1) = 100 * 10 ^ step := by ring
      refine (@threeDigits_iff s precision exponent _ letter step precise unit_eq known (by omega)
        (by omega) (by omega) (by rw [cut]; omega)).mpr (.inr ?_)
      have rest : s % (100 * 10 ^ step) = s - 99 * (100 * 10 ^ step) := by
        rw [← Int.sub_mul_emod_self_right s 99, Int.emod_eq_of_lt (by omega) (by omega)]
      rw [cut, modulus, rest]
      omega
  · refine (@threeDigits_iff s precision exponent unit letter step precise unit_eq known (by omega)
      (by omega) (by omega) (by rw [cut]; omega)).mpr ?_
    rw [cut]
    omega

/-- Small numbers are printed as they are. -/
theorem threeDigits_of_small (nonneg : 0 ≤ s) (small : s < 1000) :
    ThreeDigits (snprintf 64 (formatInt s)) s := by
  have digits := @decimal_length_le s.toNat 3 (by decide) (by omega)
  refine ⟨?_, fun large => by omega⟩
  rw [formatInt, if_neg (by omega), snprintf_of_lt (by omega)]
  omega

/-- A branch of the program with a format that fits. -/
theorem threeDigits_branch {lower upper : Int} (step : Nat) (letter : UInt8) (above : ¬s < lower)
    (below : s < upper)
    (fits : (precision ≤ 2 ∧ bytes unit = [letter] ∧ siExponent letter = some exponent ∧
      exponent = step + 1 + precision) ∧
      (1000 ≤ lower ∧ 1999 * 10 ^ step ≤ 2 * lower ∧ 2 * upper ≤ 1999 * 10 ^ (step + 1)) ∧
      (upper ≤ 10 ^ 13 ∨ 10 ^ 15 ≤ lower)) :
    ThreeDigits (printScaled s precision exponent unit) s ↔ ¬NeedsThirdDigit s := by
  obtain ⟨⟨precise, unit_eq, known, larger⟩, ⟨thousand, first, last⟩, outside⟩ := fits
  refine iff_of_true ?_ (not_needsThirdDigit (by omega))
  exact threeDigits_of_range precise unit_eq known larger (by omega) (by omega) (by omega)

/-- The format `%.0fT`, where `%.1fT` is missing. -/
theorem threeDigits_tera (above : ¬s < 9995000000000) (below : s < 99950000000000) :
    ThreeDigits (printScaled s 0 12 "T") s ↔ ¬NeedsThirdDigit s := by
  rw [needsThirdDigit_iff]
  by_cases decade : s < 10 ^ 13
  · rw [@threeDigits_iff s 0 12 "T" 84 9 (by decide) rfl rfl (by decide) (by omega) (by omega)
      (by omega)]
    omega
  · rw [@threeDigits_iff s 0 12 "T" 84 10 (by decide) rfl rfl (by decide) (by omega) (by omega)
      (by omega)]
    omega

/-- The format `%.2fP`, below a whole `P` too. -/
theorem threeDigits_peta (above : ¬s < 99950000000000) (below : s < 9995000000000000) :
    ThreeDigits (printScaled s 2 15 "P") s ↔ ¬NeedsThirdDigit s := by
  rw [needsThirdDigit_iff]
  by_cases tens : s < 10 ^ 14
  · rw [@threeDigits_iff s 2 15 "P" 80 10 (by decide) rfl rfl (by decide) (by omega) (by omega)
      (by omega)]
    omega
  by_cases hundreds : s < 10 ^ 15
  · rw [@threeDigits_iff s 2 15 "P" 80 11 (by decide) rfl rfl (by decide) (by omega) (by omega)
      (by omega)]
    omega
  · rw [@threeDigits_iff s 2 15 "P" 80 12 (by decide) rfl rfl (by decide) (by omega) (by omega)
      (by omega)]
    omega

end

/-- The numbers that are printed to three digits. -/
theorem formatSI_threeDigits_iff {n : Int} (nonneg : 0 ≤ n) (fits : n < 2 ^ 63) :
    ThreeDigits (formatSI n) n ↔ ¬NeedsThirdDigit n := by
  let motive := fun text => ThreeDigits text n ↔ ¬NeedsThirdDigit n
  show motive (formatSI n)
  rw [formatSI]
  refine iteInduction (fun small => ?_) fun kilo => ?_
  · exact iff_of_true (threeDigits_of_small nonneg small) (not_needsThirdDigit (by omega))
  refine iteInduction (threeDigits_branch 0 107 kilo · (by decide)) fun kilo => ?_
  refine iteInduction (threeDigits_branch 1 107 kilo · (by decide)) fun kilo => ?_
  refine iteInduction (threeDigits_branch 2 107 kilo · (by decide)) fun mega => ?_
  refine iteInduction (threeDigits_branch 3 77 mega · (by decide)) fun mega => ?_
  refine iteInduction (threeDigits_branch 4 77 mega · (by decide)) fun mega => ?_
  refine iteInduction (threeDigits_branch 5 77 mega · (by decide)) fun giga => ?_
  refine iteInduction (threeDigits_branch 6 71 giga · (by decide)) fun giga => ?_
  refine iteInduction (threeDigits_branch 7 71 giga · (by decide)) fun giga => ?_
  refine iteInduction (threeDigits_branch 8 71 giga · (by decide)) fun tera => ?_
  refine iteInduction (threeDigits_branch 9 84 tera · (by decide)) fun tera => ?_
  refine iteInduction (threeDigits_tera tera) fun peta => ?_
  refine iteInduction (threeDigits_peta peta) fun peta => ?_
  refine iteInduction (threeDigits_branch 13 80 peta · (by decide)) fun peta => ?_
  refine iteInduction (threeDigits_branch 14 80 peta · (by decide)) fun exa => ?_
  exact threeDigits_branch 15 69 exa fits (by decide)

/-- A hundred `T` is printed to three digits, and 104 `T` is not. -/
theorem formatSI_threeDigits_iff_hundred :
    ThreeDigits (formatSI (100 * 10 ^ 12)) (100 * 10 ^ 12) ∧
      ¬ThreeDigits (formatSI (104 * 10 ^ 12)) (104 * 10 ^ 12) :=
  ⟨(formatSI_threeDigits_iff (by decide) (by decide)).mpr (by decide),
    mt (formatSI_threeDigits_iff (by decide) (by decide)).mp (by decide)⟩

/-- `12.4T` is printed without its third digit. -/
theorem formatSI_drops_digit :
    formatSI 12400000000000 = bytes "12T" ∧
      ¬ThreeDigits (formatSI 12400000000000) 12400000000000 := by
  have branch : formatSI 12400000000000 = printScaled 12400000000000 0 12 "T" := by decide +kernel
  refine ⟨by decide +kernel, ?_⟩
  rw [branch, threeDigits_tera (by decide) (by decide)]
  decide

end Muduo
