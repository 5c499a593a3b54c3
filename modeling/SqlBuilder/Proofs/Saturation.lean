import SqlBuilder.Json.Basic

/-! # Whole numbers beyond 64 bits

A whole number that no integer of 64 bits can hold is read as an integer by a detour: it is rounded
to a floating-point number, and the whole part of that is kept within the range.  Rounding may move
it far, but not below `2 ^ 63`, which is a number of the format (`BinaryFormat.le_nearest`); and
everything from there on ends at the largest integer (`Double.truncate_ofRatio`).  So the detour
gives what keeping the number itself within the range gives (`JsonNumber.truncate_integer`).
-/
namespace SqlBuilder

/-! ### Keeping within the range -/

/-- The ends of the range in numbers. -/
theorem int64_bounds : Int64.minValue.toInt = -9223372036854775808 ∧
    Int64.maxValue.toInt = 9223372036854775807 :=
  ⟨rfl, rfl⟩

/-- A number that fits is kept as it is. -/
theorem ofIntClamp_of_fits {n : Int} (lower : -9223372036854775808 ≤ n)
    (upper : n < 9223372036854775808) : Int64.ofIntClamp n = Int64.ofInt n := by
  obtain ⟨least, largest⟩ := int64_bounds
  rw [Int64.ofIntClamp, dif_pos (by omega), dif_pos (by omega)]
  rfl

/-- Every number from the largest on becomes the largest. -/
theorem ofIntClamp_of_large {n : Int} (large : 9223372036854775807 ≤ n) :
    Int64.ofIntClamp n = Int64.maxValue := by
  obtain ⟨least, largest⟩ := int64_bounds
  rw [Int64.ofIntClamp, dif_pos (by omega)]
  split
  · obtain rfl : n = 9223372036854775807 := by omega
    rfl
  · rfl

/-- Every number from the least down becomes the least. -/
theorem ofIntClamp_of_small {n : Int} (small : n ≤ -9223372036854775808) :
    Int64.ofIntClamp n = Int64.minValue := by
  obtain ⟨least, largest⟩ := int64_bounds
  rw [Int64.ofIntClamp]
  split
  · obtain rfl : n = -9223372036854775808 := by omega
    rfl
  · rfl

/-- Keeping within the range is going no further than its ends. -/
theorem toInt_ofIntClamp (n : Int) : (Int64.ofIntClamp n).toInt
    = max Int64.minValue.toInt (min n Int64.maxValue.toInt) := by
  obtain ⟨least, largest⟩ := int64_bounds
  rcases Int.lt_or_le n Int64.minValue.toInt with small | above
  · rw [ofIntClamp_of_small (by omega)]
    omega
  · rcases Int.lt_or_le Int64.maxValue.toInt n with large | below
    · rw [ofIntClamp_of_large (by omega)]
      omega
    · rw [Int64.toInt_ofIntClamp above below]
      omega

/-- The end of the range of integers of 64 bits on the side of a sign. -/
def Datum.limit (negative : Bool) : Int64 :=
  if negative then Int64.minValue else Int64.maxValue

/-! ### Rounding -/

namespace BinaryFormat

theorem leadingExponent_whole {n : Nat} (positive : 0 < n) : leadingExponent n 1 = Nat.log2 n := by
  have leading : Nat.pow 2 (Nat.log2 n) ≤ n := Nat.log2_self_le (Nat.ne_of_gt positive)
  have guess : (Nat.log2 n : Int) - (Nat.log2 1 : Nat) = Nat.log2 n := by
    rw [show Nat.log2 1 = 0 by decide]
    omega
  simp only [leadingExponent, guess]
  refine if_neg ?_
  rw [if_pos (by omega), Int.toNat_natCast, Nat.one_mul]
  exact Nat.not_lt.mpr leading

theorem le_nearestNat (num den : Nat) : num / den ≤ nearestNat num den := by
  simp only [nearestNat]
  split
  · exact Nat.le_refl _
  · split <;> omega

/-- **Rounding does not fall below a power of two** that has a pattern of its own. -/
theorem le_nearest (f : BinaryFormat) {k n : Nat} (precise : f.fractionBits ≤ k)
    (normal : f.leastExponent ≤ (k : Int) - f.fractionBits) (large : Nat.pow 2 k ≤ n) :
    min ((((k : Int) - f.fractionBits - f.leastExponent).toNat + 1) * Nat.pow 2 f.fractionBits)
      f.infinity ≤ f.nearest n 1 := by
  have positive : 0 < n := Nat.lt_of_lt_of_le (Nat.two_pow_pos k) large
  have higher : k ≤ Nat.log2 n := (Nat.le_log2 (Nat.ne_of_gt positive)).mpr large
  -- the unit of the last place, from which the mantissa counts
  let shift := Nat.log2 n - f.fractionBits
  have unit : max f.leastExponent (leadingExponent n 1 - f.fractionBits) = (shift : Nat) := by
    rw [leadingExponent_whole positive]
    omega
  have full : Nat.pow 2 f.fractionBits ≤ nearestNat n (1 * Nat.pow 2 shift) := by
    have leading : Nat.pow 2 f.fractionBits * Nat.pow 2 shift ≤ n := by
      have product := Nat.pow_add 2 f.fractionBits shift
      rw [show f.fractionBits + shift = Nat.log2 n by omega] at product
      exact Nat.le_trans (Nat.le_of_eq product.symm) (Nat.log2_self_le (Nat.ne_of_gt positive))
    have quotient : Nat.pow 2 f.fractionBits ≤ n / (1 * Nat.pow 2 shift) := by
      rw [Nat.one_mul]
      exact (Nat.le_div_iff_mul_le (Nat.two_pow_pos shift)).mpr leading
    exact Nat.le_trans quotient (le_nearestNat n _)
  have exponent : ((k : Int) - f.fractionBits - f.leastExponent).toNat
      ≤ ((shift : Int) - f.leastExponent).toNat := by omega
  simp only [nearest, unit]
  rw [if_neg (Nat.ne_of_gt positive), if_pos (by omega), Int.toNat_natCast]
  have pattern := Nat.mul_le_mul_right (Nat.pow 2 f.fractionBits) exponent
  rw [Nat.add_mul, Nat.one_mul]
  exact Nat.le_min.mpr ⟨Nat.le_trans (Nat.min_le_left _ _) (Nat.add_le_add pattern full),
    Nat.min_le_right _ _⟩

theorem nearest_le_infinity (f : BinaryFormat) (num den : Nat) :
    f.nearest num den ≤ f.infinity := by
  simp only [nearest]
  split
  · exact Nat.zero_le _
  · exact Nat.min_le_right _ _

/-! ### Patterns from `2 ^ 63` on -/

/-- The bounds of the format of 64 bits in numbers. -/
theorem double_bounds : double.signBit = 9223372036854775808 ∧
    double.infinity = 2047 * 4503599627370496 ∧ double.leastExponent = -1074 :=
  ⟨rfl, rfl, rfl⟩

/-- A finite number of at least `2 ^ 63`, of either sign, ends at the end of the range. -/
theorem truncate_finite_of_large (negative : Bool) {mantissa shift : Nat}
    (full : 4503599627370496 ≤ mantissa) (high : 11 ≤ shift) :
    (Datum.finite negative mantissa shift).truncate = Datum.limit negative := by
  have large : 9223372036854775808 ≤ mantissa * Nat.pow 2 shift :=
    calc 9223372036854775808 = 4503599627370496 * Nat.pow 2 11 := by decide
      _ ≤ mantissa * Nat.pow 2 shift := Nat.mul_le_mul full (Nat.pow_le_pow_right (by decide) high)
  have magnitude : (if (0 : Int) ≤ shift then mantissa * Nat.pow 2 (shift : Int).toNat
      else mantissa / Nat.pow 2 (-(shift : Int)).toNat) = mantissa * Nat.pow 2 shift := by
    rw [if_pos (by omega), Int.toNat_natCast]
  simp only [Datum.truncate, magnitude]
  cases negative with
  | true =>
    rw [if_pos rfl]
    exact ofIntClamp_of_small (by omega)
  | false =>
    rw [if_neg Bool.false_ne_true]
    exact ofIntClamp_of_large (by omega)

/-- **A pattern from that of `2 ^ 63` up to infinity** ends at the end of the range. -/
theorem truncate_decode_of_large (negative : Bool) {magnitude : Nat}
    (large : 1086 * 4503599627370496 ≤ magnitude) (bounded : magnitude ≤ double.infinity) :
    (double.decode (double.signed negative magnitude)).truncate = Datum.limit negative := by
  obtain ⟨signBit, infinity, least⟩ := double_bounds
  rw [infinity] at bounded
  have fraction : Nat.pow 2 double.fractionBits = 4503599627370496 := rfl
  have exponents : Nat.pow 2 double.exponentBits = 2048 := rfl
  -- the three fields of the pattern
  have sign : (double.signed negative magnitude / 9223372036854775808 % 2 == 1) = negative := by
    rw [signed, signBit]
    cases negative <;> simp <;> omega
  have exponent : double.signed negative magnitude / 4503599627370496 % 2048
      = magnitude / 4503599627370496 := by
    rw [signed, signBit]
    split <;> omega
  have rest : double.signed negative magnitude % 4503599627370496
      = magnitude % 4503599627370496 := by
    rw [signed, signBit]
    split <;> omega
  simp only [decode, signBit, fraction, exponents, sign, exponent, rest, least]
  by_cases infinite : magnitude / 4503599627370496 = 2048 - 1
  · rw [if_pos infinite, if_pos (by omega)]
    cases negative <;> rfl
  · rw [if_neg infinite, if_neg (by omega)]
    have shift : (-1074 + (magnitude / 4503599627370496 : Nat) - 1 : Int)
        = (magnitude / 4503599627370496 - 1075 : Nat) := by omega
    rw [shift]
    exact truncate_finite_of_large negative (by omega) (by omega)

end BinaryFormat

/-- **A whole number beyond 64 bits**, rounded to a floating-point number, ends at the end of the
range. -/
theorem Double.truncate_ofRatio (negative : Bool) {n : Nat} (large : 9223372036854775808 ≤ n) :
    (Double.ofRatio negative n 1).datum.truncate = Datum.limit negative := by
  obtain ⟨signBit, infinity, -⟩ := BinaryFormat.double_bounds
  have above := BinaryFormat.double.le_nearest (k := 63) (n := n) (by decide) (by decide) large
  have bounded := BinaryFormat.double.nearest_le_infinity n 1
  have pattern : min (((((63 : Nat) : Int) - BinaryFormat.double.fractionBits
      - BinaryFormat.double.leastExponent).toNat + 1) * Nat.pow 2 BinaryFormat.double.fractionBits)
      BinaryFormat.double.infinity = 1086 * 4503599627370496 := by decide
  rw [pattern] at above
  have fits : BinaryFormat.double.signed negative (BinaryFormat.double.nearest n 1)
      < 18446744073709551616 := by
    rw [BinaryFormat.signed, signBit]
    split <;> omega
  have bits : (Double.ofRatio negative n 1).bits.toNat
      = BinaryFormat.double.signed negative (BinaryFormat.double.nearest n 1) := by
    rw [Double.ofRatio, UInt64.toNat_ofNat']
    exact Nat.mod_eq_of_lt fits
  rw [Double.datum, bits]
  exact BinaryFormat.truncate_decode_of_large negative above bounded

/-- An integer of a document is kept within the range, also when it is read as a floating-point
number on the way. -/
theorem JsonNumber.truncate_integer (n : WideInt) :
    (JsonNumber.integer n).truncate = Int64.ofIntClamp n.val := by
  have lower := n.lower
  rw [truncate, WideInt.toInt64?]
  split
  · next small => rw [Option.getD_some, ofIntClamp_of_fits lower small]
  · next large =>
    have whole : 9223372036854775808 ≤ n.val.natAbs := by omega
    have positive : decide (n.val < 0) = false := decide_eq_false (by omega)
    rw [Option.getD_none, Double.ofInt, positive, Double.truncate_ofRatio false whole,
      ofIntClamp_of_large (by omega)]
    rfl

end SqlBuilder
