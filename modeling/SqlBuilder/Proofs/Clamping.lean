import SqlBuilder.Proofs.Aliases
import SqlBuilder.Proofs.Numerals
import SqlBuilder.Proofs.Saturation
import SqlBuilder.Value.Basic

/-! # Reported numbers as integers

A count or a sum can be any whole number, and a database reports it as a number of a document or as
a text, perhaps with zeros or a plus sign in front and white space around it (`Value.Reports`).  It
is read as an integer of 64 bits.  What fits there is read exactly.  The digits of a larger number
are no such integer, and are read once more as a floating-point number, which rounding moves but
does not bring back into the range (`Double.truncate_ofDecimal`).  So every form of a number gives
the number kept within the range (`Value.toInt64_clamps`), and no large number turns up as a small
or a negative one.
-/
namespace SqlBuilder

/-! ### Decimal forms -/

namespace Text

/-- A decimal form of a whole number: a sign, zeros and digits.  A number below zero has a minus
sign, and every other may have a plus sign. -/
def decimalForm (n : Int) (plus : Bool) (zeros : Nat) : List Char :=
  (if n < 0 then ['-'] else if plus then ['+'] else [])
    ++ (List.replicate zeros '0' ++ showNat n.natAbs)

section
variable {cs : List Char} {n : Int} {plus : Bool} {zeros m : Nat} {c : Char}

theorem isDigit_of_mem_zeros (member : c ∈ List.replicate zeros '0' ++ showNat m) :
    c.isDigit = true := by
  rcases List.mem_append.mp member with zero | digit
  · rw [(List.mem_replicate.mp zero).2]
    rfl
  · exact isDigit_of_mem_showNat digit

theorem zeros_append_ne_nil : List.replicate zeros '0' ++ showNat m ≠ [] := by
  intro nil
  exact (isNumeral_showNat m).nonempty (List.append_eq_nil_iff.mp nil).2

/-- Zeros in front add nothing. -/
theorem placeValue_zeros (zeros : Nat) (cs : List Char) :
    placeValue (List.replicate zeros '0' ++ cs) = placeValue cs := by
  induction zeros with
  | zero => rfl
  | succ zeros ih =>
    rw [List.replicate_succ, List.cons_append, placeValue, ih]
    simp

theorem isBlank_of_mem_decimalForm (member : c ∈ decimalForm n plus zeros) :
    isBlank c = false := by
  rcases List.mem_append.mp member with sign | digit
  · have either : c = '-' ∨ c = '+' := by
      split at sign
      · exact .inl (List.mem_singleton.mp sign)
      · split at sign
        · exact .inr (List.mem_singleton.mp sign)
        · cases sign
    rcases either with rfl | rfl <;> decide
  · exact isBlank_of_isDigit (isDigit_of_mem_zeros digit)

/-- **A decimal form is read as its number**, however many zeros it has. -/
theorem readInt?_decimalForm (n : Int) (plus : Bool) (zeros : Nat) :
    readInt? (decimalForm n plus zeros) = some n := by
  have digits : ∀ c ∈ List.replicate zeros '0' ++ showNat n.natAbs, c.isDigit = true :=
    fun _ member => isDigit_of_mem_zeros member
  have read : readNat? (List.replicate zeros '0' ++ showNat n.natAbs) = some n.natAbs := by
    rw [readNat?_of_digits zeros_append_ne_nil digits, placeValue_zeros, placeValue_showNat]
  rw [decimalForm]
  by_cases below : n < 0
  · have value : -((n.natAbs : Nat) : Int) = n := by omega
    rw [if_pos below, List.singleton_append, readInt?, read]
    exact congrArg some value
  · have value : ((n.natAbs : Nat) : Int) = n := by omega
    rw [if_neg below]
    cases plus with
    | true =>
      rw [if_pos rfl, List.singleton_append, readInt?, read]
      exact congrArg some value
    | false =>
      rw [if_neg Bool.false_ne_true, List.nil_append, readInt?_of_digits digits, read]
      exact congrArg some value

theorem scanSign_of_digits (digits : ∀ c ∈ cs, c.isDigit = true) :
    DecimalText.scanSign cs = (false, cs) := by
  rw [DecimalText.scanSign]
  · exact fun rest => ne_cons_of_digits digits (by decide)
  · exact fun rest => ne_cons_of_digits digits (by decide)

theorem scanSign_decimalForm (n : Int) (plus : Bool) (zeros : Nat) :
    DecimalText.scanSign (decimalForm n plus zeros)
      = (decide (n < 0), List.replicate zeros '0' ++ showNat n.natAbs) := by
  rw [decimalForm]
  by_cases below : n < 0
  · rw [if_pos below, List.singleton_append, DecimalText.scanSign, decide_eq_true below]
  · rw [if_neg below, decide_eq_false below]
    cases plus with
    | true => rw [if_pos rfl, List.singleton_append, DecimalText.scanSign]
    | false =>
      rw [if_neg Bool.false_ne_true, List.nil_append,
        scanSign_of_digits fun _ member => isDigit_of_mem_zeros member]

theorem toLower_of_isDigit (digit : c.isDigit = true) : c.toLower = c := by
  have bounds := bounds_of_isDigit digit
  rcases toLower_cases c with ⟨least, -⟩ | same
  · omega
  · exact same

theorem lower_of_digits (digits : ∀ c ∈ cs, c.isDigit = true) : lower cs = cs := by
  rw [lower, List.map_congr_left fun c member => toLower_of_isDigit (digits c member)]
  exact List.map_id' cs

end
end Text

/-! ### Digits as floating-point numbers -/

namespace Double

/-- Digits behind a sign are not a name, and nothing is left behind them. -/
theorem ofText?_of_digits {text digits : List Char} {negative : Bool}
    (sign : DecimalText.scanSign text = (negative, digits)) (nonempty : digits ≠ [])
    (all : ∀ c ∈ digits, c.isDigit = true) :
    ofText? text = some (ofDecimal negative (Text.placeValue digits) 0) := by
  have taken : digits.takeWhile Char.isDigit = digits := List.takeWhile_eq_self_iff.mpr all
  have rest : digits.dropWhile Char.isDigit = [] := List.dropWhile_eq_nil_iff.mpr all
  have parts : DecimalText.scan digits = (⟨digits, none, none⟩, []) := by
    rw [DecimalText.scan, taken, rest]
    rfl
  have small : Text.lower digits = digits := Text.lower_of_digits all
  -- every name begins with a letter
  have unnamed : ∀ letter rest, letter.isDigit = false →
      String.ofList digits ≠ String.ofList (letter :: rest) := by
    intro letter rest noDigit same
    exact Text.ne_cons_of_digits all noDigit (String.ofList_injective same)
  have infinite : ¬ (String.ofList digits = "inf" ∨ String.ofList digits = "infinity") := by
    rintro (name | name)
    · exact unnamed 'i' ['n', 'f'] (by decide) name
    · exact unnamed 'i' ['n', 'f', 'i', 'n', 'i', 't', 'y'] (by decide) name
  have undefined : String.ofList digits ≠ "nan" := unnamed 'n' ['a', 'n'] (by decide)
  simp only [ofText?, sign, small, parts]
  rw [if_neg infinite, if_neg undefined, if_pos]
  · simp [DecimalText.coefficient, DecimalText.fractionDigits, DecimalText.writtenExponent,
      Text.ofDigitChars_eq_placeValue]
  · simp [DecimalText.hasExponentDigits, DecimalText.fractionDigits, nonempty]

/-- **Rounding does not bring a number back into the range**, whether it is rounded to a finite
number or to infinity. -/
theorem truncate_ofDecimal (negative : Bool) {m : Nat} (large : 9223372036854775808 ≤ m) :
    (ofDecimal negative m 0).datum.truncate = Datum.limit negative := by
  simp only [ofDecimal]
  rw [if_neg (by omega)]
  split
  · cases negative <;> rfl
  · have same : m * Nat.pow 10 (0 : Int).toNat = m := Nat.mul_one m
    rw [if_pos (by omega), same]
    exact truncate_ofRatio negative large

end Double

/-! ### Values that report a number -/

/-- A datum that is a whole number: its mantissa times a power of two, with nothing behind the
point. -/
def Datum.IsWhole (n : Int) : Datum → Prop
  | .finite negative mantissa exponent => ∃ magnitude : Nat,
      magnitude * Nat.pow 2 (-exponent).toNat = mantissa * Nat.pow 2 exponent.toNat ∧
        n = if negative then -(magnitude : Int) else magnitude
  | _ => False

theorem Datum.truncate_of_isWhole {n : Int} {datum : Datum} (whole : datum.IsWhole n) :
    datum.truncate = Int64.ofIntClamp n := by
  obtain _ | _ | ⟨negative, mantissa, exponent⟩ := datum
  · cases whole
  · cases whole
  · obtain ⟨magnitude, same, rfl⟩ := whole
    have kept : (if 0 ≤ exponent then mantissa * Nat.pow 2 exponent.toNat
        else mantissa / Nat.pow 2 (-exponent).toNat) = magnitude := by
      split
      · have unscaled : (-exponent).toNat = 0 := by omega
        rw [unscaled] at same
        exact same.symm.trans (Nat.mul_one magnitude)
      · have unscaled : exponent.toNat = 0 := by omega
        rw [unscaled] at same
        have multiple : mantissa = magnitude * Nat.pow 2 (-exponent).toNat :=
          (same.trans (Nat.mul_one mantissa)).symm
        rw [multiple]
        exact Nat.mul_div_cancel magnitude (Nat.two_pow_pos _)
    simp only [truncate, kept]

namespace Value

/-- A value that reports a whole number: a text that is a decimal form of it, with white space
around it or not, or a number of a document. -/
inductive Reports (n : Int) : Value → Prop
  | text {s : String} (plus : Bool) (zeros : Nat)
    (written : Text.Padded (Text.decimalForm n plus zeros) s.toList) : Reports n (.text s)
  | integer {i : WideInt} (same : i.val = n) : Reports n (.json (.number (.integer i)))
  | float {x : Double} (whole : x.datum.IsWhole n) : Reports n (.json (.number (.float x)))

theorem textToInt64_of_written {n : Int} {plus : Bool} {zeros : Nat} {s : String}
    (written : Text.Padded (Text.decimalForm n plus zeros) s.toList) :
    textToInt64 s = Int64.ofIntClamp n := by
  have trimmed : Text.trim s.toList = Text.decimalForm n plus zeros := by
    rw [written.trim_eq]
    exact Text.trim_of_solid fun _ member => Text.isBlank_of_mem_decimalForm member
  have rounded := Double.ofText?_of_digits (Text.scanSign_decimalForm n plus zeros)
    Text.zeros_append_ne_nil fun _ member => Text.isDigit_of_mem_zeros member
  rw [Text.placeValue_zeros, Text.placeValue_showNat] at rounded
  simp only [textToInt64, trimmed, Text.readInt?_decimalForm, Option.bind_some]
  by_cases fits : -9223372036854775808 ≤ n ∧ n < 9223372036854775808
  · rw [int64?, if_pos fits]
    exact (ofIntClamp_of_fits fits.1 fits.2).symm
  · rw [int64?, if_neg fits]
    simp only [rounded]
    rw [Double.truncate_ofDecimal _ (by omega)]
    by_cases below : n < 0
    · rw [decide_eq_true below, ofIntClamp_of_small (by omega)]
      rfl
    · rw [decide_eq_false below, ofIntClamp_of_large (by omega)]
      rfl

theorem toInt64_of_reports {n : Int} {value : Value} (reports : value.Reports n) :
    value.toInt64 = Int64.ofIntClamp n := by
  cases reports with
  | text plus zeros written => exact textToInt64_of_written written
  | @integer i same => rw [← same, ← JsonNumber.truncate_integer i, toInt64]
  | float whole => exact Datum.truncate_of_isWhole whole

/-- **A reported number is kept within the range**, whatever its size and its form: it is read as
itself where it fits and as the nearer end of the range where it does not.  So a larger number is
never read as a smaller integer. -/
theorem toInt64_clamps {n : Int} {value : Value} (reports : value.Reports n) :
    value.toInt64.toInt = max Int64.minValue.toInt (min n Int64.maxValue.toInt) ∧
    ∀ {m : Int} {other : Value}, other.Reports m → n ≤ m → value.toInt64 ≤ other.toInt64 := by
  refine ⟨by rw [toInt64_of_reports reports, toInt_ofIntClamp], ?_⟩
  intro m other otherReports order
  rw [toInt64_of_reports reports, toInt64_of_reports otherReports, Int64.le_iff_toInt_le,
    toInt_ofIntClamp n, toInt_ofIntClamp m]
  omega

/-- One below the least integer as a text with zeros and white space, the number behind the largest
one in a document, and a text with a plus sign that is larger than both by far. -/
theorem toInt64_clamps_beyond :
    let below : Value := .text "\t-009223372036854775809 "
    let next : Value := .json (.number (.integer ⟨9223372036854775808, by decide, by decide⟩))
    let far : Value := .text "+100000000000000000000000000000000000000000"
    below.Reports (-9223372036854775809) ∧ next.Reports 9223372036854775808 ∧
      far.Reports 100000000000000000000000000000000000000000 ∧
      below.toInt64.toInt = -9223372036854775808 ∧ next.toInt64.toInt = 9223372036854775807 ∧
      below.toInt64 ≤ next.toInt64 ∧ next.toInt64 ≤ far.toInt64 := by
  intro below next far
  have first : below.Reports (-9223372036854775809) :=
    .text false 2 ⟨['\t'], [' '], by decide, by decide, by decide⟩
  have second : next.Reports 9223372036854775808 := .integer rfl
  have third : far.Reports 100000000000000000000000000000000000000000 :=
    .text true 0 ⟨[], [], by decide, by decide, by decide⟩
  obtain ⟨least, order⟩ := toInt64_clamps first
  obtain ⟨largest, further⟩ := toInt64_clamps second
  exact ⟨first, second, third, least, largest, order second (by decide), further third (by decide)⟩

end Value
end SqlBuilder
