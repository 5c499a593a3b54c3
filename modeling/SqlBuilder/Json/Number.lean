import SqlBuilder.Json.Basic
import SqlBuilder.Number.Decimal

/-! # Numbers in JSON text

A number without point and exponent that fits in 64 bits is an integer.  Every other
number is a floating-point number, found in three steps: the leading digits go into a
coefficient as long as it stays below `2 ^ 64`; the coefficient is rounded to 64 bits
of floating point; and that is multiplied or divided by the nearest number to a power
of ten.  Each step rounds once, so the result can differ in its last bit from the
number nearest to the text.  A number too large for the format is refused.
-/
namespace SqlBuilder

namespace Double

/-- The number nearest to `10 ^ n`. -/
def powerOfTen (n : Nat) : Double :=
  ofRatio false (Nat.pow 10 n) 1

/-- The largest exponent whose power of ten is finite. -/
def largestPower : Nat := 308

/-- The number times `10 ^ n`, or `none` when that is too large. -/
def scaleUp (x : Double) (n : Nat) : Option Double :=
  if n ≤ largestPower then
    let y := x.mul (powerOfTen n)
    if y.isFinite then some y else none
  else if x.datum.isZero then some x
  else none

/-- The number divided by `10 ^ n`, in steps of the largest power. -/
def scaleDown (x : Double) (n : Nat) : Double :=
  if n ≤ largestPower then x.div (powerOfTen n)
  else if x.datum.isZero then x
  else scaleDown (x.div (powerOfTen largestPower)) (n - largestPower)
termination_by n
decreasing_by simp only [largestPower] at *; omega

end Double

namespace JsonNumber

/-- The coefficient after taking digits as long as it stays below `2 ^ 64`, and the
digits left over. -/
def takeDigits (coefficient : Nat) : List Char → Nat × List Char
  | [] => (coefficient, [])
  | c :: cs =>
    let next := Nat.ofDigitChars 10 [c] coefficient
    if next < 18446744073709551616 then takeDigits next cs else (coefficient, c :: cs)

/-- `± coefficient * 10 ^ exponent` in two roundings. -/
def scaled? (negative : Bool) (coefficient : Nat) (exponent : Int) : Option JsonNumber :=
  let x := Double.ofRatio false coefficient 1
  let magnitude :=
    if 0 ≤ exponent then x.scaleUp exponent.toNat else some (x.scaleDown (-exponent).toNat)
  magnitude.map fun y => .float (if negative then y.neg else y)

/-- A number without point and exponent whose digits fit in 64 bits.  Below zero an
integer needs a sign bit, and minus zero is no integer. -/
def whole (negative : Bool) (coefficient : Nat) : JsonNumber :=
  let n : Int := if negative then -coefficient else coefficient
  match if negative && coefficient == 0 then none else WideInt.ofInt? n with
  | some n => .integer n
  | none => .float (Double.ofRatio negative coefficient 1)

/-- The number that the parts of a text denote, or `none` when it is too large. -/
def ofParts? (negative : Bool) (parts : DecimalText) : Option JsonNumber :=
  let (coefficient, dropped) := takeDigits 0 parts.whole
  if dropped.isEmpty && parts.fraction.isNone && parts.exponent.isNone then
    some (whole negative coefficient)
  else
    let (coefficient, ignored) := takeDigits coefficient parts.fractionDigits
    let taken : Nat := parts.fractionDigits.length - ignored.length
    scaled? negative coefficient (parts.writtenExponent + dropped.length - taken)

end JsonNumber
end SqlBuilder
