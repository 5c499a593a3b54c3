import SqlBuilder.Number.Binary
import SqlBuilder.Text.Letter
import SqlBuilder.Text.Numeral

/-! # Decimal notation

A number in decimal notation has a run of digits, perhaps a point with further
digits, and perhaps an exponent.  `DecimalText.scan` cuts these parts off the head
of a text without judging them: which parts may be empty differs between a number
in JSON and a number in a text cell, and each of the two has its own condition on
the same parts.

`Double.ofDecimal` rounds `coefficient * 10 ^ exponent` to the nearest number of 64
bits.  Quotients far outside the range of the format are settled by the count of
their digits, so that an exponent of any size costs nothing.
-/
namespace SqlBuilder

/-! ### Notation -/

/-- The parts of a number in decimal notation.  A part is `none` where its mark (the
point, the letter `e`) is missing; digits may be missing behind a mark. -/
structure DecimalText where
  whole : List Char
  fraction : Option (List Char)
  /-- Whether a minus sign precedes the exponent, and its digits. -/
  exponent : Option (Bool × List Char)
  deriving DecidableEq

namespace DecimalText

/-- The digits behind a point at the head of the text, and what follows. -/
def scanFraction : List Char → Option (List Char) × List Char
  | '.' :: cs => (some (cs.takeWhile Char.isDigit), cs.dropWhile Char.isDigit)
  | cs => (none, cs)

/-- The sign at the head of the text, and what follows. -/
def scanSign : List Char → Bool × List Char
  | '-' :: cs => (true, cs)
  | '+' :: cs => (false, cs)
  | cs => (false, cs)

/-- The exponent behind an `e` at the head of the text, and what follows. -/
def scanExponent : List Char → Option (Bool × List Char) × List Char
  | c :: cs =>
    if c = 'e' ∨ c = 'E' then
      let (negative, digits) := scanSign cs
      (some (negative, digits.takeWhile Char.isDigit), digits.dropWhile Char.isDigit)
    else (none, c :: cs)
  | [] => (none, [])

/-- The parts at the head of the text, and what follows them. -/
def scan (cs : List Char) : DecimalText × List Char :=
  let (fraction, rest) := scanFraction (cs.dropWhile Char.isDigit)
  let (exponent, rest) := scanExponent rest
  (⟨cs.takeWhile Char.isDigit, fraction, exponent⟩, rest)

variable (t : DecimalText)

/-- Whether digits follow the `e`, if there is one. -/
def hasExponentDigits : Bool :=
  match t.exponent with
  | some (_, digits) => !digits.isEmpty
  | none => true

/-- The digits behind the point. -/
def fractionDigits : List Char :=
  t.fraction.getD []

/-- All digits in front of the exponent, read as one natural number. -/
def coefficient : Nat :=
  Nat.ofDigitChars 10 (t.whole ++ t.fractionDigits) 0

/-- The exponent as written, zero when there is none. -/
def writtenExponent : Int :=
  match t.exponent with
  | some (true, digits) => -(Nat.ofDigitChars 10 digits 0 : Int)
  | some (false, digits) => Nat.ofDigitChars 10 digits 0
  | none => 0

end DecimalText

/-! ### Rounding -/

namespace Double

/-- The number nearest to `± coefficient * 10 ^ exponent`.  From `10 ^ 310` on that is
infinity, and below `10 ^ -330` it is zero. -/
def ofDecimal (negative : Bool) (coefficient : Nat) (exponent : Int) : Double :=
  let size : Int := (Text.showNat coefficient).length + exponent
  if coefficient = 0 ∨ size < -330 then ofRatio negative 0 1
  else if 310 < size then ofDatum (.infinite negative)
  else if 0 ≤ exponent then ofRatio negative (coefficient * Nat.pow 10 exponent.toNat) 1
  else ofRatio negative coefficient (Nat.pow 10 (-exponent).toNat)

/-- The number that a text in decimal notation denotes, rounded: an optional sign,
then `inf`, `infinity` or `nan` in any case, or digits with an optional point among
or beside them and an optional exponent. -/
def ofText? (cs : List Char) : Option Double :=
  let (negative, body) := DecimalText.scanSign cs
  let name := String.ofList (Text.lower body)
  if name = "inf" ∨ name = "infinity" then some (ofDatum (.infinite negative))
  else if name = "nan" then some (ofDatum .nan)
  else
    let (parts, rest) := DecimalText.scan body
    if rest.isEmpty && parts.hasExponentDigits
        && !(parts.whole ++ parts.fractionDigits).isEmpty then
      some (ofDecimal negative parts.coefficient
        (parts.writtenExponent - parts.fractionDigits.length))
    else none

end Double
end SqlBuilder
