/-! # Binary floating point

A cell may hold a floating-point number of 32 or 64 bits.  The library computes
with the bit patterns themselves: a pattern denotes a `Datum`, and the finite data
are exactly the numbers `± m * 2 ^ q`.  Every operation that has to round goes
through `Format.nearest`, which takes a quotient of natural numbers to the nearest
number of a format, with ties to the even pattern, and to infinity beyond the
largest finite number.  Nothing here uses the floating-point arithmetic of the
machine, so every result can be computed in a proof.
-/
namespace SqlBuilder

/-! ### Formats -/

/-- The widths of the two fields behind the sign bit of a binary format. -/
structure BinaryFormat where
  exponentBits : Nat
  fractionBits : Nat
  deriving DecidableEq

/-- What a pattern of bits denotes.  A finite datum is `± mantissa * 2 ^ exponent`. -/
inductive Datum where
  | nan
  | infinite (negative : Bool)
  | finite (negative : Bool) (mantissa : Nat) (exponent : Int)
  deriving DecidableEq

namespace BinaryFormat

variable (f : BinaryFormat)

/-- The format of 32 bits. -/
def single : BinaryFormat := ⟨8, 23⟩

/-- The format of 64 bits. -/
def double : BinaryFormat := ⟨11, 52⟩

/-- The exponent of the smallest positive number of the format. -/
def leastExponent : Int :=
  2 - (Nat.pow 2 (f.exponentBits - 1) : Int) - f.fractionBits

/-- The pattern of positive infinity, one above that of the largest finite number. -/
def infinity : Nat :=
  (Nat.pow 2 f.exponentBits - 1) * Nat.pow 2 f.fractionBits

/-- The value of the sign bit. -/
def signBit : Nat :=
  Nat.pow 2 (f.exponentBits + f.fractionBits)

/-- The pattern of a sign and a magnitude. -/
def signed (negative : Bool) (magnitude : Nat) : Nat :=
  if negative then f.signBit + magnitude else magnitude

/-- What a pattern denotes. -/
def decode (bits : Nat) : Datum :=
  let negative := bits / f.signBit % 2 == 1
  let exponent := bits / Nat.pow 2 f.fractionBits % Nat.pow 2 f.exponentBits
  let fraction := bits % Nat.pow 2 f.fractionBits
  if exponent = Nat.pow 2 f.exponentBits - 1 then
    if fraction = 0 then .infinite negative else .nan
  else if exponent = 0 then
    .finite negative fraction f.leastExponent
  else
    .finite negative (Nat.pow 2 f.fractionBits + fraction) (f.leastExponent + exponent - 1)

/-! ### Rounding -/

/-- The exponent of the leading bit of `num / den`, for positive `num` and `den`. -/
def leadingExponent (num den : Nat) : Int :=
  let guess : Int := (Nat.log2 num : Int) - Nat.log2 den
  let below :=
    if 0 ≤ guess then num < den * Nat.pow 2 guess.toNat
    else num * Nat.pow 2 (-guess).toNat < den
  if below then guess - 1 else guess

/-- The natural number nearest to `num / den`, of two equally near the even one. -/
def nearestNat (num den : Nat) : Nat :=
  let quotient := num / den
  let twice := 2 * (num % den)
  if twice < den then quotient
  else if den < twice then quotient + 1
  else quotient + quotient % 2

/-- The magnitude pattern of the number nearest to `num / den`, of two equally near
the even pattern; infinity where that lies beyond the largest finite number.
Counting units of the least exponent from zero is counting patterns, so a mantissa
that rounds up to a power of two carries into the exponent by itself. -/
def nearest (num den : Nat) : Nat :=
  if num = 0 then 0
  else
    let unit := max f.leastExponent (leadingExponent num den - f.fractionBits)
    let mantissa :=
      if 0 ≤ unit then nearestNat num (den * Nat.pow 2 unit.toNat)
      else nearestNat (num * Nat.pow 2 (-unit).toNat) den
    let pattern := (unit - f.leastExponent).toNat * Nat.pow 2 f.fractionBits + mantissa
    min pattern f.infinity

/-- The magnitude pattern of the number nearest to `mantissa * 2 ^ exponent`. -/
def nearestScaled (mantissa : Nat) (exponent : Int) : Nat :=
  if 0 ≤ exponent then f.nearest (mantissa * Nat.pow 2 exponent.toNat) 1
  else f.nearest mantissa (Nat.pow 2 (-exponent).toNat)

/-- The pattern of the format nearest to a datum. -/
def encode : Datum → Nat
  | .nan => f.infinity + Nat.pow 2 (f.fractionBits - 1)
  | .infinite negative => f.signed negative f.infinity
  | .finite negative mantissa exponent =>
    f.signed negative (f.nearestScaled mantissa exponent)

end BinaryFormat

/-! ### Data -/

namespace Datum

/-- Whether the datum is the number zero, of either sign. -/
def isZero : Datum → Bool
  | .finite _ mantissa _ => mantissa == 0
  | _ => false

/-- The whole part of the number nearest zero, kept within 64 bits.  Infinities go to
the ends of that range, and what is no number goes to zero. -/
def truncate : Datum → Int64
  | .nan => 0
  | .infinite true => Int64.minValue
  | .infinite false => Int64.maxValue
  | .finite negative mantissa exponent =>
    let magnitude :=
      if 0 ≤ exponent then mantissa * Nat.pow 2 exponent.toNat
      else mantissa / Nat.pow 2 (-exponent).toNat
    Int64.ofIntClamp (if negative then -(magnitude : Int) else magnitude)

end Datum

/-! ### The two cell types -/

/-- A floating-point number of 32 bits. -/
structure Single where
  bits : UInt32
  deriving DecidableEq

/-- A floating-point number of 64 bits. -/
structure Double where
  bits : UInt64
  deriving DecidableEq

namespace Single

/-- What the bits denote. -/
def datum (x : Single) : Datum :=
  BinaryFormat.single.decode x.bits.toNat

/-- The number of 32 bits nearest to a datum. -/
def ofDatum (d : Datum) : Single :=
  ⟨UInt32.ofNat (BinaryFormat.single.encode d)⟩

/-- The number of 32 bits nearest to a natural number. -/
def ofNat (n : Nat) : Single :=
  ⟨UInt32.ofNat (BinaryFormat.single.nearest n 1)⟩

end Single

namespace Double

/-- What the bits denote. -/
def datum (x : Double) : Datum :=
  BinaryFormat.double.decode x.bits.toNat

/-- The number of 64 bits nearest to a datum. -/
def ofDatum (d : Datum) : Double :=
  ⟨UInt64.ofNat (BinaryFormat.double.encode d)⟩

/-- The number of 64 bits nearest to a quotient, with a sign. -/
def ofRatio (negative : Bool) (num den : Nat) : Double :=
  ⟨UInt64.ofNat (BinaryFormat.double.signed negative (BinaryFormat.double.nearest num den))⟩

/-- The number of 64 bits nearest to a whole number. -/
def ofInt (n : Int) : Double :=
  ofRatio (n < 0) n.natAbs 1

/-- Whether the number is an ordinary one, neither infinite nor undefined. -/
def isFinite (x : Double) : Bool :=
  match x.datum with
  | .finite .. => true
  | _ => false

/-- The product of two finite numbers, rounded; other data give what is no number. -/
def mul (x y : Double) : Double :=
  match x.datum, y.datum with
  | .finite s m p, .finite t n q => ofDatum (.finite (s != t) (m * n) (p + q))
  | _, _ => ofDatum .nan

/-- The quotient of two finite numbers, rounded, for a divisor other than zero; other
data give what is no number. -/
def div (x y : Double) : Double :=
  match x.datum, y.datum with
  | .finite s m p, .finite t n q =>
    if n = 0 then ofDatum .nan
    else if 0 ≤ p - q then ofRatio (s != t) (m * Nat.pow 2 (p - q).toNat) n
    else ofRatio (s != t) m (n * Nat.pow 2 (q - p).toNat)
  | _, _ => ofDatum .nan

/-- The number with the opposite sign. -/
def neg (x : Double) : Double :=
  ⟨x.bits ^^^ UInt64.ofNat BinaryFormat.double.signBit⟩

/-- The nearest number of 32 bits. -/
def toSingle (x : Double) : Single :=
  Single.ofDatum x.datum

end Double

/-- The same number with 64 bits. -/
def Single.toDouble (x : Single) : Double :=
  Double.ofDatum x.datum

end SqlBuilder
