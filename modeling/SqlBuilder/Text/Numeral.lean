/-! # Whole numbers in text

`readInt?` accepts an optional sign and at least one decimal digit, and nothing
else.  Its counterpart `showInt` writes the one canonical form: no plus sign, no
leading zeros, and a minus sign only in front of a number below zero.  The digits
of base sixteen are written by `hexDigits`, padded to a width.
-/
namespace SqlBuilder
namespace Text

/-- The digits of base ten. -/
def isDecimal (cs : List Char) : Bool :=
  !cs.isEmpty && cs.all Char.isDigit

/-- The number that a non-empty run of digits denotes. -/
def readNat? (cs : List Char) : Option Nat :=
  if isDecimal cs then some (Nat.ofDigitChars 10 cs 0) else none

/-- The whole number that an optional sign and a run of digits denote. -/
def readInt? : List Char → Option Int
  | '+' :: cs => (readNat? cs).map fun n => (n : Int)
  | '-' :: cs => (readNat? cs).map fun n => -(n : Int)
  | cs => (readNat? cs).map fun n => (n : Int)

/-- The canonical decimal form of a natural number. -/
def showNat (n : Nat) : List Char :=
  Nat.toDigits 10 n

/-- The canonical decimal form of a whole number. -/
def showInt : Int → List Char
  | .ofNat n => showNat n
  | .negSucc n => '-' :: showNat (n + 1)

/-- The text with `fill` in front, up to `width` characters. -/
def padStart (fill : Char) (width : Nat) (cs : List Char) : List Char :=
  List.replicate (width - cs.length) fill ++ cs

/-- The decimal form of a number, with zeros in front up to a width. -/
def showPadded (width n : Nat) : List Char :=
  padStart '0' width (showNat n)

/-- The lower-case hexadecimal form of a number, with zeros in front up to a width. -/
def hexDigits (width n : Nat) : List Char :=
  padStart '0' width (Nat.toDigits 16 n)

theorem readNat?_showNat (n : Nat) : readNat? (showNat n) = some n := by
  have digits : (Nat.toDigits 10 n).all Char.isDigit = true :=
    List.all_eq_true.mpr fun _ member =>
      Nat.isDigit_of_mem_toDigits (by decide) (by decide) member
  have nonempty : (Nat.toDigits 10 n).isEmpty = false := by
    simp [Nat.toDigits_ne_nil]
  simp [readNat?, isDecimal, showNat, digits, nonempty, Nat.ofDigitChars_ten_toDigits]

end Text
end SqlBuilder
