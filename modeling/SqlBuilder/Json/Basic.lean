import SqlBuilder.Number.Binary
import SqlBuilder.OrderedMap

/-! # JSON documents

A cell may hold a JSON document, and rows and values are exchanged as JSON.  A number
of a document is either an integer that fits in 64 bits, with or without a sign, or a
floating-point number of 64 bits; the two never mix, so `1` and `1.0` are different
documents.  The members of an object are kept in order and have distinct keys
wherever a document is made by this library.
-/
namespace SqlBuilder

/-- An integer that fits in 64 bits, with or without a sign. -/
structure WideInt where
  val : Int
  lower : -9223372036854775808 ≤ val
  upper : val < 18446744073709551616
  deriving DecidableEq

namespace WideInt

/-- The integer, when it fits. -/
def ofInt? (n : Int) : Option WideInt :=
  if h : -9223372036854775808 ≤ n ∧ n < 18446744073709551616 then some ⟨n, h.1, h.2⟩
  else none

/-- An integer of 64 bits with a sign fits. -/
def ofInt64 (n : Int64) : WideInt :=
  ⟨n.toInt, n.le_toInt, Int.lt_trans n.toInt_lt (by decide)⟩

/-- A byte fits. -/
def ofByte (b : UInt8) : WideInt :=
  ⟨b.toNat, by omega, by have := b.toNat_lt; omega⟩

/-- The integer with a sign in 64 bits, when it fits there. -/
def toInt64? (n : WideInt) : Option Int64 :=
  if n.val < 9223372036854775808 then some (Int64.ofInt n.val) else none

/-- The integer with a sign in 32 bits, when it fits there. -/
def toInt32? (n : WideInt) : Option Int32 :=
  if -2147483648 ≤ n.val ∧ n.val < 2147483648 then some (Int32.ofInt n.val) else none

/-- The byte, when the integer is one. -/
def toByte? (n : WideInt) : Option UInt8 :=
  if 0 ≤ n.val ∧ n.val < 256 then some (UInt8.ofNat n.val.toNat) else none

end WideInt

/-- A number of a JSON document. -/
inductive JsonNumber where
  | integer (n : WideInt)
  | float (x : Double)
  deriving DecidableEq

namespace JsonNumber

/-- The floating-point number nearest to the number. -/
def toDouble : JsonNumber → Double
  | .integer n => Double.ofInt n.val
  | .float x => x

/-- The number as an integer of 64 bits: itself when it is one, and otherwise the whole
part of the nearest floating-point number, kept within the range. -/
def truncate : JsonNumber → Int64
  | .integer n => n.toInt64?.getD (Double.ofInt n.val).datum.truncate
  | .float x => x.datum.truncate

end JsonNumber

/-- A JSON document. -/
inductive Json where
  | null
  | bool (b : Bool)
  | number (n : JsonNumber)
  | string (s : String)
  | array (items : List Json)
  | object (members : List (String × Json))

end SqlBuilder
