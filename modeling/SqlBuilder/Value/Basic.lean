import SqlBuilder.Json.Basic
import SqlBuilder.Number.Decimal
import SqlBuilder.Text.Blank

/-! # Values

A `Value` is what a statement binds and what a cell of a row holds.  Values are
dynamic: the program around the library decides their types, and the database may
report the same thing in several of them.  The two readings here make that harmless.
`toInt64` reads any value as an integer, kept within the range and never failing, and
`isTruthy` reads any value as a truth.
-/
namespace SqlBuilder

/-- A bound value, or the content of a cell. -/
inductive Value where
  | null
  | bool (b : Bool)
  | int32 (n : Int32)
  | int64 (n : Int64)
  | single (x : Single)
  | double (x : Double)
  | text (s : String)
  | bytes (bs : List UInt8)
  | json (j : Json)
  | array (items : List Value)

namespace Value

instance : Inhabited Value := ⟨.null⟩

/-- Whether the value is the missing one. -/
def isNull : Value → Bool
  | .null => true
  | _ => false

/-- The name of the value's type in SQL. -/
def typeName : Value → String
  | .null => "NULL"
  | .bool _ => "BOOLEAN"
  | .int32 _ => "INTEGER"
  | .int64 _ => "BIGINT"
  | .single _ => "REAL"
  | .double _ => "DOUBLE PRECISION"
  | .text _ => "TEXT"
  | .bytes _ => "BYTEA"
  | .json _ => "JSON"
  | .array _ => "ARRAY"

/-- The items of an array. -/
def items? : Value → Option (List Value)
  | .array items => some items
  | _ => none

/-! ### Values from other types -/

/-- An unsigned integer of 32 bits needs 64 bits with a sign. -/
def ofUInt32 (n : UInt32) : Value :=
  .int64 (Int64.ofNat n.toNat)

/-- A value that may be missing. -/
def ofOption : Option Value → Value
  | some value => value
  | none => .null

/-! ### Reading a value as an integer -/

/-- The integer of 64 bits, when the number is one. -/
def int64? (n : Int) : Option Int64 :=
  if -9223372036854775808 ≤ n ∧ n < 9223372036854775808 then some (Int64.ofInt n) else none

/-- A text as an integer: the integer it denotes when that fits, otherwise the whole
part of the nearest floating-point number, kept within the range.  A text that denotes
no number is zero. -/
def textToInt64 (s : String) : Int64 :=
  let text := Text.trim s.toList
  match (Text.readInt? text).bind int64? with
  | some n => n
  | none =>
    match Double.ofText? text with
    | some x => x.datum.truncate
    | none => 0

/-- A value as an integer. -/
def toInt64 : Value → Int64
  | .null => 0
  | .bool b => if b then 1 else 0
  | .int32 n => n.toInt64
  | .int64 n => n
  | .single x => x.datum.truncate
  | .double x => x.datum.truncate
  | .text s => textToInt64 s
  | .json (.number n) => n.truncate
  | .json _ => 0
  | .bytes _ => 0
  | .array _ => 0

/-! ### Reading a value as a truth -/

/-- A text counts as true unless it is empty or the digit zero. -/
def isTruthyText (s : String) : Bool :=
  s != "" && s != "0"

/-- A document counts as true unless it is null, false, the number zero, or empty. -/
def isTruthyJson : Json → Bool
  | .null => false
  | .bool b => b
  | .number n => !n.toDouble.datum.isZero
  | .string s => isTruthyText s
  | .array items => !items.isEmpty
  | .object members => !members.isEmpty

/-- A value as a truth. -/
def isTruthy : Value → Bool
  | .null => false
  | .bool b => b
  | .int32 n => n != 0
  | .int64 n => n != 0
  | .single x => !x.datum.isZero
  | .double x => !x.datum.isZero
  | .text s => isTruthyText s
  | .bytes bs => bs != [] && bs != [0x30]
  | .json j => isTruthyJson j
  | .array items => !items.isEmpty

end Value
end SqlBuilder
