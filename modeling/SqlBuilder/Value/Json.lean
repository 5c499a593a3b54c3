import SqlBuilder.Value.Basic

/-! # Values as JSON

A value is written as the plain JSON document for it, without its type: bytes become
numbers, floating-point numbers of 32 bits are widened, and a number that is infinite
or undefined becomes null.  Reading a document back therefore has to choose a type, and
takes the first of the value types, in the order of their declaration, that the
document fits: an integer has 32 bits if it can, a list of bytes is `bytes`, and any
other list and every object stays a document.
-/
namespace SqlBuilder
namespace Value

/-! ### Writing -/

/-- A floating-point number as a document. -/
def doubleToJson (x : Double) : Json :=
  if x.isFinite then .number (.float x) else .null

mutual

/-- The document for a value. -/
def toJson : Value → Json
  | .null => .null
  | .bool b => .bool b
  | .int32 n => .number (.integer (WideInt.ofInt64 n.toInt64))
  | .int64 n => .number (.integer (WideInt.ofInt64 n))
  | .single x => doubleToJson x.toDouble
  | .double x => doubleToJson x
  | .text s => .string s
  | .bytes bs => .array (bs.map fun b => .number (.integer (WideInt.ofByte b)))
  | .json j => j
  | .array items => .array (itemsToJson items)

/-- The documents for the items of an array. -/
def itemsToJson : List Value → List Json
  | [] => []
  | item :: items => item.toJson :: itemsToJson items

end

/-! ### Reading -/

/-- The value for an integer: the smallest signed type that holds it, or else the
nearest floating-point number of 32 bits. -/
def ofWideInt (n : WideInt) : Value :=
  match n.toInt32?, n.toInt64? with
  | some n, _ => .int32 n
  | none, some n => .int64 n
  | none, none => .single (Single.ofNat n.val.toNat)

/-- The byte that a document denotes. -/
def byte? : Json → Option UInt8
  | .number (.integer n) => n.toByte?
  | _ => none

/-- The value that a document is read as. -/
def ofJson : Json → Value
  | .null => .null
  | .bool b => .bool b
  | .number (.integer n) => ofWideInt n
  | .number (.float x) => .single x.toSingle
  | .string s => .text s
  | .array items =>
    match items.mapM byte? with
    | some bs => .bytes bs
    | none => .json (.array items)
  | .object members => .json (.object members)

end Value
end SqlBuilder
