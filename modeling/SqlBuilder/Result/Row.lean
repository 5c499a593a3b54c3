import SqlBuilder.Error
import SqlBuilder.Json.Tree
import SqlBuilder.Value.Json

/-! # Rows and outcomes

What a database answers: rows, or the number of rows that a write affected.  A row has
named cells in order, or cells without names.  Rows are exchanged as JSON, named cells
as an object and others as a list.
-/
namespace SqlBuilder

/-! ### Rows -/

/-- A row of a result. -/
inductive Row where
  | named (cells : OrderedMap String Value)
  | positional (cells : List Value)

namespace Row

/-- The row of named cells; a name that comes again keeps its place and takes the new
cell. -/
def ofPairs (pairs : List (String × Value)) : Row :=
  .named (OrderedMap.ofList pairs)

/-- Whether the cells have names. -/
def isNamed : Row → Bool
  | .named _ => true
  | .positional _ => false

/-- The cells in order. -/
def cells : Row → List Value
  | .named m => m.values
  | .positional list => list

/-- The cell under a name. -/
def get? (row : Row) (column : String) : Option Value :=
  match row with
  | .named m => m.get? column
  | .positional _ => none

/-- The first cell. -/
def first? (row : Row) : Option Value :=
  row.cells.head?

/-- The number of cells. -/
def size (row : Row) : Nat :=
  row.cells.length

/-! ### Rows as JSON -/

/-- The document for a row. -/
def toJson : Row → Json
  | .named m => .object (m.toList.map fun (name, cell) => (name, cell.toJson))
  | .positional list => .array (list.map Value.toJson)

/-- The row that a document is read as; only objects and lists are rows. -/
def ofJson : Json → Except Error Row
  | .object members => .ok (ofPairs (members.map fun (name, cell) => (name, Value.ofJson cell)))
  | .array items => .ok (.positional (items.map Value.ofJson))
  | _ => .error .serialization

end Row

/-- A value read from JSON text. -/
def Value.ofJsonText (text : String) : Except Error Value :=
  match Json.ofText? text with
  | some j => .ok (Value.ofJson j)
  | none => .error .serialization

/-- A row read from JSON text. -/
def Row.ofJsonText (text : String) : Except Error Row :=
  match Json.ofText? text with
  | some j => Row.ofJson j
  | none => .error .serialization

/-! ### Outcomes -/

/-- What a database answers. -/
inductive Outcome where
  | rows (rows : List Row)
  | affected (count : UInt64) (lastInsertId : Option Value)

namespace Outcome

/-- The rows; a write has none. -/
def toRows : Outcome → List Row
  | .rows list => list
  | .affected .. => []

/-- The number of rows that were returned or affected. -/
def count : Outcome → UInt64
  | .rows list => UInt64.ofNat list.length
  | .affected n _ => n

/-- The identifier that the database gave to the last row it inserted. -/
def lastInsertId? : Outcome → Option Value
  | .rows _ => none
  | .affected _ id => id

end Outcome
end SqlBuilder
