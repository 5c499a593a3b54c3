import SqlBuilder.Result.Read

/-! # All ways to read

The ways to read with a select and their results, each as one type, so that what holds of
every way can be said once: `Select.read` reads in any of them.
-/
namespace SqlBuilder

/-- A way to read with a select. -/
inductive Terminal where
  | get
  | one
  | find (value : Operand) (column : String)
  | first (columns : String)
  | last (columns : String)
  | column (fields : FieldList)
  | min (column : String)
  | max (column : String)
  | avg (column : String)
  | count
  | countColumn (column : String)
  | sum (column : String)
  | hasRows

/-- What was read. -/
inductive Reading where
  | rows (rows : Fetched)
  | row (row : Option Row)
  | value (value : Option Value)
  | number (n : Int64)
  | truth (b : Bool)

/-- Reads in one of the ways. -/
def Select.read (executor : Executor) (query : Select) : Terminal → Session Reading
  | .get => (query.get executor).map .rows
  | .one => (query.one executor).map .row
  | .find value column => (query.find executor value column).map .row
  | .first columns => (query.first executor columns).map .row
  | .last columns => (query.last executor columns).map .row
  | .column fields => (query.column executor fields).map .value
  | .min column => (query.min executor column).map .value
  | .max column => (query.max executor column).map .value
  | .avg column => (query.avg executor column).map .value
  | .count => (query.count executor).map .number
  | .countColumn column => (query.countColumn executor column).map .number
  | .sum column => (query.sum executor column).map .number
  | .hasRows => (query.hasRows executor).map .truth

end SqlBuilder
