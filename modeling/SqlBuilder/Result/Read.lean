import SqlBuilder.Query.Select
import SqlBuilder.Result.Fetched
import SqlBuilder.Result.Session

/-! # Reading with a select

A select is read as it is (`get`), for one row (`one`, `find`, `first`, `last`), for one
value (`column`, `min`, `max`, `avg`), for a number (`count`, `sum`) or for whether it has
rows (`hasRows`).  All but the last first change the select, send it once, and look at the
first row or value of the answer.  A missing number is zero.
-/
namespace SqlBuilder
namespace Select

variable (executor : Executor)

/-- The rows that a database answers to a prepared read. -/
def fetch (query : Select) (prepared : Except Error Prepared) : Session (List Row) :=
  ((Session.prepare query.target.dialect prepared).andThen
    (Session.execute executor .select)).andThen Session.readRows

/-- The rows of the select in the form that it asks for.  With a limit of one that is a
single row. -/
def get (query : Select) : Session Fetched :=
  (query.fetch executor (Query.select query).prepare).andThen fun rows =>
    Session.done (Fetched.shape query.forwardKey query.groupResults
      (query.limit == some 1) rows)

/-! ### One row -/

/-- The select of its first row alone. -/
def limitedToOne (query : Select) : Select :=
  { query with limit := some 1, offset := none }

/-- The first row. -/
def one (query : Select) : Session (Option Row) :=
  (query.limitedToOne.get executor).map Fetched.first?

/-- The row in which a column has a value. -/
def find (query : Select) (value : Operand) (column : String) : Session (Option Row) :=
  (query.push .and (.compare (.ofText column) .eq value)).one executor

/-- The first row in the order of the columns that a text lists. -/
def first (query : Select) (columns : String) : Session (Option Row) :=
  (query.orderBy (.text columns) (.known .ascending)).one executor

/-- The last row in the order of the columns that a text lists. -/
def last (query : Select) (columns : String) : Session (Option Row) :=
  (query.orderBy (.text columns) (.known .descending)).one executor

/-! ### One value -/

/-- The first value of the first row with other fields.  Keys and groups do not matter to
a single value. -/
def column (query : Select) (fields : FieldList) : Session (Option Value) :=
  let plain := { query with forwardKey := none, groupResults := none }
  ((plain.setFields fields).one executor).map fun row => row.bind Row.first?

/-- The value of a function of one column. -/
def aggregate (query : Select) (function column : String) : Session (Option Value) :=
  query.column executor (.function ⟨function, [.column column]⟩)

/-- A value as a number; a missing one is zero. -/
def toNumber (value : Option Value) : Int64 :=
  value.elim 0 Value.toInt64

/-- The number of rows. -/
def count (query : Select) : Session Int64 :=
  (query.column executor (.function ⟨"count", [.raw ⟨"*"⟩]⟩)).map toNumber

/-- The number of rows in which a column has a value. -/
def countColumn (query : Select) (column : String) : Session Int64 :=
  (query.aggregate executor "count" column).map toNumber

/-- The sum of a column. -/
def sum (query : Select) (column : String) : Session Int64 :=
  (query.aggregate executor "sum" column).map toNumber

/-- The least value of a column. -/
def min (query : Select) (column : String) : Session (Option Value) :=
  query.aggregate executor "min" column

/-- The greatest value of a column. -/
def max (query : Select) (column : String) : Session (Option Value) :=
  query.aggregate executor "max" column

/-- The average of a column. -/
def avg (query : Select) (column : String) : Session (Option Value) :=
  query.aggregate executor "avg" column

/-! ### Existence -/

/-- Whether the first of some rows says that there are rows. -/
def saysExists (rows : List Row) : Bool :=
  match rows.head?.bind fun row => row.get? "exists" with
  | some value => value.isTruthy
  | none => false

/-- Whether the select has rows. -/
def hasRows (query : Select) : Session Bool :=
  (query.fetch executor query.prepareExists).map saysExists

end Select
end SqlBuilder
