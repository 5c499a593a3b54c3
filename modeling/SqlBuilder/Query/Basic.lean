import SqlBuilder.Expression
import SqlBuilder.Keyword
import SqlBuilder.Target

/-! # Statements under construction

The four kinds of statement as a caller builds them.  A `Select` nests in itself in
four ways: as the source of a join, as the operand of a comparison, under `EXISTS`, and
as a member of a union.  Its conditions, those of its joins and the groups inside both
are lists of clauses, each tied to the one before it by a connective; so a list of
clauses is a tree whose inner nodes are the groups.

Every statement has a slot for the first mistake that was made while it was built.
-/
namespace SqlBuilder

/-- What an insert or an update writes into a column. -/
inductive NewValue where
  | value (value : Value)
  | raw (raw : Raw)

/-! ### Selects -/

mutual

/-- What a column is compared with. -/
inductive Operand where
  | value (value : Value)
  | list (values : List Value)
  | raw (raw : Raw)
  | select (query : Select)

/-- A condition. -/
inductive Predicate where
  | compare (column : Column) (operator : Operator) (operand : Operand)
  | columns (left : Column) (operator : Operator) (right : Column)
  | exists (negated : Bool) (query : Select)
  | group (clauses : List Clause)

/-- A condition and its tie to the one before it. -/
structure Clause where
  connective : Connective
  predicate : Predicate

/-- What is joined. -/
inductive JoinSource where
  | table (table : TableName)
  | select (query : Select) (label : String)

/-- What a join is on. -/
inductive JoinCondition where
  | columns (left : Column) (operator : Operator) (right : Column)
  | clauses (clauses : List Clause)

/-- A join. -/
structure Join where
  kind : JoinKind
  source : JoinSource
  on : JoinCondition

/-- A member of a union behind its first. -/
structure UnionMember where
  kind : Option UnionKind
  query : Select

/-- A select. -/
structure Select where
  target : Target
  /-- No fields at all means everything. -/
  fields : List Field
  distinct : Bool
  orders : List (Column × Direction)
  groups : List Column
  joins : List Join
  unions : List UnionMember
  clauses : List Clause
  limit : Option UInt64
  offset : Option UInt64
  /-- The column by which fetched rows are keyed. -/
  forwardKey : Option String
  /-- The column by which fetched rows are grouped. -/
  groupResults : Option String
  error : Option Error

end

/-- A value as an operand; an array is the list of its items. -/
def Operand.ofValue : Value → Operand
  | .array items => .list items
  | other => .value other

/-- The source that a text denotes: a table, perhaps with an alias. -/
def JoinSource.parse (text : String) : JoinSource :=
  .table (TableName.parse text)

namespace Select

/-- A select of everything from a target. -/
def all (target : Target) : Select where
  target := target
  fields := []
  distinct := false
  orders := []
  groups := []
  joins := []
  unions := []
  clauses := []
  limit := none
  offset := none
  forwardKey := none
  groupResults := none
  error := none

/-- Whether the select has an order or a window of its own. -/
def isLimited (query : Select) : Bool :=
  !query.orders.isEmpty || query.limit.isSome || query.offset.isSome

end Select

/-! ### The other statements -/

/-- An insert.  Every row has a value for every column. -/
structure Insert where
  target : Target
  columns : List String
  rows : List (List NewValue)
  /-- Whether rows that are there already are skipped. -/
  ignore : Bool
  error : Option Error

/-- An update. -/
structure Update where
  target : Target
  sets : List (String × NewValue)
  clauses : List Clause
  error : Option Error

/-- A deletion. -/
structure Delete where
  target : Target
  clauses : List Clause
  error : Option Error

/-- A statement of any kind. -/
inductive Query where
  | select (query : Select)
  | insert (query : Insert)
  | update (query : Update)
  | delete (query : Delete)

/-- What a statement is aimed at. -/
def Query.target : Query → Target
  | .select query => query.target
  | .insert query => query.target
  | .update query => query.target
  | .delete query => query.target

end SqlBuilder
