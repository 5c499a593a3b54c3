import SqlBuilder.Query.Filter

/-! # Building a select

Each function here is one builder call.  A call with a mistake in a keyword leaves the
mistake in the slot and adds nothing.  Calls that hand a select to the caller start it
as a child: it has the target, the fields, the order, the groups, the joins and the keys
of its parent, but no conditions, no unions, no window and no mistake.

As with filters, calls are also data: `SelectCall.applyAll` runs a sequence of them, in
which the calls on a child are nested.
-/
namespace SqlBuilder

/-- How fetched rows are keyed or grouped: not at all, by the configured column, or by a
named one. -/
inductive KeyChoice where
  | off
  | default
  | column (name : String)

namespace Select

/-- One more mistake. -/
def fail (query : Select) (error : Error) : Select :=
  { query with error := Error.keepFirst query.error error }

/-- A child of the select. -/
def child (query : Select) : Select :=
  { Select.all query.target with
    fields := query.fields
    distinct := query.distinct
    orders := query.orders
    groups := query.groups
    joins := query.joins
    forwardKey := query.forwardKey
    groupResults := query.groupResults }

/-! ### Conditions -/

/-- The clauses and mistakes that filters work on. -/
def filters (query : Select) : Filters :=
  ⟨query.clauses, query.error⟩

/-- The select with other clauses and mistakes. -/
def withFilters (query : Select) (filters : Filters) : Select :=
  { query with clauses := filters.clauses, error := filters.error }

/-- The select after a call that filters. -/
def filter (query : Select) (call : FilterCall) : Select :=
  query.withFilters (FilterCall.apply query.filters call)

/-- One more clause. -/
def push (query : Select) (connective : Connective) (predicate : Predicate) : Select :=
  query.withFilters (query.filters.push connective predicate)

/-! ### Target and fields -/

/-- The select from another table. -/
def setTable (query : Select) (text : String) : Select :=
  { query with target := query.target.setTable text }

/-- The select from another database, or from none. -/
def setDatabase (query : Select) (database : Option String) : Select :=
  { query with target := { query.target with database := database } }

/-- The select of other fields. -/
def setFields (query : Select) (fields : FieldList) : Select :=
  { query with fields := fields.toFields }

/-- One more field, under an alias if one is given. -/
def addField (query : Select) (field : Field) (label : Option String) : Select :=
  { query with fields := query.fields ++ [label.elim field field.withLabel] }

/-- The select with or without repeated rows. -/
def setDistinct (query : Select) (distinct : Bool) : Select :=
  { query with distinct := distinct }

/-! ### Orders and groups -/

/-- A batch with one more entry.  A named column that is in the batch keeps its place and
takes the new direction. -/
def addOrder (batch : List (Column × Direction)) (column : Column) (direction : Direction) :
    List (Column × Direction) :=
  match column with
  | .name _ => Pairs.put column direction batch
  | .raw _ => batch ++ [(column, direction)]

/-- The entries whose direction is one, as a batch. -/
def orderBatch (entries : List (Column × Except Error Direction)) : List (Column × Direction) :=
  entries.foldl (fun batch (column, direction) =>
    match direction with
    | .ok direction => addOrder batch column direction
    | .error _ => batch) []

/-- The slot after the mistakes in the directions. -/
def orderErrors (slot : Option Error) (entries : List (Column × Except Error Direction)) :
    Option Error :=
  entries.foldl (fun slot (_, direction) =>
    match direction with
    | .ok _ => slot
    | .error error => Error.keepFirst slot error) slot

/-- One more batch of orders. -/
def addOrders (query : Select) (entries : List (Column × Except Error Direction)) : Select :=
  { query with
    orders := query.orders ++ orderBatch entries
    error := orderErrors query.error entries }

/-- Columns in one direction. -/
def orderBy (query : Select) (columns : ColumnList) (direction : KeywordArg Direction) :
    Select :=
  query.addOrders (columns.toColumns.map fun column => (column, direction.resolve))

/-- Columns with a direction each. -/
def orderByEach (query : Select) (entries : List (Column × KeywordArg Direction)) : Select :=
  query.addOrders (entries.map fun (column, direction) => (column, direction.resolve))

/-- More columns to group by. -/
def groupBy (query : Select) (columns : ColumnList) : Select :=
  { query with groups := query.groups ++ columns.toColumns }

/-! ### Joins and unions -/

/-- One more join.  Of two mistakes, the one in the condition counts. -/
def join (query : Select) (source : JoinSource) (on : JoinOn) (kind : KeywordArg JoinKind) :
    Select :=
  match on.resolve, kind.resolve with
  | .ok on, .ok kind => { query with joins := query.joins ++ [⟨kind, source, on⟩] }
  | .error error, _ => query.fail error
  | .ok _, .error error => query.fail error

/-- A join with every row. -/
def crossJoin (query : Select) (source : JoinSource) : Select :=
  { query with joins := query.joins ++ [⟨.cross, source, .clauses []⟩] }

/-- One more member of the union. -/
def union (query : Select) (member : Select) (kind : Option UnionKind) : Select :=
  { query with unions := query.unions ++ [⟨kind, member⟩] }

/-- One more member of the union, of a kind that is given as an argument. -/
def unionAs (query : Select) (member : Select) (kind : KeywordArg UnionKind) : Select :=
  match kind.resolve with
  | .ok kind => query.union member (some kind)
  | .error error => query.fail error

/-! ### Windows and keys -/

/-- The largest number of 64 bits. -/
def largestOffset : Nat := 18446744073709551615

/-- A page of rows, counted from zero.  An offset beyond the largest is the largest. -/
def page (query : Select) (page size : UInt64) : Select :=
  { query with
    limit := some size
    offset := some (UInt64.ofNat (min (page.toNat * size.toNat) largestOffset)) }

/-- The column that a choice means. -/
def keyColumn (query : Select) : KeyChoice → Option String
  | .off => none
  | .default => some query.target.config.defaultPrimaryKey
  | .column name => some name

end Select

/-! ### Calls -/

/-- A call that builds a select. -/
inductive SelectCall where
  | filter (call : FilterCall)
  | table (text : String)
  | database (name : Option String)
  | fields (fields : FieldList)
  | addField (field : Field) (label : Option String)
  | distinct (distinct : Bool)
  | orderBy (columns : ColumnList) (direction : KeywordArg Direction)
  | orderByEach (entries : List (Column × KeywordArg Direction))
  | groupBy (columns : ColumnList)
  | join (source : JoinSource) (on : JoinOn) (kind : KeywordArg JoinKind)
  | crossJoin (source : JoinSource)
  | union (member : Select) (kind : Option UnionKind)
  | unionAs (member : Select) (kind : KeywordArg UnionKind)
  /-- A union with a child. -/
  | unionWith (kind : Option UnionKind) (calls : List SelectCall)
  /-- A condition that a child has rows, or has none. -/
  | exists (connective : Connective) (negated : Bool) (calls : List SelectCall)
  /-- A condition that a column is among the rows of a child, or is not. -/
  | among (negated : Bool) (column : Column) (calls : List SelectCall)
  /-- A child in the place of the select. -/
  | subSelect (calls : List SelectCall)
  | limit (limit : Option UInt64)
  | offset (offset : Option UInt64)
  | page (page size : UInt64)
  | forwardKey (choice : KeyChoice)
  | groupResults (choice : KeyChoice)

namespace SelectCall

/-- An aggregate of a column as a further field. -/
def aggregate (function column : String) (label : Option String) : SelectCall :=
  .addField (Field.ofColumn function column) label

/-- A rounded column as a further field, the number of digits bound as a value. -/
def round (column : String) (digits : UInt32) (label : Option String) : SelectCall :=
  .addField
    ⟨.function ⟨"round", [.column column, .value (Value.ofUInt32 digits)]⟩, none⟩ label

mutual

/-- The select after a call. -/
def apply (query : Select) : SelectCall → Select
  | .filter call => query.filter call
  | .table text => query.setTable text
  | .database name => query.setDatabase name
  | .fields given => query.setFields given
  | .addField field label => query.addField field label
  | .distinct flag => query.setDistinct flag
  | .orderBy columns direction => query.orderBy columns direction
  | .orderByEach entries => query.orderByEach entries
  | .groupBy columns => query.groupBy columns
  | .join source on kind => query.join source on kind
  | .crossJoin source => query.crossJoin source
  | .union member kind => query.union member kind
  | .unionAs member kind => query.unionAs member kind
  | .unionWith kind calls => query.union (applyAll query.child calls) kind
  | .exists connective negated calls =>
    query.push connective (.exists negated (applyAll query.child calls))
  | .among negated column calls =>
    query.push .and (.compare column (if negated then .notIn else .isIn)
      (.select (applyAll query.child calls)))
  | .subSelect calls => applyAll query.child calls
  | .limit rows => { query with limit := rows }
  | .offset rows => { query with offset := rows }
  | .page number size => query.page number size
  | .forwardKey choice => { query with forwardKey := query.keyColumn choice }
  | .groupResults choice => { query with groupResults := query.keyColumn choice }

/-- The select after calls in order. -/
def applyAll (query : Select) : List SelectCall → Select
  | [] => query
  | call :: calls => applyAll (apply query call) calls

end

end SelectCall
end SqlBuilder
