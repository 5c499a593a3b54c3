import SqlBuilder.Query.Filter

/-! # Building an update or a deletion

An update sets columns; a column that is set again keeps its place and takes the new
value.  Updates and deletions are filtered by the same calls as selects.
-/
namespace SqlBuilder

namespace Update

/-- An update that sets nothing. -/
def of (target : Target) : Update :=
  ⟨target, [], [], none⟩

/-- The update that sets a column, whose name does not count white space around it. -/
def set (query : Update) (column : String) (value : NewValue) : Update :=
  { query with sets := Pairs.put (Text.trimmed column) value query.sets }

/-- The update that sets columns in order. -/
def setMany (query : Update) (sets : List (String × NewValue)) : Update :=
  sets.foldl (fun query (column, value) => query.set column value) query

/-- The clauses and mistakes that filters work on. -/
def filters (query : Update) : Filters :=
  ⟨query.clauses, query.error⟩

/-- The update after a call that filters. -/
def filter (query : Update) (call : FilterCall) : Update :=
  let filters := FilterCall.apply query.filters call
  { query with clauses := filters.clauses, error := filters.error }

end Update

/-- A call that builds an update. -/
inductive UpdateCall where
  | filter (call : FilterCall)
  | set (column : String) (value : NewValue)
  | setMany (sets : List (String × NewValue))

namespace UpdateCall

/-- The update after a call. -/
def apply (query : Update) : UpdateCall → Update
  | .filter call => query.filter call
  | .set column value => query.set column value
  | .setMany given => query.setMany given

/-- The update after calls in order. -/
def applyAll (query : Update) (calls : List UpdateCall) : Update :=
  calls.foldl apply query

end UpdateCall

namespace Delete

/-- A deletion of everything. -/
def all (target : Target) : Delete :=
  ⟨target, [], none⟩

/-- The clauses and mistakes that filters work on. -/
def filters (query : Delete) : Filters :=
  ⟨query.clauses, query.error⟩

/-- The deletion after a call that filters. -/
def filter (query : Delete) (call : FilterCall) : Delete :=
  let filters := FilterCall.apply query.filters call
  { query with clauses := filters.clauses, error := filters.error }

/-- The deletion after calls in order. -/
def filterAll (query : Delete) (calls : List FilterCall) : Delete :=
  calls.foldl filter query

end Delete
end SqlBuilder
