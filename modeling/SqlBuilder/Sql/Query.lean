import SqlBuilder.Sql.Select

/-! # Writing statements

Inserts, updates and deletions write to a table, which has no alias there.  An insert
needs a row and an update something to set; a deletion without conditions deletes
everything.

`Query.write` covers all kinds of statement, `Query.compile` gives the text and the values
of a statement in a dialect, and `Query.prepare` those in the dialect that the statement
was made with.
-/
namespace SqlBuilder

namespace Insert

/-- Writes a row in parentheses. -/
def writeRow (d : Dialect) (row : List NewValue) : Writing String := do
  let values ← row.mapM (NewValue.write d)
  return "(" ++ ", ".intercalate values ++ ")"

/-- An insert up to its rows. -/
def writeHead (d : Dialect) (query : Insert) : String :=
  (if query.ignore then d.ignoreHead else "INSERT INTO") ++ " " ++ query.target.writeTable d
    ++ " (" ++ ", ".intercalate (query.columns.map d.quoteIdentifier) ++ ") VALUES "

/-- Writes an insert. -/
def write (d : Dialect) (query : Insert) : Writing String := do
  Writing.ofExcept (checkTarget query.target query.error)
  if query.rows.isEmpty then throw (.invalidQuery "INSERT requires values")
  else
    let rows ← query.rows.mapM (writeRow d)
    return query.writeHead d ++ ", ".intercalate rows
      ++ if query.ignore then d.ignoreTail else ""

end Insert

namespace Update

/-- Writes a column that is set. -/
def writeSet (d : Dialect) : String × NewValue → Writing String
  | (column, value) => do
    let value ← value.write d
    return d.quoteIdentifier column ++ " = " ++ value

/-- Writes an update. -/
def write (d : Dialect) (query : Update) : Writing String := do
  Writing.ofExcept (checkTarget query.target query.error)
  if query.sets.isEmpty then throw (.invalidQuery "UPDATE requires SET clauses")
  else
    let sets ← query.sets.mapM (writeSet d)
    let conditions ← Clause.writeAll d "" query.clauses
    return "UPDATE " ++ query.target.writeTable d ++ " SET " ++ ", ".intercalate sets
      ++ writeWhere conditions

end Update

/-- Writes a deletion. -/
def Delete.write (d : Dialect) (query : Delete) : Writing String := do
  Writing.ofExcept (checkTarget query.target query.error)
  let conditions ← Clause.writeAll d "" query.clauses
  return "DELETE FROM " ++ query.target.writeTable d ++ writeWhere conditions

namespace Query

/-- Writes a statement. -/
def write (d : Dialect) : Query → Writing String
  | .select query => query.write d
  | .insert query => query.write d
  | .update query => query.write d
  | .delete query => query.write d

/-- The text and the values of a statement in a dialect. -/
def compile (d : Dialect) (query : Query) : Except Error Prepared :=
  (query.write d).prepare

/-- The text and the values of a statement in the dialect it was made with. -/
def prepare (query : Query) : Except Error Prepared :=
  query.compile query.target.dialect

end Query

/-- The text and the values of the question whether a select has rows. -/
def Select.prepareExists (query : Select) : Except Error Prepared :=
  (query.writeExists query.target.dialect).prepare

end SqlBuilder
