import SqlBuilder.Config
import SqlBuilder.Dialect
import SqlBuilder.Text.Alias

/-! # What a statement is aimed at

A statement has a table, perhaps in a named database and perhaps with an alias, and
the dialect and settings it was made with.  A table may be given as one text,
`db.table as t`: the alias is cut off first, and what stands before the first dot of
the rest names the database.
-/
namespace SqlBuilder

/-- A table and the name it has in a statement. -/
structure TableName where
  name : String
  label : Option String
  deriving DecidableEq

namespace TableName

/-- The table that a text denotes: a name, or a name and an alias. -/
def parse (text : String) : TableName :=
  let (name, label) := Text.splitAlias text.toList
  ⟨String.ofList name, label.map String.ofList⟩

end TableName

/-- The table, dialect and settings of a statement. -/
structure Target where
  database : Option String
  table : TableName
  dialect : Dialect
  config : Config

namespace Target

/-- The text before and after the first dot. -/
def cutDot : List Char → Option (List Char × List Char)
  | [] => none
  | c :: cs =>
    if c = '.' then some ([], cs)
    else (cutDot cs).map fun (before, after) => (c :: before, after)

/-- A target without a table. -/
def unset (dialect : Dialect) (config : Config) : Target :=
  ⟨none, ⟨"", none⟩, dialect, config⟩

/-- The target with the table that a text denotes.  A text that names a database sets
that too; any other leaves the database as it is. -/
def setTable (target : Target) (text : String) : Target :=
  let table := TableName.parse text
  match cutDot table.name.toList with
  | some (database, name) =>
    { target with
      database := some (String.ofList database)
      table := ⟨String.ofList name, table.label⟩ }
  | none => { target with table := table }

/-- Whether a table has been set. -/
def hasTable (target : Target) : Bool :=
  !(Text.trim target.table.name.toList).isEmpty

end Target
end SqlBuilder
