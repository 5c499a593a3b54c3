import SqlBuilder.Dialect
import SqlBuilder.Query.Basic

/-! # Writing names, columns and fields

A statement is written from left to right in one go: its text grows, and so does the list
of the values bound in it.  What stands for a bound value may show its number, so every
part that binds values has to know how many are bound before it.  `Writing` is this way of
working: a step sees the values bound so far, and leaves its result and the values bound
then, or the mistake that keeps the statement from being written.

Names are quoted, pieces of SQL stand as they are, and values are bound.  The name of a
function is written in capitals and is not quoted.
-/
namespace SqlBuilder

/-- A step of writing, from the values bound so far. -/
abbrev Writing := StateT (List Value) (Except Error)

/-- A statement as the database takes it: its text, and the values for its placeholders
in order. -/
structure Prepared where
  sql : String
  bindings : List Value

/-- Binds a value behind those bound so far, and gives what stands for it. -/
def Writing.placeholder (d : Dialect) (value : Value) : Writing String := do
  modify fun bound => bound ++ [value]
  return d.placeholder (← get).length

/-- A step that binds nothing. -/
def Writing.ofExcept {α : Type} (result : Except Error α) : Writing α := fun bound =>
  result.map fun a => (a, bound)

/-- The statement that a writing gives when nothing is bound before it. -/
def Writing.prepare (writing : Writing String) : Except Error Prepared :=
  (writing.run []).map fun (sql, bindings) => ⟨sql, bindings⟩

/-! ### Tables -/

/-- An alias behind what it stands for, if there is one. -/
def writeLabel (d : Dialect) : Option String → String
  | some label => " AS " ++ d.quoteIdentifier label
  | none => ""

/-- A table and its alias. -/
def TableName.write (d : Dialect) (table : TableName) : String :=
  d.quoteIdentifier table.name ++ writeLabel d table.label

namespace Target

/-- The table without its alias, as a statement writes to it. -/
def writeTable (d : Dialect) (target : Target) : String :=
  match target.database with
  | some database => d.quoteIdentifier database ++ "." ++ d.quoteIdentifier target.table.name
  | none => d.quoteIdentifier target.table.name

/-- The table with its alias, as a statement reads from it. -/
def writeSource (d : Dialect) (target : Target) : String :=
  target.writeTable d ++ writeLabel d target.table.label

end Target

/-! ### Columns -/

/-- A column. -/
def Column.write (d : Dialect) : Column → String
  | .name text => d.quoteIdentifier text
  | .raw piece => piece.sql

/-- Columns with commas between them. -/
def Column.writeAll (d : Dialect) (columns : List Column) : String :=
  ", ".intercalate (columns.map (Column.write d))

/-! ### Fields -/

/-- An argument of a function. -/
def Argument.write (d : Dialect) : Argument → Writing String
  | .column name => pure (d.quoteIdentifier name)
  | .raw piece => pure piece.sql
  | .value v => Writing.placeholder d v

/-- The name of a function in capitals. -/
def Function.capitals (function : Function) : String :=
  String.ofList (Text.upper function.name.toList)

/-- A function and its arguments. -/
def Function.write (d : Dialect) (function : Function) : Writing String := do
  let arguments ← function.arguments.mapM (Argument.write d)
  return function.capitals ++ "(" ++ ", ".intercalate arguments ++ ")"

/-- What a field returns. -/
def FieldSource.write (d : Dialect) : FieldSource → Writing String
  | .column name => pure (d.quoteIdentifier name)
  | .raw piece => pure piece.sql
  | .function f => f.write d

/-- A field and its alias. -/
def Field.write (d : Dialect) (field : Field) : Writing String := do
  let source ← field.source.write d
  return source ++ writeLabel d field.label

/-- The fields of a select, `*` when there are none. -/
def Field.writeAll (d : Dialect) (fields : List Field) : Writing String := do
  if fields.isEmpty then return "*"
  else
    let parts ← fields.mapM (Field.write d)
    return ", ".intercalate parts

/-- A value that is written into a column. -/
def NewValue.write (d : Dialect) : NewValue → Writing String
  | .value v => Writing.placeholder d v
  | .raw piece => pure piece.sql

end SqlBuilder
