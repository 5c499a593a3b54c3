import SqlBuilder.Text.Alias
import SqlBuilder.Value.Basic

/-! # Columns and fields

A `Column` is what conditions, orderings and groupings speak of: a name, which will be
quoted, or a piece of SQL, which will not.  A `Field` is what a select returns: a
column, a piece of SQL or a function of arguments, perhaps under another name.

Lists of both can be given in several ways that mean the same.  `ColumnList` and
`FieldList` are these ways, and `toColumns` and `toFields` say what each of them means.
-/
namespace SqlBuilder

/-- A piece of SQL that goes into a statement as it is. -/
structure Raw where
  sql : String
  deriving DecidableEq

/-! ### Columns -/

/-- A column of a condition, an ordering or a grouping. -/
inductive Column where
  | name (name : String)
  | raw (raw : Raw)
  deriving DecidableEq

namespace Column

/-- The column that a text names; white space around the name does not count. -/
def ofText (text : String) : Column :=
  .name (Text.trimmed text)

/-- The name of a column that has one. -/
def name? : Column → Option String
  | .name text => some text
  | .raw _ => none

end Column

/-- The ways to give a list of columns. -/
inductive ColumnList where
  /-- Names between commas. -/
  | text (s : String)
  | names (names : List String)
  | raw (raw : Raw)
  | columns (columns : List Column)

/-- The columns that are meant. -/
def ColumnList.toColumns : ColumnList → List Column
  | .text s => (Text.splitList s.toList).map fun part => Column.ofText (String.ofList part)
  | .names texts => texts.map Column.ofText
  | .raw sql => [.raw sql]
  | .columns given => given

/-! ### Functions and fields -/

/-- An argument of a function. -/
inductive Argument where
  | column (name : String)
  | raw (raw : Raw)
  | value (value : Value)

/-- A function of arguments. -/
structure Function where
  name : String
  arguments : List Argument

/-- What a field returns. -/
inductive FieldSource where
  | column (name : String)
  | raw (raw : Raw)
  | function (function : Function)

/-- What a select returns, perhaps under another name. -/
structure Field where
  source : FieldSource
  label : Option String

namespace Field

/-- The field of a column. -/
def column (name : String) : Field :=
  ⟨.column name, none⟩

/-- The field of a function of one column. -/
def ofColumn (function column : String) : Field :=
  ⟨.function ⟨function, [.column column]⟩, none⟩

/-- The field under another name. -/
def withLabel (field : Field) (label : String) : Field :=
  { field with label := some label }

/-- The field that a text denotes: a name, or a name and an alias. -/
def parse (text : String) : Field :=
  let (name, label) := Text.splitAlias text.toList
  ⟨.column (String.ofList name), label.map String.ofList⟩

/-- Whether the field is one of the two spellings of everything. -/
def isEverything (field : Field) : Bool :=
  match field.source, field.label with
  | .column name, none => name == "" || name == "*"
  | _, _ => false

end Field

/-- The ways to give a list of fields. -/
inductive FieldList where
  /-- Names, perhaps with aliases, between commas. -/
  | text (s : String)
  | texts (texts : List String)
  /-- A name and an alias each. -/
  | pairs (pairs : List (String × String))
  /-- Two texts or more, of which none alone means everything. -/
  | several (texts : List String)
  | raw (raw : Raw)
  | function (function : Function)
  | fields (fields : List Field)

namespace FieldList

/-- No fields at all means everything, and so does the one field that says so. -/
def normalize : List Field → List Field
  | [field] => if field.isEverything then [] else [field]
  | given => given

/-- The fields that are meant; none when everything is. -/
def toFields : FieldList → List Field
  | .text s =>
    normalize ((Text.splitList s.toList).map fun part => Field.parse (String.ofList part))
  | .texts given => normalize (given.map Field.parse)
  | .pairs given => given.map fun (name, label) =>
    (Field.column (Text.trimmed name)).withLabel (Text.trimmed label)
  | .several given => given.map Field.parse
  | .raw sql => [⟨.raw sql, none⟩]
  | .function f => [⟨.function f, none⟩]
  | .fields given => normalize given

end FieldList
end SqlBuilder
