import SqlBuilder.Query.Basic
import SqlBuilder.Query.Insert
import SqlBuilder.Query.Update
import SqlBuilder.Text.Literal

/-! # Databases

A `Database` is where statements start: it has the dialect and the settings that they
are made with.  From a database one gets a target, with a table or still without one,
and from a target a statement of any kind.

`Database.describe` and `Target.describe` show both to a person, as the name of a record
and its fields; what is left out is shown as two dots.
-/
namespace SqlBuilder

/-- The dialect and the settings of a database. -/
structure Database where
  dialect : Dialect
  config : Config

namespace Database

/-- A target without a table. -/
def query (database : Database) : Target :=
  Target.unset database.dialect database.config

/-- A target with the table that a text denotes. -/
def table (database : Database) (text : String) : Target :=
  database.query.setTable text

end Database

namespace Target

/-- A select of fields. -/
def select (target : Target) (fields : FieldList) : Select :=
  { Select.all target with fields := fields.toFields }

end Target

/-! ### Descriptions -/

/-- A record with named fields, of which more may be left out. -/
def showRecord (name : String) (fields : List (String × String)) (isPartial : Bool) : String :=
  let shown := fields.map fun (field, value) => field ++ ": " ++ value
  name ++ " \x7b " ++ ", ".intercalate (if isPartial then shown ++ [".."] else shown) ++ " \x7d"

/-- A text that may be missing. -/
def showOption : Option String → String
  | some s => "Some(" ++ Text.showText s ++ ")"
  | none => "None"

/-- The settings as a record. -/
def Config.describe (config : Config) : String :=
  showRecord "Config" [(Config.settingName, Text.showText config.defaultPrimaryKey)] false

/-- A table as a record. -/
def TableName.describe (table : TableName) : String :=
  showRecord "TableRef"
    [("name", Text.showText table.name), ("alias", showOption table.label)] false

/-- A database as a record. -/
def Database.describe (database : Database) : String :=
  showRecord "Database"
    [("dialect", Text.showText database.dialect.name), ("config", database.config.describe)] true

/-- A target as a record. -/
def Target.describe (target : Target) : String :=
  showRecord "Identity"
    [("database", showOption target.database), ("table", target.table.describe),
      ("dialect", Text.showText target.dialect.name), ("config", target.config.describe)] true

end SqlBuilder
