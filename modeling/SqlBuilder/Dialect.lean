import SqlBuilder.Text.Blank
import SqlBuilder.Text.Numeral

/-! # Dialects

Databases differ in how a statement is written: how an identifier is quoted, what
stands for a bound value, how a window of rows is asked for, whether a list can be
bound as one value, how an insert skips rows, and whether a member of a union may
stand in parentheses.  A `Dialect` holds these choices.  `Dialect.standard` is the
common ground that a new dialect can start from, and the three dialects of the
library differ from it in a few of the choices.
-/
namespace SqlBuilder

/-- How statements are written for one database. -/
structure Dialect where
  name : String
  /-- The character around identifiers. -/
  quote : Char
  /-- What stands for the bound value with a number, counted from one. -/
  placeholder : Nat → String
  /-- The end of a statement that limits its rows to a window. -/
  window : Option UInt64 → Option UInt64 → String
  /-- Whether a list may be bound as one value. -/
  bindsLists : Bool
  /-- How an insert starts and ends that skips rows which are there already. -/
  ignoreHead : String
  ignoreTail : String
  /-- Whether a member of a union may stand in parentheses. -/
  parenthesizesMembers : Bool

namespace Dialect

/-! ### Identifiers -/

/-- A segment of an identifier in quotes, each quote inside it written twice. -/
def quoteSegment (quote : Char) (segment : List Char) : List Char :=
  quote :: segment.flatMap (fun c => if c = quote then [quote, quote] else [c]) ++ [quote]

/-- A segment as it stands in a statement: trimmed, and in quotes unless it is `*`. -/
def writeSegment (quote : Char) (segment : List Char) : List Char :=
  let text := Text.trim segment
  if text = ['*'] then text else quoteSegment quote text

/-- An identifier as it stands in a statement: its segments between dots, each written
on its own. -/
def quoteChars (quote : Char) (identifier : List Char) : List Char :=
  ['.'].intercalate ((identifier.splitOn '.').map (writeSegment quote))

/-- An identifier in the quotes of the dialect. -/
def quoteIdentifier (d : Dialect) (identifier : String) : String :=
  String.ofList (quoteChars d.quote identifier.toList)

/-! ### The dialects -/

/-- A number in a statement. -/
def number (n : UInt64) : String :=
  String.ofList (Text.showNat n.toNat)

/-- `LIMIT`, then `OFFSET`, each where it is asked for. -/
def standardWindow : Option UInt64 → Option UInt64 → String
  | some limit, some offset => " LIMIT " ++ number limit ++ " OFFSET " ++ number offset
  | some limit, none => " LIMIT " ++ number limit
  | none, some offset => " OFFSET " ++ number offset
  | none, none => ""

/-- A dialect with the common choices. -/
def standard (name : String) (quote : Char) (placeholder : Nat → String) : Dialect where
  name := name
  quote := quote
  placeholder := placeholder
  window := standardWindow
  bindsLists := false
  ignoreHead := "INSERT INTO"
  ignoreTail := ""
  parenthesizesMembers := true

/-- MySQL has no `OFFSET` of its own: it is the first of two numbers behind `LIMIT`, and
the second is then the largest there is. -/
def mysqlWindow : Option UInt64 → Option UInt64 → String
  | some limit, some offset => " LIMIT " ++ number offset ++ ", " ++ number limit
  | some limit, none => " LIMIT " ++ number limit
  | none, some offset => " LIMIT " ++ number offset ++ ", " ++ number 18446744073709551615
  | none, none => ""

/-- In SQLite an offset needs a limit, and a limit of -1 is none. -/
def sqliteWindow : Option UInt64 → Option UInt64 → String
  | some limit, some offset => " LIMIT " ++ number limit ++ " OFFSET " ++ number offset
  | some limit, none => " LIMIT " ++ number limit
  | none, some offset => " LIMIT -1 OFFSET " ++ number offset
  | none, none => ""

/-- The dialect of MySQL. -/
def mysql : Dialect :=
  { standard "mysql" '\x60' (fun _ => "?") with
    window := mysqlWindow
    ignoreHead := "INSERT IGNORE INTO" }

/-- The dialect of PostgreSQL. -/
def postgres : Dialect :=
  { standard "postgres" '"' (fun n => "$" ++ String.ofList (Text.showNat n)) with
    bindsLists := true
    ignoreTail := " ON CONFLICT DO NOTHING" }

/-- The dialect of SQLite. -/
def sqlite : Dialect :=
  { standard "sqlite" '"' (fun _ => "?") with
    window := sqliteWindow
    ignoreHead := "INSERT OR IGNORE INTO"
    parenthesizesMembers := false }

end Dialect
end SqlBuilder
