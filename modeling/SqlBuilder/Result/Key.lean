import SqlBuilder.Result.Row

/-! # Keys

Rows can be keyed by the value of a column.  A `Key` is an integer or a text, and a text
that is the canonical decimal form of an integer of 64 bits is that integer: so an
identifier keys the same whether the database reports it as a number or as text, and
showing a key gives back the text it came from.
-/
namespace SqlBuilder

/-- What rows are keyed by. -/
inductive Key where
  | int (n : Int64)
  | text (s : String)
  deriving DecidableEq

namespace Key

/-- The text of a key. -/
def display : Key → String
  | .int n => String.ofList (Text.showInt n.toInt)
  | .text s => s

/-- The key of a text. -/
def ofText (s : String) : Key :=
  match (Text.readInt? s.toList).bind Value.int64? with
  | some n => if Text.showInt n.toInt = s.toList then .int n else .text s
  | none => .text s

/-- The key of a value.  A missing value has the empty text, and bytes, arrays and
documents other than texts and numbers have no key. -/
def ofValue : Value → Except Error Key
  | .null => .ok (.text "")
  | .bool b => .ok (.int (if b then 1 else 0))
  | .int32 n => .ok (.int n.toInt64)
  | .int64 n => .ok (.int n)
  | .single x => .ok (.int x.datum.truncate)
  | .double x => .ok (.int x.datum.truncate)
  | .text s => .ok (ofText s)
  | .json (.string s) => .ok (ofText s)
  | .json (.number n) => .ok (.int n.truncate)
  | other => .error (.shape ("a " ++ other.typeName ++ " value cannot be used as a result key"))

end Key

/-- The key of a row: that of the cell in a column, or of the missing value when there is
no such cell.  Rows without names have none. -/
def Row.key (directive column : String) : Row → Except Error Key
  | .named m => Key.ofValue ((m.get? column).getD .null)
  | .positional _ => .error (.shape
    (directive ++ " requires associative rows, the executor returned positional ones"))

end SqlBuilder
