import SqlBuilder.Result.Row

/-! # Rows as records

A row can be read as a record through its JSON document: the cells with the names of
the fields, or the cells in the order of the fields when they have no names.  Cells with
other names do not matter, and no type is converted into another: an integer field
wants an integer in range, and a text field wants a text.
-/
namespace SqlBuilder

/-- A record with an integer and a name. -/
structure User where
  id : Int64
  name : String
  deriving DecidableEq

namespace User

/-- The integer that a document is; a floating-point number is none. -/
def id? : Json → Option Int64
  | .number (.integer n) => n.toInt64?
  | _ => none

/-- The text that a document is. -/
def name? : Json → Option String
  | .string s => some s
  | _ => none

/-- The record with two documents as its fields. -/
def ofFields? (first second : Json) : Option User :=
  match id? first, name? second with
  | some n, some s => some ⟨n, s⟩
  | _, _ => none

/-- The record that a document denotes: an object with at least the two fields, or a list
of exactly their values. -/
def ofJson? : Json → Option User
  | .object members =>
    match Pairs.get? members "id", Pairs.get? members "name" with
    | some first, some second => ofFields? first second
    | _, _ => none
  | .array [first, second] => ofFields? first second
  | _ => none

/-- The record that a row denotes. -/
def ofRow (row : Row) : Except Error User :=
  match ofJson? row.toJson with
  | some user => .ok user
  | none => .error .serialization

end User

end SqlBuilder
