import SqlBuilder.Query.Basic
import SqlBuilder.Text.Order

/-! # Building an insert

The first row gives the columns.  Every later row has to give a value for each of them
and for no other column, in any order; a row that does not is left out, and the mistake
is kept.  A row can be given as pairs in order or as a map, which is in order of
insertion or has no order of its own; the pairs of an unordered map are taken in the
order of their columns.
-/
namespace SqlBuilder

/-- A row as a caller gives it. -/
inductive InsertRow where
  | pairs (pairs : List (String × NewValue))
  /-- A map in order of insertion. -/
  | ordered (pairs : List (String × NewValue))
  /-- A map without an order of its own. -/
  | unordered (pairs : List (String × NewValue))

/-- The values of a row with their columns. -/
def InsertRow.entries : InsertRow → List (String × NewValue)
  | .pairs given => given
  | .ordered given => Pairs.dedupe given
  | .unordered given =>
    (Pairs.dedupe given).mergeSort fun a b => Text.inOrder a.1.toList b.1.toList

namespace Insert

/-- An insert without rows. -/
def into (target : Target) : Insert :=
  ⟨target, [], [], false, none⟩

/-- The values of a row in the order of the columns, each entry used once. -/
def align : List String → List (String × NewValue) → Option (List NewValue)
  | [], _ => some []
  | column :: columns, entries => do
    let value ← Pairs.get? entries column
    let values ← align columns (entries.filter fun entry => entry.1 ≠ column)
    return value :: values

/-- The mistake of a row with other columns than the first. -/
def otherColumns : Error :=
  .invalidQuery "every INSERT row must have the same columns"

/-- One more row. -/
def addRow (query : Insert) (row : InsertRow) : Insert :=
  let entries := row.entries
  if query.rows.isEmpty then
    { query with columns := Pairs.keys entries, rows := [entries.map Prod.snd] }
  else
    let byColumn := Pairs.dedupe entries
    let aligned :=
      if byColumn.length = query.columns.length then align query.columns byColumn else none
    match aligned with
    | some values => { query with rows := query.rows ++ [values] }
    | none => { query with error := Error.keepFirst query.error otherColumns }

end Insert

/-- A call that builds an insert. -/
inductive InsertCall where
  | row (row : InsertRow)
  | rows (rows : List InsertRow)
  | ignore (ignore : Bool)

namespace InsertCall

/-- The insert after a call. -/
def apply (query : Insert) : InsertCall → Insert
  | .row given => query.addRow given
  | .rows given => given.foldl Insert.addRow query
  | .ignore flag => { query with ignore := flag }

/-- The insert after calls in order. -/
def applyAll (query : Insert) (calls : List InsertCall) : Insert :=
  calls.foldl apply query

end InsertCall
end SqlBuilder
