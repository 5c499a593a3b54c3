import SqlBuilder.Result.Key

/-! # Fetched rows

Rows come back as a list, keyed by a column, grouped by a column, or as a single row.
`Fetched.shape` brings them into the form that a select asks for: first they are keyed,
a later row with the same key taking the place of an earlier one; then what is left is
grouped, groups and their rows in order of first occurrence; and last, where a single row
is asked for, the first row of the first group is taken out.  Rows that are not keyed
are known inside their groups by their position.
-/
namespace SqlBuilder

/-- Fetched rows in the form that was asked for. -/
inductive Fetched where
  | rows (rows : List Row)
  | keyed (rows : OrderedMap Key Row)
  | grouped (groups : OrderedMap Key (OrderedMap Key Row))
  | single (row : Option Row)

namespace Fetched

/-! ### Views -/

/-- All rows in order. -/
def toRows : Fetched → List Row
  | .rows list => list
  | .keyed m => m.values
  | .grouped groups => groups.values.flatMap OrderedMap.values
  | .single row => row.toList

/-- The number of rows. -/
def size : Fetched → Nat
  | .rows list => list.length
  | .keyed m => m.size
  | .grouped groups => groups.values.foldr (fun group n => group.size + n) 0
  | .single row => if row.isSome then 1 else 0

/-- Whether there are no rows. -/
def isEmpty (fetched : Fetched) : Bool :=
  fetched.size == 0

/-- The first row, in a grouped result that of the first group. -/
def first? : Fetched → Option Row
  | .rows list => list.head?
  | .keyed m => m.values.head?
  | .grouped groups => groups.values.head?.bind fun group => group.values.head?
  | .single row => row

/-! ### Shaping -/

/-- The rows by their keys. -/
def keyRows (column : String) (list : List Row) : Except Error (OrderedMap Key Row) :=
  list.foldlM (fun m row => do
    let key ← row.key "forward_key" column
    return m.insert key row) .empty

/-- The rows with their positions as keys. -/
def byPosition (list : List Row) : List (Key × Row) :=
  list.mapIdx fun position row => (.int (Int64.ofNat position), row)

/-- The keyed rows in groups. -/
def groupRows (column : String) (entries : List (Key × Row)) :
    Except Error (OrderedMap Key (OrderedMap Key Row)) :=
  entries.foldlM (fun groups (key, row) => do
    let bucket ← row.key "group_results" column
    let group := (groups.get? bucket).getD .empty
    return groups.insert bucket (group.insert key row)) .empty

/-- The rows keyed and grouped as asked for. -/
def arrange (forwardKey groupResults : Option String) (list : List Row) :
    Except Error Fetched :=
  match forwardKey, groupResults with
  | none, none => .ok (.rows list)
  | some column, none => (keyRows column list).map .keyed
  | none, some column => (groupRows column (byPosition list)).map .grouped
  | some key, some column => do
    let m ← keyRows key list
    let groups ← groupRows column m.toList
    return .grouped groups

/-- The rows in the form that was asked for. -/
def shape (forwardKey groupResults : Option String) (isSingle : Bool) (list : List Row) :
    Except Error Fetched :=
  (arrange forwardKey groupResults list).map fun fetched =>
    if isSingle then .single fetched.first? else fetched

end Fetched
end SqlBuilder
