import SqlBuilder.Sql.Writing

/-! # Pieces of a statement

The text and the values of a statement can be taken apart only if it is known which value
stands where in the text.  A list of pieces keeps both together: a text of the grammar, a
piece of SQL that the caller supplied, an identifier that will be quoted, or a bound value
in the place where its placeholder will stand.

`render` writes the pieces as text, with the placeholders numbered on from a given count,
and `values` lists what is bound, in the same order.  Both are homomorphic
(`render_append`, `values_append`), which is what lets a statement be put together from
parts whose texts are made apart from each other.
-/
namespace SqlBuilder

/-! ### Lists in a row -/

/-- Lists behind others, with a list between each two of them. -/
theorem intercalate_append_lists {β : Type} (between : List β) {first second : List (List β)}
    (hfirst : first ≠ []) (hsecond : second ≠ []) :
    between.intercalate (first ++ second)
      = between.intercalate first ++ between ++ between.intercalate second := by
  induction first with
  | nil => exact absurd rfl hfirst
  | cons part rest ih =>
    by_cases last : rest = []
    · subst last
      rw [List.singleton_append, List.intercalate_cons_of_ne_nil hsecond]
      simp
    · have more : rest ++ second ≠ [] := by simp [last]
      rw [List.cons_append, List.intercalate_cons_of_ne_nil more, ih last,
        List.intercalate_cons_of_ne_nil last]
      simp only [List.append_assoc]

/-! ### Pieces -/

/-- A piece of a statement. -/
inductive Piece where
  | text (text : String)
  | sql (sql : String)
  | name (identifier : String)
  | value (value : Value)

namespace Piece

/-- The text of pieces when `bound` values are bound before them. -/
def render (d : Dialect) (bound : Nat) : List Piece → String
  | [] => ""
  | .text s :: pieces => s ++ render d bound pieces
  | .sql s :: pieces => s ++ render d bound pieces
  | .name s :: pieces => d.quoteIdentifier s ++ render d bound pieces
  | .value _ :: pieces => d.placeholder (bound + 1) ++ render d (bound + 1) pieces

/-- The values that pieces bind, in order. -/
def values : List Piece → List Value
  | [] => []
  | .text _ :: pieces => values pieces
  | .sql _ :: pieces => values pieces
  | .name _ :: pieces => values pieces
  | .value v :: pieces => v :: values pieces

/-- The lists of pieces with a text between each two of them. -/
def separate (between : String) (parts : List (List Piece)) : List Piece :=
  [Piece.text between].intercalate parts

/-- Identifiers with commas between them. -/
def names (identifiers : List String) : List Piece :=
  separate ", " (identifiers.map fun identifier => [.name identifier])

/-- An alias behind what it stands for, if there is one. -/
def label : Option String → List Piece
  | some identifier => [.text " AS ", .name identifier]
  | none => []

/-- The pieces in parentheses. -/
def enclose (pieces : List Piece) : List Piece :=
  .text "(" :: pieces ++ [.text ")"]

/-! ### Rendering parts -/

@[simp] theorem values_append (ps qs : List Piece) :
    values (ps ++ qs) = values ps ++ values qs := by
  induction ps with
  | nil => rfl
  | cons p ps ih =>
    cases p with
    | text => exact ih
    | sql => exact ih
    | name => exact ih
    | value v => exact congrArg (v :: ·) ih

@[simp] theorem render_append (d : Dialect) (bound : Nat) (ps qs : List Piece) :
    render d bound (ps ++ qs) = render d bound ps ++ render d (bound + (values ps).length) qs := by
  induction ps generalizing bound with
  | nil => simp [render, values]
  | cons p ps ih =>
    cases p with
    | text s => simp [render, values, ih, String.append_assoc]
    | sql s => simp [render, values, ih, String.append_assoc]
    | name s => simp [render, values, ih, String.append_assoc]
    | value v =>
      have count : bound + (values ps).length.succ = bound + 1 + (values ps).length := by omega
      simp only [List.cons_append, render, values, ih, String.append_assoc, List.length_cons]
      rw [← count]

theorem values_flatMap {α : Type} (pieces : α → List Piece) (list : List α) :
    values (list.flatMap pieces) = list.flatMap fun a => values (pieces a) := by
  induction list with
  | nil => rfl
  | cons a list ih => rw [List.flatMap_cons, values_append, ih, List.flatMap_cons]

theorem separate_cons_cons (between : String) (part next : List Piece)
    (parts : List (List Piece)) :
    separate between (part :: next :: parts)
      = part ++ .text between :: separate between (next :: parts) := by
  simp [separate, List.intercalate_cons_cons]

/-- The first part stands alone, and every further one behind the text. -/
theorem separate_cons (between : String) (part : List Piece) (parts : List (List Piece)) :
    separate between (part :: parts) = part ++ parts.flatMap (.text between :: ·) := by
  induction parts generalizing part with
  | nil => simp [separate]
  | cons next parts ih => rw [separate_cons_cons, ih, List.flatMap_cons, List.cons_append]

theorem values_separate (between : String) (parts : List (List Piece)) :
    values (separate between parts) = parts.flatMap values := by
  cases parts with
  | nil => rfl
  | cons part parts => rw [separate_cons, values_append, values_flatMap]; rfl

@[simp] theorem values_enclose (ps : List Piece) : values (enclose ps) = values ps := by
  simp [enclose, values]

theorem render_enclose (d : Dialect) (n : Nat) (ps : List Piece) :
    render d n (enclose ps) = "(" ++ render d n ps ++ ")" := by
  simp [enclose, render, String.append_assoc]

end Piece

/-! ### Tables -/

/-- A table and its alias. -/
def TableName.pieces (table : TableName) : List Piece :=
  .name table.name :: Piece.label table.label

namespace Target

/-- The database in front of a table, if there is one. -/
def databasePieces (target : Target) : List Piece :=
  match target.database with
  | some database => [.name database, .text "."]
  | none => []

/-- The table without its alias, as a statement writes to it. -/
def tablePieces (target : Target) : List Piece :=
  target.databasePieces ++ [.name target.table.name]

/-- The table with its alias, as a statement reads from it. -/
def sourcePieces (target : Target) : List Piece :=
  target.databasePieces ++ target.table.pieces

end Target

/-! ### Columns and fields -/

/-- A column. -/
def Column.pieces : Column → List Piece
  | .name text => [.name text]
  | .raw piece => [.sql piece.sql]

/-- Columns with commas between them. -/
def Column.listPieces (columns : List Column) : List Piece :=
  Piece.separate ", " (columns.map Column.pieces)

/-- An argument of a function. -/
def Argument.pieces : Argument → List Piece
  | .column name => [.name name]
  | .raw piece => [.sql piece.sql]
  | .value v => [.value v]

/-- A function and its arguments. -/
def Function.pieces (function : Function) : List Piece :=
  .sql function.capitals ::
    Piece.enclose (Piece.separate ", " (function.arguments.map Argument.pieces))

/-- What a field returns. -/
def FieldSource.pieces : FieldSource → List Piece
  | .column name => [.name name]
  | .raw piece => [.sql piece.sql]
  | .function f => f.pieces

/-- A field and its alias. -/
def Field.pieces (field : Field) : List Piece :=
  field.source.pieces ++ Piece.label field.label

/-- The fields of a select, `*` when there are none. -/
def Field.listPieces (fields : List Field) : List Piece :=
  if fields.isEmpty then [.text "*"] else Piece.separate ", " (fields.map Field.pieces)

/-- A value that is written into a column. -/
def NewValue.pieces : NewValue → List Piece
  | .value v => [.value v]
  | .raw piece => [.sql piece.sql]

end SqlBuilder
