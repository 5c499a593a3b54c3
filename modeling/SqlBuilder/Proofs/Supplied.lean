import SqlBuilder.Proofs.Simulation

/-! # What the caller supplied

The texts of the grammar apart, everything in a statement comes from the caller: the
identifiers, the pieces of SQL with the names of functions, and the bound values.
`Query.supplied` lists all of it in the order of the clauses, read off the statement alone.
What is not written is not listed: the condition of a join with every row, and a column
that is compared with an empty list.

**The pieces of a statement are what the caller supplied, in that order, with texts of the
grammar between them** (`Query.supplied_pieces`).  With the simulation this locates every
bound value (`Query.write_factors`): the text of a statement is a fixed sequence of literal
texts with the values of the statement in between, in the order of the clauses.
-/
namespace SqlBuilder

/-! ### Supplied pieces -/

namespace Piece

/-- Whether a piece comes from the caller. -/
def isSupplied : Piece → Bool
  | .text _ => false
  | .sql _ | .name _ | .value _ => true

/-- The pieces that come from the caller. -/
def supplied (pieces : List Piece) : List Piece :=
  pieces.filter isSupplied

@[simp] theorem supplied_nil : supplied [] = [] := rfl

@[simp] theorem supplied_append (ps qs : List Piece) :
    supplied (ps ++ qs) = supplied ps ++ supplied qs :=
  List.filter_append ..

@[simp] theorem supplied_text (s : String) (ps : List Piece) :
    supplied (.text s :: ps) = supplied ps := rfl

@[simp] theorem supplied_sql (s : String) (ps : List Piece) :
    supplied (.sql s :: ps) = .sql s :: supplied ps := rfl

@[simp] theorem supplied_name (s : String) (ps : List Piece) :
    supplied (.name s :: ps) = .name s :: supplied ps := rfl

@[simp] theorem supplied_value (v : Value) (ps : List Piece) :
    supplied (.value v :: ps) = .value v :: supplied ps := rfl

theorem supplied_flatMap {α : Type} (pieces : α → List Piece) (list : List α) :
    supplied (list.flatMap pieces) = list.flatMap fun a => supplied (pieces a) :=
  List.filter_flatMap ..

@[simp] theorem supplied_separate (between : String) (parts : List (List Piece)) :
    supplied (separate between parts) = parts.flatMap supplied := by
  cases parts with
  | nil => rfl
  | cons part parts => rw [separate_cons, supplied_append, supplied_flatMap]; rfl

/-- Items of which each is a piece from the caller. -/
theorem supplied_items {α : Type} {f : α → Piece} (hf : ∀ a, (f a).isSupplied = true)
    {between : String} (list : List α) :
    supplied (separate between (list.map fun a => [f a])) = list.map f := by
  have one : ∀ a, supplied [f a] = [f a] := fun a => by simp [supplied, hf a]
  rw [supplied_separate, List.flatMap_map]
  simp only [one]
  exact (List.map_eq_flatMap ..).symm

@[simp] theorem supplied_enclose (ps : List Piece) : supplied (enclose ps) = supplied ps := by
  simp [enclose]

/-- The values among pieces all come from the caller. -/
theorem values_supplied (ps : List Piece) : values (supplied ps) = values ps := by
  induction ps with
  | nil => rfl
  | cons p ps ih =>
    cases p with
    | text s => exact ih
    | sql s => exact ih
    | name s => exact ih
    | value v => exact congrArg (v :: ·) ih

end Piece

/-! ### Names, columns and fields -/

/-- An alias, if there is one. -/
def suppliedLabel (label : Option String) : List Piece :=
  label.toList.map .name

/-- The database, if there is one, and the table. -/
def Target.supplied (target : Target) : List Piece :=
  target.database.toList.map .name ++ [.name target.table.name]

/-- The name of a column, or the SQL in its place. -/
def Column.supplied : Column → List Piece
  | .name text => [.name text]
  | .raw piece => [.sql piece.sql]

def Argument.supplied : Argument → List Piece
  | .column name => [.name name]
  | .raw piece => [.sql piece.sql]
  | .value v => [.value v]

def FieldSource.supplied : FieldSource → List Piece
  | .column name => [.name name]
  | .raw piece => [.sql piece.sql]
  | .function f => .sql f.capitals :: f.arguments.flatMap Argument.supplied

def Field.supplied (field : Field) : List Piece :=
  field.source.supplied ++ suppliedLabel field.label

def NewValue.supplied : NewValue → List Piece
  | .value v => [.value v]
  | .raw piece => [.sql piece.sql]

/-! ### Statements -/

mutual

/-- What the caller supplied for a select: the fields, the target, the joins, the
conditions, the groups, the order, and the other members of the union. -/
def Select.supplied : Select → List Piece
  | ⟨target, fields, _, orders, groups, joins, unions, clauses, _, _, _, _, _⟩ =>
    fields.flatMap Field.supplied ++ target.supplied ++ suppliedLabel target.table.label
      ++ Join.suppliedAll joins ++ Clause.suppliedAll clauses ++ groups.flatMap Column.supplied
      ++ orders.flatMap (fun order => order.1.supplied) ++ UnionMember.suppliedAll unions

def Join.suppliedAll : List Join → List Piece
  | [] => []
  | join :: joins => join.supplied ++ Join.suppliedAll joins

/-- What is joined, and what it is joined on unless it is joined with every row. -/
def Join.supplied : Join → List Piece
  | ⟨kind, source, on⟩ => source.supplied ++ if kind = .cross then [] else on.supplied

def JoinSource.supplied : JoinSource → List Piece
  | .table t => .name t.name :: suppliedLabel t.label
  | .select query label => query.supplied ++ [.name label]

def JoinCondition.supplied : JoinCondition → List Piece
  | .columns left _ right => left.supplied ++ right.supplied
  | .clauses list => Clause.suppliedAll list

def Clause.suppliedAll : List Clause → List Piece
  | [] => []
  | ⟨_, predicate⟩ :: clauses => predicate.supplied ++ Clause.suppliedAll clauses

def Predicate.supplied : Predicate → List Piece
  | .compare column operator operand => operand.supplied column operator
  | .columns left _ right => left.supplied ++ right.supplied
  | .exists _ query => query.supplied
  | .group clauses => Clause.suppliedAll clauses

/-- A column and what it is compared with.  A list behind `IN` has a value for each item,
and nothing is written of an empty one; any other list is one value. -/
def Operand.supplied (column : Column) (operator : Operator) : Operand → List Piece
  | .value v => column.supplied ++ [.value v]
  | .list values =>
    if operator.isList then
      if values.isEmpty then [] else column.supplied ++ values.map .value
    else column.supplied ++ [.value (.array values)]
  | .raw piece => column.supplied ++ [.sql piece.sql]
  | .select query => column.supplied ++ query.supplied

def UnionMember.suppliedAll : List UnionMember → List Piece
  | [] => []
  | ⟨_, query⟩ :: members => query.supplied ++ UnionMember.suppliedAll members

end

/-- The target, the columns, and the values row by row. -/
def Insert.supplied (query : Insert) : List Piece :=
  query.target.supplied ++ query.columns.map .name
    ++ query.rows.flatMap fun row => row.flatMap NewValue.supplied

/-- The target, the columns with their values, and the conditions. -/
def Update.supplied (query : Update) : List Piece :=
  query.target.supplied
    ++ query.sets.flatMap (fun (column, value) => .name column :: value.supplied)
    ++ Clause.suppliedAll query.clauses

/-- The target and the conditions. -/
def Delete.supplied (query : Delete) : List Piece :=
  query.target.supplied ++ Clause.suppliedAll query.clauses

/-- What the caller supplied for a statement, in the order of its clauses. -/
def Query.supplied : Query → List Piece
  | .select query => query.supplied
  | .insert query => query.supplied
  | .update query => query.supplied
  | .delete query => query.supplied

/-- The bound values of a statement, in the order of its clauses. -/
def Query.boundValues (query : Query) : List Value :=
  Piece.values query.supplied

/-! ### The pieces of a statement -/

open Piece

@[simp] theorem supplied_label (label : Option String) :
    supplied (Piece.label label) = suppliedLabel label := by
  cases label <;> rfl

@[simp] theorem Target.supplied_tablePieces (target : Target) :
    Piece.supplied target.tablePieces = target.supplied := by
  rw [Target.tablePieces, Target.databasePieces, Target.supplied]
  cases target.database <;> rfl

@[simp] theorem Target.supplied_sourcePieces (target : Target) :
    Piece.supplied target.sourcePieces = target.supplied ++ suppliedLabel target.table.label := by
  simp [target.sourcePieces_eq]

@[simp] theorem Column.supplied_pieces (column : Column) :
    Piece.supplied column.pieces = column.supplied := by
  cases column <;> rfl

@[simp] theorem Argument.supplied_pieces (argument : Argument) :
    Piece.supplied argument.pieces = argument.supplied := by
  cases argument <;> rfl

@[simp] theorem Field.supplied_pieces (field : Field) :
    Piece.supplied field.pieces = field.supplied := by
  rw [Field.pieces, Field.supplied, supplied_append, supplied_label]
  refine congrArg (· ++ suppliedLabel field.label) ?_
  cases field.source with
  | column name => rfl
  | raw piece => rfl
  | function f => simp [FieldSource.pieces, FieldSource.supplied, Function.pieces, List.flatMap_map]

@[simp] theorem Field.supplied_listPieces (fields : List Field) :
    Piece.supplied (Field.listPieces fields) = fields.flatMap Field.supplied := by
  rw [Field.listPieces]
  cases fields with
  | nil => rfl
  | cons field fields => simp [List.flatMap_map]

@[simp] theorem NewValue.supplied_pieces (value : NewValue) :
    Piece.supplied value.pieces = value.supplied := by
  cases value <;> rfl

@[simp] theorem supplied_leftPieces (column : Column) (operator : Operator) :
    supplied (leftPieces column operator) = column.supplied := by
  simp [leftPieces]

@[simp] theorem supplied_comparisonPieces (left : Column) (operator : Operator) (right : Column) :
    supplied (comparisonPieces left operator right) = left.supplied ++ right.supplied := by
  simp [comparisonPieces]

@[simp] theorem supplied_wherePieces (conditions : List Piece) :
    supplied (wherePieces conditions) = supplied conditions := by
  cases conditions <;> rfl

theorem Clause.supplied_connect (parts : List (Connective × List Piece)) :
    Piece.supplied (connect parts) = parts.flatMap fun part => Piece.supplied part.2 := by
  cases parts with
  | nil => rfl
  | cons first rest =>
    rw [connect, supplied_append, supplied_flatMap]
    rfl

namespace Select

@[simp] theorem supplied_alonePieces (d : Dialect) (query : Select)
    (joins conditions : List Piece) :
    Piece.supplied (query.alonePieces d joins conditions) =
      query.fields.flatMap Field.supplied ++ query.target.supplied
        ++ suppliedLabel query.target.table.label ++ Piece.supplied joins
        ++ Piece.supplied conditions ++ query.groups.flatMap Column.supplied
        ++ query.orders.flatMap fun order => order.1.supplied := by
  have groups : Piece.supplied query.groupPieces = query.groups.flatMap Column.supplied := by
    rw [groupPieces]
    cases query.groups with
    | nil => rfl
    | cons column columns => simp [Column.listPieces, List.flatMap_map]
  have orders : Piece.supplied query.orderPieces
      = query.orders.flatMap fun order => order.1.supplied := by
    rw [orderPieces]
    cases query.orders with
    | nil => rfl
    | cons order orders => simp [orderEntry, List.flatMap_map]
  simp [alonePieces, corePieces, tailPieces, groups, orders]

end Select

theorem Piece.supplied_listPieces {d : Dialect} {column : Column} {operator : Operator}
    {list : List Value} {ps : List Piece} (h : listPieces d column operator list = .ok ps) :
    supplied ps = (Operand.list list).supplied column operator := by
  have items : supplied (Piece.tuple list) = list.map .value := by
    rw [Piece.tuple, supplied_enclose, supplied_items (fun _ => rfl)]
  rw [listPieces] at h
  rw [Operand.supplied]
  split at h
  · rename_i takesList
    rw [if_pos takesList]
    split at h
    · rename_i empty
      cases h
      rw [if_pos empty]
      rfl
    · rename_i some
      cases h
      rw [if_neg some, supplied_append, supplied_leftPieces, items]
  · rename_i single
    rw [if_neg single]
    split at h
    · cases h
      simp
    · cases h

variable {d : Dialect}

mutual

theorem Select.supplied_pieces : ∀ (query : Select) {ps : List Piece},
    query.pieces d = .ok ps → Piece.supplied ps = query.supplied
  | ⟨target, fields, distinct, orders, groups, joins, unions, clauses, limit, offset, forwardKey,
      groupResults, error⟩, ps, h => by
    obtain ⟨joined, parts, head, members, hjoined, hparts, hmembers, hhead, rfl⟩ :=
      Select.pieces_eq_ok h
    have joined := Join.supplied_listPieces joins hjoined
    have parts := Clause.supplied_parts clauses hparts
    have members := UnionMember.supplied_listPieces unions hmembers
    -- parentheses around the head supply nothing
    rcases hhead with rfl | rfl <;>
      simp only [supplied_append, supplied_enclose, Select.supplied_alonePieces, joined, parts,
        members] <;> rfl

theorem Join.supplied_listPieces : ∀ (joins : List Join) {ps : List Piece},
    Join.listPieces d joins = .ok ps → Piece.supplied ps = Join.suppliedAll joins
  | [], ps, h => by
    cases h
    rfl
  | join :: joins, ps, h => by
    obtain ⟨first, hfirst, h⟩ := bind_eq_ok_iff.mp h
    obtain ⟨rest, hrest, h⟩ := bind_eq_ok_iff.mp h
    cases h
    rw [supplied_append, Join.supplied_pieces join hfirst, Join.supplied_listPieces joins hrest]
    rfl

theorem Join.supplied_pieces : ∀ (join : Join) {ps : List Piece},
    join.pieces d = .ok ps → Piece.supplied ps = join.supplied
  | ⟨kind, source, on⟩, ps, h => by
    obtain ⟨joined, hjoined, h⟩ := bind_eq_ok_iff.mp h
    have source := JoinSource.supplied_pieces source hjoined
    rw [Join.supplied]
    by_cases cross : kind = .cross
    · simp only [if_pos cross] at h ⊢
      cases h
      rw [supplied_text, source, List.append_nil]
    · simp only [if_neg cross] at h ⊢
      obtain ⟨conditions, hon, h⟩ := bind_eq_ok_iff.mp h
      cases h
      rw [List.cons_append, supplied_text, supplied_append, source,
        JoinCondition.supplied_pieces on hon]

theorem JoinSource.supplied_pieces : ∀ (source : JoinSource) {ps : List Piece},
    source.pieces d = .ok ps → Piece.supplied ps = source.supplied
  | .table t, ps, h => by
    cases h
    simp [TableName.pieces, JoinSource.supplied]
  | .select query label, ps, h => by
    obtain ⟨inner, hinner, h⟩ := bind_eq_ok_iff.mp h
    cases h
    rw [supplied_append, supplied_enclose, Select.supplied_pieces query hinner]
    rfl

theorem JoinCondition.supplied_pieces {kind : JoinKind} : ∀ (on : JoinCondition)
    {ps : List Piece}, on.pieces d kind = .ok ps → Piece.supplied ps = on.supplied
  | .columns left operator right, ps, h => by
    cases h
    simp [JoinCondition.supplied]
  | .clauses list, ps, h => by
    obtain ⟨parts, hparts, h⟩ := bind_eq_ok_iff.mp h
    rw [onPieces] at h
    split at h
    · cases h
    · cases h
      rw [supplied_text, Clause.supplied_parts list hparts]
      rfl

theorem Clause.supplied_parts : ∀ (clauses : List Clause)
    {parts : List (Connective × List Piece)}, Clause.parts d clauses = .ok parts →
      Piece.supplied (Clause.connect parts) = Clause.suppliedAll clauses
  | [], parts, h => by
    cases h
    rfl
  | ⟨connective, predicate⟩ :: clauses, parts, h => by
    obtain ⟨part, hpart, h⟩ := bind_eq_ok_iff.mp h
    obtain ⟨rest, hrest, h⟩ := bind_eq_ok_iff.mp h
    cases h
    rw [Clause.suppliedAll, ← Predicate.supplied_pieces predicate hpart,
      ← Clause.supplied_parts clauses hrest, Clause.supplied_connect, Clause.supplied_connect]
    split
    · rename_i silent
      rw [List.isEmpty_iff.mp silent]
      rfl
    · rfl

theorem Predicate.supplied_pieces : ∀ (predicate : Predicate) {ps : List Piece},
    predicate.pieces d = .ok ps → Piece.supplied ps = predicate.supplied
  | .compare column operator operand, ps, h => Operand.supplied_pieces column operator operand h
  | .columns left operator right, ps, h => by
    cases h
    simp [Predicate.supplied]
  | .exists negated query, ps, h => by
    obtain ⟨inner, hinner, h⟩ := bind_eq_ok_iff.mp h
    cases h
    rw [supplied_text, supplied_enclose, Select.supplied_pieces query hinner]
    rfl
  | .group clauses, ps, h => by
    obtain ⟨parts, hparts, h⟩ := bind_eq_ok_iff.mp h
    cases h
    rw [Predicate.supplied, ← Clause.supplied_parts clauses hparts]
    split
    · rename_i silent
      rw [List.isEmpty_iff.mp silent]
      rfl
    · rw [supplied_enclose]

theorem Operand.supplied_pieces (column : Column) (operator : Operator) :
    ∀ (operand : Operand) {ps : List Piece}, operand.pieces d column operator = .ok ps →
      Piece.supplied ps = operand.supplied column operator
  | .value v, ps, h => by
    cases h
    rw [valuePieces]
    split <;> simp [Operand.supplied]
  | .list list, ps, h => Piece.supplied_listPieces h
  | .raw piece, ps, h => by
    cases h
    simp [Operand.supplied]
  | .select query, ps, h => by
    obtain ⟨inner, hinner, h⟩ := bind_eq_ok_iff.mp h
    cases h
    rw [supplied_append, supplied_leftPieces, supplied_enclose,
      Select.supplied_pieces query hinner]
    rfl

theorem UnionMember.supplied_listPieces : ∀ (members : List UnionMember) {ps : List Piece},
    UnionMember.listPieces d members = .ok ps →
      Piece.supplied ps = UnionMember.suppliedAll members
  | [], ps, h => by
    cases h
    rfl
  | ⟨kind, query⟩ :: members, ps, h => by
    obtain ⟨first, hfirst, h⟩ := bind_eq_ok_iff.mp h
    obtain ⟨rest, hrest, h⟩ := bind_eq_ok_iff.mp h
    cases h
    obtain ⟨inner, hinner, hfirst⟩ := bind_eq_ok_iff.mp hfirst
    obtain ⟨member, hmember, hfirst⟩ := bind_eq_ok_iff.mp hfirst
    cases hfirst
    rw [UnionMember.suppliedAll, supplied_append, supplied_text,
      ← UnionMember.supplied_listPieces members hrest, ← Select.supplied_pieces query hinner]
    rcases Select.memberPieces_eq_ok hmember with rfl | rfl
    · rfl
    · rw [supplied_enclose]

end

theorem Insert.supplied_pieces (query : Insert) {ps : List Piece}
    (h : query.pieces d = .ok ps) : Piece.supplied ps = query.supplied := by
  obtain ⟨_, -, h⟩ := bind_eq_ok_iff.mp h
  split at h
  · cases h
  · cases h
    simp [headPieces, Piece.names, rowPieces, Insert.supplied, List.flatMap_map,
      supplied_items (f := Piece.name) (fun _ => rfl)]

theorem Update.supplied_pieces (query : Update) {ps : List Piece}
    (h : query.pieces d = .ok ps) : Piece.supplied ps = query.supplied := by
  obtain ⟨_, -, h⟩ := bind_eq_ok_iff.mp h
  split at h
  · cases h
  · obtain ⟨parts, hparts, h⟩ := bind_eq_ok_iff.mp h
    cases h
    simp [setPieces, Update.supplied, List.flatMap_map, Clause.supplied_parts _ hparts]

theorem Delete.supplied_pieces (query : Delete) {ps : List Piece}
    (h : query.pieces d = .ok ps) : Piece.supplied ps = query.supplied := by
  obtain ⟨_, -, h⟩ := bind_eq_ok_iff.mp h
  obtain ⟨parts, hparts, h⟩ := bind_eq_ok_iff.mp h
  cases h
  simp [Delete.supplied, Clause.supplied_parts _ hparts]

/-- **The pieces of a statement are what the caller supplied**, in the order of the clauses,
with texts of the grammar between them. -/
theorem Query.supplied_pieces (query : Query) {ps : List Piece}
    (h : query.pieces d = .ok ps) : Piece.supplied ps = query.supplied := by
  cases query with
  | select query => exact query.supplied_pieces h
  | insert query => exact query.supplied_pieces h
  | update query => exact query.supplied_pieces h
  | delete query => exact query.supplied_pieces h

/-! ### Fragments -/

/-- A fragment of a statement in one dialect: a literal text, or a bound value. -/
inductive Fragment where
  | literal (text : String)
  | bound (value : Value)

namespace Fragment

/-- The text of fragments when `bound` values are bound before them: every bound value is
written as the placeholder of its number. -/
def render (d : Dialect) (bound : Nat) : List Fragment → String
  | [] => ""
  | .literal s :: fragments => s ++ render d bound fragments
  | .bound _ :: fragments => d.placeholder (bound + 1) ++ render d (bound + 1) fragments

/-- The bound values among fragments. -/
def values (fragments : List Fragment) : List Value :=
  fragments.filterMap fun
    | .literal _ => none
    | .bound v => some v

/-- A piece in a dialect. -/
def ofPiece (d : Dialect) : Piece → Fragment
  | .text s => .literal s
  | .sql s => .literal s
  | .name s => .literal (d.quoteIdentifier s)
  | .value v => .bound v

theorem render_ofPieces (d : Dialect) (n : Nat) (ps : List Piece) :
    render d n (ps.map (ofPiece d)) = Piece.render d n ps := by
  induction ps generalizing n with
  | nil => rfl
  | cons p ps ih => cases p <;> simp [ofPiece, render, Piece.render, ih]

theorem values_ofPieces (d : Dialect) (ps : List Piece) :
    values (ps.map (ofPiece d)) = Piece.values ps := by
  induction ps with
  | nil => rfl
  | cons p ps ih =>
    cases p with
    | text s => exact ih
    | sql s => exact ih
    | name s => exact ih
    | value v => exact congrArg (v :: ·) ih

end Fragment

/-- **Every value is bound in its place.**  Either a statement cannot be written, whatever is
bound before it, or it is one sequence of literal texts and bound values that does not
depend on what is bound before: its text is that sequence with every value numbered on from
there, it binds the values of that sequence in order, and these are the bound values of the
statement in the order of its clauses. -/
theorem Query.write_factors (d : Dialect) (query : Query) :
    (∃ e, ∀ bound, (query.write d).run bound = .error e) ∨
    ∃ fragments : List Fragment,
      (∀ bound, (query.write d).run bound =
        .ok (Fragment.render d bound.length fragments, bound ++ Fragment.values fragments)) ∧
      Fragment.values fragments = query.boundValues := by
  have gives := query.gives_write d
  cases hps : query.pieces d with
  | error e =>
    refine Or.inl ⟨e, fun bound => ?_⟩
    rw [gives bound, hps]
    rfl
  | ok ps =>
    refine Or.inr ⟨ps.map (Fragment.ofPiece d), fun bound => ?_, ?_⟩
    · rw [gives bound, hps, Fragment.render_ofPieces, Fragment.values_ofPieces]
      rfl
    · rw [Fragment.values_ofPieces, ← values_supplied, query.supplied_pieces hps]
      rfl

end SqlBuilder
