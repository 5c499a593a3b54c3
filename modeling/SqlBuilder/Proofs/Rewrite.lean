import SqlBuilder.Proofs.Pieces

/-! # Statements with other identifiers and values

A `Rewriting` replaces every identifier and every bound value of a statement, at any depth,
and leaves everything else as it is: the pieces of SQL, the operators, the structure, and how
many values there are.

**The pieces of a statement follow a rewriting** (`Query.carries_pieces`): the rewritten
statement can be written too, and its pieces are the same texts and the same pieces of SQL,
with the new identifiers in the places of the old ones and some value in the place of every
value.  Whether a statement can be written depends on one identifier only, the name of its
table, which must not become blank.
-/
namespace SqlBuilder

/-- What replaces the identifiers and the values of a statement. -/
structure Rewriting where
  name : String → String
  value : Value → Value

/-! ### Rewriting statements -/

def TableName.rewrite (r : Rewriting) (table : TableName) : TableName :=
  ⟨r.name table.name, table.label.map r.name⟩

def Target.rewrite (r : Rewriting) (target : Target) : Target :=
  { target with database := target.database.map r.name, table := target.table.rewrite r }

def Column.rewrite (r : Rewriting) : Column → Column
  | .name text => .name (r.name text)
  | .raw piece => .raw piece

def Argument.rewrite (r : Rewriting) : Argument → Argument
  | .column name => .column (r.name name)
  | .raw piece => .raw piece
  | .value v => .value (r.value v)

/-- The name of a function is no identifier. -/
def Function.rewrite (r : Rewriting) (function : Function) : Function :=
  ⟨function.name, function.arguments.map (Argument.rewrite r)⟩

def FieldSource.rewrite (r : Rewriting) : FieldSource → FieldSource
  | .column name => .column (r.name name)
  | .raw piece => .raw piece
  | .function f => .function (f.rewrite r)

def Field.rewrite (r : Rewriting) (field : Field) : Field :=
  ⟨field.source.rewrite r, field.label.map r.name⟩

def NewValue.rewrite (r : Rewriting) : NewValue → NewValue
  | .value v => .value (r.value v)
  | .raw piece => .raw piece

mutual

def Select.rewrite (r : Rewriting) : Select → Select
  | ⟨target, fields, distinct, orders, groups, joins, unions, clauses, limit, offset,
      forwardKey, groupResults, error⟩ =>
    ⟨target.rewrite r, fields.map (Field.rewrite r), distinct,
      orders.map fun order => (order.1.rewrite r, order.2), groups.map (Column.rewrite r),
      Join.rewriteAll r joins, UnionMember.rewriteAll r unions, Clause.rewriteAll r clauses,
      limit, offset, forwardKey, groupResults, error⟩

def Join.rewriteAll (r : Rewriting) : List Join → List Join
  | [] => []
  | join :: joins => join.rewrite r :: Join.rewriteAll r joins

def Join.rewrite (r : Rewriting) : Join → Join
  | ⟨kind, source, on⟩ => ⟨kind, source.rewrite r, on.rewrite r⟩

def JoinSource.rewrite (r : Rewriting) : JoinSource → JoinSource
  | .table t => .table (t.rewrite r)
  | .select query label => .select (query.rewrite r) (r.name label)

def JoinCondition.rewrite (r : Rewriting) : JoinCondition → JoinCondition
  | .columns left operator right => .columns (left.rewrite r) operator (right.rewrite r)
  | .clauses list => .clauses (Clause.rewriteAll r list)

def Clause.rewriteAll (r : Rewriting) : List Clause → List Clause
  | [] => []
  | ⟨connective, predicate⟩ :: clauses =>
    ⟨connective, predicate.rewrite r⟩ :: Clause.rewriteAll r clauses

def Predicate.rewrite (r : Rewriting) : Predicate → Predicate
  | .compare column operator operand =>
    .compare (column.rewrite r) operator (operand.rewrite r)
  | .columns left operator right => .columns (left.rewrite r) operator (right.rewrite r)
  | .exists negated query => .exists negated (query.rewrite r)
  | .group clauses => .group (Clause.rewriteAll r clauses)

def Operand.rewrite (r : Rewriting) : Operand → Operand
  | .value v => .value (r.value v)
  | .list values => .list (values.map r.value)
  | .raw piece => .raw piece
  | .select query => .select (query.rewrite r)

def UnionMember.rewriteAll (r : Rewriting) : List UnionMember → List UnionMember
  | [] => []
  | ⟨kind, query⟩ :: members => ⟨kind, query.rewrite r⟩ :: UnionMember.rewriteAll r members

end

def Insert.rewrite (r : Rewriting) (query : Insert) : Insert :=
  { query with
    target := query.target.rewrite r
    columns := query.columns.map r.name
    rows := query.rows.map fun row => row.map (NewValue.rewrite r) }

def Update.rewrite (r : Rewriting) (query : Update) : Update :=
  { query with
    target := query.target.rewrite r
    sets := query.sets.map fun entry => (r.name entry.1, entry.2.rewrite r)
    clauses := Clause.rewriteAll r query.clauses }

def Delete.rewrite (r : Rewriting) (query : Delete) : Delete :=
  { query with
    target := query.target.rewrite r
    clauses := Clause.rewriteAll r query.clauses }

/-- The statement with its identifiers and values replaced. -/
def Query.rewrite (r : Rewriting) : Query → Query
  | .select query => .select (query.rewrite r)
  | .insert query => .insert (query.rewrite r)
  | .update query => .update (query.rewrite r)
  | .delete query => .delete (query.rewrite r)

/-! ### Pieces that follow a rewriting -/

namespace Piece

/-- A piece with an identifier replaced and its value forgotten. -/
def outline (f : String → String) : Piece → Piece
  | .text s => .text s
  | .sql s => .sql s
  | .name s => .name (f s)
  | .value _ => .value .null

/-- The same pieces, with other identifiers as a rewriting says and any values. -/
def Follows (r : Rewriting) (before after : List Piece) : Prop :=
  after.map (outline id) = before.map (outline r.name)

variable {r : Rewriting} {before after before' after' : List Piece}

@[simp] theorem follows_nil : Follows r [] [] := rfl

theorem Follows.append (h : Follows r before after) (h' : Follows r before' after') :
    Follows r (before ++ before') (after ++ after') := by
  rw [Follows, List.map_append, List.map_append, h, h']

theorem Follows.text (h : Follows r before after) (s : String) :
    Follows r (.text s :: before) (.text s :: after) :=
  congrArg (Piece.text s :: ·) h

theorem Follows.sql (h : Follows r before after) (s : String) :
    Follows r (.sql s :: before) (.sql s :: after) :=
  congrArg (Piece.sql s :: ·) h

theorem Follows.name (h : Follows r before after) (s : String) :
    Follows r (.name s :: before) (.name (r.name s) :: after) :=
  congrArg (Piece.name (r.name s) :: ·) h

theorem Follows.value (h : Follows r before after) (v v' : Value) :
    Follows r (.value v :: before) (.value v' :: after) :=
  congrArg (Piece.value .null :: ·) h

theorem Follows.enclose (h : Follows r before after) :
    Follows r (enclose before) (enclose after) :=
  (h.append (follows_nil.text ")")).text "("

theorem Follows.isEmpty (h : Follows r before after) : after.isEmpty = before.isEmpty := by
  have same := congrArg List.isEmpty h
  rwa [List.isEmpty_map, List.isEmpty_map] at same

theorem follows_separate {α : Type} {f g : α → List Piece} (h : ∀ a, Follows r (f a) (g a))
    (between : String) (list : List α) :
    Follows r (separate between (list.map f)) (separate between (list.map g)) := by
  induction list with
  | nil => exact follows_nil
  | cons a list ih =>
    cases list with
    | nil => simpa [separate] using h a
    | cons next list =>
      simp only [List.map_cons, separate_cons_cons] at ih ⊢
      exact (h a).append (ih.text between)

theorem follows_label (r : Rewriting) (label : Option String) :
    Follows r (Piece.label label) (Piece.label (label.map r.name)) := by
  cases label with
  | none => exact follows_nil
  | some name => exact (follows_nil.name name).text " AS "

end Piece

open Piece

/-! ### Names, columns and fields -/

section
variable (r : Rewriting)

theorem TableName.follows_pieces (table : TableName) :
    Follows r table.pieces (table.rewrite r).pieces :=
  (follows_label r table.label).name table.name

theorem Target.follows_databasePieces (target : Target) :
    Follows r target.databasePieces (target.rewrite r).databasePieces := by
  rw [databasePieces, databasePieces, rewrite]
  cases target.database with
  | none => exact follows_nil
  | some database => exact (follows_nil.text ".").name database

theorem Target.follows_tablePieces (target : Target) :
    Follows r target.tablePieces (target.rewrite r).tablePieces :=
  (target.follows_databasePieces r).append (follows_nil.name target.table.name)

theorem Target.follows_sourcePieces (target : Target) :
    Follows r target.sourcePieces (target.rewrite r).sourcePieces :=
  (target.follows_databasePieces r).append (target.table.follows_pieces r)

theorem Column.follows_pieces (column : Column) :
    Follows r column.pieces (column.rewrite r).pieces := by
  cases column with
  | name text => exact follows_nil.name text
  | raw piece => exact follows_nil.sql piece.sql

theorem Column.follows_listPieces (columns : List Column) :
    Follows r (Column.listPieces columns) (Column.listPieces (columns.map (Column.rewrite r))) := by
  rw [Column.listPieces, Column.listPieces, List.map_map]
  exact follows_separate (fun column => column.follows_pieces r) ", " columns

theorem Argument.follows_pieces (argument : Argument) :
    Follows r argument.pieces (argument.rewrite r).pieces := by
  cases argument with
  | column name => exact follows_nil.name name
  | raw piece => exact follows_nil.sql piece.sql
  | value v => exact follows_nil.value v _

theorem FieldSource.follows_pieces (source : FieldSource) :
    Follows r source.pieces (source.rewrite r).pieces := by
  cases source with
  | column name => exact follows_nil.name name
  | raw piece => exact follows_nil.sql piece.sql
  | function f =>
    have arguments := follows_separate (fun argument => Argument.follows_pieces r argument) ", "
      f.arguments
    rw [FieldSource.rewrite, FieldSource.pieces, FieldSource.pieces, Function.pieces,
      Function.pieces, Function.rewrite, List.map_map]
    exact arguments.enclose.sql f.capitals

theorem Field.follows_pieces (field : Field) :
    Follows r field.pieces (field.rewrite r).pieces :=
  (field.source.follows_pieces r).append (follows_label r field.label)

theorem Field.follows_listPieces (fields : List Field) :
    Follows r (Field.listPieces fields) (Field.listPieces (fields.map (Field.rewrite r))) := by
  rw [Field.listPieces, Field.listPieces, List.isEmpty_map, List.map_map]
  split
  · exact follows_nil.text "*"
  · exact follows_separate (fun field => field.follows_pieces r) ", " fields

theorem NewValue.follows_pieces (value : NewValue) :
    Follows r value.pieces (value.rewrite r).pieces := by
  cases value with
  | value v => exact follows_nil.value v _
  | raw piece => exact follows_nil.sql piece.sql

theorem follows_names (identifiers : List String) :
    Follows r (Piece.names identifiers) (Piece.names (identifiers.map r.name)) := by
  rw [Piece.names, Piece.names, List.map_map]
  exact follows_separate (fun identifier => follows_nil.name identifier) ", " identifiers

/-! ### Conditions -/

theorem follows_leftPieces (column : Column) (operator : Operator) :
    Follows r (leftPieces column operator) (leftPieces (column.rewrite r) operator) :=
  (column.follows_pieces r).append (follows_nil.text _)

theorem follows_comparisonPieces (left : Column) (operator : Operator) (right : Column) :
    Follows r (comparisonPieces left operator right)
      (comparisonPieces (left.rewrite r) operator (right.rewrite r)) :=
  (follows_leftPieces r left operator).append (right.follows_pieces r)

theorem follows_tuple (values : List Value) :
    Follows r (Piece.tuple values) (Piece.tuple (values.map r.value)) := by
  rw [Piece.tuple, Piece.tuple, List.map_map]
  exact (follows_separate (fun v => follows_nil.value v _) ", " values).enclose

theorem follows_valuePieces (column : Column) (operator : Operator) (v : Value) :
    Follows r (valuePieces column operator v)
      (valuePieces (column.rewrite r) operator (r.value v)) := by
  have single := (follows_nil (r := r)).value v (r.value v)
  refine (follows_leftPieces r column operator).append ?_
  split
  · exact single.enclose
  · exact single

end

variable {r : Rewriting}

theorem follows_wherePieces {before after : List Piece} (h : Follows r before after) :
    Follows r (wherePieces before) (wherePieces after) := by
  rw [wherePieces, wherePieces, h.isEmpty]
  split
  · exact follows_nil
  · exact h.text " WHERE "

namespace Clause

/-- The same clauses with pieces that follow a rewriting. -/
inductive PartsFollow (r : Rewriting) :
    List (Connective × List Piece) → List (Connective × List Piece) → Prop where
  | nil : PartsFollow r [] []
  | cons (connective : Connective) {before after : List Piece}
      {parts parts' : List (Connective × List Piece)} : Follows r before after →
      PartsFollow r parts parts' →
      PartsFollow r ((connective, before) :: parts) ((connective, after) :: parts')

variable {before after : List (Connective × List Piece)}

theorem PartsFollow.isEmpty (h : PartsFollow r before after) : after.isEmpty = before.isEmpty := by
  cases h <;> rfl

theorem PartsFollow.tied (h : PartsFollow r before after) :
    Follows r (before.flatMap Clause.tied) (after.flatMap Clause.tied) := by
  induction h with
  | nil => exact follows_nil
  | cons connective first _ ih => exact (first.append ih).text _

theorem PartsFollow.connect (h : PartsFollow r before after) :
    Follows r (Clause.connect before) (Clause.connect after) := by
  cases h with
  | nil => exact follows_nil
  | cons connective first rest => exact first.append rest.tied

end Clause

/-! ### The parts of a select -/

namespace Select

@[simp] theorem isLimited_rewrite (query : Select) :
    (query.rewrite r).isLimited = query.isLimited := by
  cases query
  simp [Select.rewrite, isLimited]

@[simp] theorem isEmpty_unions_rewrite (query : Select) :
    (query.rewrite r).unions.isEmpty = query.unions.isEmpty := by
  rcases query with ⟨_, _, _, _, _, _, _ | ⟨⟨kind, member⟩, members⟩⟩ <;> rfl

theorem follows_groupPieces (r : Rewriting) (query : Select) :
    Follows r query.groupPieces (query.rewrite r).groupPieces := by
  cases query
  simp only [Select.rewrite, groupPieces, List.isEmpty_map]
  split
  · exact follows_nil
  · exact (Column.follows_listPieces r _).text " GROUP BY "

theorem follows_orderPieces (r : Rewriting) (query : Select) :
    Follows r query.orderPieces (query.rewrite r).orderPieces := by
  cases query
  simp only [Select.rewrite, orderPieces, List.isEmpty_map, List.map_map]
  split
  · exact follows_nil
  · refine (follows_separate (fun order => ?_) ", " _).text " ORDER BY "
    exact (order.1.follows_pieces r).append (follows_nil.text _)

theorem follows_alonePieces (d : Dialect) (query : Select) {joined joined' : List Piece}
    (hjoined : Follows r joined joined') {conditions conditions' : List Piece}
    (hconditions : Follows r conditions conditions') :
    Follows r (query.alonePieces d joined conditions)
      ((query.rewrite r).alonePieces d joined' conditions') := by
  have groups := query.follows_groupPieces r
  have orders := query.follows_orderPieces r
  cases query with
  | mk target fields distinct =>
    have fields := (Field.follows_listPieces r fields).text
      (if distinct then "SELECT DISTINCT " else "SELECT ")
    have source := (target.follows_sourcePieces r).text " FROM "
    have core := (((fields.append source).append hjoined).append
      (follows_wherePieces hconditions)).append groups
    exact core.append (orders.append (follows_nil.text _))

end Select

/-! ### Outcomes that follow a rewriting -/

/-- Where the first outcome has a result, the second has one that is related to it. -/
def Carries {α : Type} (R : α → α → Prop) (before after : Except Error α) : Prop :=
  ∀ a, before = .ok a → ∃ a', after = .ok a' ∧ R a a'

section
variable {α β : Type} {R : α → α → Prop} {S : β → β → Prop}

theorem carries_ok {a a' : α} (h : R a a') : Carries R (.ok a) (.ok a') := by
  rintro b ⟨⟩
  exact ⟨a', rfl, h⟩

theorem carries_error (e : Error) (after : Except Error α) : Carries R (.error e) after := by
  rintro b ⟨⟩

theorem Carries.bind {before after : Except Error α} (h : Carries R before after)
    {next next' : α → Except Error β} (hnext : ∀ a a', R a a' → Carries S (next a) (next' a')) :
    Carries S (before >>= next) (after >>= next') := by
  intro b hb
  obtain ⟨a, ha, hb⟩ := bind_eq_ok_iff.mp hb
  obtain ⟨a', ha', related⟩ := h a ha
  obtain ⟨b', hb', result⟩ := hnext a a' related b hb
  exact ⟨b', bind_eq_ok_iff.mpr ⟨a', ha', hb'⟩, result⟩

end

/-- A rewriting under which no table loses its name. -/
def Rewriting.KeepsTables (r : Rewriting) : Prop :=
  ∀ name, Text.trim name.toList ≠ [] → Text.trim (r.name name).toList ≠ []

theorem carries_checkTarget (keeps : r.KeepsTables) (target : Target) (error : Option Error) :
    Carries (fun _ _ => True) (checkTarget target error)
      (checkTarget (target.rewrite r) error) := by
  cases error with
  | some e => exact carries_error e _
  | none =>
    intro _ h
    refine ⟨(), ?_, trivial⟩
    by_cases blank : Text.trim target.table.name.toList = []
    · simp [checkTarget, Target.hasTable, blank] at h
    · have kept := keeps _ blank
      simp [checkTarget, Target.hasTable, Target.rewrite, TableName.rewrite, kept]

variable {d : Dialect}

theorem carries_memberPieces (limited compound : Bool) {ps ps' : List Piece}
    (h : Follows r ps ps') :
    Carries (Follows r) (Select.memberPieces d limited compound ps)
      (Select.memberPieces d limited compound ps') := by
  rw [Select.memberPieces, Select.memberPieces]
  split
  · exact carries_ok h
  · split
    · exact carries_ok h.enclose
    · split
      · exact carries_error _ _
      · exact carries_ok h

theorem carries_listPieces (column : Column) (operator : Operator) (list : List Value) :
    Carries (Follows r) (listPieces d column operator list)
      (listPieces d (column.rewrite r) operator (list.map r.value)) := by
  have left := follows_leftPieces r column operator
  rw [listPieces, listPieces, List.isEmpty_map]
  split
  · split
    · exact carries_ok (follows_nil.text _)
    · exact carries_ok (left.append (follows_tuple r list))
  · split
    · exact carries_ok (left.append (follows_nil.value _ _))
    · exact carries_error _ _

theorem carries_onPieces (kind : JoinKind) {ps ps' : List Piece} (h : Follows r ps ps') :
    Carries (Follows r) (onPieces kind ps) (onPieces kind ps') := by
  rw [onPieces, onPieces, h.isEmpty]
  split
  · exact carries_error _ _
  · exact carries_ok (h.text " ON ")

/-! ### Statements -/

mutual

theorem Select.carries_pieces (keeps : r.KeepsTables) : ∀ query : Select,
    Carries (Follows r) (query.pieces d) ((query.rewrite r).pieces d)
  | ⟨target, fields, distinct, orders, groups, joins, unions, clauses, limit, offset, forwardKey,
      groupResults, error⟩ => by
    rw [Select.pieces_eq, Select.pieces_eq]
    refine (carries_checkTarget keeps target error).bind fun _ _ _ => ?_
    refine (Join.carries_listPieces keeps joins).bind fun joined joined' hjoined => ?_
    refine (Clause.carries_parts keeps clauses).bind fun parts parts' hparts => ?_
    have alone := Select.follows_alonePieces d
      ⟨target, fields, distinct, orders, groups, joins, unions, clauses, limit, offset, forwardKey,
        groupResults, error⟩ hjoined hparts.connect
    -- whether the head needs parentheses depends on no identifier
    simp only [Select.isLimited_rewrite, Select.isEmpty_unions_rewrite]
    split
    · exact carries_ok alone
    · refine (carries_memberPieces _ false alone).bind fun head head' hhead => ?_
      refine (UnionMember.carries_listPieces keeps unions).bind fun members members' hmembers => ?_
      exact carries_ok (hhead.append hmembers)

theorem Join.carries_listPieces (keeps : r.KeepsTables) : ∀ joins : List Join,
    Carries (Follows r) (Join.listPieces d joins) (Join.listPieces d (Join.rewriteAll r joins))
  | [] => carries_ok follows_nil
  | join :: joins =>
    (Join.carries_pieces keeps join).bind fun _ _ first =>
      (Join.carries_listPieces keeps joins).bind fun _ _ rest => carries_ok (first.append rest)

theorem Join.carries_pieces (keeps : r.KeepsTables) : ∀ join : Join,
    Carries (Follows r) (join.pieces d) ((join.rewrite r).pieces d)
  | ⟨kind, source, on⟩ => by
    refine (JoinSource.carries_pieces keeps source).bind fun joined joined' hjoined => ?_
    split
    · exact carries_ok (hjoined.text _)
    · exact (JoinCondition.carries_pieces keeps kind on).bind fun _ _ conditions =>
        carries_ok ((hjoined.text _).append conditions)

theorem JoinSource.carries_pieces (keeps : r.KeepsTables) : ∀ source : JoinSource,
    Carries (Follows r) (source.pieces d) ((source.rewrite r).pieces d)
  | .table t => carries_ok (t.follows_pieces r)
  | .select query label =>
    (Select.carries_pieces keeps query).bind fun _ _ inner =>
      carries_ok (inner.enclose.append (follows_label r (some label)))

theorem JoinCondition.carries_pieces (keeps : r.KeepsTables) (kind : JoinKind) :
    ∀ on : JoinCondition, Carries (Follows r) (on.pieces d kind) ((on.rewrite r).pieces d kind)
  | .columns left operator right =>
    carries_ok ((follows_comparisonPieces r left operator right).text " ON ")
  | .clauses list =>
    (Clause.carries_parts keeps list).bind fun _ _ parts => carries_onPieces kind parts.connect

theorem Clause.carries_parts (keeps : r.KeepsTables) : ∀ clauses : List Clause,
    Carries (Clause.PartsFollow r) (Clause.parts d clauses)
      (Clause.parts d (Clause.rewriteAll r clauses))
  | [] => carries_ok .nil
  | ⟨connective, predicate⟩ :: clauses => by
    refine (Predicate.carries_pieces keeps predicate).bind fun part part' hpart => ?_
    refine (Clause.carries_parts keeps clauses).bind fun parts parts' hparts => ?_
    -- a condition that says nothing still says nothing
    rw [hpart.isEmpty]
    split
    · exact carries_ok hparts
    · exact carries_ok (hparts.cons connective hpart)

theorem Predicate.carries_pieces (keeps : r.KeepsTables) : ∀ predicate : Predicate,
    Carries (Follows r) (predicate.pieces d) ((predicate.rewrite r).pieces d)
  | .compare column operator operand => Operand.carries_pieces keeps column operator operand
  | .columns left operator right => carries_ok (follows_comparisonPieces r left operator right)
  | .exists _ query =>
    (Select.carries_pieces keeps query).bind fun _ _ inner => carries_ok (inner.enclose.text _)
  | .group clauses => by
    refine (Clause.carries_parts keeps clauses).bind fun parts parts' hparts => ?_
    rw [hparts.isEmpty]
    split
    · exact carries_ok follows_nil
    · exact carries_ok hparts.connect.enclose

theorem Operand.carries_pieces (keeps : r.KeepsTables) (column : Column) (operator : Operator) :
    ∀ operand : Operand, Carries (Follows r) (operand.pieces d column operator)
      ((operand.rewrite r).pieces d (column.rewrite r) operator)
  | .value v => carries_ok (follows_valuePieces r column operator v)
  | .list list => carries_listPieces column operator list
  | .raw piece =>
    carries_ok ((follows_leftPieces r column operator).append (follows_nil.sql piece.sql))
  | .select query =>
    (Select.carries_pieces keeps query).bind fun _ _ inner =>
      carries_ok ((follows_leftPieces r column operator).append inner.enclose)

theorem UnionMember.carries_listPieces (keeps : r.KeepsTables) : ∀ members : List UnionMember,
    Carries (Follows r) (UnionMember.listPieces d members)
      (UnionMember.listPieces d (UnionMember.rewriteAll r members))
  | [] => carries_ok follows_nil
  | ⟨kind, query⟩ :: members => by
    refine Carries.bind (R := Follows r) ?_ fun first first' hfirst =>
      (UnionMember.carries_listPieces keeps members).bind fun _ _ rest =>
        carries_ok (hfirst.append rest)
    refine (Select.carries_pieces keeps query).bind fun inner inner' hinner => ?_
    rw [Select.isLimited_rewrite, Select.isEmpty_unions_rewrite]
    exact (carries_memberPieces _ _ hinner).bind fun _ _ member => carries_ok (member.text _)

end

theorem Insert.follows_rowPieces (row : List NewValue) :
    Follows r (rowPieces row) (rowPieces (row.map (NewValue.rewrite r))) := by
  rw [rowPieces, rowPieces, List.map_map]
  exact (follows_separate (fun value => value.follows_pieces r) ", " row).enclose

theorem Insert.follows_headPieces (d : Dialect) (query : Insert) :
    Follows r (query.headPieces d) ((query.rewrite r).headPieces d) :=
  ((((query.target.follows_tablePieces r).text " ").text _).append
    ((follows_names r query.columns).text " (")).append (follows_nil.text ") VALUES ")

theorem Insert.carries_pieces (keeps : r.KeepsTables) (query : Insert) :
    Carries (Follows r) (query.pieces d) ((query.rewrite r).pieces d) := by
  refine (carries_checkTarget keeps query.target query.error).bind fun _ _ _ => ?_
  have rows := follows_separate (fun row => Insert.follows_rowPieces (r := r) row) ", " query.rows
  simp only [Insert.rewrite, List.isEmpty_map, List.map_map]
  split
  · exact carries_error _ _
  · exact carries_ok (((query.follows_headPieces d).append rows).append (follows_nil.text _))

theorem Update.follows_setPieces (entry : String × NewValue) :
    Follows r (setPieces entry) (setPieces (r.name entry.1, entry.2.rewrite r)) :=
  ((entry.2.follows_pieces r).text " = ").name entry.1

theorem Update.carries_pieces (keeps : r.KeepsTables) (query : Update) :
    Carries (Follows r) (query.pieces d) ((query.rewrite r).pieces d) := by
  refine (carries_checkTarget keeps query.target query.error).bind fun _ _ _ => ?_
  have source := (query.target.follows_tablePieces r).text "UPDATE "
  have sets := (follows_separate (fun entry => Update.follows_setPieces (r := r) entry) ", "
    query.sets).text " SET "
  simp only [Update.rewrite, List.isEmpty_map, List.map_map]
  split
  · exact carries_error _ _
  · refine (Clause.carries_parts keeps query.clauses).bind fun parts parts' hparts => ?_
    exact carries_ok ((source.append sets).append (follows_wherePieces hparts.connect))

theorem Delete.carries_pieces (keeps : r.KeepsTables) (query : Delete) :
    Carries (Follows r) (query.pieces d) ((query.rewrite r).pieces d) := by
  refine (carries_checkTarget keeps query.target query.error).bind fun _ _ _ => ?_
  refine (Clause.carries_parts keeps query.clauses).bind fun parts parts' hparts => ?_
  exact carries_ok (((query.target.follows_tablePieces r).text "DELETE FROM ").append
    (follows_wherePieces hparts.connect))

/-- **The pieces of a statement follow a rewriting** under which no table loses its name. -/
theorem Query.carries_pieces (keeps : r.KeepsTables) : ∀ query : Query,
    Carries (Follows r) (query.pieces d) ((query.rewrite r).pieces d)
  | .select query => query.carries_pieces keeps
  | .insert query => query.carries_pieces keeps
  | .update query => query.carries_pieces keeps
  | .delete query => query.carries_pieces keeps

end SqlBuilder
