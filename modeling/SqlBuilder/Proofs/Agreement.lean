import SqlBuilder.Proofs.Supplied
import SqlBuilder.Proofs.WellFormed

/-! # What dialects agree on

A dialect may put members of a union in parentheses and may bind a list as one value.  A dialect
that can do all that another one can writes every statement that the other one writes
(`Query.WellFormed.mono`), and whatever dialects write a statement, its values are the same in the
same order, since these can be read off the statement alone (`Query.bindings_eq`).

A select inside a statement has a dialect and settings of its own, those it was made with.
They do not matter: `Query.adopt` gives the statement and all selects in it one dialect and one
configuration, and the pieces of the statement stay as they were (`Query.pieces_adopt`).  The
executor is no part of a statement: it is given when the statement is run.
-/
namespace SqlBuilder

/-! ### Dialects that can do more -/

/-- The second dialect can do what the first one can. -/
structure Dialect.Extends (d d' : Dialect) : Prop where
  parenthesizes : d.parenthesizesMembers = true → d'.parenthesizesMembers = true
  bindsLists : d.bindsLists = true → d'.bindsLists = true

theorem Dialect.sqlite_extends_mysql : Dialect.sqlite.Extends .mysql :=
  ⟨fun _ => rfl, id⟩

theorem Dialect.mysql_extends_postgres : Dialect.mysql.Extends .postgres :=
  ⟨id, fun _ => rfl⟩

section
variable {d d' : Dialect}

/-- A dialect without parentheses extends only such dialects. -/
theorem Dialect.Extends.bare (extended : d.Extends d') (bare : d'.parenthesizesMembers = false) :
    d.parenthesizesMembers = false := by
  cases parenthesizes : d.parenthesizesMembers with
  | false => rfl
  | true => rw [extended.parenthesizes parenthesizes] at bare; cases bare

mutual

theorem Select.WellFormed.mono (extended : d.Extends d') : ∀ {query : Select},
    query.WellFormed d → query.WellFormed d'
  | ⟨_, _, _, _, _, _, _, _, _, _, _, _, _⟩, ⟨ready, joins, clauses, unions, places⟩ =>
    ⟨ready, Join.AllWellFormed.mono extended joins, Clause.AllWellFormed.mono extended clauses,
      UnionMember.AllWellFormed.mono extended unions,
      fun compound bare => places compound (extended.bare bare)⟩

theorem Join.AllWellFormed.mono (extended : d.Extends d') : ∀ {joins : List Join},
    Join.AllWellFormed d joins → Join.AllWellFormed d' joins
  | [], _ => trivial
  | _ :: _, ⟨first, rest⟩ => ⟨first.mono extended, Join.AllWellFormed.mono extended rest⟩

theorem Join.WellFormed.mono (extended : d.Extends d') : ∀ {join : Join},
    join.WellFormed d → join.WellFormed d'
  | ⟨_, _, _⟩, ⟨source, on⟩ => ⟨source.mono extended, fun inner => (on inner).mono extended⟩

theorem JoinSource.WellFormed.mono (extended : d.Extends d') : ∀ {source : JoinSource},
    source.WellFormed d → source.WellFormed d'
  | .table _, _ => trivial
  | .select _ _, h => Select.WellFormed.mono extended h

theorem JoinCondition.WellFormed.mono (extended : d.Extends d') : ∀ {on : JoinCondition},
    on.WellFormed d → on.WellFormed d'
  | .columns .., _ => trivial
  | .clauses _, ⟨clauses, leaf⟩ => ⟨Clause.AllWellFormed.mono extended clauses, leaf⟩

theorem Clause.AllWellFormed.mono (extended : d.Extends d') : ∀ {clauses : List Clause},
    Clause.AllWellFormed d clauses → Clause.AllWellFormed d' clauses
  | [], _ => trivial
  | ⟨_, _⟩ :: _, ⟨first, rest⟩ => ⟨first.mono extended, Clause.AllWellFormed.mono extended rest⟩

theorem Predicate.WellFormed.mono (extended : d.Extends d') : ∀ {predicate : Predicate},
    predicate.WellFormed d → predicate.WellFormed d'
  | .compare .., h => Operand.WellFormed.mono extended h
  | .columns .., _ => trivial
  | .exists .., h => Select.WellFormed.mono extended h
  | .group _, h => Clause.AllWellFormed.mono extended h

theorem Operand.WellFormed.mono (extended : d.Extends d') {operator : Operator} :
    ∀ {operand : Operand}, operand.WellFormed d operator → operand.WellFormed d' operator
  | .value _, _ | .raw _, _ => trivial
  | .list _, h => h.imp id extended.bindsLists
  | .select _, h => Select.WellFormed.mono extended h

theorem UnionMember.AllWellFormed.mono (extended : d.Extends d') : ∀ {members : List UnionMember},
    UnionMember.AllWellFormed d members → UnionMember.AllWellFormed d' members
  | [], _ => trivial
  | ⟨_, _⟩ :: _, ⟨first, rest⟩ =>
    ⟨first.mono extended, UnionMember.AllWellFormed.mono extended rest⟩

end

/-- What is well formed for a dialect is well formed for every dialect that can do as much. -/
theorem Query.WellFormed.mono (extended : d.Extends d') : ∀ {query : Query},
    query.WellFormed d → query.WellFormed d'
  | .select _, h => Select.WellFormed.mono extended h
  | .insert _, h => h
  | .update _, ⟨ready, sets, clauses⟩ => ⟨ready, sets, Clause.AllWellFormed.mono extended clauses⟩
  | .delete _, ⟨ready, clauses⟩ => ⟨ready, Clause.AllWellFormed.mono extended clauses⟩

/-- A dialect that can do as much writes as much. -/
theorem Query.compile_mono (extended : d.Extends d') {query : Query}
    (compiled : ∃ p, query.compile d = .ok p) : ∃ p, query.compile d' = .ok p := by
  have sound : query.WellFormed d :=
    query.wellFormed_iff.mpr (query.reports_compile.isOk_iff.mp compiled)
  exact query.reports_compile.isOk_iff.mpr (query.wellFormed_iff.mp (sound.mono extended))

end

/-! ### Selects of other dialects -/

/-- The target with a dialect and settings. -/
def Target.adopt (host : Dialect) (config : Config) (target : Target) : Target :=
  { target with dialect := host, config := config }

mutual

/-- The select with one dialect and one configuration for itself and all selects in it. -/
def Select.adopt (host : Dialect) (config : Config) : Select → Select
  | ⟨target, fields, distinct, orders, groups, joins, unions, clauses, limit, offset,
      forwardKey, groupResults, error⟩ =>
    ⟨target.adopt host config, fields, distinct, orders, groups, Join.adoptAll host config joins,
      UnionMember.adoptAll host config unions, Clause.adoptAll host config clauses, limit, offset,
      forwardKey, groupResults, error⟩

def Join.adoptAll (host : Dialect) (config : Config) : List Join → List Join
  | [] => []
  | ⟨kind, source, on⟩ :: joins =>
    ⟨kind, source.adopt host config, on.adopt host config⟩ :: Join.adoptAll host config joins

def JoinSource.adopt (host : Dialect) (config : Config) : JoinSource → JoinSource
  | .table t => .table t
  | .select query label => .select (query.adopt host config) label

def JoinCondition.adopt (host : Dialect) (config : Config) : JoinCondition → JoinCondition
  | .columns left operator right => .columns left operator right
  | .clauses list => .clauses (Clause.adoptAll host config list)

def Clause.adoptAll (host : Dialect) (config : Config) : List Clause → List Clause
  | [] => []
  | ⟨connective, predicate⟩ :: clauses =>
    ⟨connective, predicate.adopt host config⟩ :: Clause.adoptAll host config clauses

def Predicate.adopt (host : Dialect) (config : Config) : Predicate → Predicate
  | .compare column operator operand => .compare column operator (operand.adopt host config)
  | .columns left operator right => .columns left operator right
  | .exists negated query => .exists negated (query.adopt host config)
  | .group clauses => .group (Clause.adoptAll host config clauses)

def Operand.adopt (host : Dialect) (config : Config) : Operand → Operand
  | .value v => .value v
  | .list values => .list values
  | .raw piece => .raw piece
  | .select query => .select (query.adopt host config)

def UnionMember.adoptAll (host : Dialect) (config : Config) : List UnionMember → List UnionMember
  | [] => []
  | ⟨kind, query⟩ :: members =>
    ⟨kind, query.adopt host config⟩ :: UnionMember.adoptAll host config members

end

/-- The statement with one dialect and one configuration for itself and all selects in it. -/
def Query.adopt (host : Dialect) (config : Config) : Query → Query
  | .select query => .select (query.adopt host config)
  | .insert query => .insert { query with target := query.target.adopt host config }
  | .update query => .update { query with
      target := query.target.adopt host config
      clauses := Clause.adoptAll host config query.clauses }
  | .delete query => .delete { query with
      target := query.target.adopt host config
      clauses := Clause.adoptAll host config query.clauses }

variable (d host : Dialect) (config : Config)

theorem UnionMember.isEmpty_adoptAll (members : List UnionMember) :
    (UnionMember.adoptAll host config members).isEmpty = members.isEmpty := by
  rcases members with _ | ⟨⟨kind, query⟩, members⟩ <;> rfl

theorem Select.unions_adopt (query : Select) :
    (query.adopt host config).unions = UnionMember.adoptAll host config query.unions := by
  cases query
  rw [Select.adopt]

theorem Select.isLimited_adopt (query : Select) :
    (query.adopt host config).isLimited = query.isLimited := by
  cases query
  rw [Select.adopt]
  rfl

mutual

theorem Select.pieces_adopt : ∀ query : Select,
    (query.adopt host config).pieces d = query.pieces d
  | ⟨target, fields, distinct, orders, groups, joins, unions, clauses, limit, offset, forwardKey,
      groupResults, error⟩ => by
    rw [Select.adopt, Select.pieces, Select.pieces, Join.listPieces_adopt joins,
      Clause.parts_adopt clauses, UnionMember.listPieces_adopt unions,
      UnionMember.isEmpty_adoptAll]
    rfl

theorem Join.listPieces_adopt : ∀ joins : List Join,
    Join.listPieces d (Join.adoptAll host config joins) = Join.listPieces d joins
  | [] => by rw [Join.adoptAll]
  | ⟨kind, source, on⟩ :: joins => by
    rw [Join.adoptAll, Join.listPieces, Join.listPieces, Join.pieces, Join.pieces,
      source.pieces_adopt, on.pieces_adopt kind, Join.listPieces_adopt joins]

theorem JoinSource.pieces_adopt : ∀ source : JoinSource,
    (source.adopt host config).pieces d = source.pieces d
  | .table _ => by rw [JoinSource.adopt]
  | .select query _ => by
    rw [JoinSource.adopt, JoinSource.pieces, JoinSource.pieces, query.pieces_adopt]

theorem JoinCondition.pieces_adopt (kind : JoinKind) : ∀ on : JoinCondition,
    (on.adopt host config).pieces d kind = on.pieces d kind
  | .columns .. => by rw [JoinCondition.adopt]
  | .clauses list => by
    rw [JoinCondition.adopt, JoinCondition.pieces, JoinCondition.pieces, Clause.parts_adopt list]

theorem Clause.parts_adopt : ∀ clauses : List Clause,
    Clause.parts d (Clause.adoptAll host config clauses) = Clause.parts d clauses
  | [] => by rw [Clause.adoptAll]
  | ⟨_, predicate⟩ :: clauses => by
    rw [Clause.adoptAll, Clause.parts, Clause.parts, predicate.pieces_adopt,
      Clause.parts_adopt clauses]

theorem Predicate.pieces_adopt : ∀ predicate : Predicate,
    (predicate.adopt host config).pieces d = predicate.pieces d
  | .compare column operator operand => by
    rw [Predicate.adopt, Predicate.pieces, Predicate.pieces, operand.pieces_adopt column operator]
  | .columns .. => by rw [Predicate.adopt]
  | .exists _ query => by
    rw [Predicate.adopt, Predicate.pieces, Predicate.pieces, query.pieces_adopt]
  | .group clauses => by
    rw [Predicate.adopt, Predicate.pieces, Predicate.pieces, Clause.parts_adopt clauses]

theorem Operand.pieces_adopt (column : Column) (operator : Operator) : ∀ operand : Operand,
    (operand.adopt host config).pieces d column operator = operand.pieces d column operator
  | .value _ | .list _ | .raw _ => by rw [Operand.adopt]
  | .select query => by
    rw [Operand.adopt, Operand.pieces, Operand.pieces, query.pieces_adopt]

theorem UnionMember.listPieces_adopt : ∀ members : List UnionMember,
    UnionMember.listPieces d (UnionMember.adoptAll host config members)
      = UnionMember.listPieces d members
  | [] => by rw [UnionMember.adoptAll]
  | ⟨kind, query⟩ :: members => by
    rw [UnionMember.adoptAll, UnionMember.listPieces, UnionMember.listPieces, UnionMember.pieces,
      UnionMember.pieces, query.pieces_adopt, query.isLimited_adopt, query.unions_adopt,
      UnionMember.isEmpty_adoptAll, UnionMember.listPieces_adopt members]

end

/-- **The pieces of a statement** do not depend on the dialects and the settings that it and the
selects in it were made with. -/
theorem Query.pieces_adopt (query : Query) :
    (query.adopt host config).pieces d = query.pieces d := by
  cases query with
  | select query => exact query.pieces_adopt d host config
  | insert query => rfl
  | update query =>
    rw [Query.adopt, Query.pieces, Query.pieces, Update.pieces, Update.pieces,
      Clause.parts_adopt d host config query.clauses]
    rfl
  | delete query =>
    rw [Query.adopt, Query.pieces, Query.pieces, Delete.pieces, Delete.pieces,
      Clause.parts_adopt d host config query.clauses]
    rfl

theorem Query.compile_adopt (query : Query) :
    (query.adopt host config).compile d = query.compile d := by
  rw [Query.compile_eq, Query.pieces_adopt, ← Query.compile_eq]

/-! ### The dialects agree -/

/-- The values of a statement that can be written are read off the statement. -/
theorem Query.bindings_eq {d : Dialect} {query : Query} {p : Prepared}
    (compiled : query.compile d = .ok p) : p.bindings = query.boundValues := by
  obtain ⟨ps, hps, rfl⟩ := Query.compile_eq_ok_iff.mp compiled
  rw [Query.boundValues, ← query.supplied_pieces hps, Piece.values_supplied]

/-- **The dialects agree.**  What can be written for SQLite can be written for MySQL, and what can
be written for MySQL can be written for PostgreSQL; any two dialects that write a statement bind
the same values in the same order; and a statement is written alike whatever the dialects and the
settings of the selects in it are. -/
theorem Query.dialects_agree (query : Query) :
    ((∃ p, query.compile .sqlite = .ok p) → ∃ p, query.compile .mysql = .ok p) ∧
      ((∃ p, query.compile .mysql = .ok p) → ∃ p, query.compile .postgres = .ok p) ∧
      (∀ (d d' : Dialect) (p p' : Prepared), query.compile d = .ok p →
        query.compile d' = .ok p' → p.bindings = p'.bindings) ∧
      ∀ (query' : Query) (host : Dialect) (config : Config),
        query'.adopt host config = query.adopt host config →
          (∀ d, query'.compile d = query.compile d) ∧
            (query'.target.dialect = query.target.dialect → query'.prepare = query.prepare) := by
  refine ⟨Query.compile_mono Dialect.sqlite_extends_mysql,
    Query.compile_mono Dialect.mysql_extends_postgres, fun d d' p p' compiled compiled' => ?_,
    fun query' host config same => ?_⟩
  · rw [Query.bindings_eq compiled, Query.bindings_eq compiled']
  · have alike : ∀ d, query'.compile d = query.compile d := fun d => by
      rw [← query'.compile_adopt d host config, same, query.compile_adopt]
    refine ⟨alike, fun outer => ?_⟩
    rw [Query.prepare, Query.prepare, outer, alike]

/-- A select for SQLite with a select for PostgreSQL or for MySQL in it. -/
theorem Query.dialects_agree_nested :
    let users (host : Dialect) : Target := ⟨none, ⟨"u", none⟩, host, {}⟩
    let inner (host : Dialect) : Select := { Select.all (users host) with
      clauses := [⟨.and, .compare (.name "a") .eq (.value (.bool true))⟩] }
    let query (host : Dialect) : Query := .select { Select.all (users .sqlite) with
      clauses := [⟨.and, .exists false (inner host)⟩] }
    let written : Prepared :=
      ⟨"SELECT * FROM \"u\" WHERE EXISTS (SELECT * FROM \"u\" WHERE \"a\" = ?)", [.bool true]⟩
    (query .mysql).compile .sqlite = .ok written ∧
      (∃ p, (query .mysql).compile .postgres = .ok p ∧ p.bindings = [.bool true]) ∧
      (query .postgres).adopt .mysql {} = (query .mysql).adopt .mysql {} ∧
      (query .postgres).prepare = .ok written := by
  intro users inner query written
  have compiled : (query .mysql).compile .sqlite = .ok written := by
    simp only [query, inner, users, written]
    rfl
  have same : (query .postgres).adopt .mysql {} = (query .mysql).adopt .mysql {} := by
    simp only [query, inner, users]
    rfl
  obtain ⟨mysql, postgres, values, hosts⟩ := (query .mysql).dialects_agree
  obtain ⟨p, hp⟩ := postgres (mysql ⟨written, compiled⟩)
  refine ⟨compiled, ⟨p, hp, values _ _ _ _ hp compiled⟩, same, ?_⟩
  rw [(hosts (query .postgres) .mysql {} same).2 rfl]
  exact compiled

end SqlBuilder
