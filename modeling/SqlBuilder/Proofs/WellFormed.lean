import SqlBuilder.Proofs.Violations

/-! # Well-formed statements

`Query.WellFormed` says, clause by clause, what a statement needs so that it can be written
in a dialect.  Some of it depends on the dialect: a list may stand under an operator that
takes none where the dialect can bind a list as one value, and the head and the members of a
union may be limited where the dialect has parentheses for them.  Nothing is asked of the
condition of a join with every row, which is not written.

A statement is well formed exactly when nothing is wrong with it (`Query.wellFormed_iff`),
and so exactly when it can be written.
-/
namespace SqlBuilder

/-! ### Well-formedness -/

/-- Nothing went wrong in building a statement, and its table has a name. -/
def Target.Ready (target : Target) (error : Option Error) : Prop :=
  error = none ∧ Text.trim target.table.name.toList ≠ []

mutual

/-- A select that can be written. -/
def Select.WellFormed (d : Dialect) : Select → Prop
  | ⟨target, fields, distinct, orders, groups, joins, unions, clauses, limit, offset,
      forwardKey, groupResults, error⟩ =>
    let query : Select := ⟨target, fields, distinct, orders, groups, joins, unions, clauses,
      limit, offset, forwardKey, groupResults, error⟩
    target.Ready error ∧ Join.AllWellFormed d joins ∧ Clause.AllWellFormed d clauses
      ∧ UnionMember.AllWellFormed d unions
      ∧ (unions ≠ [] → d.parenthesizesMembers = false →
        query.isLimited = false ∧ ∀ member ∈ unions, member.query.isLimited = false)

def Join.AllWellFormed (d : Dialect) : List Join → Prop
  | [] => True
  | join :: joins => join.WellFormed d ∧ Join.AllWellFormed d joins

/-- A join with every row is on nothing, so only what it joins matters. -/
def Join.WellFormed (d : Dialect) : Join → Prop
  | ⟨kind, source, on⟩ => source.WellFormed d ∧ (kind ≠ .cross → on.WellFormed d)

def JoinSource.WellFormed (d : Dialect) : JoinSource → Prop
  | .table _ => True
  | .select query _ => query.WellFormed d

/-- Clauses that a join is on hold a comparison at some depth. -/
def JoinCondition.WellFormed (d : Dialect) : JoinCondition → Prop
  | .columns .. => True
  | .clauses list => Clause.AllWellFormed d list ∧ Clause.anyLeaf list

def Clause.AllWellFormed (d : Dialect) : List Clause → Prop
  | [] => True
  | ⟨_, predicate⟩ :: clauses => predicate.WellFormed d ∧ Clause.AllWellFormed d clauses

def Predicate.WellFormed (d : Dialect) : Predicate → Prop
  | .compare _ operator operand => operand.WellFormed d operator
  | .columns .. => True
  | .exists _ query => query.WellFormed d
  | .group clauses => Clause.AllWellFormed d clauses

/-- A list needs an operator that takes it, or a dialect that binds it as one value. -/
def Operand.WellFormed (d : Dialect) (operator : Operator) : Operand → Prop
  | .value _ => True
  | .list _ => operator.isList ∨ d.bindsLists
  | .raw _ => True
  | .select query => query.WellFormed d

def UnionMember.AllWellFormed (d : Dialect) : List UnionMember → Prop
  | [] => True
  | ⟨_, query⟩ :: members => query.WellFormed d ∧ UnionMember.AllWellFormed d members

end

/-- A statement that can be written. -/
def Query.WellFormed (d : Dialect) : Query → Prop
  | .select query => query.WellFormed d
  | .insert query => query.target.Ready query.error ∧ query.rows ≠ []
  | .update query =>
    query.target.Ready query.error ∧ query.sets ≠ [] ∧ Clause.AllWellFormed d query.clauses
  | .delete query => query.target.Ready query.error ∧ Clause.AllWellFormed d query.clauses

/-! ### Nothing wrong -/

theorem Target.ready_iff (target : Target) (error : Option Error) :
    target.Ready error ↔ target.violations error = [] := by
  simp [Target.Ready, Target.violations]

variable {d : Dialect}

theorem Select.placeViolations_eq_nil_iff (query : Select) :
    query.placeViolations d = [] ↔ d.parenthesizesMembers = false → query.isLimited = false := by
  rw [Select.placeViolations]
  cases query.isLimited <;> cases d.parenthesizesMembers <;> simp

mutual

theorem Select.wellFormed_iff : ∀ query : Select, query.WellFormed d ↔ query.violations d = []
  | ⟨target, fields, distinct, orders, groups, joins, unions, clauses, limit, offset, forwardKey,
      groupResults, error⟩ => by
    rw [Select.violations_eq, Select.WellFormed]
    simp only [List.append_eq_nil_iff, ← Target.ready_iff, ← Join.allWellFormed_iff joins,
      ← Clause.allWellFormed_iff clauses, UnionMember.allViolations_eq_nil_iff unions]
    -- a select of its own has no place to be wrong in
    by_cases single : unions = []
    · subst single
      simp [UnionMember.AllWellFormed, and_assoc]
    · simp only [List.isEmpty_iff, if_neg single, Select.placeViolations_eq_nil_iff]
      constructor
      · rintro ⟨ready, joined, conditions, members, place⟩
        exact ⟨⟨⟨⟨ready, joined⟩, conditions⟩, fun bare => (place single bare).1⟩, members,
          fun bare => (place single bare).2⟩
      · rintro ⟨⟨⟨⟨ready, joined⟩, conditions⟩, head⟩, members, others⟩
        exact ⟨ready, joined, conditions, members, fun _ bare => ⟨head bare, others bare⟩⟩

theorem Join.allWellFormed_iff : ∀ joins : List Join,
    Join.AllWellFormed d joins ↔ Join.allViolations d joins = []
  | [] => by simp [Join.AllWellFormed, Join.allViolations]
  | join :: joins => by
    rw [Join.AllWellFormed, Join.allViolations, List.append_eq_nil_iff, join.wellFormed_iff,
      Join.allWellFormed_iff joins]

theorem Join.wellFormed_iff : ∀ join : Join, join.WellFormed d ↔ join.violations d = []
  | ⟨kind, source, on⟩ => by
    rw [Join.WellFormed, Join.violations, List.append_eq_nil_iff, source.wellFormed_iff,
      on.wellFormed_iff kind]
    by_cases cross : kind = .cross
    · simp [cross]
    · simp [cross]

theorem JoinSource.wellFormed_iff : ∀ source : JoinSource,
    source.WellFormed d ↔ source.violations d = []
  | .table _ => by simp [JoinSource.WellFormed, JoinSource.violations]
  | .select query _ => query.wellFormed_iff

theorem JoinCondition.wellFormed_iff (kind : JoinKind) : ∀ on : JoinCondition,
    on.WellFormed d ↔ on.violations d kind = []
  | .columns .. => by simp [JoinCondition.WellFormed, JoinCondition.violations]
  | .clauses list => by
    rw [JoinCondition.WellFormed, JoinCondition.violations, List.append_eq_nil_iff,
      Clause.allWellFormed_iff list]
    cases Clause.anyLeaf list <;> simp

theorem Clause.allWellFormed_iff : ∀ clauses : List Clause,
    Clause.AllWellFormed d clauses ↔ Clause.allViolations d clauses = []
  | [] => by simp [Clause.AllWellFormed, Clause.allViolations]
  | ⟨_, predicate⟩ :: clauses => by
    rw [Clause.AllWellFormed, Clause.allViolations, List.append_eq_nil_iff,
      predicate.wellFormed_iff, Clause.allWellFormed_iff clauses]

theorem Predicate.wellFormed_iff : ∀ predicate : Predicate,
    predicate.WellFormed d ↔ predicate.violations d = []
  | .compare _ operator operand => operand.wellFormed_iff operator
  | .columns .. => by simp [Predicate.WellFormed, Predicate.violations]
  | .exists _ query => query.wellFormed_iff
  | .group clauses => Clause.allWellFormed_iff clauses

theorem Operand.wellFormed_iff (operator : Operator) : ∀ operand : Operand,
    operand.WellFormed d operator ↔ operand.violations d operator = []
  | .value _ => by simp [Operand.WellFormed, Operand.violations]
  | .list _ => by
    rw [Operand.WellFormed, Operand.violations]
    cases operator.isList <;> cases d.bindsLists <;> simp
  | .raw _ => by simp [Operand.WellFormed, Operand.violations]
  | .select query => query.wellFormed_iff

/-- Nothing is wrong with the members of a union when each can be written, and none is
limited where it must not be. -/
theorem UnionMember.allViolations_eq_nil_iff : ∀ members : List UnionMember,
    UnionMember.allViolations d members = [] ↔ UnionMember.AllWellFormed d members
      ∧ (d.parenthesizesMembers = false → ∀ member ∈ members, member.query.isLimited = false)
  | [] => by simp [UnionMember.AllWellFormed, UnionMember.allViolations]
  | ⟨kind, query⟩ :: members => by
    rw [UnionMember.AllWellFormed, UnionMember.allViolations, List.append_eq_nil_iff,
      List.append_eq_nil_iff, ← query.wellFormed_iff, Select.placeViolations_eq_nil_iff,
      UnionMember.allViolations_eq_nil_iff members]
    simp only [List.forall_mem_cons]
    constructor
    · rintro ⟨⟨first, place⟩, rest, places⟩
      exact ⟨⟨first, rest⟩, fun bare => ⟨place bare, places bare⟩⟩
    · rintro ⟨⟨first, rest⟩, places⟩
      exact ⟨⟨first, fun bare => (places bare).1⟩, rest, fun bare => (places bare).2⟩

end

/-- A statement is well formed exactly when nothing is wrong with it. -/
theorem Query.wellFormed_iff : ∀ query : Query, query.WellFormed d ↔ query.violations d = []
  | .select query => query.wellFormed_iff
  | .insert query => by
    simp [Query.WellFormed, Query.violations, Target.ready_iff]
  | .update query => by
    simp [Query.WellFormed, Query.violations, Target.ready_iff, Clause.allWellFormed_iff]
  | .delete query => by
    simp [Query.WellFormed, Query.violations, Target.ready_iff, Clause.allWellFormed_iff]

/-- **What decides whether a statement can be written.**  There is a text with its values
exactly when the statement is well formed, and an error is always the first thing that is
wrong with the statement in the order in which it is gone through. -/
theorem Query.compile_outcome (d : Dialect) (query : Query) :
    ((∃ prepared, query.compile d = .ok prepared) ↔ query.WellFormed d) ∧
      ∀ e, query.compile d = .error e ↔ (query.violations d).head? = some e := by
  refine ⟨?_, query.reports_compile⟩
  rw [query.wellFormed_iff]
  exact query.reports_compile.isOk_iff

end SqlBuilder
