import SqlBuilder.Proofs.Rewrite
import SqlBuilder.Proofs.Violations

/-! # The text does not depend on the values

A value is bound, never written.  So two statements that differ only in their values, at any
depth, are sent to the database as the same text with as many values, or are refused with the
same error.  `Query.withoutValues` puts the null value in the place of every value of a
statement, and two statements differ only in their values when this makes them the same.

What is wrong with a statement depends on no value (`Query.violations_rewrite`), and the pieces
of a statement follow every replacement of its values (`Query.carries_pieces`).  Together these
give the outcome of a statement up to its values from the statement without them
(`Query.compile_withoutValues`).
-/
namespace SqlBuilder

/-! ### Violations and rewritings -/

/-- A rewriting under which blank names of tables stay blank, and no others become so. -/
def Rewriting.KeepsBlanks (r : Rewriting) : Prop :=
  ∀ name, Text.trim (r.name name).toList = [] ↔ Text.trim name.toList = []

theorem Rewriting.KeepsBlanks.keepsTables {r : Rewriting} (keeps : r.KeepsBlanks) :
    r.KeepsTables :=
  fun name => mt (keeps name).mp

mutual

theorem Predicate.hasLeaf_rewrite (r : Rewriting) : ∀ predicate : Predicate,
    (predicate.rewrite r).hasLeaf = predicate.hasLeaf
  | .compare .. | .columns .. | .exists .. => rfl
  | .group clauses => Clause.anyLeaf_rewriteAll r clauses

theorem Clause.anyLeaf_rewriteAll (r : Rewriting) : ∀ clauses : List Clause,
    Clause.anyLeaf (Clause.rewriteAll r clauses) = Clause.anyLeaf clauses
  | [] => rfl
  | ⟨_, predicate⟩ :: clauses => by
    rw [Clause.rewriteAll, Clause.anyLeaf, Clause.anyLeaf, Predicate.hasLeaf_rewrite r predicate,
      Clause.anyLeaf_rewriteAll r clauses]

end

variable {r : Rewriting} {d : Dialect}

theorem Target.violations_rewrite (keeps : r.KeepsBlanks) (target : Target)
    (error : Option Error) : (target.rewrite r).violations error = target.violations error := by
  simp only [Target.violations, Target.rewrite, TableName.rewrite, keeps target.table.name]

theorem Select.placeViolations_rewrite (query : Select) :
    (query.rewrite r).placeViolations d = query.placeViolations d := by
  rw [Select.placeViolations, Select.placeViolations, Select.isLimited_rewrite]

mutual

theorem Select.violations_rewrite (keeps : r.KeepsBlanks) : ∀ query : Select,
    (query.rewrite r).violations d = query.violations d
  | ⟨target, fields, distinct, orders, groups, joins, unions, clauses, limit, offset, forwardKey,
      groupResults, error⟩ => by
    have place := Select.placeViolations_rewrite (r := r) (d := d)
      ⟨target, fields, distinct, orders, groups, joins, unions, clauses, limit, offset, forwardKey,
        groupResults, error⟩
    rw [Select.violations_eq, Select.violations_eq, Select.isEmpty_unions_rewrite, place,
      Select.rewrite]
    simp only [target.violations_rewrite keeps, Join.allViolations_rewrite keeps joins,
      Clause.allViolations_rewrite keeps clauses, UnionMember.allViolations_rewrite keeps unions]

theorem Join.allViolations_rewrite (keeps : r.KeepsBlanks) : ∀ joins : List Join,
    Join.allViolations d (Join.rewriteAll r joins) = Join.allViolations d joins
  | [] => rfl
  | join :: joins => by
    rw [Join.rewriteAll, Join.allViolations, Join.allViolations, Join.violations_rewrite keeps join,
      Join.allViolations_rewrite keeps joins]

theorem Join.violations_rewrite (keeps : r.KeepsBlanks) : ∀ join : Join,
    (join.rewrite r).violations d = join.violations d
  | ⟨kind, source, on⟩ => by
    rw [Join.rewrite, Join.violations, Join.violations, JoinSource.violations_rewrite keeps source,
      JoinCondition.violations_rewrite keeps kind on]

theorem JoinSource.violations_rewrite (keeps : r.KeepsBlanks) : ∀ source : JoinSource,
    (source.rewrite r).violations d = source.violations d
  | .table _ => rfl
  | .select query _ => Select.violations_rewrite keeps query

theorem JoinCondition.violations_rewrite (keeps : r.KeepsBlanks) (kind : JoinKind) :
    ∀ on : JoinCondition, (on.rewrite r).violations d kind = on.violations d kind
  | .columns .. => rfl
  | .clauses list => by
    rw [JoinCondition.rewrite, JoinCondition.violations, JoinCondition.violations,
      Clause.allViolations_rewrite keeps list, Clause.anyLeaf_rewriteAll]

theorem Clause.allViolations_rewrite (keeps : r.KeepsBlanks) : ∀ clauses : List Clause,
    Clause.allViolations d (Clause.rewriteAll r clauses) = Clause.allViolations d clauses
  | [] => rfl
  | ⟨_, predicate⟩ :: clauses => by
    rw [Clause.rewriteAll, Clause.allViolations, Clause.allViolations,
      Predicate.violations_rewrite keeps predicate, Clause.allViolations_rewrite keeps clauses]

theorem Predicate.violations_rewrite (keeps : r.KeepsBlanks) : ∀ predicate : Predicate,
    (predicate.rewrite r).violations d = predicate.violations d
  | .compare _ operator operand => Operand.violations_rewrite keeps operator operand
  | .columns .. => rfl
  | .exists _ query => Select.violations_rewrite keeps query
  | .group clauses => Clause.allViolations_rewrite keeps clauses

theorem Operand.violations_rewrite (keeps : r.KeepsBlanks) (operator : Operator) :
    ∀ operand : Operand, (operand.rewrite r).violations d operator = operand.violations d operator
  | .value _ | .list _ | .raw _ => rfl
  | .select query => Select.violations_rewrite keeps query

theorem UnionMember.allViolations_rewrite (keeps : r.KeepsBlanks) :
    ∀ members : List UnionMember,
    UnionMember.allViolations d (UnionMember.rewriteAll r members)
      = UnionMember.allViolations d members
  | [] => rfl
  | ⟨_, query⟩ :: members => by
    rw [UnionMember.rewriteAll, UnionMember.allViolations, UnionMember.allViolations,
      Select.violations_rewrite keeps query, Select.placeViolations_rewrite,
      UnionMember.allViolations_rewrite keeps members]

end

/-- **What is wrong with a statement** depends on its identifiers only through blank tables, and
on its values not at all. -/
theorem Query.violations_rewrite (keeps : r.KeepsBlanks) (query : Query) :
    (query.rewrite r).violations d = query.violations d := by
  cases query with
  | select query => exact query.violations_rewrite keeps
  | insert query =>
    simp [Query.rewrite, Query.violations, Insert.rewrite, query.target.violations_rewrite keeps]
  | update query =>
    simp [Query.rewrite, Query.violations, Update.rewrite, query.target.violations_rewrite keeps,
      Clause.allViolations_rewrite keeps]
  | delete query =>
    simp [Query.rewrite, Query.violations, Delete.rewrite, query.target.violations_rewrite keeps,
      Clause.allViolations_rewrite keeps]

/-! ### Texts and numbers of values -/

namespace Piece

/-- The text of pieces depends on their outline only. -/
theorem render_outline (d : Dialect) (n : Nat) (ps : List Piece) :
    render d n (ps.map (outline id)) = render d n ps := by
  induction ps generalizing n with
  | nil => rfl
  | cons p ps ih => cases p <;> simp [outline, render, ih]

/-- So does the number of their values. -/
theorem length_values_outline (ps : List Piece) :
    (values (ps.map (outline id))).length = (values ps).length := by
  induction ps with
  | nil => rfl
  | cons p ps ih => cases p <;> simp [outline, values, ih]

end Piece

/-! ### Statements without values -/

/-- Null in the place of every value. -/
def Rewriting.erasure : Rewriting :=
  ⟨id, fun _ => .null⟩

/-- The statement with null in the place of every value, at any depth. -/
def Query.withoutValues (query : Query) : Query :=
  query.rewrite .erasure

/-- What is left of a statement when its values are forgotten: its text, and how many values
there are. -/
def Prepared.form (p : Prepared) : String × Nat :=
  (p.sql, p.bindings.length)

theorem Rewriting.erasure_keepsBlanks : Rewriting.erasure.KeepsBlanks :=
  fun _ => Iff.rfl

/-- Pieces that follow when values are erased have the same text and as many values. -/
theorem Piece.Follows.form_eq {ps ps' : List Piece} (h : Follows .erasure ps ps') (d : Dialect) :
    Prepared.form ⟨render d 0 ps', values ps'⟩ = Prepared.form ⟨render d 0 ps, values ps⟩ := by
  have same : ps'.map (outline id) = ps.map (outline id) := h
  have text : render d 0 ps' = render d 0 ps := by
    rw [← render_outline, same, render_outline]
  have count : (values ps').length = (values ps).length := by
    rw [← length_values_outline, same, length_values_outline]
  rw [Prepared.form, Prepared.form, text, count]

/-- A statement without its values has the same outcome, up to the values. -/
theorem Query.compile_withoutValues (d : Dialect) (query : Query) :
    (query.withoutValues.compile d).map Prepared.form = (query.compile d).map Prepared.form := by
  have wrong : query.withoutValues.violations d = query.violations d :=
    query.violations_rewrite Rewriting.erasure_keepsBlanks
  cases outcome : query.compile d with
  | error e =>
    have first := (query.reports_compile e).mp outcome
    rw [← wrong] at first
    rw [(query.withoutValues.reports_compile e).mpr first]
  | ok p =>
    obtain ⟨ps, hps, rfl⟩ := Query.compile_eq_ok_iff.mp outcome
    obtain ⟨ps', hps', follows⟩ :=
      query.carries_pieces Rewriting.erasure_keepsBlanks.keepsTables ps hps
    rw [Query.withoutValues, Query.compile_eq, hps']
    exact congrArg Except.ok (follows.form_eq d)

/-- **No value reaches the text of a statement.**  Two statements that differ only in their
values, at any depth, are both refused with the same error, or both written with the same text
and as many values. -/
theorem Query.compile_values_irrelevant (d : Dialect) {query query' : Query}
    (same : query.withoutValues = query'.withoutValues) :
    (query.compile d).map Prepared.form = (query'.compile d).map Prepared.form := by
  rw [← query.compile_withoutValues, same, query'.compile_withoutValues]

/-- A list and a select inside a select, with values that look like the end of a text and like a
list. -/
theorem Query.compile_values_irrelevant_nested :
    let users : Target := ⟨none, ⟨"u", none⟩, .postgres, {}⟩
    let inner (v : Value) : Select :=
      { Select.all users with clauses := [⟨.and, .compare (.name "a") .eq (.value v)⟩] }
    let query (v w : Value) : Query := .select { Select.all users with
      clauses := [⟨.and, .compare (.name "c") .isIn (.list [v, w])⟩, ⟨.or, .exists true (inner w)⟩] }
    (query (.text "'; --") (.array [.null])).withoutValues = (query .null .null).withoutValues ∧
      ((query (.text "'; --") (.array [.null])).compile .postgres).map Prepared.form
        = .ok ("SELECT * FROM \"u\" WHERE \"c\" IN ($1, $2)" ++
            " OR NOT EXISTS (SELECT * FROM \"u\" WHERE \"a\" = $3)", 3) := by
  intro users inner query
  have same : (query (.text "'; --") (.array [.null])).withoutValues
      = (query .null .null).withoutValues := by
    simp only [query, inner, users]
    rfl
  refine ⟨same, ?_⟩
  rw [Query.compile_values_irrelevant .postgres same]
  simp only [query, inner, users]
  rfl

end SqlBuilder
