import SqlBuilder.Proofs.Violations

/-! # Groups that say nothing

A group without a comparison at any depth leaves no trace in a statement.  `Clause.prune`
takes such groups out of a tree of conditions and leaves the comparisons as they are, and
`Query.strip` takes them out of a whole statement: out of its conditions, of what its joins
are on, and of every select in it, however deep.

Such a group has no pieces, and a clause without pieces is passed over.  So a statement that is
stripped is written as it was before (`Query.write_strip`).  A statement whose conditions hold no
comparison is written as the one without conditions (`Query.write_unfiltered`).  `Clause.Padded`
puts a group in, and stripping takes it out again (`Clause.Padded.stripAll_eq`).
-/
namespace SqlBuilder

/-! ### Pruning a tree of conditions -/

mutual

/-- The condition without the groups in it that hold no comparison. -/
def Predicate.prune : Predicate → Predicate
  | .compare column operator operand => .compare column operator operand
  | .columns left operator right => .columns left operator right
  | .exists negated query => .exists negated query
  | .group clauses => .group (Clause.prune clauses)

/-- The clauses without the groups that hold no comparison, at any depth. -/
def Clause.prune : List Clause → List Clause
  | [] => []
  | ⟨connective, predicate⟩ :: clauses =>
    if predicate.hasLeaf then ⟨connective, predicate.prune⟩ :: Clause.prune clauses
    else Clause.prune clauses

end

/-- One list of clauses is another one with a group put in that holds no comparison, on the
same level or inside a group. -/
inductive Clause.Padded : List Clause → List Clause → Prop where
  | here (before after : List Clause) (connective : Connective) (group : List Clause) :
      Clause.anyLeaf group = false →
      Padded (before ++ after) (before ++ ⟨connective, .group group⟩ :: after)
  | inside (before after : List Clause) (connective : Connective) {group padded : List Clause} :
      Padded group padded →
      Padded (before ++ ⟨connective, .group group⟩ :: after)
        (before ++ ⟨connective, .group padded⟩ :: after)

/-! ### Stripping a statement -/

mutual

/-- The select without groups that hold no comparison, wherever they are. -/
def Select.strip : Select → Select
  | ⟨target, fields, distinct, orders, groups, joins, unions, clauses, limit, offset,
      forwardKey, groupResults, error⟩ =>
    ⟨target, fields, distinct, orders, groups, Join.stripAll joins, UnionMember.stripAll unions,
      Clause.stripAll clauses, limit, offset, forwardKey, groupResults, error⟩

def Join.stripAll : List Join → List Join
  | [] => []
  | join :: joins => join.strip :: Join.stripAll joins

def Join.strip : Join → Join
  | ⟨kind, source, on⟩ => ⟨kind, source.strip, on.strip⟩

def JoinSource.strip : JoinSource → JoinSource
  | .table t => .table t
  | .select query label => .select query.strip label

def JoinCondition.strip : JoinCondition → JoinCondition
  | .columns left operator right => .columns left operator right
  | .clauses list => .clauses (Clause.stripAll list)

def Clause.stripAll : List Clause → List Clause
  | [] => []
  | ⟨connective, predicate⟩ :: clauses =>
    if predicate.hasLeaf then ⟨connective, predicate.strip⟩ :: Clause.stripAll clauses
    else Clause.stripAll clauses

/-- The condition without such groups, in the selects that it holds too. -/
def Predicate.strip : Predicate → Predicate
  | .compare column operator operand => .compare column operator operand.strip
  | .columns left operator right => .columns left operator right
  | .exists negated query => .exists negated query.strip
  | .group clauses => .group (Clause.stripAll clauses)

def Operand.strip : Operand → Operand
  | .value v => .value v
  | .list values => .list values
  | .raw piece => .raw piece
  | .select query => .select query.strip

def UnionMember.stripAll : List UnionMember → List UnionMember
  | [] => []
  | ⟨kind, query⟩ :: members => ⟨kind, query.strip⟩ :: UnionMember.stripAll members

end

/-- The statement without groups that hold no comparison, wherever they are. -/
def Query.strip : Query → Query
  | .select query => .select query.strip
  | .insert query => .insert query
  | .update query => .update { query with clauses := Clause.stripAll query.clauses }
  | .delete query => .delete { query with clauses := Clause.stripAll query.clauses }

/-! ### Clauses that are kept and clauses that are not -/

namespace Clause

theorem prune_cons_of_leaf (connective : Connective) {predicate : Predicate}
    (h : predicate.hasLeaf = true) (clauses : List Clause) :
    prune (⟨connective, predicate⟩ :: clauses)
      = ⟨connective, predicate.prune⟩ :: prune clauses := by
  rw [prune, if_pos h]

theorem prune_cons_of_leafless (connective : Connective) {predicate : Predicate}
    (h : predicate.hasLeaf = false) (clauses : List Clause) :
    prune (⟨connective, predicate⟩ :: clauses) = prune clauses := by
  rw [prune, h, if_neg Bool.false_ne_true]

/-- Nothing is left of a tree exactly when it holds no comparison. -/
theorem prune_eq_nil_iff (clauses : List Clause) :
    prune clauses = [] ↔ anyLeaf clauses = false := by
  induction clauses with
  | nil => simp [prune, anyLeaf]
  | cons clause clauses ih =>
    obtain ⟨connective, predicate⟩ := clause
    by_cases leaf : predicate.hasLeaf = true
    · rw [prune_cons_of_leaf connective leaf, anyLeaf, leaf]
      simp
    · have leafless := Bool.eq_false_iff.mpr leaf
      rw [prune_cons_of_leafless connective leafless, ih, anyLeaf, leafless, Bool.false_or]

theorem stripAll_cons_of_leaf (connective : Connective) {predicate : Predicate}
    (h : predicate.hasLeaf = true) (clauses : List Clause) :
    stripAll (⟨connective, predicate⟩ :: clauses)
      = ⟨connective, predicate.strip⟩ :: stripAll clauses := by
  rw [stripAll, if_pos h]

theorem stripAll_cons_of_leafless (connective : Connective) {predicate : Predicate}
    (h : predicate.hasLeaf = false) (clauses : List Clause) :
    stripAll (⟨connective, predicate⟩ :: clauses) = stripAll clauses := by
  rw [stripAll, h, if_neg Bool.false_ne_true]

end Clause

/-! ### What holds no comparison has no pieces -/

variable (d : Dialect)

mutual

/-- A group without comparisons has no pieces, and nothing can be wrong with it. -/
theorem Predicate.pieces_of_leafless : ∀ {predicate : Predicate}, predicate.hasLeaf = false →
    predicate.pieces d = .ok []
  | .compare .., h => by cases h
  | .columns .., h => by cases h
  | .exists .., h => by cases h
  | .group clauses, h => by
    rw [Predicate.pieces, Clause.parts_of_leafless h]
    rfl

theorem Clause.parts_of_leafless : ∀ {clauses : List Clause}, Clause.anyLeaf clauses = false →
    Clause.parts d clauses = .ok []
  | [], _ => rfl
  | ⟨_, predicate⟩ :: clauses, h => by
    obtain ⟨first, rest⟩ := Bool.or_eq_false_iff.mp h
    rw [Clause.parts, Predicate.pieces_of_leafless first, Clause.parts_of_leafless rest]
    rfl

end

/-- A clause without comparisons is passed over. -/
theorem Clause.parts_cons_of_leafless {connective : Connective} {predicate : Predicate}
    (h : predicate.hasLeaf = false) (clauses : List Clause) :
    Clause.parts d (⟨connective, predicate⟩ :: clauses) = Clause.parts d clauses := by
  rw [Clause.parts, Predicate.pieces_of_leafless d h]
  show (Clause.parts d clauses >>= fun parts => Except.ok parts) = _
  cases Clause.parts d clauses <;> rfl

/-! ### Stripping keeps the pieces -/

theorem UnionMember.isEmpty_stripAll (members : List UnionMember) :
    (UnionMember.stripAll members).isEmpty = members.isEmpty := by
  cases members with
  | nil => rw [UnionMember.stripAll]
  | cons member members =>
    obtain ⟨kind, query⟩ := member
    rw [UnionMember.stripAll]
    rfl

theorem Select.unions_strip (query : Select) :
    query.strip.unions = UnionMember.stripAll query.unions := by
  cases query
  rw [Select.strip]

theorem Select.isLimited_strip (query : Select) : query.strip.isLimited = query.isLimited := by
  cases query
  rw [Select.strip]
  rfl

mutual

theorem Select.pieces_strip : ∀ query : Select, query.strip.pieces d = query.pieces d
  | ⟨target, fields, distinct, orders, groups, joins, unions, clauses, limit, offset, forwardKey,
      groupResults, error⟩ => by
    rw [Select.strip, Select.pieces, Select.pieces, Join.listPieces_strip joins,
      Clause.parts_strip clauses, UnionMember.listPieces_strip unions,
      UnionMember.isEmpty_stripAll unions]
    rfl

theorem Join.listPieces_strip : ∀ joins : List Join,
    Join.listPieces d (Join.stripAll joins) = Join.listPieces d joins
  | [] => by rw [Join.stripAll]
  | join :: joins => by
    rw [Join.stripAll, Join.listPieces, Join.listPieces, join.pieces_strip,
      Join.listPieces_strip joins]

theorem Join.pieces_strip : ∀ join : Join, join.strip.pieces d = join.pieces d
  | ⟨kind, source, on⟩ => by
    rw [Join.strip, Join.pieces, Join.pieces, source.pieces_strip, on.pieces_strip kind]

theorem JoinSource.pieces_strip : ∀ source : JoinSource,
    source.strip.pieces d = source.pieces d
  | .table _ => by rw [JoinSource.strip]
  | .select query _ => by
    rw [JoinSource.strip, JoinSource.pieces, JoinSource.pieces, query.pieces_strip]

theorem JoinCondition.pieces_strip (kind : JoinKind) : ∀ on : JoinCondition,
    on.strip.pieces d kind = on.pieces d kind
  | .columns .. => by rw [JoinCondition.strip]
  | .clauses list => by
    rw [JoinCondition.strip, JoinCondition.pieces, JoinCondition.pieces, Clause.parts_strip list]

theorem Clause.parts_strip : ∀ clauses : List Clause,
    Clause.parts d (Clause.stripAll clauses) = Clause.parts d clauses
  | [] => by rw [Clause.stripAll]
  | ⟨connective, predicate⟩ :: clauses => by
    by_cases leaf : predicate.hasLeaf = true
    · rw [Clause.stripAll_cons_of_leaf connective leaf, Clause.parts, Clause.parts,
        predicate.pieces_strip, Clause.parts_strip clauses]
    · have leafless := Bool.eq_false_iff.mpr leaf
      rw [Clause.stripAll_cons_of_leafless connective leafless, Clause.parts_strip clauses,
        Clause.parts_cons_of_leafless d leafless]

theorem Predicate.pieces_strip : ∀ predicate : Predicate,
    predicate.strip.pieces d = predicate.pieces d
  | .compare column operator operand => by
    rw [Predicate.strip, Predicate.pieces, Predicate.pieces, operand.pieces_strip column operator]
  | .columns .. => by rw [Predicate.strip]
  | .exists _ query => by
    rw [Predicate.strip, Predicate.pieces, Predicate.pieces, query.pieces_strip]
  | .group clauses => by
    rw [Predicate.strip, Predicate.pieces, Predicate.pieces, Clause.parts_strip clauses]

theorem Operand.pieces_strip (column : Column) (operator : Operator) : ∀ operand : Operand,
    operand.strip.pieces d column operator = operand.pieces d column operator
  | .value _ | .list _ | .raw _ => by rw [Operand.strip]
  | .select query => by
    rw [Operand.strip, Operand.pieces, Operand.pieces, query.pieces_strip]

theorem UnionMember.listPieces_strip : ∀ members : List UnionMember,
    UnionMember.listPieces d (UnionMember.stripAll members) = UnionMember.listPieces d members
  | [] => by rw [UnionMember.stripAll]
  | ⟨kind, query⟩ :: members => by
    rw [UnionMember.stripAll, UnionMember.listPieces, UnionMember.listPieces, UnionMember.pieces,
      UnionMember.pieces, query.pieces_strip, query.isLimited_strip, query.unions_strip,
      UnionMember.isEmpty_stripAll, UnionMember.listPieces_strip members]

end

theorem Query.pieces_strip (query : Query) : query.strip.pieces d = query.pieces d := by
  cases query with
  | select query => exact query.pieces_strip d
  | insert query => rfl
  | update query =>
    rw [Query.strip, Query.pieces, Query.pieces, Update.pieces, Update.pieces,
      Clause.parts_strip d query.clauses]
  | delete query =>
    rw [Query.strip, Query.pieces, Query.pieces, Delete.pieces, Delete.pieces,
      Clause.parts_strip d query.clauses]

/-! ### Groups that are put in -/

namespace Clause

theorem anyLeaf_append (first second : List Clause) :
    anyLeaf (first ++ second) = (anyLeaf first || anyLeaf second) := by
  induction first with
  | nil => rfl
  | cons clause first ih =>
    obtain ⟨connective, predicate⟩ := clause
    rw [List.cons_append, anyLeaf, anyLeaf, ih, Bool.or_assoc]

theorem stripAll_append (first second : List Clause) :
    stripAll (first ++ second) = stripAll first ++ stripAll second := by
  induction first with
  | nil => rw [stripAll, List.nil_append, List.nil_append]
  | cons clause first ih =>
    obtain ⟨connective, predicate⟩ := clause
    rw [List.cons_append, stripAll, stripAll, ih]
    split <;> rfl

variable {clauses padded : List Clause}

/-- A group that is put in holds no comparison. -/
theorem Padded.anyLeaf_eq (h : Padded clauses padded) : anyLeaf padded = anyLeaf clauses := by
  induction h with
  | here before after connective group leafless =>
    simp [anyLeaf_append, anyLeaf, Predicate.hasLeaf, leafless]
  | inside before after connective _ ih =>
    simp [anyLeaf_append, anyLeaf, Predicate.hasLeaf, ih]

/-- A group that is put in is taken out again. -/
theorem Padded.stripAll_eq (h : Padded clauses padded) : stripAll padded = stripAll clauses := by
  induction h with
  | here before after connective group leafless =>
    have silent : (Predicate.group group).hasLeaf = false := leafless
    rw [stripAll_append, stripAll_append, stripAll_cons_of_leafless connective silent]
  | @inside before after connective group padded inner ih =>
    have same : (Predicate.group padded).hasLeaf = (Predicate.group group).hasLeaf :=
      inner.anyLeaf_eq
    rw [stripAll_append, stripAll_append]
    by_cases leaf : (Predicate.group group).hasLeaf = true
    · rw [stripAll_cons_of_leaf connective leaf,
        stripAll_cons_of_leaf connective (same.trans leaf), Predicate.strip, Predicate.strip, ih]
    · have silent := Bool.eq_false_iff.mpr leaf
      rw [stripAll_cons_of_leafless connective silent,
        stripAll_cons_of_leafless connective (same.trans silent)]

end Clause

/-- Clauses that are stripped to the same ones are written alike. -/
theorem Clause.writeAll_eq_of_stripAll {first second : List Clause}
    (h : Clause.stripAll first = Clause.stripAll second) :
    Clause.writeAll d "" first = Clause.writeAll d "" second := by
  have same : Clause.parts d first = Clause.parts d second := by
    rw [← Clause.parts_strip d first, h, Clause.parts_strip d second]
  have written := (Clause.simulated d first).gives
  rw [same] at written
  exact Writing.Gives.unique written (Clause.simulated d second).gives

/-- **Groups that hold no comparison do not matter.**  Without them, wherever they are, a
statement has the same text and the same values, or the same mistake. -/
theorem Query.write_strip (query : Query) : query.strip.write d = query.write d := by
  have stripped := query.strip.gives_write d
  rw [query.pieces_strip d] at stripped
  exact stripped.unique (query.gives_write d)

/-! ### Conditions that say nothing -/

/-- The conditions of a statement; an insert has none. -/
def Query.clauses : Query → List Clause
  | .select query => query.clauses
  | .insert _ => []
  | .update query => query.clauses
  | .delete query => query.clauses

/-- The statement without its conditions. -/
def Query.unfiltered : Query → Query
  | .select query => .select { query with clauses := [] }
  | .insert query => .insert query
  | .update query => .update { query with clauses := [] }
  | .delete query => .delete { query with clauses := [] }

/-- Conditions without a comparison are stripped off. -/
theorem Clause.stripAll_of_leafless {clauses : List Clause} (h : Clause.anyLeaf clauses = false) :
    Clause.stripAll clauses = [] := by
  induction clauses with
  | nil => rw [stripAll]
  | cons clause clauses ih =>
    obtain ⟨connective, predicate⟩ := clause
    obtain ⟨first, rest⟩ := Bool.or_eq_false_iff.mp h
    rw [stripAll_cons_of_leafless connective first, ih rest]

/-- A statement whose conditions hold no comparison is written as the one without conditions. -/
theorem Query.write_unfiltered {query : Query} (h : Clause.anyLeaf query.clauses = false) :
    query.unfiltered.write d = query.write d := by
  have bare := Clause.stripAll_of_leafless h
  have none : Clause.stripAll [] = [] := by rw [Clause.stripAll]
  have same : query.unfiltered.strip = query.strip := by
    cases query with
    | select query =>
      cases query
      rw [Query.clauses] at bare
      rw [Query.unfiltered, Query.strip, Query.strip, Select.strip, Select.strip, bare, none]
    | insert query => rfl
    | update query =>
      rw [Query.clauses] at bare
      rw [Query.unfiltered, Query.strip, Query.strip, bare, none]
    | delete query =>
      rw [Query.clauses] at bare
      rw [Query.unfiltered, Query.strip, Query.strip, bare, none]
  rw [← query.unfiltered.write_strip, same, query.write_strip]

end SqlBuilder
