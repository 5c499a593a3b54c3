import SqlBuilder.Proofs.Simulation

/-! # What is wrong with a statement

`Query.violations` lists *everything* that is wrong with a statement, at any depth, in the
order in which it is gone through: the mistake made in building it, a missing table, the
joins (what is joined before what it is joined on), the conditions, and the union (the head
before the other members, a member before its place in the union).  Writing the statement
fails with the first entry of this list, and succeeds when the list is empty.

`Reports` ties a computation that stops at the first mistake to such a list.  It is
compositional (`Reports.bind`): going on after a step is appending the lists.  What remains
to be seen is that a join is on nothing exactly when no comparison stands in its clauses, at
any depth (`Clause.parts_eq_nil_iff`).
-/
namespace SqlBuilder

/-! ### Reporting the first violation -/

/-- A computation that fails with the first of some violations, and succeeds when there are
none. -/
def Reports {α : Type} (outcome : Except Error α) (violations : List Error) : Prop :=
  ∀ e, outcome = .error e ↔ violations.head? = some e

section
variable {α β : Type} {outcome : Except Error α}

theorem reports_ok (a : α) : Reports (.ok a) [] := by
  intro e
  constructor <;> intro h <;> cases h

theorem reports_error (e : Error) (violations : List Error) :
    Reports (.error e : Except Error α) (e :: violations) := by
  intro e'
  constructor <;> intro h <;> cases h <;> rfl

/-- Without violations there is a result. -/
theorem Reports.isOk_iff {violations : List Error} (h : Reports outcome violations) :
    (∃ a, outcome = .ok a) ↔ violations = [] := by
  cases outcome with
  | error e =>
    have first := (h e).mp rfl
    constructor
    · rintro ⟨a, ha⟩
      cases ha
    · rintro rfl
      cases first
  | ok a =>
    refine ⟨fun _ => ?_, fun _ => ⟨a, rfl⟩⟩
    cases violations with
    | nil => rfl
    | cons e violations => cases (h e).mpr rfl

/-- **One computation after another** reports the violations of both, in order. -/
theorem Reports.bind {first second : List Error} (h : Reports outcome first)
    {next : α → Except Error β} (hnext : ∀ a, outcome = .ok a → Reports (next a) second) :
    Reports (outcome >>= next) (first ++ second) := by
  intro e
  cases hout : outcome with
  | error e' =>
    have he' := (h e').mp hout
    rw [List.head?_append, he']
    exact ⟨fun he => by cases he; rfl, fun he => by cases he; rfl⟩
  | ok a =>
    rw [h.isOk_iff.mp ⟨a, hout⟩, List.nil_append]
    exact hnext a hout e

/-- A result that is only changed reports the same. -/
theorem Reports.map {violations : List Error} (h : Reports outcome violations) (f : α → β) :
    Reports (outcome >>= fun a => .ok (f a)) violations := by
  rw [← List.append_nil violations]
  exact h.bind fun a _ => reports_ok (f a)

end

/-! ### Comparisons at any depth -/

mutual

/-- Whether a condition is a comparison or holds one at some depth. -/
def Predicate.hasLeaf : Predicate → Bool
  | .compare .. | .columns .. | .exists .. => true
  | .group clauses => Clause.anyLeaf clauses

/-- Whether some clause holds a comparison. -/
def Clause.anyLeaf : List Clause → Bool
  | [] => false
  | ⟨_, predicate⟩ :: clauses => predicate.hasLeaf || Clause.anyLeaf clauses

end

variable {d : Dialect}

mutual

/-- A condition has no pieces exactly when it is a group without comparisons. -/
theorem Predicate.pieces_eq_nil_iff : ∀ (predicate : Predicate) {ps : List Piece},
    predicate.pieces d = .ok ps → (ps = [] ↔ predicate.hasLeaf = false)
  | .compare column operator operand, ps, h => by
    have shown := (operand.shown_of_pieces d h).ne_nil
    simp [Predicate.hasLeaf, shown]
  | .columns left operator right, ps, h => by
    cases h
    have shown := (shown_leftPieces left operator right.pieces).ne_nil
    simpa [Predicate.hasLeaf, comparisonPieces] using shown
  | .exists negated query, ps, h => by
    obtain ⟨inner, -, h⟩ := bind_eq_ok_iff.mp h
    cases h
    simp [Predicate.hasLeaf]
  | .group clauses, ps, h => by
    obtain ⟨parts, hparts, h⟩ := bind_eq_ok_iff.mp h
    cases h
    rw [Predicate.hasLeaf, ← Clause.parts_eq_nil_iff clauses hparts]
    cases parts with
    | nil => simp
    | cons first rest => simp [Piece.enclose]

theorem Clause.parts_eq_nil_iff : ∀ (clauses : List Clause)
    {parts : List (Connective × List Piece)},
    Clause.parts d clauses = .ok parts → (parts = [] ↔ Clause.anyLeaf clauses = false)
  | [], parts, h => by
    cases h
    simp [Clause.anyLeaf]
  | ⟨connective, predicate⟩ :: clauses, parts, h => by
    obtain ⟨part, hpart, h⟩ := bind_eq_ok_iff.mp h
    obtain ⟨rest, hrest, h⟩ := bind_eq_ok_iff.mp h
    cases h
    have first := Predicate.pieces_eq_nil_iff predicate hpart
    rw [Clause.anyLeaf, Bool.or_eq_false_iff, ← first, ← Clause.parts_eq_nil_iff clauses hrest]
    by_cases silent : part = []
    · simp [silent]
    · simp [silent]

end

/-! ### Violations -/

/-- The mistake that was made in building a statement, and a blank table. -/
def Target.violations (target : Target) (error : Option Error) : List Error :=
  error.toList ++ if Text.trim target.table.name.toList = [] then [.missingTable] else []

/-- A limited member of a union where the dialect has no parentheses for it. -/
def Select.placeViolations (d : Dialect) (query : Select) : List Error :=
  if query.isLimited && !d.parenthesizesMembers then [d.refuseLimited] else []

mutual

/-- Everything that is wrong with a select. -/
def Select.violations (d : Dialect) : Select → List Error
  | ⟨target, fields, distinct, orders, groups, joins, unions, clauses, limit, offset,
      forwardKey, groupResults, error⟩ =>
    target.violations error ++ Join.allViolations d joins ++ Clause.allViolations d clauses
      ++ (if unions.isEmpty then [] else Select.placeViolations d
        ⟨target, fields, distinct, orders, groups, joins, unions, clauses, limit, offset,
          forwardKey, groupResults, error⟩)
      ++ UnionMember.allViolations d unions

def Join.allViolations (d : Dialect) : List Join → List Error
  | [] => []
  | join :: joins => join.violations d ++ Join.allViolations d joins

/-- What is wrong with what is joined, and with what it is joined on unless it is joined with
every row. -/
def Join.violations (d : Dialect) : Join → List Error
  | ⟨kind, source, on⟩ => source.violations d ++ if kind = .cross then [] else on.violations d kind

def JoinSource.violations (d : Dialect) : JoinSource → List Error
  | .table _ => []
  | .select query _ => query.violations d

/-- What is wrong with the clauses, and that they hold no comparison. -/
def JoinCondition.violations (d : Dialect) (kind : JoinKind) : JoinCondition → List Error
  | .columns .. => []
  | .clauses list =>
    Clause.allViolations d list ++ if Clause.anyLeaf list then [] else [kind.refuseEmpty]

def Clause.allViolations (d : Dialect) : List Clause → List Error
  | [] => []
  | ⟨_, predicate⟩ :: clauses => predicate.violations d ++ Clause.allViolations d clauses

def Predicate.violations (d : Dialect) : Predicate → List Error
  | .compare _ operator operand => operand.violations d operator
  | .columns .. => []
  | .exists _ query => query.violations d
  | .group clauses => Clause.allViolations d clauses

/-- What is wrong with an operand: a list under an operator that takes none, where the
dialect cannot bind it as one value. -/
def Operand.violations (d : Dialect) (operator : Operator) : Operand → List Error
  | .value _ => []
  | .list _ => if operator.isList || d.bindsLists then [] else [operator.refuseList d]
  | .raw _ => []
  | .select query => query.violations d

/-- What is wrong with each member of a union, and with its place there. -/
def UnionMember.allViolations (d : Dialect) : List UnionMember → List Error
  | [] => []
  | ⟨_, query⟩ :: members =>
    query.violations d ++ query.placeViolations d ++ UnionMember.allViolations d members

end

theorem Select.violations_eq (d : Dialect) (query : Select) :
    query.violations d =
      query.target.violations query.error ++ Join.allViolations d query.joins
        ++ Clause.allViolations d query.clauses
        ++ (if query.unions.isEmpty then [] else query.placeViolations d)
        ++ UnionMember.allViolations d query.unions := by
  cases query
  rw [Select.violations]

/-- Everything that is wrong with a statement, in the order in which it is gone through. -/
def Query.violations (d : Dialect) : Query → List Error
  | .select query => query.violations d
  | .insert query => query.target.violations query.error
    ++ if query.rows = [] then [.invalidQuery "INSERT requires values"] else []
  | .update query => query.target.violations query.error
    ++ (if query.sets = [] then [.invalidQuery "UPDATE requires SET clauses"] else [])
    ++ Clause.allViolations d query.clauses
  | .delete query => query.target.violations query.error ++ Clause.allViolations d query.clauses

/-! ### Writing reports the violations -/

theorem reports_checkTarget (target : Target) (error : Option Error) :
    Reports (checkTarget target error) (target.violations error) := by
  cases error with
  | some e => exact reports_error e _
  | none =>
    simp only [checkTarget, Target.violations, Target.hasTable]
    by_cases blank : Text.trim target.table.name.toList = []
    · simpa [blank] using reports_error _ _
    · simpa [blank] using reports_ok ()

theorem reports_memberPieces (query : Select) (compound : Bool) (ps : List Piece) :
    Reports (Select.memberPieces d query.isLimited compound ps) (query.placeViolations d) := by
  rw [Select.memberPieces, Select.placeViolations]
  cases query.isLimited <;> cases d.parenthesizesMembers <;> cases compound
  all_goals first | exact reports_ok _ | exact reports_error _ _

theorem reports_listPieces (column : Column) (operator : Operator) (list : List Value) :
    Reports (listPieces d column operator list) ((Operand.list list).violations d operator) := by
  rw [listPieces, Operand.violations]
  cases operator.isList with
  | true =>
    simp only [if_true, Bool.true_or]
    split <;> exact reports_ok _
  | false =>
    cases d.bindsLists with
    | true => exact reports_ok _
    | false => exact reports_error _ _

mutual

theorem Select.reports_pieces : ∀ query : Select, Reports (query.pieces d) (query.violations d)
  | ⟨target, fields, distinct, orders, groups, joins, unions, clauses, limit, offset, forwardKey,
      groupResults, error⟩ => by
    rw [Select.pieces_eq, Select.violations_eq]
    simp only [List.append_assoc]
    refine (reports_checkTarget target error).bind fun _ _ => ?_
    refine (Join.reports_listPieces joins).bind fun joined _ => ?_
    refine (Clause.reports_parts clauses).bind fun parts _ => ?_
    by_cases single : unions = []
    · subst single
      exact reports_ok _
    · simp only [List.isEmpty_iff, if_neg single]
      refine (reports_memberPieces _ false _).bind fun head _ => ?_
      exact (UnionMember.reports_listPieces unions).map _

theorem Join.reports_listPieces : ∀ joins : List Join,
    Reports (Join.listPieces d joins) (Join.allViolations d joins)
  | [] => reports_ok _
  | join :: joins =>
    (Join.reports_pieces join).bind fun _ _ => (Join.reports_listPieces joins).map _

theorem Join.reports_pieces : ∀ join : Join, Reports (join.pieces d) (join.violations d)
  | ⟨kind, source, on⟩ => by
    refine (JoinSource.reports_pieces source).bind fun joined _ => ?_
    by_cases cross : kind = .cross
    · simp only [if_pos cross]
      exact reports_ok _
    · simp only [if_neg cross]
      exact (JoinCondition.reports_pieces kind on).map _

theorem JoinSource.reports_pieces : ∀ source : JoinSource,
    Reports (source.pieces d) (source.violations d)
  | .table _ => reports_ok _
  | .select query _ => (Select.reports_pieces query).map _

theorem JoinCondition.reports_pieces (kind : JoinKind) : ∀ on : JoinCondition,
    Reports (on.pieces d kind) (on.violations d kind)
  | .columns .. => reports_ok _
  | .clauses list => by
    refine (Clause.reports_parts list).bind fun parts hparts => ?_
    -- The clauses say nothing exactly when they hold no comparison.
    have silent := Clause.parts_eq_nil_iff list hparts
    have empty := Clause.connect_eq_nil_iff (Clause.allShown_parts d hparts)
    cases leaf : Clause.anyLeaf list with
    | false =>
      have none := empty.mpr (silent.mpr leaf)
      simpa [onPieces, none] using reports_error _ _
    | true =>
      have some : Clause.connect parts ≠ [] := fun none => by
        simp [silent.mp (empty.mp none)] at leaf
      simpa [onPieces, some] using reports_ok _

theorem Clause.reports_parts : ∀ clauses : List Clause,
    Reports (Clause.parts d clauses) (Clause.allViolations d clauses)
  | [] => reports_ok _
  | ⟨_, predicate⟩ :: clauses =>
    (Predicate.reports_pieces predicate).bind fun _ _ => (Clause.reports_parts clauses).map _

theorem Predicate.reports_pieces : ∀ predicate : Predicate,
    Reports (predicate.pieces d) (predicate.violations d)
  | .compare column operator operand => Operand.reports_pieces column operator operand
  | .columns .. => reports_ok _
  | .exists _ query => (Select.reports_pieces query).map _
  | .group clauses => (Clause.reports_parts clauses).map _

theorem Operand.reports_pieces (column : Column) (operator : Operator) : ∀ operand : Operand,
    Reports (operand.pieces d column operator) (operand.violations d operator)
  | .value _ => reports_ok _
  | .list list => reports_listPieces column operator list
  | .raw _ => reports_ok _
  | .select query => (Select.reports_pieces query).map _

theorem UnionMember.reports_listPieces : ∀ members : List UnionMember,
    Reports (UnionMember.listPieces d members) (UnionMember.allViolations d members)
  | [] => reports_ok _
  | ⟨kind, query⟩ :: members => by
    refine Reports.bind ?_ fun _ _ => (UnionMember.reports_listPieces members).map _
    exact (Select.reports_pieces query).bind fun inner _ =>
      (reports_memberPieces query _ inner).map _

end

theorem Insert.reports_pieces (query : Insert) :
    Reports (query.pieces d) ((Query.insert query).violations d) := by
  refine (reports_checkTarget query.target query.error).bind fun _ _ => ?_
  -- rows cannot be wrong once there are any
  by_cases empty : query.rows = []
  · simpa [empty] using reports_error _ _
  · simp only [empty, List.isEmpty_iff, if_false]
    exact reports_ok _

theorem Update.reports_pieces (query : Update) :
    Reports (query.pieces d) ((Query.update query).violations d) := by
  rw [Query.violations, List.append_assoc]
  refine (reports_checkTarget query.target query.error).bind fun _ _ => ?_
  by_cases empty : query.sets = []
  · simpa [empty] using reports_error _ _
  · simp only [empty, List.isEmpty_iff, if_false, List.nil_append]
    exact (Clause.reports_parts query.clauses).map _

theorem Delete.reports_pieces (query : Delete) :
    Reports (query.pieces d) ((Query.delete query).violations d) :=
  (reports_checkTarget query.target query.error).bind fun _ _ =>
    (Clause.reports_parts query.clauses).map _

/-- The pieces of a statement report its violations. -/
theorem Query.reports_pieces : ∀ query : Query, Reports (query.pieces d) (query.violations d)
  | .select query => query.reports_pieces
  | .insert query => query.reports_pieces
  | .update query => query.reports_pieces
  | .delete query => query.reports_pieces

/-- **Writing a statement** reports its violations. -/
theorem Query.reports_compile (query : Query) :
    Reports (query.compile d) (query.violations d) := by
  rw [Query.compile_eq]
  exact query.reports_pieces.map _

end SqlBuilder
