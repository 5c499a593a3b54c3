import SqlBuilder.Proofs.Piece
import SqlBuilder.Sql.Query

/-! # Statements as pieces

The pieces of every kind of statement, defined along the syntax and without any list of
bound values: `Select.pieces` and its companions follow the grammar of a statement, and
`Query.pieces` covers all kinds.  Where a statement cannot be written they give the mistake
that keeps it from being written.
-/
namespace SqlBuilder

/-! ### The parts of a select -/

/-- A column and the operator behind it. -/
def leftPieces (column : Column) (operator : Operator) : List Piece :=
  column.pieces ++ [.text (" " ++ operator.sql ++ " ")]

/-- Two columns and the operator between them. -/
def comparisonPieces (left : Column) (operator : Operator) (right : Column) : List Piece :=
  leftPieces left operator ++ right.pieces

/-- Values with commas between them, in parentheses. -/
def Piece.tuple (values : List Value) : List Piece :=
  Piece.enclose (Piece.separate ", " (values.map fun value => [.value value]))

/-- A column compared with a list. -/
def listPieces (d : Dialect) (column : Column) (operator : Operator) (values : List Value) :
    Except Error (List Piece) :=
  if operator.isList then
    if values.isEmpty then .ok [.text (if operator = .isIn then "1 = 0" else "1 = 1")]
    else .ok (leftPieces column operator ++ Piece.tuple values)
  else if d.bindsLists then .ok (leftPieces column operator ++ [.value (.array values)])
  else .error (operator.refuseList d)

/-- A column compared with one value. -/
def valuePieces (column : Column) (operator : Operator) (value : Value) : List Piece :=
  leftPieces column operator
    ++ if operator.isList then Piece.enclose [.value value] else [.value value]

/-- A clause that has something to say, behind its tie. -/
def Clause.tied : Connective × List Piece → List Piece
  | (connective, part) => .text (" " ++ connective.sql ++ " ") :: part

/-- Clauses that have something to say, each behind its tie except the first. -/
def Clause.connect : List (Connective × List Piece) → List Piece
  | [] => []
  | (_, first) :: rest => first ++ rest.flatMap Clause.tied

/-- The conditions of a statement, nothing when there are none. -/
def wherePieces (conditions : List Piece) : List Piece :=
  if conditions.isEmpty then [] else .text " WHERE " :: conditions

/-- What a join is on behind its source. -/
def onPieces (kind : JoinKind) (conditions : List Piece) : Except Error (List Piece) :=
  if conditions.isEmpty then .error kind.refuseEmpty else .ok (.text " ON " :: conditions)

namespace Select

/-- The groups of a select. -/
def groupPieces (query : Select) : List Piece :=
  if query.groups.isEmpty then []
  else .text " GROUP BY " :: Column.listPieces query.groups

/-- A select up to its groups, around its joins and conditions. -/
def corePieces (query : Select) (joins conditions : List Piece) : List Piece :=
  .text (if query.distinct then "SELECT DISTINCT " else "SELECT ") ::
    Field.listPieces query.fields ++ .text " FROM " :: query.target.sourcePieces
    ++ joins ++ wherePieces conditions ++ query.groupPieces

/-- A column in a direction. -/
def orderEntry : Column × Direction → List Piece
  | (column, direction) => column.pieces ++ [.text (" " ++ Keyword.sql direction)]

/-- The order of a select. -/
def orderPieces (query : Select) : List Piece :=
  if query.orders.isEmpty then []
  else .text " ORDER BY " :: Piece.separate ", " (query.orders.map orderEntry)

/-- The order and the window of a select. -/
def tailPieces (d : Dialect) (query : Select) : List Piece :=
  query.orderPieces ++ [.text (d.window query.limit query.offset)]

/-- A select without the members of its union. -/
def alonePieces (d : Dialect) (query : Select) (joins conditions : List Piece) : List Piece :=
  query.corePieces joins conditions ++ query.tailPieces d

/-- A member of a union around its pieces. -/
def memberPieces (d : Dialect) (limited compound : Bool) (pieces : List Piece) :
    Except Error (List Piece) :=
  if !limited && !compound then .ok pieces
  else if d.parenthesizesMembers then .ok (Piece.enclose pieces)
  else if limited then .error d.refuseLimited
  else .ok pieces

end Select

/-! ### Selects -/

mutual

/-- The pieces of a select. -/
def Select.pieces (d : Dialect) : Select → Except Error (List Piece)
  | ⟨target, fields, distinct, orders, groups, joins, unions, clauses, limit, offset,
      forwardKey, groupResults, error⟩ => do
    let query : Select := ⟨target, fields, distinct, orders, groups, joins, unions, clauses,
      limit, offset, forwardKey, groupResults, error⟩
    checkTarget target error
    let joined ← Join.listPieces d joins
    let parts ← Clause.parts d clauses
    let alone := query.alonePieces d joined (Clause.connect parts)
    if unions.isEmpty then return alone
    else
      let head ← Select.memberPieces d query.isLimited false alone
      let members ← UnionMember.listPieces d unions
      return head ++ members

/-- The pieces of joins in order. -/
def Join.listPieces (d : Dialect) : List Join → Except Error (List Piece)
  | [] => .ok []
  | join :: joins => do
    let first ← join.pieces d
    let rest ← Join.listPieces d joins
    return first ++ rest

/-- The pieces of a join. -/
def Join.pieces (d : Dialect) : Join → Except Error (List Piece)
  | ⟨kind, source, on⟩ => do
    let joined ← source.pieces d
    let head := .text (" " ++ Keyword.sql kind ++ " JOIN ") :: joined
    if kind = .cross then return head
    else
      let conditions ← on.pieces d kind
      return head ++ conditions

/-- The pieces of what is joined. -/
def JoinSource.pieces (d : Dialect) : JoinSource → Except Error (List Piece)
  | .table t => .ok t.pieces
  | .select query label => do
    let inner ← query.pieces d
    return Piece.enclose inner ++ Piece.label (some label)

/-- The pieces of what a join is on. -/
def JoinCondition.pieces (d : Dialect) (kind : JoinKind) :
    JoinCondition → Except Error (List Piece)
  | .columns left operator right => .ok (.text " ON " :: comparisonPieces left operator right)
  | .clauses list => do
    let parts ← Clause.parts d list
    onPieces kind (Clause.connect parts)

/-- The clauses that have something to say, with their pieces. -/
def Clause.parts (d : Dialect) : List Clause → Except Error (List (Connective × List Piece))
  | [] => .ok []
  | ⟨connective, predicate⟩ :: clauses => do
    let part ← predicate.pieces d
    let parts ← Clause.parts d clauses
    return if part.isEmpty then parts else (connective, part) :: parts

/-- The pieces of a condition; none for a group that says nothing. -/
def Predicate.pieces (d : Dialect) : Predicate → Except Error (List Piece)
  | .compare column operator operand => operand.pieces d column operator
  | .columns left operator right => .ok (comparisonPieces left operator right)
  | .exists negated query => do
    let inner ← query.pieces d
    return .text (if negated then "NOT EXISTS " else "EXISTS ") :: Piece.enclose inner
  | .group clauses => do
    let parts ← Clause.parts d clauses
    return if parts.isEmpty then [] else Piece.enclose (Clause.connect parts)

/-- The pieces of a column compared with an operand. -/
def Operand.pieces (d : Dialect) (column : Column) (operator : Operator) :
    Operand → Except Error (List Piece)
  | .value v => .ok (valuePieces column operator v)
  | .list values => SqlBuilder.listPieces d column operator values
  | .raw piece => .ok (leftPieces column operator ++ [.sql piece.sql])
  | .select query => do
    let inner ← query.pieces d
    return leftPieces column operator ++ Piece.enclose inner

/-- The pieces of members of a union in order. -/
def UnionMember.listPieces (d : Dialect) : List UnionMember → Except Error (List Piece)
  | [] => .ok []
  | member :: members => do
    let first ← member.pieces d
    let rest ← UnionMember.listPieces d members
    return first ++ rest

/-- The pieces of a member of a union behind its first. -/
def UnionMember.pieces (d : Dialect) : UnionMember → Except Error (List Piece)
  | ⟨kind, query⟩ => do
    let inner ← query.pieces d
    let member ← Select.memberPieces d query.isLimited (!query.unions.isEmpty) inner
    return .text (UnionMember.glue kind) :: member

end

theorem Select.pieces_eq (d : Dialect) (query : Select) :
    query.pieces d = do
      checkTarget query.target query.error
      let joined ← Join.listPieces d query.joins
      let parts ← Clause.parts d query.clauses
      let alone := query.alonePieces d joined (Clause.connect parts)
      if query.unions.isEmpty then return alone
      else
        let head ← Select.memberPieces d query.isLimited false alone
        let members ← UnionMember.listPieces d query.unions
        return head ++ members := by
  cases query
  rw [Select.pieces]

theorem Select.memberPieces_eq_ok {d : Dialect} {limited compound : Bool} {ps qs : List Piece}
    (h : Select.memberPieces d limited compound ps = .ok qs) : qs = ps ∨ qs = Piece.enclose ps := by
  rw [Select.memberPieces] at h
  split at h
  · exact Or.inl (Except.ok.inj h).symm
  · split at h
    · exact Or.inr (Except.ok.inj h).symm
    · split at h
      · cases h
      · exact Or.inl (Except.ok.inj h).symm

/-- **Everything a select can be made of.**  It is a head, which is the select without its
union, perhaps in parentheses, and the members of the union, of which there may be none. -/
theorem Select.pieces_eq_ok {d : Dialect} {query : Select} {ps : List Piece}
    (h : query.pieces d = .ok ps) :
    ∃ joined parts head members,
      Join.listPieces d query.joins = .ok joined ∧ Clause.parts d query.clauses = .ok parts ∧
      UnionMember.listPieces d query.unions = .ok members ∧
      (head = query.alonePieces d joined (Clause.connect parts) ∨
        head = Piece.enclose (query.alonePieces d joined (Clause.connect parts))) ∧
      ps = head ++ members := by
  rw [Select.pieces_eq] at h
  obtain ⟨_, -, h⟩ := bind_eq_ok_iff.mp h
  obtain ⟨joined, hjoined, h⟩ := bind_eq_ok_iff.mp h
  obtain ⟨parts, hparts, h⟩ := bind_eq_ok_iff.mp h
  by_cases single : query.unions = []
  · simp only [single, List.isEmpty_nil, if_true] at h
    refine ⟨joined, parts, _, [], hjoined, hparts, by rw [single]; rfl, Or.inl rfl, ?_⟩
    rw [← Except.ok.inj h, List.append_nil]
  · simp only [List.isEmpty_iff, if_neg single] at h
    obtain ⟨head, hhead, h⟩ := bind_eq_ok_iff.mp h
    obtain ⟨members, hmembers, h⟩ := bind_eq_ok_iff.mp h
    exact ⟨joined, parts, head, members, hjoined, hparts, hmembers,
      Select.memberPieces_eq_ok hhead, (Except.ok.inj h).symm⟩

/-! ### The other statements -/

namespace Insert

/-- A row in parentheses. -/
def rowPieces (row : List NewValue) : List Piece :=
  Piece.enclose (Piece.separate ", " (row.map NewValue.pieces))

/-- An insert up to its rows. -/
def headPieces (d : Dialect) (query : Insert) : List Piece :=
  .text (if query.ignore then d.ignoreHead else "INSERT INTO") :: .text " " ::
    query.target.tablePieces ++ .text " (" :: Piece.names query.columns ++ [.text ") VALUES "]

/-- The pieces of an insert. -/
def pieces (d : Dialect) (query : Insert) : Except Error (List Piece) := do
  checkTarget query.target query.error
  if query.rows.isEmpty then .error (.invalidQuery "INSERT requires values")
  else
    return query.headPieces d ++ Piece.separate ", " (query.rows.map rowPieces)
      ++ [.text (if query.ignore then d.ignoreTail else "")]

end Insert

namespace Update

/-- A column that is set. -/
def setPieces : String × NewValue → List Piece
  | (column, value) => .name column :: .text " = " :: value.pieces

/-- The pieces of an update. -/
def pieces (d : Dialect) (query : Update) : Except Error (List Piece) := do
  checkTarget query.target query.error
  if query.sets.isEmpty then .error (.invalidQuery "UPDATE requires SET clauses")
  else
    let parts ← Clause.parts d query.clauses
    return .text "UPDATE " :: query.target.tablePieces
      ++ .text " SET " :: Piece.separate ", " (query.sets.map setPieces)
      ++ wherePieces (Clause.connect parts)

end Update

/-- The pieces of a deletion. -/
def Delete.pieces (d : Dialect) (query : Delete) : Except Error (List Piece) := do
  checkTarget query.target query.error
  let parts ← Clause.parts d query.clauses
  return .text "DELETE FROM " :: query.target.tablePieces ++ wherePieces (Clause.connect parts)

/-- The pieces of a statement. -/
def Query.pieces (d : Dialect) : Query → Except Error (List Piece)
  | .select query => query.pieces d
  | .insert query => query.pieces d
  | .update query => query.pieces d
  | .delete query => query.pieces d

end SqlBuilder
