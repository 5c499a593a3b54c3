import SqlBuilder.Sql.Writing

/-! # Writing selects

`Select.write` writes a select in a dialect, or gives the mistake that keeps it from being
written.  Selects inside it are written in the same dialect, whatever their own is, and
their values are bound between those of the select around them.

A group without conditions, at any depth, leaves no trace: what a clause says is looked at
as text, and a clause that says nothing is passed over together with its tie.  The tie of
the first clause that says something is dropped.

A member of a union that has an order, a window or a union of its own stands in
parentheses, so that these stay its own.  In a dialect without such parentheses a member
may not have an order or a window, and a union inside a member is written flat.
-/
namespace SqlBuilder

/-! ### Conditions -/

/-- A column and the operator behind it. -/
def writeLeft (d : Dialect) (column : Column) (operator : Operator) : String :=
  column.write d ++ " " ++ operator.sql ++ " "

/-- Two columns and the operator between them. -/
def writeComparison (d : Dialect) (left : Column) (operator : Operator) (right : Column) :
    String :=
  writeLeft d left operator ++ right.write d

/-- The mistake of a list under an operator that takes none. -/
def Operator.refuseList (d : Dialect) (operator : Operator) : Error :=
  .sqlGeneration ("operator " ++ operator.sql ++ " does not accept a list of values on " ++ d.name)

/-- A column compared with a list.  Nothing is in an empty list, and everything is
outside it.  Under an operator that takes no list, the list is bound as one value where
the dialect can do that. -/
def writeList (d : Dialect) (column : Column) (operator : Operator) (values : List Value) :
    Writing String := do
  if operator.isList then
    if values.isEmpty then return if operator = .isIn then "1 = 0" else "1 = 1"
    else
      let placeholders ← values.mapM (Writing.placeholder d)
      return writeLeft d column operator ++ "(" ++ ", ".intercalate placeholders ++ ")"
  else if d.bindsLists then
    let placeholder ← Writing.placeholder d (.array values)
    return writeLeft d column operator ++ placeholder
  else throw (operator.refuseList d)

/-- A column compared with one value. -/
def writeValue (d : Dialect) (column : Column) (operator : Operator) (value : Value) :
    Writing String := do
  let placeholder ← Writing.placeholder d value
  return writeLeft d column operator
    ++ if operator.isList then "(" ++ placeholder ++ ")" else placeholder

/-- One more condition behind those written so far. -/
def Connective.tie (connective : Connective) (written condition : String) : String :=
  if condition.isEmpty then written
  else if written.isEmpty then condition
  else written ++ (" " ++ connective.sql ++ " ") ++ condition

/-- The conditions of a statement, nothing when there are none. -/
def writeWhere (conditions : String) : String :=
  if conditions.isEmpty then "" else " WHERE " ++ conditions

/-- The mistake of a join that is on nothing. -/
def JoinKind.refuseEmpty (kind : JoinKind) : Error :=
  .invalidJoin (Keyword.sql kind ++ " JOIN requires at least one ON condition")

/-- What a join is on behind its source. -/
def writeOn (kind : JoinKind) (conditions : String) : Except Error String :=
  if conditions.isEmpty then .error kind.refuseEmpty else .ok (" ON " ++ conditions)

/-! ### The parts of a select -/

/-- The mistake that was made first, or that no table was set. -/
def checkTarget (target : Target) (error : Option Error) : Except Error Unit :=
  match error with
  | some error => .error error
  | none => if target.hasTable then .ok () else .error .missingTable

/-- The mistake of a limited member of a union in a dialect without parentheses for it. -/
def Dialect.refuseLimited (d : Dialect) : Error :=
  .sqlGeneration ("a UNION member cannot carry its own ORDER BY or LIMIT on " ++ d.name)

namespace Select

/-- The groups of a select. -/
def writeGroups (d : Dialect) (query : Select) : String :=
  if query.groups.isEmpty then "" else " GROUP BY " ++ Column.writeAll d query.groups

/-- A select up to its groups, around its fields, joins and conditions. -/
def writeCore (d : Dialect) (query : Select) (fields joins conditions : String) : String :=
  (if query.distinct then "SELECT DISTINCT " else "SELECT ") ++ fields ++ " FROM "
    ++ query.target.writeSource d ++ joins ++ writeWhere conditions ++ query.writeGroups d

/-- A column in a direction. -/
def writeOrder (d : Dialect) : Column × Direction → String
  | (column, direction) => column.write d ++ (" " ++ Keyword.sql direction)

/-- The order of a select. -/
def writeOrders (d : Dialect) (query : Select) : String :=
  if query.orders.isEmpty then ""
  else " ORDER BY " ++ ", ".intercalate (query.orders.map (writeOrder d))

/-- The order and the window of a select. -/
def writeTail (d : Dialect) (query : Select) : String :=
  query.writeOrders d ++ d.window query.limit query.offset

/-- A member of a union around its text, or the mistake that it is limited where the
dialect has no parentheses for it. -/
def writeMember (d : Dialect) (limited compound : Bool) (text : String) : Except Error String :=
  if !limited && !compound then .ok text
  else if d.parenthesizesMembers then .ok ("(" ++ text ++ ")")
  else if limited then .error d.refuseLimited
  else .ok text

end Select

/-- The text between two members of a union. -/
def UnionMember.glue : Option UnionKind → String
  | some kind => " UNION " ++ Keyword.sql kind ++ " "
  | none => " UNION "

/-! ### Writing -/

mutual

/-- Writes a select. -/
def Select.write (d : Dialect) : Select → Writing String
  | ⟨target, fields, distinct, orders, groups, joins, unions, clauses, limit, offset,
      forwardKey, groupResults, error⟩ => do
    let query : Select := ⟨target, fields, distinct, orders, groups, joins, unions, clauses,
      limit, offset, forwardKey, groupResults, error⟩
    Writing.ofExcept (checkTarget target error)
    let fields ← Field.writeAll d fields
    let joins ← Join.writeAll d joins
    let conditions ← Clause.writeAll d "" clauses
    let alone := query.writeCore d fields joins conditions ++ query.writeTail d
    if unions.isEmpty then return alone
    else
      let head ← Writing.ofExcept (Select.writeMember d query.isLimited false alone)
      let members ← UnionMember.writeAll d unions
      return head ++ members

/-- Writes joins in order. -/
def Join.writeAll (d : Dialect) : List Join → Writing String
  | [] => return ""
  | join :: joins => do
    let first ← join.write d
    let rest ← Join.writeAll d joins
    return first ++ rest

/-- Writes a join.  A join with every row is on nothing. -/
def Join.write (d : Dialect) : Join → Writing String
  | ⟨kind, source, on⟩ => do
    let joined ← source.write d
    let head := (" " ++ Keyword.sql kind ++ " JOIN ") ++ joined
    if kind = .cross then return head
    else
      let conditions ← on.write d kind
      return head ++ conditions

/-- Writes what is joined. -/
def JoinSource.write (d : Dialect) : JoinSource → Writing String
  | .table t => return t.write d
  | .select query label => do
    let inner ← query.write d
    return "(" ++ inner ++ ")" ++ writeLabel d (some label)

/-- Writes what a join is on. -/
def JoinCondition.write (d : Dialect) (kind : JoinKind) : JoinCondition → Writing String
  | .columns left operator right => return " ON " ++ writeComparison d left operator right
  | .clauses list => do
    let conditions ← Clause.writeAll d "" list
    Writing.ofExcept (writeOn kind conditions)

/-- Writes clauses behind what is written of their level so far. -/
def Clause.writeAll (d : Dialect) (written : String) : List Clause → Writing String
  | [] => return written
  | ⟨connective, predicate⟩ :: clauses => do
    let condition ← predicate.write d
    Clause.writeAll d (connective.tie written condition) clauses

/-- Writes a condition; a group that says nothing has no text. -/
def Predicate.write (d : Dialect) : Predicate → Writing String
  | .compare column operator operand => operand.write d column operator
  | .columns left operator right => return writeComparison d left operator right
  | .exists negated query => do
    let inner ← query.write d
    return (if negated then "NOT EXISTS " else "EXISTS ") ++ "(" ++ inner ++ ")"
  | .group clauses => do
    let inner ← Clause.writeAll d "" clauses
    return if inner.isEmpty then "" else "(" ++ inner ++ ")"

/-- Writes a column compared with an operand. -/
def Operand.write (d : Dialect) (column : Column) (operator : Operator) :
    Operand → Writing String
  | .value v => writeValue d column operator v
  | .list values => writeList d column operator values
  | .raw piece => return writeLeft d column operator ++ piece.sql
  | .select query => do
    let inner ← query.write d
    return writeLeft d column operator ++ "(" ++ inner ++ ")"

/-- Writes members of a union in order. -/
def UnionMember.writeAll (d : Dialect) : List UnionMember → Writing String
  | [] => return ""
  | member :: members => do
    let first ← member.write d
    let rest ← UnionMember.writeAll d members
    return first ++ rest

/-- Writes a member of a union behind its first. -/
def UnionMember.write (d : Dialect) : UnionMember → Writing String
  | ⟨kind, query⟩ => do
    let inner ← query.write d
    let member ← Writing.ofExcept
      (Select.writeMember d query.isLimited (!query.unions.isEmpty) inner)
    return UnionMember.glue kind ++ member

end

theorem Select.write_eq (d : Dialect) (query : Select) :
    query.write d = do
      Writing.ofExcept (checkTarget query.target query.error)
      let fields ← Field.writeAll d query.fields
      let joins ← Join.writeAll d query.joins
      let conditions ← Clause.writeAll d "" query.clauses
      let alone := query.writeCore d fields joins conditions ++ query.writeTail d
      if query.unions.isEmpty then return alone
      else
        let head ← Writing.ofExcept (Select.writeMember d query.isLimited false alone)
        let members ← UnionMember.writeAll d query.unions
        return head ++ members := by
  cases query
  rw [Select.write]

/-- Writes the question whether a select has rows. -/
def Select.writeExists (d : Dialect) (query : Select) : Writing String := do
  let inner ← query.write d
  return "SELECT EXISTS(" ++ inner ++ ")" ++ writeLabel d (some "exists")

end SqlBuilder
