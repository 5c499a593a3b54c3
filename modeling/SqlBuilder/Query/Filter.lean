import SqlBuilder.Query.Basic

/-! # Filters

Selects, updates, deletions, groups and the conditions of joins are all filtered by the
same calls.  What such a call works on is a `Filters`: the clauses so far, and the slot
for the first mistake.  A call adds one clause or none.  It adds none, and reports the
mistake, when the text of an operator is none; and it adds none for a group without
clauses.  A mistake inside a group is reported to the level above, and the group is
dropped with it.

Calls are data, so that a sequence of them, nested to any depth, is a value over which
statements can be made: `FilterCall.applyAll` runs such a sequence.
-/
namespace SqlBuilder

/-- The clauses of one level and the first mistake on it. -/
structure Filters where
  clauses : List Clause
  error : Option Error

namespace Filters

/-- A level without clauses and without mistakes. -/
def empty : Filters :=
  ⟨[], none⟩

/-- One more clause. -/
def push (filters : Filters) (connective : Connective) (predicate : Predicate) : Filters :=
  { filters with clauses := filters.clauses ++ [⟨connective, predicate⟩] }

/-- One more mistake. -/
def fail (filters : Filters) (error : Error) : Filters :=
  { filters with error := Error.keepFirst filters.error error }

/-- The comparison of a column, when its operator is one. -/
def comparison (column : Column) (operator : KeywordArg Operator) (operand : Operand) :
    Except Error Predicate :=
  operator.resolve.map fun operator => .compare column operator operand

/-- A condition, or the mistake made in it. -/
def add (filters : Filters) (connective : Connective) :
    Except Error Predicate → Filters
  | .ok predicate => filters.push connective predicate
  | .error error => filters.fail error

/-- A group of clauses, unless it has none. -/
def addGroup (filters : Filters) (connective : Connective) (group : Filters) : Filters :=
  match group.error with
  | some error => filters.fail error
  | none =>
    if group.clauses.isEmpty then filters
    else filters.push connective (.group group.clauses)

/-- The same mistakes without any clause. -/
def reset (filters : Filters) : Filters :=
  { filters with clauses := [] }

@[simp] theorem error_push (filters : Filters) (connective : Connective)
    (predicate : Predicate) : (filters.push connective predicate).error = filters.error := rfl

@[simp] theorem error_reset (filters : Filters) : filters.reset.error = filters.error := rfl

@[simp] theorem clauses_fail (filters : Filters) (error : Error) :
    (filters.fail error).clauses = filters.clauses := rfl

end Filters

/-- A call that filters. -/
inductive FilterCall where
  /-- A column compared by an operator. -/
  | compare (connective : Connective) (column : Column) (operator : KeywordArg Operator)
      (operand : Operand)
  /-- A column whose value is, or is not, one of a list. -/
  | oneOf (connective : Connective) (negated : Bool) (column : Column) (values : List Value)
  /-- A column whose value is, or is not, missing. -/
  | isNull (connective : Connective) (negated : Bool) (column : Column)
  /-- A group built by calls of its own. -/
  | group (connective : Connective) (calls : List FilterCall)
  /-- A group that is added whatever became of it, its mistakes forgotten. -/
  | bareGroup (connective : Connective) (calls : List FilterCall)
  | reset

namespace FilterCall

/-- The condition that a value is in a list. -/
def membership (negated : Bool) (column : Column) (values : List Value) : Predicate :=
  .compare column (if negated then .notIn else .isIn) (.list values)

/-- The condition that a value is missing. -/
def nullity (negated : Bool) (column : Column) : Predicate :=
  .compare column (if negated then .isNot else .is) (.raw ⟨"NULL"⟩)

mutual

/-- The filters after a call. -/
def apply (filters : Filters) : FilterCall → Filters
  | .compare connective column operator operand =>
    filters.add connective (Filters.comparison column operator operand)
  | .oneOf connective negated column values =>
    filters.push connective (membership negated column values)
  | .isNull connective negated column => filters.push connective (nullity negated column)
  | .group connective calls => filters.addGroup connective (applyAll .empty calls)
  | .bareGroup connective calls =>
    filters.push connective (.group (applyAll .empty calls).clauses)
  | .reset => filters.reset

/-- The filters after calls in order. -/
def applyAll (filters : Filters) : List FilterCall → Filters
  | [] => filters
  | call :: calls => applyAll (apply filters call) calls

end

end FilterCall

/-! ### What a join is on -/

/-- A call that builds what a join is on: a filter, or a comparison of two columns. -/
inductive JoinCall where
  | filter (call : FilterCall)
  | on (connective : Connective) (left : Column) (operator : KeywordArg Operator)
      (right : Column)

/-- What a join is on, as a caller gives it. -/
inductive JoinOn where
  | columns (left : Column) (operator : KeywordArg Operator) (right : Column)
  | built (calls : List JoinCall)
  /-- A column alone does not say what it is compared with. -/
  | key (column : String)

namespace JoinCall

/-- The filters after a call. -/
def apply (filters : Filters) : JoinCall → Filters
  | .filter call => FilterCall.apply filters call
  | .on connective left operator right =>
    filters.add connective
      (operator.resolve.map fun operator => .columns left operator right)

/-- The filters after calls in order. -/
def applyAll (filters : Filters) (calls : List JoinCall) : Filters :=
  calls.foldl apply filters

end JoinCall

/-- What a join is on, when no mistake was made in building it. -/
def JoinCondition.ofFilters (filters : Filters) : Except Error JoinCondition :=
  match filters.error with
  | some error => .error error
  | none => .ok (.clauses filters.clauses)

/-- What a join is on, or the mistake made in giving it. -/
def JoinOn.resolve : JoinOn → Except Error JoinCondition
  | .columns left operator right =>
    operator.resolve.map fun operator => .columns left operator right
  | .built calls => JoinCondition.ofFilters (JoinCall.applyAll .empty calls)
  | .key _ => .error (.invalidJoin
    "When using non nested join conditions, an operator and a reference key is required.")

end SqlBuilder
