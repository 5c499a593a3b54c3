import Mathlib.Data.List.Basic
import SqlBuilder.Proofs.Agreement
import SqlBuilder.Query.Insert
import SqlBuilder.Query.Select
import SqlBuilder.Query.Update

/-! # Where lists are bound

`Query.parameters` lists the bound values of a statement with the sites at which they stand: values
that are given one by one, as arguments of functions, operands, items of lists and new values, and
lists that are bound as one value each.

Only for the last of these it is looked at whether a dialect can bind a list, so that a statement
that can be written in a dialect that cannot has none of them (`Query.bindable_parameters`).  An
array among the values that are given one by one is bound as it is in every dialect
(`Query.binds_arrays`).
-/
namespace SqlBuilder

/-- Where in a statement a value is bound. -/
inductive Site where
  /-- An argument of a function among the fields. -/
  | argument
  /-- A single value that a column is compared with. -/
  | operand
  /-- An item of a list behind `IN` or `NOT IN`. -/
  | item
  /-- A value of a row or of an assignment. -/
  | entry
  /-- A list that a column is compared with, bound as one value. -/
  | list
  deriving DecidableEq

/-- A bound value and its site. -/
structure Parameter where
  site : Site
  value : Value

/-! ### Sites -/

def Argument.parameter? : Argument → Option Parameter
  | .value v => some ⟨.argument, v⟩
  | .column _ | .raw _ => none

def Field.parameters (field : Field) : List Parameter :=
  match field.source with
  | .function f => f.arguments.filterMap Argument.parameter?
  | .column _ | .raw _ => []

def NewValue.parameter? : NewValue → Option Parameter
  | .value v => some ⟨.entry, v⟩
  | .raw _ => none

mutual

/-- The parameters of a select, in the order of its clauses. -/
def Select.parameters : Select → List Parameter
  | ⟨_, fields, _, _, _, joins, unions, clauses, _, _, _, _, _⟩ =>
    fields.flatMap Field.parameters ++ Join.allParameters joins ++ Clause.allParameters clauses
      ++ UnionMember.allParameters unions

def Join.allParameters : List Join → List Parameter
  | [] => []
  | join :: joins => join.parameters ++ Join.allParameters joins

/-- What a join with every row is on is not written. -/
def Join.parameters : Join → List Parameter
  | ⟨kind, source, on⟩ => source.parameters ++ if kind = .cross then [] else on.parameters

def JoinSource.parameters : JoinSource → List Parameter
  | .table _ => []
  | .select query _ => query.parameters

def JoinCondition.parameters : JoinCondition → List Parameter
  | .columns .. => []
  | .clauses list => Clause.allParameters list

def Clause.allParameters : List Clause → List Parameter
  | [] => []
  | ⟨_, predicate⟩ :: clauses => predicate.parameters ++ Clause.allParameters clauses

def Predicate.parameters : Predicate → List Parameter
  | .compare _ operator operand => operand.parameters operator
  | .columns .. => []
  | .exists _ query => query.parameters
  | .group clauses => Clause.allParameters clauses

/-- The items of a list behind `IN` are bound one by one; any other list is one value. -/
def Operand.parameters (operator : Operator) : Operand → List Parameter
  | .value v => [⟨.operand, v⟩]
  | .list values =>
    if operator.isList then values.map fun v => ⟨.item, v⟩ else [⟨.list, .array values⟩]
  | .raw _ => []
  | .select query => query.parameters

def UnionMember.allParameters : List UnionMember → List Parameter
  | [] => []
  | ⟨_, query⟩ :: members => query.parameters ++ UnionMember.allParameters members

end

/-- The parameters of a statement, in the order of its clauses. -/
def Query.parameters : Query → List Parameter
  | .select query => query.parameters
  | .insert query => query.rows.flatMap (List.filterMap NewValue.parameter?)
  | .update query =>
    query.sets.filterMap (fun set => set.2.parameter?) ++ Clause.allParameters query.clauses
  | .delete query => Clause.allParameters query.clauses

/-! ### Parameters and bound values -/

namespace Piece

@[simp] theorem values_suppliedLabel (label : Option String) :
    values (suppliedLabel label) = [] := by
  cases label <;> rfl

@[simp] theorem values_target (target : Target) : values target.supplied = [] := by
  rw [Target.supplied]
  cases target.database <;> rfl

@[simp] theorem values_column (column : Column) : values column.supplied = [] := by
  cases column <;> rfl

theorem values_argument (argument : Argument) :
    values argument.supplied = argument.parameter?.toList.map Parameter.value := by
  cases argument <;> rfl

theorem values_newValue (value : NewValue) :
    values value.supplied = value.parameter?.toList.map Parameter.value := by
  cases value <;> rfl

section
variable {α : Type} {pieces : α → List Piece}

/-- Parts without values. -/
theorem values_flatMap_nil (h : ∀ a, values (pieces a) = []) (list : List α) :
    values (list.flatMap pieces) = [] := by
  rw [values_flatMap]
  exact List.flatMap_eq_nil_iff.mpr fun a _ => h a

/-- Parts of which each has a parameter or none. -/
theorem values_flatMap_parameter? {parameter? : α → Option Parameter}
    (h : ∀ a, values (pieces a) = (parameter? a).toList.map Parameter.value) (list : List α) :
    values (list.flatMap pieces) = (list.filterMap parameter?).map Parameter.value := by
  rw [values_flatMap, List.filterMap_eq_flatMap_toList, List.map_flatMap]
  exact List.flatMap_congr fun a _ => h a

end

theorem values_field (field : Field) :
    values field.supplied = field.parameters.map Parameter.value := by
  rw [Field.supplied, values_append, values_suppliedLabel, List.append_nil, Field.parameters]
  cases field.source with
  | column name => rfl
  | raw piece => rfl
  | function f => exact values_flatMap_parameter? values_argument f.arguments

theorem values_items (list : List Value) : values (list.map .value) = list := by
  induction list with
  | nil => rfl
  | cons v list ih => exact congrArg (v :: ·) ih

theorem values_names (list : List String) : values (list.map .name) = [] := by
  rw [List.map_eq_flatMap]
  exact values_flatMap_nil (fun _ => rfl) list

end Piece

open Piece

mutual

theorem Select.values_parameters : ∀ query : Select,
    query.parameters.map Parameter.value = values query.supplied
  | ⟨target, fields, distinct, orders, groups, joins, unions, clauses, limit, offset, forwardKey,
      groupResults, error⟩ => by
    have given : values (fields.flatMap Field.supplied)
        = (fields.flatMap Field.parameters).map Parameter.value := by
      rw [values_flatMap, List.map_flatMap]
      simp only [values_field]
    have grouped := values_flatMap_nil values_column groups
    have ordered := values_flatMap_nil
      (fun order : Column × Direction => values_column order.1) orders
    rw [Select.parameters, Select.supplied]
    simp only [List.map_append, values_append, given, values_target, values_suppliedLabel, grouped,
      ordered, List.append_nil, Join.values_allParameters joins,
      Clause.values_allParameters clauses, UnionMember.values_allParameters unions]

theorem Join.values_allParameters : ∀ joins : List Join,
    (Join.allParameters joins).map Parameter.value = values (Join.suppliedAll joins)
  | [] => rfl
  | join :: joins => by
    rw [Join.allParameters, Join.suppliedAll, List.map_append, values_append,
      Join.values_parameters join, Join.values_allParameters joins]

theorem Join.values_parameters : ∀ join : Join,
    join.parameters.map Parameter.value = values join.supplied
  | ⟨kind, source, on⟩ => by
    rw [Join.parameters, Join.supplied, List.map_append, values_append,
      JoinSource.values_parameters source]
    split
    · rfl
    · rw [JoinCondition.values_parameters on]

theorem JoinSource.values_parameters : ∀ source : JoinSource,
    source.parameters.map Parameter.value = values source.supplied
  | .table t => (values_suppliedLabel t.label).symm
  | .select query label => by
    rw [JoinSource.parameters, JoinSource.supplied, values_append, Select.values_parameters query]
    exact (List.append_nil _).symm

theorem JoinCondition.values_parameters : ∀ on : JoinCondition,
    on.parameters.map Parameter.value = values on.supplied
  | .columns left operator right => by
    simp [JoinCondition.parameters, JoinCondition.supplied]
  | .clauses list => Clause.values_allParameters list

theorem Clause.values_allParameters : ∀ clauses : List Clause,
    (Clause.allParameters clauses).map Parameter.value = values (Clause.suppliedAll clauses)
  | [] => rfl
  | ⟨connective, predicate⟩ :: clauses => by
    rw [Clause.allParameters, Clause.suppliedAll, List.map_append, values_append,
      Predicate.values_parameters predicate, Clause.values_allParameters clauses]

theorem Predicate.values_parameters : ∀ predicate : Predicate,
    predicate.parameters.map Parameter.value = values predicate.supplied
  | .compare column operator operand => Operand.values_parameters column operator operand
  | .columns left operator right => by simp [Predicate.parameters, Predicate.supplied]
  | .exists negated query => Select.values_parameters query
  | .group clauses => Clause.values_allParameters clauses

theorem Operand.values_parameters (column : Column) (operator : Operator) : ∀ operand : Operand,
    (operand.parameters operator).map Parameter.value = values (operand.supplied column operator)
  | .value v => by simp [Operand.parameters, Operand.supplied, values]
  | .list [] => by
    rw [Operand.parameters, Operand.supplied]
    split <;> simp [values]
  | .list (v :: list) => by
    rw [Operand.parameters, Operand.supplied]
    split
    · rw [List.isEmpty_cons, if_neg Bool.false_ne_true, values_append, values_column, values_items,
        List.map_map]
      exact List.map_id _
    · simp [values]
  | .raw piece => by simp [Operand.parameters, Operand.supplied, values]
  | .select query => by
    rw [Operand.parameters, Operand.supplied, values_append, values_column,
      Select.values_parameters query]
    rfl

theorem UnionMember.values_allParameters : ∀ members : List UnionMember,
    (UnionMember.allParameters members).map Parameter.value
      = values (UnionMember.suppliedAll members)
  | [] => rfl
  | ⟨kind, query⟩ :: members => by
    rw [UnionMember.allParameters, UnionMember.suppliedAll, List.map_append, values_append,
      Select.values_parameters query, UnionMember.values_allParameters members]

end

/-- **The parameters of a statement** have its bound values, in order. -/
theorem Query.values_parameters (query : Query) :
    query.parameters.map Parameter.value = query.boundValues := by
  rw [Query.boundValues]
  cases query with
  | select query => exact Select.values_parameters query
  | insert query =>
    have row : ∀ row : List NewValue, values (row.flatMap NewValue.supplied)
        = (row.filterMap NewValue.parameter?).map Parameter.value :=
      values_flatMap_parameter? values_newValue
    rw [Query.parameters, Query.supplied, Insert.supplied, values_append, values_append,
      values_target, values_names, values_flatMap, List.map_flatMap]
    simp only [row, List.nil_append]
  | update query =>
    have sets : values (query.sets.flatMap fun set => .name set.1 :: set.2.supplied)
        = (query.sets.filterMap fun set => set.2.parameter?).map Parameter.value := by
      refine values_flatMap_parameter? (fun set => ?_) query.sets
      exact values_newValue set.2
    rw [Query.parameters, Query.supplied, Update.supplied, values_append, values_append,
      values_target, sets, List.map_append, Clause.values_allParameters]
    rfl
  | delete query =>
    rw [Query.parameters, Query.supplied, Delete.supplied, values_append, values_target,
      Clause.values_allParameters]
    rfl

/-! ### Lists that are bound as one value -/

/-- A list is bound as one value only where the dialect can do so. -/
def Parameter.AllBindable (d : Dialect) (parameters : List Parameter) : Prop :=
  ∀ parameter ∈ parameters, parameter.site = .list → d.bindsLists = true

variable {d : Dialect}

namespace Parameter

@[simp] theorem bindable_nil : AllBindable d [] :=
  List.forall_mem_nil _

@[simp] theorem bindable_append (first second : List Parameter) :
    AllBindable d (first ++ second) ↔ AllBindable d first ∧ AllBindable d second :=
  List.forall_mem_append

theorem bindable_filterMap {α : Type} {parameter? : α → Option Parameter}
    (h : ∀ a parameter, parameter? a = some parameter → parameter.site ≠ .list) (list : List α) :
    AllBindable d (list.filterMap parameter?) := by
  intro parameter member list
  obtain ⟨a, -, found⟩ := List.mem_filterMap.mp member
  exact absurd list (h a parameter found)

theorem bindable_flatMap {α : Type} {parameters : α → List Parameter}
    (h : ∀ a, AllBindable d (parameters a)) (list : List α) :
    AllBindable d (list.flatMap parameters) := by
  intro parameter member
  obtain ⟨a, -, inside⟩ := List.mem_flatMap.mp member
  exact h a parameter inside

end Parameter

open Parameter

theorem Field.bindable_parameters (field : Field) : AllBindable d field.parameters := by
  rw [Field.parameters]
  cases field.source with
  | column name => exact bindable_nil
  | raw piece => exact bindable_nil
  | function f =>
    refine bindable_filterMap (fun argument parameter found => ?_) f.arguments
    cases argument <;> cases found
    exact nofun

theorem NewValue.site_ne_list {value : NewValue} {parameter : Parameter}
    (found : value.parameter? = some parameter) : parameter.site ≠ .list := by
  cases value <;> cases found
  exact nofun

mutual

theorem Select.bindable_parameters : ∀ query : Select, query.WellFormed d →
    AllBindable d query.parameters
  | ⟨target, fields, distinct, orders, groups, joins, unions, clauses, limit, offset, forwardKey,
      groupResults, error⟩, h => by
    obtain ⟨-, joined, conditions, members, -⟩ := h
    rw [Select.parameters]
    simp only [bindable_append]
    exact ⟨⟨⟨bindable_flatMap Field.bindable_parameters fields,
      Join.bindable_allParameters joins joined⟩, Clause.bindable_allParameters clauses conditions⟩,
      UnionMember.bindable_allParameters unions members⟩

theorem Join.bindable_allParameters : ∀ joins : List Join, Join.AllWellFormed d joins →
    AllBindable d (Join.allParameters joins)
  | [], _ => bindable_nil
  | join :: joins, h =>
    (bindable_append ..).mpr ⟨Join.bindable_parameters join h.1,
      Join.bindable_allParameters joins h.2⟩

theorem Join.bindable_parameters : ∀ join : Join, join.WellFormed d → AllBindable d join.parameters
  | ⟨kind, source, on⟩, h => by
    rw [Join.parameters, bindable_append]
    refine ⟨JoinSource.bindable_parameters source h.1, ?_⟩
    by_cases cross : kind = .cross
    · rw [if_pos cross]
      exact bindable_nil
    · rw [if_neg cross]
      exact JoinCondition.bindable_parameters on (h.2 cross)

theorem JoinSource.bindable_parameters : ∀ source : JoinSource, source.WellFormed d →
    AllBindable d source.parameters
  | .table _, _ => bindable_nil
  | .select query _, h => Select.bindable_parameters query h

theorem JoinCondition.bindable_parameters : ∀ on : JoinCondition, on.WellFormed d →
    AllBindable d on.parameters
  | .columns .., _ => bindable_nil
  | .clauses list, h => Clause.bindable_allParameters list h.1

theorem Clause.bindable_allParameters : ∀ clauses : List Clause, Clause.AllWellFormed d clauses →
    AllBindable d (Clause.allParameters clauses)
  | [], _ => bindable_nil
  | ⟨_, predicate⟩ :: clauses, h =>
    (bindable_append ..).mpr ⟨Predicate.bindable_parameters predicate h.1,
      Clause.bindable_allParameters clauses h.2⟩

theorem Predicate.bindable_parameters : ∀ predicate : Predicate, predicate.WellFormed d →
    AllBindable d predicate.parameters
  | .compare _ operator operand, h => Operand.bindable_parameters operator operand h
  | .columns .., _ => bindable_nil
  | .exists _ query, h => Select.bindable_parameters query h
  | .group clauses, h => Clause.bindable_allParameters clauses h

theorem Operand.bindable_parameters (operator : Operator) : ∀ operand : Operand,
    operand.WellFormed d operator → AllBindable d (operand.parameters operator)
  | .value v, _ => List.forall_mem_singleton.mpr nofun
  | .list values, h => by
    rw [Operand.parameters]
    split
    · exact List.forall_mem_map.mpr fun _ _ => nofun
    · next other => exact List.forall_mem_singleton.mpr fun _ => h.resolve_left other
  | .raw _, _ => bindable_nil
  | .select query, h => Select.bindable_parameters query h

theorem UnionMember.bindable_allParameters : ∀ members : List UnionMember,
    UnionMember.AllWellFormed d members → AllBindable d (UnionMember.allParameters members)
  | [], _ => bindable_nil
  | ⟨_, query⟩ :: members, h =>
    (bindable_append ..).mpr ⟨Select.bindable_parameters query h.1,
      UnionMember.bindable_allParameters members h.2⟩

end

/-- **A statement that can be written** has a list as one value only where the dialect can bind
it. -/
theorem Query.bindable_parameters {query : Query} (h : query.WellFormed d) :
    AllBindable d query.parameters := by
  cases query with
  | select query => exact Select.bindable_parameters query h
  | insert query =>
    exact bindable_flatMap (bindable_filterMap fun _ _ => NewValue.site_ne_list) query.rows
  | update query =>
    refine (bindable_append ..).mpr ⟨?_, Clause.bindable_allParameters query.clauses h.2.2⟩
    exact bindable_filterMap (fun _ _ => NewValue.site_ne_list) query.sets
  | delete query => exact Clause.bindable_allParameters query.clauses h.2

/-- An array that is given as an operand is a list. -/
theorem Operand.parameters_ofValue (v : Value) (operator : Operator) (items : List Value) :
    ⟨.operand, .array items⟩ ∉ (Operand.ofValue v).parameters operator := by
  cases v with
  | array list =>
    rw [Operand.ofValue, Operand.parameters]
    split <;> simp
  | _ => simp [Operand.ofValue, Operand.parameters]

/-- **Where arrays are bound.**  The values of a statement that can be written are those of its
parameters.  A list that a column is compared with is one of them only if the dialect can bind it as
one value.  In a dialect that cannot, an array is bound exactly if it is an argument of a function,
a single operand, an item of a list behind `IN` or a new value.  No value that is given as an
operand makes an array a single operand. -/
theorem Query.binds_arrays {query : Query} {p : Prepared}
    (compiled : query.compile d = .ok p) :
    p.bindings = query.parameters.map Parameter.value ∧
    (∀ parameter ∈ query.parameters, parameter.site = .list → d.bindsLists = true) ∧
    (d.bindsLists = false → ∀ items, .array items ∈ p.bindings ↔
      ∃ site ∈ [Site.argument, .operand, .item, .entry],
        ⟨site, .array items⟩ ∈ query.parameters) ∧
    ∀ (v : Value) (operator : Operator) (items : List Value),
      ⟨.operand, .array items⟩ ∉ (Operand.ofValue v).parameters operator := by
  have bindings : p.bindings = query.parameters.map Parameter.value := by
    rw [Query.bindings_eq compiled, Query.values_parameters]
  have bindable := Query.bindable_parameters ((query.compile_outcome d).1.mp ⟨p, compiled⟩)
  refine ⟨bindings, bindable, fun unable items => ?_, Operand.parameters_ofValue⟩
  rw [bindings, List.mem_map]
  constructor
  · rintro ⟨⟨site, value⟩, member, rfl⟩
    have single : site ≠ .list := fun list => by
      rw [bindable _ member list] at unable
      cases unable
    refine ⟨site, ?_, member⟩
    cases site <;> simp at single ⊢
  · rintro ⟨site, -, member⟩
    exact ⟨_, member, rfl⟩

/-- A select of a rounded column, with a list behind `IN` that has a list in it. -/
theorem Query.binds_arrays_nested :
    let t : Target := ⟨none, ⟨"t", none⟩, .mysql, {}⟩
    let pair : Value := .array [.int32 1, .int32 2]
    let query : Query := .select { Select.all t with
      fields := [⟨.function ⟨"round", [.column "a", .value (.int32 2)]⟩, none⟩]
      clauses := [⟨.and, .group [⟨.and, .compare (.name "b") .isIn (.list [pair, .int32 3])⟩]⟩] }
    query.compile .mysql = .ok ⟨"SELECT ROUND(`a`, ?) FROM `t` WHERE (`b` IN (?, ?))",
        [.int32 2, pair, .int32 3]⟩ ∧
      ∃ site ∈ [Site.argument, .operand, .item, .entry], ⟨site, pair⟩ ∈ query.parameters := by
  intro t pair query
  have compiled : query.compile .mysql = .ok ⟨"SELECT ROUND(`a`, ?) FROM `t` WHERE (`b` IN (?, ?))",
      [.int32 2, pair, .int32 3]⟩ := by
    simp only [query, pair, t]
    rfl
  obtain ⟨-, -, arrays, -⟩ := Query.binds_arrays compiled
  exact ⟨compiled, (arrays rfl _).mp (.tail _ (.head _))⟩

/-- A dialect that cannot bind a list as one value is given one by a row, by an assignment, by an
argument of a function and by an item of a list. -/
theorem Query.binds_arrays_unable :
    let t : Target := ⟨none, ⟨"t", none⟩, .mysql, {}⟩
    let pair : Value := .array [.int32 1, .int32 2]
    let insert : Query := .insert (InsertCall.applyAll (Insert.into t)
      [.row (.pairs [("a", .value pair)])])
    let update : Query := .update (UpdateCall.applyAll (Update.of t) [.set "a" (.value pair)])
    let argument : Query := .select (SelectCall.applyAll (Select.all t)
      [.addField ⟨.function ⟨"f", [.value pair]⟩, none⟩ none])
    let item : Query := .select (SelectCall.applyAll (Select.all t)
      [.filter (.oneOf .and false (.name "a") [pair])])
    Dialect.mysql.bindsLists = false ∧
      insert.compile .mysql = .ok ⟨"INSERT INTO `t` (`a`) VALUES (?)", [pair]⟩ ∧
      update.compile .mysql = .ok ⟨"UPDATE `t` SET `a` = ?", [pair]⟩ ∧
      argument.compile .mysql = .ok ⟨"SELECT F(?) FROM `t`", [pair]⟩ ∧
      item.compile .mysql = .ok ⟨"SELECT * FROM `t` WHERE `a` IN (?)", [pair]⟩ :=
  ⟨rfl, rfl, rfl, rfl, rfl⟩

end SqlBuilder
