import SqlBuilder.Proofs.Conditions
import SqlBuilder.Proofs.Terminal

/-! # What a row is found by

`AND` ties tighter than `OR`.  A level of conditions in a row, as a text has them, is therefore a
choice of runs: `OR` stands between the runs and `AND` within each (`Conditions.tokens_runs`), and
the level holds when all conditions of one run hold (`Conditions.Holds`).

A row is found by a comparison that is tied with `AND` to the end of the level.  It stands in the
last run, and in no other one.  So a row under which the level holds has the value that it was to be
found by when there is no other run, which is when no `OR` is on the level
(`Conditions.entails_last_iff`): `Select.find_entails` says when that is in terms of the select, and
`Select.find_unentailed` is a select where it is not.
-/
namespace SqlBuilder

/-! ### Lists in a row -/

/-- A list behind others, with a list between each two of them. -/
theorem intercalate_concat {β : Type} (between last : List β) {lists : List (List β)}
    (nonempty : lists ≠ []) :
    between.intercalate (lists ++ [last]) = between.intercalate lists ++ between ++ last := by
  rw [intercalate_append_lists between nonempty (List.cons_ne_nil _ _), List.intercalate_singleton]

/-- A list with more at the end of its last part. -/
theorem intercalate_append {β : Type} (between last more : List β) (lists : List (List β)) :
    between.intercalate (lists ++ [last ++ more])
      = between.intercalate (lists ++ [last]) ++ more := by
  by_cases empty : lists = []
  · simp [empty]
  · rw [intercalate_concat _ _ empty, intercalate_concat _ _ empty, List.append_assoc _ last more]

/-! ### Runs of a level -/

namespace Conditions

variable {α : Type}

/-- The number of conditions on a level. -/
def size : Conditions α → Nat
  | .first _ => 1
  | .tied before _ _ => before.size + 1

/-- The connectives on a level. -/
def ties : Conditions α → List Connective
  | .first _ => []
  | .tied before connective _ => before.ties ++ [connective]

/-- The last condition of a level with its place, counted from zero. -/
def last : Conditions α → Nat × Condition α
  | .first condition => (0, condition)
  | .tied before _ condition => (before.size, condition)

/-- The conditions behind the last `OR`, or all of them, with their places. -/
def lastRun : Conditions α → List (Nat × Condition α)
  | .first condition => [(0, condition)]
  | .tied before .and condition => before.lastRun ++ [(before.size, condition)]
  | .tied before .or condition => [(before.size, condition)]

/-- The conditions before the last `OR`, divided at every other one. -/
def earlierRuns : Conditions α → List (List (Nat × Condition α))
  | .first _ => []
  | .tied before .and _ => before.earlierRuns
  | .tied before .or _ => before.earlierRuns ++ [before.lastRun]

/-- The conditions of a level with their places, divided at every `OR`. -/
def runs (level : Conditions α) : List (List (Nat × Condition α)) :=
  level.earlierRuns ++ [level.lastRun]

/-- **When a level holds**, if its conditions hold as given: all conditions of one of its runs
do. -/
def Holds (truth : Nat × Condition α → Prop) (level : Conditions α) : Prop :=
  ∃ run ∈ level.runs, ∀ condition ∈ run, truth condition

/-- Conditions in a row with `AND` between them. -/
def runTokens (run : List (Nat × Condition α)) : List (ConditionToken α) :=
  [.tie .and].intercalate (run.map fun condition => condition.2.tokens)

theorem lastRun_ne_nil (level : Conditions α) : level.lastRun ≠ [] := by
  cases level with
  | first condition => exact List.cons_ne_nil _ _
  | tied before connective condition =>
    cases connective with
    | and => exact List.append_ne_nil_of_right_ne_nil _ (List.cons_ne_nil _ _)
    | or => exact List.cons_ne_nil _ _

/-- **A level is a choice of runs.**  In a row it has `OR` between its runs and `AND` between the
conditions of each. -/
theorem tokens_runs : ∀ level : Conditions α,
    level.tokens = [.tie .or].intercalate (level.runs.map runTokens)
  | .first condition => by simp [tokens, runs, earlierRuns, lastRun, runTokens]
  | .tied before .and condition => by
    have longer : runTokens (before.lastRun ++ [(before.size, condition)])
        = runTokens before.lastRun ++ .tie .and :: condition.tokens := by
      have nonempty : (before.lastRun.map fun condition => condition.2.tokens) ≠ [] :=
        mt List.map_eq_nil_iff.mp before.lastRun_ne_nil
      rw [runTokens, List.map_append, List.map_singleton, intercalate_concat _ _ nonempty,
        List.append_assoc]
      rfl
    rw [tokens, before.tokens_runs, runs, runs, earlierRuns, lastRun, List.map_append,
      List.map_append, List.map_singleton, List.map_singleton, longer, intercalate_append]
  | .tied before .or condition => by
    have nonempty : (before.runs.map runTokens) ≠ [] :=
      mt List.map_eq_nil_iff.mp (List.append_ne_nil_of_right_ne_nil _ (List.cons_ne_nil _ _))
    have alone : runTokens [(before.size, condition)] = condition.tokens := by
      simp [runTokens]
    have divided : (tied before .or condition).runs
        = before.runs ++ [[(before.size, condition)]] := rfl
    rw [tokens, before.tokens_runs, divided, List.map_append, List.map_singleton,
      intercalate_concat _ _ nonempty, alone, List.append_assoc]
    rfl

/-- Every condition of a level stands in one of its runs, all in their order. -/
theorem places_runs (level : Conditions α) :
    level.runs.flatten.map Prod.fst = List.range level.size := by
  cases level with
  | first condition => rfl
  | tied before connective condition =>
    have longer : (tied before connective condition).runs.flatten
        = before.runs.flatten ++ [(before.size, condition)] := by
      cases connective <;> simp [runs, earlierRuns, lastRun]
    rw [longer, List.map_append, before.places_runs, size, List.range_succ]
    rfl

/-- Under all conditions under which a level holds another one does, exactly when this is in every
run. -/
theorem entails_iff (level : Conditions α) (condition : Nat × Condition α) :
    (∀ truth, level.Holds truth → truth condition) ↔ ∀ run ∈ level.runs, condition ∈ run := by
  constructor
  · intro entails run member
    exact entails (· ∈ run) ⟨run, member, fun _ h => h⟩
  · rintro all truth ⟨run, member, holds⟩
    exact holds _ (all run member)

/-- The last condition stands in the last run. -/
theorem last_mem_lastRun (level : Conditions α) : level.last ∈ level.lastRun := by
  cases level with
  | first condition => exact List.mem_singleton_self _
  | tied before connective condition =>
    cases connective with
    | and => exact List.mem_append_right _ (List.mem_singleton_self _)
    | or => exact List.mem_singleton_self _

/-- It stands in no other one, because of its place. -/
theorem last_notMem_earlierRuns (level : Conditions α) :
    ∀ run ∈ level.earlierRuns, level.last ∉ run := by
  intro run member present
  cases level with
  | first condition => cases member
  | tied before connective condition =>
    have earlier : run ∈ before.runs := by
      cases connective with
      | and => exact List.mem_append_left _ member
      | or => exact member
    have place : before.size ∈ before.runs.flatten.map Prod.fst :=
      List.mem_map_of_mem (List.mem_flatten_of_mem earlier present)
    rw [places_runs, List.mem_range] at place
    exact Nat.lt_irrefl _ place

theorem earlierRuns_eq_nil_iff : ∀ level : Conditions α,
    level.earlierRuns = [] ↔ .or ∉ level.ties
  | .first condition => by simp [earlierRuns, ties]
  | .tied before .and condition => by
    rw [earlierRuns, before.earlierRuns_eq_nil_iff, ties]
    simp
  | .tied before .or condition => by simp [earlierRuns, ties]

/-- **The last condition of a level** holds whenever the level does, exactly when no `OR` is on the
level. -/
theorem entails_last_iff (level : Conditions α) :
    (∀ truth, level.Holds truth → truth level.last) ↔ .or ∉ level.ties := by
  rw [entails_iff, ← earlierRuns_eq_nil_iff]
  constructor
  · intro all
    refine List.eq_nil_iff_forall_not_mem.mpr fun run member => ?_
    exact level.last_notMem_earlierRuns run member (all run (List.mem_append_left _ member))
  · intro single run member
    rw [runs, single, List.nil_append, List.mem_singleton] at member
    exact member ▸ level.last_mem_lastRun

end Conditions

/-! ### The level of some clauses -/

theorem Conditions.connectives_clauses (level : Conditions Predicate) :
    level.clauses.map Clause.connective = .and :: level.ties := by
  cases level with
  | first condition => rfl
  | tied before connective condition =>
    rw [clauses, List.map_append, before.connectives_clauses]
    rfl

namespace Clause

theorem conditions_append : ∀ (before : Option (Conditions Predicate)) (first second : List Clause),
    conditions before (first ++ second) = conditions (conditions before first) second
  | _, [], _ => by rw [List.nil_append, conditions]
  | before, ⟨connective, predicate⟩ :: first, second => by
    rw [List.cons_append, conditions, conditions, conditions_append]

theorem connectives_lead (clauses : List Clause) :
    (lead false clauses).map connective = clauses.map connective := by
  induction clauses with
  | nil => rw [lead]
  | cons clause clauses ih =>
    obtain ⟨connective, predicate⟩ := clause
    rw [lead, List.map_cons, ih]
    rfl

/-- The connectives on the level of some clauses are those of the clauses that hold a comparison,
without the first. -/
theorem ties_conditions {clauses : List Clause} {level : Conditions Predicate}
    (h : conditions none clauses = some level) :
    level.ties = (prune clauses).tail.map connective := by
  have lossless : level.clauses = lead true (prune clauses) := by
    have kept := clauses_conditions none clauses
    rwa [h] at kept
  have connectives := level.connectives_clauses
  rw [lossless] at connectives
  cases kept : prune clauses with
  | nil =>
    rw [kept, lead] at connectives
    cases connectives
  | cons clause rest =>
    obtain ⟨connective, predicate⟩ := clause
    rw [kept, lead, List.map_cons, connectives_lead] at connectives
    exact (List.cons.inj connectives).2.symm

/-- With one more comparison behind it, a level ends in this and keeps its own connectives. -/
theorem conditions_concat (clauses : List Clause) {comparison : Predicate}
    (leaf : comparison.condition = some (.leaf comparison)) :
    ∃ level, conditions none (clauses ++ [⟨.and, comparison⟩]) = some level ∧
      level.last.2 = .leaf comparison ∧
      (.or ∉ level.ties ↔ ∀ clause ∈ (prune clauses).tail, clause.connective = .and) := by
  rw [conditions_append, conditions, conditions, leaf]
  cases before : conditions none clauses with
  | none =>
    have leafless := ((conditions_eq_none_iff none clauses).mp before).2
    refine ⟨_, rfl, rfl, ?_⟩
    rw [(prune_eq_nil_iff clauses).mpr leafless]
    simp [Conditions.ties]
  | some level =>
    refine ⟨_, rfl, rfl, ?_⟩
    have other (connective : Connective) : .or ≠ connective ↔ connective = .and := by
      cases connective <;> decide
    rw [Conditions.ties, ties_conditions before, List.mem_append, List.mem_map]
    simp [← other, eq_comm]

end Clause

/-! ### Finding a row -/

namespace Select

variable {executor : Executor} {query : Select} {p : Prepared}

/-- A select that is read sends the statement that it is written as. -/
theorem executed_get (compiled : (Query.select query).prepare = .ok p) :
    (query.get executor).executed = [p.statement .select] := by
  rw [get, fetch, compiled, Session.prepare]
  simp only [Session.andThen, Session.execute]
  rcases executor ⟨p.sql, p.bindings, .select⟩ with e | outcome
  · rfl
  · cases outcome <;> rfl

/-- **What a row is found by.**  A row that is found in a select is asked for with the comparison of
a column with a value behind the conditions of the select.

* The conditions that are written behind `WHERE` are runs with `OR` between them and `AND` within
  them, and the comparison stands last.
* The comparison is true whenever the level as a whole is, for any truth of its conditions, exactly
  when no condition that the select had is tied with `OR`, but for its first and for groups that
  hold no comparison.
* This is the statement that is sent, if it can be written. -/
theorem find_entails (executor : Executor) (query : Select) (value : Value) (column : String) :
    let comparison : Predicate := .compare (.ofText column) .eq (.value value)
    let terminal : Terminal := .find (.value value) column
    let found := SelectCall.applyAll query terminal.calls
    ∃ level, Clause.conditions none found.clauses = some level ∧
      level.last.2 = .leaf comparison ∧
      ((∀ truth, level.Holds truth → truth level.last) ↔
        ∀ clause ∈ (Clause.prune query.clauses).tail, clause.connective = .and) ∧
      (∀ d, Clause.writeAll d "" found.clauses = Writing.inOrder
        (([.tie .or].intercalate (level.runs.map Conditions.runTokens)).map
          (ConditionToken.write d))) ∧
      ∀ p, (Query.select found).prepare = .ok p →
        (query.read executor terminal).executed = [p.statement .select] ∧
        ∃ text, text ≠ "" ∧
          (Query.select found).Placed found.target.dialect text [] p.bindings p.sql := by
  intro comparison terminal found
  have leaf : comparison.condition = some (.leaf comparison) := rfl
  obtain ⟨level, tree, last, ties⟩ := Clause.conditions_concat query.clauses leaf
  have clauses : found.clauses = query.clauses ++ [⟨.and, comparison⟩] := rfl
  rw [← clauses] at tree
  refine ⟨level, tree, last, level.entails_last_iff.trans ties, fun d => ?_, fun p compiled => ?_⟩
  · rw [Clause.writeAll_eq, Clause.tokens, tree, ← level.tokens_runs]
    rfl
  · obtain ⟨text, placed⟩ := Query.placed_of_write (Query.run_of_compile compiled)
    refine ⟨executed_get compiled, text, fun empty => ?_, placed⟩
    obtain ⟨fields, between, joins, bound, after, members, -, -, conditions, -⟩ := placed
    have leafless := (Clause.text_eq_empty_iff _ conditions).mp empty
    cases tree.symm.trans ((Clause.conditions_eq_none_iff none _).mpr ⟨rfl, leafless⟩)

/-- A user is found by the identifier behind two conditions that are tied with `AND`, one of them a
group of two that are tied with `OR`. -/
theorem find_entails_grouped :
    let users : Select := Select.all ⟨none, ⟨"users", none⟩, .sqlite, {}⟩
    let either : List Clause := [⟨.and, .compare (.name "a") .eq (.value (.int32 1))⟩,
      ⟨.or, .compare (.name "b") .eq (.value (.int32 2))⟩]
    let query : Select := { users with clauses :=
      [⟨.or, .group either⟩, ⟨.and, .compare (.name "c") .eq (.value (.int32 3))⟩] }
    let id : Predicate := .compare (.name "id") .eq (.value (.int32 5))
    (query.find (fun _ => .ok (.rows [])) (.value (.int32 5)) "id").executed =
        [⟨"SELECT * FROM \"users\" WHERE (\"a\" = ? OR \"b\" = ?)" ++
          " AND \"c\" = ? AND \"id\" = ? LIMIT 1",
          [.int32 1, .int32 2, .int32 3, .int32 5], .select⟩] ∧
      ∃ level, Clause.conditions none (query.push .and id).clauses = some level ∧
        level.last.2 = .leaf id ∧ ∀ truth, level.Holds truth → truth level.last := by
  intro users either query id
  have tied : ∀ clause ∈ (Clause.prune query.clauses).tail, clause.connective = .and := by
    decide
  obtain ⟨level, tree, last, entails, -, sends⟩ :=
    find_entails (fun _ => .ok (.rows [])) query (.int32 5) "id"
  have compiled : (Query.select (SelectCall.applyAll query
      (Terminal.find (.value (.int32 5)) "id").calls)).prepare = .ok
        ⟨"SELECT * FROM \"users\" WHERE (\"a\" = ? OR \"b\" = ?)" ++
          " AND \"c\" = ? AND \"id\" = ? LIMIT 1",
          [.int32 1, .int32 2, .int32 3, .int32 5]⟩ := by
    simp only [query, users, either]
    rfl
  exact ⟨(sends _ compiled).1, level, tree, last, entails.mpr tied⟩

/-- **Another row is found** where a condition of the select is tied with `OR`: all the conditions
hold when the first of them does, whatever the identifier is. -/
theorem find_unentailed :
    let users : Select := Select.all ⟨none, ⟨"users", none⟩, .sqlite, {}⟩
    let a : Predicate := .compare (.name "a") .eq (.value (.int32 1))
    let b : Predicate := .compare (.name "b") .eq (.value (.int32 2))
    let id : Predicate := .compare (.name "id") .eq (.value (.int32 5))
    let query : Select := { users with clauses := [⟨.and, a⟩, ⟨.or, b⟩] }
    let level : Conditions Predicate :=
      .tied (.tied (.first (.leaf a)) .or (.leaf b)) .and (.leaf id)
    (query.find (fun _ => .ok (.rows [])) (.value (.int32 5)) "id").executed =
        [⟨"SELECT * FROM \"users\" WHERE \"a\" = ? OR \"b\" = ? AND \"id\" = ? LIMIT 1",
          [.int32 1, .int32 2, .int32 5], .select⟩] ∧
      Clause.conditions none (query.push .and id).clauses = some level ∧
      level.runs = [[(0, .leaf a)], [(1, .leaf b), (2, .leaf id)]] ∧
      ∃ truth, level.Holds truth ∧ ¬ truth level.last := by
  intro users a b id query level
  have sent : (query.find (fun _ => .ok (.rows [])) (.value (.int32 5)) "id").executed =
      [⟨"SELECT * FROM \"users\" WHERE \"a\" = ? OR \"b\" = ? AND \"id\" = ? LIMIT 1",
        [.int32 1, .int32 2, .int32 5], .select⟩] := by
    simp only [query, users, a, b]
    rfl
  have runs : level.runs = [[(0, .leaf a)], [(1, .leaf b), (2, .leaf id)]] := rfl
  have holds : level.Holds fun condition => condition.1 = 0 := by
    refine ⟨[(0, .leaf a)], runs ▸ List.mem_cons_self, fun condition member => ?_⟩
    rw [List.mem_singleton.mp member]
  exact ⟨sent, rfl, runs, _, holds, by decide⟩

end Select

end SqlBuilder
