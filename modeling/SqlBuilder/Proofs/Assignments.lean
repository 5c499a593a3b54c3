import SqlBuilder.Proofs.Filtering
import SqlBuilder.Proofs.InsertRows
import SqlBuilder.Proofs.Joins
import SqlBuilder.Proofs.Parameters

/-! # What an update sets

An update is built by calls that set columns, one or several at once, and by calls that filter, in
any order.  `UpdateCall.assignments` reads the former off the calls: columns as they are written,
with white space around them, and the values given for them.

Setting a column puts its value under the trimmed name, so that a call keeps what was set before it
and every assignment takes the place of an earlier one for its column (`UpdateCall.sets_apply` for
one call, `UpdateCall.sets_applyAll` for all).  From this follows what the update sets at the end,
and with the pieces of the statement what it binds (`Update.sets_of_calls`).
-/
namespace SqlBuilder

/-! ### Assignments -/

/-- The columns that a call sets, as it is given them, and their values. -/
def UpdateCall.assignments : UpdateCall → List (String × NewValue)
  | .filter _ => []
  | .set column value => [(column, value)]
  | .setMany given => given

/-- An assignment under the name that its column has without white space around it. -/
def Update.stored (assignment : String × NewValue) : String × NewValue :=
  (Text.trimmed assignment.1, assignment.2)

theorem Pairs.putAll_append {K V : Type} [DecidableEq K] (entries first second : List (K × V)) :
    putAll entries (first ++ second) = putAll (putAll entries first) second :=
  List.foldl_append

/-- Setting columns at once is setting them one by one. -/
theorem Update.setMany_eq (query : Update) (given : List (String × NewValue)) :
    query.setMany given
      = UpdateCall.applyAll query (given.map fun assignment => .set assignment.1 assignment.2) := by
  rw [setMany, UpdateCall.applyAll, List.foldl_map]
  rfl

theorem Update.sets_setMany (query : Update) (given : List (String × NewValue)) :
    (query.setMany given).sets = Pairs.putAll query.sets (given.map stored) := by
  induction given generalizing query with
  | nil => rfl
  | cons assignment given ih => exact ih (query.set assignment.1 assignment.2)

/-- **One call** puts its assignments behind what is set. -/
theorem UpdateCall.sets_apply (query : Update) (call : UpdateCall) :
    (UpdateCall.apply query call).sets
      = Pairs.putAll query.sets (call.assignments.map Update.stored) := by
  cases call with
  | filter call => rfl
  | set column value => rfl
  | setMany given => exact query.sets_setMany given

/-- **Calls** put all their assignments, one after the other. -/
theorem UpdateCall.sets_applyAll (calls : List UpdateCall) (query : Update) :
    (UpdateCall.applyAll query calls).sets
      = Pairs.putAll query.sets ((calls.flatMap UpdateCall.assignments).map Update.stored) := by
  induction calls generalizing query with
  | nil => rfl
  | cons call calls ih =>
    have rest : (UpdateCall.applyAll query (call :: calls)).sets
        = (UpdateCall.applyAll (UpdateCall.apply query call) calls).sets := rfl
    rw [rest, ih, UpdateCall.sets_apply, List.flatMap_cons, List.map_append, Pairs.putAll_append]

/-! ### What is bound -/

/-- The values that conditions bind, in their order. -/
def Clause.boundValues (clauses : List Clause) : List Value :=
  Piece.values (Clause.suppliedAll clauses)

/-- Conditions that are written somewhere bind the same values when they are written alone. -/
theorem Clause.run_writeAll_alone {d : Dialect} {clauses : List Clause} {bound after : List Value}
    {text : String} (written : (Clause.writeAll d "" clauses).run bound = .ok (text, after)) :
    ∃ alone, (Clause.writeAll d "" clauses).run [] = .ok (alone, Clause.boundValues clauses) := by
  have gives := (Clause.simulated d clauses).gives
  obtain ⟨ps, pieces, -⟩ := gives.of_run written
  obtain ⟨parts, hparts, connected⟩ := bind_eq_ok_iff.mp pieces
  cases connected
  refine ⟨Piece.render d 0 (Clause.connect parts), ?_⟩
  rw [gives [], pieces, Clause.boundValues, ← Clause.supplied_parts clauses hparts,
    Piece.values_supplied]
  rfl

/-- An update binds the values that it sets and then those of its conditions. -/
theorem Update.boundValues_eq (query : Update) : (Query.update query).boundValues
    = query.sets.filterMap (fun set => set.2.bound?) ++ Clause.boundValues query.clauses := by
  have sets : Piece.values (query.sets.flatMap fun set => .name set.1 :: set.2.supplied)
      = query.sets.filterMap fun set => set.2.bound? := by
    rw [Piece.values_flatMap, List.filterMap_eq_flatMap_toList]
    refine List.flatMap_congr fun set _ => ?_
    cases set.2 <;> rfl
  show Piece.values (query.target.supplied ++ query.sets.flatMap _
    ++ Clause.suppliedAll query.clauses) = _
  rw [Piece.values_append, Piece.values_append, Piece.values_target,
    List.nil_append, sets]
  rfl

namespace Update

/-- **What an update sets.**  After any calls, each column that one of them sets is set once, under
its trimmed name, where it was first set, and to the value that it was last given.  Setting columns
at once is the same as setting them one by one, the calls that filter have the effect that they
have alone, and an update that can be written binds first the values that it sets, in this order,
and then those that its conditions bind alone. -/
theorem sets_of_calls (target : Target) (calls : List UpdateCall) :
    let query := UpdateCall.applyAll (Update.of target) calls
    let given := calls.flatMap UpdateCall.assignments
    (Pairs.keys query.sets).Nodup ∧
    Pairs.keys query.sets = (given.map fun assignment => Text.trimmed assignment.1).eraseDups ∧
    (∀ column, Pairs.get? query.sets column =
      ((given.filter fun assignment => Text.trimmed assignment.1 = column).getLast?).map
        Prod.snd) ∧
    (∀ (query : Update) (given : List (String × NewValue)),
      UpdateCall.apply query (.setMany given) = UpdateCall.applyAll query
        (given.map fun assignment => .set assignment.1 assignment.2)) ∧
    query.filters = FilterCall.applyAll .empty (calls.filterMap UpdateCall.filter?) ∧
    ∀ (d : Dialect) (p : Prepared), (Query.update query).compile d = .ok p →
      ∃ text conditions, (Clause.writeAll d "" query.clauses).run [] = .ok (text, conditions) ∧
        p.bindings = query.sets.filterMap (fun set => set.2.bound?) ++ conditions := by
  intro query given
  have sets : query.sets = Pairs.dedupe (given.map stored) :=
    UpdateCall.sets_applyAll calls (Update.of target)
  refine ⟨?_, ?_, fun column => ?_, setMany_eq, UpdateCall.filters_applyAll calls _,
    fun d p compiled => ?_⟩
  · rw [sets]
    exact Pairs.nodup_keys_dedupe _
  · rw [sets, Pairs.keys_dedupe, Pairs.keys, List.map_map]
    rfl
  · rw [sets, Pairs.get?_dedupe, List.filter_map, List.getLast?_map, Option.map_map]
    rfl
  · obtain ⟨bare, -, text, written, -⟩ := query.endsFiltered p compiled
    obtain ⟨alone, conditions⟩ := Clause.run_writeAll_alone written
    exact ⟨alone, _, conditions, (Query.bindings_eq compiled).trans query.boundValues_eq⟩

/-- Two columns, of which one is set again with other white space around it and a piece of SQL in
the place of its value, and a filter between. -/
theorem sets_of_calls_again :
    let users : Target := ⟨none, ⟨"users", none⟩, .postgres, {}⟩
    let older : FilterCall :=
      .compare .and (.name "age") (.text ">") (.value (.int32 40))
    let calls : List UpdateCall := [
      .setMany [("seen", .value (.int32 1)), ("name", .raw ⟨"NOW()"⟩)], .filter older,
      .set " name " (.value (.text "Jo")), .set "seen" (.raw ⟨"DEFAULT"⟩)]
    let query := UpdateCall.applyAll (Update.of users) calls
    let p : Prepared :=
      ⟨"UPDATE \"users\" SET \"seen\" = DEFAULT, \"name\" = $1 WHERE \"age\" > $2",
        [.text "Jo", .int32 40]⟩
    Pairs.keys query.sets = ["seen", "name"] ∧ (Query.update query).compile .postgres = .ok p ∧
      ∃ text conditions,
        (Clause.writeAll .postgres "" query.clauses).run [] = .ok (text, conditions) ∧
        p.bindings = query.sets.filterMap (fun set => set.2.bound?) ++ conditions := by
  intro users older calls query p
  have compiled : (Query.update query).compile .postgres = .ok p := by
    simp only [query, calls, older, users, p]
    rfl
  obtain ⟨-, columns, -, -, -, bound⟩ := sets_of_calls users calls
  exact ⟨columns, compiled, bound .postgres p compiled⟩

end Update

end SqlBuilder
