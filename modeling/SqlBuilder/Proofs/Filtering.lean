import SqlBuilder.Proofs.Conditions
import SqlBuilder.Proofs.Mistakes

/-! # No filter is lost

A filter that is lost makes an update or a deletion of some rows one of all rows.  Calls that
filter may add nothing, since a group that is built without any condition is left out, and since
a call with a mistake adds nothing; and the clauses of a level are dropped when it is reset.

`FilterCall.tree?` says from the calls alone what the conditions have to be: for every call since
the last reset of its level, in order, what the call stands for.  `Query.KeepsFilters` is that a
statement, if it can be written, has these conditions and says them behind `WHERE`, and that it
cannot be written when a text was given for an operator that is none, even where a reset dropped
the call.  Updates and deletions keep their filters, whatever calls they are built by
(`Query.keepsFilters`).
-/
namespace SqlBuilder

/-! ### What calls stand for -/

/-- Whether a call drops the clauses of its level. -/
def FilterCall.isReset : FilterCall → Bool
  | .reset => true
  | _ => false

mutual

/-- The clauses that a call stands for: one, or none for a group that comes to nothing.  Nothing
at all when an operator cannot be read. -/
def FilterCall.nodes? : FilterCall → Option (List Clause)
  | .compare connective column operator operand =>
    operator.resolve.toOption.map fun operator => [⟨connective, .compare column operator operand⟩]
  | .oneOf connective negated column values =>
    some [⟨connective, FilterCall.membership negated column values⟩]
  | .isNull connective negated column => some [⟨connective, FilterCall.nullity negated column⟩]
  | .group connective calls => (FilterCall.tree? calls).map fun clauses =>
    if clauses.isEmpty then [] else [⟨connective, .group clauses⟩]
  -- such a group takes whatever its calls leave behind
  | .bareGroup connective calls =>
    some [⟨connective, .group (FilterCall.applyAll .empty calls).clauses⟩]
  | .reset => some []

/-- The clauses that the calls of a level stand for: those of each call that no reset follows, in
order. -/
def FilterCall.tree? : List FilterCall → Option (List Clause)
  | [] => some []
  | call :: calls =>
    if calls.any FilterCall.isReset then FilterCall.tree? calls
    else do
      let nodes ← call.nodes?
      let rest ← FilterCall.tree? calls
      return nodes ++ rest

end

mutual

/-- The operators that a call is given, at any depth of its groups. -/
def FilterCall.operators : FilterCall → List (KeywordArg Operator)
  | .compare _ _ operator _ => [operator]
  | .group _ calls => FilterCall.allOperators calls
  -- the mistakes in such a group are forgotten
  | .bareGroup .. => []
  | .oneOf .. | .isNull .. | .reset => []

def FilterCall.allOperators : List FilterCall → List (KeywordArg Operator)
  | [] => []
  | call :: calls => call.operators ++ FilterCall.allOperators calls

end

mutual

/-- The mistake of a call is the first in its operators. -/
theorem FilterCall.mistake?_eq_findSome? : ∀ call : FilterCall,
    call.mistake? = call.operators.findSome? KeywordArg.mistake?
  | .compare _ _ operator _ => by
    rw [FilterCall.mistake?, FilterCall.operators, List.findSome?_cons]
    cases operator.mistake? <;> rfl
  | .group _ calls => FilterCall.firstMistake_eq_findSome? calls
  | .oneOf .. | .isNull .. | .bareGroup .. | .reset => rfl

theorem FilterCall.firstMistake_eq_findSome? : ∀ calls : List FilterCall,
    FilterCall.firstMistake calls
      = (FilterCall.allOperators calls).findSome? KeywordArg.mistake?
  | [] => rfl
  | call :: calls => by
    rw [FilterCall.firstMistake, FilterCall.allOperators, List.findSome?_append,
      FilterCall.mistake?_eq_findSome? call, FilterCall.firstMistake_eq_findSome? calls]

end

/-! ### What calls leave behind -/

/-- The clauses of a level that stay when calls follow. -/
def Filters.staying (filters : Filters) (reset : Bool) : List Clause :=
  if reset then [] else filters.clauses

mutual

/-- **One call that filters** leaves behind what it stands for, behind what stays. -/
theorem FilterCall.clauses_apply : ∀ {call : FilterCall}, call.mistake? = none →
    ∃ nodes, call.nodes? = some nodes ∧ ∀ filters : Filters,
      (FilterCall.apply filters call).clauses = filters.staying call.isReset ++ nodes
  | .compare connective column operator operand, h => by
    rw [FilterCall.mistake?, operator.mistake?_eq] at h
    cases hoperator : operator.resolve with
    | error e =>
      rw [hoperator] at h
      cases h
    | ok known =>
      refine ⟨_, by rw [FilterCall.nodes?, hoperator]; rfl, fun filters => ?_⟩
      rw [FilterCall.apply, Filters.comparison, hoperator]
      rfl
  | .oneOf .., _ | .isNull .., _ | .bareGroup .., _ => ⟨_, rfl, fun _ => rfl⟩
  | .reset, _ => ⟨[], rfl, fun _ => rfl⟩
  | .group connective calls, h => by
    rw [FilterCall.mistake?] at h
    obtain ⟨clauses, htree, built⟩ := FilterCall.clauses_applyAll h
    have inner : (FilterCall.applyAll .empty calls).clauses = clauses := by
      rw [built]
      cases calls.any FilterCall.isReset <;> rfl
    have silent : (FilterCall.applyAll .empty calls).error = none := by
      rw [FilterCall.error_applyAll, h]
      rfl
    refine ⟨_, by rw [FilterCall.nodes?, htree]; rfl, fun filters => ?_⟩
    rw [FilterCall.apply, Filters.addGroup, silent, inner]
    show (if clauses.isEmpty then filters else _).clauses =
      filters.clauses ++ if clauses.isEmpty then [] else [⟨connective, .group clauses⟩]
    by_cases empty : clauses.isEmpty = true
    · rw [if_pos empty, if_pos empty, List.append_nil]
    · rw [if_neg empty, if_neg empty]
      rfl

/-- Calls that filter leave behind what they stand for, behind what no reset drops. -/
theorem FilterCall.clauses_applyAll : ∀ {calls : List FilterCall},
    FilterCall.firstMistake calls = none →
    ∃ clauses, FilterCall.tree? calls = some clauses ∧ ∀ filters : Filters,
      (FilterCall.applyAll filters calls).clauses
        = filters.staying (calls.any FilterCall.isReset) ++ clauses
  | [], _ => ⟨[], rfl, fun _ => (List.append_nil _).symm⟩
  | call :: calls, h => by
    obtain ⟨first, rest⟩ := Option.or_eq_none_iff.mp h
    obtain ⟨nodes, hnodes, one⟩ := FilterCall.clauses_apply first
    obtain ⟨clauses, htree, others⟩ := FilterCall.clauses_applyAll rest
    by_cases dropped : calls.any FilterCall.isReset = true
    · refine ⟨clauses, by rw [FilterCall.tree?, if_pos dropped, htree], fun filters => ?_⟩
      rw [FilterCall.applyAll, others, List.any_cons, dropped, Bool.or_true]
      rfl
    · refine ⟨nodes ++ clauses, ?_, fun filters => ?_⟩
      · rw [FilterCall.tree?, if_neg dropped, hnodes, htree]
        rfl
      · rw [FilterCall.applyAll, others, List.any_cons, Bool.eq_false_iff.mpr dropped,
          Bool.or_false, ← List.append_assoc, ← one]
        rfl

end

/-! ### The filters of updates and deletions -/

/-- The call that filters, if a call does. -/
def UpdateCall.filter? : UpdateCall → Option FilterCall
  | .filter call => some call
  | .set .. | .setMany _ => none

/-- Setting columns leaves the filters as they are. -/
theorem UpdateCall.filters_applyAll (calls : List UpdateCall) (query : Update) :
    (UpdateCall.applyAll query calls).filters
      = FilterCall.applyAll query.filters (calls.filterMap UpdateCall.filter?) := by
  induction calls generalizing query with
  | nil => rfl
  | cons call calls ih =>
    show (UpdateCall.applyAll (UpdateCall.apply query call) calls).filters = _
    rw [ih]
    cases call with
    | filter call => rfl
    | set column value => rfl
    | setMany sets =>
      show FilterCall.applyAll (query.setMany sets).filters _ = _
      rw [query.filters_setMany]
      rfl

/-- The statement keeps the filters of some calls. -/
structure Query.KeepsFilters (d : Dialect) (query : Query) (calls : List FilterCall) : Prop where
  /-- A statement that can be written has the conditions that the calls stand for. -/
  tree : ∀ p, query.compile d = .ok p → FilterCall.tree? calls = some query.clauses
  /-- Its text is that of the statement without conditions, and behind it, when there is a
  comparison among the conditions and only then, a `WHERE` with their text. -/
  written : ∀ p, query.compile d = .ok p → ∃ bare,
    query.unfiltered.compile d = .ok bare ∧
      if Clause.anyLeaf query.clauses then
        ∃ text, (Clause.writeAll d "" query.clauses).run bare.bindings = .ok (text, p.bindings) ∧
          text ≠ "" ∧ p.sql = bare.sql ++ " WHERE " ++ text
      else p = bare
  /-- A statement whose calls were given a text for an operator that is none cannot be written,
  wherever the call was, and the first such text is reported. -/
  refused : ∀ operator ∈ FilterCall.allOperators calls, operator.mistake?.isSome →
    ∃ e, (FilterCall.allOperators calls).findSome? KeywordArg.mistake? = some e ∧
      query.compile d = .error e

/-! ### Updates and deletions keep their filters -/

variable {d : Dialect}

/-- The conditions of a statement stand behind what it is without them. -/
def Query.EndsFiltered (d : Dialect) (query : Query) : Prop :=
  ∀ p, query.compile d = .ok p → ∃ bare, query.unfiltered.compile d = .ok bare ∧
    ∃ text, (Clause.writeAll d "" query.clauses).run bare.bindings = .ok (text, p.bindings) ∧
      p.sql = bare.sql ++ writeWhere text

open Writing in
theorem Update.endsFiltered (query : Update) : (Query.update query).EndsFiltered d := by
  rintro ⟨sql, bindings⟩ h
  have written : (query.write d).run [] = .ok (sql, bindings) := Query.run_of_compile h
  obtain ⟨_, ready, written⟩ := run_check_eq_ok_iff.mp written
  by_cases empty : query.sets.isEmpty = true
  · rw [if_pos empty] at written
    cases written
  · rw [if_neg empty] at written
    obtain ⟨sets, bound, setting, written⟩ := run_bind_eq_ok_iff.mp written
    obtain ⟨text, after, conditions, written⟩ := run_bind_eq_ok_iff.mp written
    cases written
    let head := "UPDATE " ++ query.target.writeTable d ++ " SET " ++ ", ".intercalate sets
    have bare : ((Query.update query).unfiltered.write d).run [] = .ok (head, bound) := by
      refine run_check_eq_ok_iff.mpr ⟨_, ready, ?_⟩
      rw [if_neg empty]
      refine run_bind_eq_ok_iff.mpr ⟨sets, bound, setting, ?_⟩
      show Except.ok (head ++ writeWhere "", bound) = _
      rw [show writeWhere "" = "" from rfl, String.append_empty]
    exact ⟨⟨head, bound⟩, Query.compile_of_run bare, text, conditions, rfl⟩

open Writing in
theorem Delete.endsFiltered (query : Delete) : (Query.delete query).EndsFiltered d := by
  rintro ⟨sql, bindings⟩ h
  have written : (query.write d).run [] = .ok (sql, bindings) := Query.run_of_compile h
  obtain ⟨_, ready, written⟩ := run_check_eq_ok_iff.mp written
  obtain ⟨text, after, conditions, written⟩ := run_bind_eq_ok_iff.mp written
  cases written
  let head := "DELETE FROM " ++ query.target.writeTable d
  have bare : ((Query.delete query).unfiltered.write d).run [] = .ok (head, []) := by
    refine run_check_eq_ok_iff.mpr ⟨_, ready, ?_⟩
    show Except.ok (head ++ writeWhere "", []) = _
    rw [show writeWhere "" = "" from rfl, String.append_empty]
  exact ⟨⟨head, []⟩, Query.compile_of_run bare, text, conditions, rfl⟩

/-- **A statement keeps the filters** that its clauses and its slot come from, when its conditions
stand at its end. -/
theorem Query.EndsFiltered.keeps {query : Query} {calls : List FilterCall}
    (ends : query.EndsFiltered d)
    (hclauses : query.clauses = (FilterCall.applyAll .empty calls).clauses)
    (herror : query.error = (FilterCall.applyAll .empty calls).error) :
    query.KeepsFilters d calls := by
  have mistake : query.error = FilterCall.firstMistake calls :=
    herror.trans (FilterCall.error_applyAll .empty calls)
  have first := mistake.trans (FilterCall.firstMistake_eq_findSome? calls)
  refine ⟨fun p compiled => ?_, fun p compiled => ?_, fun operator hoperator wrong => ?_⟩
  · have ready : FilterCall.firstMistake calls = none := by
      rw [← mistake]
      cases slot : query.error with
      | none => rfl
      | some e =>
        rw [Query.compile_of_error slot d] at compiled
        cases compiled
    obtain ⟨clauses, tree, built⟩ := FilterCall.clauses_applyAll ready
    rw [tree, hclauses, built]
    cases calls.any FilterCall.isReset <;> rfl
  · obtain ⟨bare, hbare, text, conditions, place⟩ := ends p compiled
    refine ⟨bare, hbare, ?_⟩
    have silent := Clause.text_eq_empty_iff d conditions
    by_cases leaf : Clause.anyLeaf query.clauses = true
    · rw [if_pos leaf]
      have shown : text ≠ "" := fun empty => by
        rw [silent.mp empty] at leaf
        cases leaf
      refine ⟨text, conditions, shown, ?_⟩
      rw [place, writeWhere, if_neg (by simpa using shown), String.append_assoc]
    · have leafless := Bool.eq_false_iff.mpr leaf
      rw [if_neg leaf]
      rw [Query.compile, Query.write_unfiltered d leafless, ← Query.compile, compiled] at hbare
      exact Except.ok.inj hbare
  · cases found : (FilterCall.allOperators calls).findSome? KeywordArg.mistake? with
    | none =>
      rw [List.findSome?_eq_none_iff.mp found operator hoperator] at wrong
      cases wrong
    | some e => exact ⟨e, rfl, Query.compile_of_error (first.trans found) d⟩

end SqlBuilder
