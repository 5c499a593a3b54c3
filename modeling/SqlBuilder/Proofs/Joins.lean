import SqlBuilder.Proofs.Conditions
import SqlBuilder.Proofs.Mistakes
import SqlBuilder.Proofs.Supplied

/-! # What joins are on

A join that was given a condition either has it or was refused.  A call with a mistake in the
condition or the kind leaves the mistake, and the select is not written; any other call leaves its
join, and no later call takes it away again (`SelectCall.joins_applyAll`).  Where the select is then
written, the condition stands behind the target of the join in full, with its values bound behind
those of the target (`Select.hasCondition_of_write`).

So a join that was given a condition has it (`Select.join_keeps_condition`).  A join with every row
is the exception: it is its target alone, whatever it was given to be on
(`Select.cross_join_loses_condition`).
-/
namespace SqlBuilder

/-! ### The joins of a select -/

theorem mistakeIn_eq_none_iff {α : Type} {outcome : Except Error α} :
    mistakeIn outcome = none ↔ ∃ a, outcome = .ok a := by
  cases outcome <;> simp [mistakeIn]

theorem Select.joins_join {source : JoinSource} {on : JoinOn} {kind : KeywordArg JoinKind}
    {condition : JoinCondition} {k : JoinKind} (resolved : on.resolve = .ok condition)
    (known : kind.resolve = .ok k) (query : Select) :
    (query.join source on kind).joins = query.joins ++ [⟨k, source, condition⟩] := by
  rw [Select.join, resolved, known]

mutual

/-- A call adds its join behind those that are there, if it adds one. -/
theorem SelectCall.joins_apply : ∀ (call : SelectCall) (query : Select),
    query.joins <+: (SelectCall.apply query call).joins
  | .subSelect calls, query => by
    rw [SelectCall.apply]
    exact SelectCall.joins_applyAll calls query.child
  | .join source on kind, query => by
    rw [SelectCall.apply, Select.join]
    cases on.resolve with
    | error e => exact List.prefix_rfl
    | ok condition =>
      cases kind.resolve with
      | error e => exact List.prefix_rfl
      | ok kind => exact List.prefix_append ..
  | .crossJoin source, query => List.prefix_append ..
  | .unionAs member kind, query => by
    rw [SelectCall.apply, Select.unionAs]
    cases kind.resolve <;> exact List.prefix_rfl
  | .filter _, query | .table _, query | .database _, query | .fields _, query
  | .addField .., query | .distinct _, query | .orderBy .., query | .orderByEach _, query
  | .groupBy _, query | .union .., query | .unionWith .., query | .exists .., query
  | .among .., query | .limit _, query | .offset _, query | .page .., query
  | .forwardKey _, query | .groupResults _, query => List.prefix_rfl

/-- **No call takes a join away**, nor does a select that is started over from another one. -/
theorem SelectCall.joins_applyAll : ∀ (calls : List SelectCall) (query : Select),
    query.joins <+: (SelectCall.applyAll query calls).joins
  | [], _ => List.prefix_rfl
  | call :: calls, query =>
    (SelectCall.joins_apply call query).trans (SelectCall.joins_applyAll calls _)

end

/-- A mistake in a join stays, as long as no select is started over. -/
theorem Select.error_of_join_mistake {source : JoinSource} {on : JoinOn}
    {kind : KeywordArg JoinKind} {e : Error} (mistaken : on.mistake?.or kind.mistake? = some e)
    (query : Select) {later : List SelectCall} (stays : ∀ call ∈ later, call.startsOver = false) :
    ∃ e', (SelectCall.applyAll (query.join source on kind) later).error = some e' := by
  have unstarted : later.any SelectCall.startsOver = false := by simpa using stays
  rw [SelectCall.error_applyAll, unstarted, Select.slotFor, if_neg Bool.false_ne_true,
    query.error_join, mistaken]
  cases query.error with
  | none => exact ⟨e, rfl⟩
  | some e' => exact ⟨e', rfl⟩

/-! ### The values of a part -/

section
variable {d : Dialect} {bound after : List Value} {text : String}

/-- Where a writing succeeds, its pieces are there, and their values are bound behind those that
were. -/
theorem Writing.Gives.of_run {writing : Writing String} {outcome : Except Error (List Piece)}
    (h : Gives d writing outcome) (written : writing.run bound = .ok (text, after)) :
    ∃ ps, outcome = .ok ps ∧ after = bound ++ Piece.values ps := by
  rw [h bound] at written
  cases outcome with
  | error e => cases written
  | ok ps =>
    cases written
    exact ⟨ps, rfl, rfl⟩

/-- What is joined binds its own values. -/
theorem JoinSource.bound_eq {source : JoinSource}
    (written : (source.write d).run bound = .ok (text, after)) :
    after = bound ++ Piece.values source.supplied := by
  obtain ⟨ps, pieces, bound_eq⟩ := (source.gives_write d).of_run written
  rw [bound_eq, ← source.supplied_pieces pieces, Piece.values_supplied]

/-- What a join is on binds its own values. -/
theorem JoinCondition.bound_eq {on : JoinCondition} {kind : JoinKind}
    (written : (on.write d kind).run bound = .ok (text, after)) :
    after = bound ++ Piece.values on.supplied := by
  obtain ⟨ps, pieces, bound_eq⟩ := (on.gives_write d kind).of_run written
  rw [bound_eq, ← on.supplied_pieces pieces, Piece.values_supplied]

end

/-! ### The text of a join -/

/-- Writes what a join is on without the `ON` in front of it. -/
def JoinCondition.writeBare (d : Dialect) : JoinCondition → Writing String
  | .columns left operator right => return writeComparison d left operator right
  | .clauses list => Clause.writeAll d "" list

/-- A select up to its joins. -/
def Select.writeOpening (d : Dialect) (query : Select) (fields : String) : String :=
  (if query.distinct then "SELECT DISTINCT " else "SELECT ") ++ fields ++ " FROM "
    ++ query.target.writeSource d

section
variable {d : Dialect} {bound after : List Value} {text : String}

open Writing

theorem Join.writeAll_eq (joins : List Join) :
    Join.writeAll d joins = inOrder (joins.map (Join.write d)) := by
  induction joins with
  | nil => rw [Join.writeAll]; rfl
  | cons join joins ih =>
    rw [Join.writeAll, ih]
    rfl

/-- Joins in order are written in order. -/
theorem Join.run_writeAll_append {first second : List Join}
    (written : (Join.writeAll d (first ++ second)).run bound = .ok (text, after)) :
    ∃ before between behind, (Join.writeAll d first).run bound = .ok (before, between) ∧
      (Join.writeAll d second).run between = .ok (behind, after) ∧ text = before ++ behind := by
  rw [Join.writeAll_eq, List.map_append, inOrder_append, ← Join.writeAll_eq,
    ← Join.writeAll_eq] at written
  obtain ⟨before, between, hbefore, written⟩ := run_bind_eq_ok_iff.mp written
  obtain ⟨behind, _, hbehind, written⟩ := run_bind_eq_ok_iff.mp written
  cases written
  exact ⟨before, between, behind, hbefore, hbehind, rfl⟩

/-- What a join is on is written in full behind `ON`, and there is something. -/
theorem JoinCondition.run_write {on : JoinCondition} {kind : JoinKind}
    (written : (on.write d kind).run bound = .ok (text, after)) :
    ∃ condition, (on.writeBare d).run bound = .ok (condition, after) ∧ condition ≠ "" ∧
      text = " ON " ++ condition := by
  cases on with
  | clauses list => exact JoinCondition.written_on written
  | columns left operator right =>
    cases written
    refine ⟨_, rfl, ?_, rfl⟩
    simp [writeComparison, writeLeft]

/-- A join other than one with every row is written with what it is on. -/
theorem Join.run_write {join : Join} (conditional : join.kind ≠ .cross)
    (written : (join.write d).run bound = .ok (text, after)) :
    ∃ target between on, (join.source.write d).run bound = .ok (target, between) ∧
      (join.on.write d join.kind).run between = .ok (on, after) ∧
      text = " " ++ Keyword.sql join.kind ++ " JOIN " ++ target ++ on := by
  obtain ⟨kind, source, on⟩ := join
  rw [Join.write] at written
  obtain ⟨target, between, htarget, written⟩ := run_bind_eq_ok_iff.mp written
  rw [if_neg conditional] at written
  obtain ⟨on, _, hon, written⟩ := run_bind_eq_ok_iff.mp written
  cases written
  exact ⟨target, between, on, htarget, hon, rfl⟩

end

/-! ### Where the condition stands -/

/-- **Where the condition of a join stands** in a select that is written behind some values.  Behind
the fields, the source and the earlier joins come the target of the join, `ON`, and the condition in
full, each as it is written behind the values of what is before it.  The values that are bound in
the end are those before the join, those of its target, those of its condition, and others. -/
def Select.HasCondition (d : Dialect) (query : Select) (earlier : List Join) (join : Join)
    (start last : List Value) (sql : String) : Prop :=
  ∃ fields between joins bound target condition opening behind rest,
    let reached := bound ++ Piece.values join.source.supplied
    let passed := reached ++ Piece.values join.on.supplied
    (Field.writeAll d query.fields).run start = .ok (fields, between) ∧
    (Join.writeAll d earlier).run between = .ok (joins, bound) ∧
    (join.source.write d).run bound = .ok (target, reached) ∧
    (join.on.writeBare d).run reached = .ok (condition, passed) ∧ condition ≠ "" ∧
    (opening = "" ∨ opening = "(") ∧
    sql = opening ++ query.writeOpening d fields ++ joins
      ++ (" " ++ Keyword.sql join.kind ++ " JOIN " ++ target ++ " ON " ++ condition) ++ behind ∧
    last = passed ++ rest

section
variable {d : Dialect} {bound after : List Value} {text : String}

open Writing

/-- A join among others is written with its condition, but for one with every row. -/
theorem Join.run_writeAll_among {earlier later : List Join} {join : Join}
    (conditional : join.kind ≠ .cross)
    (written : (Join.writeAll d (earlier ++ join :: later)).run bound = .ok (text, after)) :
    ∃ before reached target condition behind rest,
      let sourced := reached ++ Piece.values join.source.supplied
      let passed := sourced ++ Piece.values join.on.supplied
      (Join.writeAll d earlier).run bound = .ok (before, reached) ∧
      (join.source.write d).run reached = .ok (target, sourced) ∧
      (join.on.writeBare d).run sourced = .ok (condition, passed) ∧ condition ≠ "" ∧
      text = before ++ (" " ++ Keyword.sql join.kind ++ " JOIN " ++ target ++ " ON " ++ condition)
        ++ behind ∧
      after = passed ++ rest := by
  obtain ⟨before, reached, others, hbefore, hothers, rfl⟩ := Join.run_writeAll_append written
  obtain ⟨first, passed, hfirst, hothers⟩ := run_bind_eq_ok_iff.mp hothers
  obtain ⟨behind, _, hbehind, hothers⟩ := run_bind_eq_ok_iff.mp hothers
  cases hothers
  obtain ⟨target, sourced, on, htarget, hon, rfl⟩ := Join.run_write conditional hfirst
  obtain ⟨condition, hcondition, shown, rfl⟩ := JoinCondition.run_write hon
  -- both the target and the condition bind just what the caller supplied for them
  have sourced_eq := JoinSource.bound_eq htarget
  have passed_eq := JoinCondition.bound_eq hon
  subst sourced_eq passed_eq
  obtain ⟨ps, -, after_eq⟩ := (Join.gives_writeAll d later).of_run hbehind
  refine ⟨before, reached, target, condition, behind, Piece.values ps, hbefore, htarget,
    hcondition, shown, ?_, after_eq⟩
  simp only [String.append_assoc]

/-- The joins of a select that is written stand behind its fields and its source, and their values
are bound before those of what follows. -/
theorem Select.run_write_joins {query : Select}
    (written : (query.write d).run bound = .ok (text, after)) :
    ∃ fields between joins joined opening behind rest,
      (Field.writeAll d query.fields).run bound = .ok (fields, between) ∧
      (Join.writeAll d query.joins).run between = .ok (joins, joined) ∧
      (opening = "" ∨ opening = "(") ∧
      text = opening ++ query.writeOpening d fields ++ joins ++ behind ∧
      after = joined ++ rest := by
  have placed : ∃ conditions, (Query.select query).Placed d conditions bound after text :=
    Query.placed_of_write written
  obtain ⟨conditions, fields, between, joins, joined, filtered, members, hfields, hjoins,
    hconditions, hmembers, framed⟩ := placed
  -- the conditions and the members of a union come later, and only add to what is bound
  obtain ⟨ps, -, filtered_eq⟩ := (Clause.simulated d query.clauses).gives.of_run hconditions
  obtain ⟨qs, -, after_eq⟩ := (UnionMember.gives_writeAll d query.unions).of_run hmembers
  have bound_eq : after = joined ++ (Piece.values ps ++ Piece.values qs) := by
    rw [after_eq, filtered_eq, List.append_assoc]
  have alone : query.writeCore d fields joins conditions = query.writeOpening d fields ++ joins
      ++ (writeWhere conditions ++ query.writeGroups d) := by
    rw [Select.writeCore, Select.writeOpening, String.append_assoc]
  rw [alone] at framed
  let closing := writeWhere conditions ++ query.writeGroups d ++ query.writeTail d
  rcases framed with rfl | rfl
  · refine ⟨fields, between, joins, joined, "", closing ++ members, _, hfields, hjoins, .inl rfl,
      ?_, bound_eq⟩
    simp only [closing, String.empty_append, String.append_assoc]
  · refine ⟨fields, between, joins, joined, "(", closing ++ ")" ++ members, _, hfields, hjoins,
      .inr rfl, ?_, bound_eq⟩
    simp only [closing, String.append_assoc]

/-- Every join of a select that is written has its condition there, but for one with every row. -/
theorem Select.hasCondition_of_write {query : Select}
    (written : (query.write d).run bound = .ok (text, after))
    {earlier later : List Join} {join : Join} (place : query.joins = earlier ++ join :: later)
    (conditional : join.kind ≠ .cross) :
    query.HasCondition d earlier join bound after text := by
  obtain ⟨fields, between, joins, joined, opening, behind, rest, hfields, hjoins, parenthesis, rfl,
    rfl⟩ := Select.run_write_joins written
  rw [place] at hjoins
  obtain ⟨before, reached, target, condition, others, more, hbefore, htarget, hcondition, shown,
    rfl, rfl⟩ := Join.run_writeAll_among conditional hjoins
  refine ⟨fields, between, before, reached, target, condition, opening, others ++ behind,
    more ++ rest, hfields, hbefore, htarget, hcondition, shown, parenthesis, ?_, ?_⟩
  · simp only [String.append_assoc]
  · rw [List.append_assoc]

end

/-! ### Joins that are kept -/

/-- **A join that was given a condition has it.**  A call joins a select with anything, on anything,
in any way, and any calls follow.

* If there is a mistake in the condition or the kind, the select is not written in any dialect, as
  long as it is not started over.
* Otherwise the join stands behind those that the select had, whatever calls follow.
* Where the select is then written, and the join is not one with every row, the condition stands
  behind the target of the join in full, with its values bound behind those of the target. -/
theorem Select.join_keeps_condition (query : Select) (source : JoinSource) (on : JoinOn)
    (kind : KeywordArg JoinKind) (later : List SelectCall) :
    let final := SelectCall.applyAll (query.join source on kind) later
    (∀ e, on.mistake?.or kind.mistake? = some e → (∀ call ∈ later, call.startsOver = false) →
      ∃ e', ∀ d, (Query.select final).compile d = .error e') ∧
    (on.mistake?.or kind.mistake? = none → ∃ condition k,
      on.resolve = .ok condition ∧ kind.resolve = .ok k ∧
      (∃ more, final.joins = query.joins ++ ⟨k, source, condition⟩ :: more) ∧
      (k ≠ .cross → ∀ d p, (Query.select final).compile d = .ok p →
        final.HasCondition d query.joins ⟨k, source, condition⟩ [] p.bindings p.sql)) := by
  intro final
  constructor
  · intro e mistaken stays
    obtain ⟨e', slot⟩ := Select.error_of_join_mistake mistaken query stays
    exact ⟨e', Query.compile_of_error slot⟩
  · intro unmistaken
    obtain ⟨sound, known⟩ := Option.or_eq_none_iff.mp unmistaken
    rw [on.mistake?_eq] at sound
    rw [kind.mistake?_eq] at known
    obtain ⟨condition, resolved⟩ := mistakeIn_eq_none_iff.mp sound
    obtain ⟨k, spelled⟩ := mistakeIn_eq_none_iff.mp known
    obtain ⟨more, joins⟩ := SelectCall.joins_applyAll later (query.join source on kind)
    rw [Select.joins_join resolved spelled, List.append_assoc] at joins
    refine ⟨condition, k, resolved, spelled, ⟨more, joins.symm⟩, fun conditional d p compiled => ?_⟩
    exact Select.hasCondition_of_write (Query.run_of_compile compiled) joins.symm conditional

/-- A select with a value is joined on two comparisons, of which one has a value too; a condition of
the select follows. -/
theorem Select.join_keeps_condition_labelled :
    let a : Select := Select.all ⟨none, ⟨"a", none⟩, .postgres, {}⟩
    let b : Select := { Select.all ⟨none, ⟨"b", none⟩, .postgres, {}⟩ with
      clauses := [⟨.and, .compare (.name "x") .eq (.value (.int32 1))⟩] }
    let matching : List Clause := [⟨.and, .columns (.name "a.id") .eq (.name "t.a_id")⟩,
      ⟨.and, .compare (.name "t.n") .eq (.value (.int32 2))⟩]
    let on : JoinOn := .built [.on .and (.name "a.id") (.text "=") (.name "t.a_id"),
      .filter (.compare .and (.name "t.n") (.known .eq) (.value (.int32 2)))]
    let filter : SelectCall := .filter (.compare .and (.name "y") (.known .eq) (.value (.int32 3)))
    let final := SelectCall.applyAll (a.join (.select b "t") on (.text "Left")) [filter]
    let sql := "SELECT * FROM \"a\" LEFT JOIN (SELECT * FROM \"b\" WHERE \"x\" = $1) AS \"t\""
      ++ " ON \"a\".\"id\" = \"t\".\"a_id\" AND \"t\".\"n\" = $2 WHERE \"y\" = $3"
    let values : List Value := [.int32 1, .int32 2, .int32 3]
    (Query.select final).compile .postgres = .ok ⟨sql, values⟩ ∧
      final.HasCondition .postgres [] ⟨.left, .select b "t", .clauses matching⟩ [] values sql := by
  intro a b matching on filter final sql values
  have compiled : (Query.select final).compile .postgres = .ok ⟨sql, values⟩ := by
    simp only [final, filter, on, a, b, sql, values]
    rfl
  obtain ⟨-, kept⟩ := Select.join_keeps_condition a (.select b "t") on (.text "Left") [filter]
  obtain ⟨condition, k, resolved, known, -, written⟩ := kept rfl
  have same : on.resolve = .ok (.clauses matching) := rfl
  have left : KeywordArg.resolve (.text "Left") = .ok JoinKind.left := rfl
  cases resolved.symm.trans same
  cases known.symm.trans left
  exact ⟨compiled, written nofun _ _ compiled⟩

/-- **A condition is lost** with a join with every row: neither its text is written nor its value
bound. -/
theorem Select.cross_join_loses_condition :
    let a : Select := Select.all ⟨none, ⟨"a", none⟩, .sqlite, {}⟩
    let on : JoinOn :=
      .built [.filter (.compare .and (.name "b.x") (.known .eq) (.value (.int32 5)))]
    let condition : JoinCondition :=
      .clauses [⟨.and, .compare (.name "b.x") .eq (.value (.int32 5))⟩]
    let final := a.join (.parse "b") on (.known .cross)
    let sql := "SELECT * FROM \"a\" CROSS JOIN \"b\""
    on.resolve = .ok condition ∧ Piece.values condition.supplied = [.int32 5] ∧
      (Query.select final).compile .sqlite = .ok ⟨sql, []⟩ ∧
      (∀ before behind : String, sql ≠ before ++ " ON " ++ behind) ∧
      ¬ final.HasCondition .sqlite [] ⟨.cross, .parse "b", condition⟩ [] [] sql := by
  intro a on condition final sql
  have compiled : (Query.select final).compile .sqlite = .ok ⟨sql, []⟩ := by
    simp only [final, on, a, sql]
    rfl
  have values : Piece.values condition.supplied = [.int32 5] := rfl
  refine ⟨rfl, values, compiled, fun before behind text => ?_, ?_⟩
  · have characters : sql.toList = before.toList ++ " ON ".toList ++ behind.toList := by
      rw [text, String.toList_append, String.toList_append]
    have inside : " ON ".toList <:+: sql.toList := ⟨before.toList, behind.toList, characters.symm⟩
    exact absurd inside (by decide +kernel)
  · rintro ⟨_, _, _, bound, _, _, _, _, rest, -, -, -, -, -, -, -, bindings⟩
    have five : Value.int32 5 ∈ bound ++ Piece.values (JoinSource.parse "b").supplied
        ++ Piece.values condition.supplied ++ rest := by
      rw [values]
      simp
    have same := congrArg (Value.int32 5 ∈ ·) bindings
    exact List.not_mem_nil (same.mpr five)

end SqlBuilder
