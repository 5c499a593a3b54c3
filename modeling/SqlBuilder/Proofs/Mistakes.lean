import SqlBuilder.Proofs.Built

/-! # The first mistake counts

A builder call never fails; it leaves its mistake in the slot of the statement, and a mistake
that is there already stays.  So what is in the slot after any calls is the mistake of the first
call that made one.

`FilterCall.mistake?` and its companions say which mistake a call makes, from its arguments
alone: a keyword that cannot be read, the first such mistake among the calls that build a group
or the condition of a join, or a row with other columns than the first.  For each kind of
statement, one lemma says what one call does to the slot, and from it follows by induction what
a sequence of calls does (`Construction.error_query`).  Writing looks at the slot before
anything else, so that this mistake is the one that is reported (`Construction.first_mistake`).
-/
namespace SqlBuilder

/-! ### Keywords -/

/-- The error of a step that fails. -/
def mistakeIn {α : Type} : Except Error α → Option Error
  | .ok _ => none
  | .error e => some e

@[simp] theorem mistakeIn_map {α β : Type} (f : α → β) (outcome : Except Error α) :
    mistakeIn (outcome.map f) = mistakeIn outcome := by
  cases outcome <;> rfl

theorem mistakeIn_eq_some_iff {α : Type} {outcome : Except Error α} {e : Error} :
    mistakeIn outcome = some e ↔ outcome = .error e := by
  cases outcome <;> simp [mistakeIn]

/-- A slot after steps, each of which leaves its mistake in it: the first mistake, unless one
was there before. -/
theorem foldl_error {S A : Type} {step : S → A → S} {slot : S → Option Error}
    {mistake? : A → Option Error} (h : ∀ s a, slot (step s a) = (slot s).or (mistake? a))
    (s : S) (list : List A) :
    slot (list.foldl step s) = (slot s).or (list.findSome? mistake?) := by
  induction list generalizing s with
  | nil => exact (Option.or_none ..).symm
  | cons a list ih =>
    rw [List.foldl_cons, ih, h, Option.or_assoc, List.findSome?_cons]
    cases mistake? a <;> rfl

section
variable {K : Type} [Keyword K]

/-- The mistake in an argument: a text that is no keyword. -/
def KeywordArg.mistake? : KeywordArg K → Option Error
  | .known _ => none
  | .text s =>
    if (Keyword.ofText? (K := K) s).isSome then none
    else some (.invalidKeyword (Keyword.kind K) s (Keyword.allowed K))

theorem KeywordArg.mistake?_eq (arg : KeywordArg K) : arg.mistake? = mistakeIn arg.resolve := by
  cases arg with
  | known k => rfl
  | text s =>
    rw [mistake?, resolve, Keyword.parse]
    cases Keyword.ofText? (K := K) s <;> rfl

theorem KeywordArg.resolve_of_mistake {arg : KeywordArg K} {e : Error}
    (h : arg.mistake? = some e) : arg.resolve = .error e := by
  rw [arg.mistake?_eq] at h
  exact mistakeIn_eq_some_iff.mp h

end

/-! ### Filters -/

mutual

/-- The mistake of a call that filters.  A group makes the first mistake of the calls that
build it, unless its mistakes are forgotten. -/
def FilterCall.mistake? : FilterCall → Option Error
  | .compare _ _ operator _ => operator.mistake?
  | .group _ calls => FilterCall.firstMistake calls
  | .oneOf .. | .isNull .. | .bareGroup .. | .reset => none

/-- The mistake of the first call that makes one. -/
def FilterCall.firstMistake : List FilterCall → Option Error
  | [] => none
  | call :: calls => call.mistake?.or (FilterCall.firstMistake calls)

end

namespace Filters

variable (filters : Filters)

theorem error_add (connective : Connective) (outcome : Except Error Predicate) :
    (filters.add connective outcome).error = filters.error.or (mistakeIn outcome) := by
  cases outcome with
  | ok predicate => exact (Option.or_none ..).symm
  | error e => rfl

theorem error_addGroup (connective : Connective) (group : Filters) :
    (filters.addGroup connective group).error = filters.error.or group.error := by
  rw [addGroup]
  cases group.error with
  | some e => rfl
  | none =>
    show (if group.clauses.isEmpty then filters else _).error = filters.error.or none
    rw [Option.or_none]
    split <;> rfl

end Filters

mutual

/-- **One call that filters** leaves its mistake in the slot, if none is there. -/
theorem FilterCall.error_apply : ∀ (filters : Filters) (call : FilterCall),
    (FilterCall.apply filters call).error = filters.error.or call.mistake?
  | filters, .compare connective column operator operand => by
    rw [FilterCall.apply, Filters.comparison, Filters.error_add, mistakeIn_map,
      ← operator.mistake?_eq, FilterCall.mistake?]
  | filters, .oneOf .. | filters, .isNull .. | filters, .bareGroup .. | filters, .reset =>
    (Option.or_none ..).symm
  | filters, .group connective calls => by
    rw [FilterCall.apply, Filters.error_addGroup, FilterCall.error_applyAll, FilterCall.mistake?]
    rfl

/-- Calls that filter leave the mistake of the first that makes one. -/
theorem FilterCall.error_applyAll : ∀ (filters : Filters) (calls : List FilterCall),
    (FilterCall.applyAll filters calls).error
      = filters.error.or (FilterCall.firstMistake calls)
  | filters, [] => (Option.or_none ..).symm
  | filters, call :: calls => by
    rw [FilterCall.applyAll, FilterCall.error_applyAll, FilterCall.error_apply, Option.or_assoc,
      FilterCall.firstMistake]

end

/-- A call with a mistake does nothing else. -/
theorem FilterCall.apply_of_mistake {call : FilterCall} {e : Error} (h : call.mistake? = some e)
    (filters : Filters) : FilterCall.apply filters call = filters.fail e := by
  cases call with
  | compare connective column operator operand =>
    rw [FilterCall.apply, Filters.comparison, KeywordArg.resolve_of_mistake h]
    rfl
  | group connective calls =>
    have inside : (FilterCall.applyAll .empty calls).error = some e := by
      rw [FilterCall.error_applyAll]
      exact h
    rw [FilterCall.apply, Filters.addGroup, inside]
  | oneOf => cases h
  | isNull => cases h
  | bareGroup => cases h
  | reset => cases h

/-! ### What a join is on -/

/-- The mistake of a call that builds what a join is on. -/
def JoinCall.mistake? : JoinCall → Option Error
  | .filter call => call.mistake?
  | .on _ _ operator _ => operator.mistake?

/-- The mistake of a column without anything that it is compared with. -/
def JoinOn.bareKey : Error :=
  .invalidJoin
    "When using non nested join conditions, an operator and a reference key is required."

/-- The mistake in what a join is on; of several the first. -/
def JoinOn.mistake? : JoinOn → Option Error
  | .columns _ operator _ => operator.mistake?
  | .built calls => calls.findSome? JoinCall.mistake?
  | .key _ => some bareKey

theorem JoinCall.error_apply (filters : Filters) (call : JoinCall) :
    (JoinCall.apply filters call).error = filters.error.or call.mistake? := by
  cases call with
  | filter call => exact FilterCall.error_apply filters call
  | on connective left operator right =>
    rw [JoinCall.apply, Filters.error_add, mistakeIn_map, ← operator.mistake?_eq,
      JoinCall.mistake?]

theorem JoinOn.mistake?_eq (on : JoinOn) : on.mistake? = mistakeIn on.resolve := by
  cases on with
  | columns left operator right =>
    rw [mistake?, resolve, mistakeIn_map, operator.mistake?_eq]
  | built calls =>
    have built : (JoinCall.applyAll .empty calls).error = calls.findSome? JoinCall.mistake? :=
      foldl_error JoinCall.error_apply Filters.empty calls
    rw [mistake?, resolve, JoinCondition.ofFilters, built]
    cases calls.findSome? JoinCall.mistake? <;> rfl
  | key column => rfl

/-! ### Selects -/

/-- The mistake of a call that builds a select.  The order by columns makes none when there are
no columns, and of two mistakes in a join, the one in its condition counts.  The mistakes of
calls on children are the children's own. -/
def SelectCall.mistake? : SelectCall → Option Error
  | .filter call => call.mistake?
  | .orderBy columns direction =>
    if columns.toColumns.isEmpty then none else direction.mistake?
  | .orderByEach entries => entries.findSome? fun entry => entry.2.mistake?
  | .join _ on kind => on.mistake?.or kind.mistake?
  | .unionAs _ kind => kind.mistake?
  | .table _ | .database _ | .fields _ | .addField .. | .distinct _ | .groupBy _ | .crossJoin _
  | .union .. | .unionWith .. | .exists .. | .among .. | .subSelect _ | .limit _ | .offset _
  | .page .. | .forwardKey _ | .groupResults _ => none

/-- Whether a call starts a select of its own, in whose place the calls behind it go on. -/
def SelectCall.startsOver : SelectCall → Bool
  | .subSelect _ => true
  | _ => false

mutual

/-- The calls that are made on the select that a call leads to. -/
def SelectCall.live : SelectCall → List SelectCall
  | .subSelect calls => SelectCall.allLive calls
  | call => [call]

/-- The calls that are made on the select that calls lead to: those since it was started. -/
def SelectCall.allLive : List SelectCall → List SelectCall
  | [] => []
  | call :: calls =>
    if calls.any SelectCall.startsOver then SelectCall.allLive calls
    else call.live ++ SelectCall.allLive calls

end

namespace Select

variable (query : Select)

theorem orderErrors_eq (slot : Option Error)
    (entries : List (Column × Except Error Direction)) :
    orderErrors slot entries = slot.or (entries.findSome? fun entry => mistakeIn entry.2) := by
  induction entries generalizing slot with
  | nil => exact (Option.or_none ..).symm
  | cons entry entries ih =>
    obtain ⟨column, direction⟩ := entry
    cases direction with
    | ok direction => exact ih slot
    | error e =>
      show orderErrors (Error.keepFirst slot e) entries = slot.or (some e)
      rw [ih, Error.keepFirst, Option.or_assoc]
      rfl

/-- An entry without a direction adds no order. -/
theorem orderBatch_filter (entries : List (Column × Except Error Direction)) :
    orderBatch (entries.filter fun entry => (mistakeIn entry.2).isNone) = orderBatch entries := by
  rw [orderBatch, List.foldl_filter, orderBatch]
  congr 1
  funext batch entry
  obtain ⟨column, direction⟩ := entry
  cases direction <;> rfl

theorem error_addOrders (entries : List (Column × Except Error Direction)) :
    (query.addOrders entries).error
      = query.error.or (entries.findSome? fun entry => mistakeIn entry.2) :=
  orderErrors_eq query.error entries

/-- Only the entries whose direction can be read are added. -/
theorem orderByEach_eq (entries : List (Column × KeywordArg Direction)) :
    query.orderByEach entries =
      { query.orderByEach (entries.filter fun entry => entry.2.mistake?.isNone) with
        error := query.error.or (entries.findSome? fun entry => entry.2.mistake?) } := by
  have read : ∀ entry : Column × KeywordArg Direction,
      entry.2.mistake? = mistakeIn entry.2.resolve := fun entry => entry.2.mistake?_eq
  have errors : (query.orderByEach entries).error
      = query.error.or (entries.findSome? fun entry => entry.2.mistake?) := by
    rw [orderByEach, error_addOrders, List.findSome?_map]
    simp only [read]
    rfl
  have kept : (query.orderByEach entries).orders
      = (query.orderByEach (entries.filter fun entry => entry.2.mistake?.isNone)).orders := by
    simp only [read]
    show query.orders ++ orderBatch _ = query.orders ++ orderBatch _
    rw [← orderBatch_filter, List.filter_map]
    rfl
  calc query.orderByEach entries
      = { query with
          orders := (query.orderByEach entries).orders
          error := (query.orderByEach entries).error } := rfl
    _ = _ := by
      rw [kept, errors]
      rfl

theorem error_orderBy (columns : ColumnList) (direction : KeywordArg Direction) :
    (query.orderBy columns direction).error = query.error.or
      (if columns.toColumns.isEmpty then none else direction.mistake?) := by
  rw [orderBy, error_addOrders, List.findSome?_map, direction.mistake?_eq]
  cases columns.toColumns with
  | nil => rfl
  | cons column columns =>
    cases direction.resolve with
    | error e => rfl
    | ok direction =>
      have silent : (column :: columns).findSome? ((fun entry => mistakeIn entry.2) ∘
          fun column => (column, Except.ok direction)) = none :=
        List.findSome?_eq_none_iff.mpr fun _ _ => rfl
      rw [silent]
      rfl

/-- An order by columns in no direction adds nothing. -/
theorem orderBy_of_mistake {columns : ColumnList} {direction : KeywordArg Direction} {e : Error}
    (h : (if columns.toColumns.isEmpty then none else direction.mistake?) = some e) :
    query.orderBy columns direction = query.fail e := by
  have unread : direction.mistake? = some e := by
    split at h
    · cases h
    · exact h
  have kept : (query.orderBy columns direction).orders = query.orders := by
    show query.orders ++ orderBatch _ = query.orders
    have none : (columns.toColumns.map fun column => (column, direction.resolve)).filter
        (fun entry => (mistakeIn entry.2).isNone) = [] := by
      refine List.filter_eq_nil_iff.mpr fun entry hentry => ?_
      obtain ⟨column, -, rfl⟩ := List.mem_map.mp hentry
      rw [← direction.mistake?_eq, unread]
      exact Bool.false_ne_true
    rw [← orderBatch_filter, none]
    exact List.append_nil query.orders
  calc query.orderBy columns direction
      = { query with
          orders := (query.orderBy columns direction).orders
          error := (query.orderBy columns direction).error } := rfl
    _ = query.fail e := by
      rw [kept, error_orderBy, h]
      rfl

theorem error_join (source : JoinSource) (on : JoinOn) (kind : KeywordArg JoinKind) :
    (query.join source on kind).error = query.error.or (on.mistake?.or kind.mistake?) := by
  rw [on.mistake?_eq, kind.mistake?_eq, join]
  cases on.resolve with
  | error e => rfl
  | ok condition =>
    cases kind.resolve with
    | error e => rfl
    | ok kind => exact (Option.or_none ..).symm

theorem error_unionAs (member : Select) (kind : KeywordArg UnionKind) :
    (query.unionAs member kind).error = query.error.or kind.mistake? := by
  rw [kind.mistake?_eq, unionAs]
  cases kind.resolve with
  | error e => rfl
  | ok kind => exact (Option.or_none ..).symm

end Select

/-- **One call that builds a select** leaves its mistake in the slot, if none is there. -/
theorem SelectCall.error_apply (query : Select) {call : SelectCall}
    (h : call.startsOver = false) :
    (SelectCall.apply query call).error = query.error.or call.mistake? := by
  have silent : query.error = query.error.or none := (Option.or_none ..).symm
  cases call with
  | filter call => exact FilterCall.error_apply query.filters call
  | orderBy columns direction => exact query.error_orderBy columns direction
  | orderByEach entries =>
    rw [SelectCall.apply, query.orderByEach_eq]
    rfl
  | join source on kind => exact query.error_join source on kind
  | unionAs member kind => exact query.error_unionAs member kind
  | subSelect calls => cases h
  | _ => exact silent

/-- A call on the select itself is live. -/
theorem SelectCall.live_eq {call : SelectCall} (h : call.startsOver = false) :
    call.live = [call] := by
  cases call with
  | subSelect calls => cases h
  | _ => rfl

/-- The slot that calls on a select go on from: that of a select that is started is empty. -/
def Select.slotFor (query : Select) (startsOver : Bool) : Option Error :=
  if startsOver then none else query.error

/-- A call on the select itself leaves its mistake behind what the select has in its slot. -/
theorem SelectCall.error_stays (query : Select) {call : SelectCall}
    (h : call.startsOver = false) :
    (SelectCall.apply query call).error = (query.slotFor call.startsOver).or
      (call.live.findSome? SelectCall.mistake?) := by
  rw [SelectCall.error_apply query h, SelectCall.live_eq h, h, List.findSome?_cons]
  cases call.mistake? <;> rfl

mutual

theorem SelectCall.error_live : ∀ (call : SelectCall) (query : Select),
    (SelectCall.apply query call).error = (query.slotFor call.startsOver).or
      (call.live.findSome? SelectCall.mistake?)
  | .subSelect calls, query => by
    rw [SelectCall.apply, SelectCall.error_applyAll calls query.child, SelectCall.live]
    cases calls.any SelectCall.startsOver <;> rfl
  | .filter _, query | .table _, query | .database _, query | .fields _, query
  | .addField .., query | .distinct _, query | .orderBy .., query | .orderByEach _, query
  | .groupBy _, query | .join .., query | .crossJoin _, query | .union .., query
  | .unionAs .., query | .unionWith .., query | .exists .., query | .among .., query
  | .limit _, query | .offset _, query | .page .., query | .forwardKey _, query
  | .groupResults _, query => SelectCall.error_stays query rfl

/-- **Calls that build a select** leave the mistake of the first live one that makes one. -/
theorem SelectCall.error_applyAll : ∀ (calls : List SelectCall) (query : Select),
    (SelectCall.applyAll query calls).error
      = (query.slotFor (calls.any SelectCall.startsOver)).or
        ((SelectCall.allLive calls).findSome? SelectCall.mistake?)
  | [], query => (Option.or_none ..).symm
  | call :: calls, query => by
    rw [SelectCall.applyAll, SelectCall.error_applyAll calls, SelectCall.allLive, List.any_cons]
    by_cases restarted : calls.any SelectCall.startsOver = true
    · -- what is made before a select is started does not matter for it
      rw [restarted, if_pos rfl, Bool.or_true]
      rfl
    · rw [Bool.eq_false_iff.mpr restarted, Bool.or_false, if_neg Bool.false_ne_true,
        List.findSome?_append, ← Option.or_assoc, ← SelectCall.error_live call query]
      rfl

end

/-- Without a select that is started, all calls are live. -/
theorem SelectCall.allLive_eq {calls : List SelectCall}
    (h : ∀ call ∈ calls, call.startsOver = false) : SelectCall.allLive calls = calls := by
  induction calls with
  | nil => rfl
  | cons call calls ih =>
    obtain ⟨first, rest⟩ := List.forall_mem_cons.mp h
    have stays : ¬ calls.any SelectCall.startsOver = true := by
      simpa using rest
    rw [SelectCall.allLive, if_neg stays, SelectCall.live_eq first, ih rest]
    rfl

/-- Further calls on the select itself are live behind those before them. -/
theorem SelectCall.allLive_append (calls : List SelectCall) {later : List SelectCall}
    (h : ∀ call ∈ later, call.startsOver = false) :
    SelectCall.allLive (calls ++ later) = SelectCall.allLive calls ++ later := by
  have stays : later.any SelectCall.startsOver = false := by simpa using h
  induction calls with
  | nil => exact SelectCall.allLive_eq h
  | cons call calls ih =>
    rw [List.cons_append, SelectCall.allLive, SelectCall.allLive, List.any_append, stays,
      Bool.or_false, ih]
    split
    · rfl
    · exact (List.append_assoc ..).symm

/-- A call with a mistake does nothing else.  Of the entries of an order those that can be read
are added. -/
theorem SelectCall.apply_of_mistake {call : SelectCall} {e : Error} (h : call.mistake? = some e)
    (single : ∀ entries, call ≠ .orderByEach entries) (query : Select) :
    SelectCall.apply query call = query.fail e := by
  cases call with
  | filter call => exact congrArg query.withFilters (FilterCall.apply_of_mistake h query.filters)
  | orderBy columns direction => exact query.orderBy_of_mistake h
  | orderByEach entries => exact absurd rfl (single entries)
  | join source on kind =>
    rw [mistake?, on.mistake?_eq, kind.mistake?_eq] at h
    rw [SelectCall.apply, Select.join]
    cases hon : on.resolve with
    | error e' =>
      rw [hon] at h
      cases h
      rfl
    | ok condition =>
      rw [hon] at h
      rw [mistakeIn_eq_some_iff.mp (show mistakeIn kind.resolve = some e from h)]
  | unionAs member kind =>
    rw [SelectCall.apply, Select.unionAs, KeywordArg.resolve_of_mistake h]
  | _ => cases h

/-! ### Inserts -/

/-- The mistake of a row behind rows with some columns: other columns than these. -/
def InsertRow.mistake? (columns : List String) (row : InsertRow) : Option Error :=
  if columns.Perm (Pairs.keys (Pairs.dedupe row.entries)) then none
  else some Insert.otherColumns

/-- The first mistake in rows, behind rows with some columns or behind none.  The first row of
all gives the columns. -/
def InsertRow.firstMistake : Option (List String) → List InsertRow → Option Error
  | _, [] => none
  | none, row :: rows => InsertRow.firstMistake (some (Pairs.keys row.entries)) rows
  | some columns, row :: rows =>
    (row.mistake? columns).or (InsertRow.firstMistake (some columns) rows)

/-- The rows that a call adds. -/
def InsertCall.given : InsertCall → List InsertRow
  | .row r => [r]
  | .rows list => list
  | .ignore _ => []

/-- There is a value under each of the keys and no other. -/
theorem Pairs.isSome_get?_iff {K V : Type} [DecidableEq K] (entries : List (K × V)) (key : K) :
    (Pairs.get? entries key).isSome ↔ key ∈ Pairs.keys entries := by
  rw [Pairs.get?, Option.isSome_map, List.find?_isSome, Pairs.keys, List.mem_map]
  constructor
  · rintro ⟨entry, hentry, same⟩
    exact ⟨entry, hentry, of_decide_eq_true same⟩
  · rintro ⟨entry, hentry, rfl⟩
    exact ⟨entry, hentry, decide_eq_true rfl⟩

/-- The keys without one of them. -/
theorem Pairs.keys_filter {K V : Type} [DecidableEq K] {entries : List (K × V)}
    (distinct : (Pairs.keys entries).Nodup) (key : K) :
    Pairs.keys (entries.filter fun entry => entry.1 ≠ key) = (Pairs.keys entries).erase key := by
  rw [distinct.erase_eq_filter, Pairs.keys, Pairs.keys, List.filter_map]
  congr 2
  funext entry
  simp [bne, BEq.beq]

namespace Insert

/-- A row is aligned to columns exactly when it has these columns, each of them once. -/
theorem isSome_align (columns : List String) {entries : List (String × NewValue)}
    (distinct : (Pairs.keys entries).Nodup) (count : entries.length = columns.length) :
    (align columns entries).isSome ↔ columns.Perm (Pairs.keys entries) := by
  induction columns generalizing entries with
  | nil =>
    rw [List.length_eq_zero_iff.mp count]
    exact ⟨fun _ => List.Perm.nil, fun _ => rfl⟩
  | cons column columns ih =>
    have others := Pairs.keys_filter distinct column
    rw [List.cons_perm_iff_perm_erase, ← others]
    have first := Pairs.isSome_get?_iff entries column
    cases value : Pairs.get? entries column with
    | none =>
      rw [value] at first
      rw [align, value]
      exact ⟨fun h => (by cases h), fun h => (by cases first.mpr h.1)⟩
    | some v =>
      rw [value] at first
      have present : column ∈ Pairs.keys entries := first.mp rfl
      have distinct' := others ▸ distinct.erase column
      have count' : (entries.filter fun entry => entry.1 ≠ column).length = columns.length := by
        have shorter := congrArg List.length others
        rw [List.length_erase_of_mem present, Pairs.keys, Pairs.keys, List.length_map,
          List.length_map, count, List.length_cons, Nat.add_sub_cancel] at shorter
        exact shorter
      have same : (align (column :: columns) entries).isSome
          = (align columns (entries.filter fun entry => entry.1 ≠ column)).isSome := by
        rw [align, value]
        cases align columns (entries.filter fun entry => entry.1 ≠ column) <;> rfl
      rw [same, ih distinct' count']
      exact ⟨fun h => ⟨present, h⟩, And.right⟩

/-- The values of a row for some columns, if the row has these columns. -/
theorem isSome_aligned (columns : List String) {entries : List (String × NewValue)}
    (distinct : (Pairs.keys entries).Nodup) :
    (if entries.length = columns.length then align columns entries else none).isSome
      ↔ columns.Perm (Pairs.keys entries) := by
  by_cases count : entries.length = columns.length
  · rw [if_pos count, isSome_align columns distinct count]
  · rw [if_neg count]
    refine ⟨fun h => (by cases h), fun perm => absurd perm.length_eq fun same => count ?_⟩
    rw [same, Pairs.keys, List.length_map]

/-- The columns that the rows so far give, if there are any. -/
def columns? (query : Insert) : Option (List String) :=
  if query.rows.isEmpty then none else some query.columns

/-- **One row** leaves its mistake in the slot, if none is there, and the first gives the
columns. -/
theorem addRow_spec (query : Insert) (row : InsertRow) :
    (query.addRow row).error = query.error.or (query.columns?.bind row.mistake?) ∧
      (query.addRow row).columns? = some (query.columns?.getD (Pairs.keys row.entries)) := by
  simp only [addRow, columns?]
  by_cases empty : query.rows.isEmpty = true
  · simp only [if_pos empty]
    exact ⟨(Option.or_none ..).symm, rfl⟩
  · simp only [if_neg empty, Option.bind_some, Option.getD_some, InsertRow.mistake?]
    have aligned := isSome_aligned query.columns (Pairs.nodup_keys_dedupe row.entries)
    split
    · next values haligned =>
      rw [haligned] at aligned
      rw [if_pos (aligned.mp rfl)]
      exact ⟨(Option.or_none ..).symm, by simp⟩
    · next haligned =>
      rw [haligned] at aligned
      have other : ¬ query.columns.Perm (Pairs.keys (Pairs.dedupe row.entries)) := fun perm => by
        cases aligned.mpr perm
      rw [if_neg other]
      exact ⟨rfl, by simpa using empty⟩

/-- Rows leave the first mistake that is in them. -/
theorem error_addRows (query : Insert) (rows : List InsertRow) :
    (rows.foldl addRow query).error = query.error.or (InsertRow.firstMistake query.columns? rows) ∧
      (rows.foldl addRow query).columns?
        = query.columns?.or (rows.head?.map fun row => Pairs.keys row.entries) := by
  induction rows generalizing query with
  | nil =>
    exact ⟨by cases query.columns? <;> exact (Option.or_none ..).symm, (Option.or_none ..).symm⟩
  | cons row rows ih =>
    obtain ⟨error, columns⟩ := query.addRow_spec row
    obtain ⟨error', columns'⟩ := ih (query.addRow row)
    rw [List.foldl_cons, error', columns', error, columns, Option.or_assoc]
    cases query.columns? with
    | none => exact ⟨by rw [InsertRow.firstMistake]; rfl, rfl⟩
    | some given => exact ⟨by rw [InsertRow.firstMistake]; rfl, rfl⟩

end Insert

/-- Rows behind other rows have the columns that these give, if there are any. -/
theorem InsertRow.firstMistake_append (columns : Option (List String))
    (first second : List InsertRow) :
    InsertRow.firstMistake columns (first ++ second)
      = (InsertRow.firstMistake columns first).or (InsertRow.firstMistake
        (columns.or (first.head?.map fun row => Pairs.keys row.entries)) second) := by
  induction first generalizing columns with
  | nil => cases columns <;> simp [InsertRow.firstMistake]
  | cons row first ih =>
    rw [List.cons_append]
    cases columns with
    | none =>
      rw [firstMistake, firstMistake, ih]
      rfl
    | some given =>
      rw [firstMistake, firstMistake, ih, Option.or_assoc]
      rfl

/-- **Calls that build an insert** leave the first mistake in their rows. -/
theorem InsertCall.error_applyAll (calls : List InsertCall) (query : Insert) :
    (InsertCall.applyAll query calls).error
      = query.error.or
          (InsertRow.firstMistake query.columns? (calls.flatMap InsertCall.given)) := by
  induction calls generalizing query with
  | nil => cases h : query.columns? <;> simp [applyAll, InsertRow.firstMistake]
  | cons call calls ih =>
    obtain ⟨error, columns⟩ : (InsertCall.apply query call).error
          = query.error.or (InsertRow.firstMistake query.columns? call.given) ∧
        (InsertCall.apply query call).columns? = query.columns?.or
          (call.given.head?.map fun row => Pairs.keys row.entries) := by
      cases call with
      | row r => exact Insert.error_addRows query [r]
      | rows list => exact Insert.error_addRows query list
      | ignore flag => exact Insert.error_addRows query []
    show (InsertCall.applyAll (InsertCall.apply query call) calls).error = _
    rw [ih, error, columns, List.flatMap_cons, InsertRow.firstMistake_append, Option.or_assoc]

/-! ### Updates and deletions -/

/-- The mistake of a call that builds an update. -/
def UpdateCall.mistake? : UpdateCall → Option Error
  | .filter call => call.mistake?
  | .set .. | .setMany _ => none

theorem UpdateCall.error_apply (query : Update) (call : UpdateCall) :
    (UpdateCall.apply query call).error = query.error.or call.mistake? := by
  cases call with
  | filter call => exact FilterCall.error_apply query.filters call
  | set column value => exact (Option.or_none ..).symm
  | setMany sets =>
    have kept := congrArg Filters.error (query.filters_setMany sets)
    exact Eq.trans kept (Option.or_none ..).symm

theorem Delete.error_filter (query : Delete) (call : FilterCall) :
    (query.filter call).error = query.error.or call.mistake? :=
  FilterCall.error_apply query.filters call

/-! ### Statements -/

/-- How a statement is built: the target that it is started from, and the calls on it. -/
inductive Construction where
  | select (target : Target) (fields : FieldList) (calls : List SelectCall)
  | insert (target : Target) (calls : List InsertCall)
  | update (target : Target) (calls : List UpdateCall)
  | delete (target : Target) (calls : List FilterCall)

namespace Construction

/-- The statement that is built. -/
def query : Construction → Query
  | .select target fields calls => .select (SelectCall.applyAll (target.select fields) calls)
  | .insert target calls => .insert (InsertCall.applyAll (Insert.into target) calls)
  | .update target calls => .update (UpdateCall.applyAll (Update.of target) calls)
  | .delete target calls => .delete (Delete.filterAll (Delete.all target) calls)

/-- The mistake of the first call that makes one. -/
def mistake? : Construction → Option Error
  | .select _ _ calls => (SelectCall.allLive calls).findSome? SelectCall.mistake?
  | .insert _ calls => InsertRow.firstMistake none (calls.flatMap InsertCall.given)
  | .update _ calls => calls.findSome? UpdateCall.mistake?
  | .delete _ calls => calls.findSome? FilterCall.mistake?

/-- One statement is built by further calls on another one. -/
inductive Continues : Construction → Construction → Prop where
  | select (target : Target) (fields : FieldList) (calls later : List SelectCall) :
      (∀ call ∈ later, call.startsOver = false) →
      Continues (.select target fields calls) (.select target fields (calls ++ later))
  | insert (target : Target) (calls later : List InsertCall) :
      Continues (.insert target calls) (.insert target (calls ++ later))
  | update (target : Target) (calls later : List UpdateCall) :
      Continues (.update target calls) (.update target (calls ++ later))
  | delete (target : Target) (calls later : List FilterCall) :
      Continues (.delete target calls) (.delete target (calls ++ later))

end Construction

/-- The slot of a statement. -/
def Query.error : Query → Option Error
  | .select query => query.error
  | .insert query => query.error
  | .update query => query.error
  | .delete query => query.error

/-- What is wrong with the target of a statement, or with how it was built, comes first. -/
theorem Query.violations_target (query : Query) (d : Dialect) :
    ∃ others, query.violations d = query.target.violations query.error ++ others := by
  cases query with
  | select query =>
    rw [violations, Select.violations_eq]
    simp only [List.append_assoc]
    exact ⟨_, rfl⟩
  | insert query => exact ⟨_, rfl⟩
  | update query =>
    rw [violations, List.append_assoc]
    exact ⟨_, rfl⟩
  | delete query => exact ⟨_, rfl⟩

/-- A mistake in the slot is what is reported, whatever else is wrong. -/
theorem Query.compile_of_error {query : Query} {e : Error} (h : query.error = some e)
    (d : Dialect) : query.compile d = .error e := by
  refine (query.reports_compile e).mpr ?_
  obtain ⟨others, wrong⟩ := query.violations_target d
  rw [wrong, h]
  rfl

namespace Construction

/-- **The slot after any calls** holds the mistake of the first call that makes one. -/
theorem error_query (made : Construction) : made.query.error = made.mistake? := by
  cases made with
  | select target fields calls =>
    refine (SelectCall.error_applyAll calls (target.select fields)).trans ?_
    cases calls.any SelectCall.startsOver <;> rfl
  | insert target calls => exact InsertCall.error_applyAll calls (Insert.into target)
  | update target calls => exact foldl_error UpdateCall.error_apply (Update.of target) calls
  | delete target calls => exact foldl_error Delete.error_filter (Delete.all target) calls

/-- The mistakes of further calls come behind those that were made before. -/
theorem Continues.mistake?_eq {made longer : Construction} (h : made.Continues longer) :
    ∃ later, longer.mistake? = made.mistake?.or later := by
  cases h with
  | select target fields calls later stays =>
    exact ⟨_, by rw [mistake?, SelectCall.allLive_append calls stays, List.findSome?_append]; rfl⟩
  | insert target calls later =>
    exact ⟨_, by rw [mistake?, List.flatMap_append, InsertRow.firstMistake_append]; rfl⟩
  | update target calls later =>
    exact ⟨_, by rw [mistake?, List.findSome?_append]; rfl⟩
  | delete target calls later =>
    exact ⟨_, by rw [mistake?, List.findSome?_append]; rfl⟩

/-- **The first mistake wins and stays.**  For a statement of any kind, built by any calls:

* its slot holds the mistake of the first call that makes one, and is empty when none does;
* this mistake is what writing the statement reports in any dialect, whatever else is wrong, and
  no further call changes it;
* a call that filters, joins, unites or orders by columns and makes a mistake does nothing else;
* of the entries of an order, those that can be read are added and no others. -/
theorem first_mistake (made : Construction) :
    made.query.error = made.mistake? ∧
      (∀ e, made.mistake? = some e → (∀ d, made.query.compile d = .error e) ∧
        ∀ longer, made.Continues longer → longer.query.error = some e) ∧
      (∀ (filters : Filters) (call : FilterCall) e, call.mistake? = some e →
        FilterCall.apply filters call = filters.fail e) ∧
      (∀ (query : Select) (call : SelectCall) e, call.mistake? = some e →
        (∀ entries, call ≠ .orderByEach entries) →
        SelectCall.apply query call = query.fail e) ∧
      (∀ (query : Select) (entries : List (Column × KeywordArg Direction)),
        query.orderByEach entries =
          { query.orderByEach (entries.filter fun entry => entry.2.mistake?.isNone) with
            error := query.error.or (entries.findSome? fun entry => entry.2.mistake?) }) := by
  refine ⟨made.error_query, fun e he => ⟨fun d => ?_, fun longer continues => ?_⟩,
    fun filters call e he => call.apply_of_mistake he filters,
    fun query call e he single => call.apply_of_mistake he single query,
    Select.orderByEach_eq⟩
  · exact Query.compile_of_error (made.error_query.trans he) d
  · obtain ⟨later, same⟩ := continues.mistake?_eq
    rw [longer.error_query, same, he]
    rfl

/-- A deletion without a table, whose first call is a group with two mistakes in it, and a join
with a mistake in both its condition and its kind. -/
theorem first_mistake_group :
    let unset : Target := .unset .mysql {}
    let wrong (text : String) : FilterCall :=
      .compare .and (.name "a") (.text text) (.raw ⟨"1"⟩)
    let invalid : Error := .invalidKeyword "operator" "~" (Keyword.allowed Operator)
    let made : Construction := .delete unset [.group .or [wrong "~", wrong "~~"]]
    let longer : Construction :=
      .delete unset ([.group .or [wrong "~", wrong "~~"]] ++ [.reset, wrong "?"])
    let join : SelectCall := .join (.table ⟨"t", none⟩) (.key "id") (.text "sideways")
    made.mistake? = some invalid ∧ made.query.compile .mysql = .error invalid ∧
      made.Continues longer ∧ longer.query.error = some invalid ∧
      join.mistake? = some JoinOn.bareKey ∧
      SelectCall.apply (Select.all unset) join = (Select.all unset).fail JoinOn.bareKey := by
  intro unset wrong invalid made longer join
  have wrongly : made.mistake? = some invalid := by
    simp only [made, wrong, invalid]
    rfl
  have continues : made.Continues longer := .delete unset _ _
  obtain ⟨-, first, -, select, -⟩ := first_mistake made
  obtain ⟨reported, stays⟩ := first invalid wrongly
  exact ⟨wrongly, reported .mysql, continues, stays longer continues, rfl,
    select _ join _ rfl (fun _ => nofun)⟩

end Construction

end SqlBuilder
