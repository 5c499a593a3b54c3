import SqlBuilder.Database
import SqlBuilder.Proofs.Violations
import SqlBuilder.Query.Select
import SqlBuilder.Query.Update

/-! # Statements that callers can build

A caller starts a statement from a target and goes on by builder calls.  A call can be given
whole selects, as the operand of a comparison, as what is joined or as a member of a union,
and these were built in the same way before.  `Select.Built` and `Query.Built` are the
statements that come about like this.

What is wrong with such a statement is always a mistake in building it, never a failure of
the database or of reading a result (`Query.Built.configured`).  For a statement at large this
is false, because its slot could hold any error; so it is an invariant of building: a `Sound`
select holds nothing else in its slot, its joins, its clauses and its unions, and every call
keeps this as long as the selects that it is given are sound.
-/
namespace SqlBuilder

/-! ### The selects that calls are given -/

/-- The select that an operand is. -/
def Operand.selects : Operand → List Select
  | .value _ | .list _ | .raw _ => []
  | .select query => [query]

/-- The select that is joined. -/
def JoinSource.selects : JoinSource → List Select
  | .table _ => []
  | .select query _ => [query]

mutual

/-- The selects that a call that filters is given, at any depth of its groups. -/
def FilterCall.selects : FilterCall → List Select
  | .compare _ _ _ operand => operand.selects
  | .group _ calls | .bareGroup _ calls => FilterCall.allSelects calls
  | .oneOf .. | .isNull .. | .reset => []

def FilterCall.allSelects : List FilterCall → List Select
  | [] => []
  | call :: calls => call.selects ++ FilterCall.allSelects calls

end

def JoinCall.selects : JoinCall → List Select
  | .filter call => call.selects
  | .on .. => []

def JoinOn.selects : JoinOn → List Select
  | .built calls => calls.flatMap JoinCall.selects
  | .columns .. | .key _ => []

mutual

/-- The selects that a call is given, those that calls on children are given included. -/
def SelectCall.selects : SelectCall → List Select
  | .filter call => call.selects
  | .join source on _ => source.selects ++ on.selects
  | .crossJoin source => source.selects
  | .union member _ | .unionAs member _ => [member]
  | .unionWith _ calls | .exists _ _ calls | .among _ _ calls | .subSelect calls =>
    SelectCall.allSelects calls
  | .table _ | .database _ | .fields _ | .addField .. | .distinct _ | .orderBy ..
  | .orderByEach _ | .groupBy _ | .limit _ | .offset _ | .page .. | .forwardKey _
  | .groupResults _ => []

def SelectCall.allSelects : List SelectCall → List Select
  | [] => []
  | call :: calls => call.selects ++ SelectCall.allSelects calls

end

def UpdateCall.selects : UpdateCall → List Select
  | .filter call => call.selects
  | .set .. | .setMany _ => []

/-! ### Built statements -/

/-- A select that builder calls lead to. -/
inductive Select.Built : Select → Prop where
  | start (target : Target) (fields : FieldList) : Built (target.select fields)
  | call {query : Select} (call : SelectCall) : Built query →
      (∀ given ∈ call.selects, Built given) → Built (SelectCall.apply query call)

/-- A statement that builder calls lead to. -/
inductive Query.Built : Query → Prop where
  | select {query : Select} : query.Built → Built (.select query)
  | insert (target : Target) (calls : List InsertCall) :
      Built (.insert (InsertCall.applyAll (Insert.into target) calls))
  | update (target : Target) (calls : List UpdateCall) :
      (∀ given ∈ calls.flatMap UpdateCall.selects, Select.Built given) →
      Built (.update (UpdateCall.applyAll (Update.of target) calls))
  | delete (target : Target) (calls : List FilterCall) :
      (∀ given ∈ FilterCall.allSelects calls, Select.Built given) →
      Built (.delete (Delete.filterAll (Delete.all target) calls))

/-! ### Mistakes in building -/

/-- All errors are mistakes in building. -/
def Error.Configured (errors : List Error) : Prop :=
  ∀ e ∈ errors, e.isConfiguration = true

namespace Error

@[simp] theorem configured_nil : Configured [] :=
  fun _ he => nomatch he

@[simp] theorem configured_cons (e : Error) (errors : List Error) :
    Configured (e :: errors) ↔ e.isConfiguration = true ∧ Configured errors :=
  List.forall_mem_cons

@[simp] theorem configured_append (first second : List Error) :
    Configured (first ++ second) ↔ Configured first ∧ Configured second :=
  List.forall_mem_append

theorem configured_singleton {e : Error} (he : e.isConfiguration = true) : Configured [e] :=
  fun _ hmem => List.mem_singleton.mp hmem ▸ he

/-- What is wrong in either case of a check. -/
theorem configured_ite {condition : Prop} [Decidable condition] {first second : List Error}
    (hfirst : Configured first) (hsecond : Configured second) :
    Configured (if condition then first else second) := by
  split
  · exact hfirst
  · exact hsecond

theorem Configured.keepFirst {slot : Option Error} (h : Configured slot.toList) {e : Error}
    (he : e.isConfiguration = true) : Configured (keepFirst slot e).toList := by
  cases slot with
  | none => simpa using he
  | some first => exact h

end Error

/-- A keyword that cannot be read is a mistake in building. -/
theorem KeywordArg.resolve_error {K : Type} [Keyword K] {arg : KeywordArg K} {e : Error}
    (h : arg.resolve = .error e) : e.isConfiguration = true := by
  cases arg with
  | known k => cases h
  | text s =>
    rw [KeywordArg.resolve, Keyword.parse] at h
    split at h
    · cases h
    · cases h
      rfl

/-! ### Soundness -/

/-- Nothing but mistakes in building is wrong on a level of clauses. -/
structure Filters.Sound (filters : Filters) : Prop where
  error : Error.Configured filters.error.toList
  clauses : ∀ d, Error.Configured (Clause.allViolations d filters.clauses)

/-- Nothing but mistakes in building is wrong with a select. -/
structure Select.Sound (query : Select) : Prop where
  filters : query.filters.Sound
  joins : ∀ d, Error.Configured (Join.allViolations d query.joins)
  unions : ∀ d, Error.Configured (UnionMember.allViolations d query.unions)

theorem Target.configured_violations {target : Target} {error : Option Error}
    (h : Error.Configured error.toList) : Error.Configured (target.violations error) := by
  rw [Target.violations, Error.configured_append]
  exact ⟨h, Error.configured_ite (Error.configured_singleton rfl) Error.configured_nil⟩

theorem Select.configured_placeViolations (query : Select) (d : Dialect) :
    Error.Configured (query.placeViolations d) :=
  Error.configured_ite (Error.configured_singleton rfl) Error.configured_nil

/-- Everything that is wrong with a sound select is a mistake in building. -/
theorem Select.Sound.configured {query : Select} (h : query.Sound) (d : Dialect) :
    Error.Configured (query.violations d) := by
  simp only [Select.violations_eq, Error.configured_append]
  refine ⟨⟨⟨⟨Target.configured_violations h.filters.error, h.joins d⟩, h.filters.clauses d⟩, ?_⟩,
    h.unions d⟩
  exact Error.configured_ite Error.configured_nil (query.configured_placeViolations d)

theorem Operand.configured_violations {operand : Operand}
    (h : ∀ given ∈ operand.selects, given.Sound) (d : Dialect) (operator : Operator) :
    Error.Configured (operand.violations d operator) := by
  cases operand with
  | value => exact Error.configured_nil
  | raw => exact Error.configured_nil
  | list =>
    rw [Operand.violations]
    exact Error.configured_ite Error.configured_nil (Error.configured_singleton rfl)
  | select query => exact (h query (List.mem_singleton_self query)).configured d

theorem JoinSource.configured_violations {source : JoinSource}
    (h : ∀ given ∈ source.selects, given.Sound) (d : Dialect) :
    Error.Configured (source.violations d) := by
  cases source with
  | table => exact Error.configured_nil
  | select query => exact (h query (List.mem_singleton_self query)).configured d

/-! ### Going on after what there is -/

/-- What is wrong with a list, part by part, goes along with `++`. -/
theorem violations_append {α : Type} {all : List α → List Error} {f : α → List Error}
    (nil : all [] = []) (cons : ∀ a list, all (a :: list) = f a ++ all list)
    (first second : List α) : all (first ++ second) = all first ++ all second := by
  induction first with
  | nil => rw [nil, List.nil_append, List.nil_append]
  | cons a first ih => rw [List.cons_append, cons, ih, cons, List.append_assoc]

theorem Clause.allViolations_append (d : Dialect) (first second : List Clause) :
    Clause.allViolations d (first ++ second)
      = Clause.allViolations d first ++ Clause.allViolations d second :=
  violations_append (f := fun clause => clause.predicate.violations d) rfl
    (fun clause _ => by cases clause; rfl) first second

theorem Join.allViolations_append (d : Dialect) (first second : List Join) :
    Join.allViolations d (first ++ second)
      = Join.allViolations d first ++ Join.allViolations d second :=
  violations_append (f := fun join => join.violations d) rfl (fun _ _ => rfl) first second

theorem UnionMember.allViolations_append (d : Dialect) (first second : List UnionMember) :
    UnionMember.allViolations d (first ++ second)
      = UnionMember.allViolations d first ++ UnionMember.allViolations d second :=
  violations_append
    (f := fun member => member.query.violations d ++ member.query.placeViolations d) rfl
    (fun member _ => by cases member; rfl) first second

/-! ### Filters stay sound -/

namespace Filters

theorem sound_empty : Filters.empty.Sound :=
  ⟨Error.configured_nil, fun _ => Error.configured_nil⟩

variable {filters : Filters}

theorem Sound.push (h : filters.Sound) (connective : Connective) {predicate : Predicate}
    (hp : ∀ d, Error.Configured (predicate.violations d)) :
    (filters.push connective predicate).Sound := by
  refine ⟨h.error, fun d => ?_⟩
  rw [Filters.push, Clause.allViolations_append, Error.configured_append]
  exact ⟨h.clauses d, by simpa [Clause.allViolations] using hp d⟩

theorem Sound.fail (h : filters.Sound) {e : Error} (he : e.isConfiguration = true) :
    (filters.fail e).Sound :=
  ⟨h.error.keepFirst he, h.clauses⟩

/-- A condition whose operator may be a text. -/
theorem Sound.add (h : filters.Sound) (connective : Connective) (operator : KeywordArg Operator)
    {predicate : Operator → Predicate}
    (hp : ∀ operator d, Error.Configured ((predicate operator).violations d)) :
    (filters.add connective (operator.resolve.map predicate)).Sound := by
  cases hop : operator.resolve with
  | ok operator => exact h.push connective (hp operator)
  | error e => exact h.fail (KeywordArg.resolve_error hop)

theorem Sound.addGroup (h : filters.Sound) (connective : Connective) {group : Filters}
    (hgroup : group.Sound) : (filters.addGroup connective group).Sound := by
  rw [Filters.addGroup]
  cases herror : group.error with
  | some e =>
    have he := hgroup.error
    rw [herror] at he
    exact h.fail (he e (List.mem_singleton_self e))
  | none =>
    simp only
    split
    · exact h
    · exact h.push connective hgroup.clauses

end Filters

mutual

/-- **A call that filters** keeps a level of clauses sound. -/
theorem FilterCall.sound_apply : ∀ (call : FilterCall) {filters : Filters}, filters.Sound →
    (∀ given ∈ call.selects, given.Sound) → (FilterCall.apply filters call).Sound
  | .compare connective column operator operand, filters, h, hgiven =>
    h.add connective operator fun operator d => Operand.configured_violations hgiven d operator
  | .oneOf connective negated column values, filters, h, _ => by
    refine h.push connective fun d => ?_
    cases negated <;> exact Error.configured_nil
  | .isNull connective negated column, filters, h, _ =>
    h.push connective fun _ => Error.configured_nil
  | .group connective calls, filters, h, hgiven =>
    h.addGroup connective (FilterCall.sound_applyAll calls Filters.sound_empty hgiven)
  | .bareGroup connective calls, filters, h, hgiven =>
    h.push connective (FilterCall.sound_applyAll calls Filters.sound_empty hgiven).clauses
  | .reset, filters, h, _ => ⟨h.error, fun _ => Error.configured_nil⟩

theorem FilterCall.sound_applyAll : ∀ (calls : List FilterCall) {filters : Filters},
    filters.Sound → (∀ given ∈ FilterCall.allSelects calls, given.Sound) →
    (FilterCall.applyAll filters calls).Sound
  | [], filters, h, _ => h
  | call :: calls, filters, h, hgiven => by
    obtain ⟨first, rest⟩ := List.forall_mem_append.mp hgiven
    exact FilterCall.sound_applyAll calls (FilterCall.sound_apply call h first) rest

end

theorem JoinCall.sound_apply : ∀ (call : JoinCall) {filters : Filters}, filters.Sound →
    (∀ given ∈ call.selects, given.Sound) → (JoinCall.apply filters call).Sound
  | .filter call, _, h, hgiven => FilterCall.sound_apply call h hgiven
  | .on connective _ operator _, _, h, _ =>
    h.add connective operator fun _ _ => Error.configured_nil

theorem JoinCall.sound_applyAll (calls : List JoinCall) {filters : Filters} (h : filters.Sound)
    (hgiven : ∀ given ∈ calls.flatMap JoinCall.selects, given.Sound) :
    (JoinCall.applyAll filters calls).Sound := by
  induction calls generalizing filters with
  | nil => exact h
  | cons call calls ih =>
    rw [List.flatMap_cons] at hgiven
    obtain ⟨first, rest⟩ := List.forall_mem_append.mp hgiven
    exact ih (JoinCall.sound_apply call h first) rest

/-! ### What a join is on -/

/-- What a join is on may hold nothing but mistakes in building, and so may be the mistake in
giving it. -/
theorem JoinOn.configured_resolve (on : JoinOn) (hgiven : ∀ given ∈ on.selects, given.Sound) :
    (∀ e, on.resolve = .error e → e.isConfiguration = true) ∧
      ∀ condition, on.resolve = .ok condition →
        ∀ d kind, Error.Configured (condition.violations d kind) := by
  cases on with
  | columns left operator right =>
    refine ⟨fun e he => ?_, fun condition hcondition d kind => ?_⟩
    · cases hop : operator.resolve with
      | ok operator => simp [JoinOn.resolve, hop, Except.map] at he
      | error e' =>
        simp only [JoinOn.resolve, hop, Except.map, Except.error.injEq] at he
        exact he ▸ KeywordArg.resolve_error hop
    · cases hop : operator.resolve with
      | ok operator =>
        simp only [JoinOn.resolve, hop, Except.map, Except.ok.injEq] at hcondition
        subst hcondition
        exact Error.configured_nil
      | error e' => simp [JoinOn.resolve, hop, Except.map] at hcondition
  | key column =>
    refine ⟨fun e he => ?_, fun condition hcondition => by cases hcondition⟩
    cases he
    rfl
  | built calls =>
    have sound := JoinCall.sound_applyAll calls Filters.sound_empty hgiven
    rw [JoinOn.resolve, JoinCondition.ofFilters]
    cases herror : (JoinCall.applyAll .empty calls).error with
    | some e =>
      have he := sound.error
      rw [herror] at he
      refine ⟨fun e' he' => ?_, fun condition hcondition => by cases hcondition⟩
      cases he'
      exact he e (List.mem_singleton_self e)
    | none =>
      refine ⟨fun e he => ?_, fun condition hcondition d kind => ?_⟩
      · cases he
      cases hcondition
      rw [JoinCondition.violations, Error.configured_append]
      exact ⟨sound.clauses d,
        Error.configured_ite Error.configured_nil (Error.configured_singleton rfl)⟩

/-! ### Selects stay sound -/

namespace Select

variable {query : Select}

theorem sound_start (target : Target) (fields : FieldList) : (target.select fields).Sound :=
  ⟨Filters.sound_empty, fun _ => Error.configured_nil, fun _ => Error.configured_nil⟩

/-- A child has the joins of its parent, and nothing else that can be wrong. -/
theorem Sound.child (h : query.Sound) : query.child.Sound :=
  ⟨Filters.sound_empty, h.joins, fun _ => Error.configured_nil⟩

theorem Sound.fail (h : query.Sound) {e : Error} (he : e.isConfiguration = true) :
    (query.fail e).Sound :=
  ⟨h.filters.fail he, h.joins, h.unions⟩

theorem Sound.push (h : query.Sound) (connective : Connective) {predicate : Predicate}
    (hp : ∀ d, Error.Configured (predicate.violations d)) :
    (query.push connective predicate).Sound :=
  ⟨h.filters.push connective hp, h.joins, h.unions⟩

theorem Sound.orderErrors {slot : Option Error} (h : Error.Configured slot.toList)
    {entries : List (Column × Except Error Direction)}
    (hentries : ∀ entry ∈ entries, ∀ e, entry.2 = .error e → e.isConfiguration = true) :
    Error.Configured (Select.orderErrors slot entries).toList := by
  induction entries generalizing slot with
  | nil => exact h
  | cons entry entries ih =>
    obtain ⟨column, direction⟩ := entry
    obtain ⟨first, rest⟩ := List.forall_mem_cons.mp hentries
    cases direction with
    | ok direction => exact ih h rest
    | error e => exact ih (h.keepFirst (first e rfl)) rest

theorem Sound.addOrders (h : query.Sound) {entries : List (Column × Except Error Direction)}
    (hentries : ∀ entry ∈ entries, ∀ e, entry.2 = .error e → e.isConfiguration = true) :
    (query.addOrders entries).Sound :=
  ⟨⟨Sound.orderErrors h.filters.error hentries, h.filters.clauses⟩, h.joins, h.unions⟩

theorem Sound.orderBy (h : query.Sound) (columns : ColumnList)
    (direction : KeywordArg Direction) : (query.orderBy columns direction).Sound := by
  -- every column is given the same direction, so one mistake stands for all
  refine h.addOrders fun entry hentry e he => ?_
  obtain ⟨column, -, rfl⟩ := List.mem_map.mp hentry
  exact KeywordArg.resolve_error he

theorem Sound.orderByEach (h : query.Sound) (entries : List (Column × KeywordArg Direction)) :
    (query.orderByEach entries).Sound := by
  refine h.addOrders fun entry hentry e he => ?_
  obtain ⟨given, -, rfl⟩ := List.mem_map.mp hentry
  exact KeywordArg.resolve_error he

theorem Sound.addJoin (h : query.Sound) {join : Join}
    (hjoin : ∀ d, Error.Configured (join.violations d)) :
    ({ query with joins := query.joins ++ [join] } : Select).Sound := by
  refine ⟨h.filters, fun d => ?_, h.unions⟩
  rw [Join.allViolations_append, Error.configured_append]
  exact ⟨h.joins d, by simpa [Join.allViolations] using hjoin d⟩

theorem Sound.join (h : query.Sound) {source : JoinSource}
    (hsource : ∀ given ∈ source.selects, given.Sound) {on : JoinOn}
    (hon : ∀ given ∈ on.selects, given.Sound) (kind : KeywordArg JoinKind) :
    (query.join source on kind).Sound := by
  obtain ⟨refused, accepted⟩ := on.configured_resolve hon
  rw [Select.join]
  split
  next condition kind hresolve _ =>
    refine h.addJoin fun d => ?_
    rw [Join.violations, Error.configured_append]
    exact ⟨JoinSource.configured_violations hsource d,
      Error.configured_ite Error.configured_nil (accepted condition hresolve d kind)⟩
  next e hresolve => exact h.fail (refused e hresolve)
  next e _ hkind => exact h.fail (KeywordArg.resolve_error hkind)

theorem Sound.crossJoin (h : query.Sound) {source : JoinSource}
    (hsource : ∀ given ∈ source.selects, given.Sound) : (query.crossJoin source).Sound := by
  refine h.addJoin fun d => ?_
  rw [Join.violations, Error.configured_append]
  exact ⟨JoinSource.configured_violations hsource d, Error.configured_nil⟩

theorem Sound.union (h : query.Sound) {member : Select} (hmember : member.Sound)
    (kind : Option UnionKind) : (query.union member kind).Sound := by
  refine ⟨h.filters, h.joins, fun d => ?_⟩
  rw [Select.union, UnionMember.allViolations_append, Error.configured_append]
  refine ⟨h.unions d, ?_⟩
  simpa [UnionMember.allViolations] using
    And.intro (hmember.configured d) (member.configured_placeViolations d)

theorem Sound.unionAs (h : query.Sound) {member : Select} (hmember : member.Sound)
    (kind : KeywordArg UnionKind) : (query.unionAs member kind).Sound := by
  rw [Select.unionAs]
  split
  next kind _ => exact h.union hmember (some kind)
  next e hkind => exact h.fail (KeywordArg.resolve_error hkind)

end Select

mutual

/-- **A call that builds a select** keeps it sound. -/
theorem SelectCall.sound_apply : ∀ (call : SelectCall) {query : Select}, query.Sound →
    (∀ given ∈ call.selects, given.Sound) → (SelectCall.apply query call).Sound
  | .filter call, _, h, hgiven =>
    ⟨FilterCall.sound_apply call h.filters hgiven, h.joins, h.unions⟩
  | .table _, _, h, _ | .database _, _, h, _ | .fields _, _, h, _ | .addField .., _, h, _
  | .distinct _, _, h, _ | .groupBy _, _, h, _ | .limit _, _, h, _ | .offset _, _, h, _
  | .page .., _, h, _ | .forwardKey _, _, h, _ | .groupResults _, _, h, _ =>
    ⟨h.filters, h.joins, h.unions⟩
  | .orderBy columns direction, _, h, _ => h.orderBy columns direction
  | .orderByEach entries, _, h, _ => h.orderByEach entries
  | .join _ _ kind, _, h, hgiven =>
    h.join (List.forall_mem_append.mp hgiven).1 (List.forall_mem_append.mp hgiven).2 kind
  | .crossJoin _, _, h, hgiven => h.crossJoin hgiven
  | .union member kind, _, h, hgiven => h.union (hgiven member (List.mem_singleton_self _)) kind
  | .unionAs member kind, _, h, hgiven => h.unionAs (hgiven member (List.mem_singleton_self _)) kind
  -- the calls on a child start from the joins of its parent
  | .unionWith kind calls, _, h, hgiven =>
    h.union (SelectCall.sound_applyAll calls h.child hgiven) kind
  | .exists connective _ calls, _, h, hgiven =>
    h.push connective (SelectCall.sound_applyAll calls h.child hgiven).configured
  | .among _ _ calls, _, h, hgiven =>
    h.push .and (SelectCall.sound_applyAll calls h.child hgiven).configured
  | .subSelect calls, _, h, hgiven => SelectCall.sound_applyAll calls h.child hgiven

theorem SelectCall.sound_applyAll : ∀ (calls : List SelectCall) {query : Select}, query.Sound →
    (∀ given ∈ SelectCall.allSelects calls, given.Sound) →
    (SelectCall.applyAll query calls).Sound
  | [], _, h, _ => h
  | call :: calls, _, h, hgiven => by
    obtain ⟨first, rest⟩ := List.forall_mem_append.mp hgiven
    exact SelectCall.sound_applyAll calls (SelectCall.sound_apply call h first) rest

end

/-- **Every select that calls lead to is sound.** -/
theorem Select.Built.sound {query : Select} (h : query.Built) : query.Sound := by
  induction h with
  | start target fields => exact Select.sound_start target fields
  | call call _ _ ih hgiven => exact SelectCall.sound_apply call ih hgiven

/-! ### The other statements -/

theorem Insert.configured_addRow {query : Insert} (h : Error.Configured query.error.toList)
    (row : InsertRow) : Error.Configured (query.addRow row).error.toList := by
  simp only [Insert.addRow]
  split
  · exact h
  · split
    · exact h
    · exact h.keepFirst rfl

/-- A call that builds an insert leaves nothing but mistakes in building in its slot. -/
theorem InsertCall.configured_apply (call : InsertCall) {query : Insert}
    (h : Error.Configured query.error.toList) :
    Error.Configured (InsertCall.apply query call).error.toList := by
  cases call with
  | row row => exact Insert.configured_addRow h row
  | ignore flag => exact h
  | rows rows =>
    rw [InsertCall.apply]
    induction rows generalizing query with
    | nil => exact h
    | cons row rows ih => exact ih (Insert.configured_addRow h row)

theorem InsertCall.configured_applyAll (calls : List InsertCall) {query : Insert}
    (h : Error.Configured query.error.toList) :
    Error.Configured (InsertCall.applyAll query calls).error.toList := by
  induction calls generalizing query with
  | nil => exact h
  | cons call calls ih => exact ih (InsertCall.configured_apply call h)

theorem Update.filters_setMany (query : Update) (sets : List (String × NewValue)) :
    (query.setMany sets).filters = query.filters := by
  induction sets generalizing query with
  | nil => rfl
  | cons entry sets ih => exact ih (query.set entry.1 entry.2)

theorem UpdateCall.sound_apply (call : UpdateCall) {query : Update} (h : query.filters.Sound)
    (hgiven : ∀ given ∈ call.selects, given.Sound) :
    (UpdateCall.apply query call).filters.Sound := by
  cases call with
  | filter call => exact FilterCall.sound_apply call h hgiven
  | set column value => exact h
  | setMany sets => exact (query.filters_setMany sets).symm ▸ h

theorem UpdateCall.sound_applyAll (calls : List UpdateCall) {query : Update}
    (h : query.filters.Sound)
    (hgiven : ∀ given ∈ calls.flatMap UpdateCall.selects, given.Sound) :
    (UpdateCall.applyAll query calls).filters.Sound := by
  induction calls generalizing query with
  | nil => exact h
  | cons call calls ih =>
    rw [List.flatMap_cons] at hgiven
    obtain ⟨first, rest⟩ := List.forall_mem_append.mp hgiven
    exact ih (UpdateCall.sound_apply call h first) rest

theorem Delete.sound_filterAll (calls : List FilterCall) {query : Delete}
    (h : query.filters.Sound) (hgiven : ∀ given ∈ FilterCall.allSelects calls, given.Sound) :
    (query.filterAll calls).filters.Sound := by
  induction calls generalizing query with
  | nil => exact h
  | cons call calls ih =>
    obtain ⟨first, rest⟩ := List.forall_mem_append.mp hgiven
    exact ih (FilterCall.sound_apply call h first) rest

/-- **Everything that is wrong with a built statement is a mistake in building it.** -/
theorem Query.Built.configured {query : Query} (h : query.Built) (d : Dialect) :
    Error.Configured (query.violations d) := by
  cases h with
  | select built => exact built.sound.configured d
  | insert target calls =>
    rw [Query.violations, Error.configured_append]
    have start : Error.Configured (Insert.into target).error.toList := Error.configured_nil
    exact ⟨Target.configured_violations (InsertCall.configured_applyAll calls start),
      Error.configured_ite (Error.configured_singleton rfl) Error.configured_nil⟩
  | update target calls hgiven =>
    have start : (Update.of target).filters.Sound := Filters.sound_empty
    have sound := UpdateCall.sound_applyAll calls start fun given hmem => (hgiven given hmem).sound
    simp only [Query.violations, Error.configured_append]
    exact ⟨⟨Target.configured_violations sound.error,
      Error.configured_ite (Error.configured_singleton rfl) Error.configured_nil⟩, sound.clauses d⟩
  | delete target calls hgiven =>
    have start : (Delete.all target).filters.Sound := Filters.sound_empty
    have sound := Delete.sound_filterAll calls start fun given hmem => (hgiven given hmem).sound
    rw [Query.violations, Error.configured_append]
    exact ⟨Target.configured_violations sound.error, sound.clauses d⟩

end SqlBuilder
