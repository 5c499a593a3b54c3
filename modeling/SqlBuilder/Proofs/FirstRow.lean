import SqlBuilder.Proofs.Shaping
import SqlBuilder.Proofs.Terminal

/-! # The single row of a result

Where one row is asked for, it is taken out last: rows are keyed and grouped first, and what
stands first then is the answer.  Grouping leaves it in its place, because the first group is that
of the first entry and has this entry first (`GroupedBy.head?`).  Keying does not: a key keeps the
place where it first comes but takes the row that comes last under it.  So the row that is answered
is the last one that has the key of the first (`Fetched.leader`), whatever the rows are grouped by.

The reads of one row (`Terminal.readsRow`) make this of the rows that the database answers
(`Fetched.shape_single`).  It is the first of these rows only when no later row, other than an
equal one, ends up under the key of the first; `Fetched.shape_overwrites_first` shows two rows of a
union of which the second is answered.
-/
namespace SqlBuilder

namespace Fetched

/-! ### The row that stands first -/

/-- The last row that has the same key in a column as a given row. -/
def lastAlike (column : String) (row : Row) (list : List Row) : Option Row :=
  (list.filter fun other => other.keyIn column = row.keyIn column).getLast?

/-- The row that stands first once the rows are keyed. -/
def leader (forwardKey : Option String) (list : List Row) : Option Row :=
  list.head?.bind fun first =>
    match forwardKey with
    | none => some first
    | some column => lastAlike column first list

variable {forwardKey groupResults : Option String} {list : List Row}

theorem head?_forwarded (forwardKey : Option String) (list : List Row) :
    (forwarded forwardKey list).head?.map Prod.snd = leader forwardKey list := by
  cases list with
  | nil => cases forwardKey <;> rfl
  | cons first rest =>
    cases forwardKey with
    | none =>
      rw [forwarded, List.mapIdx_cons]
      rfl
    | some column =>
      have head : ((first :: rest).map fun row => (row.keyIn column, row)).head?
          = some (first.keyIn column, first) := rfl
      rw [forwarded, Pairs.head?_lastOfEach, head, Option.bind_some, List.filter_map,
        List.getLast?_map, Option.map_map]
      exact Option.map_id' ..

/-- The last row alike is one of the rows; the row itself is alike. -/
theorem exists_lastAlike {column : String} {row : Row} (member : row ∈ list) :
    ∃ last, lastAlike column row list = some last := by
  have present : list.filter (fun other => other.keyIn column = row.keyIn column) ≠ [] :=
    List.ne_nil_of_mem (List.mem_filter.mpr ⟨member, decide_eq_true rfl⟩)
  exact Option.ne_none_iff_exists'.mp (mt List.getLast?_eq_none_iff.mp present)

theorem leader_eq_none_iff : leader forwardKey list = none ↔ list = [] := by
  cases list with
  | nil => exact ⟨fun _ => rfl, fun _ => rfl⟩
  | cons first rest =>
    refine ⟨fun none => ?_, nofun⟩
    cases forwardKey with
    | none => cases none
    | some column =>
      obtain ⟨last, found⟩ := @exists_lastAlike (first :: rest) column first List.mem_cons_self
      cases found.symm.trans none

/-- The leader is the first row unless the last row with its key is another one. -/
theorem leader_eq_head?_iff : leader forwardKey list = list.head? ↔
    ∀ column ∈ forwardKey, ∀ first ∈ list.head?, lastAlike column first list = some first := by
  cases list with
  | nil => exact ⟨fun _ _ _ _ member => (nomatch member), fun _ => rfl⟩
  | cons first rest =>
    cases forwardKey with
    | none => exact ⟨fun _ _ member => (nomatch member), fun _ => rfl⟩
    | some column => simp [leader]

/-- **What stands first** in shaped rows is the leader, whatever they are grouped by. -/
theorem Shaped.first? {fetched : Fetched} (h : Shaped forwardKey groupResults list fetched) :
    fetched.first? = leader forwardKey list := by
  cases fetched with
  | rows kept =>
    obtain ⟨rfl, -, same⟩ := h
    rw [same]
    cases list <;> rfl
  | keyed m =>
    obtain ⟨-, -, entries⟩ := h
    rw [← head?_forwarded, ← entries, Fetched.first?, OrderedMap.values, List.head?_map]
  | grouped groups =>
    obtain ⟨column, -, grouped⟩ := h
    rw [← head?_forwarded, ← grouped.head?, Fetched.first?, OrderedMap.values, List.head?_map]
    cases groups.toList.head? with
    | none => rfl
    | some bucket => exact List.head?_map ..
  | single row => cases h

/-! ### Taking the row out -/

/-- Rows that have the keys that are asked for have a leader to answer with; others are refused. -/
theorem shape_true_cases (fits : list.length ≤ Int64.maxValue.toInt) :
    (Keyable forwardKey groupResults list ∧
      shape forwardKey groupResults true list = .ok (.single (leader forwardKey list))) ∨
    (¬ Keyable forwardKey groupResults list ∧
      ∃ reason, shape forwardKey groupResults true list = .error (.shape reason)) := by
  by_cases keyable : Keyable forwardKey groupResults list
  · have shaped : Shaped forwardKey groupResults list (arranged forwardKey groupResults list) :=
      shaped_arranged fits
    exact .inl ⟨keyable, shape_eq_ok_iff.mpr ⟨keyable, by rw [← shaped.first?]; rfl⟩⟩
  · exact .inr ⟨keyable, shape_error keyable⟩

end Fetched

/-! ### Reading one row -/

/-- Whether a way to read asks for one row. -/
def Terminal.readsRow : Terminal → Bool
  | .one | .find .. | .first _ | .last _ => true
  | .get | .column _ | .min _ | .max _ | .avg _ | .count | .countColumn _ | .sum _
  | .hasRows => false

namespace Select

variable {executor : Executor} {query : Select} {p : Prepared} {outcome : Outcome}

/-- Reading a select is shaping the rows that the database answers to it. -/
theorem result_get (compiled : (Query.select query).prepare = .ok p)
    (answer : executor (p.statement .select) = .ok outcome) :
    (query.get executor).result = Fetched.shape query.forwardKey query.groupResults
      (query.limit == some 1) outcome.toRows := by
  have executed : executor ⟨p.sql, p.bindings, .select⟩ = .ok outcome := answer
  rw [get, fetch, compiled, Session.prepare]
  simp only [Session.andThen, Session.execute, executed]
  cases outcome <;> rfl

/-- A read of one row asks for it, and leaves the keys and the groups of the select. -/
theorem calls_of_readsRow {terminal : Terminal} (h : terminal.readsRow) :
    let asked := SelectCall.applyAll query terminal.calls
    asked.limit = some 1 ∧ asked.forwardKey = query.forwardKey ∧
      asked.groupResults = query.groupResults ∧
      query.read executor terminal
        = (asked.get executor).map fun fetched => .row fetched.first? := by
  cases terminal with
  | one | find | first | last => exact ⟨rfl, rfl, rfl, Session.map_map ..⟩
  | _ => cases h

end Select

namespace Fetched

/-- **Which row is answered where one is asked for.**  Rows are accepted exactly when they have the
keys that are asked for.  Then:

* the answer is the leader, which does not depend on what the rows are grouped by;
* there is none exactly when there are no rows;
* it is the first row exactly when no column keys the rows, or the last row with the key of the
  first is that row again;
* a read of one row gives this row of the rows that the database answers to it. -/
theorem shape_single (forwardKey groupResults : Option String) (list : List Row)
    (fits : list.length ≤ Int64.maxValue.toInt) :
    ((∃ fetched, shape forwardKey groupResults true list = .ok fetched) ↔
      Keyable forwardKey groupResults list) ∧
    (∀ fetched, shape forwardKey groupResults true list = .ok fetched →
      fetched = .single (leader forwardKey list) ∧ (fetched = .single none ↔ list = []) ∧
      (fetched = .single list.head? ↔ ∀ column ∈ forwardKey, ∀ first ∈ list.head?,
        lastAlike column first list = some first)) ∧
    ∀ (executor : Executor) (query : Select) (terminal : Terminal) (p : Prepared),
      terminal.readsRow → query.forwardKey = forwardKey → query.groupResults = groupResults →
      (Query.select (SelectCall.applyAll query terminal.calls)).prepare = .ok p →
      executor (p.statement .select) = .ok (.rows list) →
      Keyable forwardKey groupResults list →
      (query.read executor terminal).result = .ok (.row (leader forwardKey list)) := by
  have cases := @shape_true_cases forwardKey groupResults list fits
  refine ⟨?_, fun fetched ok => ?_, ?_⟩
  · rcases cases with ⟨keyable, ok⟩ | ⟨refused, reason, failed⟩
    · exact ⟨fun _ => keyable, fun _ => ⟨_, ok⟩⟩
    · refine ⟨?_, fun keyable => absurd keyable refused⟩
      rintro ⟨fetched, ok⟩
      cases ok.symm.trans failed
  · have single : fetched = .single (leader forwardKey list) := by
      rcases cases with ⟨-, ok'⟩ | ⟨-, reason, failed⟩
      · exact Except.ok.inj (ok.symm.trans ok')
      · cases ok.symm.trans failed
    subst single
    refine ⟨rfl, ?_, ?_⟩
    · rw [Fetched.single.injEq, leader_eq_none_iff]
    · rw [Fetched.single.injEq, leader_eq_head?_iff]
  · rintro executor query terminal p row rfl rfl compiled answer keyable
    obtain ⟨limit, forwards, groups, read⟩ := @Select.calls_of_readsRow executor query terminal row
    have single : shape query.forwardKey query.groupResults true list
        = .ok (.single (leader query.forwardKey list)) := by
      rcases cases with ⟨-, ok⟩ | ⟨refused, -⟩
      · exact ok
      · exact absurd keyable refused
    have got := Select.result_get compiled answer
    rw [limit, forwards, groups] at got
    rw [read, Session.map, got]
    exact congrArg (Except.map _) single

/-- Of the four people, the one that is answered is the third, who has the key of the first; that
the first could not be put into a team does not matter. -/
theorem shape_single_people :
    people.length ≤ Int64.maxValue.toInt ∧ leader (some "id") people = people[2]? ∧
      shape (some "id") (some "team") true people = .ok (.single people[2]?) := by
  have fits : people.length ≤ Int64.maxValue.toInt := by decide
  have keyed : ∀ row ∈ people, row.hasKey "id" := by decide
  have left : ∀ entry ∈ forwarded (some "id") people, entry.2.hasKey "team" := by decide
  have third : leader (some "id") people = people[2]? := rfl
  obtain ⟨accepts, answers, -⟩ := shape_single (some "id") (some "team") people fits
  obtain ⟨fetched, ok⟩ := accepts.mpr
    ⟨fun _ h => Option.mem_some.mp h ▸ keyed, fun _ h => Option.mem_some.mp h ▸ left⟩
  obtain ⟨single, -⟩ := answers fetched ok
  exact ⟨fits, third, third ▸ single ▸ ok⟩

/-- **The first row is written over** by a later one with its key.  The members of a union have a
row each under the same key, and the first row of the union in the order of names is asked for. -/
theorem shape_overwrites_first :
    let table (name : String) : Select := Select.all ⟨none, ⟨name, none⟩, .postgres, {}⟩
    let query : Select :=
      { table "a" with unions := [⟨none, table "b"⟩], forwardKey := some "id" }
    let ann : Row := .ofPairs [("id", .int32 7), ("name", .text "ann")]
    let bob : Row := .ofPairs [("id", .int32 7), ("name", .text "bob")]
    shape (some "id") none true [ann, bob] = .ok (.single (some bob)) ∧
      (query.first (fun _ => .ok (.rows [ann, bob])) "name").result = .ok (some bob) ∧
      [ann, bob].head? ≠ some bob := by
  intro table query ann bob
  refine ⟨rfl, ?_, fun same => ?_⟩
  · simp only [query, ann, bob, table]
    rfl
  · have name : ann.get? "name" = bob.get? "name" := congrArg (fun row => row.get? "name")
      (Option.some.inj same)
    exact absurd (Value.text.inj (Option.some.inj name)) (by decide)

end Fetched

end SqlBuilder
