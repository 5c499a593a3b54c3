import SqlBuilder.Proofs.Conditions
import SqlBuilder.Proofs.FirstRow

/-! # Rows that a read keeps

A select that is read as it is gives back what the database answers: in a row, or in groups that
together have each row once (`Fetched.Shaped.toRows_perm`).  Only with a limit of one it takes for
granted that there is no more than one row, and drops all but the first.

Without a union that is so, because the limit ends the text (`Select.write_alone`).  In a union it
is the limit of the first member, in parentheses with it and in front of the others
(`Select.write_union`), and the statement as a whole may have any number of rows.  So a read keeps
all rows exactly when it has no limit of one or there is no second row (`Select.get_rows`);
`Select.get_loses_row` shows a union of two rows of which one is lost.
-/
namespace SqlBuilder

namespace Fetched

variable {groupResults : Option String} {list : List Row} {fetched : Fetched}

/-- Rows that are not keyed go on to the grouping as they are. -/
theorem snd_forwarded_none (list : List Row) : (forwarded none list).map Prod.snd = list := by
  refine List.ext_getElem ?_ fun position _ _ => ?_
  · rw [List.length_map, forwarded, List.length_mapIdx]
  · simp only [forwarded, List.getElem_map, List.getElem_mapIdx]

/-- Rows that are not keyed are all kept, in their order or in that of their groups. -/
theorem Shaped.toRows_perm (h : Shaped none groupResults list fetched) :
    fetched.toRows.Perm list := by
  cases fetched with
  | rows kept =>
    obtain ⟨-, -, same⟩ := h
    rw [toRows, same]
  | keyed m => cases h.1
  | grouped groups =>
    obtain ⟨column, -, grouped⟩ := h
    have rows : (Fetched.grouped groups).toRows
        = (groups.toList.flatMap fun bucket => bucket.2.toList).map Prod.snd := by
      rw [toRows, OrderedMap.values, List.flatMap_map, List.map_flatMap]
      rfl
    have perm := grouped.perm.map Prod.snd
    rwa [snd_forwarded_none, ← rows] at perm
  | single row => cases h

/-- Rows that are not keyed need no more than the keys that they are grouped by. -/
theorem keyable_none_iff : Keyable none groupResults list ↔
    ∀ column ∈ groupResults, ∀ row ∈ list, row.hasKey column := by
  have rows (column : String) : (∀ entry ∈ forwarded none list, entry.2.hasKey column)
      ↔ ∀ row ∈ list, row.hasKey column := by
    conv_rhs => rw [← snd_forwarded_none list, List.forall_mem_map]
  simp only [Keyable, rows]
  exact ⟨And.right, fun groups => ⟨fun _ keyed => (nomatch keyed), groups⟩⟩

/-- The first of some rows is all of them when there is no second one. -/
theorem perm_head?_iff : list.head?.toList.Perm list ↔ list.length ≤ 1 := by
  constructor
  · intro perm
    have one : list.head?.toList.length ≤ 1 := Option.length_toList_le
    exact perm.length_eq ▸ one
  · intro few
    rcases list with _ | ⟨row, _ | ⟨second, rest⟩⟩
    · exact .rfl
    · exact .rfl
    · simp at few

/-- Rows that are not keyed are refused for one that cannot be grouped; otherwise all of them are
given back, or the first where a single row is asked for. -/
theorem shape_none_cases (isSingle : Bool) (fits : list.length ≤ Int64.maxValue.toInt) :
    ((∀ column ∈ groupResults, ∀ row ∈ list, row.hasKey column) ∧
      ∃ fetched, shape none groupResults isSingle list = .ok fetched ∧
        if isSingle then fetched = .single list.head? else fetched.toRows.Perm list) ∨
    (¬ (∀ column ∈ groupResults, ∀ row ∈ list, row.hasKey column) ∧
      ∃ reason, shape none groupResults isSingle list = .error (.shape reason)) := by
  rw [← keyable_none_iff]
  cases isSingle with
  | false =>
    rcases @shape_cases none groupResults list fits with
      ⟨keyable, fetched, ok, shaped⟩ | refused
    · exact .inl ⟨keyable, fetched, ok, shaped.toRows_perm⟩
    · exact .inr refused
  | true =>
    have first : leader none list = list.head? := leader_eq_head?_iff.mpr fun _ h => nomatch h
    rcases @shape_true_cases none groupResults list fits with ⟨keyable, ok⟩ | refused
    · exact .inl ⟨keyable, _, ok, congrArg Fetched.single first⟩
    · exact .inr refused

end Fetched

namespace Select

open Writing

variable {d : Dialect} {query : Select} {start last : List Value} {sql : String}

/-! ### Where the limit stands -/

/-- Without a union the text ends in the window. -/
theorem write_alone (alone : query.unions = [])
    (written : (query.write d).run start = .ok (sql, last)) :
    ∃ core, sql = core ++ d.window query.limit query.offset := by
  rw [write_eq, alone] at written
  obtain ⟨_, -, written⟩ := run_check_eq_ok_iff.mp written
  obtain ⟨fields, between, -, written⟩ := run_bind_eq_ok_iff.mp written
  obtain ⟨joins, bound, -, written⟩ := run_bind_eq_ok_iff.mp written
  obtain ⟨conditions, after, -, written⟩ := run_bind_eq_ok_iff.mp written
  cases written
  exact ⟨query.writeCore d fields joins conditions ++ query.writeOrders d,
    (String.append_assoc ..).symm⟩

/-- The head of a union stands in parentheses where it has an order or a window. -/
theorem writeMember_head {limited : Bool} {text member : String}
    (h : writeMember d limited false text = .ok member) :
    member = if limited then "(" ++ text ++ ")" else text := by
  cases limited with
  | false => exact (Except.ok.inj h).symm
  | true =>
    rw [writeMember] at h
    by_cases parenthesized : d.parenthesizesMembers
    · rw [if_neg (by decide), if_pos parenthesized] at h
      exact (Except.ok.inj h).symm
    · rw [if_neg (by decide), if_neg parenthesized, if_pos rfl] at h
      cases h

/-- A union is the select without it, in parentheses where this has an order or a window, and
behind it the other members. -/
theorem write_union (union : query.unions ≠ [])
    (written : (query.write d).run start = .ok (sql, last)) :
    ∃ alone between members,
      (({ query with unions := [] } : Select).write d).run start = .ok (alone, between) ∧
      (UnionMember.writeAll d query.unions).run between = .ok (members, last) ∧
      sql = (if query.isLimited then "(" ++ alone ++ ")" else alone) ++ members := by
  have compound : ¬ query.unions.isEmpty := fun empty => union (List.isEmpty_iff.mp empty)
  rw [write_eq] at written
  obtain ⟨target, checked, written⟩ := run_check_eq_ok_iff.mp written
  obtain ⟨fields, between, hfields, written⟩ := run_bind_eq_ok_iff.mp written
  obtain ⟨joins, bound, hjoins, written⟩ := run_bind_eq_ok_iff.mp written
  obtain ⟨conditions, after, hconditions, written⟩ := run_bind_eq_ok_iff.mp written
  rw [if_neg compound] at written
  obtain ⟨head, enclosed, written⟩ := run_check_eq_ok_iff.mp written
  obtain ⟨members, _, hmembers, written⟩ := run_bind_eq_ok_iff.mp written
  cases written
  refine ⟨query.writeCore d fields joins conditions ++ query.writeTail d, after, members, ?_,
    hmembers, congrArg (· ++ members) (writeMember_head enclosed)⟩
  rw [write_eq]
  exact run_check_eq_ok_iff.mpr ⟨target, checked, run_bind_eq_ok_iff.mpr ⟨fields, between, hfields,
    run_bind_eq_ok_iff.mpr ⟨joins, bound, hjoins,
      run_bind_eq_ok_iff.mpr ⟨conditions, after, hconditions, rfl⟩⟩⟩⟩

/-- **Where a limit stands.**  Without a union it ends the text; in a union it ends the first
member, in parentheses with it and in front of the other members. -/
theorem write_limit {limit : UInt64} (limited : query.limit = some limit)
    (written : (query.write d).run start = .ok (sql, last)) :
    ∃ core, (query.unions = [] ∧ sql = core ++ d.window (some limit) query.offset) ∨
      (query.unions ≠ [] ∧ ∃ between members,
        (UnionMember.writeAll d query.unions).run between = .ok (members, last) ∧
        sql = "(" ++ (core ++ d.window (some limit) query.offset) ++ ")" ++ members) := by
  by_cases union : query.unions = []
  · obtain ⟨core, text⟩ := write_alone union written
    exact ⟨core, .inl ⟨union, limited ▸ text⟩⟩
  · obtain ⟨alone, between, members, first, others, text⟩ := write_union union written
    obtain ⟨core, rfl⟩ := write_alone rfl first
    have enclosed : query.isLimited = true := by
      rw [isLimited, limited]
      simp
    rw [if_pos enclosed] at text
    exact ⟨core, .inr ⟨union, between, members, others, limited ▸ text⟩⟩

/-! ### Reading all rows -/

/-- **Which rows a read keeps.**  A select without a key for its rows is written, and the database
answers it with rows.

* These are accepted exactly when all of them can be grouped as asked.
* Without a limit of one they are then all given back, in their order or in that of their groups.
* With a limit of one the first of them is given back alone, whatever the statement is.
* So rows are lost exactly when there is a second row under a limit of one.
* This limit ends the statement, unless it has a union: then it ends the first member, in
  parentheses with it, and the other members follow. -/
theorem get_rows (executor : Executor) (query : Select) (p : Prepared) (list : List Row)
    (fits : list.length ≤ Int64.maxValue.toInt) (unkeyed : query.forwardKey = none)
    (compiled : (Query.select query).prepare = .ok p)
    (answer : executor (p.statement .select) = .ok (.rows list)) :
    ((∃ fetched, (query.get executor).result = .ok fetched) ↔
      ∀ column ∈ query.groupResults, ∀ row ∈ list, row.hasKey column) ∧
    (∀ fetched, (query.get executor).result = .ok fetched →
      (query.limit ≠ some 1 → fetched.toRows.Perm list) ∧
      (query.limit = some 1 → fetched = .single list.head?) ∧
      (fetched.toRows.Perm list ↔ (query.limit = some 1 → list.length ≤ 1))) ∧
    (query.limit = some 1 → ∃ core,
      (query.unions = [] ∧
        p.sql = core ++ query.target.dialect.window (some 1) query.offset) ∨
      (query.unions ≠ [] ∧ ∃ between members,
        (UnionMember.writeAll query.target.dialect query.unions).run between
          = .ok (members, p.bindings) ∧
        p.sql = "(" ++ (core ++ query.target.dialect.window (some 1) query.offset) ++ ")"
          ++ members)) := by
  have got : (query.get executor).result = Fetched.shape none query.groupResults
      (query.limit == some 1) list := unkeyed ▸ result_get compiled answer
  rw [got]
  have cases := @Fetched.shape_none_cases query.groupResults list (query.limit == some 1) fits
  refine ⟨?_, fun fetched ok => ?_, fun limited => ?_⟩
  · rcases cases with ⟨keyed, fetched, ok, -⟩ | ⟨refused, reason, failed⟩
    · exact ⟨fun _ => keyed, fun _ => ⟨fetched, ok⟩⟩
    · refine ⟨?_, fun keyed => absurd keyed refused⟩
      rintro ⟨fetched, ok⟩
      cases ok.symm.trans failed
  · rcases cases with ⟨-, fetched', ok', kept⟩ | ⟨-, reason, failed⟩
    · cases ok.symm.trans ok'
      by_cases limited : query.limit = some 1
      · rw [if_pos (beq_iff_eq.mpr limited)] at kept
        subst kept
        refine ⟨fun unlimited => absurd limited unlimited, fun _ => rfl, ?_⟩
        rw [Fetched.toRows, Fetched.perm_head?_iff]
        exact ⟨fun few _ => few, fun few => few limited⟩
      · rw [if_neg (mt beq_iff_eq.mp limited)] at kept
        exact ⟨fun _ => kept, fun h => absurd h limited, fun _ h => absurd h limited, fun _ => kept⟩
    · cases ok.symm.trans failed
  · exact write_limit limited (Query.run_of_compile compiled)

/-- Two rows of a union that is grouped: both are given back where the select has no limit, and the
first where it has a limit of one. -/
theorem get_rows_grouped :
    let table (name : String) : Select := Select.all ⟨none, ⟨name, none⟩, .postgres, {}⟩
    let union : Select :=
      { table "a" with unions := [⟨none, table "b"⟩], groupResults := some "id" }
    let ann : Row := .ofPairs [("id", .int32 1), ("name", .text "ann")]
    let bob : Row := .ofPairs [("id", .int32 2), ("name", .text "bob")]
    let executor : Executor := fun _ => .ok (.rows [ann, bob])
    (∃ fetched, (union.get executor).result = .ok fetched ∧ fetched.toRows.Perm [ann, bob]) ∧
      (({ union with limit := some 1 } : Select).get executor).result
        = .ok (.single (some ann)) := by
  intro table union ann bob executor
  have fits : [ann, bob].length ≤ Int64.maxValue.toInt := by decide
  have grouped : ∀ column ∈ union.groupResults, ∀ row ∈ [ann, bob], row.hasKey column := by
    intro column asked
    cases asked
    decide
  have whole : (Query.select union).prepare = .ok
      ⟨"SELECT * FROM \"a\" UNION SELECT * FROM \"b\"", []⟩ := by
    simp only [union, table]
    rfl
  have limited : (Query.select { union with limit := some 1 }).prepare = .ok
      ⟨"(SELECT * FROM \"a\" LIMIT 1) UNION SELECT * FROM \"b\"", []⟩ := by
    simp only [union, table]
    rfl
  obtain ⟨accepts, keeps, -⟩ := get_rows executor union _ [ann, bob] fits rfl whole rfl
  obtain ⟨accepts', drops, -⟩ := get_rows executor { union with limit := some 1 } _ [ann, bob] fits
    rfl limited rfl
  obtain ⟨fetched, ok⟩ := accepts.mpr grouped
  obtain ⟨first, ok'⟩ := accepts'.mpr grouped
  have one : first = .single (some ann) := (drops first ok').2.1 rfl
  exact ⟨⟨fetched, ok, (keeps fetched ok).1 nofun⟩, one ▸ ok'⟩

/-- **A row is lost** where the first member of a union has a limit of one.  The limit stands in
parentheses with this member, so that each of the two tables may have a row in the union; of the
two rows that the database answers the second is dropped. -/
theorem get_loses_row :
    let table (name : String) : Select := Select.all ⟨none, ⟨name, none⟩, .postgres, {}⟩
    let query : Select := { table "a" with limit := some 1, unions := [⟨none, table "b"⟩] }
    let ann : Row := .ofPairs [("id", .int32 1)]
    let bob : Row := .ofPairs [("id", .int32 2)]
    let executor : Executor := fun _ => .ok (.rows [ann, bob])
    (Query.select query).prepare = .ok
        ⟨"(SELECT * FROM \"a\" LIMIT 1) UNION SELECT * FROM \"b\"", []⟩ ∧
      query.forwardKey = none ∧ query.unions ≠ [] ∧
      (query.get executor).result = .ok (.single (some ann)) ∧
      ¬ (Fetched.single (some ann)).toRows.Perm [ann, bob] := by
  intro table query ann bob executor
  have compiled : (Query.select query).prepare = .ok
      ⟨"(SELECT * FROM \"a\" LIMIT 1) UNION SELECT * FROM \"b\"", []⟩ := by
    simp only [query, table]
    rfl
  have two : ¬ (Fetched.single (some ann)).toRows.Perm [ann, bob] := fun perm =>
    absurd perm.length_eq (by decide)
  have answer (statement : Statement) : executor statement = .ok (.rows [ann, bob]) := rfl
  have got : (query.get executor).result = Fetched.shape none none true [ann, bob] :=
    result_get compiled (answer _)
  exact ⟨compiled, rfl, nofun, got, two⟩

end Select

end SqlBuilder
