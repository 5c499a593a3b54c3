import SqlBuilder.Proofs.FirstRow

/-! # Views of a result

The rows of a result are taken one after the other (`Fetched.toRows`) or counted (`Fetched.size`,
`Fetched.isEmpty`), or the first of them is taken out (`Fetched.first?`).  Each of these goes through
the result in a way of its own.  This module says that they agree on whatever shaping gives back
(`Fetched.views_agree`).

The counts agree with the rows in every result.  The first row need not: it is looked for in the
first group alone, and a group without rows would hide those of the groups behind it.  What it takes
is that no group is empty (`OrderedMap.Populated`).  An entry that is added stands in its group
afterwards, whether the group is new or not, and the other groups stay as they are
(`OrderedMap.Populated.addTo`); so no group is empty after any number of entries
(`OrderedMap.populated_groupBy`).

`GroupedBy` says more about the groups than this, but only of entries with distinct keys.  Here an
entry may take the place of another, so nothing is asked about the number of rows.
-/
namespace SqlBuilder

namespace Pairs

variable {K V : Type} [DecidableEq K] {key : K} {value : V} {entries : List (K × V)}

theorem put_ne_nil : put key value entries ≠ [] := by
  cases entries with
  | nil => exact List.cons_ne_nil _ _
  | cons entry rest =>
    rw [put]
    split <;> exact List.cons_ne_nil _ _

/-- Nothing comes in but what is put. -/
theorem eq_or_mem_of_mem_put {entry : K × V} (member : entry ∈ put key value entries) :
    entry = (key, value) ∨ entry ∈ entries := by
  induction entries with
  | nil => exact .inl (List.mem_singleton.mp member)
  | cons first rest ih =>
    rw [put] at member
    split at member
    · exact (List.mem_cons.mp member).imp_right (List.mem_cons_of_mem _)
    · rcases List.mem_cons.mp member with rfl | member
      · exact .inr List.mem_cons_self
      · exact (ih member).imp_right (List.mem_cons_of_mem _)

end Pairs

namespace OrderedMap

variable {K V G : Type} [DecidableEq K] [DecidableEq G] {groups : OrderedMap G (OrderedMap K V)}

/-! ### Groups with entries -/

/-- No group is empty. -/
def Populated (groups : OrderedMap G (OrderedMap K V)) : Prop :=
  ∀ bucket ∈ groups.toList, bucket.2.toList ≠ []

theorem populated_empty : (empty : OrderedMap G (OrderedMap K V)).Populated :=
  fun _ member => nomatch member

/-- An entry that is added leaves no group empty. -/
theorem Populated.addTo (h : groups.Populated) (group : G) (entry : K × V) :
    (groups.addTo group entry).Populated := by
  intro bucket member
  rcases Pairs.eq_or_mem_of_mem_put member with rfl | member
  · exact Pairs.put_ne_nil
  · exact h bucket member

/-- Groups that entries are put into one after the other are never empty. -/
theorem populated_groupBy (group : K × V → G) (entries : List (K × V)) :
    (groupBy group entries).Populated := by
  induction entries using List.reverseRecOn with
  | nil => exact populated_empty
  | append_singleton entries entry ih =>
    rw [groupBy_concat]
    exact ih.addTo (group entry) entry

/-- There are groups as soon as there are entries. -/
theorem toList_groupBy_eq_nil_iff {group : K × V → G} {entries : List (K × V)} :
    (groupBy group entries).toList = [] ↔ entries = [] := by
  rcases List.eq_nil_or_concat entries with rfl | ⟨before, last, rfl⟩
  · exact ⟨fun _ => rfl, fun _ => rfl⟩
  · rw [List.concat_eq_append, groupBy_concat]
    exact ⟨fun empty => absurd empty Pairs.put_ne_nil, fun empty => absurd empty (by simp)⟩

/-! ### The entries of all groups -/

/-- The sizes of maps come to the number of all their values. -/
theorem foldr_size (list : List (OrderedMap K V)) :
    list.foldr (fun group n => group.size + n) 0 = (list.flatMap values).length := by
  induction list with
  | nil => rfl
  | cons group list ih =>
    rw [List.foldr_cons, ih, List.flatMap_cons, List.length_append, values, List.length_map, size]

/-- Where no group is empty, what stands first in the first group stands first of all. -/
theorem Populated.head?_flatMap (h : groups.Populated) :
    (groups.values.flatMap values).head?
      = groups.values.head?.bind fun group => group.values.head? := by
  rw [values, List.flatMap_map, List.head?_map]
  cases buckets : groups.toList with
  | nil => rfl
  | cons bucket rest =>
    have present : bucket.2.values ≠ [] :=
      mt List.map_eq_nil_iff.mp (h bucket (buckets ▸ List.mem_cons_self))
    rw [List.flatMap_cons, List.head?_append_of_ne_nil _ present]
    rfl

/-- Where no group is empty, nothing is in the groups only when there are none. -/
theorem Populated.flatMap_eq_nil_iff (h : groups.Populated) :
    groups.values.flatMap values = [] ↔ groups.toList = [] := by
  rw [values, List.flatMap_map, List.flatMap_eq_nil_iff]
  constructor
  · intro empty
    exact List.eq_nil_iff_forall_not_mem.mpr fun bucket member =>
      h bucket member (List.map_eq_nil_iff.mp (empty bucket member))
  · intro empty bucket member
    rw [empty] at member
    cases member

end OrderedMap

namespace Fetched

/-! ### Views of any result -/

theorem size_eq_length (fetched : Fetched) : fetched.size = fetched.toRows.length := by
  cases fetched with
  | rows list => rfl
  | keyed m => exact (List.length_map ..).symm
  | grouped groups => exact OrderedMap.foldr_size groups.values
  | single row => cases row <;> rfl

theorem isEmpty_iff (fetched : Fetched) : fetched.isEmpty = true ↔ fetched.toRows = [] := by
  rw [isEmpty, beq_iff_eq, size_eq_length, List.length_eq_zero_iff]

/-- The first row that is found is the first of all, where no group is empty. -/
theorem first?_eq_head? {fetched : Fetched}
    (populated : ∀ groups, fetched = .grouped groups → groups.Populated) :
    fetched.first? = fetched.toRows.head? := by
  cases fetched with
  | rows list => rfl
  | keyed m => rfl
  | grouped groups => exact (populated groups rfl).head?_flatMap.symm
  | single row => cases row <;> rfl

/-- A row behind an empty group is not found. -/
example (row : Row) :
    let groups : OrderedMap Key (OrderedMap Key Row) :=
      (OrderedMap.empty.insert (.text "red") .empty).addTo (.text "blue") (.int 0, row)
    (grouped groups).first? = none ∧ (grouped groups).toRows = [row] :=
  ⟨rfl, rfl⟩

/-! ### Views of shaped rows -/

section Arranged

variable {forwardKey groupResults : Option String} {list : List Row}

theorem populated_of_arranged {groups : OrderedMap Key (OrderedMap Key Row)}
    (h : arranged forwardKey groupResults list = .grouped groups) : groups.Populated := by
  cases groupResults with
  | none => cases forwardKey <;> cases h
  | some column =>
    cases h
    exact OrderedMap.populated_groupBy _ _

theorem forwarded_eq_nil_iff : forwarded forwardKey list = [] ↔ list = [] :=
  calc forwarded forwardKey list = []
      ↔ (forwarded forwardKey list).head?.map Prod.snd = none := by
        rw [Option.map_eq_none_iff, List.head?_eq_none_iff]
    _ ↔ list = [] := by rw [head?_forwarded, leader_eq_none_iff]

/-- Arranging leaves some of the rows, if there are any. -/
theorem toRows_arranged_eq_nil_iff :
    (arranged forwardKey groupResults list).toRows = [] ↔ list = [] := by
  cases groupResults with
  | none =>
    cases forwardKey with
    | none => exact .rfl
    | some column =>
      calc (keyAll column list).values = []
          ↔ (keyAll column list).toList = [] := List.map_eq_nil_iff
        _ ↔ list = [] := by rw [toList_keyAll, forwarded_eq_nil_iff]
  | some column =>
    let groups : OrderedMap Key (OrderedMap Key Row) :=
      .groupBy (fun entry => entry.2.keyIn column) (forwarded forwardKey list)
    have populated : groups.Populated := OrderedMap.populated_groupBy _ _
    calc groups.values.flatMap OrderedMap.values = []
        ↔ groups.toList = [] := populated.flatMap_eq_nil_iff
      _ ↔ forwarded forwardKey list = [] := OrderedMap.toList_groupBy_eq_nil_iff
      _ ↔ list = [] := forwarded_eq_nil_iff

end Arranged

/-- **The views of a result agree.**  Rows are accepted exactly when they have the keys that are asked
for.  What is given back then may be keyed, grouped, both, neither or a single row, and always:

* its size is the number of its rows, and it is empty exactly when it has none;
* the first row that is found in it is the first of its rows;
* none is found only when there were no rows to begin with;
* no group in it is empty, so that looking into the first group misses no row. -/
theorem views_agree (forwardKey groupResults : Option String) (isSingle : Bool) (list : List Row) :
    ((∃ fetched, shape forwardKey groupResults isSingle list = .ok fetched) ↔
      Keyable forwardKey groupResults list) ∧
    ∀ fetched, shape forwardKey groupResults isSingle list = .ok fetched →
      fetched.size = fetched.toRows.length ∧
      (fetched.isEmpty = true ↔ fetched.toRows = []) ∧
      fetched.first? = fetched.toRows.head? ∧
      (fetched.first? = none ↔ list = []) ∧
      ∀ groups, fetched = .grouped groups → ∀ bucket ∈ groups.toList, bucket.2.toList ≠ [] := by
  refine ⟨?_, fun fetched ok => ?_⟩
  · simp only [shape_eq_ok_iff]
    exact ⟨fun ⟨_, keyable, _⟩ => keyable, fun keyable => ⟨_, keyable, rfl⟩⟩
  · obtain ⟨-, same⟩ := shape_eq_ok_iff.mp ok
    have found : (arranged forwardKey groupResults list).first? = none ↔ list = [] := by
      rw [first?_eq_head? fun _ => populated_of_arranged, List.head?_eq_none_iff,
        toRows_arranged_eq_nil_iff]
    have populated : ∀ groups, fetched = .grouped groups → groups.Populated := by
      intro groups grouped
      cases isSingle with
      | true => cases same.symm.trans grouped
      | false => exact populated_of_arranged (same.symm.trans grouped)
    have first : fetched.first? = (arranged forwardKey groupResults list).first? := by
      rw [same]
      cases isSingle <;> rfl
    exact ⟨fetched.size_eq_length, fetched.isEmpty_iff, first?_eq_head? populated,
      first ▸ found, populated⟩

/-- The people in their teams: three of four are left, in two groups, and the first of the first
group is found, who was not given first. -/
theorem views_agree_people :
    ∃ fetched, shape (some "id") (some "team") false people = .ok fetched ∧
      fetched.toRows.length = 3 ∧ fetched.toRows.head? = people[2]? ∧
      fetched.size = 3 ∧ fetched.isEmpty = false ∧ fetched.first? = people[2]? ∧
      ∃ groups, fetched = .grouped groups ∧ groups.size = 2 ∧
        ∀ bucket ∈ groups.toList, bucket.2.toList ≠ [] := by
  let fetched : Fetched := arranged (some "id") (some "team") people
  have ok : shape (some "id") (some "team") false people = .ok fetched := rfl
  have three : fetched.toRows.length = 3 := rfl
  have third : fetched.toRows.head? = people[2]? := rfl
  obtain ⟨size, isEmpty, first, -, populated⟩ :=
    (views_agree (some "id") (some "team") false people).2 fetched ok
  have rows : fetched.isEmpty = false := Bool.eq_false_iff.mpr fun empty =>
    absurd (three.symm.trans (congrArg List.length (isEmpty.mp empty))) (by decide)
  exact ⟨fetched, ok, three, third, size.trans three, rows, first.trans third, _, rfl, rfl,
    populated _ rfl⟩

end Fetched

end SqlBuilder
