import Mathlib.Data.List.Basic
import Mathlib.Data.List.Induction
import SqlBuilder.OrderedMap

/-! # Entries that repeat a key

Pairs are put one after the other into a list with distinct keys, and entries one after the
other into the group they belong to.  This module says what comes out without the putting.

After all pairs are put there is every key once, where it first came, with the value that came
last under it (`Pairs.dedupe_eq_lastOfEach`); the keys (`Pairs.keys_dedupe`) and the values
(`Pairs.get?_dedupe`) are followed apart, each one pair at a time.

After all entries are grouped there is every group once, where its first entry came, and in it
the entries that belong to it in their order (`GroupedBy`).  One more entry keeps this when its
own key is new (`GroupedBy.add`), so it holds of all entries when their keys are distinct
(`groupedBy_groupBy`).  Then no group is empty and the groups in a row are the entries again.
-/
namespace SqlBuilder

/-- An item that is appended counts among the distinct ones if it is new. -/
theorem eraseDups_concat {A : Type} [DecidableEq A] (list : List A) (a : A) :
    (list ++ [a]).eraseDups = if a ∈ list then list.eraseDups else list.eraseDups ++ [a] := by
  rw [List.eraseDups_append]
  by_cases known : a ∈ list
  · simp [List.removeAll, known]
  · simp [List.removeAll, known, List.eraseDups_cons]

namespace Pairs

variable {K V : Type} [DecidableEq K]

/-! ### Looking up -/

theorem get?_of_mem {entries : List (K × V)} (distinct : (keys entries).Nodup) :
    ∀ entry ∈ entries, get? entries entry.1 = some entry.2 := by
  induction entries with
  | nil => exact fun _ h => nomatch h
  | cons first rest ih =>
    obtain ⟨fresh, distinct⟩ := List.nodup_cons.mp distinct
    intro entry member
    rcases List.mem_cons.mp member with rfl | member
    · simp [get?]
    · have other : first.1 ≠ entry.1 := fun same =>
        fresh (same ▸ List.mem_map_of_mem member)
      rw [← ih distinct entry member, get?, List.find?_cons, decide_eq_false other, get?]

/-- What is under a key does not depend on the order of entries with distinct keys. -/
theorem get?_perm {entries others : List (K × V)} (perm : entries.Perm others)
    (distinct : (keys entries).Nodup) (key : K) : get? entries key = get? others key := by
  have distinct' : (keys others).Nodup := (perm.map Prod.fst).nodup_iff.mp distinct
  by_cases present : ∃ entry ∈ entries, entry.1 = key
  · obtain ⟨entry, member, rfl⟩ := present
    rw [get?_of_mem distinct entry member, get?_of_mem distinct' entry (perm.mem_iff.mp member)]
  · have absent : ∀ list : List (K × V), list.Perm entries → get? list key = none := by
      intro list same
      rw [get?, Option.map_eq_none_iff, List.find?_eq_none]
      intro entry member found
      exact present ⟨entry, same.mem_iff.mp member, of_decide_eq_true found⟩
    rw [absent entries (.refl _), absent others perm.symm]

/-- Entries with distinct keys are known from their keys and what is under them. -/
theorem eq_filterMap_get? {entries : List (K × V)} (distinct : (keys entries).Nodup) :
    (keys entries).filterMap (fun key => (get? entries key).map fun value => (key, value))
      = entries := by
  have back : ∀ entry ∈ entries,
      (get? entries entry.1).map (fun value => (entry.1, value)) = some entry := fun entry member =>
    by rw [get?_of_mem distinct entry member, Option.map_some]
  rw [keys, List.filterMap_map]
  exact (List.filterMap_congr back).trans List.filterMap_some

theorem put_of_fresh {key : K} {value : V} {entries : List (K × V)} (fresh : key ∉ keys entries) :
    put key value entries = entries ++ [(key, value)] := by
  induction entries with
  | nil => rfl
  | cons entry rest ih =>
    have other : entry.1 ≠ key := fun same => fresh (same ▸ List.mem_cons_self)
    rw [put, if_neg other, ih fun later => fresh (List.mem_cons_of_mem _ later), List.cons_append]

/-! ### The last value of each key -/

/-- Each key once, where it first comes, with the value that comes last under it. -/
def lastOfEach (pairs : List (K × V)) : List (K × V) :=
  (keys pairs).eraseDups.filterMap fun key => (pairs.filter fun pair => pair.1 = key).getLast?

theorem dedupe_concat (pairs : List (K × V)) (pair : K × V) :
    dedupe (pairs ++ [pair]) = put pair.1 pair.2 (dedupe pairs) := by
  rw [dedupe, putAll, List.foldl_append]
  rfl

theorem keys_dedupe (pairs : List (K × V)) : keys (dedupe pairs) = (keys pairs).eraseDups := by
  induction pairs using List.reverseRecOn with
  | nil => rfl
  | append_singleton pairs pair ih =>
    have keys_concat : keys (pairs ++ [pair]) = keys pairs ++ [pair.1] := List.map_append
    simp only [dedupe_concat, keys_put, ih, keys_concat, eraseDups_concat, List.mem_eraseDups]

theorem get?_dedupe (pairs : List (K × V)) (key : K) :
    get? (dedupe pairs) key = ((pairs.filter fun pair => pair.1 = key).getLast?).map Prod.snd := by
  induction pairs using List.reverseRecOn with
  | nil => rfl
  | append_singleton pairs pair ih =>
    rw [dedupe_concat, get?_put, ih, List.filter_append]
    by_cases same : pair.1 = key <;> simp [same]

/-- Distinct keys are all kept. -/
theorem dedupe_of_nodup {entries : List (K × V)} (distinct : (keys entries).Nodup) :
    dedupe entries = entries := by
  induction entries using List.reverseRecOn with
  | nil => rfl
  | append_singleton entries entry ih =>
    rw [keys, List.map_append, List.nodup_append] at distinct
    obtain ⟨distinct, -, apart⟩ := distinct
    rw [dedupe_concat, ih distinct]
    exact put_of_fresh fun member => apart _ member _ (List.mem_singleton_self _) rfl

theorem dedupe_eq_lastOfEach (pairs : List (K × V)) : dedupe pairs = lastOfEach pairs := by
  rw [← eq_filterMap_get? (nodup_keys_dedupe pairs), keys_dedupe, lastOfEach]
  congr 1
  funext key
  rw [get?_dedupe, Option.map_map]
  cases last : (pairs.filter fun pair => pair.1 = key).getLast? with
  | none => rfl
  | some pair =>
    have same : pair.1 = key := by simpa using (List.mem_filter.mp (List.mem_of_getLast? last)).2
    rw [Option.map_some, Function.comp_apply, ← same]

/-- Only what is put stays. -/
theorem mem_of_mem_dedupe {pairs : List (K × V)} {pair : K × V} (member : pair ∈ dedupe pairs) :
    pair ∈ pairs := by
  rw [dedupe_eq_lastOfEach, lastOfEach] at member
  obtain ⟨key, -, last⟩ := List.mem_filterMap.mp member
  exact (List.mem_filter.mp (List.mem_of_getLast? last)).1

theorem nodup_keys_lastOfEach (pairs : List (K × V)) : (keys (lastOfEach pairs)).Nodup :=
  dedupe_eq_lastOfEach pairs ▸ nodup_keys_dedupe pairs

/-- What stands first is the last of the pairs that have the key of the first one. -/
theorem head?_lastOfEach (pairs : List (K × V)) :
    (lastOfEach pairs).head?
      = pairs.head?.bind fun first => (pairs.filter fun pair => pair.1 = first.1).getLast? := by
  cases pairs with
  | nil => rfl
  | cons first rest =>
    have present : (first :: rest).filter (fun pair => pair.1 = first.1) ≠ [] :=
      List.ne_nil_of_mem (List.mem_filter.mpr ⟨List.mem_cons_self, decide_eq_true rfl⟩)
    obtain ⟨last, found⟩ := Option.ne_none_iff_exists'.mp (mt List.getLast?_eq_none_iff.mp present)
    rw [lastOfEach, keys, List.map_cons, List.eraseDups_cons, List.filterMap_cons, found]
    exact found.symm

end Pairs

namespace OrderedMap

variable {K V : Type} [DecidableEq K]

theorem toList_insert_of_fresh {m : OrderedMap K V} {key : K} {value : V} (fresh : key ∉ m.keys) :
    (m.insert key value).toList = m.toList ++ [(key, value)] :=
  Pairs.put_of_fresh fresh

/-- Inserting one after the other puts all the pairs. -/
theorem toList_foldl_insert {A : Type} (key : A → K) (value : A → V) (list : List A)
    (m : OrderedMap K V) :
    (list.foldl (fun m a => m.insert (key a) (value a)) m).toList
      = Pairs.putAll m.toList (list.map fun a => (key a, value a)) := by
  induction list generalizing m with
  | nil => rfl
  | cons a list ih => exact ih (m.insert (key a) (value a))

end OrderedMap

/-! ### Groups -/

/-- A list in parts, by what each item belongs to, is the list again in another order. -/
theorem perm_flatMap_filter {A G : Type} [DecidableEq G] (group : A → G) {groups : List G}
    (distinct : groups.Nodup) {list : List A} (all : ∀ a ∈ list, group a ∈ groups) :
    (groups.flatMap fun g => list.filter fun a => group a = g).Perm list := by
  induction groups generalizing list with
  | nil => rw [List.eq_nil_iff_forall_not_mem.mpr fun a member => nomatch all a member]; rfl
  | cons g groups ih =>
    obtain ⟨fresh, distinct⟩ := List.nodup_cons.mp distinct
    let others := list.filter fun a => !decide (group a = g)
    have remaining : ∀ a ∈ others, group a ∈ groups := by
      intro a member
      obtain ⟨member, other⟩ := List.mem_filter.mp member
      exact (List.mem_cons.mp (all a member)).resolve_left (by simpa using other)
    have parts : ∀ g' ∈ groups, (others.filter fun a => group a = g')
        = list.filter fun a => group a = g' := by
      intro g' member
      rw [List.filter_filter]
      refine List.filter_congr fun a _ => ?_
      by_cases here : group a = g'
      · have other : g' ≠ g := fun same => fresh (same ▸ member)
        simp [here, other]
      · simp [here]
    rw [List.flatMap_cons, ← List.flatMap_congr parts]
    exact ((ih distinct remaining).append_left _).trans (List.filter_append_perm _ list)

section Groups

variable {K V G : Type} [DecidableEq K] [DecidableEq G]

/-- Puts an entry into a group. -/
def OrderedMap.addTo (groups : OrderedMap G (OrderedMap K V)) (group : G) (entry : K × V) :
    OrderedMap G (OrderedMap K V) :=
  groups.insert group (((groups.get? group).getD .empty).insert entry.1 entry.2)

/-- The entries put into their groups one after the other. -/
def OrderedMap.groupBy (group : K × V → G) (entries : List (K × V)) :
    OrderedMap G (OrderedMap K V) :=
  entries.foldl (fun groups entry => groups.addTo (group entry) entry) .empty

theorem OrderedMap.groupBy_concat (group : K × V → G) (entries : List (K × V)) (entry : K × V) :
    groupBy group (entries ++ [entry]) = (groupBy group entries).addTo (group entry) entry := by
  rw [groupBy, List.foldl_append]
  rfl

/-- The entries in groups: every group once, where its first entry comes, and in it the entries
that belong to it in their order. -/
structure GroupedBy (group : K × V → G) (entries : List (K × V))
    (groups : OrderedMap G (OrderedMap K V)) : Prop where
  keys : groups.keys = (entries.map group).eraseDups
  members : ∀ g, ((groups.get? g).getD .empty).toList = entries.filter fun entry => group entry = g

variable {group : K × V → G} {entries : List (K × V)} {groups : OrderedMap G (OrderedMap K V)}

theorem groupedBy_empty : GroupedBy group [] .empty where
  keys := rfl
  members _ := rfl

/-- An entry with a new key comes last in its group. -/
theorem GroupedBy.add (h : GroupedBy group entries groups) {entry : K × V}
    (fresh : entry.1 ∉ Pairs.keys entries) :
    GroupedBy group (entries ++ [entry]) (groups.addTo (group entry) entry) where
  keys := by
    have groups_concat : (entries ++ [entry]).map group = entries.map group ++ [group entry] :=
      List.map_append
    simp only [OrderedMap.addTo, OrderedMap.keys_insert, h.keys, groups_concat, eraseDups_concat,
      List.mem_eraseDups]
  members g := by
    rw [OrderedMap.addTo, OrderedMap.get?_insert, List.filter_append]
    by_cases here : group entry = g
    · have fresh : entry.1 ∉ ((groups.get? g).getD .empty).keys := by
        rw [OrderedMap.keys, h.members]
        exact fun member => fresh (List.map_subset _ (List.filter_subset_self _) member)
      rw [if_pos here, Option.getD_some, here, OrderedMap.toList_insert_of_fresh fresh, h.members]
      simp [here]
    · rw [if_neg here, h.members g]
      simp [here]

/-- Entries with distinct keys, put into their groups one after the other. -/
theorem groupedBy_groupBy (distinct : (Pairs.keys entries).Nodup) :
    GroupedBy group entries (.groupBy group entries) := by
  induction entries using List.reverseRecOn with
  | nil => exact groupedBy_empty
  | append_singleton entries entry ih =>
    rw [Pairs.keys, List.map_append, List.nodup_append] at distinct
    obtain ⟨distinct, -, apart⟩ := distinct
    rw [OrderedMap.groupBy_concat]
    exact (ih distinct).add fun member => apart _ member _ (List.mem_singleton_self _) rfl

theorem GroupedBy.toList_of_mem (h : GroupedBy group entries groups) :
    ∀ bucket ∈ groups.toList,
      bucket.2.toList = entries.filter fun entry => group entry = bucket.1 := by
  intro bucket member
  have found : groups.get? bucket.1 = some bucket.2 := Pairs.get?_of_mem groups.distinct _ member
  rw [← h.members, found, Option.getD_some]

/-- No group is empty. -/
theorem GroupedBy.nonempty (h : GroupedBy group entries groups) :
    ∀ bucket ∈ groups.toList, bucket.2.toList ≠ [] := by
  intro bucket member
  have key : bucket.1 ∈ (entries.map group).eraseDups := h.keys ▸ List.mem_map_of_mem member
  obtain ⟨entry, present, belongs⟩ := List.mem_map.mp (List.mem_eraseDups.mp key)
  rw [h.toList_of_mem bucket member]
  exact List.ne_nil_of_mem (List.mem_filter.mpr ⟨present, decide_eq_true belongs⟩)

/-- What stands first in the first group is the first entry. -/
theorem GroupedBy.head? (h : GroupedBy group entries groups) :
    (groups.toList.head?.bind fun bucket => bucket.2.toList.head?) = entries.head? := by
  have keys := h.keys
  cases entries with
  | nil =>
    have empty : groups.toList = [] := List.map_eq_nil_iff.mp keys
    rw [empty]
    rfl
  | cons first rest =>
    rw [List.map_cons, List.eraseDups_cons] at keys
    obtain ⟨bucket, others, buckets, key, -⟩ := List.map_eq_cons_iff.mp keys
    have belongs : decide (group first = bucket.1) = true := decide_eq_true key.symm
    have members := h.toList_of_mem bucket (buckets ▸ List.mem_cons_self)
    rw [List.filter_cons, if_pos belongs] at members
    rw [buckets, List.head?_cons, Option.bind_some, members]
    rfl

/-- The groups in a row are the entries in another order: none is lost and none comes twice. -/
theorem GroupedBy.perm (h : GroupedBy group entries groups) :
    (groups.toList.flatMap fun bucket => bucket.2.toList).Perm entries := by
  have all : ∀ entry ∈ entries, group entry ∈ groups.keys := fun entry member => by
    rw [h.keys]
    exact List.mem_eraseDups.mpr (List.mem_map_of_mem member)
  rw [List.flatMap_congr h.toList_of_mem]
  have := perm_flatMap_filter group groups.distinct all
  rwa [Pairs.keys, List.flatMap_map] at this

end Groups

end SqlBuilder
