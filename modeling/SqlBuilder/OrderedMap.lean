/-! # Maps in insertion order

The cells of a row, the entries of a keyed result and the members of a JSON object
come in an order that a caller can see.  `OrderedMap` keeps it: a list of pairs with
distinct keys, in which a key that is written again keeps its place and takes the new
value.

The operation itself is stated on plain lists of pairs (`Pairs.put`), because types
that nest in themselves can hold a list but not a map.  `keys_put` says what it does
to the keys and `get?_put` what it does to look-up; the invariant of `OrderedMap`
follows from the first.
-/
namespace SqlBuilder

/-! ### Lists of pairs -/

namespace Pairs

variable {K V : Type} [DecidableEq K]

/-- The keys, in order. -/
def keys (entries : List (K × V)) : List K :=
  entries.map Prod.fst

/-- The value under a key. -/
def get? (entries : List (K × V)) (key : K) : Option V :=
  (entries.find? fun entry => entry.1 = key).map Prod.snd

/-- The entries with `value` under `key`: in the place of the first entry of that
key, or at the end when there is none. -/
def put (key : K) (value : V) : List (K × V) → List (K × V)
  | [] => [(key, value)]
  | entry :: rest =>
    if entry.1 = key then (key, value) :: rest else entry :: put key value rest

/-- The entries after all pairs have been put in order. -/
def putAll (entries pairs : List (K × V)) : List (K × V) :=
  pairs.foldl (fun entries pair => put pair.1 pair.2 entries) entries

/-- A list of pairs as a list with distinct keys: a repeated key keeps its first place
and takes its last value. -/
def dedupe (pairs : List (K × V)) : List (K × V) :=
  putAll [] pairs

theorem keys_put (key : K) (value : V) (entries : List (K × V)) :
    keys (put key value entries) =
      if key ∈ keys entries then keys entries else keys entries ++ [key] := by
  induction entries with
  | nil => simp [put, keys]
  | cons entry rest ih =>
    by_cases same : entry.1 = key
    · simp [put, keys, same]
    · have other : key ≠ entry.1 := fun h => same h.symm
      simp only [put, same, if_false, keys, List.map_cons, List.mem_cons, other, false_or] at ih ⊢
      rw [ih]
      by_cases present : key ∈ List.map Prod.fst rest <;> simp [present]

theorem get?_put (key other : K) (value : V) (entries : List (K × V)) :
    get? (put key value entries) other =
      if key = other then some value else get? entries other := by
  induction entries with
  | nil =>
    by_cases same : key = other <;> simp [put, get?, same]
  | cons entry rest ih =>
    unfold get? at ih ⊢
    by_cases here : entry.1 = key
    · by_cases same : key = other
      · simp [put, here, same]
      · have there : entry.1 ≠ other := fun h => same (here.symm.trans h)
        simp [put, here, same]
    · by_cases found : entry.1 = other
      · have same : key ≠ other := fun h => here (found.trans h.symm)
        rw [put, if_neg here, if_neg same, List.find?_cons, List.find?_cons]
        simp only [found, decide_true]
      · rw [put, if_neg here, List.find?_cons, List.find?_cons]
        simp only [found, decide_false, ih]

theorem nodup_keys_put {key : K} {value : V} {entries : List (K × V)}
    (distinct : (keys entries).Nodup) : (keys (put key value entries)).Nodup := by
  rw [keys_put]
  split
  · exact distinct
  · rename_i fresh
    rw [List.nodup_append]
    refine ⟨distinct, by simp, ?_⟩
    intro a member b last
    rw [List.mem_singleton] at last
    exact fun same => fresh (last ▸ same ▸ member)

theorem nodup_keys_putAll (pairs : List (K × V)) :
    ∀ {entries : List (K × V)}, (keys entries).Nodup → (keys (putAll entries pairs)).Nodup := by
  induction pairs with
  | nil => exact fun distinct => distinct
  | cons pair rest ih => exact fun distinct => ih (nodup_keys_put distinct)

theorem nodup_keys_dedupe (pairs : List (K × V)) : (keys (dedupe pairs)).Nodup :=
  nodup_keys_putAll pairs List.nodup_nil

end Pairs

/-! ### Maps -/

/-- Pairs with distinct keys, in the order in which the keys first came. -/
structure OrderedMap (K V : Type) [DecidableEq K] where
  toList : List (K × V)
  distinct : (Pairs.keys toList).Nodup

namespace OrderedMap

variable {K V : Type} [DecidableEq K]

/-- The map without entries. -/
def empty : OrderedMap K V :=
  ⟨[], List.nodup_nil⟩

/-- The map with `value` under `key`; a key that is present keeps its place. -/
def insert (m : OrderedMap K V) (key : K) (value : V) : OrderedMap K V :=
  ⟨Pairs.put key value m.toList, Pairs.nodup_keys_put m.distinct⟩

/-- The map that results from inserting pairs in order. -/
def ofList (pairs : List (K × V)) : OrderedMap K V :=
  ⟨Pairs.dedupe pairs, Pairs.nodup_keys_dedupe pairs⟩

/-- The value under a key. -/
def get? (m : OrderedMap K V) (key : K) : Option V :=
  Pairs.get? m.toList key

/-- The keys, in order. -/
def keys (m : OrderedMap K V) : List K :=
  Pairs.keys m.toList

/-- The values, in the order of their keys. -/
def values (m : OrderedMap K V) : List V :=
  m.toList.map Prod.snd

/-- The number of entries. -/
def size (m : OrderedMap K V) : Nat :=
  m.toList.length

theorem get?_insert (m : OrderedMap K V) (key other : K) (value : V) :
    (m.insert key value).get? other = if key = other then some value else m.get? other :=
  Pairs.get?_put key other value m.toList

theorem keys_insert (m : OrderedMap K V) (key : K) (value : V) :
    (m.insert key value).keys = if key ∈ m.keys then m.keys else m.keys ++ [key] :=
  Pairs.keys_put key value m.toList

end OrderedMap
end SqlBuilder
