import Mathlib.Data.List.Induction
import SqlBuilder.Proofs.Entries
import SqlBuilder.Proofs.Mistakes

/-! # One batch of orders

A call that orders by columns adds a batch of orders behind those that are there.  While it goes
through its entries, a direction that cannot be read is left out and its mistake kept, a named
column that came before is given the new direction in its old place, and a piece of SQL is added
every time.

`Orders.settle` says what the batch comes to without going through it: what tells one order from
another is the name of a column, and the place of a piece of SQL; everything that can be told apart
is there once, where it first comes, with the direction that comes last.  The batch is that
(`Select.orderBatch_eq`), and both calls add it (`Select.orders_appended`).
-/
namespace SqlBuilder

namespace Orders

/-! ### What tells orders apart -/

/-- What an order is told from others by. -/
inductive Mark where
  | name (name : String)
  | place (place : Nat)
  deriving DecidableEq

/-- A named column is known by its name, a piece of SQL only by the place where it stands. -/
def mark (place : Nat) : Column → Mark
  | .name name => .name name
  | .raw _ => .place place

/-- Orders with their marks. -/
def marked (orders : List (Column × Direction)) : List (Mark × (Column × Direction)) :=
  orders.mapIdx fun place order => (mark place order.1, order)

/-- **What orders come to:** for every mark one order, in the place of the first and in the
direction of the last with this mark. -/
def settle (orders : List (Column × Direction)) : List (Column × Direction) :=
  (Pairs.lastOfEach (marked orders)).map Prod.snd

/-- The entries whose direction can be read, as orders. -/
def readable (entries : List (Column × Except Error Direction)) : List (Column × Direction) :=
  entries.filterMap fun entry => entry.2.toOption.map fun direction => (entry.1, direction)

/-- Whether an order is by a column. -/
def isBy (column : Column) (order : Column × Direction) : Bool :=
  order.1 = column

/-- Whether an order is by a piece of SQL. -/
def isRaw (order : Column × Direction) : Bool :=
  order.1.name?.isNone

theorem marked_concat (orders : List (Column × Direction)) (order : Column × Direction) :
    marked (orders ++ [order]) = marked orders ++ [(mark orders.length order.1, order)] := by
  rw [marked, List.mapIdx_concat]
  rfl

/-- The mark of an order is the name of its column, or an earlier place than the end. -/
theorem mark_of_mem {orders : List (Column × Direction)} {entry : Mark × (Column × Direction)}
    (member : entry ∈ marked orders) :
    (∀ name, entry.1 = .name name ↔ entry.2.1 = .name name) ∧
      entry.1 ≠ .place orders.length := by
  obtain ⟨place, bound, rfl⟩ := List.mem_mapIdx.mp member
  have earlier : place ≠ orders.length := Nat.ne_of_lt bound
  cases orders[place].1 with
  | name name => simp [mark]
  | raw sql => simp [mark, earlier]

/-! ### Going through the orders -/

/-- The batch after all orders. -/
def collect (orders : List (Column × Direction)) : List (Column × Direction) :=
  orders.foldl (fun batch order => Select.addOrder batch order.1 order.2) []

theorem collect_name (orders : List (Column × Direction)) (name : String) (direction : Direction) :
    collect (orders ++ [(.name name, direction)])
      = Pairs.put (.name name) direction (collect orders) := by
  rw [collect, List.foldl_append]
  rfl

theorem collect_raw (orders : List (Column × Direction)) (sql : Raw) (direction : Direction) :
    collect (orders ++ [(.raw sql, direction)]) = collect orders ++ [(.raw sql, direction)] := by
  rw [collect, List.foldl_append]
  rfl

/-- Putting an order by the name of its column is putting it by its mark. -/
theorem map_snd_put {name : String} {direction : Direction}
    {entries : List (Mark × (Column × Direction))}
    (marks : ∀ entry ∈ entries, entry.1 = .name name ↔ entry.2.1 = .name name) :
    (Pairs.put (.name name) (.name name, direction) entries).map Prod.snd
      = Pairs.put (.name name) direction (entries.map Prod.snd) := by
  induction entries with
  | nil => rfl
  | cons entry entries ih =>
    obtain ⟨first, rest⟩ := List.forall_mem_cons.mp marks
    by_cases here : entry.1 = .name name
    · rw [Pairs.put, if_pos here, List.map_cons, List.map_cons, Pairs.put, if_pos (first.mp here)]
    · have other : ¬ entry.2.1 = .name name := fun same => here (first.mpr same)
      rw [Pairs.put, if_neg here, List.map_cons, List.map_cons, Pairs.put, if_neg other, ih rest]

/-- **The batch that is collected** has every mark once. -/
theorem collect_eq_settle (orders : List (Column × Direction)) :
    collect orders = settle orders := by
  have deduped : collect orders = (Pairs.dedupe (marked orders)).map Prod.snd := by
    induction orders using List.reverseRecOn with
    | nil => rfl
    | append_singleton orders order ih =>
      have marks : ∀ entry ∈ Pairs.dedupe (marked orders),
          (∀ name, entry.1 = .name name ↔ entry.2.1 = .name name) ∧
            entry.1 ≠ .place orders.length := fun entry member =>
        mark_of_mem (Pairs.mem_of_mem_dedupe member)
      obtain ⟨column, direction⟩ := order
      rw [marked_concat, Pairs.dedupe_concat]
      cases column with
      | name name =>
        rw [collect_name, ih]
        exact (map_snd_put fun entry member => (marks entry member).1 name).symm
      | raw sql =>
        -- the place at the end is the mark of no order before it
        have fresh : Mark.place orders.length ∉ Pairs.keys (Pairs.dedupe (marked orders)) := by
          intro known
          obtain ⟨entry, member, place⟩ := List.mem_map.mp known
          exact (marks entry member).2 place
        rw [collect_raw, ih, mark, Pairs.put_of_fresh fresh, List.map_append]
        rfl
  rw [deduped, Pairs.dedupe_eq_lastOfEach, settle]

/-! ### Columns in a batch -/

/-- Putting a named column does not touch another one, nor a piece of SQL. -/
theorem filter_put_of_not {name : String} {direction : Direction} {p : Column × Direction → Bool}
    (apart : ∀ direction, p (.name name, direction) = false) (batch : List (Column × Direction)) :
    (Pairs.put (.name name) direction batch).filter p = batch.filter p := by
  induction batch with
  | nil => simp [Pairs.put, apart]
  | cons order batch ih =>
    by_cases here : order.1 = .name name
    · have skipped : p order = false := by
        rw [show order = (.name name, order.2) from Prod.ext here rfl]
        exact apart _
      rw [Pairs.put, if_pos here, List.filter_cons_of_neg (by simp [apart]),
        List.filter_cons_of_neg (by simp [skipped])]
    · rw [Pairs.put, if_neg here, List.filter_cons, List.filter_cons, ih]

/-- Putting a named column that is there once at most leaves it there once. -/
theorem filter_put_self {name : String} {direction : Direction} {batch : List (Column × Direction)}
    (once : (batch.filter (isBy (.name name))).length ≤ 1) :
    (Pairs.put (.name name) direction batch).filter (isBy (.name name))
      = [(.name name, direction)] := by
  have put : isBy (.name name) (.name name, direction) = true := decide_eq_true rfl
  induction batch with
  | nil => exact List.filter_cons_of_pos put
  | cons order batch ih =>
    by_cases here : order.1 = .name name
    · have same : isBy (.name name) order = true := decide_eq_true here
      have only : batch.filter (isBy (.name name)) = [] := by
        rw [List.filter_cons_of_pos same, List.length_cons] at once
        exact List.length_eq_zero_iff.mp (by omega)
      rw [Pairs.put, if_pos here, List.filter_cons_of_pos put, only]
    · have other : ¬ isBy (.name name) order = true := by simpa [isBy] using here
      rw [List.filter_cons_of_neg other] at once
      rw [Pairs.put, if_neg here, List.filter_cons_of_neg other, ih once]

/-- A named column is there once, if at all, and in its last direction. -/
theorem filter_name_settle (orders : List (Column × Direction)) (name : String) :
    (settle orders).filter (isBy (.name name))
      = (orders.filter (isBy (.name name))).getLast?.toList := by
  rw [← collect_eq_settle]
  induction orders using List.reverseRecOn with
  | nil => rfl
  | append_singleton orders order ih =>
    obtain ⟨column, direction⟩ := order
    rw [List.filter_append]
    cases column with
    | raw sql =>
      have apart : [(Column.raw sql, direction)].filter (isBy (.name name)) = [] := by simp [isBy]
      rw [collect_raw, List.filter_append, ih, apart, List.append_nil, List.append_nil]
    | name other =>
      rw [collect_name]
      by_cases same : other = name
      · subst same
        have once : ((collect orders).filter (isBy (.name other))).length ≤ 1 := by
          rw [ih]
          cases (orders.filter (isBy (.name other))).getLast? <;> simp
        have last : [(Column.name other, direction)].filter (isBy (.name other))
            = [(.name other, direction)] := by simp [isBy]
        rw [filter_put_self once, last, List.getLast?_concat]
        rfl
      · have apart : ∀ direction : Direction, isBy (.name name) (.name other, direction) = false :=
          fun _ => by simpa [isBy] using same
        have none : [(Column.name other, direction)].filter (isBy (.name name)) = [] := by
          rw [List.filter_cons, apart]
          rfl
        rw [filter_put_of_not apart, ih, none, List.append_nil]

/-- The pieces of SQL are all there, in their order. -/
theorem filter_raw_settle (orders : List (Column × Direction)) :
    (settle orders).filter isRaw = orders.filter isRaw := by
  rw [← collect_eq_settle]
  induction orders using List.reverseRecOn with
  | nil => rfl
  | append_singleton orders order ih =>
    obtain ⟨column, direction⟩ := order
    rw [List.filter_append]
    cases column with
    | raw sql => rw [collect_raw, List.filter_append, ih]
    | name name =>
      rw [collect_name, filter_put_of_not (fun _ => rfl), ih]
      exact (List.append_nil _).symm

end Orders

namespace Select

/-- The batch of a call is what the orders among its entries come to. -/
theorem orderBatch_eq (entries : List (Column × Except Error Direction)) :
    orderBatch entries = Orders.settle (Orders.readable entries) := by
  rw [← Orders.collect_eq_settle, Orders.collect, Orders.readable, List.foldl_filterMap, orderBatch]
  congr 1
  funext batch entry
  obtain ⟨column, direction⟩ := entry
  cases direction <;> rfl

/-- The select has one more batch of orders, and is as it was otherwise. -/
structure OrderedBy (query result : Select) (entries : List (Column × Except Error Direction)) :
    Prop where
  orders : result.orders = query.orders ++ Orders.settle (Orders.readable entries)
  /-- The mistake of the first entry that makes one, unless there was one before. -/
  error : result.error = query.error.or (entries.findSome? fun entry => mistakeIn entry.2)
  others : result = { query with orders := result.orders, error := result.error }

theorem orderedBy_addOrders (query : Select) (entries : List (Column × Except Error Direction)) :
    query.OrderedBy (query.addOrders entries) entries where
  orders := congrArg (query.orders ++ ·) (orderBatch_eq entries)
  error := query.error_addOrders entries
  others := rfl

/-- **A call that orders adds one batch.**  Whether it is given columns in one direction or a
direction for each column, the orders that are there stay in front, and behind them comes what the
entries with a readable direction come to: every mark once, where it first comes, in its last
direction.  Among these a named column is there exactly once, in the direction that it is given
last, and the pieces of SQL are there as often as they are given.  Of the other entries the mistake
of the first one is kept, if there is none yet, and nothing else changes. -/
theorem orders_appended (query : Select) :
    (∀ (columns : ColumnList) (direction : KeywordArg Direction),
      query.OrderedBy (SelectCall.apply query (.orderBy columns direction))
        (columns.toColumns.map fun column => (column, direction.resolve))) ∧
    (∀ entries : List (Column × KeywordArg Direction),
      query.OrderedBy (SelectCall.apply query (.orderByEach entries))
        (entries.map fun entry => (entry.1, entry.2.resolve))) ∧
    ∀ orders : List (Column × Direction),
      (∀ name, (Orders.settle orders).filter (Orders.isBy (.name name))
        = (orders.filter (Orders.isBy (.name name))).getLast?.toList) ∧
      (Orders.settle orders).filter Orders.isRaw = orders.filter Orders.isRaw :=
  ⟨fun _ _ => query.orderedBy_addOrders _, fun _ => query.orderedBy_addOrders _,
    fun orders => ⟨Orders.filter_name_settle orders, Orders.filter_raw_settle orders⟩⟩

/-- A named column in a second direction, a piece of SQL twice, and a direction that is none. -/
example :
    let random : Column := .raw ⟨"RAND()"⟩
    orderBatch [(.name "a", .ok .ascending), (random, .ok .ascending), (.name "b", .ok .ascending),
        (.name "b", .error .missingTable), (.name "a", .ok .descending), (random, .ok .ascending)]
      = [(.name "a", .descending), (random, .ascending), (.name "b", .ascending),
        (random, .ascending)] := by
  decide

end Select

end SqlBuilder
