import Mathlib.Data.List.Permutation
import SqlBuilder.Proofs.ByteOrder
import SqlBuilder.Proofs.Entries
import SqlBuilder.Proofs.Mistakes

/-! # The rows of an insert

An insert has its columns from its first row.  A later row is taken apart by name and put together
again in the order of these columns, so that each of its values has to find its own column.

A row is seen here as what it gives for a column (`InsertRow.value?`).  That the rows in store have
in each place what the rows that were given have for its column is the invariant `Insert.Holds`; one
row keeps it unless it is refused, and so do rows and calls.  It leads to
`Insert.rows_under_columns`.  Which rows are refused depends on their columns alone
(`Insert.error_rows`).
-/
namespace SqlBuilder

/-! ### Rows as they are given -/

namespace InsertRow

/-- The pairs that make up a row. -/
def given : InsertRow → List (String × NewValue)
  | .pairs given | .ordered given | .unordered given => given

/-- The columns of a row in their order. -/
def columns (row : InsertRow) : List String :=
  Pairs.keys row.entries

/-- What a row gives for a column, the last value if it repeats the column. -/
def value? (row : InsertRow) (column : String) : Option NewValue :=
  ((row.given.filter fun entry => entry.1 = column).getLast?).map Prod.snd

/-- Two rows have the same set of columns. -/
def SameColumns (row other : InsertRow) : Prop :=
  ∀ column, column ∈ row.columns ↔ column ∈ other.columns

/-- The order of entries by their columns. -/
def inOrder (a b : String × NewValue) : Bool :=
  Text.inOrder a.1.toList b.1.toList

theorem entries_unordered_perm (pairs : List (String × NewValue)) :
    (InsertRow.unordered pairs).entries.Perm (Pairs.dedupe pairs) :=
  List.mergeSort_perm ..

theorem nodup_columns_unordered (pairs : List (String × NewValue)) :
    (InsertRow.unordered pairs).columns.Nodup :=
  ((entries_unordered_perm pairs).map Prod.fst).nodup_iff.mpr (Pairs.nodup_keys_dedupe pairs)

theorem pairwise_entries_unordered (pairs : List (String × NewValue)) :
    (InsertRow.unordered pairs).entries.Pairwise fun a b => inOrder a b = true := by
  have trans : ∀ a b c : String × NewValue,
      inOrder a b = true → inOrder b c = true → inOrder a c = true :=
    fun _ _ _ => Text.inOrder_trans
  have total : ∀ a b : String × NewValue, (inOrder a b || inOrder b a) = true :=
    fun _ _ => Text.inOrder_total ..
  exact List.pairwise_mergeSort trans total _

/-- A map without an order has its entries in the order of their columns, however it is gone
through. -/
theorem entries_unordered_eq {pairs others : List (String × NewValue)}
    (perm : (Pairs.dedupe pairs).Perm (Pairs.dedupe others)) :
    (InsertRow.unordered pairs).entries = (InsertRow.unordered others).entries := by
  have same :=
    (entries_unordered_perm pairs).trans (perm.trans (entries_unordered_perm others).symm)
  refine same.eq_of_pairwise (fun a b ha hb first second => ?_) (pairwise_entries_unordered pairs)
    (pairwise_entries_unordered others)
  have key : a.1 = b.1 := String.toList_inj.mp (Text.inOrder_antisymm first second)
  have distinct := nodup_columns_unordered others
  have valueA := Pairs.get?_of_mem distinct a (same.mem_iff.mp ha)
  have valueB := Pairs.get?_of_mem distinct b hb
  rw [key, valueB] at valueA
  exact Prod.ext key (Option.some.inj valueA).symm

/-- The columns of a map without an order have their bytes in order. -/
theorem pairwise_columns_unordered (pairs : List (String × NewValue)) :
    (InsertRow.unordered pairs).columns.Pairwise fun a b =>
      List.Lex (· < ·) (Text.bytes a) (Text.bytes b) := by
  have sorted : (InsertRow.unordered pairs).columns.Pairwise fun a b =>
      Text.inOrder a.toList b.toList = true :=
    List.pairwise_map.mpr (pairwise_entries_unordered pairs)
  exact (sorted.and (nodup_columns_unordered pairs)).imp fun ⟨order, other⟩ =>
    Text.lex_bytes order other

/-- A row has the columns that it is given a value for. -/
theorem mem_columns_iff (row : InsertRow) (column : String) :
    column ∈ row.columns ↔ column ∈ Pairs.keys row.given := by
  have deduped : column ∈ Pairs.keys (Pairs.dedupe row.given) ↔ column ∈ Pairs.keys row.given := by
    rw [Pairs.keys_dedupe, List.mem_eraseDups]
  cases row with
  | pairs given => rfl
  | ordered given => exact deduped
  | unordered given =>
    exact ((entries_unordered_perm given).map Prod.fst).mem_iff.trans deduped

/-- By its name a column is found with the last value that the row gives for it. -/
theorem get?_dedupe_entries (row : InsertRow) (column : String) :
    Pairs.get? (Pairs.dedupe row.entries) column = row.value? column := by
  cases row with
  | pairs given => exact Pairs.get?_dedupe given column
  | ordered given =>
    rw [entries, Pairs.dedupe_of_nodup (Pairs.nodup_keys_dedupe given)]
    exact Pairs.get?_dedupe given column
  | unordered given =>
    have distinct := nodup_columns_unordered given
    rw [Pairs.dedupe_of_nodup distinct, Pairs.get?_perm (entries_unordered_perm given) distinct]
    exact Pairs.get?_dedupe given column

/-- The entries of a row without repeated columns are its columns with their values. -/
theorem map_snd_entries {row : InsertRow} (distinct : row.columns.Nodup) :
    (row.entries.map Prod.snd).map some = row.columns.map row.value? := by
  rw [columns, Pairs.keys, List.map_map, List.map_map]
  refine List.map_congr_left fun entry member => ?_
  have found := Pairs.get?_of_mem distinct entry member
  rw [← Pairs.dedupe_of_nodup distinct, get?_dedupe_entries] at found
  exact found.symm

end InsertRow

/-! ### Alignment -/

namespace Insert

/-- The entries of an aligned row are what stands under the columns. -/
theorem align_eq_some {columns : List String} {entries : List (String × NewValue)}
    {values : List NewValue} (distinct : columns.Nodup) (h : align columns entries = some values) :
    values.map some = columns.map (Pairs.get? entries) := by
  induction columns generalizing entries values with
  | nil =>
    cases h
    rfl
  | cons column columns ih =>
    obtain ⟨fresh, distinct⟩ := List.nodup_cons.mp distinct
    obtain ⟨value, found, h⟩ := Option.bind_eq_some_iff.mp h
    obtain ⟨rest, aligned, h⟩ := Option.bind_eq_some_iff.mp h
    cases h
    rw [List.map_cons, List.map_cons, found, ih distinct aligned]
    refine congrArg (some value :: ·) (List.map_congr_left fun other member => ?_)
    -- the entry that was used up stands under another column
    have apart : other ≠ column := fun same => fresh (same ▸ member)
    rw [Pairs.get?, Pairs.get?, List.find?_filter]
    congr 2
    funext entry
    by_cases here : entry.1 = other <;> simp [here, apart]

/-- The order of the entries does not matter to their alignment. -/
theorem align_perm (columns : List String) {entries others : List (String × NewValue)}
    (perm : entries.Perm others) (distinct : (Pairs.keys entries).Nodup) :
    align columns entries = align columns others := by
  induction columns generalizing entries others with
  | nil => rfl
  | cons column columns ih =>
    have rest : (Pairs.keys (entries.filter fun entry => entry.1 ≠ column)).Nodup := by
      rw [Pairs.keys_filter distinct]
      exact distinct.erase column
    rw [align, align, Pairs.get?_perm perm distinct, ih (perm.filter _) rest]

/-! ### The rows that are stored -/

/-- The insert has the rows, each with its value for every column. -/
structure Holds (query : Insert) (rows : List InsertRow) : Prop where
  distinct : query.columns.Nodup
  cells : query.rows.map (List.map some) = rows.map fun row => query.columns.map row.value?

variable {query : Insert} {rows : List InsertRow}

theorem Holds.length (h : query.Holds rows) : query.rows.length = rows.length := by
  simpa using congrArg List.length h.cells

/-- The first row gives the columns. -/
theorem holds_first {first : InsertRow} (distinct : first.columns.Nodup) (empty : query.rows = []) :
    (query.addRow first).columns = first.columns ∧ (query.addRow first).Holds [first] := by
  have stored : query.addRow first =
      { query with columns := first.columns, rows := [first.entries.map Prod.snd] } := by
    rw [addRow, empty]
    rfl
  rw [stored]
  exact ⟨rfl, distinct, congrArg ([·]) (InsertRow.map_snd_entries distinct)⟩

/-- **One more row**, unless it is refused, is stored with its value for every column. -/
theorem Holds.addRow (h : query.Holds rows) (some : rows ≠ []) {row : InsertRow}
    (accepted : (query.addRow row).error = none) :
    (query.addRow row).columns = query.columns ∧ (query.addRow row).Holds (rows ++ [row]) := by
  have nonempty : ¬ query.rows.isEmpty = true := fun empty => by
    have none := h.length.symm
    rw [List.isEmpty_iff.mp empty] at none
    exact some (List.length_eq_zero_iff.mp none)
  simp only [Insert.addRow, if_neg nonempty] at accepted ⊢
  split at accepted
  · next values aligned =>
    split at aligned
    · have cells := align_eq_some h.distinct aligned
      refine ⟨rfl, h.distinct, ?_⟩
      rw [List.map_append, List.map_append, h.cells]
      refine congrArg (rows.map _ ++ [·]) (cells.trans ?_)
      exact List.map_congr_left fun column _ => row.get?_dedupe_entries column
    · cases aligned
  · -- a row that is refused leaves a mistake
    cases slot : query.error <;> rw [slot] at accepted <;> cases accepted

/-- Rows that are not refused are all stored. -/
theorem Holds.addRows (h : query.Holds rows) (some : rows ≠ []) {later : List InsertRow}
    (accepted : (later.foldl Insert.addRow query).error = none) :
    (later.foldl Insert.addRow query).columns = query.columns ∧
      (later.foldl Insert.addRow query).Holds (rows ++ later) := by
  induction later generalizing query rows with
  | nil => exact ⟨rfl, by rwa [List.append_nil]⟩
  | cons row later ih =>
    rw [List.foldl_cons] at accepted ⊢
    have unmistaken : (query.addRow row).error = none := by
      rw [(error_addRows (query.addRow row) later).1] at accepted
      exact (Option.or_eq_none_iff.mp accepted).1
    obtain ⟨columns, held⟩ := h.addRow some unmistaken
    obtain ⟨columns', held'⟩ := ih held (by simp) accepted
    rw [List.append_assoc] at held'
    exact ⟨columns'.trans columns, held'⟩

end Insert

/-! ### Calls -/

theorem Insert.addRow_ignore (query : Insert) (flag : Bool) (row : InsertRow) :
    ({ query with ignore := flag } : Insert).addRow row
      = { query.addRow row with ignore := flag } := by
  simp only [Insert.addRow]
  split
  · rfl
  · split <;> rfl

theorem Insert.addRows_ignore (query : Insert) (flag : Bool) (rows : List InsertRow) :
    rows.foldl Insert.addRow { query with ignore := flag }
      = { rows.foldl Insert.addRow query with ignore := flag } := by
  induction rows generalizing query with
  | nil => rfl
  | cons row rows ih => rw [List.foldl_cons, query.addRow_ignore, ih, List.foldl_cons]

/-- An insert depends on its calls through their rows, in order, and the last word on skipping. -/
theorem InsertCall.applyAll_eq (calls : List InsertCall) (query : Insert) :
    InsertCall.applyAll query calls =
      { (calls.flatMap InsertCall.given).foldl Insert.addRow query with
        ignore := (InsertCall.applyAll query calls).ignore } := by
  induction calls generalizing query with
  | nil => rfl
  | cons call calls ih =>
    have first : InsertCall.applyAll query (call :: calls)
        = InsertCall.applyAll (InsertCall.apply query call) calls := rfl
    rw [List.flatMap_cons, List.foldl_append, first, ih]
    cases call with
    | row row => rfl
    | rows rows => rfl
    | ignore flag =>
      rw [InsertCall.apply, Insert.addRows_ignore]
      rfl

/-! ### The text of the rows -/

/-- The value that is bound for an entry; none for a piece of SQL. -/
def NewValue.bound? : NewValue → Option Value
  | .value v => some v
  | .raw _ => none

/-- An entry is written as its SQL, or as the placeholder of the bound value with a number, counted
from zero, which is then its own. -/
def NewValue.WrittenAs (d : Dialect) (bindings : List Value) (number : Nat) (text : String) :
    NewValue → Prop
  | .value v => text = d.placeholder (number + 1) ∧ bindings[number]? = some v
  | .raw piece => text = piece.sql

theorem NewValue.values_pieces (value : NewValue) :
    Piece.values value.pieces = value.bound?.toList := by
  cases value <;> rfl

/-- The values that are bound for entries. -/
theorem NewValue.values_flatMap_pieces (cells : List NewValue) :
    (cells.map NewValue.pieces).flatMap Piece.values = cells.filterMap NewValue.bound? := by
  rw [List.flatMap_map, List.filterMap_eq_flatMap_toList]
  simp only [NewValue.values_pieces]

theorem Writing.getElem?_renderEach (d : Dialect) (bound : Nat) (parts : List (List Piece))
    (k : Nat) : (renderEach d bound parts)[k]? = parts[k]?.map
      (Piece.render d (bound + ((parts.take k).flatMap Piece.values).length)) := by
  induction parts generalizing bound k with
  | nil => rfl
  | cons part parts ih =>
    cases k with
    | zero => rfl
    | succ k =>
      rw [renderEach, List.getElem?_cons_succ, ih, List.getElem?_cons_succ, List.take_succ_cons,
        List.flatMap_cons, List.length_append, Nat.add_assoc]

theorem Writing.length_renderEach (d : Dialect) (bound : Nat) (parts : List (List Piece)) :
    (renderEach d bound parts).length = parts.length := by
  induction parts generalizing bound with
  | nil => rfl
  | cons part parts ih => rw [renderEach, List.length_cons, ih, List.length_cons]

namespace Insert

/-- The texts of the entries of rows when some values are bound before them. -/
def tuples (d : Dialect) (bound : Nat) : List (List NewValue) → List (List String)
  | [] => []
  | cells :: table => Writing.renderEach d bound (cells.map NewValue.pieces) ::
      tuples d (bound + (cells.filterMap NewValue.bound?).length) table

theorem values_rowPieces (cells : List NewValue) :
    Piece.values (rowPieces cells) = cells.filterMap NewValue.bound? := by
  rw [rowPieces, Piece.values_enclose, Piece.values_separate, NewValue.values_flatMap_pieces]

theorem renderEach_rowPieces (d : Dialect) (bound : Nat) (table : List (List NewValue)) :
    Writing.renderEach d bound (table.map rowPieces)
      = (tuples d bound table).map fun tuple => "(" ++ ", ".intercalate tuple ++ ")" := by
  induction table generalizing bound with
  | nil => rfl
  | cons cells table ih =>
    rw [List.map_cons, Writing.renderEach, tuples, List.map_cons, values_rowPieces, ih, rowPieces,
      Piece.render_enclose, Writing.intercalate_renderEach]

theorem length_tuples (d : Dialect) (bound : Nat) (table : List (List NewValue)) :
    (tuples d bound table).length = table.length := by
  induction table generalizing bound with
  | nil => rfl
  | cons cells table ih => rw [tuples, List.length_cons, ih, List.length_cons]

theorem getElem?_tuples (d : Dialect) (bound : Nat) (table : List (List NewValue)) (j : Nat) :
    (tuples d bound table)[j]? = table[j]?.map fun cells => Writing.renderEach d
      (bound + ((table.take j).flatMap (List.filterMap NewValue.bound?)).length)
      (cells.map NewValue.pieces) := by
  induction table generalizing bound j with
  | nil => rfl
  | cons cells table ih =>
    cases j with
    | zero => rfl
    | succ j =>
      rw [tuples, List.getElem?_cons_succ, ih, List.getElem?_cons_succ, List.take_succ_cons,
        List.flatMap_cons, List.length_append, Nat.add_assoc]

theorem eq_take_cons_drop {A : Type} {list : List A} {k : Nat} {a : A} (h : list[k]? = some a) :
    list = list.take k ++ a :: list.drop (k + 1) := by
  obtain ⟨bound, rfl⟩ := List.getElem?_eq_some_iff.mp h
  rw [← List.drop_eq_getElem_cons bound, List.take_append_drop]

/-- What is bound for an entry stands behind what is bound for the earlier rows and for the
earlier entries of its own row. -/
theorem getElem?_bound {table : List (List NewValue)} {j k : Nat} {cells : List NewValue}
    {v : Value} (row : table[j]? = some cells) (cell : cells[k]? = some (.value v)) :
    (table.flatMap (List.filterMap NewValue.bound?))[
      ((table.take j).flatMap (List.filterMap NewValue.bound?)).length
        + ((cells.take k).filterMap NewValue.bound?).length]? = some v := by
  have inTable := eq_take_cons_drop row
  have inRow := eq_take_cons_drop cell
  have bound : cells.filterMap NewValue.bound? = (cells.take k).filterMap NewValue.bound?
      ++ v :: (cells.drop (k + 1)).filterMap NewValue.bound? := by
    conv => lhs; rw [inRow]
    rw [List.filterMap_append]
    rfl
  conv => lhs; lhs; rw [inTable, List.flatMap_append, List.flatMap_cons, bound]
  rw [List.getElem?_append_right (Nat.le_add_right ..), Nat.add_sub_cancel_left, List.append_assoc,
    List.getElem?_append_right (Nat.le_refl _), Nat.sub_self]
  rfl

end Insert

namespace InsertRow

/-- The values that are bound for a row, in the order of the columns. -/
def bound (columns : List String) (row : InsertRow) : List Value :=
  columns.filterMap fun column => (row.value? column).bind NewValue.bound?

/-- How many values are bound before the entry of a row for a column: those of the earlier rows, and
those of the row for the earlier columns. -/
def boundBefore (columns : List String) (rows : List InsertRow) (j k : Nat) : Nat :=
  ((rows.take j).flatMap (bound columns)).length
    + (rows[j]?.elim [] (bound (columns.take k))).length

end InsertRow

/-- **The tuples of an insert.**  There is one for each row, with one entry for each column, and
each entry is the value that its row gives for its column. -/
structure Insert.Writes (d : Dialect) (columns : List String) (rows : List InsertRow)
    (tuples : List (List String)) (bindings : List Value) : Prop where
  length : tuples.length = rows.length
  arity : ∀ tuple ∈ tuples, tuple.length = columns.length
  /-- The values are bound row by row, in the order of the columns. -/
  bound : bindings = rows.flatMap (InsertRow.bound columns)
  entry : ∀ (j : Nat) (row : InsertRow) (k : Nat) (column : String),
    rows[j]? = some row → columns[k]? = some column →
    ∃ (value : NewValue) (text : String), row.value? column = some value ∧
      (tuples[j]?.bind fun tuple => tuple[k]?) = some text ∧
      value.WrittenAs d bindings (InsertRow.boundBefore columns rows j k) text

namespace Insert

variable {columns : List String}

/-- The values that are bound for entries, where there are entries. -/
def boundOf (cells : List (Option NewValue)) : List Value :=
  cells.filterMap fun cell => cell.bind NewValue.bound?

/-- As many values are bound for the entries that are stored as for those that are given. -/
theorem flatMap_bound? {table : List (List NewValue)} {rows : List InsertRow}
    (cells : table.map (List.map some) = rows.map fun row => columns.map row.value?) :
    table.flatMap (List.filterMap NewValue.bound?) = rows.flatMap (InsertRow.bound columns) := by
  have stored : ∀ cells ∈ table, cells.filterMap NewValue.bound? = boundOf (cells.map some) :=
    fun cells _ => by
      rw [boundOf, List.filterMap_map]
      rfl
  have given : ∀ row ∈ rows, boundOf (columns.map row.value?) = row.bound columns :=
    fun row _ => List.filterMap_map
  calc table.flatMap (List.filterMap NewValue.bound?)
      = (table.map (List.map some)).flatMap boundOf := by
        rw [List.flatMap_map, List.flatMap_congr stored]
    _ = rows.flatMap (InsertRow.bound columns) := by
        rw [cells, List.flatMap_map, List.flatMap_congr given]

/-- **The rows that are stored are written** with every value under its column. -/
theorem Holds.writes {query : Insert} {rows : List InsertRow} (h : query.Holds rows) (d : Dialect) :
    Writes d query.columns rows (tuples d 0 query.rows)
      (query.rows.flatMap (List.filterMap NewValue.bound?)) where
  length := (length_tuples ..).trans h.length
  arity tuple member := by
    obtain ⟨j, found⟩ := List.mem_iff_getElem?.mp member
    rw [getElem?_tuples] at found
    obtain ⟨cells, stored, rfl⟩ := Option.map_eq_some_iff.mp found
    have same := congrArg (·[j]?) h.cells
    rw [List.getElem?_map, stored, List.getElem?_map] at same
    obtain ⟨row, -, same⟩ := Option.map_eq_some_iff.mp same.symm
    have count := congrArg List.length same
    rw [List.length_map, List.length_map] at count
    rw [Writing.length_renderEach, List.length_map, count]
  bound := flatMap_bound? h.cells
  entry j row k column given place := by
    have inTable := congrArg (·[j]?) h.cells
    rw [List.getElem?_map, List.getElem?_map, given] at inTable
    obtain ⟨cells, stored, inRow⟩ := Option.map_eq_some_iff.mp inTable
    have inCells := congrArg (·[k]?) inRow
    rw [List.getElem?_map, List.getElem?_map, place] at inCells
    obtain ⟨value, cell, same⟩ := Option.map_eq_some_iff.mp inCells
    -- as many values are bound before the entry in the table as by the rows that are given
    have before : ((query.rows.take j).flatMap (List.filterMap NewValue.bound?)).length
          + ((cells.take k).filterMap NewValue.bound?).length
        = InsertRow.boundBefore query.columns rows j k := by
      have earlier : ((query.rows.take j).map (List.map some))
          = (rows.take j).map fun row => query.columns.map row.value? := by
        rw [List.map_take, h.cells, List.map_take]
      have own : [cells.take k].map (List.map some)
          = [row].map fun row => (query.columns.take k).map row.value? := by
        rw [List.map_singleton, List.map_singleton, List.map_take, inRow, List.map_take]
      have ownBound := flatMap_bound? own
      rw [List.flatMap_singleton, List.flatMap_singleton] at ownBound
      rw [flatMap_bound? earlier, ownBound, InsertRow.boundBefore, given]
      rfl
    have text : ((tuples d 0 query.rows)[j]?.bind fun tuple => tuple[k]?)
        = some (Piece.render d (InsertRow.boundBefore query.columns rows j k) value.pieces) := by
      rw [getElem?_tuples, stored, Option.map_some, Option.bind_some, Writing.getElem?_renderEach,
        List.getElem?_map, cell, Option.map_some, Option.map_some, ← List.map_take,
        NewValue.values_flatMap_pieces, Nat.zero_add, before]
    refine ⟨value, _, same.symm, text, ?_⟩
    cases value with
    | value v =>
      refine ⟨String.append_empty, ?_⟩
      rw [← before]
      exact getElem?_bound stored cell
    | raw piece => exact String.append_empty

/-- An insert that can be written is its head and its tuples. -/
theorem compile_eq_ok {d : Dialect} {query : Insert} {p : Prepared}
    (compiled : (Query.insert query).compile d = .ok p) :
    query.error = none ∧
      p.bindings = query.rows.flatMap (List.filterMap NewValue.bound?) ∧
      p.sql = query.writeHead d ++ ", ".intercalate
          ((tuples d 0 query.rows).map fun tuple => "(" ++ ", ".intercalate tuple ++ ")")
        ++ if query.ignore then d.ignoreTail else "" := by
  have unmistaken : query.error = none := by
    cases slot : query.error with
    | none => rfl
    | some e =>
      have refused := Query.compile_of_error (show (Query.insert query).error = some e from slot) d
      cases refused.symm.trans compiled
  obtain ⟨ps, pieces, rfl⟩ := Query.compile_eq_ok_iff.mp compiled
  obtain ⟨_, -, pieces⟩ := bind_eq_ok_iff.mp pieces
  split at pieces
  · cases pieces
  · cases pieces
    refine ⟨unmistaken, ?_, ?_⟩
    · simp [Piece.values_separate, Piece.values, List.flatMap_map, values_rowPieces]
    · simp [render_headPieces, ← Writing.intercalate_renderEach, renderEach_rowPieces, Piece.render,
        String.append_assoc]

end Insert

/-! ### Rows in another order -/

namespace InsertRow

/-- The same row, where a map without an order may be gone through in another one. -/
inductive Iterated : InsertRow → InsertRow → Prop where
  | refl (row : InsertRow) : Iterated row row
  | unordered {given given' : List (String × NewValue)} :
      (Pairs.dedupe given).Perm (Pairs.dedupe given') →
        Iterated (.unordered given) (.unordered given')

/-- The same row, where the entries may stand in another order if no column is repeated. -/
inductive Reordered : InsertRow → InsertRow → Prop where
  | iterated {row row' : InsertRow} : Iterated row row' → Reordered row row'
  | pairs {given given' : List (String × NewValue)} :
      (Pairs.keys given).Nodup → given.Perm given' → Reordered (.pairs given) (.pairs given')
  | ordered {given given' : List (String × NewValue)} :
      (Pairs.dedupe given).Perm (Pairs.dedupe given') → Reordered (.ordered given) (.ordered given')

theorem Iterated.entries_eq {row row' : InsertRow} (h : row.Iterated row') :
    row.entries = row'.entries := by
  cases h with
  | refl => rfl
  | unordered perm => exact entries_unordered_eq perm

theorem Reordered.dedupe_perm {row row' : InsertRow} (h : row.Reordered row') :
    (Pairs.dedupe row.entries).Perm (Pairs.dedupe row'.entries) := by
  cases h with
  | iterated same => rw [same.entries_eq]
  | @pairs given given' distinct perm =>
    have distinct' : (Pairs.keys given').Nodup := (perm.map Prod.fst).nodup_iff.mp distinct
    rw [entries, entries, Pairs.dedupe_of_nodup distinct, Pairs.dedupe_of_nodup distinct']
    exact perm
  | @ordered given given' perm =>
    rw [entries, entries, Pairs.dedupe_of_nodup (Pairs.nodup_keys_dedupe given),
      Pairs.dedupe_of_nodup (Pairs.nodup_keys_dedupe given')]
    exact perm

end InsertRow

namespace Insert

theorem rows_addRow_ne (query : Insert) (row : InsertRow) : (query.addRow row).rows ≠ [] := by
  simp only [addRow]
  by_cases empty : query.rows.isEmpty = true
  · rw [if_pos empty]
    exact List.cons_ne_nil _ _
  · rw [if_neg empty]
    split
    · simp
    · simpa using empty

/-- **A later row** may stand in any order. -/
theorem addRow_reordered {query : Insert} (some : query.rows ≠ []) {row row' : InsertRow}
    (h : row.Reordered row') : query.addRow row' = query.addRow row := by
  have nonempty : ¬ query.rows.isEmpty = true := by simpa using some
  have perm := h.dedupe_perm
  have distinct := Pairs.nodup_keys_dedupe row.entries
  simp only [addRow, if_neg nonempty, align_perm query.columns perm distinct, perm.length_eq]

theorem addRows_reordered {query : Insert} (some : query.rows ≠ []) {rows rows' : List InsertRow}
    (h : List.Forall₂ InsertRow.Reordered rows rows') :
    rows'.foldl addRow query = rows.foldl addRow query := by
  induction h generalizing query with
  | nil => rfl
  | cons first _ ih =>
    rw [List.foldl_cons, List.foldl_cons, addRow_reordered some first, ih (rows_addRow_ne query _)]

/-! ### Values under their columns -/

/-- **An insert keeps values under their columns.**  Rows are given in any way, and the first does
not repeat a column.

* An insert that can be written has the columns of the first row, and a tuple for each row in which
  every column has the value that the row gives for it.
* The columns of a map without an order have their bytes in order.
* Neither the order of a later row that does not repeat a column, nor the order in which a map
  without an order is gone through, changes anything. -/
theorem rows_under_columns (d : Dialect) (target : Target) (calls : List InsertCall)
    {first : InsertRow} {later : List InsertRow}
    (rows : calls.flatMap InsertCall.given = first :: later) (distinct : first.columns.Nodup) :
    let query := InsertCall.applyAll (Insert.into target) calls
    (∀ p, (Query.insert query).compile d = .ok p →
      query.columns = first.columns ∧ ∃ tuples : List (List String),
        Writes d first.columns (first :: later) tuples p.bindings ∧
        p.sql = query.writeHead d ++ ", ".intercalate
            (tuples.map fun tuple => "(" ++ ", ".intercalate tuple ++ ")")
          ++ if query.ignore then d.ignoreTail else "") ∧
    (∀ given, first = .unordered given →
      (first.columns.Pairwise fun a b => List.Lex (· < ·) (Text.bytes a) (Text.bytes b)) ∧
        ∀ column, column ∈ first.columns ↔ column ∈ Pairs.keys given) ∧
    ∀ (calls' : List InsertCall) (first' : InsertRow) (later' : List InsertRow),
      calls'.flatMap InsertCall.given = first' :: later' → first.Iterated first' →
      List.Forall₂ InsertRow.Reordered later later' →
      (InsertCall.applyAll (Insert.into target) calls').ignore = query.ignore →
      (Query.insert (InsertCall.applyAll (Insert.into target) calls')).compile d
        = (Query.insert query).compile d := by
  intro query
  have built := InsertCall.applyAll_eq calls (Insert.into target)
  rw [rows] at built
  refine ⟨fun p compiled => ?_, fun given same => ?_,
    fun calls' first' later' rows' iterated reordered flag => ?_⟩
  · obtain ⟨unmistaken, bindings, text⟩ := compile_eq_ok compiled
    have stored := congrArg Insert.rows built
    have columns := congrArg Insert.columns built
    have accepted := congrArg Insert.error built
    obtain ⟨columns₁, held⟩ := @holds_first (Insert.into target) _ distinct rfl
    obtain ⟨columns₂, held⟩ := held.addRows (by simp) (accepted.symm.trans unmistaken)
    have kept : query.columns = first.columns := columns.trans (columns₂.trans columns₁)
    have holds : query.Holds (first :: later) :=
      ⟨columns ▸ held.distinct, by rw [stored, columns]; exact held.cells⟩
    refine ⟨kept, _, ?_, text⟩
    rw [bindings, ← kept]
    exact holds.writes d
  · subst same
    exact ⟨InsertRow.pairwise_columns_unordered given, InsertRow.mem_columns_iff _⟩
  · have built' := InsertCall.applyAll_eq calls' (Insert.into target)
    have begun : (Insert.into target).addRow first' = (Insert.into target).addRow first := by
      simp only [addRow, iterated.entries_eq]
    rw [rows', List.foldl_cons, begun, addRows_reordered (rows_addRow_ne _ first) reordered, flag,
      ← List.foldl_cons, ← built] at built'
    rw [built']

/-- A map with a piece of SQL, gone through in two orders, then a row that repeats a column and one
whose columns stand in two orders; rows that are there already are skipped. -/
theorem rows_under_columns_map :
    let t : Target := ⟨none, ⟨"t", none⟩, .postgres, {}⟩
    let now : String × NewValue := ("a", .raw ⟨"NOW()"⟩)
    let entry (column : String) (n : Int32) : String × NewValue := (column, .value (.int32 n))
    let first : InsertRow := .unordered [entry "b" 1, now]
    let repeated : InsertRow := .pairs [entry "b" 2, entry "a" 3, entry "b" 4]
    let calls : List InsertCall :=
      [.row first, .ignore true, .rows [repeated, .pairs [entry "b" 5, entry "a" 6]]]
    let others : List InsertCall := [.row (.unordered [now, entry "b" 1]), .row repeated,
      .row (.pairs [entry "a" 6, entry "b" 5]), .ignore true]
    let sql := "INSERT INTO \"t\" (\"a\", \"b\") VALUES (NOW(), $1), ($2, $3), ($4, $5)"
      ++ " ON CONFLICT DO NOTHING"
    let values : List Value := [.int32 1, .int32 3, .int32 4, .int32 6, .int32 5]
    let written (calls : List InsertCall) : Except Error Prepared :=
      (Query.insert (InsertCall.applyAll (Insert.into t) calls)).compile .postgres
    first.columns = ["a", "b"] ∧ written calls = .ok ⟨sql, values⟩ ∧
      written others = .ok ⟨sql, values⟩ ∧ ∃ tuples, Writes .postgres ["a", "b"]
        [first, repeated, .pairs [entry "b" 5, entry "a" 6]] tuples values := by
  intro t now entry first repeated calls others sql values written
  have entries : first.entries = [now, entry "b" 1] := by
    simp only [first, now, entry]
    cbv
  have columns : first.columns = ["a", "b"] := by
    rw [InsertRow.columns, entries]
    rfl
  have turned : first.Iterated (.unordered [now, entry "b" 1]) :=
    .unordered (List.Perm.swap now (entry "b" 1) [])
  let begun : Insert := ⟨t, ["a", "b"], [[.raw ⟨"NOW()"⟩, .value (.int32 1)]], false, none⟩
  have started : (Insert.into t).addRow first = begun := by
    rw [addRow, entries]
    rfl
  have started' : (Insert.into t).addRow (.unordered [now, entry "b" 1]) = begun := by
    rw [addRow, ← turned.entries_eq, entries]
    rfl
  let table : List (List NewValue) := [[.raw ⟨"NOW()"⟩, .value (.int32 1)],
    [.value (.int32 3), .value (.int32 4)], [.value (.int32 6), .value (.int32 5)]]
  have built : InsertCall.applyAll (Insert.into t) calls = ⟨t, ["a", "b"], table, true, none⟩ := by
    simp only [calls, InsertCall.applyAll, List.foldl_cons, InsertCall.apply, started]
    rfl
  have compiled : written calls = .ok ⟨sql, values⟩ := by
    simp only [written, built, sql, values, table, t]
    rfl
  have given : calls.flatMap InsertCall.given
      = [first, repeated, .pairs [entry "b" 5, entry "a" 6]] := rfl
  obtain ⟨kept, -, same⟩ :=
    rows_under_columns .postgres t calls given (by rw [columns]; decide)
  obtain ⟨-, tuples, writes, -⟩ := kept _ compiled
  have swapped : List.Perm [entry "b" 5, entry "a" 6] [entry "a" 6, entry "b" 5] := .swap ..
  have reordered := same others _ _ rfl turned
    (.cons (.iterated (.refl repeated)) (.cons (.pairs (by decide) swapped) .nil)) (by
      rw [built]
      simp only [others, InsertCall.applyAll, List.foldl_cons, InsertCall.apply, started']
      rfl)
  exact ⟨columns, compiled, reordered.trans compiled, tuples, columns ▸ writes⟩

end Insert

/-! ### Rows that are refused -/

namespace InsertRow

/-- Columns are those of a row if they are all distinct and the row has the same set. -/
theorem perm_columns_iff (columns : List String) (row : InsertRow) :
    columns.Perm (Pairs.keys (Pairs.dedupe row.entries)) ↔
      columns.Nodup ∧ ∀ column, column ∈ row.columns ↔ column ∈ columns := by
  have distinct := Pairs.nodup_keys_dedupe row.entries
  have same : ∀ column, column ∈ Pairs.keys (Pairs.dedupe row.entries) ↔ column ∈ row.columns := by
    intro column
    rw [Pairs.keys_dedupe, List.mem_eraseDups, InsertRow.columns]
  constructor
  · intro perm
    exact ⟨perm.nodup_iff.mpr distinct, fun column => (same column).symm.trans perm.mem_iff.symm⟩
  · rintro ⟨given, sets⟩
    refine (List.perm_ext_iff_of_nodup given distinct).mpr fun column => ?_
    exact (sets column).symm.trans (same column).symm

theorem mistake?_eq_none_iff (columns : List String) (row : InsertRow) :
    row.mistake? columns = none ↔
      columns.Nodup ∧ ∀ column, column ∈ row.columns ↔ column ∈ columns := by
  rw [← perm_columns_iff, mistake?]
  by_cases perm : columns.Perm (Pairs.keys (Pairs.dedupe row.entries)) <;> simp [perm]

/-- Rows are accepted behind columns if each of them is. -/
theorem firstMistake_some (columns : List String) (rows : List InsertRow) :
    firstMistake (some columns) rows = none ↔ ∀ row ∈ rows, row.mistake? columns = none := by
  induction rows with
  | nil => simp [firstMistake]
  | cons row rows ih => rw [firstMistake, Option.or_eq_none_iff, ih, List.forall_mem_cons]

/-- The first mistake in rows can only be that one has other columns. -/
theorem firstMistake_eq (columns : Option (List String)) (rows : List InsertRow) :
    firstMistake columns rows = none ∨ firstMistake columns rows = some Insert.otherColumns := by
  induction rows generalizing columns with
  | nil => exact .inl (by rw [firstMistake])
  | cons row rows ih =>
    cases columns with
    | none =>
      rw [firstMistake]
      exact ih _
    | some columns =>
      rw [firstMistake, mistake?]
      split
      · exact ih _
      · exact .inr rfl

/-- Rows are accepted if the first does not repeat a column and the later ones have its columns. -/
theorem firstMistake_none (first : InsertRow) (later : List InsertRow) :
    firstMistake none (first :: later) = none ↔
      ∀ row ∈ later, first.columns.Nodup ∧ row.SameColumns first := by
  rw [firstMistake, firstMistake_some]
  exact forall₂_congr fun row _ => mistake?_eq_none_iff first.columns row

theorem firstMistake_eq_some_iff (rows : List InsertRow) :
    firstMistake none rows = some Insert.otherColumns ↔ ∃ first later, rows = first :: later ∧
      ∃ row ∈ later, ¬ row.SameColumns first ∨ ¬ first.columns.Nodup := by
  have refused : firstMistake none rows = some Insert.otherColumns
      ↔ ¬ firstMistake none rows = none := by
    rcases firstMistake_eq none rows with h | h <;> simp [h]
  rw [refused]
  cases rows with
  | nil => simp [firstMistake]
  | cons first later =>
    rw [firstMistake_none]
    constructor
    · intro mistaken
      push Not at mistaken
      obtain ⟨row, member, other⟩ := mistaken
      refine ⟨first, later, rfl, row, member, ?_⟩
      by_cases distinct : first.columns.Nodup
      · exact .inl (other distinct)
      · exact .inr distinct
    · rintro ⟨first', later', same, row, member, other⟩ accepted
      cases same
      obtain ⟨distinct, columns⟩ := accepted row member
      rcases other with other | repeats
      · exact other columns
      · exact repeats distinct

theorem firstMistake_replicate (row : InsertRow) (n : Nat) :
    firstMistake none (List.replicate n row) = none ↔ n ≤ 1 ∨ row.columns.Nodup := by
  cases n with
  | zero => simp [firstMistake]
  | succ n =>
    rw [List.replicate_succ, firstMistake_none]
    constructor
    · intro accepted
      cases n with
      | zero => exact .inl le_rfl
      | succ n => exact .inr (accepted row (by simp)).1
    · rintro (once | distinct) other member
      · obtain ⟨some, -⟩ := List.mem_replicate.mp member
        omega
      · rw [List.eq_of_mem_replicate member]
        exact ⟨distinct, fun _ => Iff.rfl⟩

end InsertRow

namespace Insert

/-- **Rows are accepted by their columns.**  The only mistake that rows can make is that one has
other columns than the first.  They make it exactly if there is a later row and it has another set
of columns than the first row, or the first row repeats a column.  A row that repeats a column is
accepted once, and no more than once. -/
theorem error_rows (target : Target) (calls : List InsertCall) :
    let query := InsertCall.applyAll (Insert.into target) calls
    let rows := calls.flatMap InsertCall.given
    (query.error = none ∨ query.error = some otherColumns) ∧
    (query.error = some otherColumns ↔ ∃ first later, rows = first :: later ∧
      ∃ row ∈ later, ¬ row.SameColumns first ∨ ¬ first.columns.Nodup) ∧
    ∀ (row : InsertRow) (n : Nat), rows = List.replicate n row →
      (query.error = none ↔ n ≤ 1 ∨ row.columns.Nodup) := by
  intro query rows
  have slot : query.error = InsertRow.firstMistake none rows :=
    InsertCall.error_applyAll calls (Insert.into target)
  rw [slot]
  refine ⟨InsertRow.firstMistake_eq none rows, InsertRow.firstMistake_eq_some_iff rows,
    fun row n repeated => ?_⟩
  rw [repeated]
  exact InsertRow.firstMistake_replicate row n

/-- A map with the columns of the first row, then a row that leaves one out; and a row three
times. -/
theorem error_rows_map :
    let t : Target := ⟨none, ⟨"t", none⟩, .sqlite, {}⟩
    let entry (column : String) (n : Int32) : String × NewValue := (column, .value (.int32 n))
    let row : InsertRow := .pairs [entry "a" 1, entry "b" 2]
    let calls : List InsertCall :=
      [.row row, .rows [.ordered [entry "b" 3, entry "a" 4], .pairs [entry "b" 5]]]
    (InsertCall.applyAll (Insert.into t) calls).error = some otherColumns ∧
      (InsertCall.applyAll (Insert.into t) [.rows [row, row], .row row]).error = none := by
  intro t entry row calls
  have less : ¬ (InsertRow.pairs [entry "b" 5]).SameColumns row := fun same =>
    absurd ((same "a").mpr (by decide)) (by decide)
  obtain ⟨-, refused, -⟩ := error_rows t calls
  obtain ⟨-, -, repeated⟩ := error_rows t [.rows [row, row], .row row]
  refine ⟨refused.mpr ⟨row, _, rfl, _, .tail _ (.head _), .inl less⟩, ?_⟩
  exact (repeated row 3 rfl).mpr (.inr (by decide))

/-- A row that repeats a column is accepted, and the same row behind it is refused. -/
theorem refuses_same_row :
    let t : Target := ⟨none, ⟨"t", none⟩, .sqlite, {}⟩
    let one : String × NewValue := ("a", .value (.int32 1))
    let row : InsertRow := .pairs [one, one]
    (Query.insert (InsertCall.applyAll (Insert.into t) [.row row])).compile .sqlite
        = .ok ⟨"INSERT INTO \"t\" (\"a\", \"a\") VALUES (?, ?)", [.int32 1, .int32 1]⟩ ∧
      row.SameColumns row ∧
      (InsertCall.applyAll (Insert.into t) [.row row, .row row]).error = some otherColumns := by
  exact ⟨rfl, fun _ => Iff.rfl, rfl⟩

end Insert

end SqlBuilder
