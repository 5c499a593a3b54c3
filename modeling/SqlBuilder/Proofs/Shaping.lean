import SqlBuilder.Proofs.Entries
import SqlBuilder.Result.Fetched

/-! # Keying and grouping rows

`Fetched.shape` keys rows one after the other and then puts what is left into groups one after
the other; it stops at the first row that has no key.  This module says which rows it accepts
(`Fetched.Keyable`) and what they become (`Fetched.Shaped`), both without the order of the work.

Keying leaves the distinct keys in the order in which they first come, each with the last row
that has it; so a row that is written over is not looked at when groups are formed, and a row
that comes late can stand in an early place.  `Fetched.forwarded` is what goes on to the
grouping: the keyed rows, or all rows under their positions.  A group takes its entries from
there under the keys they have there, which are distinct (`Fetched.nodup_keys_forwarded`; for
positions because a list in memory is shorter than the largest integer), so none is written over
again.

Both stages run over a list and stop at the first row without a key, and `foldlM_key_ok` and
`foldlM_key_error` say this once for both.  What they do when nothing stops them is
`Fetched.arranged`; it is given back for the rows that are accepted and for no others
(`Fetched.shape_eq_ok_iff`), and `Fetched.shaped_arranged` says what it comes to.
-/
namespace SqlBuilder

/-! ### Keys of rows -/

/-- Whether a value can be a key; bytes, arrays and documents other than texts and numbers
cannot. -/
def Value.isKeyable : Value → Bool
  | .bytes _ | .array _ => false
  | .json (.string _) | .json (.number _) => true
  | .json _ => false
  | _ => true

namespace Row

/-- The cell in a column; where there is none, the missing value. -/
def cellIn (column : String) (row : Row) : Value :=
  (row.get? column).getD .null

/-- Whether a row has a key in a column. -/
def hasKey (column : String) (row : Row) : Bool :=
  row.isNamed && (row.cellIn column).isKeyable

/-- The key of a row in a column, if it has one there. -/
def keyIn (column : String) (row : Row) : Key :=
  (Key.ofValue (row.cellIn column)).toOption.getD (.text "")

end Row

theorem Key.ofValue_cases (value : Value) :
    (value.isKeyable = true ∧ ∃ key, Key.ofValue value = .ok key) ∨
      (value.isKeyable = false ∧ ∃ reason, Key.ofValue value = .error (.shape reason)) := by
  cases value with
  | bytes bs => exact .inr ⟨rfl, _, rfl⟩
  | array items => exact .inr ⟨rfl, _, rfl⟩
  | json j =>
    cases j
    case string s => exact .inl ⟨rfl, _, rfl⟩
    case number n => exact .inl ⟨rfl, _, rfl⟩
    all_goals exact .inr ⟨rfl, _, rfl⟩
  | _ => exact .inl ⟨rfl, _, rfl⟩

namespace Row

variable {directive column : String} {row : Row}

theorem key_eq_ok (h : row.hasKey column) : row.key directive column = .ok (row.keyIn column) := by
  cases row with
  | positional cells => cases h
  | named cells =>
    rcases Key.ofValue_cases ((named cells).cellIn column) with ⟨-, key, ok⟩ | ⟨none, -⟩
    · rw [keyIn, ok]
      exact ok
    · exact absurd (none.symm.trans h) Bool.false_ne_true

theorem key_eq_error (h : row.hasKey column = false) :
    ∃ reason, row.key directive column = .error (.shape reason) := by
  cases row with
  | positional cells => exact ⟨_, rfl⟩
  | named cells =>
    rcases Key.ofValue_cases ((named cells).cellIn column) with ⟨some, -⟩ | ⟨-, failed⟩
    · exact absurd (h.symm.trans some) Bool.false_ne_true
    · exact failed

/-- A row without a cell in the column is keyed by the empty text. -/
theorem keyIn_of_missing {cells : OrderedMap String Value} (missing : cells.get? column = none) :
    (named cells).hasKey column ∧ (named cells).keyIn column = .text "" := by
  simp [hasKey, keyIn, cellIn, get?, isNamed, missing, Value.isKeyable, Key.ofValue,
    Except.toOption]

end Row

/-! ### Stopping at the first row without a key -/

section
variable {A B : Type} (directive : String) {column : String} (row : A → Row)
  (step : B → A → Key → B) {list : List A}

/-- With a key for every row, nothing stops the run. -/
theorem foldlM_key_ok (all : ∀ a ∈ list, (row a).hasKey column) (b : B) :
    list.foldlM (fun b a => do return step b a (← (row a).key directive column)) b
      = .ok (list.foldl (fun b a => step b a ((row a).keyIn column)) b) := by
  induction list generalizing b with
  | nil => rfl
  | cons a list ih =>
    obtain ⟨first, others⟩ := List.forall_mem_cons.mp all
    rw [List.foldlM_cons, Row.key_eq_ok first, List.foldl_cons]
    exact ih others _

/-- Without, it stops with an error about the shape of rows, whatever was done before. -/
theorem foldlM_key_error (unkeyed : ¬ ∀ a ∈ list, (row a).hasKey column) (b : B) :
    ∃ reason, list.foldlM (fun b a => do return step b a (← (row a).key directive column)) b
      = .error (.shape reason) := by
  induction list generalizing b with
  | nil => exact absurd (fun _ h => nomatch h) unkeyed
  | cons a list ih =>
    rw [List.foldlM_cons]
    cases first : (row a).hasKey column with
    | false =>
      obtain ⟨reason, failed⟩ : ∃ reason, (row a).key directive column = .error (.shape reason) :=
        Row.key_eq_error first
      exact ⟨reason, by rw [failed]; rfl⟩
    | true =>
      rw [Row.key_eq_ok first]
      exact ih (fun others => unkeyed (List.forall_mem_cons.mpr ⟨first, others⟩)) _

end

namespace Fetched

/-! ### Keying -/

/-- The rows as they go on to the grouping: each key once, where it first comes, with the last
row that has it; or all rows under their positions. -/
def forwarded : Option String → List Row → List (Key × Row)
  | some column, list => Pairs.lastOfEach (list.map fun row => (row.keyIn column, row))
  | none, list => list.mapIdx fun position row => (.int (Int64.ofNat position), row)

/-- The rows by their keys, when they all have one. -/
def keyAll (column : String) (list : List Row) : OrderedMap Key Row :=
  list.foldl (fun m row => m.insert (row.keyIn column) row) .empty

theorem keyRows_ok {column : String} {list : List Row} (all : ∀ row ∈ list, row.hasKey column) :
    keyRows column list = .ok (keyAll column list) :=
  foldlM_key_ok "forward_key" id (fun m row key => OrderedMap.insert m key row) all .empty

theorem toList_keyAll (column : String) (list : List Row) :
    (keyAll column list).toList = forwarded (some column) list := by
  rw [keyAll, OrderedMap.toList_foldl_insert]
  exact Pairs.dedupe_eq_lastOfEach _

theorem keyRows_error {column : String} {list : List Row}
    (unkeyed : ¬ ∀ row ∈ list, row.hasKey column) :
    ∃ reason, keyRows column list = .error (.shape reason) :=
  foldlM_key_error "forward_key" id (fun m row key => OrderedMap.insert m key row)
    unkeyed .empty

/-- The rows on their way to the grouping, one after the other. -/
def forward : Option String → List Row → Except Error (List (Key × Row))
  | some column, list => (keyRows column list).map OrderedMap.toList
  | none, list => .ok (byPosition list)

theorem forward_ok {forwardKey : Option String} {list : List Row}
    (all : ∀ column ∈ forwardKey, ∀ row ∈ list, row.hasKey column) :
    forward forwardKey list = .ok (forwarded forwardKey list) := by
  cases forwardKey with
  | none => rfl
  | some column =>
    rw [forward, keyRows_ok (all column rfl), ← toList_keyAll]
    rfl

/-- Positions up to the largest integer are different keys. -/
theorem nodup_keys_forwarded (forwardKey : Option String) {list : List Row}
    (fits : list.length ≤ Int64.maxValue.toInt) :
    (Pairs.keys (forwarded forwardKey list)).Nodup := by
  cases forwardKey with
  | some column => exact Pairs.nodup_keys_lastOfEach _
  | none =>
    have small : (list.length : Int) ≤ 9223372036854775807 := fits
    rw [Pairs.keys, List.nodup_iff_pairwise_ne, List.pairwise_iff_getElem]
    intro i j hi hj less same
    simp only [forwarded, List.length_map, List.length_mapIdx] at hi hj
    simp only [forwarded, List.getElem_map, List.getElem_mapIdx, Key.int.injEq] at same
    have position := congrArg Int64.toInt same
    rw [Int64.toInt_ofNat_of_lt (by omega), Int64.toInt_ofNat_of_lt (by omega)] at position
    omega

/-! ### Grouping -/

theorem groupRows_ok {column : String} {entries : List (Key × Row)}
    (all : ∀ entry ∈ entries, entry.2.hasKey column) :
    groupRows column entries = .ok (.groupBy (fun entry => entry.2.keyIn column) entries) :=
  foldlM_key_ok "group_results" Prod.snd
    (fun groups entry key => OrderedMap.addTo groups key entry) all .empty

theorem groupRows_error {column : String} {entries : List (Key × Row)}
    (unkeyed : ¬ ∀ entry ∈ entries, entry.2.hasKey column) :
    ∃ reason, groupRows column entries = .error (.shape reason) :=
  foldlM_key_error "group_results" Prod.snd
    (fun groups entry key => OrderedMap.addTo groups key entry) unkeyed .empty

/-! ### The whole -/

/-- All rows have the keys that are asked for.  A row that was written over by a later one is not
grouped, and needs no key for it. -/
def Keyable (forwardKey groupResults : Option String) (list : List Row) : Prop :=
  (∀ column ∈ forwardKey, ∀ row ∈ list, row.hasKey column) ∧
    ∀ column ∈ groupResults, ∀ entry ∈ forwarded forwardKey list, entry.2.hasKey column

/-- What the rows become when they are keyed by one column and grouped by another. -/
def Shaped (forwardKey groupResults : Option String) (list : List Row) : Fetched → Prop
  | .rows same => forwardKey = none ∧ groupResults = none ∧ same = list
  | .keyed m => forwardKey.isSome ∧ groupResults = none ∧ m.toList = forwarded forwardKey list
  | .grouped groups => ∃ column, groupResults = some column ∧
    GroupedBy (fun entry => entry.2.keyIn column) (forwarded forwardKey list) groups
  | .single _ => False

variable {forwardKey groupResults : Option String} {list : List Row}

theorem arrange_some (column : String) :
    arrange forwardKey (some column) list
      = (forward forwardKey list >>= groupRows column).map .grouped := by
  cases forwardKey with
  | none => rfl
  | some key =>
    rw [arrange, forward]
    cases keyRows key list <;> rfl

/-- The rows keyed and grouped, when all of them have the keys that are asked for. -/
def arranged (forwardKey groupResults : Option String) (list : List Row) : Fetched :=
  match groupResults, forwardKey with
  | none, none => .rows list
  | none, some column => .keyed (keyAll column list)
  | some column, _ => .grouped (.groupBy (fun entry => entry.2.keyIn column)
    (forwarded forwardKey list))

theorem arrange_ok (keyable : Keyable forwardKey groupResults list) :
    arrange forwardKey groupResults list = .ok (arranged forwardKey groupResults list) := by
  obtain ⟨forwards, groups⟩ := keyable
  cases groupResults with
  | some column =>
    rw [arrange_some, forward_ok forwards]
    exact congrArg (Except.map Fetched.grouped) (groupRows_ok (groups column rfl))
  | none =>
    cases forwardKey with
    | none => rfl
    | some key => exact congrArg (Except.map Fetched.keyed) (keyRows_ok (forwards key rfl))

/-- Up to the largest integer, every forwarded row is in its group once. -/
theorem shaped_arranged (fits : list.length ≤ Int64.maxValue.toInt) :
    Shaped forwardKey groupResults list (arranged forwardKey groupResults list) := by
  cases groupResults with
  | some column => exact ⟨column, rfl, groupedBy_groupBy (nodup_keys_forwarded forwardKey fits)⟩
  | none =>
    cases forwardKey with
    | none => exact ⟨rfl, rfl, rfl⟩
    | some key => exact ⟨rfl, rfl, toList_keyAll key list⟩

theorem arrange_error (refused : ¬ Keyable forwardKey groupResults list) :
    ∃ reason, arrange forwardKey groupResults list = .error (.shape reason) := by
  -- where all rows can be keyed, one of those that are left cannot be grouped
  by_cases forwards : ∀ column ∈ forwardKey, ∀ row ∈ list, row.hasKey column
  · cases groupResults with
    | none => exact absurd ⟨forwards, fun _ h => nomatch h⟩ refused
    | some column =>
      have unkeyed : ¬ ∀ entry ∈ forwarded forwardKey list, entry.2.hasKey column := fun all =>
        refused ⟨forwards, fun _ h => Option.mem_some.mp h ▸ all⟩
      obtain ⟨reason, failed⟩ := groupRows_error unkeyed
      refine ⟨reason, ?_⟩
      rw [arrange_some, forward_ok forwards]
      exact congrArg (Except.map Fetched.grouped) failed
  · cases forwardKey with
    | none => exact absurd (fun _ h => nomatch h) forwards
    | some key =>
      have unkeyed : ¬ ∀ row ∈ list, row.hasKey key := fun all =>
        forwards fun _ h => Option.mem_some.mp h ▸ all
      obtain ⟨reason, failed⟩ := keyRows_error unkeyed
      refine ⟨reason, ?_⟩
      cases groupResults with
      | none => exact congrArg (Except.map Fetched.keyed) failed
      | some column => rw [arrange_some, forward, failed]; rfl

variable {isSingle : Bool}

theorem shape_error (refused : ¬ Keyable forwardKey groupResults list) :
    ∃ reason, shape forwardKey groupResults isSingle list = .error (.shape reason) := by
  obtain ⟨reason, failed⟩ := arrange_error refused
  exact ⟨reason, by rw [shape, failed]; rfl⟩

/-- Rows are accepted exactly when they have the keys that are asked for, and are then arranged; the
first of them is taken out where a single row is asked for. -/
theorem shape_eq_ok_iff {fetched : Fetched} :
    shape forwardKey groupResults isSingle list = .ok fetched ↔
      Keyable forwardKey groupResults list ∧ fetched =
        if isSingle then .single (arranged forwardKey groupResults list).first?
        else arranged forwardKey groupResults list := by
  by_cases keyable : Keyable forwardKey groupResults list
  · rw [shape, arrange_ok keyable, Except.map, Except.ok.injEq]
    exact ⟨fun same => ⟨keyable, same.symm⟩, fun h => h.2.symm⟩
  · obtain ⟨reason, failed⟩ : ∃ reason,
        shape forwardKey groupResults isSingle list = .error (.shape reason) := shape_error keyable
    rw [failed]
    exact ⟨nofun, fun h => absurd h.1 keyable⟩

/-- Rows are either accepted and shaped, or refused for a row without a key. -/
theorem shape_cases (fits : list.length ≤ Int64.maxValue.toInt) :
    (Keyable forwardKey groupResults list ∧
      ∃ fetched, shape forwardKey groupResults false list = .ok fetched ∧
        Shaped forwardKey groupResults list fetched) ∨
    (¬ Keyable forwardKey groupResults list ∧
      ∃ reason, shape forwardKey groupResults false list = .error (.shape reason)) := by
  by_cases keyable : Keyable forwardKey groupResults list
  · exact .inl ⟨keyable, _, shape_eq_ok_iff.mpr ⟨keyable, rfl⟩, shaped_arranged fits⟩
  · exact .inr ⟨keyable, shape_error keyable⟩

/-- **What shaping makes of rows.**  Rows are accepted exactly when they have the keys that are
asked for, and are refused with no other error than one about their shape.  What comes out is what
was asked for; of its groups none is empty, and together they have each forwarded row once.  A row
without the column has the empty text for its key. -/
structure ShapesAsAsked (forwardKey groupResults : Option String) (list : List Row) : Prop where
  accepts : (∃ fetched, shape forwardKey groupResults false list = .ok fetched) ↔
    Keyable forwardKey groupResults list
  refused : ∀ e, shape forwardKey groupResults false list = .error e → ∃ reason, e = .shape reason
  shaped : ∀ fetched, shape forwardKey groupResults false list = .ok fetched →
    Shaped forwardKey groupResults list fetched
  nonempty : ∀ groups, shape forwardKey groupResults false list = .ok (.grouped groups) →
    ∀ bucket ∈ groups.toList, bucket.2.toList ≠ []
  whole : ∀ groups, shape forwardKey groupResults false list = .ok (.grouped groups) →
    (groups.toList.flatMap fun bucket => bucket.2.toList).Perm (forwarded forwardKey list)
  missing : ∀ (column : String) (cells : OrderedMap String Value), cells.get? column = none →
    (Row.named cells).hasKey column ∧ (Row.named cells).keyIn column = .text ""

/-- Rows are shaped as asked, for lists of any length that a list in memory can have. -/
theorem shapesAsAsked (forwardKey groupResults : Option String) (list : List Row)
    (fits : list.length ≤ Int64.maxValue.toInt) :
    ShapesAsAsked forwardKey groupResults list := by
  have cases := @shape_cases forwardKey groupResults list fits
  have shaped (fetched) (ok : shape forwardKey groupResults false list = .ok fetched) :
      Shaped forwardKey groupResults list fetched := by
    rcases cases with ⟨-, fetched', ok', shaped⟩ | ⟨-, reason, failed⟩
    · cases ok.symm.trans ok'
      exact shaped
    · cases ok.symm.trans failed
  have grouped (groups) (ok : shape forwardKey groupResults false list = .ok (.grouped groups)) :
      ∃ group, GroupedBy group (forwarded forwardKey list) groups := by
    obtain ⟨column, -, grouped⟩ := shaped _ ok
    exact ⟨_, grouped⟩
  constructor
  case accepts =>
    rcases cases with ⟨keyable, fetched, ok, -⟩ | ⟨refused, reason, failed⟩
    · exact ⟨fun _ => keyable, fun _ => ⟨fetched, ok⟩⟩
    · refine ⟨?_, fun keyable => absurd keyable refused⟩
      rintro ⟨fetched, ok⟩
      cases ok.symm.trans failed
  case refused =>
    intro e failed
    rcases cases with ⟨-, fetched, ok, -⟩ | ⟨-, reason, failed'⟩
    · cases failed.symm.trans ok
    · cases failed.symm.trans failed'
      exact ⟨reason, rfl⟩
  case shaped => exact shaped
  case nonempty =>
    intro groups ok
    obtain ⟨group, grouped⟩ := grouped groups ok
    exact grouped.nonempty
  case whole =>
    intro groups ok
    obtain ⟨group, grouped⟩ := grouped groups ok
    exact grouped.perm
  case missing => exact fun column cells => Row.keyIn_of_missing

/-- Four people: the third has the identifier of the first, given in text, and the first could not
be put into a team. -/
def people : List Row :=
  [.ofPairs [("id", .int32 7), ("team", .bytes [1])],
    .ofPairs [("id", .int64 9), ("team", .text "red")],
    .ofPairs [("id", .text "7"), ("team", .text "red")],
    .ofPairs [("id", .text "x")]]

/-- The people are accepted, because the third takes the place of the first; it stands before the
second in the team that they are both in. -/
theorem shapesAsAsked_people :
    people.length ≤ Int64.maxValue.toInt ∧ ShapesAsAsked (some "id") (some "team") people ∧
      ∃ groups, shape (some "id") (some "team") false people = .ok (.grouped groups) ∧
        groups.keys = [.text "red", .text ""] ∧
        ((groups.get? (.text "red")).getD .empty).keys = [.int 7, .int 9] := by
  have fits : people.length ≤ Int64.maxValue.toInt := by decide
  have shapes := shapesAsAsked (some "id") (some "team") people fits
  have keyed : ∀ row ∈ people, row.hasKey "id" := by decide
  have left : ∀ entry ∈ forwarded (some "id") people, entry.2.hasKey "team" := by decide
  obtain ⟨fetched, ok⟩ := shapes.accepts.mpr
    ⟨fun _ h => Option.mem_some.mp h ▸ keyed, fun _ h => Option.mem_some.mp h ▸ left⟩
  have shaped := shapes.shaped fetched ok
  cases fetched with
  | rows list => cases shaped.1
  | keyed m => cases shaped.2.1
  | single row => cases shaped
  | grouped groups =>
    obtain ⟨column, asked, grouped⟩ := shaped
    cases asked
    refine ⟨fits, shapes, groups, ok, grouped.keys.trans (by decide), ?_⟩
    rw [OrderedMap.keys, grouped.members]
    decide

end Fetched
end SqlBuilder
