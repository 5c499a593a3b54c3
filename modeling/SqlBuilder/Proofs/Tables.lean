import SqlBuilder.Database
import SqlBuilder.Proofs.Aliases
import SqlBuilder.Proofs.Identifiers
import SqlBuilder.Proofs.Joins
import SqlBuilder.Proofs.Terminal

/-! # Tables by name

The text that names a table goes two ways.  As the target of a join it is one name, which is quoted
segment by segment.  As the target of a statement it is cut at its first dot into a database and a
name, which are quoted apart and joined by a dot again.  Both come to the same, as quoting goes
along with dots (`Dialect.quoteChars_dot`): a statement on a table writes its name as a join does
(`Target.writeTable_setTable`), and only a name without a dot leaves room for a database that was
set before.

What a statement is aimed at in the end can be read off the calls that built it
(`Construction.target_query`).  So a text names a table in the same way wherever it is used
(`Construction.renders_table`), and if nothing is left of it behind the dot, no statement on it can
be written.
-/
namespace SqlBuilder

/-! ### Names with dots -/

/-- The part of a text behind its first dot, or all of it where there is none. -/
def Text.behindDot (cs : List Char) : List Char :=
  if '.' ∈ cs then (cs.dropWhile (· != '.')).tail else cs

namespace Target

theorem cutDot_eq_none_iff {cs : List Char} : cutDot cs = none ↔ '.' ∉ cs := by
  induction cs with
  | nil => simp [cutDot]
  | cons c cs ih =>
    rw [cutDot]
    by_cases dot : c = '.'
    · simp [dot]
    · have other : ¬ '.' = c := fun same => dot same.symm
      simp [dot, other, ih]

theorem eq_of_cutDot {cs before after : List Char} (h : cutDot cs = some (before, after)) :
    '.' ∉ before ∧ cs = before ++ '.' :: after := by
  induction cs generalizing before with
  | nil => simp [cutDot] at h
  | cons c cs ih =>
    rw [cutDot] at h
    by_cases dot : c = '.'
    · rw [if_pos dot] at h
      cases h
      exact ⟨List.not_mem_nil, by rw [dot, List.nil_append]⟩
    · rw [if_neg dot] at h
      obtain ⟨⟨rest, _⟩, cut, same⟩ := Option.map_eq_some_iff.mp h
      cases same
      obtain ⟨undotted, rfl⟩ := ih cut
      have other : '.' ≠ c := fun same => dot same.symm
      exact ⟨List.not_mem_cons_of_ne_of_not_mem other undotted, rfl⟩

theorem behindDot_append {before : List Char} (undotted : '.' ∉ before) (after : List Char) :
    Text.behindDot (before ++ '.' :: after) = after := by
  have others : ∀ c ∈ before, (c != '.') = true := by
    rintro c member
    exact bne_iff_ne.mpr fun dot => undotted (dot ▸ member)
  have dotted : '.' ∈ before ++ '.' :: after := by simp
  rw [Text.behindDot, if_pos dotted, List.dropWhile_append_of_pos others]
  rfl

/-- The name of a table after its text has been set is what stands behind the dot. -/
theorem table_setTable (target : Target) (text : String) : (target.setTable text).table
    = ⟨String.ofList (Text.behindDot (TableName.parse text).name.toList),
        (TableName.parse text).label⟩ := by
  rw [setTable]
  cases cut : cutDot (TableName.parse text).name.toList with
  | none => simp [Text.behindDot, cutDot_eq_none_iff.mp cut]
  | some halves =>
    obtain ⟨undotted, whole⟩ := eq_of_cutDot cut
    simp [whole, behindDot_append undotted]

theorem hasTable_setTable (target : Target) (text : String) :
    (target.setTable text).hasTable = true
      ↔ Text.Shown (Text.behindDot (TableName.parse text).name.toList) := by
  rw [hasTable, table_setTable, String.toList_ofList, ← Text.trim_ne_nil_iff]
  simp

/-- The database in front of a table. -/
def writeDatabase (d : Dialect) (target : Target) : String :=
  match target.database with
  | some database => d.quoteIdentifier database ++ "."
  | none => ""

/-- **A table by name** is written as the whole name, behind the database that was set before if the
name has no dot. -/
theorem writeTable_setTable (d : Dialect) (target : Target) (text : String) :
    let name := (TableName.parse text).name
    (target.setTable text).writeTable d
      = (if '.' ∈ name.toList then "" else target.writeDatabase d) ++ d.quoteIdentifier name := by
  intro name
  rw [setTable]
  cases cut : cutDot name.toList with
  | none =>
    rw [if_neg (cutDot_eq_none_iff.mp cut), writeDatabase, writeTable]
    cases target.database with
    | none => exact (String.empty_append ..).symm
    | some database => rfl
  | some halves =>
    obtain ⟨undotted, whole⟩ := eq_of_cutDot cut
    have dotted : '.' ∈ name.toList := by simp [whole]
    have joined := d.quoteIdentifier_dot halves.1 halves.2
    rw [← whole, String.ofList_toList] at joined
    rw [if_pos dotted, String.empty_append, joined]
    rfl

theorem writeSource_setTable (d : Dialect) (target : Target) (text : String) :
    let table := TableName.parse text
    (target.setTable text).writeSource d
      = (if '.' ∈ table.name.toList then "" else target.writeDatabase d) ++ table.write d := by
  intro table
  rw [writeSource, writeTable_setTable, table_setTable, String.append_assoc, TableName.write]

end Target

/-! ### What a statement is aimed at -/

/-- A call that aims a select at something else. -/
inductive Aim where
  | table (text : String)
  | database (name : Option String)

/-- The target after such a call. -/
def Aim.apply (target : Target) : Aim → Target
  | .table text => target.setTable text
  | .database name => { target with database := name }

mutual

/-- How a call changes what a select is aimed at.  The calls on a child count if the child takes the
place of the select, and not if it is a part of it. -/
def SelectCall.aims : SelectCall → List Aim
  | .table text => [.table text]
  | .database name => [.database name]
  | .subSelect calls => SelectCall.allAims calls
  | _ => []

/-- How calls in order change it. -/
def SelectCall.allAims : List SelectCall → List Aim
  | [] => []
  | call :: calls => SelectCall.aims call ++ SelectCall.allAims calls

end

mutual

theorem SelectCall.target_apply : ∀ (call : SelectCall) (query : Select),
    (SelectCall.apply query call).target = call.aims.foldl Aim.apply query.target
  | .subSelect calls, query => by
    rw [SelectCall.apply, SelectCall.aims]
    exact SelectCall.target_applyAll calls query.child
  | .join source on kind, query => by
    rw [SelectCall.apply, Select.join]
    cases on.resolve with
    | error e => rfl
    | ok condition => cases kind.resolve <;> rfl
  | .unionAs member kind, query => by
    rw [SelectCall.apply, Select.unionAs]
    cases kind.resolve <;> rfl
  | .table text, query => by
    rw [SelectCall.apply, SelectCall.aims, List.foldl_cons, List.foldl_nil, Aim.apply,
      Select.setTable]
  | .database name, query => by
    rw [SelectCall.apply, SelectCall.aims, List.foldl_cons, List.foldl_nil, Aim.apply,
      Select.setDatabase]
  | .filter _, query | .fields _, query | .addField .., query | .distinct _, query
  | .orderBy .., query | .orderByEach _, query | .groupBy _, query | .crossJoin _, query
  | .union .., query | .unionWith .., query | .exists .., query | .among .., query
  | .limit _, query | .offset _, query | .page .., query | .forwardKey _, query
  | .groupResults _, query => rfl

/-- The target of a select, from the calls on it. -/
theorem SelectCall.target_applyAll : ∀ (calls : List SelectCall) (query : Select),
    (SelectCall.applyAll query calls).target
      = (SelectCall.allAims calls).foldl Aim.apply query.target
  | [], _ => rfl
  | call :: calls, query => by
    rw [SelectCall.applyAll, SelectCall.allAims, List.foldl_append, SelectCall.target_applyAll,
      SelectCall.target_apply]

end

/-- What no step changes, no steps change. -/
theorem foldl_keeps {S A B : Type} {step : S → A → S} (view : S → B)
    (kept : ∀ s a, view (step s a) = view s) (actions : List A) (s : S) :
    view (actions.foldl step s) = view s := by
  induction actions generalizing s with
  | nil => rfl
  | cons a actions ih => rw [List.foldl_cons, ih, kept]

theorem Insert.target_addRow (query : Insert) (row : InsertRow) :
    (query.addRow row).target = query.target := by
  rw [addRow]
  dsimp only
  split
  · rfl
  · split <;> rfl

theorem InsertCall.target_apply (query : Insert) (call : InsertCall) :
    (InsertCall.apply query call).target = query.target := by
  cases call with
  | row given => exact query.target_addRow given
  | rows given => exact foldl_keeps Insert.target Insert.target_addRow given query
  | ignore flag => rfl

theorem UpdateCall.target_apply (query : Update) (call : UpdateCall) :
    (UpdateCall.apply query call).target = query.target := by
  cases call with
  | filter call => rfl
  | set column value => rfl
  | setMany sets =>
    refine foldl_keeps Update.target ?_ sets query
    intro _ _
    rfl

namespace Construction

/-- The target that the statement is started from. -/
def start : Construction → Target
  | .select target _ _ | .insert target _ | .update target _ | .delete target _ => target

/-- How the calls change what the statement is aimed at; only those on a select do. -/
def aims : Construction → List Aim
  | .select _ _ calls => SelectCall.allAims calls
  | _ => []

/-- **What a statement is aimed at**, from the target that it is started from and the calls. -/
theorem target_query (made : Construction) :
    made.query.target = made.aims.foldl Aim.apply made.start := by
  cases made with
  | select target fields calls => exact SelectCall.target_applyAll calls (target.select fields)
  | insert target calls =>
    exact foldl_keeps Insert.target InsertCall.target_apply calls (Insert.into target)
  | update target calls =>
    exact foldl_keeps Update.target UpdateCall.target_apply calls (Update.of target)
  | delete target calls =>
    refine foldl_keeps Delete.target ?_ calls (Delete.all target)
    intro _ _
    rfl

/-- Naming a database changes nothing about the table. -/
theorem table_foldl_database {aims : List Aim} (kept : ∀ text, .table text ∉ aims)
    (target : Target) : (aims.foldl Aim.apply target).table = target.table := by
  induction aims generalizing target with
  | nil => rfl
  | cons aim aims ih =>
    have rest : ∀ text, .table text ∉ aims := fun text member =>
      kept text (List.mem_cons_of_mem aim member)
    cases aim with
    | table text => exact absurd (List.mem_cons_self ..) (kept text)
    | database name => exact ih rest _

end Construction

/-! ### Where tables stand -/

/-- Where a statement says what it is aimed at: a select between its fields and its joins, with the
alias of its table, the other statements at their beginning. -/
def Query.AimsAt (d : Dialect) (source table : String) (bound : List Value) :
    Query → String → Prop
  | .select query, sql => ∃ fields between joins joined opening behind,
      (Field.writeAll d query.fields).run bound = .ok (fields, between) ∧
      (Join.writeAll d query.joins).run between = .ok (joins, joined) ∧
      (opening = "" ∨ opening = "(") ∧
      sql = opening ++ (if query.distinct then "SELECT DISTINCT " else "SELECT ") ++ fields
        ++ " FROM " ++ source ++ joins ++ behind
  | .insert query, sql => ∃ rows,
      sql = (if query.ignore then d.ignoreHead else "INSERT INTO") ++ " " ++ table
        ++ " (" ++ ", ".intercalate (query.columns.map d.quoteIdentifier) ++ ") VALUES " ++ rows
  | .update _, sql => ∃ sets, sql = "UPDATE " ++ table ++ " SET " ++ sets
  | .delete _, sql => ∃ conditions, sql = "DELETE FROM " ++ table ++ writeWhere conditions

/-- Where a join among those of a select says what is joined: behind the fields, the source and the
earlier joins, and in front of what it is on, if it is on anything. -/
def Select.JoinsWith (d : Dialect) (query : Select) (earlier : List Join) (kind : JoinKind)
    (target : String) (bound : List Value) (sql : String) : Prop :=
  ∃ fields between joins joined on opening behind,
    (Field.writeAll d query.fields).run bound = .ok (fields, between) ∧
    (Join.writeAll d earlier).run between = .ok (joins, joined) ∧
    (opening = "" ∨ opening = "(") ∧
    (if kind = .cross then on = "" else ∃ condition, condition ≠ "" ∧ on = " ON " ++ condition) ∧
    sql = opening ++ query.writeOpening d fields ++ joins
      ++ (" " ++ Keyword.sql kind ++ " JOIN " ++ target ++ on) ++ behind

section
variable {d : Dialect} {bound after : List Value} {text : String}

open Writing

/-- Every statement that is written says what it is aimed at. -/
theorem Query.aimsAt_of_write {query : Query}
    (written : (query.write d).run bound = .ok (text, after)) :
    query.AimsAt d (query.target.writeSource d) (query.target.writeTable d) bound text := by
  cases query with
  | select query =>
    obtain ⟨fields, between, joins, joined, opening, behind, -, hfields, hjoins, parenthesis, rfl,
      -⟩ := Select.run_write_joins written
    refine ⟨fields, between, joins, joined, opening, behind, hfields, hjoins, parenthesis, ?_⟩
    simp only [Select.writeOpening, Query.target, String.append_assoc]
  | insert query =>
    obtain ⟨_, -, written⟩ := run_check_eq_ok_iff.mp written
    by_cases empty : query.rows.isEmpty
    · rw [if_pos empty] at written
      cases written
    · rw [if_neg empty] at written
      obtain ⟨rows, between, -, written⟩ := run_bind_eq_ok_iff.mp written
      cases written
      refine ⟨", ".intercalate rows ++ if query.ignore then d.ignoreTail else "", ?_⟩
      simp only [Insert.writeHead, Query.target, String.append_assoc]
  | update query =>
    obtain ⟨conditions, sets, between, -, -, rfl⟩ := Query.placed_of_write written
    refine ⟨", ".intercalate sets ++ writeWhere conditions, ?_⟩
    simp only [Query.target, String.append_assoc]
  | delete query =>
    obtain ⟨conditions, -, rfl⟩ := Query.placed_of_write written
    exact ⟨conditions, rfl⟩

/-- A table is joined as it is written, and binds nothing. -/
theorem JoinSource.run_write_table {table : TableName}
    (written : ((JoinSource.table table).write d).run bound = .ok (text, after)) :
    text = table.write d ∧ after = bound := by
  rw [JoinSource.write, ← ofExcept_ok] at written
  obtain ⟨same, still⟩ := run_ofExcept_eq_ok_iff.mp written
  exact ⟨(Except.ok.inj same).symm, still⟩

/-- A join with a table has the table as its target, and says what it is on unless it is with every
row. -/
theorem Join.run_write_table {kind : JoinKind} {table : TableName} {on : JoinCondition}
    (written : (Join.write d ⟨kind, .table table, on⟩).run bound = .ok (text, after)) :
    ∃ condition,
      (if kind = .cross then condition = ""
        else ∃ bare, bare ≠ "" ∧ condition = " ON " ++ bare) ∧
      text = " " ++ Keyword.sql kind ++ " JOIN " ++ table.write d ++ condition := by
  by_cases cross : kind = .cross
  · rw [Join.write] at written
    obtain ⟨target, between, target_eq, written⟩ := run_bind_eq_ok_iff.mp written
    obtain ⟨rfl, -⟩ := JoinSource.run_write_table target_eq
    rw [if_pos cross] at written
    cases written
    refine ⟨"", by rw [if_pos cross], ?_⟩
    rw [String.append_empty]
  · obtain ⟨target, between, condition, target_eq, condition_eq, rfl⟩ :=
      Join.run_write cross written
    obtain ⟨bare, -, shown, rfl⟩ := JoinCondition.run_write condition_eq
    obtain ⟨rfl, -⟩ := JoinSource.run_write_table target_eq
    exact ⟨" ON " ++ bare, by rw [if_neg cross]; exact ⟨bare, shown, rfl⟩, rfl⟩

theorem Select.joinsWith_of_write {query : Select}
    (written : (query.write d).run bound = .ok (text, after))
    {earlier later : List Join} {kind : JoinKind} {table : TableName} {on : JoinCondition}
    (place : query.joins = earlier ++ ⟨kind, .table table, on⟩ :: later) :
    query.JoinsWith d earlier kind (table.write d) bound text := by
  obtain ⟨fields, between, joins, joined, opening, behind, -, hfields, hjoins, parenthesis, rfl,
    -⟩ := Select.run_write_joins written
  rw [place] at hjoins
  obtain ⟨before, reached, others, hbefore, hothers, rfl⟩ := Join.run_writeAll_append hjoins
  obtain ⟨first, passed, hfirst, hothers⟩ := run_bind_eq_ok_iff.mp hothers
  obtain ⟨rest, _, -, hothers⟩ := run_bind_eq_ok_iff.mp hothers
  cases hothers
  obtain ⟨condition, conditional, rfl⟩ := Join.run_write_table hfirst
  refine ⟨fields, between, before, reached, condition, opening, rest ++ behind, hfields, hbefore,
    parenthesis, conditional, ?_⟩
  simp only [String.append_assoc]

end

/-! ### One text, one table -/

/-- A statement without a table cannot be written, unless something went wrong before. -/
theorem Query.compile_of_missing {query : Query} (unset : query.target.hasTable = false)
    (sound : query.error = none) (d : Dialect) : query.compile d = .error .missingTable := by
  refine (query.reports_compile .missingTable).mpr ?_
  obtain ⟨others, wrong⟩ := query.violations_target d
  have blank : Text.trim query.target.table.name.toList = [] := by
    simpa [Target.hasTable] using unset
  rw [wrong, sound, Target.violations, if_pos blank]
  rfl

/-- A select of everything and a deletion of everything are written on any table. -/
theorem Query.compile_all {target : Target} (set : target.hasTable = true) (d : Dialect) :
    (Query.select (Select.all target)).compile d
      = .ok ⟨"SELECT * FROM " ++ target.writeSource d ++ d.window none none, []⟩ ∧
    (Query.delete (Delete.all target)).compile d
      = .ok ⟨"DELETE FROM " ++ target.writeTable d, []⟩ := by
  have checked : checkTarget target none = .ok () := if_pos set
  have unfiltered : writeWhere "" = "" := rfl
  constructor
  · have text : "SELECT * FROM " ++ target.writeSource d ++ d.window none none
        = (Select.all target).writeCore d "*" "" "" ++ (Select.all target).writeTail d := by
      simp [Select.writeCore, Select.writeTail, Select.writeGroups, Select.writeOrders, Select.all,
        unfiltered]
    refine Query.compile_of_run ?_
    rw [Query.write, Select.write_eq]
    refine Writing.run_check_eq_ok_iff.mpr ⟨(), checked, ?_⟩
    rw [text]
    rfl
  · have text : "DELETE FROM " ++ target.writeTable d
        = "DELETE FROM " ++ target.writeTable d ++ writeWhere "" := by
      rw [unfiltered, String.append_empty]
    refine Query.compile_of_run (Writing.run_check_eq_ok_iff.mpr ⟨(), checked, ?_⟩)
    rw [text]
    rfl

namespace Construction

/-- **A text names a table in the same way wherever it is used.**  The name is quoted as a whole,
segment by segment, with ` AS ` and the alias behind it, if there is one, where a table is read.

* A statement of any kind on the table, which no call aims at anything else, has this where it says
  what it is aimed at; an insert, an update and a deletion have no alias there.
* So has a join with the table, of any kind and on anything, in any select.
* If the part of the name behind its first dot is not blank, the select of everything and the
  deletion of everything are written, whatever the dialect.
* If it is blank, no statement on the table is written, unless a call set another one: the mistake
  is that no table is set, if none was made before.
* Where a database was set before, and the name has no dot, the database stands in front of it. -/
theorem renders_table (database : Database) (text : String) :
    let table := TableName.parse text
    let part := Text.behindDot table.name.toList
    (∀ made : Construction, made.start = database.table text → made.aims = [] →
      ∀ d bound sql after, (made.query.write d).run bound = .ok (sql, after) →
        made.query.AimsAt d (table.write d) (d.quoteIdentifier table.name) bound sql) ∧
    (∀ (query : Select) earlier later kind on,
      query.joins = earlier ++ ⟨kind, .parse text, on⟩ :: later →
      ∀ d bound sql after, (query.write d).run bound = .ok (sql, after) →
        query.JoinsWith d earlier kind (table.write d) bound sql) ∧
    (Text.Shown part → ∀ d,
      (Query.select (Select.all (database.table text))).compile d
        = .ok ⟨"SELECT * FROM " ++ table.write d ++ d.window none none, []⟩ ∧
      (Query.delete (Delete.all (database.table text))).compile d
        = .ok ⟨"DELETE FROM " ++ d.quoteIdentifier table.name, []⟩) ∧
    (¬ Text.Shown part → ∀ made : Construction, made.start = database.table text →
      (∀ other, .table other ∉ made.aims) → made.query.error = none →
      (∀ d, made.query.compile d = .error .missingTable) ∧
      ∀ query, made.query = .select query → query.prepareExists = .error .missingTable) ∧
    ∀ (made : Construction) earlier name, made.aims = earlier ++ [.table text] →
      (earlier.foldl Aim.apply made.start).database = some name → '.' ∉ table.name.toList →
      ∀ d bound sql after, (made.query.write d).run bound = .ok (sql, after) →
        made.query.AimsAt d (d.quoteIdentifier name ++ "." ++ table.write d)
          (d.quoteIdentifier name ++ "." ++ d.quoteIdentifier table.name) bound sql := by
  intro table part
  -- a database alone has no database set
  have alone (d : Dialect) : database.query.writeDatabase d = "" := rfl
  have source (d : Dialect) : (database.table text).writeSource d = table.write d := by
    rw [Database.table, Target.writeSource_setTable, alone, ite_self, String.empty_append]
  have bare (d : Dialect) : (database.table text).writeTable d = d.quoteIdentifier table.name := by
    rw [Database.table, Target.writeTable_setTable, alone, ite_self, String.empty_append]
  refine ⟨?_, ?_, ?_, ?_, ?_⟩
  · intro made started unmoved d bound sql after written
    have target : made.query.target = database.table text := by
      rw [made.target_query, unmoved, started, List.foldl_nil]
    have aimed := Query.aimsAt_of_write written
    rwa [target, source, bare] at aimed
  · intro query earlier later kind on place d bound sql after written
    exact Select.joinsWith_of_write written place
  · intro shown d
    have set : (database.table text).hasTable = true :=
      (database.query.hasTable_setTable text).mpr shown
    rw [← source, ← bare]
    exact Query.compile_all set d
  · intro blank made started unmoved sound
    have unset : made.query.target.hasTable = false := by
      rw [made.target_query, Target.hasTable, table_foldl_database unmoved, started,
        ← Target.hasTable, Bool.eq_false_iff]
      exact fun set => blank ((database.query.hasTable_setTable text).mp set)
    have missing := Query.compile_of_missing unset sound
    refine ⟨missing, fun query selected => ?_⟩
    rw [query.prepareExists_eq, Query.prepare, ← selected, missing]
    rfl
  · intro made earlier name moved given undotted d bound sql after written
    have target : made.query.target = (earlier.foldl Aim.apply made.start).setTable text := by
      rw [made.target_query, moved, List.foldl_append, List.foldl_cons, List.foldl_nil, Aim.apply]
    have aimed := Query.aimsAt_of_write written
    rw [target, Target.writeSource_setTable, Target.writeTable_setTable, if_neg undotted,
      Target.writeDatabase, given] at aimed
    exact aimed

/-- A table in a part of a database, joined with itself; a table whose name is lost behind the dot,
although a database is named later; and a table in a database that was set before it. -/
theorem renders_table_dotted :
    let database : Database := ⟨.sqlite, {}⟩
    let text := "shop.eu.orders as o"
    let orders := "\"shop\".\"eu\".\"orders\""
    let calls : List SelectCall := [.crossJoin (.parse text)]
    let joined := SelectCall.applyAll ((database.table text).select (.texts ["*"])) calls
    let sql := "SELECT * FROM " ++ orders ++ " AS \"o\" CROSS JOIN " ++ orders ++ " AS \"o\""
    let made : Construction := .select (database.table text) (.texts ["*"]) calls
    let lost : Construction :=
      .select (database.table "shop. as o") (.texts ["*"]) [.database (some "main")]
    let moved : Construction :=
      .select (database.table "a.b") (.texts ["*"]) [.database (some "main"), .table "c as d"]
    let sql' := "SELECT * FROM \"main\".\"c\" AS \"d\""
    Text.Shown (Text.behindDot (TableName.parse text).name.toList) ∧
      made.query = .select joined ∧ (Query.select joined).compile .sqlite = .ok ⟨sql, []⟩ ∧
      made.query.AimsAt .sqlite (orders ++ " AS \"o\"") orders [] sql ∧
      joined.JoinsWith .sqlite [] .cross (orders ++ " AS \"o\"") [] sql ∧
      (Query.delete (Delete.all (database.table text))).compile .sqlite
        = .ok ⟨"DELETE FROM " ++ orders, []⟩ ∧
      lost.query.compile .mysql = .error .missingTable ∧
      moved.query.compile .sqlite = .ok ⟨sql', []⟩ ∧
      moved.query.AimsAt .sqlite "\"main\".\"c\" AS \"d\"" "\"main\".\"c\"" [] sql' := by
  intro database text orders calls joined sql made lost moved sql'
  have built : made.query = .select joined := rfl
  have compiled : (Query.select joined).compile .sqlite = .ok ⟨sql, []⟩ := by
    simp only [joined, calls, database, text, sql, orders]
    rfl
  have compiled' : moved.query.compile .sqlite = .ok ⟨sql', []⟩ := by
    simp only [moved, database, sql']
    rfl
  have shown : Text.Shown (Text.behindDot (TableName.parse text).name.toList) := by
    simp only [text]
    decide
  have blank : ¬ Text.Shown (Text.behindDot (TableName.parse "shop. as o").name.toList) := by decide
  have name : Dialect.sqlite.quoteIdentifier (TableName.parse text).name = orders := by
    simp only [text, orders]
    rfl
  have source : (TableName.parse text).write .sqlite = orders ++ " AS \"o\"" := by
    simp only [text, orders]
    rfl
  have bare : Dialect.sqlite.quoteIdentifier (TableName.parse "c as d").name = "\"c\"" := rfl
  have labelled : (TableName.parse "c as d").write .sqlite = "\"c\" AS \"d\"" := rfl
  obtain ⟨aimed, joins, plain, -, -⟩ := renders_table database text
  obtain ⟨-, -, -, missing, -⟩ := renders_table database "shop. as o"
  obtain ⟨-, -, -, -, named⟩ := renders_table database "c as d"
  have written := Query.run_of_compile compiled
  have stands := aimed made (by rw [start]) rfl .sqlite [] sql []
  rw [built, source, name] at stands
  have joins := joins joined [] [] .cross (.clauses []) rfl .sqlite [] sql [] written
  rw [source] at joins
  have deleted := (plain shown .sqlite).2
  rw [name] at deleted
  have kept : ∀ other, .table other ∉ lost.aims := by
    simp [lost, aims, SelectCall.allAims, SelectCall.aims]
  have refused := missing blank lost (by rw [start]) kept rfl
  have prefixed := named moved [.database (some "main")] "main" rfl rfl (by decide) .sqlite [] sql'
    [] (Query.run_of_compile compiled')
  rw [bare, labelled] at prefixed
  exact ⟨shown, built, compiled, built ▸ stands written, joins, deleted, refused.1 .mysql,
    compiled', prefixed⟩

end Construction

end SqlBuilder
