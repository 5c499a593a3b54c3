import SqlBuilder.Proofs.Pieces

/-! # Identifiers that stand apart

An identifier in quotes can be read back only if no other quote touches it: two identifiers
next to each other would be read as one, with a quote between them.  Nothing in a statement
forbids this by itself, since a piece of SQL between them may be empty and so may the end of
a select.  What keeps identifiers apart are texts of the grammar that are never empty.

`Piece.Apart` says this of a list of pieces from left to right, and that no text of the
grammar has a quote in it.  It depends on whether an identifier stands right before the list,
so that lists can be put together (`Piece.Apart.append`): what is put behind a list must be
apart from an identifier at its end.  The joins, the conditions, the groups, the order and the
members of a union all are, because each of them starts with a text.

**The pieces of every statement are apart** (`Query.apart_pieces`), whatever the caller
supplied.
-/
namespace SqlBuilder

/-- The characters that the dialects put around identifiers. -/
def IsQuote (q : Char) : Prop :=
  q = '"' ∨ q = '\x60'

/-- Identifiers do not touch, and no text of the grammar has a quote in it.  The flag says
whether an identifier stands right before the pieces. -/
def Piece.Apart (q : Char) : Bool → List Piece → Prop
  | _, [] => True
  | behind, .text s :: ps => q ∉ s.toList ∧ Piece.Apart q (behind && s.isEmpty) ps
  | behind, .sql _ :: ps => Piece.Apart q behind ps
  | behind, .name _ :: ps => behind = false ∧ Piece.Apart q true ps
  | behind, .value _ :: ps => Piece.Apart q behind ps

/-- A text of the grammar that keeps apart what is around it: it is not empty, and has no
quote in it. -/
def Separates (s : String) : Prop :=
  s.isEmpty = false ∧ '"' ∉ s.toList ∧ '\x60' ∉ s.toList

instance (s : String) : Decidable (Separates s) :=
  inferInstanceAs (Decidable (_ ∧ _ ∧ _))

theorem Separates.unquoted {s : String} (h : Separates s) {q : Char} (hq : IsQuote q) :
    q ∉ s.toList := by
  rcases hq with rfl | rfl
  · exact h.2.1
  · exact h.2.2

/-! ### Putting pieces together -/

namespace Piece

variable {q : Char} {behind : Bool} {ps qs : List Piece}

/-- What is apart from an identifier before it is so without one. -/
theorem Apart.mono (h : Apart q true ps) : Apart q behind ps := by
  cases behind with
  | true => exact h
  | false =>
    induction ps with
    | nil => trivial
    | cons p ps ih =>
      cases p with
      | text s =>
        refine ⟨h.1, ?_⟩
        -- an empty text leaves the question to what is behind it
        cases empty : s.isEmpty with
        | true => exact ih (by simpa [empty] using h.2)
        | false => simpa [empty] using h.2
      | sql s => exact ih h
      | name s => exact absurd h.1 (by simp)
      | value v => exact ih h

theorem Apart.append (h : Apart q behind ps) (h' : Apart q true qs) :
    Apart q behind (ps ++ qs) := by
  induction ps generalizing behind with
  | nil => exact h'.mono
  | cons p ps ih =>
    cases p with
    | text s => exact ⟨h.1, ih h.2⟩
    | sql s => exact ih h
    | name s => exact ⟨h.1, ih h.2⟩
    | value v => exact ih h

/-- A text that separates what is around it. -/
theorem Apart.text (h : Apart q false ps) (hq : IsQuote q) {s : String} (fixed : Separates s) :
    Apart q behind (.text s :: ps) :=
  ⟨fixed.unquoted hq, by simpa [fixed.1] using h⟩

theorem apart_text (hq : IsQuote q) {s : String} (fixed : Separates s) :
    Apart q behind [.text s] :=
  ⟨fixed.unquoted hq, trivial⟩

theorem Apart.name (h : Apart q true ps) (s : String) : Apart q false (.name s :: ps) :=
  ⟨rfl, h⟩

theorem apart_name (s : String) : Apart q false [.name s] :=
  ⟨rfl, trivial⟩

theorem apart_flatMap {α : Type} {f : α → List Piece} {list : List α}
    (h : ∀ a ∈ list, Apart q true (f a)) : Apart q true (list.flatMap f) := by
  induction list with
  | nil => trivial
  | cons a list ih =>
    obtain ⟨first, rest⟩ := List.forall_mem_cons.mp h
    rw [List.flatMap_cons]
    exact first.append (ih rest)

variable (hq : IsQuote q)
include hq

theorem apart_separate {between : String} (fixed : Separates between) {list : List (List Piece)}
    (h : ∀ part ∈ list, Apart q false part) : Apart q false (separate between list) := by
  cases list with
  | nil => trivial
  | cons part list =>
    obtain ⟨first, rest⟩ := List.forall_mem_cons.mp h
    rw [separate_cons]
    exact first.append (apart_flatMap fun part hpart => (rest part hpart).text hq fixed)

theorem apart_commas {α : Type} {f : α → List Piece} (h : ∀ a, Apart q false (f a))
    (list : List α) : Apart q false (separate ", " (list.map f)) := by
  refine apart_separate hq (by decide) fun part hpart => ?_
  obtain ⟨a, -, rfl⟩ := List.mem_map.mp hpart
  exact h a

theorem Apart.enclose (h : Apart q false ps) : Apart q behind (enclose ps) :=
  (h.append (apart_text hq (by decide))).text hq (by decide)

theorem apart_label (label : Option String) : Apart q behind (Piece.label label) := by
  cases label with
  | none => trivial
  | some identifier => exact (apart_name identifier).text hq (by decide)

end Piece

open Piece

/-! ### Names, columns and fields -/

section
variable {q : Char} (hq : IsQuote q)
include hq

theorem TableName.apart_pieces (table : TableName) : Apart q false table.pieces :=
  (apart_label hq table.label).name table.name

/-- A database stands apart from what is behind its dot. -/
theorem Target.apart_databasePieces {ps : List Piece} (h : Apart q false ps) (target : Target) :
    Apart q false (target.databasePieces ++ ps) := by
  rw [Target.databasePieces]
  cases target.database with
  | none => exact h
  | some database =>
    exact (h.text hq (by decide)).name database

theorem Target.apart_tablePieces (target : Target) : Apart q false target.tablePieces :=
  target.apart_databasePieces hq (apart_name target.table.name)

theorem Target.apart_sourcePieces (target : Target) : Apart q false target.sourcePieces :=
  target.apart_databasePieces hq (target.table.apart_pieces hq)

omit hq in
theorem Column.apart_pieces (column : Column) : Apart q false column.pieces := by
  cases column with
  | name text => exact apart_name text
  | raw piece => trivial

omit hq in
theorem Argument.apart_pieces (argument : Argument) : Apart q false argument.pieces := by
  cases argument with
  | column name => exact apart_name name
  | raw piece => trivial
  | value v => trivial

theorem FieldSource.apart_pieces (source : FieldSource) : Apart q false source.pieces := by
  cases source with
  | column name => exact apart_name name
  | raw piece => trivial
  | function f => exact (apart_commas hq Argument.apart_pieces f.arguments).enclose hq

theorem Field.apart_pieces (field : Field) : Apart q false field.pieces :=
  (field.source.apart_pieces hq).append (apart_label hq field.label)

theorem Field.apart_listPieces (fields : List Field) : Apart q false (Field.listPieces fields) := by
  rw [Field.listPieces]
  split
  · exact apart_text hq (by decide)
  · exact apart_commas hq (Field.apart_pieces hq) fields

omit hq in
theorem NewValue.apart_pieces (value : NewValue) : Apart q false value.pieces := by
  cases value <;> trivial

theorem apart_names (identifiers : List String) : Apart q false (Piece.names identifiers) :=
  apart_commas hq apart_name identifiers

/-! ### Conditions -/

omit hq in
theorem separates_operator (operator : Operator) : Separates (" " ++ operator.sql ++ " ") := by
  cases operator <;> decide

omit hq in
theorem separates_connective (connective : Connective) :
    Separates (" " ++ connective.sql ++ " ") := by
  cases connective <;> decide

/-- What a column is compared with stands apart from the column. -/
theorem apart_leftPieces {ps : List Piece} (h : Apart q false ps) (column : Column)
    (operator : Operator) : Apart q false (leftPieces column operator ++ ps) := by
  rw [leftPieces, List.append_assoc]
  exact column.apart_pieces.append (h.text hq (separates_operator operator))

theorem apart_comparisonPieces (left : Column) (operator : Operator) (right : Column) :
    Apart q false (comparisonPieces left operator right) :=
  apart_leftPieces hq right.apart_pieces left operator

theorem apart_valuePieces (column : Column) (operator : Operator) (value : Value) :
    Apart q false (valuePieces column operator value) := by
  refine apart_leftPieces hq ?_ column operator
  have single : Apart q false [.value value] := trivial
  split
  · exact single.enclose hq
  · exact single

theorem Clause.apart_connect {parts : List (Connective × List Piece)}
    (h : ∀ part ∈ parts, Apart q false part.2) : Apart q false (Clause.connect parts) := by
  cases parts with
  | nil => trivial
  | cons first rest =>
    obtain ⟨hfirst, hrest⟩ := List.forall_mem_cons.mp h
    exact hfirst.append (apart_flatMap fun part hpart =>
      (hrest part hpart).text hq (separates_connective part.1))

theorem apart_wherePieces {behind : Bool} {conditions : List Piece} (h : Apart q false conditions) :
    Apart q behind (wherePieces conditions) := by
  rw [wherePieces]
  split
  · trivial
  · exact h.text hq (by decide)

/-! ### The parts of a select -/

namespace Select

theorem apart_groupPieces {behind : Bool} (query : Select) :
    Apart q behind query.groupPieces := by
  rw [groupPieces]
  split
  · trivial
  · exact (apart_commas hq Column.apart_pieces query.groups).text hq (by decide)

theorem apart_orderEntry (order : Column × Direction) : Apart q false (orderEntry order) := by
  obtain ⟨column, direction⟩ := order
  refine column.apart_pieces.append (apart_text hq ?_)
  cases direction <;> decide

theorem apart_orderPieces {behind : Bool} (query : Select) :
    Apart q behind query.orderPieces := by
  rw [orderPieces]
  split
  · trivial
  · exact (apart_commas hq (apart_orderEntry hq) query.orders).text hq (by decide)

/-- A select is apart from whatever is before it, if the window of its dialect has no quote. -/
theorem apart_alonePieces {behind : Bool} {d : Dialect} (query : Select)
    (window : q ∉ (d.window query.limit query.offset).toList) {joined conditions : List Piece}
    (hjoined : Apart q true joined) (hconditions : Apart q false conditions) :
    Apart q behind (query.alonePieces d joined conditions) := by
  have head : Separates (if query.distinct then "SELECT DISTINCT " else "SELECT ") := by
    split <;> decide
  have fields : Apart q behind (_ :: Field.listPieces query.fields) :=
    (Field.apart_listPieces hq query.fields).text hq head
  have source : Apart q true (.text " FROM " :: query.target.sourcePieces) :=
    (query.target.apart_sourcePieces hq).text hq (by decide)
  have core := (((fields.append source).append hjoined).append
    (apart_wherePieces hq hconditions)).append (query.apart_groupPieces hq)
  -- the window may be empty, but then it ends the select
  have tail : Apart q true (query.tailPieces d) :=
    (query.apart_orderPieces hq).append ⟨window, trivial⟩
  exact core.append tail

end Select

end

/-! ### Outcomes -/

/-- If there is a result, it has a property. -/
def Ensures {α : Type} (P : α → Prop) (outcome : Except Error α) : Prop :=
  ∀ a, outcome = .ok a → P a

section
variable {α β : Type} {P : α → Prop} {Q : β → Prop}

theorem ensures_ok {a : α} (h : P a) : Ensures P (.ok a) := by
  rintro b ⟨⟩
  exact h

theorem ensures_error (e : Error) : Ensures P (.error e) := by
  rintro b ⟨⟩

theorem Ensures.bind {outcome : Except Error α} (h : Ensures P outcome)
    {next : α → Except Error β} (hnext : ∀ a, P a → Ensures Q (next a)) :
    Ensures Q (outcome >>= next) := by
  intro b hb
  obtain ⟨a, ha, hb⟩ := bind_eq_ok_iff.mp hb
  exact hnext a (h a ha) b hb

/-- A check before it does not matter. -/
theorem Ensures.after {outcome : Except Error α} (h : Ensures P outcome)
    (check : Except Error Unit) : Ensures P (check >>= fun _ => outcome) := by
  intro a ha
  obtain ⟨_, -, ha⟩ := bind_eq_ok_iff.mp ha
  exact h a ha

end

/-! ### Statements -/

/-- The texts that are the dialect's own have no quote of the dialect in them. -/
structure Dialect.Quiet (d : Dialect) : Prop where
  quote : IsQuote d.quote
  placeholder : ∀ n, d.quote ∉ (d.placeholder n).toList
  window : ∀ limit offset, d.quote ∉ (d.window limit offset).toList
  ignoreHead : d.quote ∉ d.ignoreHead.toList
  ignoreTail : d.quote ∉ d.ignoreTail.toList

variable {d : Dialect}

theorem apart_memberPieces (quiet : d.Quiet) (limited compound : Bool) {ps : List Piece}
    (h : Apart d.quote false ps) :
    Ensures (Apart d.quote false) (Select.memberPieces d limited compound ps) := by
  intro qs hqs
  rcases Select.memberPieces_eq_ok hqs with rfl | rfl
  · exact h
  · exact h.enclose quiet.quote

theorem apart_listPieces (quiet : d.Quiet) (column : Column) (operator : Operator)
    (list : List Value) :
    Ensures (Apart d.quote false) (listPieces d column operator list) := by
  rw [listPieces]
  have constant : Separates (if operator = .isIn then "1 = 0" else "1 = 1") := by
    split <;> decide
  have item (value : Value) : Apart d.quote false [.value value] := trivial
  have tuple : Apart d.quote false (Piece.tuple list) :=
    (apart_commas quiet.quote item list).enclose quiet.quote
  split
  · split
    · exact ensures_ok (apart_text quiet.quote constant)
    · exact ensures_ok (apart_leftPieces quiet.quote tuple column operator)
  · split
    · exact ensures_ok (apart_leftPieces quiet.quote (item _) column operator)
    · exact ensures_error _

mutual

theorem Select.apart_pieces (quiet : d.Quiet) : ∀ query : Select,
    Ensures (Apart d.quote false) (query.pieces d)
  | ⟨target, fields, distinct, orders, groups, joins, unions, clauses, limit, offset, forwardKey,
      groupResults, error⟩ => by
    intro ps h
    obtain ⟨joined, parts, head, members, hjoined, hparts, hmembers, hhead, rfl⟩ :=
      Select.pieces_eq_ok h
    have joined := Join.apart_listPieces quiet joins joined hjoined
    have conditions := Clause.apart_connect quiet.quote
      (Clause.apart_parts quiet clauses parts hparts)
    have members := UnionMember.apart_listPieces quiet unions members hmembers
    refine Apart.append ?_ members
    rcases hhead with rfl | rfl
    · exact Select.apart_alonePieces quiet.quote _ (quiet.window limit offset) joined conditions
    · exact (Select.apart_alonePieces quiet.quote _ (quiet.window limit offset) joined
        conditions).enclose quiet.quote

theorem Join.apart_listPieces (quiet : d.Quiet) : ∀ joins : List Join,
    Ensures (Apart d.quote true) (Join.listPieces d joins)
  | [] => ensures_ok trivial
  | join :: joins =>
    (Join.apart_pieces quiet join).bind fun _ first =>
      (Join.apart_listPieces quiet joins).bind fun _ rest => ensures_ok (first.append rest)

theorem Join.apart_pieces (quiet : d.Quiet) : ∀ join : Join,
    Ensures (Apart d.quote true) (join.pieces d)
  | ⟨kind, source, on⟩ => by
    have head : Separates (" " ++ Keyword.sql kind ++ " JOIN ") := by
      cases kind <;> decide
    refine (JoinSource.apart_pieces quiet source).bind fun joined hjoined => ?_
    split
    · exact ensures_ok (hjoined.text quiet.quote head)
    · exact (JoinCondition.apart_pieces quiet kind on).bind fun conditions hconditions =>
        ensures_ok ((hjoined.text quiet.quote head).append hconditions)

theorem JoinSource.apart_pieces (quiet : d.Quiet) : ∀ source : JoinSource,
    Ensures (Apart d.quote false) (source.pieces d)
  | .table t => ensures_ok (t.apart_pieces quiet.quote)
  | .select query label =>
    (Select.apart_pieces quiet query).bind fun _ inner =>
      ensures_ok ((inner.enclose quiet.quote).append (apart_label quiet.quote (some label)))

theorem JoinCondition.apart_pieces (quiet : d.Quiet) (kind : JoinKind) : ∀ on : JoinCondition,
    Ensures (Apart d.quote true) (on.pieces d kind)
  | .columns left operator right =>
    ensures_ok ((apart_comparisonPieces quiet.quote left operator right).text quiet.quote
      (by decide))
  | .clauses list => by
    refine (Clause.apart_parts quiet list).bind fun parts hparts => ?_
    rw [onPieces]
    split
    · exact ensures_error _
    · exact ensures_ok ((Clause.apart_connect quiet.quote hparts).text quiet.quote (by decide))

theorem Clause.apart_parts (quiet : d.Quiet) : ∀ clauses : List Clause,
    Ensures (fun parts => ∀ part ∈ parts, Apart d.quote false part.2) (Clause.parts d clauses)
  | [] => ensures_ok fun _ hpart => nomatch hpart
  | ⟨connective, predicate⟩ :: clauses => by
    refine (Predicate.apart_pieces quiet predicate).bind fun part hpart => ?_
    refine (Clause.apart_parts quiet clauses).bind fun parts hparts => ?_
    split
    · exact ensures_ok hparts
    · exact ensures_ok (List.forall_mem_cons.mpr ⟨hpart, hparts⟩)

theorem Predicate.apart_pieces (quiet : d.Quiet) : ∀ predicate : Predicate,
    Ensures (Apart d.quote false) (predicate.pieces d)
  | .compare column operator operand => Operand.apart_pieces quiet column operator operand
  | .columns left operator right =>
    ensures_ok (apart_comparisonPieces quiet.quote left operator right)
  | .exists negated query => by
    refine (Select.apart_pieces quiet query).bind fun inner hinner => ?_
    exact ensures_ok ((hinner.enclose quiet.quote).text quiet.quote (by split <;> decide))
  | .group clauses => by
    refine (Clause.apart_parts quiet clauses).bind fun parts hparts => ?_
    split
    · exact ensures_ok trivial
    · exact ensures_ok ((Clause.apart_connect quiet.quote hparts).enclose quiet.quote)

theorem Operand.apart_pieces (quiet : d.Quiet) (column : Column) (operator : Operator) :
    ∀ operand : Operand, Ensures (Apart d.quote false) (operand.pieces d column operator)
  | .value v => ensures_ok (apart_valuePieces quiet.quote column operator v)
  | .list list => apart_listPieces quiet column operator list
  | .raw piece => by
    have sql : Apart d.quote false [.sql piece.sql] := trivial
    exact ensures_ok (apart_leftPieces quiet.quote sql column operator)
  | .select query =>
    (Select.apart_pieces quiet query).bind fun _ inner =>
      ensures_ok (apart_leftPieces quiet.quote (inner.enclose quiet.quote) column operator)

theorem UnionMember.apart_listPieces (quiet : d.Quiet) : ∀ members : List UnionMember,
    Ensures (Apart d.quote true) (UnionMember.listPieces d members)
  | [] => ensures_ok trivial
  | ⟨kind, query⟩ :: members => by
    have glue : Separates (UnionMember.glue kind) := by
      rcases kind with _ | _ | _ <;> decide
    refine Ensures.bind (P := Apart d.quote true) ?_ fun first hfirst =>
      (UnionMember.apart_listPieces quiet members).bind fun _ rest =>
        ensures_ok (hfirst.append rest)
    refine (Select.apart_pieces quiet query).bind fun inner hinner => ?_
    exact (apart_memberPieces quiet _ _ hinner).bind fun _ member =>
      ensures_ok (member.text quiet.quote glue)

end

/-- The rows of an insert stand apart from its columns. -/
theorem Insert.apart_headPieces (quiet : d.Quiet) {ps : List Piece} (h : Apart d.quote false ps)
    (query : Insert) : Apart d.quote false (query.headPieces d ++ ps) := by
  -- nothing stands before the words of the dialect, so they need not separate anything
  have head : d.quote ∉ (if query.ignore then d.ignoreHead else "INSERT INTO").toList := by
    split
    · exact quiet.ignoreHead
    · exact Separates.unquoted (by decide) quiet.quote
  have table : Apart d.quote false (.text " " :: query.target.tablePieces) :=
    (query.target.apart_tablePieces quiet.quote).text quiet.quote (by decide)
  have source : Apart d.quote false (.text _ :: .text " " :: query.target.tablePieces) :=
    ⟨head, by simpa using table⟩
  have columns : Apart d.quote true (.text " (" :: Piece.names query.columns) :=
    (apart_names quiet.quote query.columns).text quiet.quote (by decide)
  rw [headPieces, List.append_assoc]
  exact (source.append columns).append (h.text quiet.quote (by decide))

theorem Insert.apart_rowPieces (quiet : d.Quiet) (row : List NewValue) :
    Apart d.quote false (rowPieces row) :=
  (apart_commas quiet.quote NewValue.apart_pieces row).enclose quiet.quote

theorem Insert.apart_pieces (quiet : d.Quiet) (query : Insert) :
    Ensures (Apart d.quote false) (query.pieces d) := by
  rw [Insert.pieces]
  refine Ensures.after ?_ _
  have tail : d.quote ∉ (if query.ignore then d.ignoreTail else "").toList := by
    split
    · exact quiet.ignoreTail
    · exact List.not_mem_nil
  have rows := apart_commas quiet.quote (Insert.apart_rowPieces quiet) query.rows
  split
  · exact ensures_error _
  · exact ensures_ok ((query.apart_headPieces quiet rows).append ⟨tail, trivial⟩)

theorem Update.apart_setPieces (quiet : d.Quiet) (entry : String × NewValue) :
    Apart d.quote false (setPieces entry) :=
  (entry.2.apart_pieces.text quiet.quote (by decide)).name entry.1

theorem Update.apart_pieces (quiet : d.Quiet) (query : Update) :
    Ensures (Apart d.quote false) (query.pieces d) := by
  rw [Update.pieces]
  refine Ensures.after ?_ _
  have source : Apart d.quote false (.text "UPDATE " :: query.target.tablePieces) :=
    (query.target.apart_tablePieces quiet.quote).text quiet.quote (by decide)
  have entries := apart_commas quiet.quote (Update.apart_setPieces quiet) query.sets
  have sets : Apart d.quote true (.text " SET " ::
      Piece.separate ", " (query.sets.map setPieces)) :=
    entries.text quiet.quote (by decide)
  split
  · exact ensures_error _
  · refine (Clause.apart_parts quiet query.clauses).bind fun parts hparts => ?_
    exact ensures_ok ((source.append sets).append
      (apart_wherePieces quiet.quote (Clause.apart_connect quiet.quote hparts)))

theorem Delete.apart_pieces (quiet : d.Quiet) (query : Delete) :
    Ensures (Apart d.quote false) (query.pieces d) := by
  rw [Delete.pieces]
  refine Ensures.after ?_ _
  have source : Apart d.quote false (.text "DELETE FROM " :: query.target.tablePieces) :=
    (query.target.apart_tablePieces quiet.quote).text quiet.quote (by decide)
  refine (Clause.apart_parts quiet query.clauses).bind fun parts hparts => ?_
  exact ensures_ok (source.append
    (apart_wherePieces quiet.quote (Clause.apart_connect quiet.quote hparts)))

/-- **The pieces of a statement are apart**, whatever the caller supplied. -/
theorem Query.apart_pieces (quiet : d.Quiet) : ∀ query : Query,
    Ensures (Apart d.quote false) (query.pieces d)
  | .select query => query.apart_pieces quiet
  | .insert query => query.apart_pieces quiet
  | .update query => query.apart_pieces quiet
  | .delete query => query.apart_pieces quiet

end SqlBuilder
