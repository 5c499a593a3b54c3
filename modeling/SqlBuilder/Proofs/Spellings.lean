import Mathlib.Data.List.Forall2
import SqlBuilder.Database
import SqlBuilder.Proofs.Aliases
import SqlBuilder.Query.Select

/-! # Spellings of a list

Columns and fields can be given as a list of texts, or as one text with commas between them
(`Commas`).  Fields under other names can also be given as pairs of a column and an alias, or as
texts that have the two with ` as ` between (`Aliased`).

The spellings are read in different ways.  A line is cut at its commas, and blank parts of it do
not count; a text of a list is taken as it is; and a pair is neither cut nor looked through for
` as `.  Yet they mean the same (`FieldList.spellings_agree`), as long as no text is blank or has a
comma in it (`Listable`) and no alias has an ` as ` of its own.
-/
namespace SqlBuilder

/-! ### Lines -/

/-- A text that can stand in a list: one that is not blank and has no comma in it. -/
def Listable (text : String) : Prop :=
  Text.Shown text.toList ∧ ',' ∉ text.toList

instance (text : String) : Decidable (Listable text) :=
  inferInstanceAs (Decidable (_ ∧ _))

/-- A line with commas between texts, and any white space around each of them. -/
def Commas (texts : List String) (line : String) : Prop :=
  ∃ parts, List.Forall₂ (fun text part => Text.Padded text.toList part) texts parts ∧
    line.toList = [','].intercalate parts

theorem Text.AllBlank.comma_notMem {cs : List Char} (blank : Text.AllBlank cs) : ',' ∉ cs := by
  intro comma
  exact absurd (blank ',' comma) (by decide)

section
variable {texts : List String} {parts : List (List Char)} {line : String}

/-- White space around the texts does not matter for what they are trimmed to. -/
theorem map_trim_of_padded
    (h : List.Forall₂ (fun text part => Text.Padded text.toList part) texts parts) :
    parts.map Text.trim = texts.map fun text => Text.trim text.toList := by
  induction h with
  | nil => rfl
  | cons padded rest ih => rw [List.map_cons, List.map_cons, ih, padded.trim_eq]

/-- White space around the texts puts no comma into them. -/
theorem comma_notMem_of_padded
    (h : List.Forall₂ (fun text part => Text.Padded text.toList part) texts parts)
    (without : ∀ text ∈ texts, ',' ∉ text.toList) : ∀ part ∈ parts, ',' ∉ part := by
  induction h with
  | nil => exact nofun
  | cons padded rest ih =>
    obtain ⟨first, others⟩ := List.forall_mem_cons.mp without
    obtain ⟨before, after, blankBefore, blankAfter, rfl⟩ := padded
    refine List.forall_mem_cons.mpr ⟨?_, ih others⟩
    simp [blankBefore.comma_notMem, blankAfter.comma_notMem, first]

/-- **A line is cut into its texts.** -/
theorem Commas.splitList_eq (h : Commas texts line) (listable : ∀ text ∈ texts, Listable text) :
    Text.splitList line.toList = texts.map fun text => Text.trim text.toList := by
  obtain ⟨parts, padded, joined⟩ := h
  have without := comma_notMem_of_padded padded fun text given => (listable text given).2
  have shown : ∀ part ∈ parts.map Text.trim, (!part.isEmpty) = true := by
    rw [map_trim_of_padded padded]
    intro part member
    obtain ⟨text, given, rfl⟩ := List.mem_map.mp member
    simpa using Text.trim_ne_nil_iff.mpr (listable text given).1
  rw [Text.splitList, joined, ← map_trim_of_padded padded]
  by_cases empty : parts = []
  · -- cutting gives one part also where there was none, but that part is blank
    subst empty
    rfl
  · rw [List.splitOn_intercalate ',' without empty, List.filter_eq_self.mpr shown]

theorem Text.trimmed_ofList_trim (text : String) :
    Text.trimmed (String.ofList (Text.trim text.toList)) = Text.trimmed text := by
  rw [Text.trimmed, String.toList_ofList, Text.trim_trim, Text.trimmed]

theorem Field.parse_ofList_trim (text : String) :
    Field.parse (String.ofList (Text.trim text.toList)) = Field.parse text := by
  rw [Field.parse, String.toList_ofList, Text.splitAlias_trim, Field.parse]

/-- A line of columns means the columns of its texts. -/
theorem Commas.toColumns_eq (h : Commas texts line) (listable : ∀ text ∈ texts, Listable text) :
    (ColumnList.text line).toColumns = texts.map Column.ofText := by
  rw [ColumnList.toColumns, h.splitList_eq listable, List.map_map]
  refine List.map_congr_left fun text _ => ?_
  rw [Function.comp_apply, Column.ofText, Text.trimmed_ofList_trim, Column.ofText]

/-- A line of fields means the fields of its texts. -/
theorem Commas.toFields_eq (h : Commas texts line) (listable : ∀ text ∈ texts, Listable text) :
    (FieldList.text line).toFields = FieldList.normalize (texts.map Field.parse) := by
  have parsed : (texts.map fun text => Text.trim text.toList).map
      (fun part => Field.parse (String.ofList part)) = texts.map Field.parse := by
    rw [List.map_map]
    refine List.map_congr_left fun text _ => ?_
    rw [Function.comp_apply, Field.parse_ofList_trim]
  rw [FieldList.toFields, h.splitList_eq listable, parsed]

end

/-! ### Aliases -/

/-- A column and an alias as one text, with ` as ` between them in any case. -/
def Aliased (pair : String × String) (text : String) : Prop :=
  ∃ joiner, Text.lower joiner = Text.asWord ∧
    text.toList = pair.1.toList ++ joiner ++ pair.2.toList

/-- A column and an alias that can stand in a list, with ` as ` between them in no second place. -/
def Pairable (pair : String × String) : Prop :=
  Listable pair.1 ∧ Listable pair.2 ∧ ¬ Text.asWord <:+: Text.lower (' ' :: pair.2.toList)

instance (pair : String × String) : Decidable (Pairable pair) :=
  inferInstanceAs (Decidable (_ ∧ _ ∧ _))

/-- The field of a pair: its column under its alias, both without white space around them. -/
def Field.ofPair (pair : String × String) : Field :=
  (Field.column (Text.trimmed pair.1)).withLabel (Text.trimmed pair.2)

section
variable {pair : String × String} {text : String}

theorem Aliased.parse_eq (h : Aliased pair text) (pairable : Pairable pair) :
    Field.parse text = Field.ofPair pair := by
  obtain ⟨joiner, word, joined⟩ := h
  obtain ⟨⟨named, -⟩, ⟨labelled, -⟩, last⟩ := pairable
  rw [Field.parse, joined, Text.splitAlias_joined named labelled word last]
  rfl

theorem Aliased.listable (h : Aliased pair text) (pairable : Pairable pair) : Listable text := by
  obtain ⟨joiner, word, joined⟩ := h
  obtain ⟨⟨-, first⟩, ⟨labelled, second⟩, -⟩ := pairable
  obtain ⟨a, s, ha, hs, rfl⟩ := Text.lower_eq_asWord_iff.mp word
  rw [Listable, joined]
  refine ⟨labelled.append_left _, ?_⟩
  -- neither letter of the word is a comma, which has no small form of its own
  have comma : ∀ {c d : Char}, c.toLower = d → d ≠ ',' → ',' ≠ c := by
    rintro _ _ rfl other rfl
    exact other rfl
  simp [first, second, comma ha (by decide), comma hs (by decide)]

end

section
variable {pairs : List (String × String)} {texts : List String}

theorem map_parse_of_aliased (h : List.Forall₂ Aliased pairs texts)
    (pairable : ∀ pair ∈ pairs, Pairable pair) :
    texts.map Field.parse = pairs.map Field.ofPair := by
  induction h with
  | nil => rfl
  | cons aliased rest ih =>
    obtain ⟨first, others⟩ := List.forall_mem_cons.mp pairable
    rw [List.map_cons, List.map_cons, aliased.parse_eq first, ih others]

theorem listable_of_aliased (h : List.Forall₂ Aliased pairs texts)
    (pairable : ∀ pair ∈ pairs, Pairable pair) : ∀ text ∈ texts, Listable text := by
  induction h with
  | nil => exact nofun
  | cons aliased rest ih =>
    obtain ⟨first, others⟩ := List.forall_mem_cons.mp pairable
    exact List.forall_mem_cons.mpr ⟨aliased.listable first, ih others⟩

/-- A field under another name never means everything. -/
theorem FieldList.normalize_ofPair (pairs : List (String × String)) :
    normalize (pairs.map Field.ofPair) = pairs.map Field.ofPair := by
  rcases pairs with _ | ⟨pair, _ | ⟨next, rest⟩⟩ <;> rfl

end

/-! ### Spellings -/

namespace FieldList

/-- **All spellings of a list agree.**

* For texts that can stand in a list, the line with commas between them, with any white space around
  them, gives a select the same fields as the list of the texts, and orders and groups it by the
  same columns: those that the texts name.
* For columns and aliases that can, the pairs, the texts with ` as ` in any case between the two,
  and the line of these texts give a select the same fields: the columns under their aliases. -/
theorem spellings_agree :
    (∀ (texts : List String) (line : String), (∀ text ∈ texts, Listable text) →
      Commas texts line →
      (∀ spelling ∈ [FieldList.text line, .texts texts],
        spelling.toFields = normalize (texts.map Field.parse) ∧
        (∀ target : Target, target.select spelling = target.select (.texts texts)) ∧
        ∀ query : Select, query.setFields spelling = query.setFields (.texts texts)) ∧
      ∀ spelling ∈ [ColumnList.text line, .names texts],
        spelling.toColumns = texts.map (fun text => .name (Text.trimmed text)) ∧
        (∀ (query : Select) (direction : KeywordArg Direction),
          query.orderBy spelling direction = query.orderBy (.names texts) direction) ∧
        ∀ query : Select, query.groupBy spelling = query.groupBy (.names texts)) ∧
    ∀ (pairs : List (String × String)) (texts : List String) (line : String),
      (∀ pair ∈ pairs, Pairable pair) → List.Forall₂ Aliased pairs texts → Commas texts line →
      ∀ spelling ∈ [FieldList.pairs pairs, .texts texts, .text line],
        spelling.toFields = pairs.map Field.ofPair ∧
        (∀ target : Target, target.select spelling = target.select (.pairs pairs)) ∧
        ∀ query : Select, query.setFields spelling = query.setFields (.pairs pairs) := by
  -- a call sees no more of a spelling than what it means
  have select {first second : FieldList} (same : first.toFields = second.toFields)
      (target : Target) : target.select first = target.select second := by
    rw [Target.select, same, Target.select]
  have setFields {first second : FieldList} (same : first.toFields = second.toFields)
      (query : Select) : query.setFields first = query.setFields second := by
    rw [Select.setFields, same, Select.setFields]
  constructor
  · intro texts line listable joined
    constructor
    · intro spelling given
      have fields : spelling.toFields = normalize (texts.map Field.parse) := by
        obtain rfl | rfl : spelling = .text line ∨ spelling = .texts texts := by simpa using given
        · exact joined.toFields_eq listable
        · rfl
      exact ⟨fields, select fields, setFields fields⟩
    · intro spelling given
      have columns : spelling.toColumns = (ColumnList.names texts).toColumns := by
        obtain rfl | rfl : spelling = .text line ∨ spelling = .names texts := by simpa using given
        · exact joined.toColumns_eq listable
        · rfl
      refine ⟨columns, fun query direction => ?_, fun query => ?_⟩
      · rw [Select.orderBy, columns, Select.orderBy]
      · rw [Select.groupBy, columns, Select.groupBy]
  · intro pairs texts line pairable aliased joined spelling given
    have listable := listable_of_aliased aliased pairable
    have parsed : normalize (texts.map Field.parse) = pairs.map Field.ofPair := by
      rw [map_parse_of_aliased aliased pairable, normalize_ofPair]
    have fields : spelling.toFields = (FieldList.pairs pairs).toFields := by
      obtain rfl | rfl | rfl : spelling = .pairs pairs ∨ spelling = .texts texts ∨
          spelling = .text line := by simpa using given
      · rfl
      · exact parsed
      · exact (joined.toFields_eq listable).trans parsed
    exact ⟨fields, select fields, setFields fields⟩

/-- Columns of which one means everything and one ends in the word, in a line, and pairs of which
one has a column with an ` as ` in it and the word itself as its alias. -/
theorem spellings_agree_word :
    let users : Target := ⟨none, ⟨"users", none⟩, .sqlite, {}⟩
    let columns : List String := [" id", "*", "name as"]
    let line := "\n id ,*,name as"
    let pairs : List (String × String) := [("x as y ", " AS"), ("u.id", "key\t")]
    let texts : List String := ["x as y  aS  AS", "u.id AS key\t"]
    let labelled := "x as y  aS  AS ,\nu.id AS key\t"
    (∀ text ∈ columns, Listable text) ∧ Commas columns line ∧
      users.select (.text line) = users.select (.texts columns) ∧
      (Select.all users).groupBy (.text line) = (Select.all users).groupBy (.names columns) ∧
      (∀ pair ∈ pairs, Pairable pair) ∧ List.Forall₂ Aliased pairs texts ∧
      Commas texts labelled ∧
      (FieldList.text labelled).toFields
        = [(Field.column "x as y").withLabel "AS", (Field.column "u.id").withLabel "key"] := by
  intro users columns line pairs texts labelled
  have listable : ∀ text ∈ columns, Listable text := by decide
  have joined : Commas columns line :=
    ⟨["\n id ".toList, "*".toList, "name as".toList],
      .cons ⟨['\n'], [' '], by decide, by decide, rfl⟩
        (.cons ⟨[], [], nofun, nofun, rfl⟩ (.cons ⟨[], [], nofun, nofun, rfl⟩ .nil)), by decide⟩
  have pairable : ∀ pair ∈ pairs, Pairable pair := by decide
  have aliased : List.Forall₂ Aliased pairs texts :=
    .cons ⟨" aS ".toList, by decide, rfl⟩ (.cons ⟨" AS ".toList, by decide, rfl⟩ .nil)
  have joined' : Commas texts labelled :=
    ⟨["x as y  aS  AS ".toList, "\nu.id AS key\t".toList],
      .cons ⟨[], [' '], nofun, by decide, rfl⟩
        (.cons ⟨['\n'], [], by decide, nofun, rfl⟩ .nil), by decide⟩
  obtain ⟨alone, paired⟩ := spellings_agree
  obtain ⟨fields, groups⟩ := alone columns line listable joined
  have selected := (fields (.text line) (by simp)).2.1 users
  have grouped := (groups (.text line) (by simp)).2.2 (Select.all users)
  have meant := (paired pairs texts labelled pairable aliased joined' (.text labelled) (by simp)).1
  exact ⟨listable, joined, selected, grouped, pairable, aliased, joined', meant⟩

end FieldList

end SqlBuilder
