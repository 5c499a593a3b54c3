import Mathlib.Data.List.Nodup
import SqlBuilder.Keyword
import SqlBuilder.Proofs.Words

/-! # Texts that are keywords

A kind of keyword has three tables: the spellings that are read, those that a message lists, and
what is written for each keyword.  `Keyword.Coherent` says that they agree, and for tables that do,
a text is read as a keyword if its normal form is the spelling of the keyword, and is refused
otherwise (`Keyword.Coherent.readBy`).

A direction, a kind of join and a kind of union are spelled as the last word that is written for
them, and neither white space around the word nor the case of its letters counts.  An operator is
spelled as it is written, and the amount of white space between its words does not count either.  So
what is written for an operator is read as the operator again, however it is spaced
(`Keyword.parses_exactly`).
-/
namespace SqlBuilder
namespace Text

/-- White space has no case. -/
theorem isBlank_toLower (c : Char) : isBlank c.toLower = isBlank c := by
  rcases toLower_cases c with ⟨least, greatest, value⟩ | same
  · have neither : ∀ d : Char, 65 ≤ d.toNat → d.toNat ≤ 122 → isBlank d = false := by
      intro d above below
      simp only [isBlank, Bool.or_eq_false_iff, Bool.and_eq_false_iff, decide_eq_false_iff_not,
        beq_eq_false_iff_ne]
      omega
    rw [neither c least (by omega), neither c.toLower (by omega) (by omega)]
  · rw [same]

theorem Solid.of_lower {cs : List Char} (solid : Solid (lower cs)) : Solid cs := by
  intro c member
  rw [← isBlank_toLower]
  exact solid c.toLower (List.mem_map_of_mem member)

theorem lower_intercalate (separator : List Char) (list : List (List Char)) :
    lower (separator.intercalate list) = (lower separator).intercalate (list.map lower) := by
  induction list with
  | nil => rfl
  | cons first list ih =>
    cases list with
    | nil => rw [List.map_singleton, List.intercalate_singleton, List.intercalate_singleton]
    | cons second list =>
      rw [List.map_cons, List.map_cons, List.intercalate_cons_cons, List.intercalate_cons_cons,
        lower_append, lower_append, ih, List.map_cons]

end Text

namespace Keyword
open Text

section
variable {K : Type} [Keyword K] {spelled : K → List Char} {s : String} {k : K}

/-! ### Tables that agree -/

/-- The tables of a kind of keyword agree on how each keyword is spelled. -/
structure Coherent (K : Type) [Keyword K] (spelled : K → List Char) : Prop where
  /-- A message lists what is read. -/
  listed : allowed K = (readings (K := K)).map Prod.fst
  distinct : (allowed K).Nodup
  /-- What is read as a keyword is its spelling. -/
  reads : ∀ reading ∈ readings (K := K), reading.1.toList = spelled reading.2
  complete : ∀ k : K, ∃ reading ∈ readings, reading.2 = k
  normal_eq : ∀ text ∈ allowed K, normal K text.toList = text.toList

/-- A text is read as some keyword of the kind. -/
def Parses (K : Type) [Keyword K] (s : String) : Prop :=
  ∃ k : K, parse s = .ok k

/-- The texts of a kind of keyword are read by a form that they have. -/
structure ReadBy (K : Type) [Keyword K] (form : List Char → List Char) (spelled : K → List Char) :
    Prop where
  ok_iff : ∀ (s : String) (k : K), parse s = .ok k ↔ form s.toList = spelled k
  parses_iff : ∀ s : String, Parses K s ↔ form s.toList ∈ (allowed K).map String.toList
  /-- Every other text is refused, with the text as it was given. -/
  refused : ∀ s : String, ¬ Parses K s →
    parse (K := K) s = .error (.invalidKeyword (kind K) s (allowed K))
  /-- What a message lists are the texts that are read and are their own form. -/
  allowed_iff : ∀ text : String,
    text ∈ allowed K ↔ Parses K text ∧ form text.toList = text.toList

theorem parse_eq_ok_iff : parse s = .ok k ↔ ofText? s = some k := by
  rw [parse]
  cases ofText? (K := K) s with
  | none => exact ⟨nofun, nofun⟩
  | some other => rw [Except.ok.injEq, Option.some.injEq]

/-- No two keywords have the same spelling. -/
theorem Coherent.injective (coherent : Coherent K spelled) : Function.Injective spelled := by
  intro k l same
  obtain ⟨first, memberFirst, rfl⟩ := coherent.complete k
  obtain ⟨second, memberSecond, rfl⟩ := coherent.complete l
  have nodup : ((readings (K := K)).map Prod.fst).Nodup := coherent.listed ▸ coherent.distinct
  have texts : first.1 = second.1 := by
    rw [← String.toList_inj, coherent.reads first memberFirst, same,
      coherent.reads second memberSecond]
  rw [List.inj_on_of_nodup_map nodup memberFirst memberSecond texts]

theorem Coherent.ofText?_eq_some_iff (coherent : Coherent K spelled) :
    ofText? s = some k ↔ normal K s.toList = spelled k := by
  rw [ofText?]
  cases found : (readings (K := K)).find? fun reading => reading.1.toList = normal K s.toList with
  | none =>
    have absent := List.find?_eq_none.mp found
    refine ⟨nofun, fun same => ?_⟩
    obtain ⟨reading, member, rfl⟩ := coherent.complete k
    rw [← coherent.reads reading member] at same
    exact absurd (decide_eq_true same.symm) (absent reading member)
  | some reading =>
    have spelling : spelled reading.2 = normal K s.toList := by
      rw [← coherent.reads reading (List.mem_of_find?_eq_some found)]
      simpa using List.find?_some found
    rw [Option.map_some, Option.some.injEq, ← spelling]
    exact coherent.injective.eq_iff.symm

theorem Coherent.mem_allowed_iff (coherent : Coherent K spelled) (cs : List Char) :
    cs ∈ (allowed K).map String.toList ↔ ∃ k, cs = spelled k := by
  rw [coherent.listed, List.map_map, List.mem_map]
  constructor
  · rintro ⟨reading, member, rfl⟩
    exact ⟨reading.2, coherent.reads reading member⟩
  · rintro ⟨k, rfl⟩
    obtain ⟨reading, member, rfl⟩ := coherent.complete k
    exact ⟨reading, member, coherent.reads reading member⟩

/-- **Where the tables agree** a text is read by its normal form. -/
theorem Coherent.readBy (coherent : Coherent K spelled) : ReadBy K (normal K) spelled := by
  have ok_iff (s : String) (k : K) : parse s = .ok k ↔ normal K s.toList = spelled k :=
    parse_eq_ok_iff.trans coherent.ofText?_eq_some_iff
  have parses_iff (s : String) :
      Parses K s ↔ normal K s.toList ∈ (allowed K).map String.toList := by
    rw [coherent.mem_allowed_iff, Parses]
    exact exists_congr fun k => ok_iff s k
  refine ⟨ok_iff, parses_iff, fun s unread => ?_, fun text => ?_⟩
  · rw [parse]
    cases read : ofText? (K := K) s with
    | none => rfl
    | some k => exact absurd ⟨k, parse_eq_ok_iff.mpr read⟩ unread
  · constructor
    · intro member
      have same := coherent.normal_eq text member
      refine ⟨(parses_iff text).mpr ?_, same⟩
      rw [same]
      exact List.mem_map_of_mem member
    · rintro ⟨parses, same⟩
      obtain ⟨other, member, spelling⟩ := List.mem_map.mp (same ▸ (parses_iff text).mp parses)
      rwa [← String.toList_inj.mp spelling]

/-- Where only white space around a text does not count, no spelling with white space in it is
read. -/
theorem ReadBy.solid_trim (h : ReadBy K (fun cs => lower (trim cs)) spelled)
    (solid : ∀ text ∈ allowed K, Solid text.toList) (parses : Parses K s) :
    Solid (trim s.toList) := by
  obtain ⟨text, member, same⟩ := List.mem_map.mp ((h.parses_iff s).mp parses)
  have letters := solid text member
  rw [same] at letters
  exact letters.of_lower

/-! ### The kinds of keywords -/

/-- The last word that is written for a keyword, without capitals. -/
def lastWord (k : K) : List Char :=
  lower ((words (sql k).toList).getLastD [])

end

theorem coherent_direction : Coherent Direction lastWord where
  listed := rfl
  distinct := by decide
  reads := by decide
  complete := by rintro ⟨⟩ <;> decide
  normal_eq := by decide

theorem coherent_joinKind : Coherent JoinKind lastWord where
  listed := rfl
  distinct := by decide
  reads := by decide
  complete := by rintro ⟨⟩ <;> decide
  normal_eq := by decide

theorem coherent_unionKind : Coherent UnionKind lastWord where
  listed := rfl
  distinct := by decide
  reads := by decide
  complete := by rintro ⟨⟩ <;> decide
  normal_eq := by decide

theorem coherent_operator : Coherent Operator fun op => lower op.sql.toList where
  listed := rfl
  distinct := by decide
  reads := by decide
  complete := by rintro ⟨⟩ <;> decide
  normal_eq := by decide

theorem manyWords_eq (cs : List Char) : manyWords cs = lower (squeeze (trim cs)) := by
  rw [manyWords, intercalate_words]

/-- **The texts that are read as keywords.**  An operator is what is written for it, with any white
space around it and between its words and with letters in any case.  A direction, a kind of join or
a kind of union is its spelling with white space around it and letters in any case, and has no white
space within.  Every other text is refused with a message that quotes it and lists the spellings. -/
theorem parses_exactly :
    ReadBy Operator (fun cs => lower (squeeze (trim cs))) (fun op => lower op.sql.toList) ∧
    (ReadBy Direction (fun cs => lower (trim cs)) lastWord ∧
      ReadBy JoinKind (fun cs => lower (trim cs)) lastWord ∧
      ReadBy UnionKind (fun cs => lower (trim cs)) lastWord) ∧
    (∀ s : String, Parses Direction s ∨ Parses JoinKind s ∨ Parses UnionKind s →
      Solid (trim s.toList)) ∧
    ∀ (op : Operator) (list : List (List Char)) (s : String), Spaced list s.toList →
      list.map lower = (words op.sql.toList).map lower → parse s = .ok op := by
  have operators : ReadBy Operator (fun cs => lower (squeeze (trim cs)))
      (fun op => lower op.sql.toList) := by
    rw [← funext manyWords_eq]
    exact coherent_operator.readBy
  have directions := coherent_direction.readBy
  have joins := coherent_joinKind.readBy
  have unions := coherent_unionKind.readBy
  refine ⟨operators, ⟨directions, joins, unions⟩, ?_, ?_⟩
  · rintro s (direction | join | union)
    · exact directions.solid_trim (by decide) direction
    · exact joins.solid_trim (by decide) join
    · exact unions.solid_trim (by decide) union
  · intro op list s spaced same
    have plain : squeeze (trim op.sql.toList) = op.sql.toList := by cases op <;> decide
    rw [operators.ok_iff, spaced.squeeze_trim, lower_intercalate, same, ← lower_intercalate,
      intercalate_words, plain]

/-- What is written for an operator and a kind of join, in another case and with white space of
other alphabets; and what is written for an outer join is not how it is spelled. -/
theorem parses_exactly_spaced :
    parse "\u2003nOt\t\u00a0IN\r\n" = .ok Operator.notIn ∧
    Solid (trim "\u3000Left ".toList) ∧
    parse (K := JoinKind) "FULL OUTER" = .error (.invalidKeyword "join type" "FULL OUTER"
      ["inner", "left", "right", "outer", "cross"]) := by
  obtain ⟨-, ⟨-, joins, -⟩, solid, reads⟩ := parses_exactly
  have first : IsWord "nOt".toList := ⟨by decide, by decide⟩
  have second : IsWord "IN".toList := ⟨by decide, by decide⟩
  have spaced : Spaced ["nOt".toList, "IN".toList] "\u2003nOt\t\u00a0IN\r\n".toList :=
    .word ['\u2003'] (by decide) first (by decide)
      (.word ['\t', '\u00a0'] (by decide) second (by decide) (.blank (by decide)))
  refine ⟨reads .notIn _ _ spaced (by decide), ?_, joins.refused _ ?_⟩
  · exact solid _ (.inr (.inl ((joins.parses_iff _).mpr (by decide))))
  · rw [joins.parses_iff]
    decide

end Keyword
end SqlBuilder
