import SqlBuilder.Proofs.Aliases
import SqlBuilder.Proofs.ByteOrder

/-! # Places in bytes

A text can be cut at a place that is counted in bytes, but only between two of its characters; a
place inside of a character is an error.  The place of an alias is found in a copy of the text
without capitals, and the text itself is cut there.  That is safe for two reasons.  A letter with a
case has one byte in either case, so that the copy has its characters at the same places
(`Text.length_utf8_lower`).  And a word is found between characters only, because no character
begins inside of another one (`Text.exists_of_utf8_drop`).

So the last place of ` as ` in bytes is where `cutLastAs` cuts (`Text.cut_of_isLastPlace`), and what
it leaves on both sides is never blank (`Text.splitAlias_cuts`).
-/
namespace SqlBuilder
namespace Text

/-! ### Words in bytes -/

/-- The bytes of characters in UTF-8. -/
def utf8 (cs : List Char) : List UInt8 :=
  cs.flatMap String.utf8EncodeChar

theorem bytes_ofList (cs : List Char) : bytes (String.ofList cs) = utf8 cs := by
  rw [bytes_eq, String.toList_ofList, utf8]

theorem utf8_cons (c : Char) (cs : List Char) :
    utf8 (c :: cs) = String.utf8EncodeChar c ++ utf8 cs := List.flatMap_cons

@[simp] theorem utf8_append (cs ds : List Char) : utf8 (cs ++ ds) = utf8 cs ++ utf8 ds :=
  List.flatMap_append

/-- A text whose bytes begin with those of a word begins with the word. -/
theorem isPrefix_of_utf8 {word cs : List Char} (first : utf8 word <+: utf8 cs) : word <+: cs := by
  obtain ⟨rest, whole⟩ := first
  refine List.isPrefix_of_utf8Encode_append_eq_utf8Encode rest.toByteArray ?_
  rw [utf8, utf8] at whole
  rw [List.utf8Encode, List.utf8Encode, ← whole]
  simp

/-- A character does not begin inside of another one. -/
theorem eq_zero_of_utf8_drop {c : Char} {word : List Char} {rest : List UInt8} {place : Nat}
    (nonempty : word ≠ []) (inside : place < (String.utf8EncodeChar c).length)
    (found : utf8 word <+: (String.utf8EncodeChar c ++ rest).drop place) : place = 0 := by
  obtain ⟨first, others, rfl⟩ := List.exists_cons_of_ne_nil nonempty
  have size : 0 < (String.utf8EncodeChar first).length := by
    rw [String.length_utf8EncodeChar]
    exact first.utf8Size_pos
  have front : String.utf8EncodeChar first <+: (String.utf8EncodeChar c ++ rest).drop place := by
    rw [utf8_cons] at found
    exact (List.prefix_append _ _).trans found
  -- the byte at the place is the first one of the word
  have same : (String.utf8EncodeChar c)[place] = (String.utf8EncodeChar first)[0] := by
    rw [front.getElem size, List.getElem_drop, List.getElem_append_left (by omega)]
    rfl
  have starts : (String.utf8EncodeChar c)[place].IsUTF8FirstByte := by
    rw [same]
    exact UInt8.isUTF8FirstByte_getElem_zero_utf8EncodeChar
  exact UInt8.isUTF8FirstByte_getElem_utf8EncodeChar.mp starts

/-- **A word is found between characters only:** where its bytes stand in those of a text, the word
stands in the text. -/
theorem exists_of_utf8_drop {word cs : List Char} (nonempty : word ≠ []) {place : Nat}
    (found : utf8 word <+: (utf8 cs).drop place) :
    ∃ before after, cs = before ++ word ++ after ∧ (utf8 before).length = place := by
  induction cs generalizing place with
  | nil =>
    obtain ⟨first, others, rfl⟩ := List.exists_cons_of_ne_nil nonempty
    have empty : utf8 (first :: others) = [] := by
      rw [show utf8 [] = [] from rfl, List.drop_nil] at found
      exact List.prefix_nil.mp found
    rw [utf8_cons] at empty
    exact absurd (List.append_eq_nil_iff.mp empty).1 String.utf8EncodeChar_ne_nil
  | cons c cs ih =>
    by_cases inside : place < (String.utf8EncodeChar c).length
    · obtain rfl := eq_zero_of_utf8_drop nonempty inside (utf8_cons c cs ▸ found)
      obtain ⟨after, whole⟩ := isPrefix_of_utf8 found
      exact ⟨[], after, whole.symm, rfl⟩
    · have beyond : (String.utf8EncodeChar c).length ≤ place := by omega
      rw [utf8_cons, List.drop_append, List.drop_of_length_le beyond, List.nil_append] at found
      obtain ⟨before, after, rfl, size⟩ := ih found
      refine ⟨c :: before, after, rfl, ?_⟩
      rw [utf8_cons, List.length_append, size]
      omega

/-- A letter with a case has one byte. -/
theorem utf8Size_toLower (c : Char) : c.toLower.utf8Size = c.utf8Size := by
  have ascii {d : Char} (small : d.toNat ≤ 127) : d.utf8Size = 1 :=
    Char.utf8Size_eq_one_iff.mpr (UInt32.le_iff_toNat_le.mpr small)
  rcases toLower_cases c with ⟨-, greatest, value⟩ | same
  · rw [ascii (by omega), ascii (by omega)]
  · rw [same]

theorem length_utf8_lower (cs : List Char) : (utf8 (lower cs)).length = (utf8 cs).length := by
  induction cs with
  | nil => rfl
  | cons c cs ih =>
    rw [lower_cons, utf8_cons, utf8_cons, List.length_append, List.length_append, ih,
      String.length_utf8EncodeChar, String.length_utf8EncodeChar, utf8Size_toLower]

/-! ### Cuts -/

/-- The last place, counted in bytes, at which a word stands in a text. -/
structure IsLastPlace (word text : List UInt8) (place : Nat) : Prop where
  found : word <+: text.drop place
  last : ∀ later, word <+: text.drop later → later ≤ place

theorem IsLastPlace.unique {word text : List UInt8} {place other : Nat}
    (h : IsLastPlace word text place) (h' : IsLastPlace word text other) : place = other :=
  Nat.le_antisymm (h'.last place h.found) (h.last other h'.found)

/-- What a text is cut into at a place counted in bytes, where some bytes are left out.  Both ends
of these are between two characters. -/
structure IsCut (text : String) (place size : Nat) (before after : String) : Prop where
  starts : (⟨place⟩ : String.Pos.Raw).IsValid text
  stops : (⟨place + size⟩ : String.Pos.Raw).IsValid text
  before_eq : bytes before = (bytes text).take place
  after_eq : bytes after = (bytes text).drop (place + size)

theorem bytes_append (s t : String) : bytes (s ++ t) = bytes s ++ bytes t := by
  rw [bytes_eq, bytes_eq, bytes_eq, String.toList_append, List.flatMap_append]

/-- A text that is put together is cut where its parts meet. -/
theorem isCut_append (before word after : String) :
    IsCut (before ++ word ++ after) (bytes before).length (bytes word).length before after := by
  have whole : bytes (before ++ word ++ after) = bytes before ++ (bytes word ++ bytes after) := by
    rw [bytes_append, bytes_append, List.append_assoc]
  constructor
  · refine String.Pos.Raw.isValid_iff_exists_append.mpr ⟨before, word ++ after, ?_, rfl⟩
    rw [String.append_assoc]
  · refine String.Pos.Raw.isValid_iff_exists_append.mpr ⟨before ++ word, after, rfl, ?_⟩
    rw [← List.length_append, ← bytes_append]
    rfl
  · rw [whole, List.take_left]
  · rw [whole, ← List.drop_drop, List.drop_left, List.drop_left]

/-- A text is cut at a word behind which there is no other one, not even with the last space of this
one. -/
theorem cutLastAs_eq_some {cs before after : List Char}
    (cut : cutLastAs cs = some (before, after)) :
    ∃ joiner, lower joiner = asWord ∧ cs = before ++ joiner ++ after ∧
      ¬ asWord <:+: lower (joiner.tail ++ after) := by
  induction cs generalizing before with
  | nil => cases cut
  | cons c cs ih =>
    rw [cutLastAs] at cut
    cases rest : cutLastAs cs with
    | some halves =>
      rw [rest] at cut
      cases cut
      obtain ⟨joiner, word, rfl, last⟩ := ih rest
      exact ⟨joiner, word, rfl, last⟩
    | none =>
      rw [rest] at cut
      obtain ⟨_, head, same⟩ := Option.map_eq_some_iff.mp cut
      cases same
      obtain ⟨joiner, word, whole⟩ := afterAs?_eq_some_iff.mp head
      refine ⟨joiner, word, whole, ?_⟩
      obtain ⟨a, s, -, -, rfl⟩ := lower_eq_asWord_iff.mp word
      obtain ⟨-, rfl⟩ := List.cons.inj whole
      exact cutLastAs_eq_none_iff.mp rest

/-- Such a word is the last one in bytes too. -/
theorem isLastPlace_of_cut {before joiner after : List Char} (word : lower joiner = asWord)
    (last : ¬ asWord <:+: lower (joiner.tail ++ after)) :
    IsLastPlace (utf8 asWord) (utf8 (lower (before ++ joiner ++ after))) (utf8 before).length := by
  have whole : lower (before ++ joiner ++ after) = lower before ++ asWord ++ lower after := by
    rw [lower_append, lower_append, word]
  rw [whole, ← length_utf8_lower before]
  constructor
  · rw [utf8_append, utf8_append, List.append_assoc, List.drop_left]
    exact List.prefix_append _ _
  · intro later found
    obtain ⟨other, rest, same, rfl⟩ := exists_of_utf8_drop (by decide) found
    have short : other.length ≤ (lower before).length := by
      by_contra long
      -- otherwise the other one begins behind the first character of this one
      have tail : lower joiner.tail = asWord.tail := by
        rw [lower, List.map_tail, ← lower, word]
      have here : (lower before ++ asWord ++ lower after).drop ((lower before).length + 1)
          = lower (joiner.tail ++ after) := by
        rw [List.append_assoc, ← List.drop_drop, List.drop_left, lower_append, tail]
        rfl
      have there : (other ++ asWord ++ rest).drop ((lower before).length + 1)
          = other.drop ((lower before).length + 1) ++ asWord ++ rest := by
        rw [List.append_assoc, List.drop_append_of_le_length (by omega), ← List.append_assoc]
      exact last ⟨_, _, (here.symm.trans (same ▸ there)).symm⟩
    have inside : other <+: lower before := by
      have first : other <+: lower before ++ asWord ++ lower after := by
        rw [same, List.append_assoc]
        exact List.prefix_append _ _
      have second : lower before <+: lower before ++ asWord ++ lower after := by
        rw [List.append_assoc]
        exact List.prefix_append _ _
      exact List.prefix_of_prefix_length_le first second short
    obtain ⟨more, split⟩ := inside
    rw [← split, utf8_append, List.length_append]
    omega

/-- Where a trimmed text is cut, neither part is blank. -/
theorem shown_of_cut {before joiner after : List Char} (word : lower joiner = asWord)
    (trimmed : trim (before ++ joiner ++ after) = before ++ joiner ++ after) :
    Shown before ∧ Shown after := by
  obtain ⟨a, s, ha, hs, rfl⟩ := lower_eq_asWord_iff.mp word
  -- a blank part and the space next to it would be trimmed away
  constructor
  · by_contra blank
    have padded : Padded ([a, s, ' '] ++ after) (before ++ [' ', a, s, ' '] ++ after) := by
      refine ⟨before ++ [' '], [], ?_, nofun, by simp⟩
      intro c member
      rcases List.mem_append.mp member with inside | space
      · exact not_shown_iff.mp blank c inside
      · rw [List.mem_singleton.mp space]
        decide
    have length := padded.length_le trimmed
    simp only [List.length_append, List.length_cons, List.length_nil] at length
    omega
  · by_contra blank
    have padded : Padded (before ++ [' ', a, s]) (before ++ [' ', a, s, ' '] ++ after) := by
      refine ⟨[], ' ' :: after, nofun, ?_, by simp⟩
      intro c member
      rcases List.mem_cons.mp member with space | inside
      · rw [space]
        decide
      · exact not_shown_iff.mp blank c inside
    have length := padded.length_le trimmed
    simp only [List.length_append, List.length_cons, List.length_nil] at length
    omega

/-- A trimmed text is cut with two parts left of it. -/
theorem splitAlias_of_cut {cs before joiner after : List Char}
    (cut : cutLastAs (trim cs) = some (before, after)) (word : lower joiner = asWord)
    (whole : trim cs = before ++ joiner ++ after) :
    splitAlias cs = (trim before, some (trim after)) ∧ trim before ≠ [] ∧ trim after ≠ [] := by
  have trimmed : trim (before ++ joiner ++ after) = before ++ joiner ++ after := by
    rw [← whole, trim_trim]
  obtain ⟨named, labelled⟩ := shown_of_cut word trimmed
  have more : (trim after).isEmpty = false := by
    simpa using trim_ne_nil_iff.mpr labelled
  refine ⟨?_, trim_ne_nil_iff.mpr named, trim_ne_nil_iff.mpr labelled⟩
  rw [splitAlias, cut]
  simp only [more]
  rfl

/-- The last place of the word in bytes is where the text is cut. -/
theorem cut_of_isLastPlace {cs : List Char} {place : Nat}
    (last : IsLastPlace (utf8 asWord) (utf8 (lower cs)) place) :
    ∃ before joiner after, cutLastAs cs = some (before, after) ∧ lower joiner = asWord ∧
      cs = before ++ joiner ++ after ∧ (utf8 before).length = place := by
  cases cut : cutLastAs cs with
  | none =>
    obtain ⟨before, after, whole, -⟩ := exists_of_utf8_drop (by decide) last.found
    exact absurd ⟨before, after, whole.symm⟩ (cutLastAs_eq_none_iff.mp cut)
  | some halves =>
    obtain ⟨before, after⟩ := halves
    obtain ⟨joiner, word, rfl, behind⟩ := cutLastAs_eq_some cut
    exact ⟨before, joiner, after, rfl, word, rfl, (isLastPlace_of_cut word behind).unique last⟩

theorem exists_isLastPlace_iff {cs : List Char} :
    (∃ place, IsLastPlace (utf8 asWord) (utf8 (lower cs)) place) ↔ asWord <:+: lower cs := by
  constructor
  · rintro ⟨place, last⟩
    obtain ⟨before, after, whole, -⟩ := exists_of_utf8_drop (by decide) last.found
    exact ⟨before, after, whole.symm⟩
  · intro inside
    cases cut : cutLastAs cs with
    | none => exact absurd inside (cutLastAs_eq_none_iff.mp cut)
    | some halves =>
      obtain ⟨joiner, word, rfl, behind⟩ := cutLastAs_eq_some cut
      exact ⟨_, isLastPlace_of_cut word behind⟩

/-- **A name is told from its alias** by the last ` as ` of the trimmed text, in any case: without
one the text is a name alone, and otherwise it is cut between characters, and there is a name and an
alias, both trimmed and not empty.  What is put together from a name, ` as ` and an alias is taken
apart again, unless a later ` as ` begins in the alias or with the space in front of it. -/
theorem splitAlias_cuts :
    (∀ s : String,
      let text := trimmed s
      let small := String.ofList (lower text.toList)
      (splitAlias s.toList = (text.toList, none) ↔ ¬ asWord <:+: small.toList) ∧
      ((∃ place, IsLastPlace (bytes " as ") (bytes small) place) ↔ asWord <:+: small.toList) ∧
      ∀ place, IsLastPlace (bytes " as ") (bytes small) place →
        ∃ before after, IsCut text place 4 before after ∧
          splitAlias s.toList = (trim before.toList, some (trim after.toList)) ∧
          trim before.toList ≠ [] ∧ trim after.toList ≠ []) ∧
    ∀ name joiner label text : List Char, Shown name → Shown label → lower joiner = asWord →
      ¬ asWord <:+: lower (' ' :: label) → Padded (name ++ joiner ++ label) text →
      splitAlias text = (trim name, some (trim label)) := by
  constructor
  · intro s text small
    have characters : text.toList = trim s.toList := String.toList_ofList
    have letters : small.toList = lower (trim s.toList) := by
      rw [← characters]
      exact String.toList_ofList
    have word : bytes " as " = utf8 asWord := bytes_eq _
    have smallBytes : bytes small = utf8 (lower (trim s.toList)) := by
      rw [bytes_eq, letters, utf8]
    rw [characters, letters, word, smallBytes]
    have cuts : ∀ place, IsLastPlace (utf8 asWord) (utf8 (lower (trim s.toList))) place →
        ∃ before after, IsCut text place 4 before after ∧
          splitAlias s.toList = (trim before.toList, some (trim after.toList)) ∧
          trim before.toList ≠ [] ∧ trim after.toList ≠ [] := by
      intro place last
      obtain ⟨before, joiner, after, cut, joins, whole, rfl⟩ := cut_of_isLastPlace last
      refine ⟨String.ofList before, String.ofList after, ?_, ?_⟩
      · have four : (utf8 joiner).length = 4 := by
          rw [← length_utf8_lower, joins]
          rfl
        have parts := isCut_append (String.ofList before) (String.ofList joiner)
          (String.ofList after)
        rw [bytes_ofList, bytes_ofList, four, ← String.ofList_append, ← String.ofList_append,
          ← whole] at parts
        exact parts
      · rw [String.toList_ofList, String.toList_ofList]
        exact splitAlias_of_cut cut joins whole
    refine ⟨⟨fun alone inside => ?_, fun absent => ?_⟩, exists_isLastPlace_iff, cuts⟩
    · obtain ⟨place, last⟩ := exists_isLastPlace_iff.mpr inside
      obtain ⟨before, after, -, split, -⟩ := cuts place last
      have both := congrArg Prod.snd (alone.symm.trans split)
      cases both
    · rw [splitAlias, cutLastAs_eq_none_iff.mpr absent]
  · intro name joiner label text named labelled joins last padded
    rw [padded.splitAlias_eq, splitAlias_joined named labelled joins last]

/-- Of two that share a space the last one counts, behind characters of one byte and of two. -/
theorem splitAlias_cuts_overlapping :
    let small := String.ofList (lower (trimmed "\u00e9 AS as \u00df ").toList)
    IsLastPlace (bytes " as ") (bytes small) 5 ∧
      (∃ before after, IsCut (trimmed "\u00e9 AS as \u00df ") 5 4 before after ∧
        trim before.toList = "\u00e9 AS".toList ∧ trim after.toList = ['\u00df']) ∧
      splitAlias " id  aS  as".toList = (['i', 'd'], some ['a', 's']) := by
  intro small
  have last : IsLastPlace (bytes " as ") (bytes small) 5 := by
    rw [bytes_eq, bytes_eq]
    constructor
    · decide
    · intro later found
      have near : ∀ later < 11, " as ".toList.flatMap String.utf8EncodeChar
          <+: (small.toList.flatMap String.utf8EncodeChar).drop later → later ≤ 5 := by decide
      have size : (small.toList.flatMap String.utf8EncodeChar).length = 11 := by decide
      rcases Nat.lt_or_ge later 11 with inside | beyond
      · exact near later inside found
      · rw [List.drop_eq_nil_of_le (by omega)] at found
        exact absurd (List.prefix_nil.mp found) (by decide)
  obtain ⟨texts, pairs⟩ := splitAlias_cuts
  obtain ⟨-, -, cuts⟩ := texts "\u00e9 AS as \u00df "
  obtain ⟨before, after, cut, split, -⟩ := cuts 5 last
  have parts :
      splitAlias "\u00e9 AS as \u00df ".toList = ("\u00e9 AS".toList, some ['\u00df']) := by decide
  obtain ⟨named, labelled⟩ := Prod.mk.inj (split.symm.trans parts)
  refine ⟨last, ⟨before, after, cut, named, Option.some.inj labelled⟩, ?_⟩
  exact pairs [' ', 'i', 'd', ' '] [' ', 'a', 'S', ' '] [' ', 'a', 's'] _ (by decide) (by decide)
    (by decide) (by decide) ⟨[], [], by decide, by decide, by decide⟩

end Text
end SqlBuilder
