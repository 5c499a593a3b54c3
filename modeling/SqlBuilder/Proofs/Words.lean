import Mathlib.Data.List.Basic
import SqlBuilder.Proofs.Aliases

/-! # Words of a text

`words` cuts a text at every run of white space.  `Spaced` says what the words of a text are
without cutting it, and a text has one list of words in this sense, which is the one that is cut out
(`words_eq_iff`).  The words with one space between them are the text without the white space around
it and with one space for every run of white space in it (`intercalate_words`).
-/
namespace SqlBuilder
namespace Text

/-- A text without white space that is not empty. -/
structure IsWord (cs : List Char) : Prop where
  nonempty : cs ≠ []
  solid : Solid cs

/-- Words in a text, with white space between them and perhaps around them. -/
inductive Spaced : List (List Char) → List Char → Prop
  | blank {text : List Char} (blank : AllBlank text) : Spaced [] text
  | word (before : List Char) {word rest : List Char} {others : List (List Char)}
    (blank : AllBlank before) (whole : IsWord word) (gap : rest.head?.all isBlank)
    (behind : Spaced others rest) :
    Spaced (word :: others) (before ++ word ++ rest)

/-- The text with one space for every run of white space in it. -/
def squeeze : List Char → List Char
  | [] => []
  | c :: cs =>
    if isBlank c then
      if cs.head?.any isBlank then squeeze cs else ' ' :: squeeze cs
    else c :: squeeze cs

section
variable {before word rest text : List Char} {others list : List (List Char)} {c : Char}

theorem IsWord.shown (whole : IsWord word) : Shown word := by
  obtain ⟨c, cs, rfl⟩ := List.exists_cons_of_ne_nil whole.nonempty
  exact ⟨c, List.mem_cons_self, whole.solid c List.mem_cons_self⟩

/-! ### Cutting words out -/

theorem words_append_cons (first second : List Char) (blank : isBlank c = true) :
    words (first ++ c :: second) = words first ++ words second := by
  rw [words, List.splitOnP_append_cons first second blank, List.filter_append, words, words]

theorem words_cons_of_blank (blank : isBlank c = true) (cs : List Char) :
    words (c :: cs) = words cs :=
  words_append_cons [] cs blank

theorem words_append_of_blank (blank : AllBlank before) (cs : List Char) :
    words (before ++ cs) = words cs := by
  induction before with
  | nil => rfl
  | cons c before ih =>
    rw [List.cons_append, words_cons_of_blank (blank c List.mem_cons_self)]
    exact ih fun d member => blank d (List.mem_cons_of_mem c member)

theorem words_of_isWord (whole : IsWord word) : words word = [word] := by
  have nonempty : word.isEmpty = false := by simpa using whole.nonempty
  rw [words, List.splitOnP_eq_singleton whole.solid]
  simp [nonempty]

theorem words_append_word (whole : IsWord word) (gap : rest.head?.all isBlank) :
    words (word ++ rest) = word :: words rest := by
  cases rest with
  | nil => rw [List.append_nil, words_of_isWord whole, words_nil]
  | cons c rest =>
    have blank : isBlank c = true := gap
    rw [words_append_cons word rest blank, words_of_isWord whole, words_cons_of_blank blank]
    rfl

/-! ### The words that a text has -/

theorem Spaced.words_eq (h : Spaced list text) : words text = list := by
  induction h with
  | @blank text blank => rw [← List.append_nil text, words_append_of_blank blank, words_nil]
  | word before blank whole gap behind ih =>
    rw [List.append_assoc, words_append_of_blank blank, words_append_word whole gap, ih]

/-- One more character in front: white space stays outside of the words, and any other character
begins the first word or is a word of its own. -/
theorem Spaced.cons (h : Spaced list text) (c : Char) : ∃ longer, Spaced longer (c :: text) := by
  cases solid : isBlank c with
  | true =>
    cases h with
    | blank blank => exact ⟨[], .blank (List.forall_mem_cons.mpr ⟨solid, blank⟩)⟩
    | word before blank whole gap behind =>
      exact ⟨_, .word (c :: before) (List.forall_mem_cons.mpr ⟨solid, blank⟩) whole gap behind⟩
  | false =>
    have alone : IsWord [c] := ⟨List.cons_ne_nil c [], List.forall_mem_singleton.mpr solid⟩
    cases h with
    | blank blank =>
      have gap : text.head?.all isBlank := by
        cases text with
        | nil => rfl
        | cons d text => exact blank d List.mem_cons_self
      exact ⟨[[c]], .word [] nofun alone gap (.blank blank)⟩
    | @word before word rest others blank whole gap behind =>
      cases before with
      | nil =>
        have longer : IsWord (c :: word) :=
          ⟨List.cons_ne_nil c word, List.forall_mem_cons.mpr ⟨solid, whole.solid⟩⟩
        exact ⟨(c :: word) :: others, .word [] nofun longer gap behind⟩
      | cons b before =>
        have between : isBlank b = true := blank b List.mem_cons_self
        exact ⟨[c] :: word :: others, .word [] nofun alone between
          (.word (b :: before) blank whole gap behind)⟩

theorem exists_spaced (text : List Char) : ∃ list, Spaced list text := by
  induction text with
  | nil => exact ⟨[], .blank nofun⟩
  | cons c text ih =>
    obtain ⟨list, spaced⟩ := ih
    exact spaced.cons c

/-- **The words of a text** are what is in it between its white space. -/
theorem words_eq_iff : words text = list ↔ Spaced list text := by
  constructor
  · rintro rfl
    obtain ⟨list, spaced⟩ := exists_spaced text
    rw [spaced.words_eq]
    exact spaced
  · exact Spaced.words_eq

/-! ### One space for each run of white space -/

theorem squeeze_append_of_solid (solid : Solid word) (cs : List Char) :
    squeeze (word ++ cs) = word ++ squeeze cs := by
  induction word with
  | nil => rfl
  | cons c word ih =>
    obtain ⟨first, others⟩ := List.forall_mem_cons.mp solid
    rw [List.cons_append, squeeze, if_neg (by simp [first]), ih others, List.cons_append]

/-- A run of white space ends where something else begins. -/
theorem squeeze_append_of_blank (blank : AllBlank before) (nonempty : before ≠ [])
    (ends : rest.head?.any isBlank = false) :
    squeeze (before ++ rest) = ' ' :: squeeze rest := by
  induction before with
  | nil => exact absurd rfl nonempty
  | cons c before ih =>
    obtain ⟨first, others⟩ := List.forall_mem_cons.mp blank
    rw [List.cons_append, squeeze, if_pos first]
    cases before with
    | nil =>
      rw [List.nil_append, ends]
      rfl
    | cons d before =>
      have more : isBlank d = true := others d List.mem_cons_self
      rw [ih others (List.cons_ne_nil d before), List.cons_append, List.head?_cons, Option.any_some,
        if_pos more]

/-- A trimmed text does not begin with white space. -/
theorem head?_trim (text : List Char) : (trim text).head?.any isBlank = false := by
  cases whole : trim text with
  | nil => rfl
  | cons c cs =>
    rw [List.head?_cons, Option.any_some]
    by_contra blank
    have padded : Padded cs (c :: cs) := ⟨[c], [], by simpa [AllBlank] using blank, nofun, by simp⟩
    have trimmed : trim (c :: cs) = c :: cs := whole ▸ trim_trim text
    have shorter := padded.length_le trimmed
    rw [List.length_cons] at shorter
    omega

theorem IsWord.trimStart_eq (whole : IsWord word) : trimStart word = word := by
  obtain ⟨c, cs, rfl⟩ := List.exists_cons_of_ne_nil whole.nonempty
  have first : ¬ isBlank c = true := by simp [whole.solid c List.mem_cons_self]
  rw [trimStart, List.dropWhile_cons_of_neg first]

/-- The white space behind a word stays if there is more behind it. -/
theorem trim_append_of_isWord (whole : IsWord word) (shown : Shown rest) :
    trim (word ++ rest) = word ++ (rest.takeWhile isBlank ++ trim rest) := by
  obtain ⟨-, split⟩ := trimStart_split rest
  have inner : Shown (trimStart rest) := by
    rw [← trim_ne_nil_iff, trim_trimStart, trim_ne_nil_iff]
    exact shown
  rw [trim, trimStart_append_of_shown whole.shown, whole.trimStart_eq,
    trimEnd_append_of_shown shown, trim]
  conv_lhs => rw [split, trimEnd_append_of_shown inner]

theorem Spaced.shown {first : List Char} (h : Spaced (first :: others) text) : Shown text := by
  cases h with
  | word before blank whole gap behind =>
    obtain ⟨c, member, solid⟩ := whole.shown
    exact ⟨c, by simp [member], solid⟩

theorem Spaced.squeeze_trim (h : Spaced list text) :
    squeeze (trim text) = [' '].intercalate list := by
  induction h with
  | blank blank =>
    rw [trim_eq_nil_iff.mpr blank]
    rfl
  | @word before word rest others blank whole gap behind ih =>
    have front : trim (before ++ word ++ rest) = trim (word ++ rest) :=
      Padded.trim_eq ⟨before, [], blank, nofun, by simp⟩
    rw [front]
    cases others with
    | nil =>
      cases behind with
      | blank last =>
        have alone : trim (word ++ rest) = word :=
          (Padded.trim_eq ⟨[], rest, nofun, last, rfl⟩).trans (trim_of_solid whole.solid)
        have solid := squeeze_append_of_solid whole.solid []
        rw [List.append_nil] at solid
        rw [alone, solid, squeeze, List.append_nil, List.intercalate_singleton]
    | cons second others =>
      have shown : Shown rest := behind.shown
      -- what is behind the word begins with white space
      have run : rest.takeWhile isBlank ≠ [] := by
        obtain ⟨c, member, -⟩ := shown
        obtain ⟨d, cs, rfl⟩ := List.exists_cons_of_ne_nil (List.ne_nil_of_mem member)
        have blank : isBlank d = true := gap
        rw [List.takeWhile_cons_of_pos blank]
        exact List.cons_ne_nil d _
      rw [trim_append_of_isWord whole shown, squeeze_append_of_solid whole.solid,
        squeeze_append_of_blank (trimStart_split rest).1 run (head?_trim rest), ih,
        List.intercalate_cons_cons, List.append_assoc, List.singleton_append]

/-- **Words with one space between them** are the text without the white space around it and with
one space for every run of white space in it. -/
theorem intercalate_words (text : List Char) :
    [' '].intercalate (words text) = squeeze (trim text) :=
  (words_eq_iff.mp rfl).squeeze_trim.symm

end

end Text
end SqlBuilder
