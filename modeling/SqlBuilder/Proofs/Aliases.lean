import Mathlib.Data.List.Infix
import Mathlib.Data.List.TakeWhile
import SqlBuilder.Text.Alias

/-! # Names with an alias in one text

A text is not blank (`Text.Shown`) when it holds a character that is no white space, and `Padded`
when it is another text with white space around it.  Trimming takes away just the padding: a text
is its trimmed form padded (`padded_trim`), and padding a text does not change what it is trimmed to
(`Padded.trim_eq`).  Everything else about trimming follows from these two.

An aliased name is cut at the last ` as `, whatever its case.  Where that is the one between a name
and an alias, the two are read back (`splitAlias_joined`): no later one may be in the alias, nor
begin with the space in front of it.
-/
namespace SqlBuilder
namespace Text

/-! ### White space at the ends -/

/-- A text that is white space and nothing else. -/
def AllBlank (cs : List Char) : Prop :=
  ∀ c ∈ cs, isBlank c = true

/-- A text that is not blank. -/
def Shown (cs : List Char) : Prop :=
  ∃ c ∈ cs, isBlank c = false

/-- A text without white space. -/
def Solid (cs : List Char) : Prop :=
  ∀ c ∈ cs, isBlank c = false

-- going through the characters of the text, and not through all characters there are
instance (cs : List Char) : Decidable (AllBlank cs) :=
  List.decidableBAll (fun c => isBlank c = true) cs

instance (cs : List Char) : Decidable (Shown cs) :=
  List.decidableBEx (fun c => isBlank c = false) cs

instance (cs : List Char) : Decidable (Solid cs) :=
  List.decidableBAll (fun c => isBlank c = false) cs

/-- A text with white space around it. -/
def Padded (core text : List Char) : Prop :=
  ∃ before after, AllBlank before ∧ AllBlank after ∧ text = before ++ core ++ after

theorem not_shown_iff {cs : List Char} : ¬ Shown cs ↔ AllBlank cs := by
  simp [Shown, AllBlank]

theorem Shown.append_left {cs : List Char} (h : Shown cs) (before : List Char) :
    Shown (before ++ cs) := by
  obtain ⟨c, member, shown⟩ := h
  exact ⟨c, List.mem_append_right before member, shown⟩

theorem dropWhile_ne_nil_of_shown {cs : List Char} (h : Shown cs) : cs.dropWhile isBlank ≠ [] := by
  intro nil
  exact not_shown_iff.mpr (List.dropWhile_eq_nil_iff.mp nil) h

theorem shown_reverse_iff {cs : List Char} : Shown cs.reverse ↔ Shown cs := by
  simp [Shown]

theorem trimStart_append_of_blank {before : List Char} (blank : AllBlank before)
    (cs : List Char) : trimStart (before ++ cs) = trimStart cs := by
  rw [trimStart, List.dropWhile_append_of_pos blank, trimStart]

theorem trimEnd_append_of_blank {after : List Char} (blank : AllBlank after) (cs : List Char) :
    trimEnd (cs ++ after) = trimEnd cs := by
  have reversed : ∀ c ∈ after.reverse, isBlank c = true := fun c member =>
    blank c (List.mem_reverse.mp member)
  rw [trimEnd, List.reverse_append, List.dropWhile_append_of_pos reversed, trimEnd]

theorem trimStart_of_blank {cs : List Char} (blank : AllBlank cs) : trimStart cs = [] :=
  List.dropWhile_eq_nil_iff.mpr blank

/-- What is behind a text that is not blank is not looked at from the front. -/
theorem trimStart_append_of_shown {cs : List Char} (h : Shown cs) (after : List Char) :
    trimStart (cs ++ after) = trimStart cs ++ after := by
  have more : ¬ (cs.dropWhile isBlank).isEmpty = true := by
    simpa using dropWhile_ne_nil_of_shown h
  rw [trimStart, List.dropWhile_append, if_neg more, trimStart]

/-- What is in front of a text that is not blank is not looked at from the end. -/
theorem trimEnd_append_of_shown {cs : List Char} (h : Shown cs) (before : List Char) :
    trimEnd (before ++ cs) = before ++ trimEnd cs := by
  have reversed := trimStart_append_of_shown (shown_reverse_iff.mpr h) before.reverse
  rw [trimStart, trimStart] at reversed
  rw [trimEnd, List.reverse_append, reversed, List.reverse_append, List.reverse_reverse, trimEnd]

theorem trimStart_split (cs : List Char) :
    AllBlank (cs.takeWhile isBlank) ∧ cs = cs.takeWhile isBlank ++ trimStart cs :=
  ⟨fun _ member => List.mem_takeWhile_imp member, List.takeWhile_append_dropWhile.symm⟩

theorem trimEnd_split (cs : List Char) :
    ∃ after, AllBlank after ∧ cs = trimEnd cs ++ after := by
  obtain ⟨blank, whole⟩ := trimStart_split cs.reverse
  refine ⟨(cs.reverse.takeWhile isBlank).reverse,
    fun c member => blank c (List.mem_reverse.mp member), ?_⟩
  have reversed := congrArg List.reverse whole
  rwa [List.reverse_append, List.reverse_reverse] at reversed

/-- A text is its trimmed form with white space around it. -/
theorem padded_trim (cs : List Char) : Padded (trim cs) cs := by
  obtain ⟨before, first⟩ := trimStart_split cs
  obtain ⟨after, blank, last⟩ := trimEnd_split (trimStart cs)
  refine ⟨cs.takeWhile isBlank, after, before, blank, ?_⟩
  rw [trim, List.append_assoc, ← last, ← first]

/-- **White space around a text** does not change what it is trimmed to. -/
theorem Padded.trim_eq {core text : List Char} (h : Padded core text) : trim text = trim core := by
  obtain ⟨before, after, blankBefore, blankAfter, rfl⟩ := h
  rw [trim, List.append_assoc, trimStart_append_of_blank blankBefore]
  by_cases shown : Shown core
  · rw [trimStart_append_of_shown shown, trimEnd_append_of_blank blankAfter, trim]
  · -- a blank text leaves nothing at all
    have blankCore : AllBlank core := not_shown_iff.mp shown
    rw [trimStart_append_of_blank blankCore, trimStart_of_blank blankAfter, trim,
      trimStart_of_blank blankCore]

@[simp] theorem trim_trim (cs : List Char) : trim (trim cs) = trim cs :=
  (padded_trim cs).trim_eq.symm

theorem trim_trimStart (cs : List Char) : trim (trimStart cs) = trim cs := by
  obtain ⟨blank, whole⟩ := trimStart_split cs
  have padded : Padded (trimStart cs) cs :=
    ⟨_, [], blank, nofun, by rw [List.append_nil, ← whole]⟩
  exact padded.trim_eq.symm

theorem trim_trimEnd (cs : List Char) : trim (trimEnd cs) = trim cs := by
  obtain ⟨after, blank, whole⟩ := trimEnd_split cs
  have padded : Padded (trimEnd cs) cs := ⟨[], after, nofun, blank, whole⟩
  exact padded.trim_eq.symm

theorem trim_eq_nil_iff {cs : List Char} : trim cs = [] ↔ AllBlank cs := by
  constructor
  · intro nil
    obtain ⟨before, after, blankBefore, blankAfter, whole⟩ := padded_trim cs
    intro c member
    rw [whole, nil, List.append_nil, List.mem_append] at member
    exact member.elim (blankBefore c) (blankAfter c)
  · intro blank
    rw [trim, trimStart_of_blank blank]
    rfl

theorem trim_ne_nil_iff {cs : List Char} : trim cs ≠ [] ↔ Shown cs := by
  rw [ne_eq, trim_eq_nil_iff, ← not_shown_iff, not_not]

theorem length_trim_le (cs : List Char) : (trim cs).length ≤ cs.length := by
  obtain ⟨before, after, -, -, whole⟩ := padded_trim cs
  have length := congrArg List.length whole
  rw [List.length_append, List.length_append] at length
  omega

/-- There is no white space around a trimmed text. -/
theorem Padded.length_le {core text : List Char} (h : Padded core text)
    (trimmed : trim text = text) : text.length ≤ core.length := by
  rw [← trimmed, h.trim_eq]
  exact length_trim_le core

/-- A text without white space is its own trimmed form. -/
theorem trim_of_solid {cs : List Char} (solid : Solid cs) : trim cs = cs := by
  have nothing : ∀ part, AllBlank part → part ⊆ cs → part = [] := by
    intro part blank inside
    refine List.eq_nil_iff_forall_not_mem.mpr fun c member => ?_
    have shown := solid c (inside member)
    rw [blank c member] at shown
    cases shown
  obtain ⟨before, after, blankBefore, blankAfter, whole⟩ := padded_trim cs
  have first : before = [] := nothing before blankBefore (by rw [whole]; simp)
  have last : after = [] := nothing after blankAfter (by rw [whole]; simp)
  rw [first, last, List.nil_append, List.append_nil] at whole
  exact whole.symm

/-! ### The last ` as ` -/

/-- The word between a name and an alias, in small letters. -/
def asWord : List Char := [' ', 'a', 's', ' ']

/-- Only the space has the space as its small form. -/
theorem toLower_eq_space_iff {c : Char} : c.toLower = ' ' ↔ c = ' ' := by
  constructor
  · intro low
    rcases toLower_cases c with ⟨least, -, value⟩ | same
    · -- the small form of a capital letter comes far behind the space
      rw [low, show ' '.toNat = 32 from rfl] at value
      omega
    · rw [← same, low]
  · rintro rfl
    rfl

theorem lower_eq_asWord_iff {joiner : List Char} : lower joiner = asWord ↔
    ∃ a s, a.toLower = 'a' ∧ s.toLower = 's' ∧ joiner = [' ', a, s, ' '] := by
  constructor
  · intro word
    obtain _ | ⟨first, _ | ⟨a, _ | ⟨s, _ | ⟨last, _ | ⟨more, rest⟩⟩⟩⟩⟩ := joiner <;>
      simp [lower, asWord] at word
    obtain ⟨first', ha, hs, last'⟩ := word
    exact ⟨a, s, ha, hs, by
      rw [toLower_eq_space_iff.mp first', toLower_eq_space_iff.mp last']⟩
  · rintro ⟨a, s, ha, hs, rfl⟩
    simp [lower, asWord, ha, hs]

/-- What follows an ` as ` at the head is what is left behind it. -/
theorem afterAs?_eq_some_iff {cs rest : List Char} : afterAs? cs = some rest ↔
    ∃ joiner, lower joiner = asWord ∧ cs = joiner ++ rest := by
  constructor
  · intro found
    unfold afterAs? at found
    split at found
    · next a s tail =>
      split at found
      · next letters =>
        cases found
        exact ⟨[' ', a, s, ' '], lower_eq_asWord_iff.mpr ⟨a, s, letters.1, letters.2, rfl⟩, rfl⟩
      · cases found
    · cases found
  · rintro ⟨joiner, word, rfl⟩
    obtain ⟨a, s, ha, hs, rfl⟩ := lower_eq_asWord_iff.mp word
    exact if_pos ⟨ha, hs⟩

theorem afterAs?_eq_none_iff {cs : List Char} : afterAs? cs = none ↔ ¬ asWord <+: lower cs := by
  rw [← not_iff_not, not_not, ← ne_eq, Option.ne_none_iff_exists']
  constructor
  · rintro ⟨rest, found⟩
    obtain ⟨joiner, word, rfl⟩ := afterAs?_eq_some_iff.mp found
    exact ⟨lower rest, by rw [lower_append, word]⟩
  · rintro ⟨rest, whole⟩
    obtain ⟨joiner, tail, rfl, word, -⟩ := List.map_eq_append_iff.mp whole.symm
    exact ⟨tail, afterAs?_eq_some_iff.mpr ⟨joiner, word, rfl⟩⟩

/-- A text is not cut exactly if there is no ` as ` in it. -/
theorem cutLastAs_eq_none_iff {cs : List Char} :
    cutLastAs cs = none ↔ ¬ asWord <:+: lower cs := by
  induction cs with
  | nil => simp [cutLastAs, lower, asWord]
  | cons c cs ih =>
    have infixes : asWord <:+: lower (c :: cs) ↔
        asWord <+: lower (c :: cs) ∨ asWord <:+: lower cs := List.infix_cons_iff
    rw [infixes, not_or, ← afterAs?_eq_none_iff, ← ih, cutLastAs]
    cases cutLastAs cs with
    | none => simp
    | some cut => simp

/-- **Where a text is cut:** at an ` as ` behind which no other one begins, not even with its last
space. -/
theorem cutLastAs_of_last {joiner after : List Char} (word : lower joiner = asWord)
    (last : ¬ asWord <:+: lower (' ' :: after)) (before : List Char) :
    cutLastAs (before ++ joiner ++ after) = some (before, after) := by
  induction before with
  | nil =>
    obtain ⟨a, s, ha, hs, rfl⟩ := lower_eq_asWord_iff.mp word
    -- neither of the two letters is a space with which another one could begin
    have letters : cutLastAs (a :: s :: ' ' :: after) = none := by
      refine cutLastAs_eq_none_iff.mpr fun inside => ?_
      rcases List.infix_cons_iff.mp inside with first | inside
      · rw [List.map_cons, ha] at first
        exact absurd (List.cons_prefix_cons.mp first).1 (by decide)
      · rcases List.infix_cons_iff.mp inside with first | inside
        · rw [hs] at first
          exact absurd (List.cons_prefix_cons.mp first).1 (by decide)
        · exact last inside
    have here : afterAs? (' ' :: a :: s :: ' ' :: after) = some after := if_pos ⟨ha, hs⟩
    show cutLastAs (' ' :: a :: s :: ' ' :: after) = _
    rw [cutLastAs, letters, here]
    rfl
  | cons c before ih =>
    rw [List.cons_append, List.cons_append, cutLastAs, ih]

/-! ### Aliases -/

/-- White space around a text does not matter for its alias. -/
theorem Padded.splitAlias_eq {core text : List Char} (h : Padded core text) :
    splitAlias text = splitAlias core := by
  rw [splitAlias, h.trim_eq, splitAlias]

theorem splitAlias_trim (cs : List Char) : splitAlias (trim cs) = splitAlias cs :=
  (padded_trim cs).splitAlias_eq.symm

/-- **A name and an alias are read back** from the text that has them with ` as ` between, in any
case, unless a later ` as ` begins in the alias or with the space in front of it. -/
theorem splitAlias_joined {name label joiner : List Char} (named : Shown name)
    (labelled : Shown label) (word : lower joiner = asWord)
    (last : ¬ asWord <:+: lower (' ' :: label)) :
    splitAlias (name ++ joiner ++ label) = (trim name, some (trim label)) := by
  have text : trim (name ++ joiner ++ label) = trimStart name ++ joiner ++ trimEnd label := by
    rw [trim, List.append_assoc, trimStart_append_of_shown named, ← List.append_assoc,
      trimEnd_append_of_shown labelled]
  -- what the end loses cannot make a later one
  have still : ¬ asWord <:+: lower (' ' :: trimEnd label) := by
    obtain ⟨after, -, whole⟩ := trimEnd_split label
    intro inside
    refine last (inside.trans ?_)
    conv_rhs => rw [whole, ← List.cons_append, lower_append]
    exact (List.prefix_append _ _).isInfix
  have more : (trim label).isEmpty = false := by
    simpa using trim_ne_nil_iff.mpr labelled
  rw [splitAlias, text, cutLastAs_of_last word still]
  simp only [trim_trimStart, trim_trimEnd, more]
  rfl

end Text
end SqlBuilder
