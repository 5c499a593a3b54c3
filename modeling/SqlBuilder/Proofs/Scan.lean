import SqlBuilder.Dialect

/-! # Reading quotes back

A database that reads a statement knows only its text.  `Token.scan` reads a text as it does:
outside of quotes every character stands for itself, a quote opens a region, and the region
ends at the next quote that is not immediately doubled; a doubled quote is a quote of the
region.  A text that ends inside a region is refused.

Where one text is put behind another, the first can be read apart from the second unless a
quote at the end of the first meets a quote at the start of the second, because the two would
be read as one doubled quote.  `Reads` is therefore said of a text in front of anything that
does not start with a quote, and `Reads.append` asks the same of the second text.

An identifier in quotes is read as what it consists of (`reads_quoteChars`): the segments
between its dots, each a region of its own except for the segment `*`.
-/
namespace SqlBuilder

/-- What a text is read as, piece by piece. -/
inductive Token where
  /-- A character outside of quotes. -/
  | plain (c : Char)
  /-- What stands between two quotes, with doubled quotes undone. -/
  | region (content : List Char)
  deriving DecidableEq

namespace Token

/-- Where a reader is: outside of quotes, in a region, or behind a quote that ends the region
unless another quote follows. -/
inductive Mode where
  | outside
  | inside (content : List Char)
  | closing (content : List Char)

/-- Reads a text from left to right. -/
def scan (q : Char) : Mode → List Char → Option (List Token)
  | .outside, [] => some []
  | .inside _, [] => none
  | .closing content, [] => some [.region content]
  | .outside, c :: cs =>
    if c = q then scan q (.inside []) cs else (scan q .outside cs).map (.plain c :: ·)
  | .inside content, c :: cs =>
    if c = q then scan q (.closing content) cs else scan q (.inside (content ++ [c])) cs
  | .closing content, c :: cs =>
    if c = q then scan q (.inside (content ++ [q])) cs
    else (scan q .outside cs).map fun tokens => .region content :: .plain c :: tokens

/-- What stands in quotes. -/
def regions : List Token → List (List Char)
  | [] => []
  | .plain _ :: tokens => regions tokens
  | .region content :: tokens => content :: regions tokens

/-- What stands outside of quotes, with a mark in the place of every region. -/
def outside : List Token → List (Option Char)
  | [] => []
  | .plain c :: tokens => some c :: outside tokens
  | .region _ :: tokens => none :: outside tokens

@[simp] theorem regions_append (first second : List Token) :
    regions (first ++ second) = regions first ++ regions second := by
  induction first with
  | nil => rfl
  | cons token first ih =>
    cases token with
    | plain c => exact ih
    | region content => exact congrArg (content :: ·) ih

@[simp] theorem outside_append (first second : List Token) :
    outside (first ++ second) = outside first ++ outside second := by
  induction first with
  | nil => rfl
  | cons token first ih =>
    cases token with
    | plain c => exact congrArg (some c :: ·) ih
    | region content => exact congrArg (none :: ·) ih

@[simp] theorem regions_plain (text : List Char) : regions (text.map plain) = [] := by
  induction text with
  | nil => rfl
  | cons c text ih => exact ih

end Token

open Token

/-- A text can be read apart from anything behind it that does not start with a quote. -/
def Reads (q : Char) (text : List Char) (tokens : List Token) : Prop :=
  ∀ rest, rest.head? ≠ some q →
    scan q .outside (text ++ rest) = (scan q .outside rest).map (tokens ++ ·)

section
variable {q : Char} {first second : List Char} {read others : List Token}

theorem reads_nil : Reads q [] [] := by
  intro rest _
  cases h : scan q .outside rest <;> simp [h]

/-- A text of its own is read to the end. -/
theorem Reads.scan_eq (h : Reads q first read) : scan q .outside first = some read := by
  have whole := h [] (by simp)
  rw [List.append_nil] at whole
  rw [whole]
  simp [scan]

/-- **One text behind another**, of which the second does not start with a quote. -/
theorem Reads.append (h : Reads q first read) (h' : Reads q second others)
    (apart : second.head? ≠ some q) : Reads q (first ++ second) (read ++ others) := by
  intro rest hrest
  -- what is behind the first text starts like the second, or like the rest if that is empty
  have behind : (second ++ rest).head? ≠ some q := by
    cases second with
    | nil => exact hrest
    | cons c second => exact apart
  rw [List.append_assoc, h _ behind, h' rest hrest, Option.map_map]
  congr 1
  funext tokens
  exact (List.append_assoc ..).symm

/-- A character that is no quote keeps apart what is before it and what is behind it. -/
theorem Reads.cons (h : Reads q second others) {c : Char} (hc : c ≠ q) :
    Reads q (c :: second) (.plain c :: others) := by
  intro rest hrest
  rw [List.cons_append, scan, if_neg hc, h rest hrest, Option.map_map]
  rfl

/-- A text without quotes in front of any text. -/
theorem Reads.plain_append (h : Reads q second others) (unquoted : q ∉ first) :
    Reads q (first ++ second) (first.map .plain ++ others) := by
  induction first with
  | nil => exact h
  | cons c first ih =>
    have hc : c ≠ q := fun same => unquoted (by simp [same])
    have rest : q ∉ first := fun mem => unquoted (List.mem_cons_of_mem c mem)
    exact (ih rest).cons hc

end

/-! ### Segments in quotes -/

/-- A segment with its quotes doubled is read as that segment. -/
theorem scan_inside (q : Char) (segment content rest : List Char) :
    scan q (.inside content)
        (segment.flatMap (fun c => if c = q then [q, q] else [c]) ++ q :: rest)
      = scan q (.closing (content ++ segment)) rest := by
  induction segment generalizing content with
  | nil => simp [scan]
  | cons c segment ih =>
    by_cases hc : c = q
    · -- the first of the two quotes seems to close the region, the second reopens it
      subst hc
      simp [scan, ih]
    · simp [scan, hc, ih]

/-- A region ends where no quote follows its last. -/
theorem scan_closing {q : Char} (content : List Char) {rest : List Char}
    (h : rest.head? ≠ some q) :
    scan q (.closing content) rest = (scan q .outside rest).map (.region content :: ·) := by
  cases rest with
  | nil => rfl
  | cons c rest =>
    have hc : c ≠ q := fun same => h (congrArg some same)
    rw [scan, if_neg hc, scan, if_neg hc, Option.map_map]
    rfl

theorem reads_quoteSegment (q : Char) (segment : List Char) :
    Reads q (Dialect.quoteSegment q segment) [.region segment] := by
  intro rest hrest
  rw [Dialect.quoteSegment, List.cons_append, List.cons_append, scan, if_pos rfl,
    List.append_assoc, List.singleton_append, scan_inside, List.nil_append,
    scan_closing segment hrest]
  rfl

/-! ### Identifiers -/

namespace Identifier

/-- The segments of an identifier, trimmed. -/
def segments (identifier : List Char) : List (List Char) :=
  (identifier.splitOn '.').map Text.trim

/-- What a segment is read as. -/
def token (segment : List Char) : Token :=
  if segment = ['*'] then .plain '*' else .region segment

/-- What an identifier is read as. -/
def tokens (identifier : List Char) : List Token :=
  [Token.plain '.'].intercalate ((segments identifier).map fun segment => [token segment])

/-- The segments that stand in quotes. -/
def quoted (identifier : List Char) : List (List Char) :=
  (segments identifier).filter (· ≠ ['*'])

/-- Which of the segments are `*`. -/
def stars (identifier : List Char) : List Bool :=
  (segments identifier).map (· = ['*'])

/-- An identifier with the same segments that are `*`, and `x` for every other. -/
def outline (identifier : List Char) : List Char :=
  ['.'].intercalate ((stars identifier).map fun star => if star then ['*'] else ['x'])

theorem regions_intercalate (parts : List (List Token)) :
    Token.regions ([Token.plain '.'].intercalate parts) = parts.flatMap Token.regions := by
  induction parts with
  | nil => rfl
  | cons part parts ih =>
    cases parts with
    | nil => simp
    | cons next parts =>
      rw [List.intercalate_cons_cons, List.append_assoc, regions_append, regions_append, ih]
      rfl

theorem outside_intercalate (parts : List (List Token)) :
    Token.outside ([Token.plain '.'].intercalate parts)
      = [some '.'].intercalate (parts.map Token.outside) := by
  induction parts with
  | nil => rfl
  | cons part parts ih =>
    cases parts with
    | nil => simp
    | cons next parts =>
      rw [List.intercalate_cons_cons, List.append_assoc, outside_append, outside_append, ih]
      simp [List.intercalate_cons_cons, Token.outside]

/-- The regions of an identifier are its segments in quotes. -/
theorem regions_tokens (identifier : List Char) :
    Token.regions (tokens identifier) = quoted identifier := by
  rw [tokens, regions_intercalate, List.flatMap_map, quoted]
  induction segments identifier with
  | nil => rfl
  | cons segment segments ih =>
    rw [List.flatMap_cons, ih]
    by_cases star : segment = ['*']
    · simp [token, star, Token.regions]
    · simp [token, star, Token.regions]

/-- Outside of its quotes an identifier shows only which segments are `*`. -/
theorem outside_tokens (identifier : List Char) :
    Token.outside (tokens identifier) = [some '.'].intercalate
      ((stars identifier).map fun star => if star then [some '*'] else [none]) := by
  rw [tokens, outside_intercalate, stars, List.map_map, List.map_map]
  congr 2
  funext segment
  by_cases star : segment = ['*']
  · simp [token, star, Token.outside]
  · simp [token, star, Token.outside]

theorem segments_outline (identifier : List Char) :
    segments (outline identifier)
      = (stars identifier).map fun star => if star then ['*'] else ['x'] := by
  -- no segment of an outline has a dot in it, so splitting undoes joining
  have some : (stars identifier).map (fun star => if star then ['*'] else ['x']) ≠ [] := by
    simp [stars, segments]
  have undotted : ∀ segment ∈ (stars identifier).map fun star => if star then ['*'] else ['x'],
      '.' ∉ segment := by
    intro segment hsegment
    obtain ⟨star, -, rfl⟩ := List.mem_map.mp hsegment
    cases star <;> decide
  rw [segments, outline, List.splitOn_intercalate '.' undotted some, List.map_map]
  refine List.map_congr_left fun star _ => ?_
  cases star <;> decide

@[simp] theorem stars_outline (identifier : List Char) :
    stars (outline identifier) = stars identifier := by
  rw [stars, segments_outline, List.map_map]
  conv => rhs; rw [← List.map_id (stars identifier)]
  refine List.map_congr_left fun star _ => ?_
  cases star <;> decide

/-- An outline is never blank. -/
theorem trim_outline_ne_nil (identifier : List Char) : Text.trim (outline identifier) ≠ [] := by
  obtain ⟨star, rest, hstars⟩ : ∃ star rest, stars identifier = star :: rest :=
    List.exists_cons_of_ne_nil (by simp [stars, segments])
  have first : ∃ c, c ∈ (if star then ['*'] else ['x']) ∧ Text.isBlank c = false := by
    cases star with
    | true => exact ⟨'*', by decide⟩
    | false => exact ⟨'x', by decide⟩
  obtain ⟨c, hc, shown⟩ := first
  refine List.ne_nil_of_mem (Text.mem_trim ?_ shown)
  rw [outline, hstars, List.map_cons]
  cases rest with
  | nil => simpa using hc
  | cons next rest =>
    rw [List.map_cons, List.intercalate_cons_cons, List.append_assoc]
    exact List.mem_append_left _ hc

theorem outside_tokens_outline (identifier : List Char) :
    Token.outside (tokens (outline identifier)) = Token.outside (tokens identifier) := by
  rw [outside_tokens, stars_outline, outside_tokens]

variable {q : Char}

theorem reads_writeSegment (star : q ≠ '*') (segment : List Char) :
    Reads q (Dialect.writeSegment q segment) [token (Text.trim segment)] := by
  simp only [Dialect.writeSegment, token]
  split
  next all =>
    rw [all]
    exact reads_nil.cons (Ne.symm star)
  next => exact reads_quoteSegment q _

/-- **An identifier in quotes** is read as its segments. -/
theorem reads_quoteChars (dot : q ≠ '.') (star : q ≠ '*') (identifier : List Char) :
    Reads q (Dialect.quoteChars q identifier) (tokens identifier) := by
  rw [Dialect.quoteChars, tokens, segments, List.map_map]
  induction identifier.splitOn '.' with
  | nil => exact reads_nil
  | cons segment segments ih =>
    have first := reads_writeSegment star segment
    cases segments with
    | nil => simpa using first
    | cons next segments =>
      simp only [List.map_cons, List.intercalate_cons_cons, List.append_assoc] at ih ⊢
      exact first.append (ih.cons (Ne.symm dot)) fun h => dot (Option.some.inj h).symm

end Identifier
end SqlBuilder
