import SqlBuilder.Proofs.Piece
import SqlBuilder.Proofs.Scan

/-! # Identifiers read back

An identifier is quoted segment by segment: what stands between two dots is trimmed and put in
quotes, and a segment that is `*` stays bare.  Nothing of it is lost.  `Identifier.read?` reads the
quoted text as a database does (`Token.scan`) and takes what it reads for segments between dots.

Reading undoes quoting for every identifier and every quote but the two characters that have a
meaning outside of quotes (`Identifier.read?_quoteChars`).  So the quoted text says which segments
there are, no more and no less (`Dialect.quoteIdentifier_reversible`).
-/
namespace SqlBuilder
namespace Identifier

/-! ### Reading segments -/

/-- The segment that a token stands for: a bare `*` for itself, and a region for any other. -/
def ofToken? : Token → Option (List Char)
  | .plain c => if c = '*' then some ['*'] else none
  | .region content => if content = ['*'] then none else some content

/-- The segments that tokens stand for, if there is a dot between each two of them. -/
def ofTokens? : List Token → Option (List (List Char))
  | [] => none
  | [token] => (ofToken? token).map ([·])
  | token :: dot :: tokens =>
    if dot = .plain '.' then
      (ofToken? token).bind fun segment => (ofTokens? tokens).map (segment :: ·)
    else none

/-- The segments of an identifier, read from its quoted text. -/
def read? (q : Char) (text : List Char) : Option (List (List Char)) :=
  (Token.scan q .outside text).bind ofTokens?

theorem ofToken?_token (segment : List Char) : ofToken? (token segment) = some segment := by
  rw [token]
  by_cases star : segment = ['*']
  · rw [if_pos star, ofToken?, if_pos rfl, star]
  · rw [if_neg star, ofToken?, if_neg star]

/-- What segments are read as stands for just these segments. -/
theorem ofTokens?_intercalate {segments : List (List Char)} (nonempty : segments ≠ []) :
    ofTokens? ([Token.plain '.'].intercalate (segments.map fun segment => [token segment]))
      = some segments := by
  induction segments with
  | nil => exact absurd rfl nonempty
  | cons segment segments ih =>
    cases segments with
    | nil =>
      rw [List.map_singleton, List.intercalate_singleton, ofTokens?, ofToken?_token]
      rfl
    | cons next segments =>
      have rest := ih (List.cons_ne_nil _ _)
      rw [List.map_cons, List.map_cons, List.intercalate_cons_cons]
      rw [List.map_cons] at rest
      rw [List.append_assoc, List.singleton_append, List.singleton_append, ofTokens?, if_pos rfl,
        ofToken?_token, rest]
      rfl

theorem ofTokens?_tokens (identifier : List Char) :
    ofTokens? (tokens identifier) = some (segments identifier) :=
  ofTokens?_intercalate (by simp [segments])

/-- **Reading undoes quoting.** -/
theorem read?_quoteChars {q : Char} (dot : q ≠ '.') (star : q ≠ '*') (identifier : List Char) :
    read? q (Dialect.quoteChars q identifier) = some (segments identifier) := by
  rw [read?, (reads_quoteChars dot star identifier).scan_eq, Option.bind_some, ofTokens?_tokens]

/-- The quoted text depends on the segments alone. -/
theorem quoteChars_eq_of_segments {q : Char} {first second : List Char}
    (same : segments first = segments second) :
    Dialect.quoteChars q first = Dialect.quoteChars q second := by
  have written (identifier : List Char) : (identifier.splitOn '.').map (Dialect.writeSegment q)
      = (segments identifier).map fun text =>
        if text = ['*'] then text else Dialect.quoteSegment q text := by
    rw [segments, List.map_map]
    rfl
  rw [Dialect.quoteChars, written, same, ← written, Dialect.quoteChars]

end Identifier

/-! ### Names with dots -/

/-- **Quoting goes along with dots**, whatever stands on their two sides. -/
theorem Dialect.quoteChars_dot (quote : Char) (before after : List Char) :
    quoteChars quote (before ++ '.' :: after)
      = quoteChars quote before ++ '.' :: quoteChars quote after := by
  have some (cs : List Char) : (cs.splitOn '.').map (writeSegment quote) ≠ [] := by
    simp [List.splitOn_ne_nil]
  rw [quoteChars, List.splitOn_append_cons_self, List.map_append,
    intercalate_append_lists _ (some before) (some after), List.append_assoc, quoteChars,
    quoteChars]
  rfl

theorem Dialect.quoteIdentifier_dot (d : Dialect) (before after : List Char) :
    d.quoteIdentifier (String.ofList (before ++ '.' :: after))
      = d.quoteIdentifier (String.ofList before) ++ "."
        ++ d.quoteIdentifier (String.ofList after) := by
  rw [← String.toList_inj]
  simp [quoteIdentifier, quoteChars_dot]

/-- **A quoted identifier can be read back.**  It is read as its trimmed segments with dots between
them, a bare `*` for the segment `*` and a region for every other, and so two identifiers have one
quoted text exactly if they have the same trimmed segments.  A dot between two identifiers stays a
dot between their quoted texts. -/
theorem Dialect.quoteIdentifier_reversible (d : Dialect) (dot : d.quote ≠ '.')
    (star : d.quote ≠ '*') :
    (∀ identifier : String,
      Token.scan d.quote .outside (d.quoteIdentifier identifier).toList
        = some ([Token.plain '.'].intercalate
            ((Identifier.segments identifier.toList).map fun segment =>
              [if segment = ['*'] then Token.plain '*' else Token.region segment])) ∧
      Identifier.read? d.quote (d.quoteIdentifier identifier).toList
        = some (Identifier.segments identifier.toList)) ∧
    (∀ first second : String, d.quoteIdentifier first = d.quoteIdentifier second ↔
      Identifier.segments first.toList = Identifier.segments second.toList) ∧
    ∀ before after : String, d.quoteIdentifier (before ++ "." ++ after)
      = d.quoteIdentifier before ++ "." ++ d.quoteIdentifier after := by
  have text (identifier : String) : (d.quoteIdentifier identifier).toList
      = quoteChars d.quote identifier.toList := String.toList_ofList
  have read (identifier : String) : Identifier.read? d.quote (d.quoteIdentifier identifier).toList
      = some (Identifier.segments identifier.toList) := by
    rw [text, Identifier.read?_quoteChars dot star]
  refine ⟨fun identifier => ⟨?_, read identifier⟩, fun first second => ?_, fun before after => ?_⟩
  · rw [text]
    exact (Identifier.reads_quoteChars dot star identifier.toList).scan_eq
  · constructor
    · intro same
      have recovered := read first
      rw [same, read second] at recovered
      exact (Option.some.inj recovered).symm
    · intro same
      rw [quoteIdentifier, Identifier.quoteChars_eq_of_segments same, quoteIdentifier]
  · have whole : before ++ "." ++ after
        = String.ofList (before.toList ++ '.' :: after.toList) := by
      rw [← String.toList_inj]
      simp
    rw [whole, quoteIdentifier_dot, String.ofList_toList, String.ofList_toList]

/-- A segment of quotes alone, an empty one and a star, and the same segments with white space. -/
theorem Dialect.quoteIdentifier_reversible_postgres :
    Dialect.postgres.quote ≠ '.' ∧ Dialect.postgres.quote ≠ '*' ∧
      Dialect.postgres.quoteIdentifier " \"\" ..* " = "\"\"\"\"\"\".\"\".*" ∧
      Identifier.read? '"' "\"\"\"\"\"\".\"\".*".toList = some [['"', '"'], [], ['*']] ∧
      Dialect.postgres.quoteIdentifier " \"\" ..* "
        = Dialect.postgres.quoteIdentifier "\"\"" ++ "."
          ++ Dialect.postgres.quoteIdentifier ".*" := by
  have dot : Dialect.postgres.quote ≠ '.' := by decide
  have star : Dialect.postgres.quote ≠ '*' := by decide
  obtain ⟨read, alike, dotted⟩ := quoteIdentifier_reversible .postgres dot star
  refine ⟨dot, star, by decide, (read " \"\" ..* ").2, ?_⟩
  rw [← dotted "\"\"" ".*"]
  exact (alike _ _).mpr (by decide)

end SqlBuilder
