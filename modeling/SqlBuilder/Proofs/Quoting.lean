import SqlBuilder.Proofs.Apart
import SqlBuilder.Proofs.Rewrite
import SqlBuilder.Proofs.Scan
import SqlBuilder.Proofs.Supplied

/-! # No identifier escapes its quotes

The text of a statement is read here as a database reads it, knowing nothing of how it was
written (`Token.scan`).  Provided that the pieces of SQL and the names of functions have no
quotes in them, this recovers the statement: the reader finds every identifier, segment by
segment, in the order in which the statement has them, and nothing else in quotes; and what
it finds outside of quotes depends on no identifier, except for which of its segments are `*`
(`Query.read_back`).  So whatever an identifier holds, it stays one.

The pieces of a statement say what is to be read (`Piece.tokens`).  That they are read in this
way rests on their being apart (`Piece.reads_render`).  Two statements that differ in their
identifiers have pieces that differ in the same places (`Query.carries_pieces`), so outside of
quotes they are read alike.
-/
namespace SqlBuilder

/-! ### The dialects have no quotes of their own -/

theorem IsQuote.ne_dot {q : Char} (hq : IsQuote q) : q ≠ '.' := by
  rcases hq with rfl | rfl <;> decide

theorem IsQuote.ne_star {q : Char} (hq : IsQuote q) : q ≠ '*' := by
  rcases hq with rfl | rfl <;> decide

theorem IsQuote.not_isDigit {q : Char} (hq : IsQuote q) : q.isDigit = false := by
  rcases hq with rfl | rfl <;> decide

theorem IsQuote.not_mem_showNat {q : Char} (hq : IsQuote q) (n : Nat) : q ∉ Text.showNat n := by
  intro hmem
  have digit := Nat.isDigit_of_mem_toDigits (by decide) (by decide) hmem
  rw [hq.not_isDigit] at digit
  cases digit

theorem not_mem_append {q : Char} {s t : String} (hs : q ∉ s.toList) (ht : q ∉ t.toList) :
    q ∉ (s ++ t).toList := by
  rw [String.toList_append, List.mem_append]
  exact not_or.mpr ⟨hs, ht⟩

namespace Dialect

section
variable {q : Char} (hq : IsQuote q)
include hq

theorem not_mem_number (n : UInt64) : q ∉ (number n).toList := by
  simpa [number] using hq.not_mem_showNat n.toNat

/-- A text of a window and the number behind it. -/
theorem not_mem_numbered {s : String} (fixed : Separates s) (n : UInt64) :
    q ∉ (s ++ number n).toList :=
  not_mem_append (fixed.unquoted hq) (not_mem_number hq n)

theorem not_mem_numbered_twice {s t : String} (fixed : Separates s) (n : UInt64)
    (fixed' : Separates t) (m : UInt64) : q ∉ (s ++ number n ++ t ++ number m).toList :=
  not_mem_append (not_mem_append (not_mem_numbered hq fixed n) (fixed'.unquoted hq))
    (not_mem_number hq m)

theorem not_mem_standardWindow : ∀ limit offset, q ∉ (standardWindow limit offset).toList
  | some limit, some offset => not_mem_numbered_twice hq (by decide) limit (by decide) offset
  | some limit, none => not_mem_numbered hq (by decide) limit
  | none, some offset => not_mem_numbered hq (by decide) offset
  | none, none => List.not_mem_nil

theorem not_mem_mysqlWindow : ∀ limit offset, q ∉ (mysqlWindow limit offset).toList
  | some limit, some offset => not_mem_numbered_twice hq (by decide) offset (by decide) limit
  | some limit, none => not_mem_numbered hq (by decide) limit
  | none, some offset => not_mem_numbered_twice hq (by decide) offset (by decide) _
  | none, none => List.not_mem_nil

theorem not_mem_sqliteWindow : ∀ limit offset, q ∉ (sqliteWindow limit offset).toList
  | some limit, some offset => not_mem_numbered_twice hq (by decide) limit (by decide) offset
  | some limit, none => not_mem_numbered hq (by decide) limit
  | none, some offset => not_mem_numbered hq (by decide) offset
  | none, none => List.not_mem_nil

end

theorem mysql_quiet : mysql.Quiet where
  quote := Or.inr rfl
  placeholder _ := (by decide : '\x60' ∉ "?".toList)
  window := not_mem_mysqlWindow (Or.inr rfl)
  ignoreHead := by decide
  ignoreTail := by decide

theorem postgres_quiet : postgres.Quiet where
  quote := Or.inl rfl
  placeholder n := by
    have digits : postgres.quote ∉ Text.showNat n := IsQuote.not_mem_showNat (Or.inl rfl) n
    exact not_mem_append (by decide) (by simpa using digits)
  window := not_mem_standardWindow (Or.inl rfl)
  ignoreHead := by decide
  ignoreTail := by decide

theorem sqlite_quiet : sqlite.Quiet where
  quote := Or.inl rfl
  placeholder _ := (by decide : '"' ∉ "?".toList)
  window := not_mem_sqliteWindow (Or.inl rfl)
  ignoreHead := by decide
  ignoreTail := by decide

/-- The dialects of the library. -/
theorem quiet_of_mem {d : Dialect} (known : d ∈ [mysql, postgres, sqlite]) : d.Quiet := by
  simp only [List.mem_cons, List.not_mem_nil, or_false] at known
  rcases known with rfl | rfl | rfl
  · exact mysql_quiet
  · exact postgres_quiet
  · exact sqlite_quiet

end Dialect

/-! ### Reading pieces -/

namespace Piece

/-- What pieces are read as when `bound` values are bound before them. -/
def tokens (d : Dialect) (bound : Nat) : List Piece → List Token
  | [] => []
  | .text s :: ps => s.toList.map .plain ++ tokens d bound ps
  | .sql s :: ps => s.toList.map .plain ++ tokens d bound ps
  | .name s :: ps => Identifier.tokens s.toList ++ tokens d bound ps
  | .value _ :: ps =>
    (d.placeholder (bound + 1)).toList.map .plain ++ tokens d (bound + 1) ps

/-- The identifiers among pieces. -/
def identifiers : List Piece → List String
  | [] => []
  | .text _ :: ps => identifiers ps
  | .sql _ :: ps => identifiers ps
  | .name s :: ps => s :: identifiers ps
  | .value _ :: ps => identifiers ps

/-- No piece of SQL has the character in it. -/
def Unquoted (q : Char) (ps : List Piece) : Prop :=
  ∀ s, .sql s ∈ ps → q ∉ s.toList

theorem head?_append_ne {q : Char} {first second : List Char} (h : first.head? ≠ some q)
    (h' : second.head? ≠ some q) : (first ++ second).head? ≠ some q := by
  cases first with
  | nil => exact h'
  | cons c first => exact h

theorem head?_ne_of_not_mem {q : Char} {cs : List Char} (h : q ∉ cs) : cs.head? ≠ some q :=
  fun same => h (List.mem_of_mem_head? same)

variable {d : Dialect}

/-- **Pieces that are apart are read one by one.**  By induction from the right; if an identifier
stands before the pieces, their text does not start with a quote. -/
theorem reads_render (quiet : d.Quiet) {ps : List Piece} {behind : Bool}
    (apart : Apart d.quote behind ps) (unquoted : Unquoted d.quote ps) (bound : Nat) :
    Reads d.quote (render d bound ps).toList (tokens d bound ps) ∧
      (behind = true → (render d bound ps).toList.head? ≠ some d.quote) := by
  induction ps generalizing behind bound with
  | nil => exact ⟨reads_nil, fun _ => by simp [render]⟩
  | cons p ps ih =>
    have rest : Unquoted d.quote ps := fun s hs => unquoted s (List.mem_cons_of_mem p hs)
    cases p with
    | text s =>
      obtain ⟨read, start⟩ := ih apart.2 rest bound
      rw [render, String.toList_append]
      refine ⟨read.plain_append apart.1, fun hbehind => ?_⟩
      -- only behind an empty text does it matter what comes next
      cases empty : s.isEmpty with
      | true =>
        have next := start (by simp [hbehind, empty])
        exact head?_append_ne (head?_ne_of_not_mem apart.1) next
      | false =>
        have plain := head?_ne_of_not_mem apart.1
        cases chars : s.toList with
        | nil => simp [String.toList_eq_nil_iff.mp chars] at empty
        | cons c cs =>
          rw [chars] at plain
          exact plain
    | sql s =>
      obtain ⟨read, start⟩ := ih apart rest bound
      have plain := unquoted s (List.mem_cons_self ..)
      rw [render, String.toList_append]
      exact ⟨read.plain_append plain, fun hbehind =>
        head?_append_ne (head?_ne_of_not_mem plain) (start hbehind)⟩
    | value v =>
      obtain ⟨read, start⟩ := ih apart rest (bound + 1)
      have plain := quiet.placeholder (bound + 1)
      rw [render, String.toList_append]
      exact ⟨read.plain_append plain, fun hbehind =>
        head?_append_ne (head?_ne_of_not_mem plain) (start hbehind)⟩
    | name s =>
      obtain ⟨read, start⟩ := ih apart.2 rest bound
      have identifier := Identifier.reads_quoteChars quiet.quote.ne_dot quiet.quote.ne_star s.toList
      rw [render, String.toList_append, Dialect.quoteIdentifier, String.toList_ofList]
      exact ⟨identifier.append read (start rfl), fun hbehind => absurd apart.1 (by simp [hbehind])⟩

/-- What is found in quotes are the identifiers, segment by segment. -/
theorem regions_tokens (ps : List Piece) (bound : Nat) :
    Token.regions (tokens d bound ps)
      = (identifiers ps).flatMap fun s => Identifier.quoted s.toList := by
  induction ps generalizing bound with
  | nil => rfl
  | cons p ps ih =>
    cases p with
    | text s => simp [tokens, identifiers, ih]
    | sql s => simp [tokens, identifiers, ih]
    | name s => simp [tokens, identifiers, ih, Identifier.regions_tokens]
    | value v => simp [tokens, identifiers, ih]

/-- The identifiers all come from the caller. -/
theorem identifiers_supplied (ps : List Piece) : identifiers (supplied ps) = identifiers ps := by
  induction ps with
  | nil => rfl
  | cons p ps ih =>
    cases p with
    | text s => exact ih
    | sql s => exact ih
    | name s => exact congrArg (s :: ·) ih
    | value v => exact ih

end Piece

/-! ### Statements alike up to their identifiers -/

/-- Every identifier as its outline, and no values. -/
def Rewriting.outline : Rewriting where
  name s := String.ofList (Identifier.outline s.toList)
  value _ := .null

/-- A statement with nothing left of its identifiers but which of their segments are `*`, and
nothing of its values. -/
def Query.outline (query : Query) : Query :=
  query.rewrite .outline

theorem Rewriting.toList_outline (s : String) :
    (Rewriting.outline.name s).toList = Identifier.outline s.toList :=
  String.toList_ofList

theorem Rewriting.outline_keepsTables : Rewriting.outline.KeepsTables := by
  intro name _
  rw [Rewriting.toList_outline]
  exact Identifier.trim_outline_ne_nil name.toList

namespace Piece

/-- Outside of quotes pieces are read as their outlines are. -/
theorem outside_tokens_outline (d : Dialect) (ps : List Piece) (bound : Nat) :
    Token.outside (tokens d bound (ps.map (outline Rewriting.outline.name)))
      = Token.outside (tokens d bound ps) := by
  induction ps generalizing bound with
  | nil => rfl
  | cons p ps ih =>
    cases p with
    | text s => simp [tokens, outline, ih]
    | sql s => simp [tokens, outline, ih]
    | name s =>
      simp [tokens, outline, ih, Rewriting.toList_outline, Identifier.outside_tokens_outline]
    | value v => simp [tokens, outline, ih]

/-- Pieces with the same outlines have the same pieces of SQL. -/
theorem Unquoted.of_outline {q : Char} {ps ps' : List Piece} {f : String → String}
    (h : Unquoted q ps) (same : ps'.map (outline f) = ps.map (outline f)) : Unquoted q ps' := by
  intro s hs
  have mem : Piece.sql s ∈ ps.map (outline f) :=
    same ▸ List.mem_map.mpr ⟨.sql s, hs, rfl⟩
  obtain ⟨p, hp, outlined⟩ := List.mem_map.mp mem
  cases p with
  | sql s' =>
    cases outlined
    exact h s hp
  | text s' => cases outlined
  | name s' => cases outlined
  | value v => cases outlined

end Piece

/-! ### Reading statements -/

/-- The identifiers of a statement, in the order of its clauses. -/
def Query.identifiers (query : Query) : List String :=
  Piece.identifiers query.supplied

theorem Query.pieces_of_compile {d : Dialect} (query : Query) {p : Prepared}
    (compiled : query.compile d = .ok p) : ∃ ps, query.pieces d = .ok ps :=
  (Query.compile_eq_ok_iff.mp compiled).imp fun _ => And.left

/-- A statement that can be written is read as its pieces are. -/
theorem Query.scan_compile {d : Dialect} (quiet : d.Quiet) {query : Query} {ps : List Piece}
    (hps : query.pieces d = .ok ps) (unquoted : Piece.Unquoted d.quote ps) {p : Prepared}
    (compiled : query.compile d = .ok p) :
    Token.scan d.quote .outside p.sql.toList = some (Piece.tokens d 0 ps) := by
  rw [Query.compile_eq, hps] at compiled
  cases compiled
  exact (Piece.reads_render quiet (query.apart_pieces quiet ps hps) unquoted 0).1.scan_eq

/-- Two statements alike up to their identifiers and values have pieces alike up to these. -/
theorem Query.outline_pieces {d : Dialect} {query query' : Query} {ps ps' : List Piece}
    (alike : query'.outline = query.outline) (hps : query.pieces d = .ok ps)
    (hps' : query'.pieces d = .ok ps') :
    ps'.map (Piece.outline Rewriting.outline.name)
      = ps.map (Piece.outline Rewriting.outline.name) := by
  obtain ⟨qs, hqs, follows⟩ := query.carries_pieces Rewriting.outline_keepsTables ps hps
  obtain ⟨qs', hqs', follows'⟩ := query'.carries_pieces Rewriting.outline_keepsTables ps' hps'
  -- both outlines are the same statement, so both lists of pieces follow to the same pieces
  have same : qs' = qs := by
    rw [Query.outline, Query.outline] at alike
    rw [alike, hqs] at hqs'
    exact (Except.ok.inj hqs').symm
  rw [← follows, ← follows', same]

/-- **No identifier escapes its quotes.**  In a dialect of the library, if a statement can be
written and its pieces of SQL and names of functions have no quotes in them, then a reader of
the text ends outside of quotes; what it finds in quotes are the segments of the identifiers of
the statement, trimmed, other than `*`, in order; and what it finds outside is the same for
every statement that has other identifiers (of as many segments, of which the same are `*`) or
other values in their places. -/
theorem Query.read_back {d : Dialect} (known : d ∈ [Dialect.mysql, .postgres, .sqlite])
    {query : Query} {p : Prepared} (compiled : query.compile d = .ok p)
    (unquoted : Piece.Unquoted d.quote query.supplied) :
    ∃ tokens, Token.scan d.quote .outside p.sql.toList = some tokens ∧
      Token.regions tokens
        = query.identifiers.flatMap (fun identifier => Identifier.quoted identifier.toList) ∧
      ∀ (query' : Query) (p' : Prepared), query'.compile d = .ok p' →
        query'.outline = query.outline →
        ∃ tokens', Token.scan d.quote .outside p'.sql.toList = some tokens' ∧
          Token.outside tokens' = Token.outside tokens := by
  have quiet := Dialect.quiet_of_mem known
  obtain ⟨ps, hps⟩ := query.pieces_of_compile compiled
  have supplied := query.supplied_pieces hps
  have unquoted : Piece.Unquoted d.quote ps := fun s hs =>
    unquoted s (supplied ▸ List.mem_filter.mpr ⟨hs, rfl⟩)
  refine ⟨Piece.tokens d 0 ps, query.scan_compile quiet hps unquoted compiled, ?_,
    fun query' p' compiled' alike => ?_⟩
  · rw [Piece.regions_tokens, Query.identifiers, ← supplied, Piece.identifiers_supplied]
  · obtain ⟨ps', hps'⟩ := query'.pieces_of_compile compiled'
    have outlined := Query.outline_pieces alike hps hps'
    refine ⟨Piece.tokens d 0 ps', query'.scan_compile quiet hps' (unquoted.of_outline outlined)
      compiled', ?_⟩
    rw [← Piece.outside_tokens_outline d ps', outlined, Piece.outside_tokens_outline]

/-- A column whose name has a quote in it. -/
theorem Query.read_back_quote :
    let users : Target := ⟨none, ⟨"users", none⟩, .sqlite, {}⟩
    let query : Query := .select { Select.all users with fields := [.column "a\"b.*"] }
    query.compile .sqlite = .ok ⟨"SELECT \"a\"\"b\".* FROM \"users\"", []⟩ ∧
      ∃ tokens,
        Token.scan '"' .outside "SELECT \"a\"\"b\".* FROM \"users\"".toList = some tokens ∧
        Token.regions tokens = ["a\"b".toList, "users".toList] := by
  intro users query
  have compiled : query.compile .sqlite = .ok ⟨"SELECT \"a\"\"b\".* FROM \"users\"", []⟩ := by
    simp only [query, users]
    rfl
  have supplied : query.supplied = [.name "a\"b.*", .name "users"] := by
    simp only [query, users]
    rfl
  have unquoted : Piece.Unquoted '"' query.supplied := by
    intro s hs
    rw [supplied] at hs
    simp at hs
  obtain ⟨tokens, scanned, regions, -⟩ := Query.read_back (by simp) compiled unquoted
  refine ⟨compiled, tokens, scanned, ?_⟩
  rw [regions, Query.identifiers, supplied]
  rfl

end SqlBuilder
