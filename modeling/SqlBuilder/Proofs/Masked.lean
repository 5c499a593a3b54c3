import SqlBuilder.Proofs.Gives

/-! # Texts with masked parts

Some statements about a text leave parts of it open: the text of a comparison, say, or a select
up to its groups.  In a `Masked` text such a part is covered by a name for it, and everything
else is there character by character.  `Masked.write` uncovers the parts again.

A masked text is read without looking under the masks.  `Masked.lexemes` cuts it into its masked
parts, its parentheses and the runs of other characters between these.  Lexemes that are written
one behind the other are found again as long as no two runs meet (`Masked.Whole.lexemes_eq`); so
what is laid out as lexemes can be read from the characters of its text.
-/
namespace SqlBuilder

/-! ### Masked texts -/

/-- What a masked text is made of. -/
inductive Glyph (α : Type) where
  | char (c : Char)
  | part (a : α)

/-- A text some parts of which are covered, each by a name for it. -/
abbrev Masked (α : Type) := List (Glyph α)

variable {α β : Type}

namespace Glyph

/-- The glyph with another name, if it is a part. -/
def map (f : α → β) : Glyph α → Glyph β
  | .char c => .char c
  | .part a => .part (f a)

/-- Writes a glyph; a character is written as itself. -/
def write (part : α → Writing String) : Glyph α → Writing String
  | .char c => pure (String.singleton c)
  | .part a => part a

end Glyph

namespace Masked

/-- A text without masked parts. -/
def ofString (s : String) : Masked α :=
  s.toList.map .char

theorem map_ofString (f : α → β) (s : String) :
    (ofString s).map (Glyph.map f) = ofString s := by
  rw [ofString, ofString, List.map_map]
  rfl

/-- Writes a masked text, given how its parts are written. -/
def write (part : α → Writing String) (text : Masked α) : Writing String :=
  Writing.inOrder (text.map (Glyph.write part))

section
variable (part : α → Writing String)

theorem write_append (first second : Masked α) :
    write part (first ++ second) = do
      let s ← write part first
      let t ← write part second
      return s ++ t := by
  rw [write, List.map_append, Writing.inOrder_append]
  rfl

theorem write_part (a : α) : write part [.part a] = part a := by
  show (do let s ← part a; let t ← pure ""; return s ++ t) = part a
  simp

/-- A text without masked parts is written as it is. -/
theorem write_ofString (s : String) : write part (ofString s) = pure s := by
  have chars (cs : List Char) :
      Writing.inOrder ((cs.map .char).map (Glyph.write part)) = pure (String.ofList cs) := by
    induction cs with
    | nil => rfl
    | cons c cs ih =>
      rw [List.map_cons, List.map_cons, Writing.inOrder, ih, String.ofList_cons]
      rfl
  rw [write, ofString, chars, String.ofList_toList]

end

end Masked

/-! ### Lexemes -/

/-- What a masked text is cut into. -/
inductive Lexeme (α : Type) where
  | part (a : α)
  | opening
  | closing
  /-- Characters between two of the others. -/
  | run (s : String)

namespace Lexeme

/-- The masked text of a lexeme. -/
def text : Lexeme α → Masked α
  | .part a => [.part a]
  | .opening => [.char '(']
  | .closing => [.char ')']
  | .run s => Masked.ofString s

/-- The lexeme with another name, if it is a part. -/
def map (f : α → β) : Lexeme α → Lexeme β
  | .part a => .part (f a)
  | .opening => .opening
  | .closing => .closing
  | .run s => .run s

theorem text_map (f : α → β) (lexeme : Lexeme α) :
    (lexeme.map f).text = lexeme.text.map (Glyph.map f) := by
  cases lexeme with
  | part a => rfl
  | opening => rfl
  | closing => rfl
  | run s => exact (Masked.map_ofString f s).symm

/-- Lexemes with a character in front that is no parenthesis. -/
def extend (c : Char) : List (Lexeme α) → List (Lexeme α)
  | .run s :: lexemes => .run (String.singleton c ++ s) :: lexemes
  | lexemes => .run (String.singleton c) :: lexemes

/-- A text that is one run: some characters, and no parenthesis among them. -/
def IsRun (s : String) : Prop :=
  s.isEmpty = false ∧ '(' ∉ s.toList ∧ ')' ∉ s.toList

instance (s : String) : Decidable (IsRun s) :=
  inferInstanceAs (Decidable (_ ∧ _ ∧ _))

end Lexeme

namespace Masked

/-- Lexemes as a text. -/
def ofLexemes (lexemes : List (Lexeme α)) : Masked α :=
  lexemes.flatMap Lexeme.text

/-- The lexemes of a text, its runs as long as they can be. -/
def lexemes : Masked α → List (Lexeme α)
  | [] => []
  | .part a :: text => .part a :: lexemes text
  | .char c :: text =>
    if c = '(' then .opening :: lexemes text
    else if c = ')' then .closing :: lexemes text
    else Lexeme.extend c (lexemes text)

theorem ofLexemes_cons (lexeme : Lexeme α) (others : List (Lexeme α)) :
    ofLexemes (lexeme :: others) = lexeme.text ++ ofLexemes others :=
  List.flatMap_cons

theorem ofLexemes_append (first second : List (Lexeme α)) :
    ofLexemes (first ++ second) = ofLexemes first ++ ofLexemes second :=
  List.flatMap_append

/-- What is laid out with other names is what was laid out, with these in it. -/
theorem ofLexemes_map {σ τ : Type} {lexeme : σ → Lexeme α} {lexeme' : τ → Lexeme β} {g : σ → τ}
    {f : α → β} (h : ∀ token, lexeme' (g token) = (lexeme token).map f) (tokens : List σ) :
    ofLexemes ((tokens.map g).map lexeme')
      = (ofLexemes (tokens.map lexeme)).map (Glyph.map f) := by
  induction tokens with
  | nil => rfl
  | cons token tokens ih =>
    rw [List.map_cons, List.map_cons, List.map_cons, ofLexemes_cons, ofLexemes_cons, ih, h,
      Lexeme.text_map, List.map_append]

/-- Writing what is laid out as lexemes is writing these in order. -/
theorem write_ofLexemes {τ : Type} (part : α → Writing String) {lexeme : τ → Lexeme α}
    {write : τ → Writing String} (h : ∀ token, write token = Masked.write part (lexeme token).text)
    (tokens : List τ) :
    Masked.write part (ofLexemes (tokens.map lexeme)) = Writing.inOrder (tokens.map write) := by
  induction tokens with
  | nil => rfl
  | cons token tokens ih =>
    rw [List.map_cons, ofLexemes_cons, write_append, ih, List.map_cons, Writing.inOrder, h]

/-! ### Reading lexemes back -/

/-- A run is read as one in front of anything else. -/
theorem lexemes_run {s : String} (run : Lexeme.IsRun s) {rest : Masked α}
    (apart : ∀ t others, lexemes rest ≠ .run t :: others) :
    lexemes (ofString s ++ rest) = .run s :: lexemes rest := by
  have alone (c : Char) : Lexeme.extend c (lexemes rest)
      = .run (String.singleton c) :: lexemes rest := by
    rw [Lexeme.extend.eq_def]
    split
    · next t others same => exact absurd same (apart t others)
    · rfl
  -- Every character goes in front of the run that is read behind it.
  have chars (cs : List Char) (some : cs ≠ []) (unopened : '(' ∉ cs) (unclosed : ')' ∉ cs) :
      lexemes (cs.map .char ++ rest) = .run (String.ofList cs) :: lexemes rest := by
    induction cs with
    | nil => exact absurd rfl some
    | cons c cs ih =>
      rw [List.mem_cons, not_or] at unopened unclosed
      rw [List.map_cons, List.cons_append, lexemes, if_neg (Ne.symm unopened.1),
        if_neg (Ne.symm unclosed.1)]
      cases cs with
      | nil => exact alone c
      | cons next cs =>
        rw [ih (List.cons_ne_nil _ _) unopened.2 unclosed.2, String.ofList_cons (c := c)]
        rfl
  obtain ⟨full, unopened, unclosed⟩ := run
  have some : s.toList ≠ [] := by simpa [String.isEmpty_iff] using full
  rw [ofString, chars s.toList some unopened unclosed, String.ofList_toList]

/-- Lexemes that are found again in their text whatever follows it, and whatever stands in
front of it. -/
structure Whole (list : List (Lexeme α)) : Prop where
  reads : ∀ rest, lexemes (ofLexemes list ++ rest) = list ++ lexemes rest
  starts : ∃ first others, list = first :: others ∧ ∀ s, first ≠ .run s

namespace Whole

variable {first second : List (Lexeme α)}

theorem part (a : α) : Whole [Lexeme.part a] :=
  ⟨fun _ => rfl, .part a, [], rfl, fun _ => nofun⟩

theorem append (hfirst : Whole first) (hsecond : Whole second) : Whole (first ++ second) where
  reads rest := by
    rw [ofLexemes_append, List.append_assoc, hfirst.reads, hsecond.reads, List.append_assoc]
  starts := by
    obtain ⟨head, others, rfl, noRun⟩ := hfirst.starts
    exact ⟨head, others ++ second, rfl, noRun⟩

/-- Between lexemes and others stands a run. -/
theorem tied (hfirst : Whole first) {s : String} (run : Lexeme.IsRun s) (hsecond : Whole second) :
    Whole (first ++ .run s :: second) where
  reads rest := by
    obtain ⟨head, others, same, noRun⟩ := hsecond.starts
    have apart : ∀ t more, lexemes (ofLexemes second ++ rest) ≠ .run t :: more := by
      intro t more read
      rw [hsecond.reads, same, List.cons_append] at read
      exact noRun t (List.cons.inj read).1
    rw [ofLexemes_append, ofLexemes_cons, List.append_assoc, List.append_assoc, hfirst.reads,
      Lexeme.text, lexemes_run run apart, hsecond.reads, List.append_assoc, List.cons_append]
  starts := by
    obtain ⟨head, others, rfl, noRun⟩ := hfirst.starts
    exact ⟨head, others ++ .run s :: second, rfl, noRun⟩

/-- Lexemes in parentheses. -/
theorem enclose (h : Whole first) : Whole (.opening :: (first ++ [.closing])) where
  reads rest := by
    have inner := h.reads (.char ')' :: rest)
    rw [ofLexemes_cons, ofLexemes_append, List.append_assoc, List.append_assoc]
    show lexemes (.char '(' :: (ofLexemes first ++ .char ')' :: rest)) = _
    rw [lexemes, if_pos rfl, inner, lexemes, if_neg (by decide), if_pos rfl]
    simp
  starts := ⟨.opening, first ++ [.closing], rfl, fun _ => nofun⟩

/-- **The lexemes of a text** that is laid out as whole lexemes are these. -/
theorem lexemes_eq (h : Whole first) : lexemes (ofLexemes first) = first := by
  have read := h.reads []
  rw [List.append_nil] at read
  exact read.trans (List.append_nil first)

end Whole

/-- Tokens are read from their lexemes when each of them is. -/
theorem mapM_lexemes {τ : Type} {lexeme : τ → Lexeme α} {read : Lexeme α → Option τ}
    (h : ∀ token, read (lexeme token) = some token) {tokens : List τ}
    (found : lexemes (ofLexemes (tokens.map lexeme)) = tokens.map lexeme) :
    (lexemes (ofLexemes (tokens.map lexeme))).mapM read = some tokens := by
  have one : read ∘ lexeme = fun token => pure (id token) := funext h
  rw [found, List.mapM_map, one, List.mapM_pure, List.map_id]
  rfl

end Masked

end SqlBuilder
