import SqlBuilder.Proofs.Masked

/-! # Trees of conditions

The conditions of a statement are a tree, and the text of a statement has them in a row, with
connectives between them and parentheses around groups.  `Conditions` is that tree with nothing
in it that the text does not say: a group is never empty, and the first condition of a level has
no connective.

`Conditions.tokens` lays a tree out as atoms, connectives and parentheses.  `Conditions.parse`
reads it back with a stack of the levels that are open: a tree read from its own tokens is the
same tree (`Conditions.parse_tokens`), whatever the atoms are.

`Conditions.text` is the text of a tree with its atoms masked.  It is read back as well
(`Conditions.ofText?_text`): its lexemes are found again, and `AND` and `OR` between blanks are
all that is read as connectives.
-/
namespace SqlBuilder

/-! ### Trees of conditions -/

mutual

/-- A condition: an atom, or a level of its own in parentheses. -/
inductive Condition (α : Type) where
  | leaf (atom : α)
  | group (level : Conditions α)

/-- The conditions of a level: a first one, and others tied to those before them. -/
inductive Conditions (α : Type) where
  | first (condition : Condition α)
  | tied (before : Conditions α) (connective : Connective) (condition : Condition α)

end

/-- What conditions are made of in a text. -/
inductive ConditionToken (α : Type) where
  | leaf (atom : α)
  | tie (connective : Connective)
  | opening
  | closing

variable {α : Type}

mutual

/-- A condition in a row; a group stands in parentheses. -/
def Condition.tokens : Condition α → List (ConditionToken α)
  | .leaf atom => [.leaf atom]
  | .group level => .opening :: (level.tokens ++ [.closing])

/-- The conditions of a level in a row, each behind its connective except the first. -/
def Conditions.tokens : Conditions α → List (ConditionToken α)
  | .first condition => condition.tokens
  | .tied before connective condition => before.tokens ++ .tie connective :: condition.tokens

end

/-! ### Other atoms -/

section
variable {β : Type} (f : α → β)

mutual

/-- The condition with other atoms. -/
def Condition.map : Condition α → Condition β
  | .leaf atom => .leaf (f atom)
  | .group level => .group level.map

/-- The level with other atoms. -/
def Conditions.map : Conditions α → Conditions β
  | .first condition => .first condition.map
  | .tied before connective condition => .tied before.map connective condition.map

end

/-- The token with another atom, if it is one. -/
def ConditionToken.map : ConditionToken α → ConditionToken β
  | .leaf atom => .leaf (f atom)
  | .tie connective => .tie connective
  | .opening => .opening
  | .closing => .closing

mutual

theorem Condition.tokens_map : ∀ condition : Condition α,
    (condition.map f).tokens = condition.tokens.map (ConditionToken.map f)
  | .leaf _ => rfl
  | .group level => by
    rw [Condition.map, Condition.tokens, Condition.tokens, level.tokens_map]
    simp [ConditionToken.map]

/-- How a level is laid out does not depend on its atoms. -/
theorem Conditions.tokens_map : ∀ level : Conditions α,
    (level.map f).tokens = level.tokens.map (ConditionToken.map f)
  | .first condition => condition.tokens_map
  | .tied before connective condition => by
    rw [Conditions.map, Conditions.tokens, Conditions.tokens, before.tokens_map,
      condition.tokens_map]
    simp [ConditionToken.map]

end

end

/-! ### Reading a tree back -/

/-- What is read of a level so far: nothing, whole conditions, or conditions and a connective
behind them. -/
inductive Conditions.Reading (α : Type) where
  | start
  | whole (level : Conditions α)
  | tie (level : Conditions α) (connective : Connective)

/-- The level with a condition read behind it; two conditions need a connective between them. -/
def Conditions.Reading.add : Reading α → Condition α → Option (Reading α)
  | .start, condition => some (.whole (.first condition))
  | .tie level connective, condition => some (.whole (.tied level connective condition))
  | .whole _, _ => none

/-- Reads a token.  A parenthesis opens a level inside the one that is being read, and the
levels around it wait in order. -/
def ConditionToken.read : Conditions.Reading α × List (Conditions.Reading α) →
    ConditionToken α → Option (Conditions.Reading α × List (Conditions.Reading α))
  | (reading, outer), .leaf atom => (reading.add (.leaf atom)).map fun reading => (reading, outer)
  | (.whole level, outer), .tie connective => some (.tie level connective, outer)
  | (.start, outer), .opening => some (.start, .start :: outer)
  | (.tie level connective, outer), .opening => some (.start, .tie level connective :: outer)
  | (.whole level, reading :: outer), .closing =>
    (reading.add (.group level)).map fun reading => (reading, outer)
  | _, _ => none

/-- The tree that tokens stand for, which is none when there are no tokens; nothing when the
tokens are not laid out from a tree. -/
def Conditions.parse (tokens : List (ConditionToken α)) : Option (Option (Conditions α)) :=
  match tokens.foldlM ConditionToken.read (.start, []) with
  | some (.start, []) => some none
  | some (.whole level, []) => some (some level)
  | _ => none

/-- A parenthesis opens a level wherever a condition may stand. -/
theorem ConditionToken.read_opening {reading after : Conditions.Reading α}
    {condition : Condition α} (h : reading.add condition = some after)
    (outer : List (Conditions.Reading α)) :
    ConditionToken.read (reading, outer) .opening = some (.start, reading :: outer) := by
  cases reading with
  | start => rfl
  | tie level connective => rfl
  | whole level => cases h

mutual

/-- Reading a condition is adding it to its level. -/
theorem Condition.read_tokens : ∀ (condition : Condition α) {reading after : Conditions.Reading α}
    (outer : List (Conditions.Reading α)), reading.add condition = some after →
    condition.tokens.foldlM ConditionToken.read (reading, outer) = some (after, outer)
  | .leaf atom, reading, after, outer, h => by
    rw [Condition.tokens, List.foldlM_cons, ConditionToken.read, h]
    rfl
  | .group level, reading, after, outer, h => by
    rw [Condition.tokens, List.foldlM_cons, ConditionToken.read_opening h]
    show (level.tokens ++ [ConditionToken.closing]).foldlM _ _ = _
    -- the level inside is read with the one around it waiting
    rw [List.foldlM_append, level.read_tokens (reading :: outer)]
    show (reading.add (.group level)).map _ >>= pure = _
    rw [h]
    rfl

/-- Reading a level from its start gives the level. -/
theorem Conditions.read_tokens : ∀ (level : Conditions α) (outer : List (Conditions.Reading α)),
    level.tokens.foldlM ConditionToken.read (.start, outer) = some (.whole level, outer)
  | .first condition, outer => condition.read_tokens outer rfl
  | .tied before connective condition, outer => by
    rw [Conditions.tokens, List.foldlM_append, before.read_tokens outer]
    exact condition.read_tokens outer rfl

end

/-- The tokens of a tree; a tree without conditions has none. -/
def Conditions.allTokens : Option (Conditions α) → List (ConditionToken α)
  | none => []
  | some level => level.tokens

theorem Conditions.allTokens_map {β : Type} (f : α → β) (tree : Option (Conditions α)) :
    Conditions.allTokens (tree.map (Conditions.map f))
      = (Conditions.allTokens tree).map (ConditionToken.map f) := by
  cases tree with
  | none => rfl
  | some level => exact level.tokens_map f

/-- **A tree is read back** from its tokens. -/
theorem Conditions.parse_tokens (tree : Option (Conditions α)) :
    Conditions.parse (Conditions.allTokens tree) = some tree := by
  cases tree with
  | none => rfl
  | some level =>
    rw [Conditions.allTokens, Conditions.parse, level.read_tokens]

/-! ### The text of a tree -/

namespace ConditionToken

/-- A token in a text; an atom is masked. -/
def lexeme : ConditionToken α → Lexeme α
  | .leaf atom => .part atom
  | .tie .and => .run " AND "
  | .tie .or => .run " OR "
  | .opening => .opening
  | .closing => .closing

/-- The token that a lexeme is, if it is one. -/
def ofLexeme? : Lexeme α → Option (ConditionToken α)
  | .part atom => some (.leaf atom)
  | .run s =>
    if s = " AND " then some (.tie .and)
    else if s = " OR " then some (.tie .or)
    else none
  | .opening => some .opening
  | .closing => some .closing

/-- The text of a connective is a run. -/
theorem lexeme_tie (connective : Connective) :
    ∃ s, Lexeme.IsRun s ∧ (ConditionToken.tie (α := α) connective).lexeme = .run s := by
  cases connective with
  | and => exact ⟨_, by decide, rfl⟩
  | or => exact ⟨_, by decide, rfl⟩

theorem ofLexeme?_lexeme (token : ConditionToken α) : ofLexeme? token.lexeme = some token := by
  cases token with
  | leaf atom => rfl
  | tie connective => cases connective <;> rfl
  | opening => rfl
  | closing => rfl

theorem lexeme_map {β : Type} (f : α → β) (token : ConditionToken α) :
    (token.map f).lexeme = token.lexeme.map f := by
  cases token with
  | leaf atom => rfl
  | tie connective => cases connective <;> rfl
  | opening => rfl
  | closing => rfl

end ConditionToken

mutual

theorem Condition.whole : ∀ condition : Condition α,
    Masked.Whole (condition.tokens.map ConditionToken.lexeme)
  | .leaf atom => .part atom
  | .group level => by
    rw [Condition.tokens, List.map_cons, List.map_append]
    exact level.whole.enclose

/-- The lexemes of a level are found again wherever it stands. -/
theorem Conditions.whole : ∀ level : Conditions α,
    Masked.Whole (level.tokens.map ConditionToken.lexeme)
  | .first condition => condition.whole
  | .tied before connective condition => by
    obtain ⟨s, run, between⟩ := ConditionToken.lexeme_tie (α := α) connective
    rw [Conditions.tokens, List.map_append, List.map_cons, between]
    exact before.whole.tied run condition.whole

end

namespace Conditions

/-- The text of a tree, with the atoms masked. -/
def text (tree : Option (Conditions α)) : Masked α :=
  .ofLexemes ((allTokens tree).map ConditionToken.lexeme)

/-- The tree that a text stands for; nothing when it is not the text of a tree. -/
def ofText? (text : Masked α) : Option (Option (Conditions α)) := do
  let tokens ← text.lexemes.mapM ConditionToken.ofLexeme?
  parse tokens

/-- The text of a tree does not depend on its atoms. -/
theorem text_map {β : Type} (f : α → β) (tree : Option (Conditions α)) :
    text (tree.map (Conditions.map f)) = (text tree).map (Glyph.map f) := by
  rw [text, text, allTokens_map, Masked.ofLexemes_map (ConditionToken.lexeme_map f)]

/-- **A tree is read back** from its text. -/
theorem ofText?_text (tree : Option (Conditions α)) : ofText? (text tree) = some tree := by
  have found : Masked.lexemes (text tree) = (allTokens tree).map ConditionToken.lexeme := by
    cases tree with
    | none => rfl
    | some level => exact level.whole.lexemes_eq
  rw [ofText?, text, Masked.mapM_lexemes ConditionToken.ofLexeme?_lexeme found]
  exact parse_tokens tree

end Conditions

end SqlBuilder
