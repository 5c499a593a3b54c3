import SqlBuilder.Proofs.Masked

/-! # The text of a union and the tree behind it

A select with unions is a tree: the members of a union may be unions themselves, and each select
in the tree may have an order or a window of its own.  In the text these stand in a row, and an
order or a window that is not in parentheses with its own select would count for the union as a
whole.

`UnionTree` is the tree, over selects up to their groups (the cores) and over orders and windows
(the tails).  `UnionTree.tokens` lays it out with the parentheses that a select is written with,
and `UnionTree.parse` reads any tokens in which a member of a union is a core or a select in
parentheses.  A tree is read back from its tokens (`UnionTree.parse_tokens`), whatever the cores
and the tails are.

`UnionTree.text` is the text of a tree with its cores and its tails masked, and the tree is read
back from it (`UnionTree.ofText?_text`).  Writing a select is writing the text of its tree with
the cores and the tails in it (`Select.write_text`).
-/
namespace SqlBuilder

/-! ### Trees of unions -/

/-- A select as a tree: alone, perhaps with a tail, or with one more member of its union behind
what it is without it.  The tail of a select with a union is that of the select alone, which is
the head of the union. -/
inductive UnionTree (C T : Type) where
  | alone (core : C) (tail : Option T)
  | union (before : UnionTree C T) (kind : Option UnionKind) (member : UnionTree C T)

/-- What a union is made of in a text. -/
inductive UnionToken (C T : Type) where
  | core (core : C)
  | tail (tail : T)
  | union (kind : Option UnionKind)
  | opening
  | closing

variable {C T : Type}

/-- Tokens in parentheses where they are needed. -/
def UnionToken.enclose (needed : Bool) (tokens : List (UnionToken C T)) : List (UnionToken C T) :=
  if needed then .opening :: (tokens ++ [.closing]) else tokens

namespace UnionTree

/-- Whether the tree is a select without a union that has a tail. -/
def isLimited : UnionTree C T → Bool
  | .alone _ tail => tail.isSome
  | .union .. => false

/-- Whether the tree is nothing but a core. -/
def isBare : UnionTree C T → Bool
  | .alone _ tail => tail.isNone
  | .union .. => false

/-- The tree in a row.  The head of a union stands in parentheses when it has a tail, and any
other member when it is more than a core. -/
def tokens : UnionTree C T → List (UnionToken C T)
  | .alone core tail => .core core :: tail.toList.map .tail
  | .union before kind member =>
    UnionToken.enclose before.isLimited before.tokens
      ++ .union kind :: UnionToken.enclose (!member.isBare) member.tokens

/-- The tree with other cores and other tails. -/
def map {C' T' : Type} (core : C → C') (tail : T → T') : UnionTree C T → UnionTree C' T'
  | .alone c t => .alone (core c) (t.map tail)
  | .union before kind member => .union (before.map core tail) kind (member.map core tail)

end UnionTree

/-- The token with another core or tail, if it is one. -/
def UnionToken.map {C' T' : Type} (core : C → C') (tail : T → T') :
    UnionToken C T → UnionToken C' T'
  | .core c => .core (core c)
  | .tail t => .tail (tail t)
  | .union kind => .union kind
  | .opening => .opening
  | .closing => .closing

/-! ### Reading a tree back -/

/-- What is read of a level so far. -/
inductive UnionTree.Reading (C T : Type) where
  | start
  /-- A core, which a tail may follow or a union. -/
  | core (core : C)
  /-- A core with its tail, which no union may follow. -/
  | limited (core : C) (tail : T)
  /-- A select in parentheses, which has to be the head of a union. -/
  | head (tree : UnionTree C T)
  /-- A union with two members or more. -/
  | compound (tree : UnionTree C T)
  /-- A union that lacks a member. -/
  | union (tree : UnionTree C T) (kind : Option UnionKind)

namespace UnionTree.Reading

/-- The select that was read, when it may end here. -/
def whole? : Reading C T → Option (UnionTree C T)
  | .core c => some (.alone c none)
  | .limited c tail => some (.alone c (some tail))
  | .compound tree => some tree
  | .start | .head _ | .union .. => none

/-- What was read, when a further member of a union may follow. -/
def left? : Reading C T → Option (UnionTree C T)
  | .core c => some (.alone c none)
  | .head tree => some tree
  | .compound tree => some tree
  | .start | .limited .. | .union .. => none

/-- A level with a select in parentheses behind what was read of it. -/
def enclosed (tree : UnionTree C T) : Reading C T → Option (Reading C T)
  | .start => some (.head tree)
  | .union before kind => some (.compound (.union before kind tree))
  | .core _ | .limited .. | .head _ | .compound _ => none

end UnionTree.Reading

/-- Reads a token.  A parenthesis opens a level inside the one that is being read, and the
levels around it wait in order. -/
def UnionToken.read : UnionTree.Reading C T × List (UnionTree.Reading C T) → UnionToken C T →
    Option (UnionTree.Reading C T × List (UnionTree.Reading C T))
  | (.start, outer), .core c => some (.core c, outer)
  | (.union before kind, outer), .core c =>
    some (.compound (.union before kind (.alone c none)), outer)
  | (.core c, outer), .tail t => some (.limited c t, outer)
  | (reading, outer), .union kind => reading.left?.map fun before => (.union before kind, outer)
  | (.start, outer), .opening => some (.start, .start :: outer)
  | (.union before kind, outer), .opening => some (.start, .union before kind :: outer)
  | (reading, around :: outer), .closing => do
    let tree ← reading.whole?
    let around ← around.enclosed tree
    return (around, outer)
  | _, _ => none

namespace UnionTree

open UnionToken (enclose)

/-- The tree that tokens stand for, or nothing when they stand for none. -/
def parse (tokens : List (UnionToken C T)) : Option (UnionTree C T) :=
  match tokens.foldlM UnionToken.read (.start, []) with
  | some (reading, []) => reading.whole?
  | _ => none

/-- What has been read when a whole tree has been. -/
def reading : UnionTree C T → Reading C T
  | .alone core none => .core core
  | .alone core (some tail) => .limited core tail
  | .union before kind member => .compound (.union before kind member)

theorem whole?_reading (tree : UnionTree C T) : tree.reading.whole? = some tree := by
  rcases tree with ⟨core, _ | tail⟩ | ⟨before, kind, member⟩ <;> rfl

/-- Where a level may have a select in parentheses, a parenthesis opens a level inside it. -/
theorem read_opening {reading around : Reading C T} {tree : UnionTree C T}
    (h : reading.enclosed tree = some around) (outer : List (Reading C T)) :
    UnionToken.read (reading, outer) .opening = some (.start, reading :: outer) := by
  cases reading with
  | start => rfl
  | union before kind => rfl
  | core core => cases h
  | limited core tail => cases h
  | head tree => cases h
  | compound tree => cases h

/-- Behind a whole select, a parenthesis closes its level. -/
theorem read_closing {reading around after : Reading C T} {tree : UnionTree C T}
    (whole : reading.whole? = some tree) (h : around.enclosed tree = some after)
    (outer : List (Reading C T)) :
    UnionToken.read (reading, around :: outer) .closing = some (after, outer) := by
  have closed : UnionToken.read (reading, around :: outer) .closing =
      reading.whole?.bind fun tree => (around.enclosed tree).bind fun after =>
        some (after, outer) := by
    cases reading <;> rfl
  rw [closed, whole, Option.bind_some, h, Option.bind_some]

/-- **A select in parentheses** is read as one member of the level around it. -/
theorem read_enclose {tree : UnionTree C T} {reading around : Reading C T}
    (h : reading.enclosed tree = some around) (outer : List (Reading C T))
    (inner : tree.tokens.foldlM UnionToken.read (.start, reading :: outer)
      = some (tree.reading, reading :: outer)) :
    (enclose true tree.tokens).foldlM UnionToken.read (reading, outer) = some (around, outer) := by
  rw [enclose, if_pos rfl, List.foldlM_cons, read_opening h]
  show (tree.tokens ++ [UnionToken.closing]).foldlM _ (Reading.start, reading :: outer) = _
  rw [List.foldlM_append, inner]
  show UnionToken.read (tree.reading, reading :: outer) .closing >>= pure = _
  rw [read_closing tree.whole?_reading h]
  rfl

/-- Where a member may follow, a union makes it one that has to. -/
theorem read_union {reading : Reading C T} {before : UnionTree C T}
    (h : reading.left? = some before) (kind : Option UnionKind) (outer : List (Reading C T)) :
    UnionToken.read (reading, outer) (.union kind) = some (.union before kind, outer) := by
  rw [UnionToken.read, h]
  rfl

/-- The head of a union is read so that a further member may follow it. -/
theorem read_head {tree : UnionTree C T} (outer : List (Reading C T))
    (ih : ∀ outer, tree.tokens.foldlM UnionToken.read (.start, outer)
      = some (tree.reading, outer)) :
    ∃ reading : Reading C T, reading.left? = some tree ∧
      (enclose tree.isLimited tree.tokens).foldlM UnionToken.read (.start, outer)
        = some (reading, outer) := by
  rcases tree with ⟨core, _ | tail⟩ | ⟨before, kind, member⟩
  · exact ⟨.core core, rfl, ih outer⟩
  · exact ⟨.head _, rfl, read_enclose rfl outer (ih _)⟩
  · exact ⟨.compound _, rfl, ih outer⟩

/-- A member of a union is read behind what comes before it. -/
theorem read_member {before member : UnionTree C T} {kind : Option UnionKind}
    {outer : List (Reading C T)}
    (ih : ∀ outer, member.tokens.foldlM UnionToken.read (.start, outer)
      = some (member.reading, outer)) :
    (enclose (!member.isBare) member.tokens).foldlM UnionToken.read (.union before kind, outer)
      = some (.compound (.union before kind member), outer) := by
  rcases member with ⟨core, _ | tail⟩ | ⟨inner, innerKind, last⟩
  · rfl
  · exact read_enclose rfl outer (ih _)
  · exact read_enclose rfl outer (ih _)

/-- Reading the tokens of a tree from the start of a level. -/
theorem read_tokens (tree : UnionTree C T) (outer : List (Reading C T)) :
    tree.tokens.foldlM UnionToken.read (.start, outer) = some (tree.reading, outer) := by
  induction tree generalizing outer with
  | alone core tail => cases tail <;> rfl
  | union before kind member head last =>
    obtain ⟨reading, left, readHead⟩ := read_head outer head
    rw [tokens, List.foldlM_append, readHead]
    show UnionToken.read (reading, outer) (.union kind) >>= _ = _
    rw [read_union left]
    exact read_member last

/-- **A tree is read back** from its tokens. -/
theorem parse_tokens (tree : UnionTree C T) : parse tree.tokens = some tree := by
  rw [parse, tree.read_tokens []]
  exact tree.whole?_reading

section
variable {C' T' : Type} (core : C → C') (tail : T → T')

theorem enclose_map (needed : Bool) (tokens : List (UnionToken C T)) :
    (enclose needed tokens).map (UnionToken.map core tail)
      = enclose needed (tokens.map (UnionToken.map core tail)) := by
  rw [enclose, enclose]
  split
  · simp [UnionToken.map]
  · rfl

/-- How a tree is laid out does not depend on its cores and tails. -/
theorem tokens_map (tree : UnionTree C T) :
    (tree.map core tail).tokens = tree.tokens.map (UnionToken.map core tail) := by
  induction tree with
  | alone c t => cases t <;> rfl
  | union before kind member head last =>
    have limited : (before.map core tail).isLimited = before.isLimited := by
      rcases before with ⟨c, _ | t⟩ | ⟨_, _, _⟩ <;> rfl
    have bare : (member.map core tail).isBare = member.isBare := by
      rcases member with ⟨c, _ | t⟩ | ⟨_, _, _⟩ <;> rfl
    rw [map, tokens, tokens, limited, bare, head, last, List.map_append, List.map_cons,
      enclose_map, enclose_map]
    rfl

end

end UnionTree

/-! ### The text of a tree -/

namespace UnionToken

/-- A token in a text; a core is masked, and so is a tail. -/
def lexeme : UnionToken C T → Lexeme (C ⊕ T)
  | .core c => .part (.inl c)
  | .tail t => .part (.inr t)
  | .union none => .run " UNION "
  | .union (some .all) => .run " UNION ALL "
  | .union (some .distinct) => .run " UNION DISTINCT "
  | .opening => .opening
  | .closing => .closing

/-- The token that a lexeme is, if it is one. -/
def ofLexeme? : Lexeme (C ⊕ T) → Option (UnionToken C T)
  | .part (.inl c) => some (.core c)
  | .part (.inr t) => some (.tail t)
  | .run s =>
    if s = " UNION " then some (.union none)
    else if s = " UNION ALL " then some (.union (some .all))
    else if s = " UNION DISTINCT " then some (.union (some .distinct))
    else none
  | .opening => some .opening
  | .closing => some .closing

/-- The text of a union of some kind is a run. -/
theorem lexeme_union (kind : Option UnionKind) :
    ∃ s, Lexeme.IsRun s ∧ (UnionToken.union (C := C) (T := T) kind).lexeme = .run s := by
  rcases kind with _ | _ | _
  · exact ⟨_, by decide, rfl⟩
  · exact ⟨_, by decide, rfl⟩
  · exact ⟨_, by decide, rfl⟩

theorem ofLexeme?_lexeme (token : UnionToken C T) : ofLexeme? token.lexeme = some token := by
  cases token with
  | core c => rfl
  | tail t => rfl
  | union kind => rcases kind with _ | _ | _ <;> rfl
  | opening => rfl
  | closing => rfl

theorem lexeme_map {C' T' : Type} (core : C → C') (tail : T → T') (token : UnionToken C T) :
    (token.map core tail).lexeme = token.lexeme.map (Sum.map core tail) := by
  cases token with
  | core c => rfl
  | tail t => rfl
  | union kind => rcases kind with _ | _ | _ <;> rfl
  | opening => rfl
  | closing => rfl

/-- The text of tokens, with the cores and the tails masked. -/
def text (tokens : List (UnionToken C T)) : Masked (C ⊕ T) :=
  .ofLexemes (tokens.map lexeme)

theorem text_cons (token : UnionToken C T) (tokens : List (UnionToken C T)) :
    text (token :: tokens) = token.lexeme.text ++ text tokens :=
  Masked.ofLexemes_cons ..

theorem text_append (first second : List (UnionToken C T)) :
    text (first ++ second) = text first ++ text second := by
  rw [text, List.map_append, Masked.ofLexemes_append]
  rfl

theorem text_enclose (tokens : List (UnionToken C T)) :
    text (enclose true tokens) = .char '(' :: (text tokens ++ [.char ')']) := by
  rw [enclose, if_pos rfl, text_cons, text_append]
  rfl

theorem whole_enclose (needed : Bool) {tokens : List (UnionToken C T)}
    (h : Masked.Whole (tokens.map lexeme)) : Masked.Whole ((enclose needed tokens).map lexeme) := by
  cases needed with
  | false => exact h
  | true =>
    rw [enclose, if_pos rfl, List.map_cons, List.map_append]
    exact h.enclose

end UnionToken

namespace UnionTree

open UnionToken (enclose lexeme)

/-- The lexemes of a tree are found again wherever it stands. -/
theorem whole (tree : UnionTree C T) : Masked.Whole (tree.tokens.map lexeme) := by
  induction tree with
  | alone core tail =>
    cases tail with
    | none => exact Masked.Whole.part (Sum.inl core)
    | some tail =>
      exact (Masked.Whole.part (Sum.inl core)).append (Masked.Whole.part (Sum.inr tail))
  | union before kind member head last =>
    obtain ⟨s, run, between⟩ := UnionToken.lexeme_union (C := C) (T := T) kind
    rw [tokens, List.map_append, List.map_cons, between]
    exact (UnionToken.whole_enclose _ head).tied run (UnionToken.whole_enclose _ last)

/-- The text of a tree, with the cores and the tails masked. -/
def text (tree : UnionTree C T) : Masked (C ⊕ T) :=
  UnionToken.text tree.tokens

/-- The tree that a text stands for; nothing when it is not the text of a union. -/
def ofText? (text : Masked (C ⊕ T)) : Option (UnionTree C T) := do
  let tokens ← text.lexemes.mapM UnionToken.ofLexeme?
  parse tokens

/-- The text of a tree does not depend on its cores and tails. -/
theorem text_map {C' T' : Type} (core : C → C') (tail : T → T') (tree : UnionTree C T) :
    (tree.map core tail).text = tree.text.map (Glyph.map (Sum.map core tail)) := by
  rw [text, text, UnionToken.text, UnionToken.text, tokens_map,
    Masked.ofLexemes_map (UnionToken.lexeme_map core tail)]

/-- **A tree is read back** from its text. -/
theorem ofText?_text (tree : UnionTree C T) : ofText? tree.text = some tree := by
  rw [ofText?, text, UnionToken.text,
    Masked.mapM_lexemes UnionToken.ofLexeme?_lexeme tree.whole.lexemes_eq]
  exact tree.parse_tokens

end UnionTree

/-! ### Tails stand in parentheses -/

/-- Every tail in a text stands in parentheses with its core and nothing else. -/
def Masked.TailsEnclosed (text : Masked (C ⊕ T)) : Prop :=
  ∀ before t after, text = before ++ .part (.inr t) :: after →
    ∃ before' c after', before = before' ++ [.char '(', .part (.inl c)] ∧
      after = .char ')' :: after'

namespace Masked

theorem tailsEnclosed_of_tailless {text : Masked (C ⊕ T)} (h : ∀ t, .part (.inr t) ∉ text) :
    TailsEnclosed text :=
  fun _ t _ same => absurd (same ▸ List.mem_append_right _ (List.mem_cons_self ..)) (h t)

theorem TailsEnclosed.append {first second : Masked (C ⊕ T)} (hfirst : TailsEnclosed first)
    (hsecond : TailsEnclosed second) : TailsEnclosed (first ++ second) := by
  intro before t after same
  rcases List.append_eq_append_iff.mp same with ⟨between, rfl, rest⟩ | ⟨between, rfl, rest⟩
  · obtain ⟨before', c, after', rfl, rfl⟩ := hsecond between t after rest
    exact ⟨first ++ before', c, after', (List.append_assoc ..).symm, rfl⟩
  · cases between with
    | nil =>
      -- the tail is the first glyph of the second text, where no core is before it
      obtain ⟨before', c, -, nothing, -⟩ := hsecond [] t after rest.symm
      simp at nothing
    | cons glyph between =>
      obtain ⟨rfl, rfl⟩ := List.cons.inj rest
      obtain ⟨before', c, after', rfl, rfl⟩ := hfirst before t between rfl
      exact ⟨before', c, after' ++ second, rfl, rfl⟩

/-- A text in parentheses in which every tail is. -/
theorem TailsEnclosed.enclose {text : Masked (C ⊕ T)} (h : TailsEnclosed text) :
    TailsEnclosed (.char '(' :: (text ++ [.char ')'])) := by
  have parenthesis (c : Char) : TailsEnclosed [Glyph.char (α := C ⊕ T) c] :=
    tailsEnclosed_of_tailless fun t => by simp
  exact (parenthesis '(').append (h.append (parenthesis ')'))

/-- A tail in parentheses with its core. -/
theorem tailsEnclosed_limited (c : C) (t : T) :
    TailsEnclosed [.char '(', .part (.inl c), .part (.inr t), .char ')'] := by
  intro before t' after same
  rcases before with _ | ⟨first, _ | ⟨second, _ | ⟨third, before⟩⟩⟩
  · cases same
  · cases same
  · cases same
    exact ⟨[], c, [], rfl, rfl⟩
  · have left : [Glyph.char ')'] = before ++ .part (.inr t') :: after := by
      simpa using (List.cons.inj (List.cons.inj (List.cons.inj same).2).2).2
    exact absurd left (by cases before <;> simp)

end Masked

namespace UnionTree

open UnionToken (enclose)
open Masked (TailsEnclosed)

/-- A tree that stands in parentheses wherever it has to. -/
theorem tailsEnclosed_enclose {tree : UnionTree C T} {needed : Bool}
    (ih : tree.isLimited = false → TailsEnclosed tree.text)
    (h : tree.isLimited = true → needed = true) :
    TailsEnclosed (UnionToken.text (enclose needed tree.tokens)) := by
  by_cases limited : tree.isLimited = true
  · rw [h limited]
    rcases tree with ⟨c, _ | t⟩ | ⟨before, kind, member⟩
    · cases limited
    · exact Masked.tailsEnclosed_limited c t
    · cases limited
  · have inner := ih (Bool.eq_false_iff.mpr limited)
    cases needed with
    | false => exact inner
    | true =>
      rw [UnionToken.text_enclose]
      exact inner.enclose

/-- **No tail stands at the level of a union.**  In a tree that is not a select alone with its
tail, every tail is in parentheses with its core. -/
theorem tailsEnclosed_text (tree : UnionTree C T) (h : tree.isLimited = false) :
    TailsEnclosed tree.text := by
  induction tree with
  | alone c tail =>
    cases tail with
    | none =>
      show TailsEnclosed [Glyph.part (Sum.inl c)]
      exact Masked.tailsEnclosed_of_tailless fun t => by simp
    | some t => cases h
  | union before kind member head last =>
    obtain ⟨s, -, union⟩ := UnionToken.lexeme_union (C := C) (T := T) kind
    have between : TailsEnclosed (UnionToken.union (C := C) (T := T) kind).lexeme.text := by
      rw [union]
      exact Masked.tailsEnclosed_of_tailless fun t => by simp [Lexeme.text, Masked.ofString]
    have first : TailsEnclosed (UnionToken.text (enclose before.isLimited before.tokens)) :=
      tailsEnclosed_enclose head id
    have second : TailsEnclosed (UnionToken.text (enclose (!member.isBare) member.tokens)) := by
      refine tailsEnclosed_enclose last fun limited => ?_
      rcases member with ⟨c, _ | t⟩ | ⟨_, _, _⟩
      · cases limited
      · rfl
      · cases limited
    rw [text, tokens, UnionToken.text_append, UnionToken.text_cons]
    exact first.append (between.append second)

end UnionTree

/-! ### The tree of a select -/

mutual

/-- The tree of a select; its cores and tails are the selects that they are of. -/
def Select.unionTree : Select → UnionTree Select Select
  | ⟨target, fields, distinct, orders, groups, joins, unions, clauses, limit, offset,
      forwardKey, groupResults, error⟩ =>
    let query : Select := ⟨target, fields, distinct, orders, groups, joins, unions, clauses,
      limit, offset, forwardKey, groupResults, error⟩
    UnionMember.unionTree (.alone query (if query.isLimited then some query else none)) unions

/-- The tree with further members of its union. -/
def UnionMember.unionTree (before : UnionTree Select Select) :
    List UnionMember → UnionTree Select Select
  | [] => before
  | ⟨kind, query⟩ :: members =>
    UnionMember.unionTree (.union before kind query.unionTree) members

end

/-- A select without the members of its union. -/
def Select.aloneTree (query : Select) : UnionTree Select Select :=
  .alone query (if query.isLimited then some query else none)

theorem Select.isLimited_aloneTree (query : Select) :
    query.aloneTree.isLimited = query.isLimited := by
  rw [Select.aloneTree, UnionTree.isLimited]
  cases query.isLimited <;> rfl

theorem Select.unionTree_eq (query : Select) :
    query.unionTree = UnionMember.unionTree query.aloneTree query.unions := by
  cases query
  rw [Select.unionTree]
  rfl

/-- A tree with further members is a union when it was one before. -/
theorem UnionMember.unionTree_union (before : UnionTree Select Select) (kind : Option UnionKind)
    (member : UnionTree Select Select) (members : List UnionMember) :
    ∃ before' kind' member',
      UnionMember.unionTree (.union before kind member) members = .union before' kind' member' := by
  induction members generalizing before kind member with
  | nil => exact ⟨before, kind, member, by rw [UnionMember.unionTree]⟩
  | cons next members ih =>
    obtain ⟨kind', query⟩ := next
    rw [UnionMember.unionTree]
    exact ih _ _ _

/-- Only a select with neither an order, a window nor a union is nothing but a core. -/
theorem Select.isBare_unionTree (query : Select) :
    query.unionTree.isBare = (!query.isLimited && query.unions.isEmpty) := by
  rw [query.unionTree_eq]
  cases unions : query.unions with
  | nil =>
    rw [UnionMember.unionTree, Select.aloneTree]
    cases query.isLimited <;> rfl
  | cons next members =>
    obtain ⟨kind, member⟩ := next
    obtain ⟨before, kind', last, union⟩ :=
      UnionMember.unionTree_union query.aloneTree kind member.unionTree members
    rw [UnionMember.unionTree, union]
    simp [UnionTree.isBare]

/-! ### Writing is writing the tokens -/

/-- A dialect that puts members of a union in parentheses, and writes no window when none is
asked for. -/
structure Dialect.Encloses (d : Dialect) : Prop where
  parenthesizes : d.parenthesizesMembers = true
  window : d.window none none = ""

theorem Dialect.encloses_standard (name : String) (quote : Char) (placeholder : Nat → String) :
    (Dialect.standard name quote placeholder).Encloses :=
  ⟨rfl, rfl⟩

theorem Dialect.encloses_mysql : Dialect.mysql.Encloses :=
  ⟨rfl, rfl⟩

theorem Dialect.encloses_postgres : Dialect.postgres.Encloses :=
  ⟨rfl, rfl⟩

variable (d : Dialect)

/-- Writes a select up to its groups. -/
def Select.writeToGroups (query : Select) : Writing String := do
  Writing.ofExcept (checkTarget query.target query.error)
  let fields ← Field.writeAll d query.fields
  let joins ← Join.writeAll d query.joins
  let conditions ← Clause.writeAll d "" query.clauses
  return query.writeCore d fields joins conditions

namespace UnionToken

/-- Writes a token. -/
def write : UnionToken Select Select → Writing String
  | .core query => query.writeToGroups d
  | .tail query => pure (query.writeTail d)
  | .union kind => pure (UnionMember.glue kind)
  | .opening => pure "("
  | .closing => pure ")"

/-- Writes tokens in order. -/
def writeAll (tokens : List (UnionToken Select Select)) : Writing String :=
  Writing.inOrder (tokens.map (write d))

theorem writeAll_append (first second : List (UnionToken Select Select)) :
    writeAll d (first ++ second) = do
      let s ← writeAll d first
      let t ← writeAll d second
      return s ++ t := by
  rw [writeAll, List.map_append, Writing.inOrder_append]
  rfl

theorem writeAll_cons (token : UnionToken Select Select)
    (tokens : List (UnionToken Select Select)) :
    writeAll d (token :: tokens) = do
      let s ← token.write d
      let t ← writeAll d tokens
      return s ++ t := rfl

theorem writeAll_singleton (token : UnionToken Select Select) :
    writeAll d [token] = token.write d := by
  rw [writeAll_cons]
  show (do let s ← token.write d; let t ← pure ""; return s ++ t) = _
  simp

theorem writeAll_enclose (needed : Bool) (tokens : List (UnionToken Select Select)) :
    writeAll d (enclose needed tokens) = do
      let s ← writeAll d tokens
      return if needed then "(" ++ s ++ ")" else s := by
  cases needed with
  | false => simp [enclose]
  | true =>
    rw [enclose, if_pos rfl, writeAll_cons, writeAll_append, writeAll_singleton]
    simp [write, String.append_assoc, -bind_pure_comp]

end UnionToken

/-- A member that needs parentheses has them. -/
theorem Dialect.Encloses.writeMember {d : Dialect} (h : d.Encloses) (limited compound : Bool)
    (text : String) : Select.writeMember d limited compound text
      = .ok (if limited || compound then "(" ++ text ++ ")" else text) := by
  rw [Select.writeMember, h.parenthesizes]
  cases limited <;> cases compound <;> rfl

/-- A select that is not limited has no text behind its groups. -/
theorem Select.writeTail_eq_empty {d : Dialect} (h : d.Encloses) {query : Select}
    (unlimited : query.isLimited = false) : query.writeTail d = "" := by
  simp only [Select.isLimited, Bool.or_eq_false_iff, Option.isSome_eq_false_iff,
    Option.isNone_iff_eq_none, Bool.not_eq_false'] at unlimited
  obtain ⟨⟨orders, limit⟩, offset⟩ := unlimited
  rw [Select.writeTail, Select.writeOrders, if_pos orders, limit, offset, h.window]
  rfl

/-- A select alone is written as its core and its tail. -/
theorem Select.writeAll_aloneTree {d : Dialect} (h : d.Encloses) (query : Select) :
    UnionToken.writeAll d query.aloneTree.tokens = do
      let core ← query.writeToGroups d
      return core ++ query.writeTail d := by
  rw [Select.aloneTree]
  by_cases limited : query.isLimited = true
  · rw [if_pos limited]
    show UnionToken.writeAll d [.core query, .tail query] = _
    rw [UnionToken.writeAll_cons, UnionToken.writeAll_singleton]
    simp [UnionToken.write]
  · rw [if_neg limited, Select.writeTail_eq_empty h (Bool.eq_false_iff.mpr limited)]
    show UnionToken.writeAll d [.core query] = _
    rw [UnionToken.writeAll_singleton]
    simp [UnionToken.write]

/-- A select is written alone, and then the members of its union behind it. -/
theorem Select.write_eq_alone {d : Dialect} (h : d.Encloses) (query : Select) :
    query.write d = do
      let alone ← UnionToken.writeAll d query.aloneTree.tokens
      if query.unions.isEmpty then return alone
      else
        let members ← UnionMember.writeAll d query.unions
        return (if query.isLimited then "(" ++ alone ++ ")" else alone) ++ members := by
  rw [Select.write_eq, Select.writeAll_aloneTree h, Select.writeToGroups]
  simp only [bind_assoc, pure_bind, h.writeMember, Bool.or_false, Writing.ofExcept_ok]

/-- **One more member** is written behind what comes before it. -/
theorem UnionMember.writeAll_union {d : Dialect} (h : d.Encloses)
    (before : UnionTree Select Select) (kind : Option UnionKind) {member : Select}
    (ih : member.write d = UnionToken.writeAll d member.unionTree.tokens) :
    UnionToken.writeAll d (UnionTree.union before kind member.unionTree).tokens = do
      let s ← UnionToken.writeAll d (UnionToken.enclose before.isLimited before.tokens)
      let t ← UnionMember.write d ⟨kind, member⟩
      return s ++ t := by
  have needed : (!member.unionTree.isBare) = (member.isLimited || !member.unions.isEmpty) := by
    rw [member.isBare_unionTree, Bool.not_and, Bool.not_not]
  rw [UnionTree.tokens, UnionToken.writeAll_append, UnionToken.writeAll_cons,
    needed, UnionMember.write, ih]
  simp only [UnionToken.writeAll_enclose, UnionToken.write, h.writeMember,
    Writing.ofExcept_ok, bind_assoc, pure_bind]

mutual

/-- **Writing a select is writing the tokens of its tree in order.** -/
theorem Select.write_unionTree {d : Dialect} (h : d.Encloses) : ∀ query : Select,
    query.write d = UnionToken.writeAll d query.unionTree.tokens
  | ⟨target, fields, distinct, orders, groups, joins, [], clauses, limit, offset, forwardKey,
      groupResults, error⟩ => by
    rw [Select.write_eq_alone h, Select.unionTree_eq, UnionMember.unionTree]
    simp only [List.isEmpty_nil, if_true, bind_pure]
  | ⟨target, fields, distinct, orders, groups, joins, ⟨kind, member⟩ :: members, clauses, limit,
      offset, forwardKey, groupResults, error⟩ => by
    rw [Select.write_eq_alone h, Select.unionTree_eq, UnionMember.unionTree,
      UnionMember.writeAll_unionTree h members _ rfl,
      UnionMember.writeAll_union h _ kind (Select.write_unionTree h member),
      UnionToken.writeAll_enclose, UnionMember.writeAll]
    simp only [List.isEmpty_cons, Bool.false_eq_true, if_false, bind_assoc, pure_bind,
      String.append_assoc, Select.isLimited_aloneTree]

/-- Members are written behind a tree that needs no parentheses. -/
theorem UnionMember.writeAll_unionTree {d : Dialect} (h : d.Encloses) :
    ∀ (members : List UnionMember) (before : UnionTree Select Select), before.isLimited = false →
    UnionToken.writeAll d (UnionMember.unionTree before members).tokens = do
      let s ← UnionToken.writeAll d before.tokens
      let t ← UnionMember.writeAll d members
      return s ++ t
  | [], before, _ => by
    rw [UnionMember.unionTree, UnionMember.writeAll]
    simp
  | ⟨kind, member⟩ :: members, before, unlimited => by
    rw [UnionMember.unionTree, UnionMember.writeAll_unionTree h members _ rfl,
      UnionMember.writeAll_union h before kind (Select.write_unionTree h member), unlimited,
      UnionMember.writeAll]
    simp only [bind_assoc, pure_bind, String.append_assoc]
    rfl

end

/-- A select with a union is not a select alone. -/
theorem Select.isLimited_unionTree {query : Select} (h : query.unions ≠ []) :
    query.unionTree.isLimited = false := by
  rw [query.unionTree_eq]
  obtain ⟨⟨kind, member⟩, members, unions⟩ := List.exists_cons_of_ne_nil h
  obtain ⟨before, kind', last, union⟩ :=
    UnionMember.unionTree_union query.aloneTree kind member.unionTree members
  rw [unions, UnionMember.unionTree, union]
  rfl

/-- Writes a part that is masked in the text of a select: a core, or a tail. -/
def UnionTree.writePart : Select ⊕ Select → Writing String
  | .inl query => query.writeToGroups d
  | .inr query => pure (query.writeTail d)

/-- A token is written as its lexeme reads, with a core or a tail in the place of its name. -/
theorem UnionToken.write_eq (token : UnionToken Select Select) :
    token.write d = Masked.write (UnionTree.writePart d) token.lexeme.text := by
  cases token with
  | core query => exact (Masked.write_part (UnionTree.writePart d) (Sum.inl query)).symm
  | tail query => exact (Masked.write_part (UnionTree.writePart d) (Sum.inr query)).symm
  | union kind =>
    rcases kind with _ | _ | _
    · exact (Masked.write_ofString _ " UNION ").symm
    · exact (Masked.write_ofString _ " UNION ALL ").symm
    · exact (Masked.write_ofString _ " UNION DISTINCT ").symm
  | opening => exact (Masked.write_ofString _ "(").symm
  | closing => exact (Masked.write_ofString _ ")").symm

/-- **Writing a select is writing the text of its tree**, with the cores and the tails in it. -/
theorem Select.write_text {d : Dialect} (h : d.Encloses) (query : Select) :
    query.write d = Masked.write (UnionTree.writePart d) query.unionTree.text := by
  rw [query.write_unionTree h, UnionTree.text, UnionToken.text,
    Masked.write_ofLexemes (UnionTree.writePart d) (UnionToken.write_eq d)]
  rfl

/-- **The text of a union is a faithful rendering of its tree**, in a dialect with parentheses
for members of a union:

* writing a select is writing the text of its tree with the cores and the tails in it, where all
  else is `UNION`, `UNION ALL` and `UNION DISTINCT` between blanks and parentheses;
* the tree is read back from this text, whatever names the cores and the tails have in it: the
  same members in order, of the same kinds, nested in the same way, each tail with the select that
  it is of;
* and a tail in a union is always in parentheses with its own core. -/
theorem Select.write_faithful {d : Dialect} (h : d.Encloses) (query : Select) :
    let tree := query.unionTree
    query.write d = Masked.write (UnionTree.writePart d) tree.text ∧
      (∀ (C T : Type) (core : Select → C) (tail : Select → T),
        UnionTree.ofText? (tree.text.map (Glyph.map (Sum.map core tail)))
          = some (tree.map core tail)) ∧
      (query.unions ≠ [] → Masked.TailsEnclosed tree.text) := by
  intro tree
  refine ⟨query.write_text h, fun C T core tail => ?_, fun compound => ?_⟩
  · rw [← UnionTree.text_map]
    exact (tree.map core tail).ofText?_text
  · exact tree.tailsEnclosed_text (Select.isLimited_unionTree compound)

/-- A union with members of all kinds, with a limited head and with a member that is a union
itself, whose last member is limited.  In the masked text the cores have the names of their
tables, and the tails are called by their limits. -/
theorem Select.write_faithful_nested :
    let table (name : String) : Select := Select.all ⟨none, ⟨name, none⟩, .mysql, {}⟩
    let last : Select := { table "c" with limit := some 1 }
    let inner : Select := { table "b" with unions := [⟨some .all, last⟩] }
    let query : Select :=
      { table "a" with limit := some 2, unions := [⟨none, inner⟩, ⟨some .distinct, table "d"⟩] }
    let sql := "(SELECT * FROM `a` LIMIT 2) UNION (SELECT * FROM `b` UNION ALL "
      ++ "(SELECT * FROM `c` LIMIT 1)) UNION DISTINCT SELECT * FROM `d`"
    let core (name : String) : Masked (String ⊕ Option UInt64) := [.part (.inl name)]
    let tail (limit : UInt64) : Masked (String ⊕ Option UInt64) := [.part (.inr (some limit))]
    let masked := Masked.ofString "(" ++ core "a" ++ tail 2 ++ Masked.ofString ") UNION ("
      ++ core "b" ++ Masked.ofString " UNION ALL (" ++ core "c" ++ tail 1
      ++ Masked.ofString ")) UNION DISTINCT " ++ core "d"
    Dialect.mysql.Encloses ∧ query.unions ≠ [] ∧
      (Query.select query).compile .mysql = .ok ⟨sql, []⟩ ∧
      query.unionTree.text.map (Glyph.map (Sum.map (fun core => core.target.table.name)
        (fun tail => tail.limit))) = masked ∧
      UnionTree.ofText? masked = some (.union (.union (.alone "a" (some (some 2))) none
        (.union (.alone "b" none) (some .all) (.alone "c" (some (some 1))))) (some .distinct)
        (.alone "d" none)) ∧
      Masked.TailsEnclosed query.unionTree.text := by
  intro table last inner query sql core tail masked
  obtain ⟨-, reads, enclosed⟩ := Select.write_faithful Dialect.encloses_mysql query
  have compound : query.unions ≠ [] := by simp [query]
  have compiled : (Query.select query).compile .mysql = .ok ⟨sql, []⟩ := by
    simp only [query, inner, last, table, sql]
    rfl
  have laid : query.unionTree.text.map (Glyph.map (Sum.map (fun core => core.target.table.name)
      (fun tail => tail.limit))) = masked := by
    simp only [query, inner, last, table, masked, core, tail]
    rfl
  have read := reads String (Option UInt64) (fun core => core.target.table.name)
    (fun tail => tail.limit)
  rw [laid] at read
  exact ⟨Dialect.encloses_mysql, compound, compiled, laid, read, enclosed compound⟩

end SqlBuilder
