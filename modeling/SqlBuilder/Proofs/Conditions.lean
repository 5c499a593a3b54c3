import SqlBuilder.Proofs.ConditionTree
import SqlBuilder.Proofs.Pruning

/-! # The text of conditions

`Clause.conditions` is the tree that a list of clauses stands for.  It has all clauses but the
groups that hold no comparison, and all connectives but the first of each level
(`Clause.clauses_conditions`).  Writing the clauses is writing the tokens of that tree in order
(`Clause.writeAll_eq`), and these are the text of the tree with the comparisons written in it
(`Clause.writeAll_text`), from which the tree is read back; so their text says what the tree is.

This text stands in the text of a statement (`Query.placed_of_write`) behind `WHERE`, which is only
there when there is a comparison (`Query.Placed.writeWhere_eq`), and behind `ON` in a join.
-/
namespace SqlBuilder

/-! ### The tree that clauses stand for -/

/-- A level with one more condition behind it, if there is one. -/
def Conditions.extend {α : Type} (before : Option (Conditions α)) (connective : Connective) :
    Option (Condition α) → Option (Conditions α)
  | none => before
  | some condition =>
    match before with
    | none => some (.first condition)
    | some level => some (.tied level connective condition)

mutual

/-- A condition as a tree with comparisons as its atoms; a group without any is no tree. -/
def Predicate.condition : Predicate → Option (Condition Predicate)
  | .compare column operator operand => some (.leaf (.compare column operator operand))
  | .columns left operator right => some (.leaf (.columns left operator right))
  | .exists negated query => some (.leaf (.exists negated query))
  | .group clauses => (Clause.conditions none clauses).map .group

/-- Clauses as a tree, behind what comes before them on their level. -/
def Clause.conditions (before : Option (Conditions Predicate)) :
    List Clause → Option (Conditions Predicate)
  | [] => before
  | ⟨connective, predicate⟩ :: clauses =>
    Clause.conditions (Conditions.extend before connective predicate.condition) clauses

end

mutual

/-- The tree as conditions again. -/
def Condition.predicate : Condition Predicate → Predicate
  | .leaf atom => atom
  | .group level => .group level.clauses

/-- The tree as clauses again, `AND` in front of the first of each level. -/
def Conditions.clauses : Conditions Predicate → List Clause
  | .first condition => [⟨.and, condition.predicate⟩]
  | .tied before connective condition => before.clauses ++ [⟨connective, condition.predicate⟩]

end

mutual

/-- The condition with `AND` in front of the first clause of each level in it. -/
def Predicate.lead : Predicate → Predicate
  | .compare column operator operand => .compare column operator operand
  | .columns left operator right => .columns left operator right
  | .exists negated query => .exists negated query
  | .group clauses => .group (Clause.lead true clauses)

/-- The clauses with `AND` in front of the first of each level; these are the first of theirs
or are not. -/
def Clause.lead (first : Bool) : List Clause → List Clause
  | [] => []
  | ⟨connective, predicate⟩ :: clauses =>
    ⟨if first then .and else connective, predicate.lead⟩ :: Clause.lead false clauses

end

mutual

/-- A condition has a tree exactly when it holds a comparison. -/
theorem Predicate.condition_eq_none_iff : ∀ predicate : Predicate,
    predicate.condition = none ↔ predicate.hasLeaf = false
  | .compare .. | .columns .. | .exists .. => by simp [Predicate.condition, Predicate.hasLeaf]
  | .group clauses => by
    rw [Predicate.condition, Option.map_eq_none_iff, Clause.conditions_eq_none_iff none clauses,
      Predicate.hasLeaf]
    simp

theorem Clause.conditions_eq_none_iff : ∀ (before : Option (Conditions Predicate))
    (clauses : List Clause),
    Clause.conditions before clauses = none ↔ before = none ∧ Clause.anyLeaf clauses = false
  | before, [] => by simp [Clause.conditions, Clause.anyLeaf]
  | before, ⟨connective, predicate⟩ :: clauses => by
    rw [Clause.conditions, Clause.conditions_eq_none_iff _ clauses, Clause.anyLeaf,
      Bool.or_eq_false_iff, ← predicate.condition_eq_none_iff]
    cases predicate.condition <;> cases before <;> simp [Conditions.extend]

end

mutual

/-- Pruning leaves the tree as it is. -/
theorem Predicate.condition_prune : ∀ predicate : Predicate,
    predicate.prune.condition = predicate.condition
  | .compare .. | .columns .. | .exists .. => by rw [Predicate.prune]
  | .group clauses => by
    rw [Predicate.prune, Predicate.condition, Predicate.condition,
      Clause.conditions_prune none clauses]

theorem Clause.conditions_prune :
    ∀ (before : Option (Conditions Predicate)) (clauses : List Clause),
    Clause.conditions before (Clause.prune clauses)
      = Clause.conditions before clauses
  | before, [] => by rw [Clause.prune]
  | before, ⟨connective, predicate⟩ :: clauses => by
    by_cases leaf : predicate.hasLeaf = true
    · rw [Clause.prune_cons_of_leaf connective leaf, Clause.conditions, Clause.conditions,
        predicate.condition_prune, Clause.conditions_prune _ clauses]
    · have leafless := Bool.eq_false_iff.mpr leaf
      rw [Clause.prune_cons_of_leafless connective leafless, Clause.conditions_prune _ clauses,
        Clause.conditions, predicate.condition_eq_none_iff.mpr leafless]
      rfl

end

/-- A tree of no conditions has no clauses. -/
def Conditions.allClauses : Option (Conditions Predicate) → List Clause
  | none => []
  | some level => level.clauses

mutual

theorem Predicate.predicate_condition : ∀ predicate : Predicate, predicate.hasLeaf = true →
    ∃ condition, predicate.condition = some condition ∧
      condition.predicate = predicate.prune.lead
  | .compare .., _ | .columns .., _ | .exists .., _ =>
    ⟨_, by rw [Predicate.condition], by rw [Predicate.prune, Predicate.lead]; rfl⟩
  | .group clauses, h => by
    have lossless := Clause.clauses_conditions none clauses
    cases level : Clause.conditions none clauses with
    | none =>
      have leafless := ((Clause.conditions_eq_none_iff none clauses).mp level).2
      rw [Predicate.hasLeaf, leafless] at h
      cases h
    | some level' =>
      rw [level] at lossless
      refine ⟨.group level', by rw [Predicate.condition, level]; rfl, ?_⟩
      rw [Condition.predicate, Predicate.prune, Predicate.lead]
      exact congrArg Predicate.group lossless

/-- **What the tree keeps**: all clauses but the groups that hold no comparison, with all
connectives but the first of each level. -/
theorem Clause.clauses_conditions : ∀ (before : Option (Conditions Predicate))
    (clauses : List Clause),
    Conditions.allClauses (Clause.conditions before clauses)
      = Conditions.allClauses before ++ Clause.lead before.isNone (Clause.prune clauses)
  | before, [] => by simp [Clause.conditions, Clause.prune, Clause.lead]
  | before, ⟨connective, predicate⟩ :: clauses => by
    rw [Clause.conditions, Clause.clauses_conditions _ clauses]
    by_cases leaf : predicate.hasLeaf = true
    · obtain ⟨condition, tree, kept⟩ := predicate.predicate_condition leaf
      rw [Clause.prune_cons_of_leaf connective leaf, tree, Clause.lead]
      cases before with
      | none => simp [Conditions.extend, Conditions.allClauses, Conditions.clauses, kept]
      | some level => simp [Conditions.extend, Conditions.allClauses, Conditions.clauses, kept]
    · have leafless := Bool.eq_false_iff.mpr leaf
      rw [Clause.prune_cons_of_leafless connective leafless,
        predicate.condition_eq_none_iff.mpr leafless]
      rfl

end

/-! ### Writing is writing the tokens -/

variable (d : Dialect)

namespace ConditionToken

/-- Writes a token; an atom is written as the comparison that it is. -/
def write : ConditionToken Predicate → Writing String
  | .leaf predicate => predicate.write d
  | .tie connective => pure (" " ++ connective.sql ++ " ")
  | .opening => pure "("
  | .closing => pure ")"

/-- The pieces of a token. -/
def pieces : ConditionToken Predicate → Except Error (List Piece)
  | .leaf predicate => predicate.pieces d
  | .tie connective => .ok [.text (" " ++ connective.sql ++ " ")]
  | .opening => .ok [.text "("]
  | .closing => .ok [.text ")"]

theorem gives_write (token : ConditionToken Predicate) :
    Writing.Gives d (token.write d) (token.pieces d) := by
  cases token with
  | leaf predicate => exact predicate.gives_write d
  | tie connective => exact Writing.gives_pure (fun n => by simp [Piece.render]) rfl
  | opening => exact Writing.gives_pure (fun n => by simp [Piece.render]) rfl
  | closing => exact Writing.gives_pure (fun n => by simp [Piece.render]) rfl

/-- The pieces of tokens in a row. -/
def allPieces (tokens : List (ConditionToken Predicate)) : Except Error (List Piece) :=
  Writing.piecesInOrder (tokens.map (pieces d))

theorem allPieces_append (first second : List (ConditionToken Predicate)) :
    allPieces d (first ++ second) = do
      let ps ← allPieces d first
      let qs ← allPieces d second
      return ps ++ qs := by
  rw [allPieces, List.map_append, Writing.piecesInOrder_append]
  rfl

theorem allPieces_cons {token : ConditionToken Predicate} {ps : List Piece}
    (h : token.pieces d = .ok ps) (tokens : List (ConditionToken Predicate)) :
    allPieces d (token :: tokens) = do
      let qs ← allPieces d tokens
      return ps ++ qs := by
  rw [allPieces, List.map_cons, Writing.piecesInOrder, h]
  rfl

/-- A group in parentheses. -/
theorem allPieces_group (level : Conditions Predicate) :
    allPieces d (Condition.group level).tokens = do
      let ps ← allPieces d level.tokens
      return Piece.enclose ps := by
  rw [Condition.tokens, allPieces_cons d rfl, allPieces_append]
  cases allPieces d level.tokens <;> rfl

theorem allPieces_leaf (predicate : Predicate) :
    allPieces d (Condition.leaf predicate).tokens = predicate.pieces d := by
  show (predicate.pieces d >>= fun ps => Except.ok (ps ++ [])) = _
  cases predicate.pieces d <;> simp [bind, Except.bind]

end ConditionToken

open ConditionToken

/-- A condition behind its connective is one more part that has something to say. -/
theorem Clause.parts_cons_of_condition {connective : Connective} {predicate : Predicate}
    {condition : Condition Predicate} (h : predicate.condition = some condition)
    (clauses : List Clause) :
    Clause.parts d (⟨connective, predicate⟩ :: clauses) = do
      let part ← predicate.pieces d
      let parts ← Clause.parts d clauses
      return (connective, part) :: parts := by
  rw [Clause.parts]
  cases hpart : predicate.pieces d with
  | error e => rfl
  | ok part =>
    have shown : part ≠ [] := fun silent => by
      have leafless := (predicate.pieces_eq_nil_iff hpart).mp silent
      rw [predicate.condition_eq_none_iff.mpr leafless] at h
      cases h
    show (Clause.parts d clauses >>= fun parts =>
      Except.ok (if part.isEmpty then parts else (connective, part) :: parts)) = _
    have full : part.isEmpty = false := by simpa using shown
    rw [full]
    rfl

mutual

theorem Predicate.allPieces_condition : ∀ (predicate : Predicate)
    {condition : Condition Predicate}, predicate.condition = some condition →
    allPieces d condition.tokens = predicate.pieces d
  | .compare .., _, h | .columns .., _, h | .exists .., _, h => by
    rw [Predicate.condition] at h
    cases h
    exact allPieces_leaf d _
  | .group clauses, condition, h => by
    rw [Predicate.condition] at h
    obtain ⟨level, hlevel, rfl⟩ := Option.map_eq_some_iff.mp h
    have written := Clause.allPieces_conditions clauses
    rw [hlevel] at written
    rw [allPieces_group, show allPieces d level.tokens = _ from written, Predicate.pieces]
    cases hparts : Clause.parts d clauses with
    | error e => rfl
    | ok parts =>
      have some : parts ≠ [] := fun none => by
        have leafless := (Clause.parts_eq_nil_iff clauses hparts).mp none
        rw [(Clause.conditions_eq_none_iff .none clauses).mpr ⟨rfl, leafless⟩] at hlevel
        cases hlevel
      show Except.ok _ = Except.ok (if parts.isEmpty then [] else _)
      rw [if_neg (by simpa using some)]

/-- The tree of a level is laid out as the parts of the level that have something to say. -/
theorem Clause.allPieces_conditions : ∀ clauses : List Clause,
    allPieces d (Conditions.allTokens (Clause.conditions none clauses)) = do
      let parts ← Clause.parts d clauses
      return Clause.connect parts
  | [] => rfl
  | ⟨connective, predicate⟩ :: clauses => by
    rw [Clause.conditions]
    cases hcondition : predicate.condition with
    | none =>
      have leafless := predicate.condition_eq_none_iff.mp hcondition
      rw [Conditions.extend, Clause.parts_cons_of_leafless d leafless]
      exact Clause.allPieces_conditions clauses
    | some condition =>
      have first := Predicate.allPieces_condition predicate hcondition
      rw [Conditions.extend, Clause.allPieces_conditions_behind (.first condition) clauses,
        Conditions.tokens, first, Clause.parts_cons_of_condition d hcondition]
      cases predicate.pieces d <;> cases Clause.parts d clauses <;> rfl

/-- What comes behind a level that is begun is tied to it. -/
theorem Clause.allPieces_conditions_behind : ∀ (level : Conditions Predicate)
    (clauses : List Clause),
    allPieces d (Conditions.allTokens (Clause.conditions (some level) clauses)) = do
      let ps ← allPieces d level.tokens
      let parts ← Clause.parts d clauses
      return ps ++ parts.flatMap Clause.tied
  | level, [] => by
    show allPieces d level.tokens = _
    cases allPieces d level.tokens with
    | error e => rfl
    | ok ps => exact congrArg Except.ok (List.append_nil ps).symm
  | level, ⟨connective, predicate⟩ :: clauses => by
    rw [Clause.conditions]
    cases hcondition : predicate.condition with
    | none =>
      have leafless := predicate.condition_eq_none_iff.mp hcondition
      rw [Conditions.extend, Clause.parts_cons_of_leafless d leafless]
      exact Clause.allPieces_conditions_behind level clauses
    | some condition =>
      have next := Predicate.allPieces_condition predicate hcondition
      rw [Conditions.extend, Clause.allPieces_conditions_behind _ clauses, Conditions.tokens,
        allPieces_append, allPieces_cons d rfl, next, Clause.parts_cons_of_condition d hcondition]
      cases allPieces d level.tokens <;> cases predicate.pieces d <;>
        cases Clause.parts d clauses <;> simp [bind, Except.bind, pure, Except.pure, Clause.tied]

end

/-- The tokens of the tree that clauses stand for. -/
def Clause.tokens (clauses : List Clause) : List (ConditionToken Predicate) :=
  Conditions.allTokens (Clause.conditions none clauses)

/-- Writing clauses is writing the tokens of their tree in order. -/
theorem Clause.writeAll_eq (clauses : List Clause) :
    Clause.writeAll d "" clauses
      = Writing.inOrder ((Clause.tokens clauses).map (ConditionToken.write d)) := by
  have laid := Writing.gives_inOrder (ConditionToken.gives_write d) (Clause.tokens clauses)
  have pieces : Writing.piecesInOrder ((Clause.tokens clauses).map (ConditionToken.pieces d))
      = _ := Clause.allPieces_conditions d clauses
  rw [pieces] at laid
  exact Writing.Gives.unique (Clause.simulated d clauses).gives laid

/-- A token is written as its lexeme reads, with a comparison in the place of its name. -/
theorem ConditionToken.write_eq (token : ConditionToken Predicate) :
    token.write d = Masked.write (Predicate.write d) token.lexeme.text := by
  cases token with
  | leaf predicate => exact (Masked.write_part _ predicate).symm
  | tie connective =>
    cases connective with
    | and => exact (Masked.write_ofString _ " AND ").symm
    | or => exact (Masked.write_ofString _ " OR ").symm
  | opening => exact (Masked.write_ofString _ "(").symm
  | closing => exact (Masked.write_ofString _ ")").symm

/-- **Writing clauses is writing the text of their tree**, with the comparisons in it. -/
theorem Clause.writeAll_text (clauses : List Clause) :
    Clause.writeAll d "" clauses
      = Masked.write (Predicate.write d) (Conditions.text (Clause.conditions none clauses)) := by
  rw [Clause.writeAll_eq, Conditions.text,
    Masked.write_ofLexemes (Predicate.write d) (ConditionToken.write_eq d)]
  rfl

/-! ### Where the text stands -/

/-- Clauses have a text exactly when they hold a comparison. -/
theorem Clause.text_eq_empty_iff {clauses : List Clause} {bound after : List Value} {text : String}
    (h : (Clause.writeAll d "" clauses).run bound = .ok (text, after)) :
    text = "" ↔ Clause.anyLeaf clauses = false := by
  rw [(Clause.simulated d clauses).gives d bound] at h
  cases hparts : Clause.parts d clauses with
  | error e =>
    rw [hparts] at h
    cases h
  | ok parts =>
    rw [hparts] at h
    cases h
    rw [Clause.render_eq_empty_iff d hparts, Clause.connect_eq_nil_iff
      (Clause.allShown_parts d hparts), Clause.parts_eq_nil_iff clauses hparts]

/-- Where the text of the conditions stands in the text of a statement that is written behind some
values: at the end of an update or a deletion, and between the joins and the groups of a select,
whatever follows.  Before it come the fields and the joins, or what is set, and behind it the
members of a union, as these are written. -/
def Query.Placed (d : Dialect) (conditions : String) (start last : List Value) :
    Query → String → Prop
  | .select query, sql => ∃ fields between joins bound after members,
      (Field.writeAll d query.fields).run start = .ok (fields, between) ∧
      (Join.writeAll d query.joins).run between = .ok (joins, bound) ∧
      (Clause.writeAll d "" query.clauses).run bound = .ok (conditions, after) ∧
      (UnionMember.writeAll d query.unions).run after = .ok (members, last) ∧
      let alone := query.writeCore d fields joins conditions ++ query.writeTail d
      sql = alone ++ members ∨ sql = "(" ++ alone ++ ")" ++ members
  | .insert _, _ => conditions = ""
  | .update query, sql => ∃ sets bound,
      (query.sets.mapM (Update.writeSet d)).run start = .ok (sets, bound) ∧
      (Clause.writeAll d "" query.clauses).run bound = .ok (conditions, last) ∧
      sql = "UPDATE " ++ query.target.writeTable d ++ " SET " ++ ", ".intercalate sets
        ++ writeWhere conditions
  | .delete query, sql =>
      (Clause.writeAll d "" query.clauses).run start = .ok (conditions, last) ∧
      sql = "DELETE FROM " ++ query.target.writeTable d ++ writeWhere conditions

/-- What is prepared is what is written behind nothing. -/
theorem Query.run_of_compile {d : Dialect} {query : Query} {p : Prepared}
    (h : query.compile d = .ok p) : (query.write d).run [] = .ok (p.sql, p.bindings) := by
  rw [Query.compile, Writing.prepare] at h
  cases written : (query.write d).run [] with
  | error e =>
    rw [written] at h
    cases h
  | ok result =>
    rw [written] at h
    cases h
    rfl

/-- What is written behind nothing is what is prepared. -/
theorem Query.compile_of_run {d : Dialect} {query : Query} {sql : String} {values : List Value}
    (h : (query.write d).run [] = .ok (sql, values)) : query.compile d = .ok ⟨sql, values⟩ := by
  rw [Query.compile, Writing.prepare, h]
  rfl

theorem Select.writeMember_eq_ok {d : Dialect} {limited compound : Bool} {text member : String}
    (h : Select.writeMember d limited compound text = .ok member) :
    member = text ∨ member = "(" ++ text ++ ")" := by
  rw [Select.writeMember] at h
  split at h
  · exact Or.inl (Except.ok.inj h).symm
  · split at h
    · exact Or.inr (Except.ok.inj h).symm
    · split at h
      · cases h
      · exact Or.inl (Except.ok.inj h).symm

open Writing in
/-- The conditions of a statement that is written have their text in its text. -/
theorem Query.placed_of_write {d : Dialect} {query : Query} {start last : List Value}
    {sql : String} (written : (query.write d).run start = .ok (sql, last)) :
    ∃ text, query.Placed d text start last sql := by
  cases query with
  | select query =>
    rw [Query.write, Select.write_eq] at written
    obtain ⟨_, -, written⟩ := run_check_eq_ok_iff.mp written
    obtain ⟨fields, between, hfields, written⟩ := run_bind_eq_ok_iff.mp written
    obtain ⟨joins, bound, hjoins, written⟩ := run_bind_eq_ok_iff.mp written
    obtain ⟨text, after, conditions, written⟩ := run_bind_eq_ok_iff.mp written
    by_cases single : query.unions.isEmpty
    · rw [if_pos single] at written
      cases written
      have alone : (UnionMember.writeAll d query.unions).run last = .ok ("", last) := by
        rw [List.isEmpty_iff.mp single, UnionMember.writeAll]
        rfl
      exact ⟨text, fields, between, joins, bound, last, "", hfields, hjoins, conditions, alone,
        Or.inl (String.append_empty ..).symm⟩
    · rw [if_neg single] at written
      obtain ⟨head, head_eq, written⟩ := run_check_eq_ok_iff.mp written
      obtain ⟨members, _, hmembers, written⟩ := run_bind_eq_ok_iff.mp written
      cases written
      refine ⟨text, fields, between, joins, bound, _, members, hfields, hjoins, conditions,
        hmembers, ?_⟩
      rcases Select.writeMember_eq_ok head_eq with rfl | rfl
      · exact Or.inl rfl
      · exact Or.inr rfl
  | insert query => exact ⟨"", rfl⟩
  | update query =>
    obtain ⟨_, -, written⟩ := run_check_eq_ok_iff.mp written
    by_cases empty : query.sets.isEmpty
    · rw [if_pos empty] at written
      cases written
    · rw [if_neg empty] at written
      obtain ⟨sets, bound, hsets, written⟩ := run_bind_eq_ok_iff.mp written
      obtain ⟨text, after, conditions, written⟩ := run_bind_eq_ok_iff.mp written
      cases written
      exact ⟨text, sets, bound, hsets, conditions, rfl⟩
  | delete query =>
    obtain ⟨_, -, written⟩ := run_check_eq_ok_iff.mp written
    obtain ⟨text, after, conditions, written⟩ := run_bind_eq_ok_iff.mp written
    cases written
    exact ⟨text, conditions, rfl⟩

open Writing in
/-- What a join is on, when it can be written, is the text of its clauses, and there is one. -/
theorem JoinCondition.written_on {d : Dialect} {kind : JoinKind} {clauses : List Clause}
    {bound after : List Value} {on : String}
    (h : ((JoinCondition.clauses clauses).write d kind).run bound = .ok (on, after)) :
    ∃ text, (Clause.writeAll d "" clauses).run bound = .ok (text, after) ∧ text ≠ "" ∧
      on = " ON " ++ text := by
  obtain ⟨text, between, conditions, h⟩ := run_bind_eq_ok_iff.mp h
  obtain ⟨written, rfl⟩ := run_ofExcept_eq_ok_iff.mp h
  rw [writeOn] at written
  split at written
  · cases written
  · next shown =>
    refine ⟨text, conditions, fun empty => shown ?_, (Except.ok.inj written).symm⟩
    rw [empty]
    rfl

/-- The text that is placed is empty exactly when the statement has no comparison. -/
theorem Query.Placed.eq_empty_iff {d : Dialect} {query : Query} {text sql : String}
    {start last : List Value} (placed : query.Placed d text start last sql) :
    text = "" ↔ Clause.anyLeaf query.clauses = false := by
  cases query with
  | select query =>
    obtain ⟨_, _, _, _, _, _, -, -, written, -⟩ := placed
    exact Clause.text_eq_empty_iff d written
  | insert query => exact ⟨fun _ => rfl, fun _ => placed⟩
  | update query =>
    obtain ⟨_, _, -, written, -⟩ := placed
    exact Clause.text_eq_empty_iff d written
  | delete query => exact Clause.text_eq_empty_iff d placed.1

/-- `WHERE` is written exactly when there is a comparison to stand behind it. -/
theorem Query.Placed.writeWhere_eq {d : Dialect} {query : Query} {text sql : String}
    {start last : List Value} (placed : query.Placed d text start last sql) :
    writeWhere text
      = if (Clause.prune query.clauses).isEmpty then "" else " WHERE " ++ text := by
  have empty : text.isEmpty = (Clause.prune query.clauses).isEmpty := by
    rw [Bool.eq_iff_iff, String.isEmpty_iff, placed.eq_empty_iff, List.isEmpty_iff,
      Clause.prune_eq_nil_iff]
  rw [writeWhere, empty]

/-- **The text of conditions is a faithful rendering of their tree.**  For clauses of any kind
and depth, without the groups that hold no comparison:

* writing the clauses is writing the text of their tree with the comparisons in it, where all
  else is `AND` and `OR` between blanks and parentheses;
* the tree is read back from this text, whatever names the comparisons have in it;
* the tree has just these clauses, up to the first connective of each level;
* the text is empty exactly when none are left;
* this text is what stands behind `WHERE` in a statement with these clauses, or in a select inside
  another statement, which has no `WHERE` and is written as without conditions when none are left;
  and behind `ON` in a join, which is refused then;
* a group without comparisons that is put in, at any depth, changes neither the text nor the
  values, and stripping takes it out again;
* two statements that are stripped to the same one, with such groups in any of the selects in
  them, have the same text and the same values. -/
theorem Clause.writeAll_faithful (d : Dialect) (clauses : List Clause) :
    let kept := Clause.prune clauses
    let tree := Clause.conditions none kept
    let masked := Conditions.text tree
    Clause.writeAll d "" clauses = Masked.write (Predicate.write d) masked ∧
      (∀ (α : Type) (name : Predicate → α),
        Conditions.ofText? (masked.map (Glyph.map name))
          = some (tree.map (Conditions.map name))) ∧
      Conditions.allClauses tree = Clause.lead true kept ∧
      (∀ bound text after, (Clause.writeAll d "" clauses).run bound = .ok (text, after) →
        (text = "" ↔ kept = [])) ∧
      (∀ query : Query, query.clauses = clauses →
        (∀ start sql last, (query.write d).run start = .ok (sql, last) →
          ∃ text, query.Placed d text start last sql ∧
            writeWhere text = if kept.isEmpty then "" else " WHERE " ++ text) ∧
        (kept = [] → query.unfiltered.write d = query.write d)) ∧
      (∀ kind bound on after,
        ((JoinCondition.clauses clauses).write d kind).run bound = .ok (on, after) →
        ∃ text, (Clause.writeAll d "" clauses).run bound = .ok (text, after) ∧ text ≠ "" ∧
          on = " ON " ++ text) ∧
      (∀ padded, Clause.Padded clauses padded →
        Clause.writeAll d "" padded = Clause.writeAll d "" clauses ∧
          Clause.stripAll padded = Clause.stripAll clauses) ∧
      ∀ first second : Query, first.strip = second.strip → first.write d = second.write d := by
  intro kept tree masked
  have same : tree = Clause.conditions none clauses := Clause.conditions_prune none clauses
  have lossless := Clause.clauses_conditions none clauses
  refine ⟨?_, fun α name => ?_, ?_, fun bound text after written => ?_,
    fun query holds => ⟨fun start sql last written => ?_, fun bare => ?_⟩,
    fun kind bound on after => JoinCondition.written_on,
    fun padded put => ?_, fun first second alike => ?_⟩
  · rw [Clause.writeAll_text, ← same]
  · rw [← Conditions.text_map, Conditions.ofText?_text]
  · rw [same, lossless]
    rfl
  · rw [Clause.text_eq_empty_iff d written, Clause.prune_eq_nil_iff]
  · obtain ⟨text, placed⟩ := Query.placed_of_write written
    have behind := placed.writeWhere_eq
    rw [holds] at behind
    exact ⟨text, placed, behind⟩
  · have leafless : Clause.anyLeaf query.clauses = false := by
      rw [holds]
      exact (Clause.prune_eq_nil_iff clauses).mp bare
    exact Query.write_unfiltered d leafless
  · have stripped := put.stripAll_eq
    exact ⟨Clause.writeAll_eq_of_stripAll d stripped, stripped⟩
  · rw [← first.write_strip, alike, second.write_strip]

/-- A deletion with three comparisons, two of them in a group, and groups that say nothing at the
front of both levels.  In the masked text each comparison has the name of its first column. -/
theorem Clause.writeAll_faithful_silent :
    let users : Target := ⟨none, ⟨"users", none⟩, .sqlite, {}⟩
    let equal (left right : String) : Predicate := .columns (.name left) .eq (.name right)
    let silent : Clause := ⟨.and, .group [⟨.and, .group []⟩]⟩
    let inner : List Clause := [⟨.or, equal "c" "d"⟩, ⟨.and, equal "e" "f"⟩]
    let clauses : List Clause := [silent, ⟨.or, equal "a" "b"⟩, ⟨.or, .group inner⟩]
    let padded : List Clause := [silent, ⟨.or, equal "a" "b"⟩, ⟨.or, .group (silent :: inner)⟩]
    let query : Query := .delete ⟨users, padded, none⟩
    let bare : Query := .delete ⟨users, [⟨.or, equal "a" "b"⟩, ⟨.or, .group inner⟩], none⟩
    let sql := "DELETE FROM \"users\" WHERE \"a\" = \"b\" OR (\"c\" = \"d\" AND \"e\" = \"f\")"
    let name : Predicate → String
      | .columns (.name left) _ _ => left
      | _ => ""
    let masked : Masked String := [.part "a"] ++ Masked.ofString " OR (" ++ [.part "c"]
      ++ Masked.ofString " AND " ++ [.part "e"] ++ Masked.ofString ")"
    query.compile .sqlite = .ok ⟨sql, []⟩ ∧
      (Conditions.text (Clause.conditions none (Clause.prune padded))).map (Glyph.map name)
        = masked ∧
      Conditions.ofText? masked = some (some (.tied (.first (.leaf "a")) .or
        (.group (.tied (.first (.leaf "c")) .and (.leaf "e"))))) ∧
      (∃ text, text ≠ "" ∧
        sql = "DELETE FROM " ++ users.writeTable .sqlite ++ (" WHERE " ++ text)) ∧
      query.strip = bare.strip ∧ query.write .sqlite = bare.write .sqlite ∧
      Clause.Padded clauses padded ∧
      Clause.writeAll .sqlite "" padded = Clause.writeAll .sqlite "" clauses := by
  intro users equal silent inner clauses padded query bare sql name masked
  have compiled : query.compile .sqlite = .ok ⟨sql, []⟩ := by
    simp only [query, padded, silent, inner, equal, users, sql]
    rfl
  have laid : (Conditions.text (Clause.conditions none (Clause.prune padded))).map
      (Glyph.map name) = masked := by
    simp only [padded, silent, inner, equal, name, masked]
    rfl
  have put : Clause.Padded clauses padded :=
    .inside [silent, ⟨.or, equal "a" "b"⟩] [] .or (.here [] inner .and _ rfl)
  obtain ⟨-, -, -, -, -, -, added, -⟩ := Clause.writeAll_faithful .sqlite clauses
  obtain ⟨-, reads, -, empty, placed, -, -, stripped⟩ := Clause.writeAll_faithful .sqlite padded
  have alike : query.strip = bare.strip := by
    simp only [query, bare, padded, silent, inner, equal, users]
    rfl
  have read := reads String name
  rw [laid] at read
  obtain ⟨text, ⟨written, place⟩, behind⟩ :=
    (placed query rfl).1 _ _ _ (Query.run_of_compile compiled)
  refine ⟨compiled, laid, read, ⟨text, fun none => ?_, ?_⟩, alike, stripped query bare alike, put,
    (added _ put).1⟩
  · have left := (empty _ _ _ written).mp none
    rw [Clause.prune_eq_nil_iff] at left
    cases left
  · rw [behind] at place
    exact place

end SqlBuilder
