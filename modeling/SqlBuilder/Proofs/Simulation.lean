import SqlBuilder.Proofs.Gives

/-! # Writing gives the pieces

Writing a statement makes the texts of rows, joins, conditions and union members apart from
the rest, and puts them together at the end.  This module proves that it gives the pieces of
the statement (`Query.gives_write`): behind any values bound before, writing succeeds exactly
when there are pieces, its text is their rendering, and it binds their values.

Every part of the syntax has one lemma for it.  The one part where the two are not alike is
the conditions: writing looks at the *text* of a condition to see whether it says anything,
and pieces are looked at as a list.  They agree because every condition but an empty group
has some text of its own (`Piece.Shown`).
-/
namespace SqlBuilder

variable (d : Dialect)

open Writing Piece

/-! ### Conditions -/

/-- Pieces among which there is a text of the grammar, so that they are seen in the text. -/
def Piece.Shown (pieces : List Piece) : Prop :=
  ∃ s, s ≠ "" ∧ Piece.text s ∈ pieces

theorem Piece.Shown.render_ne {pieces : List Piece} (h : Shown pieces) (n : Nat) :
    render d n pieces ≠ "" := by
  obtain ⟨s, hs, hmem⟩ := h
  obtain ⟨before, after, rfl⟩ := List.append_of_mem hmem
  rw [render_append, render]
  intro empty
  rw [String.append_eq_empty_iff, String.append_eq_empty_iff] at empty
  exact hs empty.2.1

theorem Piece.Shown.ne_nil {pieces : List Piece} (h : Shown pieces) : pieces ≠ [] := by
  obtain ⟨s, -, hmem⟩ := h
  exact List.ne_nil_of_mem hmem

theorem shown_leftPieces (column : Column) (operator : Operator) (rest : List Piece) :
    Piece.Shown (leftPieces column operator ++ rest) := by
  refine ⟨" " ++ operator.sql ++ " ", ?_, by simp [leftPieces]⟩
  intro empty
  rw [String.append_eq_empty_iff] at empty
  exact absurd empty.2 (by decide)

theorem shown_enclose (ps : List Piece) : Piece.Shown (Piece.enclose ps) :=
  ⟨"(", by decide, List.mem_cons_self ..⟩

theorem Operand.shown_of_pieces {column : Column} {operator : Operator} {operand : Operand}
    {ps : List Piece} (h : operand.pieces d column operator = .ok ps) : Piece.Shown ps := by
  cases operand with
  | value v =>
    cases h
    exact shown_leftPieces column operator _
  | list list =>
    rw [Operand.pieces, listPieces] at h
    split at h
    · split at h
      · cases h
        exact ⟨_, by split <;> decide, List.mem_cons_self ..⟩
      · cases h
        exact shown_leftPieces column operator _
    · split at h
      · cases h
        exact shown_leftPieces column operator _
      · cases h
  | raw piece =>
    cases h
    exact shown_leftPieces column operator _
  | select query =>
    obtain ⟨inner, -, h⟩ := bind_eq_ok_iff.mp h
    cases h
    exact shown_leftPieces column operator _

/-- A condition that has pieces at all is seen in the text. -/
theorem Predicate.shown_of_pieces {predicate : Predicate} {ps : List Piece}
    (h : predicate.pieces d = .ok ps) (hne : ps ≠ []) : Piece.Shown ps := by
  cases predicate with
  | compare column operator operand => exact operand.shown_of_pieces d h
  | columns left operator right =>
    cases h
    exact shown_leftPieces left operator _
  | «exists» negated query =>
    obtain ⟨inner, -, h⟩ := bind_eq_ok_iff.mp h
    cases h
    exact ⟨_, by split <;> decide, List.mem_cons_self ..⟩
  | group clauses =>
    obtain ⟨parts, -, h⟩ := bind_eq_ok_iff.mp h
    have h : (if parts.isEmpty then [] else Piece.enclose (Clause.connect parts)) = ps :=
      Except.ok.inj h
    split at h
    · exact absurd h.symm hne
    · exact h ▸ shown_enclose _

namespace Clause

/-- All parts are seen in the text. -/
def AllShown (parts : List (Connective × List Piece)) : Prop :=
  ∀ part ∈ parts, Piece.Shown part.2

theorem connect_append_singleton (before : List (Connective × List Piece))
    (connective : Connective) (part : List Piece) :
    connect (before ++ [(connective, part)]) =
      if before.isEmpty then part else connect before ++ tied (connective, part) := by
  cases before with
  | nil => simp [connect]
  | cons first before => simp [connect]

theorem values_connect (parts : List (Connective × List Piece)) :
    values (connect parts) = parts.flatMap fun part => values part.2 := by
  cases parts with
  | nil => rfl
  | cons first rest =>
    rw [connect, values_append, values_flatMap]
    rfl

/-- Parts that are seen make a text exactly when there are any. -/
theorem render_connect_eq_empty_iff {parts : List (Connective × List Piece)}
    (h : AllShown parts) (n : Nat) : render d n (connect parts) = "" ↔ parts = [] := by
  cases parts with
  | nil => exact ⟨fun _ => rfl, fun _ => rfl⟩
  | cons first rest =>
    refine ⟨fun empty => ?_, fun h => by cases h⟩
    rw [connect, render_append, String.append_eq_empty_iff] at empty
    exact absurd empty.1 ((h first (List.mem_cons_self ..)).render_ne d n)

/-- Parts that are seen have pieces exactly when there are any. -/
theorem connect_eq_nil_iff {parts : List (Connective × List Piece)} (h : AllShown parts) :
    connect parts = [] ↔ parts = [] := by
  cases parts with
  | nil => exact ⟨fun _ => rfl, fun _ => rfl⟩
  | cons first rest =>
    refine ⟨fun none => ?_, fun h => by cases h⟩
    rw [connect, List.append_eq_nil_iff] at none
    exact absurd none.1 (h first (List.mem_cons_self ..)).ne_nil

/-- **One step of writing clauses.**  Tying a condition to a text is tying its pieces to the
pieces of that text. -/
theorem tie_render {before : List (Connective × List Piece)} (hbefore : AllShown before)
    (connective : Connective) {part : List Piece} (hpart : Piece.Shown part) (n : Nat) :
    connective.tie (render d n (connect before))
        (render d (n + (values (connect before)).length) part)
      = render d n (connect (before ++ [(connective, part)])) := by
  have shown : render d (n + (values (connect before)).length) part ≠ "" :=
    hpart.render_ne d _
  rw [Connective.tie, connect_append_singleton, if_neg (by simpa using shown)]
  cases before with
  | nil => simp [connect, values, render]
  | cons first rest =>
    have begun : render d n (connect (first :: rest)) ≠ "" :=
      fun h => by cases (render_connect_eq_empty_iff d hbefore n).mp h
    rw [if_neg (by simpa using begun), if_neg (by simp), render_append, tied, render,
      String.append_assoc]

/-- Writing clauses gives their parts, behind any clauses of their level that are written
already. -/
def Simulated (clauses : List Clause) : Prop :=
  ∀ before n bound, AllShown before → bound.length = n + (values (connect before)).length →
    (writeAll d (render d n (connect before)) clauses).run bound =
      (parts d clauses).map fun parts =>
        (render d n (connect (before ++ parts)), bound ++ values (connect parts))

theorem simulated_nil : Simulated d [] := by
  intro before n bound _ _
  rw [parts, writeAll]
  show Except.ok _ = Except.ok (render d n (connect (before ++ [])), bound ++ [])
  rw [List.append_nil, List.append_nil]

theorem simulated_cons {connective : Connective} {predicate : Predicate} {clauses : List Clause}
    (hp : Gives d (predicate.write d) (predicate.pieces d)) (hc : Simulated d clauses) :
    Simulated d (⟨connective, predicate⟩ :: clauses) := by
  intro before n bound hbefore hbound
  rw [writeAll, hp.run_bind, parts]
  cases hpart : predicate.pieces d with
  | error e => rfl
  | ok part =>
    show (writeAll d (connective.tie (render d n (connect before))
      (render d bound.length part)) clauses).run (bound ++ values part) = _
    rw [hbound]
    -- An empty group leaves the text as it is, and the next clause takes its place.
    by_cases silent : part = []
    · subst silent
      have unchanged : connective.tie (render d n (connect before)) (render d (n +
          (values (connect before)).length) []) = render d n (connect before) := rfl
      rw [unchanged, hc before n _ hbefore (by simpa [values] using hbound)]
      cases parts d clauses <;> simp [values] <;> rfl
    · have shown := predicate.shown_of_pieces d hpart silent
      have hvalues : values (connect (before ++ [(connective, part)]))
          = values (connect before) ++ values part := by
        simp [values_connect]
      rw [tie_render d hbefore connective shown, hc (before ++ [(connective, part)])]
      · cases parts d clauses with
        | error e => rfl
        | ok parts =>
          show Except.ok _ = Except.ok (render d n (connect (before ++
            if part.isEmpty then parts else (connective, part) :: parts)), _)
          rw [if_neg (by simpa using silent)]
          simp [values_connect]
      · intro p hp
        rcases List.mem_append.mp hp with hp | hp
        · exact hbefore p hp
        · rw [List.mem_singleton.mp hp]
          exact shown
      · rw [hvalues, List.length_append, List.length_append, hbound, Nat.add_assoc]

/-- A whole level of clauses is written behind nothing. -/
theorem Simulated.gives {clauses : List Clause} (h : Simulated d clauses) :
    Gives d (writeAll d "" clauses) (parts d clauses >>= fun parts => .ok (connect parts)) := by
  intro bound
  have start := h [] bound.length bound (fun _ hp => by cases hp) rfl
  rw [show render d bound.length (connect []) = "" from rfl] at start
  rw [start]
  cases parts d clauses <;> rfl

end Clause

/-- Only clauses that are seen in the text are kept. -/
theorem Clause.allShown_parts {clauses : List Clause} {parts : List (Connective × List Piece)}
    (h : Clause.parts d clauses = .ok parts) : Clause.AllShown parts := by
  induction clauses generalizing parts with
  | nil =>
    cases h
    exact fun _ hp => by cases hp
  | cons clause clauses ih =>
    obtain ⟨connective, predicate⟩ := clause
    obtain ⟨part, hpart, h⟩ := bind_eq_ok_iff.mp h
    obtain ⟨rest, hrest, h⟩ := bind_eq_ok_iff.mp h
    cases h
    by_cases silent : part = []
    · simpa [silent] using ih hrest
    · rw [if_neg (by simpa using silent)]
      intro p hp
      rcases List.mem_cons.mp hp with rfl | hp
      · exact predicate.shown_of_pieces d hpart silent
      · exact ih hrest p hp

/-- A level of clauses says nothing exactly when its text is empty. -/
theorem Clause.render_eq_empty_iff {clauses : List Clause}
    {parts : List (Connective × List Piece)} (h : Clause.parts d clauses = .ok parts) (n : Nat) :
    render d n (Clause.connect parts) = "" ↔ Clause.connect parts = [] := by
  have shown := Clause.allShown_parts d h
  rw [Clause.render_connect_eq_empty_iff d shown, Clause.connect_eq_nil_iff shown]

namespace Clause

variable {d}

/-- The text of a level of clauses is looked at in order to go on. -/
theorem Simulated.check {clauses : List Clause} (h : Simulated d clauses)
    {f : String → Except Error String} {g : List Piece → Except Error (List Piece)}
    (hf : ∀ n ps, (render d n ps = "" ↔ ps = []) →
      f (render d n ps) = (g ps).map (render d n))
    (hv : ∀ ps qs, g ps = .ok qs → values qs = values ps) :
    Gives d (do let s ← writeAll d "" clauses; Writing.ofExcept (f s))
      (do let parts ← parts d clauses; g (connect parts)) := by
  have checked := h.gives.check (f := f) (g := g) (fun n ps hps => ?_) hv
  · rw [bind_assoc] at checked
    exact checked
  · obtain ⟨parts, hparts, hps⟩ := bind_eq_ok_iff.mp hps
    cases hps
    exact hf n _ (render_eq_empty_iff d hparts n)

theorem gives_on (kind : JoinKind) {clauses : List Clause} (h : Simulated d clauses) :
    Gives d (do let s ← writeAll d "" clauses; Writing.ofExcept (writeOn kind s))
      (do let parts ← parts d clauses; onPieces kind (connect parts)) := by
  refine h.check (fun n ps empty => ?_) (fun ps qs hqs => ?_)
  · rw [writeOn, onPieces]
    by_cases silent : ps = []
    · subst silent
      rfl
    · rw [if_neg (by simpa using mt empty.mp silent), if_neg (by simpa using silent)]
      rfl
  · rw [onPieces] at hqs
    split at hqs
    · cases hqs
    · cases hqs
      rfl

theorem gives_group {clauses : List Clause} (h : Simulated d clauses) :
    Gives d ((Predicate.group clauses).write d) ((Predicate.group clauses).pieces d) := by
  have checked := h.check (f := fun s => .ok (if s.isEmpty then "" else "(" ++ s ++ ")"))
    (g := fun ps => .ok (if ps.isEmpty then [] else Piece.enclose ps))
    (fun n ps empty => ?_) (fun ps qs hqs => ?_)
  · intro bound
    rw [Predicate.pieces]
    refine (checked bound).trans (congrArg (Except.map (written d bound)) ?_)
    cases hparts : parts d clauses with
    | error e => rfl
    | ok list =>
      refine congrArg Except.ok ?_
      -- Writing asks whether there is any text, the pieces ask whether there is any part.
      rw [show list.isEmpty = (connect list).isEmpty from ?_]
      cases list with
      | nil => rfl
      | cons first rest =>
        have shown := (allShown_parts d hparts first (List.mem_cons_self ..)).ne_nil
        simp [connect, shown]
  · by_cases silent : ps = []
    · subst silent
      rfl
    · simp only [if_neg (show ¬ (render d n ps).isEmpty = true by simpa using mt empty.mp silent)]
      simp [silent, Except.map, render_enclose]
  · cases hqs
    split
    · rename_i silent
      rw [List.isEmpty_iff.mp silent]
    · exact values_enclose ps

end Clause

/-! ### Selects -/

theorem render_wherePieces {conditions : List Piece} {n : Nat}
    (h : render d n conditions = "" ↔ conditions = []) :
    render d n (wherePieces conditions) = writeWhere (render d n conditions) := by
  rw [wherePieces, writeWhere]
  by_cases empty : conditions = []
  · subst empty
    rfl
  · rw [if_neg (by simpa using empty), if_neg (by simpa using mt h.mp empty)]
    rfl

@[simp] theorem values_wherePieces (conditions : List Piece) :
    values (wherePieces conditions) = values conditions := by
  rw [wherePieces]
  split
  · rename_i empty
    rw [List.isEmpty_iff.mp empty]
  · rfl

namespace Select

theorem render_groupPieces (query : Select) (n : Nat) :
    render d n query.groupPieces = query.writeGroups d := by
  rw [groupPieces, writeGroups]
  split
  · rfl
  · rw [render, Column.listPieces, render_separate d (Column.render_pieces d)]
    rfl

theorem render_orderEntry (entry : Column × Direction) (n : Nat) :
    render d n (orderEntry entry) = writeOrder d entry := by
  rw [orderEntry, render_append, entry.1.render_pieces]
  simp [render, writeOrder]

@[simp] theorem values_orderEntry (entry : Column × Direction) :
    values (orderEntry entry) = [] := by
  simp [orderEntry, values]

theorem render_tailPieces (query : Select) (n : Nat) :
    render d n (query.tailPieces d) = query.writeTail d := by
  rw [tailPieces, render_append, writeTail, orderPieces, writeOrders]
  split
  · simp [render]
  · rw [render, render_separate d (render_orderEntry d)]
    simp [render]

@[simp] theorem values_groupPieces (query : Select) : values query.groupPieces = [] := by
  rw [groupPieces]
  split
  · rfl
  · rw [values, Column.listPieces, values_separate, List.flatMap_map]
    simp

@[simp] theorem values_tailPieces (query : Select) : values (query.tailPieces d) = [] := by
  rw [tailPieces, values_append, orderPieces]
  split
  · rfl
  · simp [values, values_separate, List.flatMap_map]

theorem render_alonePieces (query : Select) (joins conditions : List Piece) (n : Nat)
    (h : ∀ m, render d m conditions = "" ↔ conditions = []) :
    render d n (query.alonePieces d joins conditions) =
      query.writeCore d (render d n (Field.listPieces query.fields))
          (render d (n + (values (Field.listPieces query.fields)).length) joins)
          (render d (n + (values (Field.listPieces query.fields)).length
            + (values joins).length) conditions)
        ++ query.writeTail d := by
  simp [alonePieces, corePieces, writeCore, render, render_groupPieces, render_tailPieces,
    Target.render_sourcePieces, render_wherePieces d (h _), String.append_assoc]

theorem values_alonePieces (query : Select) (joins conditions : List Piece) :
    values (query.alonePieces d joins conditions) =
      values (Field.listPieces query.fields) ++ values joins ++ values conditions := by
  simp [alonePieces, corePieces, values]

theorem render_memberPieces (limited compound : Bool) (n : Nat) (ps : List Piece) :
    writeMember d limited compound (render d n ps)
      = (memberPieces d limited compound ps).map (render d n) := by
  rw [writeMember, memberPieces]
  split
  · rfl
  · split
    · simp [Except.map, render_enclose]
    · split <;> rfl

theorem values_memberPieces {limited compound : Bool} {ps qs : List Piece}
    (h : memberPieces d limited compound ps = .ok qs) : values qs = values ps := by
  rcases memberPieces_eq_ok h with rfl | rfl
  · rfl
  · exact values_enclose ps

/-- A select without the members of its union. -/
theorem gives_writeAlone (query : Select)
    (hj : Gives d (Join.writeAll d query.joins) (Join.listPieces d query.joins))
    (hc : Clause.Simulated d query.clauses) :
    Gives d
      (do
        let fields ← Field.writeAll d query.fields
        let joins ← Join.writeAll d query.joins
        let conditions ← Clause.writeAll d "" query.clauses
        return query.writeCore d fields joins conditions ++ query.writeTail d)
      (do
        let joined ← Join.listPieces d query.joins
        let parts ← Clause.parts d query.clauses
        return query.alonePieces d joined (Clause.connect parts)) := by
  intro bound
  rw [(Field.gives_writeAll d query.fields).run_bind]
  show (Join.writeAll d query.joins >>= _).run _ = _
  rw [hj.run_bind]
  cases Join.listPieces d query.joins with
  | error e => rfl
  | ok joined =>
    show (Clause.writeAll d "" query.clauses >>= _).run _ = _
    rw [hc.gives.run_bind]
    cases hparts : Clause.parts d query.clauses with
    | error e => rfl
    | ok parts =>
      show Except.ok _ = Except.ok (written d bound _)
      rw [written, render_alonePieces d query joined _ _ (Clause.render_eq_empty_iff d hparts),
        values_alonePieces]
      simp [Nat.add_assoc]

/-- A select whose parts are simulated is simulated itself. -/
theorem gives_write_of (query : Select)
    (hj : Gives d (Join.writeAll d query.joins) (Join.listPieces d query.joins))
    (hc : Clause.Simulated d query.clauses)
    (hu : Gives d (UnionMember.writeAll d query.unions)
      (UnionMember.listPieces d query.unions)) :
    Gives d (query.write d) (query.pieces d) := by
  have alone := query.gives_writeAlone d hj hc
  rw [write_eq, pieces_eq]
  by_cases single : query.unions.isEmpty
  · simp only [if_pos single]
    exact alone.after _
  · simp only [if_neg single]
    -- The head is a member like the others, checked before any of them is written.
    have head := alone.check (f := writeMember d query.isLimited false)
      (g := memberPieces d query.isLimited false)
      (fun n ps _ => render_memberPieces d _ _ n ps) (fun ps qs h => values_memberPieces d h)
    have whole := head.map₂ hu (f := fun s t => s ++ t) (g := fun ps qs => ps ++ qs)
      (fun n ps qs => by rw [render_append]) (fun ps qs => by rw [values_append])
    simp only [bind_assoc, pure_bind] at whole
    exact whole.after _

end Select

mutual

theorem Select.gives_write : ∀ query : Select, Gives d (query.write d) (query.pieces d)
  | ⟨target, fields, distinct, orders, groups, joins, unions, clauses, limit, offset, forwardKey,
      groupResults, error⟩ =>
    Select.gives_write_of d
      ⟨target, fields, distinct, orders, groups, joins, unions, clauses, limit, offset,
        forwardKey, groupResults, error⟩
      (Join.gives_writeAll joins) (Clause.simulated clauses) (UnionMember.gives_writeAll unions)

theorem Join.gives_writeAll : ∀ joins : List Join,
    Gives d (Join.writeAll d joins) (Join.listPieces d joins)
  | [] => gives_pure (fun _ => rfl) rfl
  | join :: joins =>
    (Join.gives_write join).map₂ (Join.gives_writeAll joins)
      (fun n ps qs => (render_append d n ps qs).symm) values_append

theorem Join.gives_write : ∀ join : Join, Gives d (join.write d) (join.pieces d)
  | ⟨kind, source, on⟩ => by
    have source := JoinSource.gives_write source
    rw [Join.write, Join.pieces]
    by_cases cross : kind = .cross
    · simp only [if_pos cross]
      exact source.map (fun n ps => by simp [render]) (fun ps => by simp [values])
    · simp only [if_neg cross]
      exact source.map₂ (JoinCondition.gives_write kind on)
        (fun n ps qs => by simp [render, String.append_assoc]) (fun ps qs => by simp [values])

theorem JoinSource.gives_write : ∀ source : JoinSource,
    Gives d (source.write d) (source.pieces d)
  | .table t =>
    gives_pure (fun n => by simp [TableName.pieces, TableName.write, render, render_label])
      (by simp [TableName.pieces, values])
  | .select query label => by
    refine (Select.gives_write query).map (fun n ps => ?_) (fun ps => ?_)
    · rw [render_append, render_enclose, render_label]
    · simp

theorem JoinCondition.gives_write (kind : JoinKind) : ∀ on : JoinCondition,
    Gives d (on.write d kind) (on.pieces d kind)
  | .columns left operator right => by
    refine (gives_writeComparison d left operator right).map (fun n ps => ?_) (fun ps => ?_)
    · rw [render]
    · rfl
  | .clauses list => Clause.gives_on kind (Clause.simulated list)

theorem Clause.simulated : ∀ clauses : List Clause, Clause.Simulated d clauses
  | [] => Clause.simulated_nil d
  | ⟨_, predicate⟩ :: clauses =>
    Clause.simulated_cons d (Predicate.gives_write predicate) (Clause.simulated clauses)

theorem Predicate.gives_write : ∀ predicate : Predicate,
    Gives d (predicate.write d) (predicate.pieces d)
  | .compare column operator operand => Operand.gives_write column operator operand
  | .columns left operator right => gives_writeComparison d left operator right
  | .exists negated query => by
    refine (Select.gives_write query).map (fun n ps => ?_) (fun ps => ?_)
    · simp [render, render_enclose, String.append_assoc]
    · simp [values]
  | .group clauses => Clause.gives_group (Clause.simulated clauses)

theorem Operand.gives_write (column : Column) (operator : Operator) : ∀ operand : Operand,
    Gives d (operand.write d column operator) (operand.pieces d column operator)
  | .value v => gives_writeValue d column operator v
  | .list list => gives_writeList d column operator list
  | .raw piece => gives_pure (fun n => by simp [render, render_leftPieces]) (by simp [values])
  | .select query => by
    refine (Select.gives_write query).map (fun n ps => ?_) (fun ps => ?_)
    · simp [render_leftPieces, render_enclose, String.append_assoc]
    · simp

theorem UnionMember.gives_writeAll : ∀ members : List UnionMember,
    Gives d (UnionMember.writeAll d members) (UnionMember.listPieces d members)
  | [] => gives_pure (fun _ => rfl) rfl
  | member :: members =>
    (UnionMember.gives_write member).map₂ (UnionMember.gives_writeAll members)
      (fun n ps qs => (render_append d n ps qs).symm) values_append

theorem UnionMember.gives_write : ∀ member : UnionMember,
    Gives d (member.write d) (member.pieces d)
  | ⟨kind, query⟩ => by
    have member := (Select.gives_write query).check
      (f := Select.writeMember d query.isLimited (!query.unions.isEmpty))
      (g := Select.memberPieces d query.isLimited (!query.unions.isEmpty))
      (fun n ps _ => Select.render_memberPieces d _ _ n ps)
      (fun ps qs h => Select.values_memberPieces d h)
    have glued := member.map (f := fun s => UnionMember.glue kind ++ s)
      (g := fun ps => .text (UnionMember.glue kind) :: ps) (fun n ps => by rw [render])
      (fun ps => by rw [values])
    simp only [bind_assoc] at glued
    exact glued

end

/-! ### The other statements -/

namespace Insert

theorem gives_writeRow (row : List NewValue) :
    Gives d (writeRow d row) (.ok (rowPieces row)) :=
  gives_separate (f := fun s => "(" ++ s ++ ")") (g := Piece.enclose) (NewValue.gives_write d)
    ", " row (fun n ps => (render_enclose d n ps).symm) values_enclose

theorem render_headPieces (query : Insert) (n : Nat) :
    render d n (query.headPieces d) = query.writeHead d := by
  rw [headPieces, Piece.names, writeHead]
  simp [render, query.target.render_tablePieces, String.append_assoc,
    render_separate d (f := d.quoteIdentifier) (g := fun identifier => [.name identifier])
      (fun s n => by simp [render])]

@[simp] theorem values_headPieces (query : Insert) : values (query.headPieces d) = [] := by
  simp [headPieces, Piece.names, values, values_separate, List.flatMap_map]

theorem gives_write (query : Insert) : Gives d (query.write d) (query.pieces d) := by
  refine Gives.after ?_ _
  split
  · exact fun _ => rfl
  · exact gives_separate
      (f := fun s => query.writeHead d ++ s ++ if query.ignore then d.ignoreTail else "")
      (g := fun ps => query.headPieces d ++ ps
        ++ [.text (if query.ignore then d.ignoreTail else "")])
      (gives_writeRow d) ", " query.rows
      (fun n ps => by simp [render, render_headPieces, String.append_assoc])
      (fun ps => by simp [values])

end Insert

namespace Update

theorem gives_writeSet (entry : String × NewValue) :
    Gives d (writeSet d entry) (.ok (setPieces entry)) :=
  (entry.2.gives_write d).map (f := fun s => d.quoteIdentifier entry.1 ++ " = " ++ s)
    (g := fun ps => .name entry.1 :: .text " = " :: ps)
    (fun n ps => by simp [render, String.append_assoc]) (fun ps => by simp [values])

end Update

/-- The conditions of an update or a deletion behind what is written before them. -/
theorem Clause.gives_writeWhere (clauses : List Clause) :
    Gives d (do let conditions ← Clause.writeAll d "" clauses; return writeWhere conditions)
      (do let parts ← Clause.parts d clauses; return wherePieces (Clause.connect parts)) :=
  (Clause.simulated d clauses).check (f := fun s => .ok (writeWhere s))
    (g := fun ps => .ok (wherePieces ps))
    (fun n ps empty => by rw [← render_wherePieces d empty]; rfl)
    (fun ps qs h => by cases h; exact values_wherePieces ps)

theorem Update.gives_write (query : Update) : Gives d (query.write d) (query.pieces d) := by
  refine Gives.after ?_ _
  split
  · exact fun _ => rfl
  · have sets := gives_separate
      (f := fun s => "UPDATE " ++ query.target.writeTable d ++ " SET " ++ s)
      (g := fun ps => .text "UPDATE " :: query.target.tablePieces ++ .text " SET " :: ps)
      (Update.gives_writeSet d) ", " query.sets
      (fun n ps => by simp [render, query.target.render_tablePieces, String.append_assoc])
      (fun ps => by simp [values])
    have whole := sets.map₂ (Clause.gives_writeWhere d query.clauses) (f := fun s t => s ++ t)
      (g := fun ps qs => ps ++ qs) (fun n ps qs => (render_append d n ps qs).symm) values_append
    simp only [bind_assoc, pure_bind] at whole
    exact whole

theorem Delete.gives_write (query : Delete) : Gives d (query.write d) (query.pieces d) := by
  refine Gives.after ?_ _
  have whole := (Clause.gives_writeWhere d query.clauses).map
    (f := fun s => "DELETE FROM " ++ query.target.writeTable d ++ s)
    (g := fun ps => .text "DELETE FROM " :: query.target.tablePieces ++ ps)
    (fun n ps => by simp [render, query.target.render_tablePieces, String.append_assoc])
    (fun ps => by simp [values])
  simp only [bind_assoc, pure_bind] at whole
  exact whole

/-- **Writing a statement gives its pieces.** -/
theorem Query.gives_write (query : Query) : Gives d (query.write d) (query.pieces d) := by
  cases query with
  | select query => exact query.gives_write d
  | insert query => exact query.gives_write d
  | update query => exact query.gives_write d
  | delete query => exact query.gives_write d

/-- A writing with pieces is prepared from them. -/
theorem Writing.Gives.prepare_eq {d : Dialect} {writing : Writing String}
    {outcome : Except Error (List Piece)} (h : Gives d writing outcome) :
    writing.prepare = outcome.map fun ps => ⟨render d 0 ps, values ps⟩ := by
  rw [Writing.prepare, h []]
  cases outcome <;> rfl

/-- What is sent to the database is the rendering of the pieces and their values. -/
theorem Query.compile_eq (query : Query) :
    query.compile d = (query.pieces d).map fun ps => ⟨render d 0 ps, values ps⟩ :=
  (query.gives_write d).prepare_eq

/-- A statement that can be written has pieces, and is their rendering. -/
theorem Query.compile_eq_ok_iff {d : Dialect} {query : Query} {p : Prepared} :
    query.compile d = .ok p ↔
      ∃ ps, query.pieces d = .ok ps ∧ p = ⟨render d 0 ps, values ps⟩ := by
  rw [Query.compile_eq]
  cases query.pieces d with
  | error e => exact ⟨fun h => (by cases h), fun ⟨_, h, _⟩ => (by cases h)⟩
  | ok ps =>
    refine ⟨fun h => ⟨ps, rfl, (Except.ok.inj h).symm⟩, fun ⟨ps', h, same⟩ => ?_⟩
    cases h
    exact congrArg Except.ok same.symm

end SqlBuilder
