import SqlBuilder.Proofs.Pieces

/-! # The relation between a writing and pieces

Writing threads the list of bound values through every part of a statement; the pieces know
nothing of that list.  `Writing.Gives` says that both come to the same: behind any values
bound before, the writing makes the same mistake, or its text is the rendering of the pieces,
numbered on from there, and it binds their values.

The relation goes along with one writing after another, with text around a writing, with
lists between commas and with a text that may be refused.  From these follow the parts of a
statement that hold no statement themselves: names, columns, fields and comparisons.
-/
namespace SqlBuilder

/-! ### The relation -/

/-- The text of pieces behind bound values, and the values bound then. -/
def Piece.written (d : Dialect) (bound : List Value) (pieces : List Piece) :
    String × List Value :=
  (render d bound.length pieces, bound ++ values pieces)

namespace Writing

/-- **The simulation relation.**  Behind any bound values the writing has the outcome of the
pieces: the same mistake, or their text and their values. -/
def Gives (d : Dialect) (writing : Writing String) (outcome : Except Error (List Piece)) :
    Prop :=
  ∀ bound, writing.run bound = outcome.map (Piece.written d bound)

variable {d : Dialect} {writing second : Writing String} {outcome rest : Except Error (List Piece)}

/-- A writing that goes on after another one. -/
theorem Gives.run_bind (h : Gives d writing outcome) {α : Type} (next : String → Writing α)
    (bound : List Value) :
    (writing >>= next).run bound = outcome.bind fun ps =>
      (next (Piece.render d bound.length ps)).run (bound ++ Piece.values ps) := by
  rw [StateT.run_bind, h bound]
  cases outcome <;> rfl

/-- There is only one writing that gives some pieces. -/
theorem Gives.unique (h : Gives d writing outcome) (h' : Gives d second outcome) :
    writing = second :=
  funext fun bound => (h bound).trans (h' bound).symm

/-- A step and the next one succeed when both do. -/
theorem run_bind_eq_ok_iff {α β : Type} {first : Writing α} {next : α → Writing β}
    {bound after : List Value} {b : β} :
    (first >>= next).run bound = .ok (b, after) ↔
      ∃ a between, first.run bound = .ok (a, between) ∧ (next a).run between = .ok (b, after) := by
  rw [StateT.run_bind, bind_eq_ok_iff]
  exact ⟨fun ⟨(a, between), ha, hb⟩ => ⟨a, between, ha, hb⟩,
    fun ⟨a, between, ha, hb⟩ => ⟨(a, between), ha, hb⟩⟩

/-- A step that succeeded has nothing left to check. -/
@[simp] theorem ofExcept_ok {α : Type} (a : α) : ofExcept (.ok a) = pure a := rfl

theorem run_ofExcept_eq_ok_iff {α : Type} {outcome : Except Error α} {bound after : List Value}
    {a : α} : (ofExcept outcome).run bound = .ok (a, after) ↔ outcome = .ok a ∧ after = bound := by
  cases outcome with
  | error e => exact ⟨fun h => (by cases h), fun h => (by cases h.1)⟩
  | ok a' =>
    refine ⟨fun h => ?_, fun ⟨same, still⟩ => ?_⟩
    · cases h
      exact ⟨rfl, rfl⟩
    · cases same
      rw [still]
      rfl

/-- A check and the step behind it succeed when nothing is wrong and the step succeeds. -/
theorem run_check_eq_ok_iff {α β : Type} {outcome : Except Error α} {next : α → Writing β}
    {bound after : List Value} {b : β} :
    (ofExcept outcome >>= next).run bound = .ok (b, after) ↔
      ∃ a, outcome = .ok a ∧ (next a).run bound = .ok (b, after) := by
  rw [run_bind_eq_ok_iff]
  constructor
  · rintro ⟨a, between, first, rest⟩
    obtain ⟨checked, rfl⟩ := run_ofExcept_eq_ok_iff.mp first
    exact ⟨a, checked, rest⟩
  · rintro ⟨a, checked, rest⟩
    exact ⟨a, bound, run_ofExcept_eq_ok_iff.mpr ⟨checked, rfl⟩, rest⟩

/-- A text without values is its own pieces. -/
theorem gives_pure {s : String} {ps : List Piece} (hs : ∀ n, Piece.render d n ps = s)
    (hv : Piece.values ps = []) : Gives d (pure s) (.ok ps) := by
  intro bound
  rw [StateT.run_pure]
  show Except.ok (s, bound) = Except.ok (Piece.render d bound.length ps, bound ++ Piece.values ps)
  rw [hs, hv, List.append_nil]

theorem gives_placeholder (v : Value) : Gives d (placeholder d v) (.ok [.value v]) := by
  intro bound
  show Except.ok (d.placeholder (bound ++ [v]).length, bound ++ [v]) = Except.ok _
  simp [Piece.written, Piece.render, Piece.values]

/-- Text around a writing is text around its pieces. -/
theorem Gives.map (h : Gives d writing outcome) {f : String → String}
    {g : List Piece → List Piece} (hf : ∀ n ps, f (Piece.render d n ps) = Piece.render d n (g ps))
    (hv : ∀ ps, Piece.values (g ps) = Piece.values ps) :
    Gives d (do let s ← writing; return f s) (do let ps ← outcome; return g ps) := by
  intro bound
  rw [h.run_bind]
  cases outcome with
  | error e => rfl
  | ok ps =>
    refine congrArg Except.ok ?_
    rw [Piece.written, hv, ← hf]

/-- Two writings, one behind the other, are their pieces one behind the other. -/
theorem Gives.map₂ (h : Gives d writing outcome) (h' : Gives d second rest)
    {f : String → String → String} {g : List Piece → List Piece → List Piece}
    (hf : ∀ n ps qs, f (Piece.render d n ps)
      (Piece.render d (n + (Piece.values ps).length) qs) = Piece.render d n (g ps qs))
    (hv : ∀ ps qs, Piece.values (g ps qs) = Piece.values ps ++ Piece.values qs) :
    Gives d (do let s ← writing; let t ← second; return f s t)
      (do let ps ← outcome; let qs ← rest; return g ps qs) := by
  intro bound
  rw [h.run_bind]
  cases outcome with
  | error e => rfl
  | ok ps =>
    show (second >>= fun t => pure (f (Piece.render d bound.length ps) t)).run _ = _
    rw [h'.run_bind]
    cases rest with
    | error e => rfl
    | ok qs =>
      refine congrArg Except.ok ?_
      rw [Piece.written, hv, ← hf, ← List.append_assoc, ← List.length_append]

/-- A writing whose text may be refused. -/
theorem Gives.check (h : Gives d writing outcome) {f : String → Except Error String}
    {g : List Piece → Except Error (List Piece)}
    (hf : ∀ n ps, outcome = .ok ps → f (Piece.render d n ps) = (g ps).map (Piece.render d n))
    (hv : ∀ ps qs, g ps = .ok qs → Piece.values qs = Piece.values ps) :
    Gives d (do let s ← writing; ofExcept (f s)) (do let ps ← outcome; g ps) := by
  intro bound
  rw [h.run_bind]
  cases outcome with
  | error e => rfl
  | ok ps =>
    show (f (Piece.render d bound.length ps)).map (fun a => (a, _)) = (g ps).map _
    rw [hf _ ps rfl]
    cases hg : g ps with
    | error e => rfl
    | ok qs =>
      refine congrArg Except.ok ?_
      rw [Piece.written, hv ps qs hg]

/-- A condition that has to hold before anything is written. -/
theorem Gives.after (h : Gives d writing outcome) (condition : Except Error Unit) :
    Gives d (do ofExcept condition; writing) (do condition; outcome) := by
  intro bound
  cases condition with
  | error e => rfl
  | ok => exact h bound

/-! ### One writing after another -/

/-- Writings in order, their texts one behind the other. -/
def inOrder : List (Writing String) → Writing String
  | [] => pure ""
  | writing :: writings => do
    let s ← writing
    let t ← inOrder writings
    return s ++ t

theorem inOrder_append (first last : List (Writing String)) :
    inOrder (first ++ last) = do
      let s ← inOrder first
      let t ← inOrder last
      return s ++ t := by
  induction first with
  | nil => simp [inOrder, -bind_pure_comp]
  | cons writing first ih => simp [inOrder, ih, String.append_assoc, -bind_pure_comp]

/-- The pieces of parts, one part behind the other. -/
def piecesInOrder : List (Except Error (List Piece)) → Except Error (List Piece)
  | [] => .ok []
  | outcome :: outcomes => do
    let ps ← outcome
    let qs ← piecesInOrder outcomes
    return ps ++ qs

theorem piecesInOrder_append (first second : List (Except Error (List Piece))) :
    piecesInOrder (first ++ second) = do
      let ps ← piecesInOrder first
      let qs ← piecesInOrder second
      return ps ++ qs := by
  induction first with
  | nil =>
    show _ = piecesInOrder second >>= pure
    rw [bind_pure]
    rfl
  | cons outcome first ih =>
    rw [List.cons_append, piecesInOrder, piecesInOrder, ih]
    cases outcome with
    | error e => rfl
    | ok ps =>
      cases piecesInOrder first with
      | error e => rfl
      | ok qs => cases piecesInOrder second <;> simp [bind, Except.bind, pure, Except.pure]

/-- Writings in order give their pieces in order. -/
theorem gives_inOrder {α : Type} {write : α → Writing String}
    {pieces : α → Except Error (List Piece)} (h : ∀ a, Gives d (write a) (pieces a))
    (list : List α) : Gives d (inOrder (list.map write)) (piecesInOrder (list.map pieces)) := by
  induction list with
  | nil => exact gives_pure (fun _ => rfl) rfl
  | cons a list ih =>
    exact (h a).map₂ ih (fun n ps qs => (Piece.render_append d n ps qs).symm)
      Piece.values_append

/-! ### Lists between commas -/

/-- The texts of parts that follow one another. -/
def renderEach (d : Dialect) (bound : Nat) : List (List Piece) → List String
  | [] => []
  | part :: parts =>
    Piece.render d bound part :: renderEach d (bound + (Piece.values part).length) parts

/-- The texts of parts with a text between each two of them. -/
theorem intercalate_renderEach (between : String) (bound : Nat) (parts : List (List Piece)) :
    between.intercalate (renderEach d bound parts)
      = Piece.render d bound (Piece.separate between parts) := by
  induction parts generalizing bound with
  | nil => rfl
  | cons part parts ih =>
    cases parts with
    | nil => simp [renderEach, Piece.separate]
    | cons next parts =>
      rw [Piece.separate_cons_cons, Piece.render_append, Piece.render, ← ih, renderEach,
        renderEach, String.intercalate_cons_cons, String.append_assoc]

/-- Parts that are written in order. -/
theorem run_mapM {α : Type} {write : α → Writing String} {pieces : α → List Piece}
    (h : ∀ a, Gives d (write a) (.ok (pieces a))) (list : List α) (bound : List Value) :
    (list.mapM write).run bound = .ok (renderEach d bound.length (list.map pieces),
      bound ++ list.flatMap fun a => Piece.values (pieces a)) := by
  induction list generalizing bound with
  | nil => exact congrArg (fun final => Except.ok ([], final)) (List.append_nil bound).symm
  | cons a list ih =>
    rw [List.mapM_cons, (h a).run_bind]
    show (list.mapM write >>= fun texts => pure (_ :: texts)).run _ = _
    rw [StateT.run_bind, ih, List.length_append, List.append_assoc]
    rfl

/-- Parts that are written in order, with a text between each two of them and more around
them all. -/
theorem gives_separate {α : Type} {write : α → Writing String} {pieces : α → List Piece}
    (h : ∀ a, Gives d (write a) (.ok (pieces a))) (between : String) (list : List α)
    {f : String → String} {g : List Piece → List Piece}
    (hf : ∀ n ps, f (Piece.render d n ps) = Piece.render d n (g ps))
    (hv : ∀ ps, Piece.values (g ps) = Piece.values ps) :
    Gives d (do let parts ← list.mapM write; return f (between.intercalate parts))
      (.ok (g (Piece.separate between (list.map pieces)))) := by
  intro bound
  rw [StateT.run_bind, run_mapM h]
  refine congrArg Except.ok ?_
  rw [Piece.written, hv, Piece.values_separate, List.flatMap_map, ← hf, ← intercalate_renderEach]

end Writing

/-! ### Names, columns and fields -/

variable (d : Dialect)

open Writing Piece

theorem render_label (label : Option String) (n : Nat) :
    render d n (Piece.label label) = writeLabel d label := by
  cases label <;> simp [Piece.label, writeLabel, render]

@[simp] theorem values_label (label : Option String) : values (Piece.label label) = [] := by
  cases label <;> rfl

theorem Target.render_tablePieces (target : Target) (n : Nat) :
    render d n target.tablePieces = target.writeTable d := by
  rw [Target.tablePieces, Target.databasePieces, Target.writeTable]
  cases target.database <;> simp [render, String.append_assoc]

@[simp] theorem Target.values_tablePieces (target : Target) : values target.tablePieces = [] := by
  rw [Target.tablePieces, Target.databasePieces]
  cases target.database <;> rfl

theorem Target.sourcePieces_eq (target : Target) :
    target.sourcePieces = target.tablePieces ++ Piece.label target.table.label := by
  simp [Target.sourcePieces, Target.tablePieces, TableName.pieces]

theorem Target.render_sourcePieces (target : Target) (n : Nat) :
    render d n target.sourcePieces = target.writeSource d := by
  rw [target.sourcePieces_eq, render_append, target.render_tablePieces, render_label]
  rfl

@[simp] theorem Target.values_sourcePieces (target : Target) : values target.sourcePieces = [] := by
  simp [target.sourcePieces_eq]

theorem Column.render_pieces (column : Column) (n : Nat) :
    render d n column.pieces = column.write d := by
  cases column <;> simp [Column.pieces, Column.write, render]

@[simp] theorem Column.values_pieces (column : Column) : values column.pieces = [] := by
  cases column <;> rfl

/-- Parts without values with a text between each two of them. -/
theorem render_separate {α : Type} {f : α → String} {g : α → List Piece}
    (hr : ∀ a n, render d n (g a) = f a)
    (between : String) (list : List α) (n : Nat) :
    render d n (separate between (list.map g)) = between.intercalate (list.map f) := by
  rw [← intercalate_renderEach]
  refine congrArg _ ?_
  induction list generalizing n with
  | nil => rfl
  | cons a list ih => rw [List.map_cons, renderEach, hr, ih, List.map_cons]

theorem Argument.gives_write (argument : Argument) :
    Gives d (argument.write d) (.ok argument.pieces) := by
  cases argument with
  | column name => exact gives_pure (fun n => by simp [Argument.pieces, render]) rfl
  | raw piece => exact gives_pure (fun n => by simp [Argument.pieces, render]) rfl
  | value v => exact gives_placeholder v

theorem Function.gives_write (function : Function) :
    Gives d (function.write d) (.ok function.pieces) :=
  gives_separate (f := fun s => function.capitals ++ "(" ++ s ++ ")")
    (g := fun ps => .sql function.capitals :: Piece.enclose ps) (Argument.gives_write d) ", "
    function.arguments (fun n ps => by simp [render, render_enclose, String.append_assoc])
    (fun ps => by simp [values])

theorem FieldSource.gives_write (source : FieldSource) :
    Gives d (source.write d) (.ok source.pieces) := by
  cases source with
  | column name => exact gives_pure (fun n => by simp [FieldSource.pieces, render]) rfl
  | raw piece => exact gives_pure (fun n => by simp [FieldSource.pieces, render]) rfl
  | function f => exact f.gives_write d

theorem Field.gives_write (field : Field) : Gives d (field.write d) (.ok field.pieces) :=
  (field.source.gives_write d).map (f := fun s => s ++ writeLabel d field.label)
    (g := fun ps => ps ++ Piece.label field.label)
    (fun n ps => by rw [render_append, render_label]) (fun ps => by simp)

theorem Field.gives_writeAll (fields : List Field) :
    Gives d (Field.writeAll d fields) (.ok (Field.listPieces fields)) := by
  rw [Field.writeAll, Field.listPieces]
  split
  · exact gives_pure (fun n => by simp [render]) rfl
  · exact gives_separate (f := id) (g := id) (Field.gives_write d) ", " fields
      (fun _ _ => rfl) (fun _ => rfl)

theorem NewValue.gives_write (value : NewValue) :
    Gives d (value.write d) (.ok value.pieces) := by
  cases value with
  | value v => exact gives_placeholder v
  | raw piece => exact gives_pure (fun n => by simp [NewValue.pieces, render]) rfl

/-! ### Comparisons -/

theorem render_leftPieces (column : Column) (operator : Operator) (n : Nat) :
    render d n (leftPieces column operator) = writeLeft d column operator := by
  simp [leftPieces, writeLeft, render, column.render_pieces, String.append_assoc]

@[simp] theorem values_leftPieces (column : Column) (operator : Operator) :
    values (leftPieces column operator) = [] := by
  simp [leftPieces, values]

theorem gives_writeComparison (left : Column) (operator : Operator) (right : Column) :
    Gives d (pure (writeComparison d left operator right))
      (.ok (comparisonPieces left operator right)) :=
  gives_pure
    (fun n => by
      simp [comparisonPieces, writeComparison, render_leftPieces, right.render_pieces])
    (by simp [comparisonPieces])

theorem gives_writeValue (column : Column) (operator : Operator) (v : Value) :
    Gives d (writeValue d column operator v) (.ok (valuePieces column operator v)) := by
  refine (gives_placeholder v).map
    (g := fun ps => leftPieces column operator
      ++ if operator.isList then Piece.enclose ps else ps) (fun n ps => ?_) (fun ps => ?_)
  · split <;> simp [render_leftPieces, render_enclose]
  · split <;> simp

theorem gives_writeList (column : Column) (operator : Operator) (list : List Value) :
    Gives d (writeList d column operator list) (listPieces d column operator list) := by
  rw [writeList, listPieces]
  split
  · split
    · exact gives_pure (fun n => by simp [render]) rfl
    · exact gives_separate (f := fun s => writeLeft d column operator ++ "(" ++ s ++ ")")
        (g := fun ps => leftPieces column operator ++ Piece.enclose ps) gives_placeholder ", "
        list
        (fun n ps => by simp [render_leftPieces, render_enclose, String.append_assoc])
        (fun ps => by simp)
  · split
    · exact (gives_placeholder (.array list)).map
        (g := fun ps => leftPieces column operator ++ ps)
        (fun n ps => by simp [render_leftPieces]) (fun ps => by simp)
    · exact fun _ => rfl

end SqlBuilder
