import Mathlib.Data.Multiset.Dedup
import SqlBuilder.Proofs.Simulation
import SqlBuilder.Proofs.Unions

/-! # Unions without parentheses

In a dialect without parentheses for members of a union, a select is written as the row of the
selects in its tree, each without its own union and behind the `UNION` in front of it
(`Select.write_flat`).  The database reads such a row from left to right, while a member of a union
that is a union itself was meant as a unit.

`UnionTree.rows` is the bag of rows that a tree means when its cores stand for bags, and
`UnionTree.flatRows` is what its row is read as.  The two need not be the same: a union that drops
duplicates drops them, in the row, from all that stands before it, and a `UNION ALL` behind it
brings duplicates back.  `UnionTree.flattens` says of which trees the meaning is kept, whatever
rows the cores have, and that of no others it is (`UnionTree.flattens_iff`).
-/
namespace SqlBuilder

/-! ### Bags of rows -/

namespace UnionMember

variable {R : Type} [DecidableEq R]

/-- The rows of a union of two: all rows of both, or every row of either once. -/
def combine : Option UnionKind → Multiset R → Multiset R → Multiset R
  | some .all, rows, more => rows + more
  | some .distinct, rows, more | none, rows, more => (rows + more).dedup

/-- The rows of a union that is read from left to right. -/
def inRow (rows : Multiset R) (further : List (Option UnionKind × Multiset R)) : Multiset R :=
  further.foldl (fun rows entry => combine entry.1 rows entry.2) rows

theorem combine_of_ne {kind : Option UnionKind} (h : kind ≠ some .all) (rows more : Multiset R) :
    combine kind rows more = (rows + more).dedup := by
  rcases kind with _ | _ | _
  · rfl
  · exact absurd rfl h
  · rfl

theorem mem_combine {kind : Option UnionKind} {rows more : Multiset R} {x : R} :
    x ∈ combine kind rows more ↔ x ∈ rows ∨ x ∈ more := by
  by_cases all : kind = some .all
  · subst all
    exact Multiset.mem_add
  · rw [combine_of_ne all, Multiset.mem_dedup, Multiset.mem_add]

theorem inRow_append (rows : Multiset R) (first second : List (Option UnionKind × Multiset R)) :
    inRow rows (first ++ second) = inRow (inRow rows first) second :=
  List.foldl_append ..

/-- When the last union drops duplicates, there are none. -/
theorem nodup_inRow {rows : Multiset R} (h : rows.Nodup)
    {further : List (Option UnionKind × Multiset R)}
    (ends : (further.map Prod.fst).getLast? ≠ some (some .all)) : (inRow rows further).Nodup := by
  rcases List.eq_nil_or_concat further with rfl | ⟨before, ⟨kind, more⟩, rfl⟩
  · exact h
  · have dropping : kind ≠ some .all := by simpa using ends
    rw [List.concat_eq_append, inRow_append]
    show (combine kind (inRow rows before) more).Nodup
    rw [combine_of_ne dropping]
    exact Multiset.nodup_dedup _

/-- Behind a union that drops duplicates there are none when no more rows come. -/
theorem nodup_inRow_of_empty {further : List (Option UnionKind × Multiset R)}
    (empty : ∀ entry ∈ further, entry.2 = 0) :
    ∀ {rows : Multiset R}, rows.Nodup ∨ (∃ entry ∈ further, entry.1 ≠ some .all) →
      (inRow rows further).Nodup := by
  induction further with
  | nil =>
    rintro rows (h | ⟨entry, member, -⟩)
    · exact h
    · cases member
  | cons entry further ih =>
    intro rows h
    obtain ⟨kind, more⟩ := entry
    obtain ⟨rfl, rest⟩ := List.forall_mem_cons.mp empty
    refine ih rest ?_
    by_cases all : kind = some .all
    · subst all
      show (rows + 0).Nodup ∨ _
      rw [Multiset.add_zero]
      refine h.imp id fun ⟨entry, member, dropping⟩ => ?_
      rcases List.mem_cons.mp member with rfl | member
      · exact absurd rfl dropping
      · exact ⟨entry, member, dropping⟩
    · show (combine kind rows 0).Nodup ∨ _
      rw [combine_of_ne all]
      exact Or.inl (Multiset.nodup_dedup _)

end UnionMember

open UnionMember (combine inRow)

/-! ### Trees and their rows -/

namespace UnionTree

variable {C T : Type}

/-- The first core of a tree. -/
def first : UnionTree C T → C
  | .alone core _ => core
  | .union before _ _ => before.first

/-- The other cores of a tree, each behind the union in front of it. -/
def further : UnionTree C T → List (Option UnionKind × C)
  | .alone .. => []
  | .union before kind member => before.further ++ (kind, member.first) :: member.further

/-- The cores of a tree in a row. -/
def cores (tree : UnionTree C T) : List C :=
  tree.first :: tree.further.map Prod.snd

/-- The unions of a tree in a row. -/
def kinds (tree : UnionTree C T) : List (Option UnionKind) :=
  tree.further.map Prod.fst

/-- The tree without what its cores and tails are. -/
def shape (tree : UnionTree C T) : UnionTree Unit Unit :=
  tree.map (fun _ => ()) (fun _ => ())

/-- Whether no union in the tree drops duplicates. -/
def keepsDuplicates (tree : UnionTree C T) : Bool :=
  tree.kinds.all (· == some .all)

/-- Whether the last union in the row of the tree drops duplicates, if there is one. -/
def endsDistinct (tree : UnionTree C T) : Bool :=
  tree.kinds.getLast? != some (some .all)

/-- Whether the row of a tree means the same as the tree. -/
def flattens : UnionTree C T → Bool
  | .alone .. => true
  | .union before kind member =>
    -- all that stands before a union belongs to its left side
    if kind = some .all then before.flattens && member.keepsDuplicates else member.endsDistinct

theorem kinds_union (before : UnionTree C T) (kind : Option UnionKind) (member : UnionTree C T) :
    (union before kind member).kinds = before.kinds ++ kind :: member.kinds := by
  simp [kinds, further]

theorem cores_union (before : UnionTree C T) (kind : Option UnionKind) (member : UnionTree C T) :
    (union before kind member).cores = before.cores ++ member.cores := by
  simp [cores, first, further]

theorem shape_union (before : UnionTree C T) (kind : Option UnionKind) (member : UnionTree C T) :
    (union before kind member).shape = .union before.shape kind member.shape := rfl

/-- The unions of a tree depend on its shape only. -/
theorem kinds_shape (tree : UnionTree C T) : tree.shape.kinds = tree.kinds := by
  induction tree with
  | alone core tail => rfl
  | union before kind member head last => rw [shape_union, kinds_union, head, last, kinds_union]

theorem flattens_shape (tree : UnionTree C T) : tree.shape.flattens = tree.flattens := by
  induction tree with
  | alone core tail => rfl
  | union before kind member head last =>
    rw [shape_union, flattens, flattens, head, keepsDuplicates, keepsDuplicates, endsDistinct,
      endsDistinct, kinds_shape]

/-- A tree can be given any cores. -/
theorem exists_cores {C' : Type} (tree : UnionTree C T) (core : C')
    {others : List (Option UnionKind × C')} (h : others.map Prod.fst = tree.kinds) :
    ∃ tree' : UnionTree C' T, tree'.shape = tree.shape ∧ tree'.first = core ∧
      tree'.further = others := by
  induction tree generalizing core others with
  | alone _ tail =>
    refine ⟨.alone core tail, rfl, rfl, ?_⟩
    rw [List.map_eq_nil_iff.mp h]
    rfl
  | union before kind member head last =>
    rw [kinds_union] at h
    obtain ⟨first, second, rfl, hfirst, hsecond⟩ := List.map_eq_append_iff.mp h
    obtain ⟨⟨_, core'⟩, others, rfl, rfl, hothers⟩ := List.map_eq_cons_iff.mp hsecond
    obtain ⟨before', shape, rfl, rfl⟩ := head core hfirst
    obtain ⟨member', shape', rfl, rfl⟩ := last core' hothers
    exact ⟨.union before' _ member', by rw [shape_union, shape, shape', shape_union], rfl, rfl⟩

variable {R : Type}

/-- The rows of all cores. -/
def total : UnionTree (Multiset R) T → Multiset R
  | .alone rows _ => rows
  | .union before _ member => before.total + member.total

theorem mem_total {tree : UnionTree (Multiset R) T} {x : R} :
    x ∈ tree.total ↔ ∃ core ∈ tree.cores, x ∈ core := by
  induction tree with
  | alone rows tail => simp [total, cores, first, further]
  | union before kind member head last =>
    rw [total, Multiset.mem_add, head, last, cores_union]
    simp only [List.mem_append, or_and_right, exists_or]

/-- A tree of a given shape whose rows are all in its first core. -/
theorem exists_first (tree : UnionTree C T) (rows : Multiset R) :
    ∃ bags : UnionTree (Multiset R) T, bags.shape = tree.shape ∧ bags.first = rows ∧
      ∀ entry ∈ bags.further, entry.2 = 0 := by
  have kinds : (tree.kinds.map fun kind => (kind, (0 : Multiset R))).map Prod.fst = tree.kinds := by
    rw [List.map_map]
    exact List.map_id _
  obtain ⟨bags, shape, first, further⟩ := tree.exists_cores rows kinds
  refine ⟨bags, shape, first, fun entry member => ?_⟩
  rw [further] at member
  obtain ⟨kind, -, rfl⟩ := List.mem_map.mp member
  rfl

/-- A tree of a given shape, whose last union keeps duplicates, with rows in its last core only. -/
theorem exists_last {tree : UnionTree C T} (h : tree.endsDistinct = false) (rows : Multiset R) :
    ∃ (bags : UnionTree (Multiset R) T) (others : List (Option UnionKind × Multiset R)),
      bags.shape = tree.shape ∧ bags.further = others ++ [(some .all, rows)] := by
  rw [endsDistinct, bne_eq_false_iff_eq] at h
  obtain ⟨before, last⟩ := List.getLast?_eq_some_iff.mp h
  have kinds : (before.map (fun kind => (kind, (0 : Multiset R)))
      ++ [(some UnionKind.all, rows)]).map Prod.fst = tree.kinds := by
    rw [last, List.map_append, List.map_map]
    exact congrArg (· ++ [some UnionKind.all]) (List.map_id _)
  obtain ⟨bags, shape, -, further⟩ := tree.exists_cores 0 kinds
  exact ⟨bags, _, shape, further⟩

theorem total_eq_zero {bags : UnionTree (Multiset R) T} (first : bags.first = 0)
    (further : ∀ entry ∈ bags.further, entry.2 = 0) : bags.total = 0 := by
  refine Multiset.eq_zero_of_forall_notMem fun x member => ?_
  obtain ⟨core, hcore, member⟩ := mem_total.mp member
  have empty : core = 0 := by
    rcases List.mem_cons.mp hcore with rfl | hcore
    · exact first
    · obtain ⟨entry, hentry, rfl⟩ := List.mem_map.mp hcore
      exact further entry hentry
  exact Multiset.notMem_zero x (empty ▸ member)

variable [DecidableEq R]

/-- The rows that a tree means: a member of a union is evaluated as a unit. -/
def rows : UnionTree (Multiset R) T → Multiset R
  | .alone rows _ => rows
  | .union before kind member => combine kind before.rows member.rows

/-- The rows that the row of a tree is read as, from left to right. -/
def flatRows (tree : UnionTree (Multiset R) T) : Multiset R :=
  inRow tree.first tree.further

theorem flatRows_union (before : UnionTree (Multiset R) T) (kind : Option UnionKind)
    (member : UnionTree (Multiset R) T) :
    (union before kind member).flatRows
      = inRow (combine kind before.flatRows member.first) member.further := by
  rw [flatRows, first, further, UnionMember.inRow_append]
  rfl

/-! ### No row is lost, but for duplicates -/

theorem mem_rows {tree : UnionTree (Multiset R) T} {x : R} : x ∈ tree.rows ↔ x ∈ tree.total := by
  induction tree with
  | alone rows tail => rfl
  | union before kind member head last =>
    rw [rows, UnionMember.mem_combine, head, last, total, Multiset.mem_add]

/-- The rows of a tree that is read behind others. -/
theorem mem_inRow {tree : UnionTree (Multiset R) T} {kind : Option UnionKind} {x : R}
    {start : Multiset R} :
    x ∈ inRow (combine kind start tree.first) tree.further ↔ x ∈ start ∨ x ∈ tree.total := by
  induction tree generalizing kind start with
  | alone rows tail => exact UnionMember.mem_combine
  | union before kind' member head last =>
    rw [further, first, UnionMember.inRow_append]
    show x ∈ inRow (combine kind' (inRow _ before.further) member.first) member.further ↔ _
    rw [last, head, total, Multiset.mem_add, or_assoc]

theorem mem_flatRows {tree : UnionTree (Multiset R) T} {x : R} :
    x ∈ tree.flatRows ↔ x ∈ tree.total := by
  induction tree with
  | alone rows tail => rfl
  | union before kind member head _ =>
    rw [flatRows_union, mem_inRow, head, total, Multiset.mem_add]

theorem keepsDuplicates_union (before : UnionTree C T) (kind : Option UnionKind)
    (member : UnionTree C T) : (union before kind member).keepsDuplicates = true ↔
      before.keepsDuplicates = true ∧ kind = some .all ∧ member.keepsDuplicates = true := by
  rw [keepsDuplicates, kinds_union, List.all_append, List.all_cons]
  simp [keepsDuplicates]

/-- Where nothing drops duplicates, a tree means all rows. -/
theorem rows_of_keeps {tree : UnionTree (Multiset R) T} (h : tree.keepsDuplicates = true) :
    tree.rows = tree.total := by
  induction tree with
  | alone rows tail => rfl
  | union before kind member head last =>
    obtain ⟨keeps, rfl, keeps'⟩ := (keepsDuplicates_union ..).mp h
    show before.rows + member.rows = before.total + member.total
    rw [head keeps, last keeps']

/-- So does its row, behind others. -/
theorem inRow_of_keeps {tree : UnionTree (Multiset R) T} (h : tree.keepsDuplicates = true)
    (start : Multiset R) : inRow (start + tree.first) tree.further = start + tree.total := by
  induction tree generalizing start with
  | alone rows tail => rfl
  | union before kind member head last =>
    obtain ⟨keeps, rfl, keeps'⟩ := (keepsDuplicates_union ..).mp h
    rw [further, first, UnionMember.inRow_append, head keeps]
    show inRow (start + before.total + member.first) member.further = _
    rw [last keeps', total, Multiset.add_assoc]

/-! ### When the meaning is kept -/

/-- **The meaning is kept** by trees that flatten. -/
theorem flatRows_eq {tree : UnionTree (Multiset R) T} (h : tree.flattens = true) :
    tree.flatRows = tree.rows := by
  induction tree with
  | alone rows tail => rfl
  | union before kind member head _ =>
    rw [flatRows_union, rows]
    by_cases all : kind = some .all
    · subst all
      rw [flattens, if_pos rfl, Bool.and_eq_true] at h
      show inRow (before.flatRows + member.first) member.further = before.rows + member.rows
      rw [inRow_of_keeps h.2, head h.1, rows_of_keeps h.2]
    · rw [flattens, if_neg all, endsDistinct, bne_iff_ne] at h
      -- both sides are the rows of all cores without duplicates
      have left : (inRow (combine kind before.flatRows member.first) member.further).Nodup := by
        refine UnionMember.nodup_inRow ?_ h
        rw [UnionMember.combine_of_ne all]
        exact Multiset.nodup_dedup _
      have right : (combine kind before.rows member.rows).Nodup := by
        rw [UnionMember.combine_of_ne all]
        exact Multiset.nodup_dedup _
      refine (left.ext right).mpr fun x => ?_
      rw [mem_inRow, mem_flatRows, UnionMember.mem_combine, mem_rows, mem_rows]

theorem first_subset_rows (bags : UnionTree (Multiset R) T) : bags.first ⊆ bags.rows :=
  fun _ member => mem_rows.mpr (mem_total.mpr ⟨bags.first, List.mem_cons_self .., member⟩)

/-- Whether a tree means what its row is read as, whatever rows its cores have. -/
def MeaningKept (tree : UnionTree C T) : Prop :=
  ∀ (R : Type) [DecidableEq R] (bags : UnionTree (Multiset R) T),
    bags.shape = tree.shape → bags.flatRows = bags.rows

section
variable {before member : UnionTree C T} {kind : Option UnionKind}

/-- Behind a `UNION ALL` no duplicates may be dropped, for one of two equal rows on either side of
it would be. -/
theorem MeaningKept.keepsDuplicates (kept : (union before (some .all) member).MeaningKept) :
    member.keepsDuplicates = true := by
  obtain ⟨left, leftShape, leftFirst, -⟩ := before.exists_first {()}
  obtain ⟨right, rightShape, rightFirst, rightEmpty⟩ := member.exists_first {()}
  by_contra drops
  have dropping : ∃ entry ∈ right.further, entry.1 ≠ some .all := by
    by_contra none
    refine drops (List.all_eq_true.mpr fun kind hkind => ?_)
    rw [← kinds_shape, ← rightShape, kinds_shape] at hkind
    obtain ⟨entry, hentry, rfl⟩ := List.mem_map.mp hkind
    exact beq_iff_eq.mpr (not_not.mp fun drops => none ⟨entry, hentry, drops⟩)
  have single : (left.rows + right.rows).Nodup := by
    show (union left (some .all) right).rows.Nodup
    rw [← kept Unit _ (by rw [shape_union, leftShape, rightShape, shape_union]), flatRows_union]
    exact UnionMember.nodup_inRow_of_empty rightEmpty (Or.inr dropping)
  have inLeft : () ∈ left.rows := left.first_subset_rows (by simp [leftFirst])
  have inRight : () ∈ right.rows := right.first_subset_rows (by simp [rightFirst])
  exact Multiset.disjoint_left.mp (Multiset.disjoint_of_nodup_add single) inLeft inRight

/-- Behind another union the last one has to drop duplicates, for two equal rows in the last core
would both be kept. -/
theorem MeaningKept.endsDistinct (kept : (union before kind member).MeaningKept)
    (distinct : kind ≠ some .all) : member.endsDistinct = true := by
  by_contra keeps
  obtain ⟨left, leftShape, -, -⟩ := before.exists_first (0 : Multiset Unit)
  obtain ⟨right, others, rightShape, rightFurther⟩ :=
    exists_last (Bool.eq_false_iff.mpr keeps) ({(), ()} : Multiset Unit)
  have single : (union left kind right).flatRows.Nodup := by
    rw [kept Unit _ (by rw [shape_union, leftShape, rightShape, shape_union]), rows,
      UnionMember.combine_of_ne distinct]
    exact Multiset.nodup_dedup _
  rw [flatRows_union, rightFurther, UnionMember.inRow_append] at single
  have twice : ({(), ()} : Multiset Unit).Nodup := (Multiset.nodup_add.mp single).2.1
  exact absurd twice (by decide)

/-- What stands before a `UNION ALL` means what it is read as. -/
theorem MeaningKept.of_union (kept : (union before (some .all) member).MeaningKept) :
    before.MeaningKept := by
  intro R _ bags shape
  obtain ⟨empty, emptyShape, emptyFirst, emptyFurther⟩ := member.exists_first (0 : Multiset R)
  have keeps : empty.keepsDuplicates = true := by
    rw [UnionTree.keepsDuplicates, ← kinds_shape, emptyShape, kinds_shape]
    exact kept.keepsDuplicates
  have same := kept R (.union bags (some .all) empty) (by
    rw [shape_union, shape, emptyShape, shape_union])
  rw [flatRows_union] at same
  change inRow (bags.flatRows + empty.first) empty.further = bags.rows + empty.rows at same
  rwa [inRow_of_keeps keeps, rows_of_keeps keeps, total_eq_zero emptyFirst emptyFurther,
    Multiset.add_zero, Multiset.add_zero] at same

end

/-- **The meaning is kept by the trees that flatten, and by no others.** -/
theorem meaningKept_iff (tree : UnionTree C T) : tree.MeaningKept ↔ tree.flattens = true := by
  constructor
  · intro kept
    induction tree with
    | alone core tail => rfl
    | union before kind member head _ =>
      rw [flattens]
      by_cases all : kind = some .all
      · subst all
        rw [if_pos rfl, head kept.of_union, kept.keepsDuplicates]
        rfl
      · rw [if_neg all, kept.endsDistinct all]
  · intro h R _ bags shape
    rw [← flattens_shape, ← shape, flattens_shape] at h
    exact flatRows_eq h

end UnionTree

/-! ### The text is the row -/

/-- The select without its union. -/
def Select.alone (query : Select) : Select :=
  { query with unions := [] }

namespace UnionMember

/-- Writes a select without its union, behind the union in front of it. -/
def writeAlone (d : Dialect) (entry : Option UnionKind × Select) : Writing String := do
  let text ← entry.2.alone.write d
  return UnionMember.glue entry.1 ++ text

/-- The pieces of a select without its union, behind the union in front of it. -/
def alonePieces (d : Dialect) (entry : Option UnionKind × Select) : Except Error (List Piece) := do
  let ps ← entry.2.alone.pieces d
  return .text (UnionMember.glue entry.1) :: ps

end UnionMember

namespace UnionTree

/-- Writes the selects of a tree in a row, each without its union and behind the union in front
of it. -/
def writeFlat (d : Dialect) (tree : UnionTree Select Select) : Writing String := do
  let first ← tree.first.alone.write d
  let rest ← Writing.inOrder (tree.further.map (UnionMember.writeAlone d))
  return first ++ rest

/-- The pieces of the selects of a tree in a row. -/
def flatPieces (d : Dialect) (tree : UnionTree Select Select) : Except Error (List Piece) := do
  let first ← tree.first.alone.pieces d
  let rest ← Writing.piecesInOrder (tree.further.map (UnionMember.alonePieces d))
  return first ++ rest

variable {d : Dialect}

theorem gives_writeFlat (d : Dialect) (tree : UnionTree Select Select) :
    Writing.Gives d (tree.writeFlat d) (tree.flatPieces d) := by
  have entry (entry : Option UnionKind × Select) :
      Writing.Gives d (UnionMember.writeAlone d entry) (UnionMember.alonePieces d entry) :=
    (entry.2.alone.gives_write d).map (fun n ps => by rw [Piece.render]) (fun ps => by
      rw [Piece.values])
  exact (tree.first.alone.gives_write d).map₂ (Writing.gives_inOrder entry tree.further)
    (fun n ps qs => (Piece.render_append d n ps qs).symm) Piece.values_append

/-- One more member stands behind what comes before it. -/
theorem flatPieces_union {before member : UnionTree Select Select} {ps qs : List Piece}
    (kind : Option UnionKind) (hbefore : before.flatPieces d = .ok ps)
    (hmember : member.flatPieces d = .ok qs) :
    (union before kind member).flatPieces d
      = .ok (ps ++ .text (UnionMember.glue kind) :: qs) := by
  obtain ⟨first, hfirst, hbefore⟩ := bind_eq_ok_iff.mp hbefore
  obtain ⟨rest, hrest, hbefore⟩ := bind_eq_ok_iff.mp hbefore
  obtain ⟨first', hfirst', hmember⟩ := bind_eq_ok_iff.mp hmember
  obtain ⟨rest', hrest', hmember⟩ := bind_eq_ok_iff.mp hmember
  cases hbefore
  cases hmember
  rw [flatPieces, UnionTree.first, further, List.map_append, List.map_cons,
    Writing.piecesInOrder_append, hfirst, hrest, Writing.piecesInOrder, UnionMember.alonePieces,
    hfirst', hrest']
  simp [bind, Except.bind, pure, Except.pure]

end UnionTree

/-- In a dialect without parentheses a member of a union is not limited, and stands as it is. -/
theorem Select.memberPieces_bare {d : Dialect} (bare : d.parenthesizesMembers = false)
    {limited compound : Bool} {ps qs : List Piece}
    (h : Select.memberPieces d limited compound ps = .ok qs) : limited = false ∧ qs = ps := by
  rw [Select.memberPieces, bare] at h
  cases limited <;> cases compound <;> cases h <;> exact ⟨rfl, rfl⟩

/-- A select without its union, and its union behind it. -/
theorem Select.pieces_eq_alone {d : Dialect} (bare : d.parenthesizesMembers = false)
    {query : Select} {ps : List Piece} (h : query.pieces d = .ok ps) :
    ∃ head members, query.alone.pieces d = .ok head ∧
      UnionMember.listPieces d query.unions = .ok members ∧ ps = head ++ members ∧
      (query.unions ≠ [] → query.isLimited = false) := by
  rw [Select.pieces_eq] at h
  obtain ⟨_, checked, h⟩ := bind_eq_ok_iff.mp h
  obtain ⟨joined, hjoined, h⟩ := bind_eq_ok_iff.mp h
  obtain ⟨parts, hparts, h⟩ := bind_eq_ok_iff.mp h
  have alone : query.alone.pieces d
      = .ok (query.alonePieces d joined (Clause.connect parts)) := by
    rw [Select.pieces_eq]
    show (checkTarget query.target query.error >>= fun _ => _) = _
    rw [checked]
    show (Join.listPieces d query.joins >>= fun _ => _) = _
    rw [hjoined]
    show (Clause.parts d query.clauses >>= fun _ => _) = _
    rw [hparts]
    rfl
  by_cases single : query.unions = []
  · simp only [single, List.isEmpty_nil, if_true] at h
    cases h
    exact ⟨_, [], alone, by rw [single]; rfl, (List.append_nil _).symm, absurd single⟩
  · simp only [List.isEmpty_iff, if_neg single] at h
    obtain ⟨head, hhead, h⟩ := bind_eq_ok_iff.mp h
    obtain ⟨members, hmembers, h⟩ := bind_eq_ok_iff.mp h
    cases h
    obtain ⟨unlimited, rfl⟩ := Select.memberPieces_bare bare hhead
    exact ⟨_, members, alone, hmembers, rfl, fun _ => unlimited⟩

mutual

/-- The pieces of a select are those of its row. -/
theorem Select.flatPieces_unionTree {d : Dialect} (bare : d.parenthesizesMembers = false) :
    ∀ {query : Select} {ps : List Piece}, query.pieces d = .ok ps →
      query.unionTree.flatPieces d = .ok ps
  | ⟨target, fields, distinct, orders, groups, joins, unions, clauses, limit, offset, forwardKey,
      groupResults, error⟩, ps, h => by
    obtain ⟨head, members, alone, hmembers, rfl, -⟩ := Select.pieces_eq_alone bare h
    rw [Select.unionTree_eq]
    refine UnionMember.flatPieces_unionTree bare ?_ hmembers
    rw [UnionTree.flatPieces, Select.aloneTree, UnionTree.first, alone, UnionTree.further]
    exact congrArg Except.ok (List.append_nil head)

theorem UnionMember.flatPieces_unionTree {d : Dialect} (bare : d.parenthesizesMembers = false) :
    ∀ {members : List UnionMember} {before : UnionTree Select Select} {ps qs : List Piece},
      before.flatPieces d = .ok ps → UnionMember.listPieces d members = .ok qs →
      (UnionMember.unionTree before members).flatPieces d = .ok (ps ++ qs)
  | [], before, ps, qs, hbefore, h => by
    cases h
    rw [UnionMember.unionTree, hbefore, List.append_nil]
  | ⟨kind, query⟩ :: members, before, ps, qs, hbefore, h => by
    obtain ⟨first, hfirst, h⟩ := bind_eq_ok_iff.mp h
    obtain ⟨rest, hrest, h⟩ := bind_eq_ok_iff.mp h
    cases h
    obtain ⟨inner, hinner, hfirst⟩ := bind_eq_ok_iff.mp hfirst
    obtain ⟨member, hmember, hfirst⟩ := bind_eq_ok_iff.mp hfirst
    cases hfirst
    obtain ⟨-, rfl⟩ := Select.memberPieces_bare bare hmember
    have next := UnionTree.flatPieces_union kind hbefore (Select.flatPieces_unionTree bare hinner)
    rw [UnionMember.unionTree, UnionMember.flatPieces_unionTree bare next hrest,
      List.append_assoc]

end

mutual

/-- No select in the tree is limited, when the first is not. -/
theorem Select.unlimited_cores {d : Dialect} (bare : d.parenthesizesMembers = false) :
    ∀ {query : Select} {ps : List Piece}, query.pieces d = .ok ps → query.isLimited = false →
      ∀ core ∈ query.unionTree.cores, core.isLimited = false
  | ⟨target, fields, distinct, orders, groups, joins, unions, clauses, limit, offset, forwardKey,
      groupResults, error⟩, ps, h, unlimited => by
    obtain ⟨head, members, -, hmembers, -, -⟩ := Select.pieces_eq_alone bare h
    rw [Select.unionTree_eq]
    refine UnionMember.unlimited_cores bare hmembers fun core member => ?_
    rw [Select.aloneTree, UnionTree.cores, UnionTree.further] at member
    exact List.mem_singleton.mp member ▸ unlimited

theorem UnionMember.unlimited_cores {d : Dialect} (bare : d.parenthesizesMembers = false) :
    ∀ {members : List UnionMember} {before : UnionTree Select Select} {ps : List Piece},
      UnionMember.listPieces d members = .ok ps → (∀ core ∈ before.cores, core.isLimited = false) →
      ∀ core ∈ (UnionMember.unionTree before members).cores, core.isLimited = false
  | [], before, ps, _, hbefore => by
    rw [UnionMember.unionTree]
    exact hbefore
  | ⟨kind, query⟩ :: members, before, ps, h, hbefore => by
    obtain ⟨first, hfirst, h⟩ := bind_eq_ok_iff.mp h
    obtain ⟨rest, hrest, -⟩ := bind_eq_ok_iff.mp h
    obtain ⟨inner, hinner, hfirst⟩ := bind_eq_ok_iff.mp hfirst
    obtain ⟨member, hmember, -⟩ := bind_eq_ok_iff.mp hfirst
    obtain ⟨unlimited, -⟩ := Select.memberPieces_bare bare hmember
    rw [UnionMember.unionTree]
    refine UnionMember.unlimited_cores bare hrest fun core inside => ?_
    rw [UnionTree.cores_union] at inside
    rcases List.mem_append.mp inside with inside | inside
    · exact hbefore core inside
    · exact Select.unlimited_cores bare hinner unlimited core inside

end

/-- A select that can be written is written as the row of its tree. -/
theorem Select.write_flat {d : Dialect} (bare : d.parenthesizesMembers = false) {query : Select}
    {ps : List Piece} (h : query.pieces d = .ok ps) :
    query.write d = query.unionTree.writeFlat d := by
  have row := query.unionTree.gives_writeFlat d
  rw [Select.flatPieces_unionTree bare h, ← h] at row
  exact (query.gives_write d).unique row

/-- **What the flat text of a union means.**  A select that can be written for SQLite is written
as the row of the selects in its tree, none of which is limited when there is a union.  Read from
left to right the row means what the tree means, whatever the rows of the selects are, exactly when
the tree flattens. -/
theorem Select.flattened_iff {query : Select} {p : Prepared}
    (compiled : (Query.select query).compile .sqlite = .ok p) :
    let tree := query.unionTree
    query.write .sqlite = tree.writeFlat .sqlite ∧
      (query.unions ≠ [] → ∀ core ∈ tree.cores, core.isLimited = false) ∧
      ((∀ (R : Type) [DecidableEq R] (bags : UnionTree (Multiset R) Select),
        bags.shape = tree.shape → bags.flatRows = bags.rows) ↔ tree.flattens = true) := by
  intro tree
  obtain ⟨ps, hps, -⟩ := Query.compile_eq_ok_iff.mp compiled
  obtain ⟨head, members, -, -, -, unlimited⟩ := Select.pieces_eq_alone rfl hps
  exact ⟨Select.write_flat rfl hps,
    fun compound => Select.unlimited_cores rfl hps (unlimited compound), tree.meaningKept_iff⟩

/-- A union behind `UNION` whose own last union drops duplicates, though another one does not. -/
theorem Select.flattened_iff_nested :
    let table (name : String) : Select := Select.all ⟨none, ⟨name, none⟩, .sqlite, {}⟩
    let inner : Select := { table "b" with unions := [⟨some .all, table "c"⟩, ⟨none, table "d"⟩] }
    let query : Select := { table "a" with unions := [⟨none, inner⟩] }
    (Query.select query).compile .sqlite = .ok
        ⟨"SELECT * FROM \"a\" UNION SELECT * FROM \"b\"" ++
          " UNION ALL SELECT * FROM \"c\" UNION SELECT * FROM \"d\"", []⟩ ∧
      query.unionTree.flattens = true ∧
      ∀ (R : Type) [DecidableEq R] (bags : UnionTree (Multiset R) Select),
        bags.shape = query.unionTree.shape → bags.flatRows = bags.rows := by
  intro table inner query
  have compiled : (Query.select query).compile .sqlite = .ok
      ⟨"SELECT * FROM \"a\" UNION SELECT * FROM \"b\"" ++
        " UNION ALL SELECT * FROM \"c\" UNION SELECT * FROM \"d\"", []⟩ := by
    simp only [query, inner, table]
    rfl
  have flattens : query.unionTree.flattens = true := by
    simp only [query, inner, table]
    rfl
  exact ⟨compiled, flattens, (Select.flattened_iff compiled).2.2.mpr flattens⟩

/-- **Duplicates are lost** where a union that drops them stands, as a member, behind `UNION ALL`:
of two equal rows in the first two selects one is left. -/
theorem Select.flattened_loses_duplicates :
    let table (name : String) : Select := Select.all ⟨none, ⟨name, none⟩, .sqlite, {}⟩
    let inner : Select := { table "b" with unions := [⟨none, table "c"⟩] }
    let query : Select := { table "a" with unions := [⟨some .all, inner⟩] }
    (Query.select query).compile .sqlite = .ok
        ⟨"SELECT * FROM \"a\" UNION ALL SELECT * FROM \"b\" UNION SELECT * FROM \"c\"", []⟩ ∧
      ∃ bags : UnionTree (Multiset Unit) Select, bags.shape = query.unionTree.shape ∧
        bags.rows = {(), ()} ∧ bags.flatRows = {()} := by
  intro table inner query
  have compiled : (Query.select query).compile .sqlite = .ok
      ⟨"SELECT * FROM \"a\" UNION ALL SELECT * FROM \"b\" UNION SELECT * FROM \"c\"", []⟩ := by
    simp only [query, inner, table]
    rfl
  refine ⟨compiled, .union (.alone {()} none) (some .all)
    (.union (.alone {()} none) none (.alone 0 none)), ?_, by decide, by decide⟩
  simp only [query, inner, table]
  rfl

end SqlBuilder
