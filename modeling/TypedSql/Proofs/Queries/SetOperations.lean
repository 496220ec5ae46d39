import TypedSql.Proofs.Analysis.Outcomes
import TypedSql.Proofs.Analysis.RepeatedPlaceholders

/-!
# Set operations

Set operations that nothing else is asked of see only their leaves: every leaf is analysed where the
tree stands, and each column is merged from the columns of the leaves at its position, from left to
right. Neither the shape of the tree nor the operators matter.

- **Trees**: which queries are the leaves of a tree of set operations
- **Merging**: the column that the cells of a position make
- **Sides**: a set operation from what its sides come to
- **Leaves**: a whole tree from what its leaves come to
-/

namespace TypedSql

open Canonical

/-! ## Trees -/

/-- A set operation of two queries. It has no WITH, no ORDER BY and no LIMIT clause, with or without
an OFFSET, of its own. -/
structure Canonical.Select.Joins (q left right : Select) : Prop where
  operation : q.operation ≠ .none
  left : q.left = some left
  right : q.right = some right
  ctes : q.ctes = []
  orderBy : q.orderBy = []
  limit : q.limit = none
  offset : q.offset = none

/-- A tree of set operations with its leaves, from left to right. -/
inductive Canonical.Select.Combines : Select → List Select → Prop where
  | leaf (q : Select) : Combines q [q]
  | node {q left right : Select} {ls rs : List Select} (hq : q.Joins left right)
      (hleft : Combines left ls) (hright : Combines right rs) : Combines q (ls ++ rs)

/-! ## Merging -/

/-- A column is merged from the cells of a position: it is called after the first one and comes from
where that comes from, it has the first type that is known, and it is null where one of the cells
can be. -/
structure MergedFrom (cells : List ResultColumn) (column : ResultColumn) : Prop where
  first : ∃ cell, cells.head? = some cell ∧ column.name = cell.name ∧ column.table = cell.table ∧
    column.originalName = cell.originalName
  knownType : ∀ cell, cells.find? (!·.type.isOpaque) = some cell → column.type = cell.type
  unknownType : cells.find? (!·.type.isOpaque) = none → column.type.isOpaque = true
  notNull : column.notNull = cells.all (·.notNull)

namespace MergedFrom

variable {cells cells' : List ResultColumn} {column column' : ResultColumn}

theorem singleton (column : ResultColumn) : MergedFrom [column] column where
  first := ⟨column, rfl, rfl, rfl, rfl⟩
  knownType cell h := by
    obtain rfl := List.mem_singleton.mp (List.mem_of_find?_eq_some h)
    rfl
  unknownType h := by simpa using h
  notNull := by simp

/-- The type of a merged column is known if that of a cell is. -/
theorem isOpaque_iff (h : MergedFrom cells column) :
    column.type.isOpaque = true ↔ cells.find? (!·.type.isOpaque) = none := by
  refine ⟨fun hopaque => ?_, h.unknownType⟩
  cases hfound : cells.find? (!·.type.isOpaque) with
  | none => rfl
  | some cell =>
    have hknown := List.find?_some hfound
    rw [← h.knownType cell hfound, hopaque] at hknown
    cases hknown

/-- Merging is associative: two columns combine to what the cells of both make. -/
theorem append (h : MergedFrom cells column) (h' : MergedFrom cells' column') :
    MergedFrom (cells ++ cells') (column.combine column') where
  first := by
    obtain ⟨cell, hhead, hfirst⟩ := h.first
    exact ⟨cell, by rw [List.head?_append, hhead, Option.some_or], hfirst⟩
  knownType cell hfound := by
    rw [List.find?_append] at hfound
    -- the cells on the right count only if no type is known on the left
    by_cases hopaque : column.type.isOpaque
    · rw [h.isOpaque_iff.mp hopaque, Option.none_or] at hfound
      rw [ResultColumn.combine, if_pos hopaque, h'.knownType cell hfound]
    · obtain ⟨known, hknown⟩ := Option.ne_none_iff_exists'.mp (mt h.isOpaque_iff.mpr hopaque)
      rw [hknown, Option.some_or] at hfound
      obtain rfl := Option.some.inj hfound
      rw [ResultColumn.combine, if_neg hopaque, h.knownType known hknown]
  unknownType hnone := by
    obtain ⟨hleft, hright⟩ := Option.or_eq_none_iff.mp (List.find?_append.symm.trans hnone)
    rw [ResultColumn.combine, if_pos (h.unknownType hleft)]
    exact h'.unknownType hright
  notNull := by rw [List.all_append, ← h.notNull, ← h'.notNull, ResultColumn.combine]

end MergedFrom

/-- Columns that are merged from those of parts, position by position. -/
structure Merges (parts : List (List ResultColumn)) (columns : List ResultColumn) : Prop where
  widths : ∀ part ∈ parts, part.length = columns.length
  cells : ∀ (i : Nat) column, columns[i]? = some column →
    MergedFrom (parts.filterMap (·[i]?)) column

namespace Merges

variable {parts parts' : List (List ResultColumn)} {columns columns' : List ResultColumn}

theorem singleton (columns : List ResultColumn) : Merges [columns] columns where
  widths part h := by rw [List.mem_singleton.mp h]
  cells i column h := by
    rw [List.filterMap_cons, h]
    exact .singleton column

theorem append (h : Merges parts columns) (h' : Merges parts' columns')
    (hwidth : columns.length = columns'.length) :
    Merges (parts ++ parts') (List.zipWith .combine columns columns') where
  widths part hpart := by
    rw [List.length_zipWith, ← hwidth, Nat.min_self]
    rcases List.mem_append.mp hpart with hpart | hpart
    · exact h.widths part hpart
    · exact (h'.widths part hpart).trans hwidth.symm
  cells i column hcolumn := by
    obtain ⟨cell, cell', hcell, hcell', rfl⟩ := List.getElem?_zipWith_eq_some.mp hcolumn
    rw [List.filterMap_append]
    exact (h.cells i cell hcell).append (h'.cells i cell' hcell')

end Merges

/-! ## Sides -/

/-- A query that has columns where it stands. -/
def HasColumns (c : Catalog) (s : Scope) (hints : List Hint) (bs : Bindings) (q : Select)
    (columns : List ResultColumn) : Prop :=
  answerFrom bs (analyzeSelect c s hints q) = .ok columns

variable {c : Catalog} {s : Scope} {hints : List Hint} {bs : Bindings}

theorem HasColumns.rightUnique : Relator.RightUnique (HasColumns c s hints bs) :=
  fun _ _ _ h h' => Except.ok.inj (h.symm.trans h')

section Sides

variable {q left right : Select}

/-- A set operation without clauses of its own analyses its sides where it stands itself. -/
theorem analyzeSelect_joins (hq : q.Joins left right) :
    analyzeSelect c s hints q =
      analyzeSelect c s hints left >>= fun l =>
        analyzeSelect c s hints right >>= fun r => combineColumns l r := by
  have hside (side : Select) :
      analyzeSelect c (⟨[], [], []⟩ :: s) hints side = analyzeSelect c s hints side :=
    analyzeSelect_congr (.empty_level c s) hints side fun _ _ => trivial
  rw [analyzeSelect_eq, hq.ctes, analyzeCtes, pure_bind, analyzeBody, if_pos hq.operation, hq.left,
    hq.right, hq.orderBy, hq.limit, hq.offset]
  simp only [analyzeSide, hside]
  refine bind_congr fun l => bind_congr fun r => ?_
  exact bind_pure (combineColumns l r)

theorem combineColumns_comesTo (l r : List ResultColumn) :
    ComesTo (combineColumns l r)
      (if l.length = r.length then .ok (List.zipWith .combine l r, [])
        else .error (.malformed (.columnCounts l.length r.length))) := by
  rw [combineColumns]
  split
  · exact .pure _
  · exact .throw _

/-- A set operation has columns if both sides have as many, and combines them. -/
theorem hasColumns_iff (hq : q.Joins left right) {columns : List ResultColumn} :
    HasColumns c s hints bs q columns ↔
      ∃ l r, HasColumns c s hints bs left l ∧ HasColumns c s hints bs right r ∧
        l.length = r.length ∧ columns = List.zipWith .combine l r := by
  obtain ⟨outcome, hrun, -⟩ := analyzeSelect_settles c s hints left
  obtain ⟨outcome', hrun', -⟩ := analyzeSelect_settles c s hints right
  simp only [HasColumns, analyzeSelect_joins hq, hrun.answerFrom_eq, hrun'.answerFrom_eq]
  cases outcome with
  | error e =>
    rw [hrun.bind_error.answerFrom_eq]
    exact ⟨(nomatch ·), fun ⟨_, _, h, _⟩ => nomatch h⟩
  | ok x =>
    rw [hrun.answerFrom_next, hrun'.answerFrom_bind (combineColumns_comesTo x.1)]
    cases outcome' with
    | error e => exact ⟨(nomatch ·), fun ⟨_, _, _, h, _⟩ => nomatch h⟩
    | ok y =>
      -- both sides have columns, so all that can fail is their number
      have hcombine (f : List ResultColumn → Except AnalysisError (List ResultColumn)) :
          (Except.ok y.1 >>= f) = f y.1 := pure_bind y.1 f
      simp only [StepResult.answer_ok, hcombine, Except.ok.injEq, exists_and_left,
        exists_eq_left']
      by_cases hwidth : x.1.length = y.1.length <;> simp [hwidth, eq_comm]

end Sides

/-! ## Leaves -/

section Leaves

variable {tree : Select} {leaves : List Select}

/-- If a tree has columns, so have its leaves, and its columns are merged from theirs. -/
theorem Canonical.Select.Combines.exists_parts (h : tree.Combines leaves)
    {columns : List ResultColumn} (hcolumns : HasColumns c s hints bs tree columns) :
    ∃ parts, List.Forall₂ (HasColumns c s hints bs) leaves parts ∧ Merges parts columns := by
  induction h generalizing columns with
  | leaf q => exact ⟨[columns], .cons hcolumns .nil, .singleton columns⟩
  | node hq _ _ ihl ihr =>
    obtain ⟨l, r, hl, hr, hwidth, rfl⟩ := (hasColumns_iff hq).mp hcolumns
    obtain ⟨parts, hparts, hmerges⟩ := ihl hl
    obtain ⟨parts', hparts', hmerges'⟩ := ihr hr
    exact ⟨parts ++ parts', List.rel_append hparts hparts', hmerges.append hmerges' hwidth⟩

/-- If the leaves of a tree have columns, and all as many, the tree has as many. -/
theorem Canonical.Select.Combines.exists_columns (h : tree.Combines leaves)
    {parts : List (List ResultColumn)} {width : Nat}
    (hparts : List.Forall₂ (HasColumns c s hints bs) leaves parts)
    (hwidth : ∀ part ∈ parts, part.length = width) :
    ∃ columns, HasColumns c s hints bs tree columns ∧ columns.length = width := by
  induction h generalizing parts with
  | leaf q =>
    obtain ⟨part, _, hpart, hnil, rfl⟩ := List.forall₂_cons_left_iff.mp hparts
    exact ⟨part, hpart, hwidth part List.mem_cons_self⟩
  | @node q left right ls rs hq _ _ ihl ihr =>
    -- the columns of the leaves are divided as the leaves are
    have hl := List.forall₂_take ls.length hparts
    have hr := List.forall₂_drop ls.length hparts
    rw [List.take_left] at hl
    rw [List.drop_left] at hr
    obtain ⟨l, hl, hlwidth⟩ := ihl hl fun part h => hwidth part (List.mem_of_mem_take h)
    obtain ⟨r, hr, hrwidth⟩ := ihr hr fun part h => hwidth part (List.mem_of_mem_drop h)
    refine ⟨List.zipWith .combine l r, ?_, ?_⟩
    · exact (hasColumns_iff hq).mpr ⟨l, r, hl, hr, hlwidth.trans hrwidth.symm, rfl⟩
    · rw [List.length_zipWith, hlwidth, hrwidth, Nat.min_self]

/-- **Set operations see only their leaves.** A tree of set operations has columns exactly if every
leaf has, where the tree stands, and all have as many. The column at a position is then merged from
those of the leaves at that position. -/
theorem hasColumns_of_leaves (c : Catalog) (s : Scope) (hints : List Hint) (bs : Bindings)
    (h : tree.Combines leaves) :
    ((∃ columns, HasColumns c s hints bs tree columns) ↔
      ∃ parts width, List.Forall₂ (HasColumns c s hints bs) leaves parts ∧
        ∀ part ∈ parts, part.length = width) ∧
      ∀ columns parts, HasColumns c s hints bs tree columns →
        List.Forall₂ (HasColumns c s hints bs) leaves parts → Merges parts columns := by
  refine ⟨⟨?leaves, ?tree⟩, ?columns⟩
  case leaves =>
    rintro ⟨columns, hcolumns⟩
    obtain ⟨parts, hparts, hmerges⟩ := h.exists_parts hcolumns
    exact ⟨parts, columns.length, hparts, hmerges.widths⟩
  case tree =>
    rintro ⟨parts, width, hparts, hwidth⟩
    obtain ⟨columns, hcolumns, -⟩ := h.exists_columns hparts hwidth
    exact ⟨columns, hcolumns⟩
  case columns =>
    intro columns parts hcolumns hparts
    obtain ⟨parts', hparts', hmerges⟩ := h.exists_parts hcolumns
    -- the leaves have no other columns than those
    obtain rfl := HasColumns.rightUnique.forall₂ hparts hparts'
    exact hmerges

/-- The query `SELECT a FROM t`. -/
def selectA : Select :=
  { Select.empty with
    targets := [.target none (some (.column [.name "a"])) 0]
    source := [.table ⟨none, "t", none, false⟩] }

/-- The query `SELECT NULL AS x`. -/
def selectNull : Select :=
  { Select.empty with targets := [.target (some "x") (some (.literal .null)) 0] }

/-- The query `VALUES ($1)`. -/
def valuesParam : Select := { Select.empty with rows := [.list [.param 1 0]] }

/-- The query `(SELECT NULL AS x UNION SELECT a FROM t) EXCEPT VALUES ($1)`. -/
def nullThenColumn : Select :=
  { Select.empty with
    operation := .except
    left := some { Select.empty with
      operation := .union
      left := some selectNull
      right := some selectA }
    right := some valuesParam }

/-- The column has the name of the first leaf and the type of the second one. -/
theorem hasColumns_of_leaves_nullThenColumn :
    ∃ column, HasColumns nullableTable [] [] [] nullThenColumn [column] ∧ column.name = "x" ∧
      column.type = .named "int" ∧ column.notNull = false := by
  have htree : nullThenColumn.Combines [selectNull, selectA, valuesParam] :=
    .node ⟨by decide, rfl, rfl, rfl, rfl, rfl, rfl⟩
      (.node ⟨by decide, rfl, rfl, rfl, rfl, rfl, rfl⟩ (.leaf selectNull) (.leaf selectA))
      (.leaf valuesParam)
  have hparts : List.Forall₂ (HasColumns nullableTable [] [] []) [selectNull, selectA, valuesParam]
      [[⟨"x", .opaqueType, false, none, none⟩],
        [⟨"a", .named "int", false, some (.qualified "public" "t"), some "a"⟩],
        [⟨"column_1", .opaqueType, false, none, none⟩]] := by
    refine .cons ?_ (.cons ?_ (.cons ?_ .nil)) <;> rw [HasColumns] <;> decide +kernel
  -- each branch has one column, so they combine, and the column comes cell by cell
  obtain ⟨hiff, hmerges⟩ := hasColumns_of_leaves nullableTable [] [] [] htree
  obtain ⟨columns, hcolumns⟩ := hiff.mpr ⟨_, 1, hparts, by decide⟩
  have h := hmerges columns _ hcolumns hparts
  obtain ⟨column, rfl⟩ := List.length_eq_one_iff.mp (h.widths _ List.mem_cons_self).symm
  have hcells := h.cells 0 column rfl
  obtain ⟨cell, hfirst, hname, -⟩ := hcells.first
  cases hfirst
  exact ⟨column, hcolumns, hname, hcells.knownType _ rfl, hcells.notNull⟩

end Leaves

end TypedSql
