import TypedSql.Proofs.Analysis.InsertPositions

/-!
# Widths of what an INSERT writes

The rows of a VALUES have to be as wide as the list of columns that an INSERT writes into, and the
sides of a set operation as wide as each other. A select list is not compared with the columns, so
an INSERT whose source is made of select lists only may write too few values or too many.

- **Parts**: the rows and select lists that a query is made of
- **Widths**: the rules by which all parts of a query have one width
- **Queries**: a query that can be analysed has such a width
- **Statements**: when the width is the number of columns that are written into
-/

namespace TypedSql

open Canonical

variable {c : Catalog}

/-! ## Parts -/

/-- What a query takes its rows from: a row of a VALUES, or a select list in the scope in which it
stands. -/
inductive SourcePart where
  | row (items : List Node)
  | arm (s : Scope) (targets : List Node)

/-- The number of columns of a part. A star counts for all columns that it stands for. -/
def SourcePart.width : SourcePart → Nat
  | .row items => items.length
  | .arm s targets => (targetOrigins s targets).length

/-- A part of a query: its select list, a row of its VALUES, or a part of a side of a set
operation. -/
inductive Canonical.Select.PartAt (c : Catalog) : Scope → Select → SourcePart → Prop where
  | arm {s : Scope} {q : Select} (hoperation : q.operation = .none) (hrows : q.rows = []) :
    PartAt c s q (.arm (q.rowScope c s) q.targets)
  | row {s : Scope} {q : Select} {items : List Node} (hoperation : q.operation = .none)
      (hrow : .list items ∈ q.rows) : PartAt c s q (.row items)
  | side {s : Scope} {q side : Select} {part : SourcePart} (hoperation : q.operation ≠ .none)
      (hside : q.left = some side ∨ q.right = some side)
      (h : PartAt c (q.bodyScope c s) side part) : PartAt c s q part

/-! ## Widths -/

/-- All parts of a query have one width. If a row of a VALUES is among them, that is the number of
hints. -/
structure UniformWidth (c : Catalog) (s : Scope) (hints : List Hint) (q : Select) (width : Nat) :
    Prop where
  exists_part : ∃ part, q.PartAt c s part
  width_eq : ∀ part, q.PartAt c s part → part.width = width
  row_width : ∀ items, q.PartAt c s (.row items) → width = hints.length

theorem length_weakenColumns {columns : List ResultColumn} {is : List Inferred}
    (h : is.length = columns.length) : (weakenColumns columns is).length = columns.length := by
  induction columns generalizing is with
  | nil => cases is <;> rfl
  | cons column columns ih =>
    cases is with
    | nil => rfl
    | cons i is => exact congrArg (· + 1) (ih (Nat.succ.inj h))

theorem length_rowColumns (position : Nat) (is : List Inferred) :
    (rowColumns position is).length = is.length := by
  induction is generalizing position with
  | nil => rfl
  | cons i is ih => exact congrArg (· + 1) (ih (position + 1))

theorem length_valuesColumns {width : Nat} {rows : List (List Inferred)} (hrows : rows ≠ [])
    (h : ∀ row ∈ rows, row.length = width) : (valuesColumns rows).length = width := by
  cases rows with
  | nil => exact absurd rfl hrows
  | cons row rows =>
    obtain ⟨hrow, hrest⟩ := List.forall_mem_cons.mp h
    show (rows.foldl weakenColumns (rowColumns 1 row)).length = width
    have hfirst : (rowColumns 1 row).length = width := (length_rowColumns 1 row).trans hrow
    generalize rowColumns 1 row = columns at hfirst
    -- the columns of the first row stay as many while the other rows weaken them
    clear h hrows
    induction rows generalizing columns with
    | nil => exact hfirst
    | cons next rows ih =>
      obtain ⟨hnext, hrest⟩ := List.forall_mem_cons.mp hrest
      refine ih hrest _ ?_
      rw [length_weakenColumns (hnext.trans hfirst.symm), hfirst]

/-- The rows of a VALUES with what is inferred of them: every row has as many values as there are
hints. -/
structure RowsFit (hints : List Hint) (rows : List (List Inferred)) (ns : List Node) : Prop where
  length_eq : rows.length = ns.length
  inferred : ∀ row ∈ rows, row.length = hints.length
  items : ∀ n ∈ ns, ∃ items, n = .list items ∧ items.length = hints.length

namespace UniformWidth

variable {s : Scope} {hints : List Hint} {q : Select}

/-- A set operation has the width of its sides. -/
theorem combine {left right : Select} {width : Nat} (hoperation : q.operation ≠ .none)
    (hleft : q.left = some left) (hright : q.right = some right)
    (hl : UniformWidth c (q.bodyScope c s) hints left width)
    (hr : UniformWidth c (q.bodyScope c s) hints right width) : UniformWidth c s hints q width := by
  have hside {side : Select} (hside : q.left = some side ∨ q.right = some side) :
      UniformWidth c (q.bodyScope c s) hints side width := by
    rcases hside with heq | heq
    · cases hleft.symm.trans heq
      exact hl
    · cases hright.symm.trans heq
      exact hr
  constructor
  · obtain ⟨part, hpart⟩ := hl.exists_part
    exact ⟨part, .side hoperation (.inl hleft) hpart⟩
  · intro part hpart
    cases hpart with
    -- the parts of a set operation are those of its sides, so it has none of its own
    | arm hnone | row hnone => exact absurd hnone hoperation
    | side _ his h => exact (hside his).width_eq part h
  · intro items hpart
    cases hpart with
    | row hnone => exact absurd hnone hoperation
    | side _ his h => exact (hside his).row_width items h

/-- A VALUES has as many columns as each of its rows has values, and there is a hint for each. -/
theorem values {rows : List (List Inferred)} (hoperation : q.operation = .none)
    (hrows : q.rows ≠ []) (h : RowsFit hints rows q.rows) :
    UniformWidth c s hints q (valuesColumns rows).length := by
  -- a VALUES has a first row, which decides how many columns the result has
  have hinferred : rows ≠ [] := by
    rintro rfl
    exact hrows (List.length_eq_zero_iff.mp h.length_eq.symm)
  rw [length_valuesColumns hinferred h.inferred]
  constructor
  · obtain ⟨n, hn⟩ := List.exists_mem_of_ne_nil _ hrows
    obtain ⟨items, rfl, -⟩ := h.items n hn
    exact ⟨_, .row hoperation hn⟩
  · intro part hpart
    cases hpart with
    | arm _ hnone => exact absurd hnone hrows
    | row _ hrow =>
      obtain ⟨_, ⟨⟩, hlength⟩ := h.items _ hrow
      exact hlength
    | side hset => exact absurd hoperation hset
  · exact fun _ _ => rfl

/-- A plain query has the width of its select list. -/
theorem plain {columns : List ResultColumn} (hoperation : q.operation = .none) (hrows : q.rows = [])
    (h : (targetOrigins (q.rowScope c s) q.targets).length = columns.length) :
    UniformWidth c s hints q columns.length := by
  constructor
  · exact ⟨_, .arm hoperation hrows⟩
  · intro part hpart
    cases hpart with
    | arm => exact h
    | row _ hrow => simp [hrows] at hrow
    | side hset => exact absurd hoperation hset
  · intro items hpart
    cases hpart with
    | row _ hrow => simp [hrows] at hrow
    | side hset => exact absurd hoperation hset

end UniformWidth

/-! ## Queries -/

theorem inferRows_fit (s : Scope) (hints : List Hint) (ns : List Node) :
    Traced (numbersOf ns) (fun rows _ => hints ≠ [] → RowsFit hints rows ns)
      fun f => inferRows c s hints (renumberAll f ns) := by
  induction ns with
  | nil => exact .pure fun _ => ⟨rfl, List.forall_mem_nil _, List.forall_mem_nil _⟩
  | cons n ns ih =>
    cases n with
    | list items =>
      simp only [renumberAll, Node.renumber, inferRows, length_renumberAll]
      split
      · exact .throw_bind
      rename_i hcount
      refine (inferRow_traced s hints items).split (numbersOf ns)
        (fun k => by simp [numbersOf, Numbered.walk]) fun row _ hrow => ?_
      refine ih.map fun rows _ hrest hhints => ?_
      -- the row has passed the comparison with the hints
      have hlength : items.length = hints.length := by simpa [hhints] using hcount
      obtain ⟨hlengths, hinferred, hitems⟩ := hrest hhints
      refine ⟨congrArg (· + 1) hlengths, ?_, ?_⟩
      · exact List.forall_mem_cons.mpr ⟨hrow.length_eq.trans hlength, hinferred⟩
      · exact List.forall_mem_cons.mpr ⟨⟨items, rfl, hlength⟩, hitems⟩
    | _ => exact .throw

mutual

/-- A query that can be analysed has one width. -/
theorem analyzeSelect_uniform (s : Scope) (hints : List Hint) (q : Select) :
    Traced (numbersOf q)
      (fun columns _ => hints ≠ [] → UniformWidth c s hints q columns.length)
      fun f => analyzeSelect c s hints (q.renumber f) := by
  match q with
  | ⟨ctes, targets, source, joinConditions, condition, distinctOn, groupBy, having, windows,
      orderBy, limit, offset, rows, operation, all, left, right⟩ =>
    refine select_traced_of (Select.partsTrack s _) (analyzeSide_uniform _ hints left)
      (analyzeSide_uniform _ hints right) (inferRows_fit _ hints rows)
      (analyzeTargets_traced _ hints 0 targets) ?_ ?_ ?_
    · rintro hoperation l r _ _ _ ⟨left, hleft, hl⟩ ⟨right, hright, hr⟩ hwidth - - hhints
      -- the sides were found to have as many columns each, so none is lost when they are combined
      have hcombined : (List.zipWith ResultColumn.combine l r).length = l.length := by
        rw [List.length_zipWith, ← hwidth, Nat.min_self]
      rw [hcombined]
      exact .combine hoperation hleft hright (hl hhints) (hwidth ▸ hr hhints)
    · intro hoperation hsome inferred _ _ hrows _ hhints
      exact .values hoperation (by simpa using hsome) (hrows hhints)
    · intro hoperation hempty columns _ _ hcolumns _ _
      exact .plain hoperation (by simpa using hempty) hcolumns.length_eq.symm
termination_by structural q

theorem analyzeSide_uniform (s : Scope) (hints : List Hint) (q : Option Select) :
    Traced (numbersOf q)
      (fun columns _ => ∃ side, q = some side ∧
        (hints ≠ [] → UniformWidth c s hints side columns.length))
      fun f => analyzeSide c s hints (renumberSide f q) := by
  match q with
  | none => exact .throw
  | some q =>
    refine (analyzeSelect_uniform s hints q).mono (.of_perm (.refl _)) fun columns _ h => ?_
    exact ⟨q, rfl, h⟩
termination_by structural q

end

/-! ## Statements -/

theorem columnCount_ne_zero (i : Canonical.Insert) {t : Table} (h : t.columns ≠ []) :
    i.columnCount t ≠ 0 := by
  rw [Insert.columnCount]
  split
  · exact mt List.length_eq_zero_iff.mp h
  · rename_i hlisted
    exact fun hzero => hlisted (List.isEmpty_iff_length_eq_zero.mpr hzero)

/-- The source of an INSERT has one width, which is the number of columns that it writes into if a
row of a VALUES is among its parts. -/
def SourceFits (c : Catalog) (i : Canonical.Insert) : Prop :=
  ∃ t, c.lookupTable i.table.tableName = .ok t ∧ (t.columns ≠ [] →
    ∃ hints width, hints.length = i.columnCount t ∧ UniformWidth c [] hints i.source width)

theorem analyzeInsert_sourceFits (i : Canonical.Insert) :
    Traced (numbersOf i) (fun _ _ => SourceFits c i) fun f => analyzeInsert c (i.renumber f) := by
  refine insert_traced_of (insertHints_traced · i.table.aliasName i)
    (analyzeSelect_uniform [] · i.source) ?_
  intro t hints columns _ _ _ _ ht hlist huniform _ _ _
  obtain ⟨hlength, -, -⟩ := hlist
  refine ⟨t, ht, fun hcolumns => ⟨hints, columns.length, hlength, huniform ?_⟩⟩
  -- a table with columns gives a hint at least, whether or not columns are listed
  rintro rfl
  exact columnCount_ne_zero i hcolumns hlength.symm

/-- **The arms of an INSERT have one width.** If an INSERT into a table with columns has an analysis,
all rows and select lists of its source have the same number of columns. That number is compared
with the columns that are written into only if there is a row of a VALUES among them; then it is
right for all of them. Otherwise it may be any, and all parts are right or all are wrong. -/
theorem width_of_analyze_insert {i : Canonical.Insert} {a : Analysis}
    (hrun : analyze c (.insert i) = .ok a) :
    ∃ t, c.lookupTable i.table.tableName = .ok t ∧ (t.columns ≠ [] →
      ∃ width, (∀ part, i.source.PartAt c [] part → part.width = width) ∧
        ((∀ part, i.source.PartAt c [] part → part.width = i.columnCount t) ↔
          width = i.columnCount t) ∧
        ∀ items, i.source.PartAt c [] (.row items) → width = i.columnCount t) := by
  have htraced : Traced (Node.insert i).numbers (fun _ _ => SourceFits c i)
      fun f => analyzeStatement c ((Node.insert i).renumber f) :=
    (analyzeInsert_sourceFits i).map fun _ _ => id
  obtain ⟨_, _, ⟨t, ht, hfits⟩, -, rfl⟩ := htraced.of_analyze hrun
  refine ⟨t, ht, fun hcolumns => ?_⟩
  obtain ⟨hints, width, hlength, ⟨part, hpart⟩, hwidth, hrow⟩ := hfits hcolumns
  refine ⟨width, hwidth, ⟨fun hall => ?_, ?_⟩, fun items h => (hrow items h).trans hlength⟩
  · -- one part is enough to tell the width
    exact (hwidth part hpart).symm.trans (hall part hpart)
  · rintro rfl
    exact hwidth

/-- In `INSERT INTO t (b, a) SELECT *, $1 FROM u UNION ALL VALUES ($2, 0)` the VALUES on the right
vouches for the star on the left. -/
theorem width_of_analyze_insert_starThenParam :
    (∃ a, analyze twoTables (.insert starThenParam) = .ok a) ∧
      ∀ part, starThenParam.source.PartAt twoTables [] part → part.width = 2 := by
  have hrun : analyze twoTables (.insert starThenParam) =
      .ok ⟨[⟨1, some "a", .named "int", false⟩, ⟨2, some "b", .named "text", true⟩], [],
        some (.qualified "public" "t")⟩ := by
    decide +kernel
  obtain ⟨t, ht, hwidths⟩ := width_of_analyze_insert hrun
  -- the table that the theorem speaks of is the one in the catalog
  have htable : twoTables.lookupTable starThenParam.table.tableName =
      .ok ⟨.qualified "public" "t", [⟨"a", .named "int", false⟩, ⟨"b", .named "text", true⟩]⟩ := by
    decide +kernel
  rw [htable] at ht
  cases ht
  obtain ⟨width, hwidth, -, hrow⟩ := hwidths (List.cons_ne_nil _ _)
  have htwo : width = 2 := hrow _ (.side (by decide) (.inr rfl) (.row rfl List.mem_cons_self))
  exact ⟨⟨_, hrun⟩, fun part hpart => (hwidth part hpart).trans htwo⟩

/-- The statement `INSERT INTO t (a, b)` with a source. -/
def insertBoth (source : Select) : Canonical.Insert :=
  { table := ⟨none, "t", none, false⟩
    columns := [.target (some "a") none 15, .target (some "b") none 18]
    source := source
    conflictTargets := []
    conflictCondition := none
    returning := [] }

/-- One value for two columns is refused in a VALUES, but not in a select list. -/
theorem not_width_of_selectOne :
    let selectOne : Select :=
      { Select.empty with targets := [.target none (some (.literal (.integer "1"))) 28] }
    let valuesOne : Select := { Select.empty with rows := [.list [.literal (.integer "1")]] }
    (∃ a, analyze twoTables (.insert (insertBoth selectOne)) = .ok a) ∧
      (∃ t part, twoTables.lookupTable (.unqualified "t") = .ok t ∧ t.columns ≠ [] ∧
        selectOne.PartAt twoTables [] part ∧
          part.width = 1 ∧ (insertBoth selectOne).columnCount t = 2) ∧
      analyze twoTables (.insert (insertBoth valuesOne)) =
        .error (.malformed (.valueCount 2 1)) := by
  intro selectOne valuesOne
  -- the query of one column is let through, the row of one value is not
  refine ⟨⟨⟨[], [], some (.qualified "public" "t")⟩, by decide +kernel⟩, ?_, by decide +kernel⟩
  refine ⟨⟨.qualified "public" "t", [⟨"a", .named "int", false⟩, ⟨"b", .named "text", true⟩]⟩,
    _, by decide +kernel, List.cons_ne_nil _ _, .arm rfl rfl, rfl, rfl⟩

end TypedSql
