import TypedSql.Proofs.Analysis.Failure
import TypedSql.Proofs.Analysis.ParameterList

/-!
# Positions of an INSERT

What an INSERT writes goes into its columns by position. So a placeholder at an output position of
its source is taken for a value of the column at that position: the positions of a select list are
counted with the columns that stars stand for, those of a VALUES in every row anew, and those of a
set operation on either side.

- **Positions**: the expressions at the output positions of a query
- **Rows and select lists**: the hints that their expressions take
- **Queries**: the hints that the expressions at output positions take
- **Columns**: the hints of the columns that an INSERT writes into
- **Parameters**: what becomes of the placeholders
-/

namespace TypedSql

open Canonical

variable {c : Catalog}

/-! ## Positions -/

/-- An expression stands at an output position of a query: in the select list, where a star counts
for all columns that it stands for, in a row of a VALUES, or on a side of a set operation. -/
inductive Canonical.Select.OutputAt (c : Catalog) : Scope → Select → Nat → Node → Prop where
  | target {s : Scope} {q : Select} {j : Nat} {n : Node} (hoperation : q.operation = .none)
      (hrows : q.rows = []) (h : (targetOrigins (q.rowScope c s) q.targets)[j]? = some [n]) :
      OutputAt c s q j n
  | row {s : Scope} {q : Select} {j : Nat} {n : Node} {items : List Node}
      (hoperation : q.operation = .none) (hrow : .list items ∈ q.rows) (h : items[j]? = some n) :
      OutputAt c s q j n
  | side {s : Scope} {q side : Select} {j : Nat} {n : Node} (hoperation : q.operation ≠ .none)
      (hside : q.left = some side ∨ q.right = some side)
      (h : OutputAt c (q.bodyScope c s) side j n) : OutputAt c s q j n

/-- The placeholders that stand at positions are bound with the hints of the positions. -/
def TakeHints (stands : Nat → Node → Prop) (hints : List Hint) (places : List Parameter) : Prop :=
  ∀ j number location, stands j (.param number location) → .ofHint number hints[j]? ∈ places

theorem TakeHints.mono {stands : Nat → Node → Prop} {hints : List Hint}
    {places places' : List Parameter} (h : TakeHints stands hints places)
    (hsub : places ⊆ places') : TakeHints stands hints places' :=
  fun j number location hstands => hsub (h j number location hstands)

/-! ## Rows and select lists -/

section Lists

variable (s : Scope) (hints : List Hint)

theorem inferExpr_takes (hint : Option Hint) (n : Node) :
    Traced (numbersOf n)
      (fun _ places => ∀ number location, n = .param number location →
        .ofHint number hint ∈ places)
      fun f => inferExpr c s hint (n.renumber f) := by
  by_cases hparam : ∃ number location, n = .param number location
  · obtain ⟨number, location, rfl⟩ := hparam
    refine (bindParam_traced number hint).mono (.of_perm (.refl _)) ?_
    rintro _ _ ⟨-, rfl⟩ _ _ ⟨⟩
    exact List.mem_singleton_self _
  · refine (inferExpr_tracks s hint n).mono (.of_perm (.refl _)) fun _ _ _ number location h => ?_
    exact absurd ⟨number, location, h⟩ hparam

theorem inferRow_takes (items : List Node) :
    Traced (numbersOf items) (fun _ => TakeHints (fun j n => items[j]? = some n) hints)
      fun f => inferRow c s hints (renumberAll f items) := by
  induction items generalizing hints with
  | nil => exact .pure fun _ _ _ h => nomatch h
  | cons n ns ih =>
    refine (inferExpr_takes s hints.head? n).split (numbersOf ns)
      (fun k => by simp [numbersOf, Numbered.walk]) fun i places hfirst => ?_
    refine (ih hints.tail).map fun is places' hrest j number location hstands => ?_
    -- the first value takes the first hint, the others take what is left
    cases j with
    | zero =>
      rw [← List.head?_eq_getElem?]
      exact List.mem_append_left _ (hfirst number location (Option.some.inj hstands))
    | succ j =>
      rw [← List.getElem?_tail]
      exact List.mem_append_right _ (hrest j number location hstands)

theorem inferRows_takes (rows : List Node) :
    Traced (numbersOf rows)
      (fun _ places => ∀ items, .list items ∈ rows →
        TakeHints (fun j n => items[j]? = some n) hints places)
      fun f => inferRows c s hints (renumberAll f rows) := by
  induction rows with
  | nil => exact .pure fun _ h => nomatch h
  | cons row rows ih =>
    cases row with
    | list items =>
      simp only [renumberAll, Node.renumber, inferRows, length_renumberAll]
      -- a row of the wrong length ends the analysis; any other comes before the rows behind it
      split
      · exact .throw_bind
      refine (inferRow_takes s hints items).split (numbersOf rows)
        (fun k => by simp [numbersOf, Numbered.walk]) fun row places hrow => ?_
      refine ih.map fun rest places' hrest items' hitems => ?_
      -- either the row itself, whose places come first, or one of those behind it
      rcases List.mem_cons.mp hitems with heq | hitems
      · cases heq
        exact hrow.mono (List.subset_append_left ..)
      · exact (hrest items' hitems).mono (List.subset_append_right ..)
    | _ => exact .throw

/-- No column that a star stands for is made from an expression, so an expression stands behind. -/
theorem getElem?_behind_star (columns : List ResultColumn) {origins : List (List Node)} {j : Nat}
    {n : Node} (h : ((columns.map fun _ => []) ++ origins)[j]? = some [n]) :
    columns.length ≤ j ∧ origins[j - columns.length]? = some [n] := by
  rcases Nat.lt_or_ge j columns.length with hstar | hbehind
  · rw [List.getElem?_append_left (by simpa using hstar), List.getElem?_map] at h
    obtain ⟨column, -, hempty⟩ := Option.map_eq_some_iff.mp h
    cases hempty
  · rw [List.getElem?_append_right (by simpa using hbehind), List.length_map] at h
    exact ⟨hbehind, h⟩

/-- From a position on, a select list takes the hints that are left. -/
theorem analyzeTargets_takes (position : Nat) (ns : List Node) :
    Traced (numbersOf ns)
      (fun _ => TakeHints (fun j n => (targetOrigins s ns)[j]? = some [n]) (hints.drop position))
      fun f => analyzeTargets c s hints position (renumberAll f ns) := by
  induction ns generalizing position with
  | nil => exact .pure fun _ _ _ h => nomatch h
  | cons n ns ih =>
    cases n with
    | target name value location =>
      cases value with
      | none => exact .throw
      | some value =>
        simp only [renumberAll, Node.renumber, renumberOption, analyzeTargets,
          Node.starQualifiers?_renumber, defaultName_renumber, targetOrigins]
        cases value.starQualifiers? with
        -- a star gives several columns, so the targets behind it are counted from further on
        | some qualifiers =>
          dsimp only
          cases s.expandStar qualifiers with
          | error e => exact .throw
          | ok columns =>
            refine ((ih (position + columns.length)).map ?_).mono (fun k => ?_) fun _ _ => id
            · -- what stands behind the star is moved by as many places as the star has columns
              intro rest places hrest j number location hstands
              obtain ⟨hbehind, hstands⟩ := getElem?_behind_star columns hstands
              have hplace := hrest _ number location hstands
              rw [List.getElem?_drop, Nat.add_assoc, Nat.add_sub_cancel' hbehind] at hplace
              rwa [List.getElem?_drop]
            · simp [numbersOf, Numbered.walk]
              omega
        | none =>
          refine (inferExpr_takes s _ value).split (numbersOf ns)
            (fun k => by simp [numbersOf, Numbered.walk]) fun i places hfirst => ?_
          refine (ih (position + 1)).map fun rest places' hrest j number location hstands => ?_
          -- the target itself takes the first of the hints that are left, the others those behind
          -- it
          cases j with
          | zero =>
            obtain rfl := List.singleton_inj.mp (Option.some.inj hstands)
            rw [List.getElem?_drop, Nat.add_zero]
            exact List.mem_append_left _ (hfirst number location rfl)
          | succ j =>
            have hplace := hrest j number location hstands
            rw [List.getElem?_drop, Nat.add_right_comm] at hplace
            rw [List.getElem?_drop]
            exact List.mem_append_right _ hplace
    | _ => exact .failed (fun _ => rfl) ⟨_, rfl⟩

end Lists

/-! ## Queries -/

mutual

/-- Whatever is around the output positions of a query, their placeholders take its hints. -/
theorem analyzeSelect_takes (s : Scope) (hints : List Hint) (q : Select) :
    Traced (numbersOf q) (fun _ => TakeHints (q.OutputAt c s) hints)
      fun f => analyzeSelect c s hints (q.renumber f) := by
  match q with
  | ⟨ctes, targets, source, joinConditions, condition, distinctOn, groupBy, having, windows,
      orderBy, limit, offset, rows, operation, all, left, right⟩ =>
    refine select_traced_of (Select.partsTrack s _) (analyzeSide_takes _ hints left)
      (analyzeSide_takes _ hints right) (inferRows_takes _ hints rows)
      (analyzeTargets_takes _ hints 0 targets) ?_ ?_ ?_
    · -- a place of a set operation is a place of one of its sides
      intro hoperation _ _ _ _ places hleft hright _ hsubLeft hsubRight j number location hstands
      cases hstands with
      | target hnone | row hnone => exact absurd hnone hoperation
      | side _ hside h =>
        rcases hside with hside | hside
        · exact hsubLeft (hleft _ hside j number location h)
        · exact hsubRight (hright _ hside j number location h)
    · -- a VALUES has no targets
      intro hoperation hsome _ _ places hrows hsub j number location hstands
      cases hstands with
      | target _ hempty => simp_all
      | row _ hrow h => exact hsub (hrows _ hrow j number location h)
      | side hset => exact absurd hoperation hset
    · -- a plain SELECT has no rows
      intro hoperation hempty _ _ places htargets hsub j number location hstands
      cases hstands with
      | target _ _ h => exact hsub (htargets j number location h)
      | row _ hrow => simp_all
      | side hset => exact absurd hoperation hset
termination_by structural q

theorem analyzeSide_takes (s : Scope) (hints : List Hint) (q : Option Select) :
    Traced (numbersOf q)
      (fun _ places => ∀ side, q = some side → TakeHints (side.OutputAt c s) hints places)
      fun f => analyzeSide c s hints (renumberSide f q) := by
  match q with
  | none => exact .throw
  | some q =>
    refine (analyzeSelect_takes s hints q).mono (.of_perm (.refl _)) ?_
    rintro _ places h _ ⟨⟩
    exact h
termination_by structural q

end

/-! ## Columns -/

/-- The hint for what is written into a column of a table. -/
def Column.hint (c : Column) : Hint := ⟨some c.name, c.type, c.notNull⟩

/-- A statement sees the columns of the table that it changes as they are. -/
theorem column?_ofTable (t : Table) (aliasName : Option String) (name : String) :
    (Relation.ofTable t aliasName false).column? name =
      (t.column? name).map (Relation.tableColumn t) := by
  have hadjust : (Relation.ofTable t aliasName false).adjust = id :=
    funext fun column => by simp [Relation.adjust, Relation.ofTable]
  rw [Relation.column?, hadjust, Option.map_id_fun, id, Relation.ofTable, List.find?_map]
  rfl

/-- The column of a table that an item of a list of columns names. -/
def Table.listed? (t : Table) : Node → Option Column
  | .target (some name) _ _ => t.column? name
  | _ => none

/-- The column that an INSERT writes the values at a position into. The positions are those of the
columns that it lists, or else of all columns of the table. -/
def Canonical.Insert.columnAt? (i : Insert) (t : Table) (j : Nat) : Option Column :=
  if i.columns.isEmpty then t.columns[j]? else i.columns[j]?.bind t.listed?

section Columns

variable (t : Table) (aliasName : Option String)

theorem columnHints_traced (columns : List Node) :
    Traced []
      (fun hints _ => hints.length = columns.length ∧
        ∀ j : Nat, hints[j]? = (columns[j]?.bind t.listed?).map Column.hint)
      fun f => columnHints (.ofTable t aliasName false) (renumberAll f columns) := by
  induction columns with
  | nil => exact .pure ⟨rfl, fun _ => rfl⟩
  | cons n ns ih =>
    cases n with
    | target name value location =>
      cases name with
      | none => exact .throw
      | some name =>
        simp only [renumberAll, Node.renumber, columnHints, column?_ofTable]
        -- a listed column is one of the table, or else the analysis fails
        cases hfound : t.column? name with
        | none => exact .throw
        | some column =>
          refine ih.map fun hints _ h => ?_
          obtain ⟨hlength, hrest⟩ := h
          refine ⟨congrArg (· + 1) hlength, fun j => ?_⟩
          cases j with
          | zero => exact (congrArg (Option.map Column.hint) hfound).symm
          | succ j => exact hrest j
    | _ => exact .throw

/-- The hints of an INSERT are those of the columns that it writes into, position by position, and
there is one for every column that it lists. -/
theorem insertHints_traced (i : Canonical.Insert) :
    Traced []
      (fun hints _ => hints.length = i.columnCount t ∧
        (∀ j < i.columns.length, (i.columnAt? t j).isSome) ∧
        ∀ j : Nat, hints[j]? = (i.columnAt? t j).map Column.hint)
      fun f => insertHints (.ofTable t aliasName false) (renumberAll f i.columns) := by
  simp only [insertHints, isEmpty_renumberAll, Insert.columnAt?, Insert.columnCount]
  by_cases hempty : i.columns.isEmpty
  · -- none is listed, so all columns of the table take part
    simp only [if_pos hempty]
    refine .pure ⟨?_, fun j hj => ?_, fun j => ?_⟩
    · rw [Relation.ofTable, List.length_map, List.length_map]
    · rw [List.isEmpty_iff.mp hempty] at hj
      exact absurd hj (Nat.not_lt_zero j)
    · rw [Relation.ofTable, List.map_map, List.getElem?_map]
      rfl
  · simp only [if_neg hempty]
    refine (columnHints_traced t aliasName i.columns).mono (.of_perm (.refl _)) ?_
    rintro hints _ ⟨hlength, hhints⟩
    refine ⟨hlength, fun j hj => ?_, hhints⟩
    have hhint : hints[j]?.isSome := by simpa [hlength] using hj
    rwa [hhints j, Option.isSome_map] at hhint

end Columns

/-! ## Parameters -/

/-- The placeholders at the positions of an INSERT are taken for values of the columns there, and
every column that it lists exists. -/
def WritesInto (c : Catalog) (i : Canonical.Insert) (places : List Parameter) : Prop :=
  ∃ t, c.lookupTable i.table.tableName = .ok t ∧
    (∀ j < i.columns.length, (i.columnAt? t j).isSome) ∧
      ∀ j column number location, i.columnAt? t j = some column →
        i.source.OutputAt c [] j (.param number location) →
          ⟨number, some column.name, column.type, column.notNull⟩ ∈ places

theorem analyzeInsert_writes (i : Canonical.Insert) :
    Traced (numbersOf i) (fun _ => WritesInto c i)
      fun f => analyzeInsert c (i.renumber f) := by
  refine insert_traced_of (insertHints_traced · i.table.aliasName i)
    (analyzeSelect_takes [] · i.source) ?_
  intro t hints _ placesSource _ _ places ht hlist htakes _ hsub _
  obtain ⟨-, hlisted, hhints⟩ := hlist
  refine ⟨t, ht, hlisted, fun j column number location hcolumn hstands => hsub ?_⟩
  have htaken := htakes j number location hstands
  rwa [hhints, hcolumn] at htaken

/-- **An INSERT types placeholders by position.** If an INSERT has an analysis, every column that it
lists exists. A placeholder that stands in the statement once, and at an output position of the
source, has the name, the type and the nullability of the column at that position. -/
theorem params_analyze_insert {i : Canonical.Insert} {a : Analysis}
    (hrun : analyze c (.insert i) = .ok a) :
    ∃ t, c.lookupTable i.table.tableName = .ok t ∧
      (∀ j < i.columns.length, (i.columnAt? t j).isSome) ∧
      ∀ j column number location, i.columnAt? t j = some column →
        i.source.OutputAt c [] j (.param number location) → 0 < number →
          (Node.insert i).numbers.count number = 1 →
            a.params[number - 1]? =
              some ⟨number, some column.name, column.type, column.notNull⟩ := by
  have htraced : Traced (Node.insert i).numbers (fun _ => WritesInto c i)
      fun f => analyzeStatement c ((Node.insert i).renumber f) :=
    (analyzeInsert_writes i).map fun _ _ => id
  obtain ⟨_, places, ⟨t, ht, hlisted, hplaces⟩, hwithin, rfl⟩ := htraced.of_analyze hrun
  refine ⟨t, ht, hlisted, fun j column number location hcolumn hstands hpos hsingle => ?_⟩
  exact getElem?_params_of_single hwithin (hplaces j column number location hcolumn hstands) hpos
    hsingle

/-- The catalog of `CREATE TABLE t (a int, b text NOT NULL)` and `CREATE TABLE u (x text)`. -/
def twoTables : Catalog :=
  ⟨"public", Directory.empty.insert "public" ⟨"public",
    (Directory.empty.insert "t"
      ⟨.qualified "public" "t", [⟨"a", .named "int", false⟩, ⟨"b", .named "text", true⟩]⟩).insert
    "u" ⟨.qualified "public" "u", [⟨"x", .named "text", false⟩]⟩⟩⟩

/-- The statement `INSERT INTO t (b, a) SELECT *, $1 FROM u UNION ALL VALUES ($2, 0)`. -/
def starThenParam : Canonical.Insert :=
  { table := ⟨none, "t", none, false⟩
    columns := [.target (some "b") none 15, .target (some "a") none 18]
    source := { Select.empty with
      operation := .union
      all := true
      left := some { Select.empty with
        targets := [.target none (some (.column [.star])) 28, .target none (some (.param 1 31)) 31]
        source := [.table ⟨none, "u", none, false⟩] }
      right := some { Select.empty with
        rows := [.list [.param 2 61, .literal (.integer "0")]] } }
    conflictTargets := []
    conflictCondition := none
    returning := [] }

theorem params_analyze_insert_starThenParam :
    ∃ a, analyze twoTables (.insert starThenParam) = .ok a ∧
      a.params[0]? = some ⟨1, some "a", .named "int", false⟩ ∧
      a.params[1]? = some ⟨2, some "b", .named "text", true⟩ := by
  have hrun : analyze twoTables (.insert starThenParam) =
      .ok ⟨[⟨1, some "a", .named "int", false⟩, ⟨2, some "b", .named "text", true⟩], [],
        some (.qualified "public" "t")⟩ := by
    decide +kernel
  obtain ⟨t, ht, -, hparams⟩ := params_analyze_insert hrun
  have htable : twoTables.lookupTable starThenParam.table.tableName =
      .ok ⟨.qualified "public" "t", [⟨"a", .named "int", false⟩, ⟨"b", .named "text", true⟩]⟩ := by
    decide +kernel
  rw [htable] at ht
  cases ht
  -- the placeholder among the targets is the second value of a row, the one in the VALUES the first
  have hfirst : starThenParam.source.OutputAt twoTables [] 1 (.param 1 31) :=
    .side (by decide) (.inl rfl) (.target rfl rfl rfl)
  have hsecond : starThenParam.source.OutputAt twoTables [] 0 (.param 2 61) :=
    .side (by decide) (.inr rfl) (.row rfl List.mem_cons_self rfl)
  exact ⟨_, hrun, hparams 1 _ 1 31 rfl hfirst (by decide) (by decide),
    hparams 0 _ 2 61 rfl hsecond (by decide) (by decide)⟩

end TypedSql
