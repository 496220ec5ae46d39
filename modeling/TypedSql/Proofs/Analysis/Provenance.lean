import Mathlib.Data.List.Basic
import TypedSql.Proofs.Analysis.Run
import TypedSql.Proofs.Catalog.Invariant

/-!
# Provenance

A result column that says which column of which table it comes from is right: the catalog has that
column, with the type and the promise about nulls that the result column reports.

- **Origins**: what is said of a column, and what keeps it true
- **Scopes**: every column in a scope tells the truth, so every name that is resolved does
- **Queries**: by induction on the tree, so does every column of a result
-/

namespace TypedSql

open Canonical (Node Select)

/-! ## Origins -/

/-- A table of the catalog declares a column, which is of a type unless it is opaque, and which is
not null if something that comes from it is not. -/
def Catalog.Declares (c : Catalog) (table : TableName) (name : String) (type : SqlType)
    (notNull : Bool) : Prop :=
  ∃ t column, c.lookupTable table = .ok t ∧ t.name = table ∧ t.column? name = some column ∧
    (notNull = true → column.notNull = true) ∧ (column.type = type ∨ column.type.isOpaque = true)

/-- A result column names a table if and only if it names a column of it, and then the catalog
declares that column. -/
structure ResultColumn.Sourced (c : Catalog) (column : ResultColumn) : Prop where
  table_isSome : column.table.isSome = column.originalName.isSome
  declared : ∀ t n, column.table = some t → column.originalName = some n →
    c.Declares t n column.type column.notNull

/-- An expression that is a column is one that the catalog declares. -/
def Inferred.Sourced (c : Catalog) (i : Inferred) : Prop :=
  ∀ t n, i.source = some (t, n) → c.Declares t n i.type i.notNull

section Origins

variable {c : Catalog} {t : TableName} {n : String} {type : SqlType} {b b' : Bool}

theorem Catalog.Declares.weaken (h : c.Declares t n type b) (hb : b' = true → b = true) :
    c.Declares t n type b' := by
  obtain ⟨found, column, hfound, hname, hcolumn, hnotNull, htype⟩ := h
  exact ⟨found, column, hfound, hname, hcolumn, fun h => hnotNull (hb h), htype⟩

/-- What comes from a column of unknown type may be given any type. -/
theorem Catalog.Declares.retype (h : c.Declares t n type b) (htype : type.isOpaque = true)
    (type' : SqlType) : c.Declares t n type' b := by
  obtain ⟨found, column, hfound, hname, hcolumn, hnotNull, hdeclared⟩ := h
  refine ⟨found, column, hfound, hname, hcolumn, hnotNull, .inr ?_⟩
  -- the declared type is the opaque one itself, or was opaque all along
  rcases hdeclared with heq | hopaque
  · rw [heq, htype]
  · exact hopaque

namespace Inferred

/-- An expression that is not a column says nothing about its origin. -/
theorem sourced_of_none {i : Inferred} (h : i.source = none) : i.Sourced c := by
  intro t n hsource
  rw [h] at hsource
  cases hsource

theorem sourced_computed (type : SqlType) (notNull : Bool) : (computed type notNull).Sourced c :=
  sourced_of_none rfl

theorem sourced_ofLiteral (l : Canonical.Literal) : (ofLiteral l).Sourced c := by
  cases l <;> exact sourced_of_none rfl

theorem sourced_ofHint (h : Option Hint) : (ofHint h).Sourced c := by
  cases h <;> exact sourced_of_none rfl

theorem sourced_ofOperator (name : String) (left : Option Inferred) (right : Inferred) :
    (ofOperator name left right).Sourced c := by
  unfold ofOperator
  dsimp only
  split
  · exact sourced_of_none rfl
  · exact sourced_of_none rfl
  · exact sourced_of_none rfl
  · split <;> exact sourced_of_none rfl

theorem sourced_ofCall (name : String) (args : List Inferred) (star : Bool) :
    (ofCall name args star).Sourced c := by
  unfold ofCall
  dsimp only
  repeat' split
  all_goals exact sourced_of_none rfl

theorem sourced_ofList (items : List Inferred) : (ofList items).Sourced c := by
  unfold ofList
  split <;> exact sourced_of_none rfl

/-- A reference to a column has the origin of the column. -/
theorem sourced_ofColumn {column : ResultColumn} (h : column.Sourced c) :
    (ofColumn column).Sourced c := by
  intro t n hsource
  simp only [ofColumn] at hsource
  split at hsource
  · rename_i htable hname
    cases hsource
    exact h.declared _ _ htable hname
  · cases hsource

end Inferred

namespace ResultColumn

variable {column left right : ResultColumn}

theorem sourced_of_none (htable : column.table = none) (hname : column.originalName = none) :
    column.Sourced c := by
  refine ⟨by rw [htable, hname]; rfl, fun t n hsome _ => ?_⟩
  rw [htable] at hsome
  cases hsome

/-- An expression under a name has the origin of the expression. -/
theorem sourced_ofInferred (name : String) {i : Inferred} (h : i.Sourced c) :
    (ofInferred name i).Sourced c := by
  rcases hsource : i.source with _ | ⟨t, n⟩
  · exact sourced_of_none (by simp [ofInferred, hsource]) (by simp [ofInferred, hsource])
  · refine ⟨by simp [ofInferred, hsource], fun t' n' ht hn => ?_⟩
    simp only [ofInferred, hsource, Option.map_some, Option.some.injEq] at ht hn
    exact ht ▸ hn ▸ h t n hsource

/-- A column that may be null more often still comes from where it came from. -/
theorem Sourced.weaken (h : column.Sourced c) {notNull : Bool}
    (hb : notNull = true → column.notNull = true) :
    { column with notNull := notNull }.Sourced c :=
  ⟨h.table_isSome, fun t n ht hn => (h.declared t n ht hn).weaken hb⟩

/-- The two sides of a set operation make a column that comes from where the left one does. It gets
the type of the right one only where nothing is known about the left one. -/
theorem Sourced.combine (h : left.Sourced c) (right : ResultColumn) :
    (left.combine right).Sourced c := by
  refine ⟨h.table_isSome, fun t n ht hn => ?_⟩
  have hdeclared : c.Declares t n left.type (left.notNull && right.notNull) :=
    (h.declared t n ht hn).weaken fun hb => (Bool.and_eq_true_iff.mp hb).1
  show c.Declares t n (if left.type.isOpaque then right.type else left.type) _
  -- the type changes only if it was opaque, which the declaration permits
  split
  · rename_i hopaque
    exact hdeclared.retype hopaque right.type
  · exact hdeclared

end ResultColumn

/-- All columns of a list tell the truth about their origin. -/
def AllSourced (c : Catalog) (columns : List ResultColumn) : Prop :=
  ∀ column ∈ columns, column.Sourced c

theorem AllSourced.nil : AllSourced c [] := List.forall_mem_nil _

theorem AllSourced.cons {column : ResultColumn} {columns : List ResultColumn}
    (h : column.Sourced c) (hs : AllSourced c columns) : AllSourced c (column :: columns) :=
  List.forall_mem_cons.mpr ⟨h, hs⟩

theorem AllSourced.append {columns columns' : List ResultColumn} (h : AllSourced c columns)
    (h' : AllSourced c columns') : AllSourced c (columns ++ columns') :=
  List.forall_mem_append.mpr ⟨h, h'⟩

theorem AllSourced.zipWith_combine {left : List ResultColumn} (h : AllSourced c left)
    (right : List ResultColumn) : AllSourced c (List.zipWith .combine left right) := by
  induction left generalizing right with
  | nil => exact .nil
  | cons l left ih =>
    cases right with
    | nil => exact .nil
    | cons r right =>
      obtain ⟨hl, hleft⟩ := List.forall_mem_cons.mp h
      exact .cons (hl.combine r) (ih hleft right)

theorem rowColumns_sourced (position : Nat) (is : List Inferred) :
    AllSourced c (rowColumns position is) := by
  induction is generalizing position with
  | nil => exact .nil
  | cons i is ih => exact .cons (ResultColumn.sourced_of_none rfl rfl) (ih (position + 1))

theorem AllSourced.weakenColumns {columns : List ResultColumn} (h : AllSourced c columns)
    (is : List Inferred) : AllSourced c (weakenColumns columns is) := by
  induction columns generalizing is with
  | nil => cases is <;> exact .nil
  | cons column columns ih =>
    cases is with
    | nil => exact h
    | cons i is =>
      obtain ⟨hcolumn, hcolumns⟩ := List.forall_mem_cons.mp h
      exact .cons (hcolumn.weaken fun hb => (Bool.and_eq_true_iff.mp hb).1) (ih hcolumns is)

theorem valuesColumns_sourced (rows : List (List Inferred)) :
    AllSourced c (valuesColumns rows) := by
  cases rows with
  | nil => exact .nil
  | cons row rows =>
    show AllSourced c (rows.foldl TypedSql.weakenColumns (rowColumns 1 row))
    have hfirst := rowColumns_sourced (c := c) 1 row
    -- every further row only weakens the columns of the first one
    generalize rowColumns 1 row = columns at hfirst ⊢
    induction rows generalizing columns with
    | nil => exact hfirst
    | cons row rows ih => exact ih _ (hfirst.weakenColumns row)

end Origins

/-! ## Scopes -/

/-- What can be referred to at a level of a scope tells the truth about its origin. -/
structure ScopeLevel.Sourced (c : Catalog) (l : ScopeLevel) : Prop where
  relations : ∀ r ∈ l.relations, AllSourced c r.columns
  ctes : ∀ r ∈ l.ctes, AllSourced c r.columns
  outputs : AllSourced c l.outputs

/-- What a query can refer to tells the truth about its origin. -/
def Scope.Sourced (c : Catalog) (s : Scope) : Prop := ∀ l ∈ s, l.Sourced c

section Scopes

variable {c : Catalog} {r : Relation} {l : ScopeLevel} {s : Scope} {name : String}
  {qualifiers : List String} {column : ResultColumn}

namespace Relation

/-- The columns of a table say that they come from that table. -/
theorem sourced_ofTable (hc : c.WellFormed) {t : Table} {tableName : TableName}
    (hfound : c.lookupTable tableName = .ok t) (aliasName : Option String) (nullable : Bool) :
    AllSourced c (ofTable t aliasName nullable).columns := by
  obtain ⟨hname, hnodup⟩ := hc.lookupTable hfound
  -- the table names itself in full, and is found under that name as well
  have hlookup : c.lookupTable t.name = .ok t := by
    rw [hname, Catalog.lookupTable_qualify, hfound]
  intro column hmem
  obtain ⟨d, hd, rfl⟩ := List.mem_map.mp hmem
  refine ⟨rfl, fun t' n ht hn => ?_⟩
  cases ht
  cases hn
  exact ⟨t, d, hlookup, rfl, Table.column?_of_mem hnodup hd, id, .inl rfl⟩

theorem sourced_adjust (h : column.Sourced c) : (r.adjust column).Sourced c :=
  h.weaken fun hb => (Bool.and_eq_true_iff.mp hb).1

theorem sourced_column? (h : AllSourced c r.columns) (hfound : r.column? name = some column) :
    column.Sourced c := by
  obtain ⟨found, hfind, rfl⟩ := Option.map_eq_some_iff.mp hfound
  exact sourced_adjust (h found (List.mem_of_find?_eq_some hfind))

theorem sourced_allColumns (h : AllSourced c r.columns) : AllSourced c r.allColumns := by
  intro column hmem
  obtain ⟨found, hfound, rfl⟩ := List.mem_map.mp hmem
  exact sourced_adjust (h found hfound)

end Relation

namespace ScopeLevel

theorem sourced_ofRelations {rs : List Relation} (h : ∀ r ∈ rs, AllSourced c r.columns) :
    (ofRelations rs).Sourced c := ⟨h, List.forall_mem_nil _, .nil⟩

theorem sourced_ofCtes {rs : List Relation} (h : ∀ r ∈ rs, AllSourced c r.columns) :
    Sourced c ⟨[], rs, []⟩ := ⟨List.forall_mem_nil _, h, .nil⟩

theorem Sourced.of_filter (h : l.Sourced c) {p : Relation → Bool}
    (hfilter : l.relations.filter p = [r]) : AllSourced c r.columns :=
  h.relations r (List.mem_filter.mp (hfilter ▸ List.mem_singleton_self r)).1

theorem Sourced.resolve (h : l.Sourced c) (hrun : l.resolve qualifiers name = .ok (some column)) :
    column.Sourced c := by
  rw [ScopeLevel.resolve] at hrun
  split at hrun
  · rw [resolveUnqualified] at hrun
    split at hrun
    · -- the name of a column of the result
      exact h.outputs column (List.mem_of_find?_eq_some (Except.ok.inj hrun))
    · -- a column of the single relation that has one by that name
      rename_i hfilter
      exact Relation.sourced_column? (h.of_filter hfilter) (Except.ok.inj hrun)
    · cases hrun
  · rw [resolveQualified] at hrun
    split at hrun
    · cases hrun
    · -- a column of the relation that the qualifiers mean
      rename_i hfilter
      split at hrun
      · rename_i hfound
        cases hrun
        exact Relation.sourced_column? (h.of_filter hfilter) hfound
      · cases hrun
    · cases hrun

end ScopeLevel

namespace Scope

/-- Every name means a column that tells the truth about its origin, whatever the level at which it
is found. -/
theorem Sourced.resolveName (h : s.Sourced c)
    (hrun : Scope.resolveName qualifiers name s = .ok column) : column.Sourced c := by
  induction s with
  | nil =>
    rw [Scope.resolveName] at hrun
    split at hrun <;> cases hrun
  | cons l ls ih =>
    obtain ⟨hl, hls⟩ := List.forall_mem_cons.mp h
    rw [Scope.resolveName] at hrun
    split at hrun
    · -- an error at this level
      cases hrun
    · -- an answer at this level
      rename_i hfound
      cases hrun
      exact hl.resolve hfound
    · -- nothing by that name at this level
      exact ih hls hrun

theorem Sourced.resolve (h : s.Sourced c) {fields : List Node}
    (hrun : s.resolve fields = .ok column) : column.Sourced c := by
  rw [Scope.resolve] at hrun
  split at hrun
  · exact h.resolveName hrun
  · cases hrun

theorem Sourced.relations (h : s.Sourced c) : ∀ r ∈ s.relations, AllSourced c r.columns := by
  cases s with
  | nil => exact fun _ hr => nomatch hr
  | cons l ls => exact (List.forall_mem_cons.mp h).1.relations

theorem Sourced.expandStar (h : s.Sourced c) {columns : List ResultColumn}
    (hrun : s.expandStar qualifiers = .ok columns) : AllSourced c columns := by
  rw [Scope.expandStar] at hrun
  split at hrun
  · cases hrun
    intro column hmem
    obtain ⟨r, hr, hcolumn⟩ := List.mem_flatMap.mp hmem
    exact Relation.sourced_allColumns (h.relations r hr) column hcolumn
  · split at hrun
    · rename_i hfind
      cases hrun
      exact Relation.sourced_allColumns (h.relations _ (List.mem_of_find?_eq_some hfind))
    · cases hrun

theorem Sourced.findCte? (h : s.Sourced c) (hfound : s.findCte? name = some r) :
    AllSourced c r.columns := by
  obtain ⟨l, hl, hfind⟩ := List.exists_of_findSome?_eq_some hfound
  exact (h l hl).ctes r (List.mem_reverse.mp (List.mem_of_find?_eq_some hfind))

theorem Sourced.cons (h : s.Sourced c) (hl : l.Sourced c) : Scope.Sourced c (l :: s) :=
  List.forall_mem_cons.mpr ⟨hl, h⟩

end Scope

end Scopes

/-! ## Queries -/

/-- Every answer of a step has a property; nothing is said of its errors. -/
abbrev Answers {α : Type} (Q : α → Prop) (m : AnalysisM α) : Prop := Meets (fun _ => True) Q m

section Constructs

variable {c : Catalog} {s : Scope} {hint : Option Hint} {hints : List Hint}

/-- An expression has an origin only if it is a column and nothing else. -/
theorem inferExpr_sourced (hs : s.Sourced c) (n : Node) :
    Answers (·.Sourced c) (inferExpr c s hint n) := by
  match n with
  | .column fields =>
    rw [inferExpr]
    split
    · -- a star is computed from nothing
      exact .pure (Inferred.sourced_computed _ _)
    · match hrun : s.resolve fields with
      | .ok column => exact .pure (Inferred.sourced_ofColumn (hs.resolve hrun))
      | .error e => exact .throw trivial
  | .param number _ => exact .after fun _ => .pure (Inferred.sourced_ofHint hint)
  | .literal value => exact .pure (Inferred.sourced_ofLiteral value)
  | .logic _ _ | .cast _ _ => exact .after fun _ => .pure (Inferred.sourced_computed _ _)
  | .operator name left none => cases left <;> exact .throw trivial
  | .operator name none (some right) =>
    exact .after fun _ => .pure (Inferred.sourced_ofOperator _ _ _)
  | .operator name (some left) (some right) =>
    rw [inferExpr]
    -- the order in which the operands are read does not matter to the result
    split
    · exact .after fun _ => .after fun _ => .pure (Inferred.sourced_ofOperator _ _ _)
    · exact .after fun _ => .after fun _ => .pure (Inferred.sourced_ofOperator _ _ _)
  | .nullTest _ _ | .unsupported _ _ => exact .after fun _ => .pure (Inferred.sourced_computed _ _)
  | .call ⟨name, args, orderBy, filter, window, star, distinct⟩ =>
    exact .after fun _ => .after fun _ => .after fun _ => .after fun _ =>
      .pure (Inferred.sourced_ofCall _ _ _)
  | .case operand branches default =>
    exact .after fun _ => .after fun _ => .after fun _ => .pure (Inferred.sourced_computed _ _)
  | .sublink kind test query negated =>
    rw [inferExpr]
    refine .after fun columns => ?_
    cases kind <;> exact .after fun _ => .pure (Inferred.sourced_computed _ _)
  | .select query =>
    refine .after fun columns => .pure ?_
    cases columns <;> exact Inferred.sourced_computed _ _
  | .list items => exact .after fun _ => .pure (Inferred.sourced_ofList _)
  | .schemaChange _ | .insert _ | .update _ | .delete _ | .target .. | .table _ | .derived ..
  | .name _ | .star => exact .throw trivial

/-- A column of a select list comes from where its expression comes from; a star stands for columns
of the scope. -/
theorem analyzeTargets_sourced (hs : s.Sourced c) (position : Nat) (ns : List Node) :
    Answers (AllSourced c) (analyzeTargets c s hints position ns) := by
  induction ns generalizing position with
  | nil => exact .pure .nil
  | cons n ns ih =>
    match n with
    | .target name none _ => exact .throw trivial
    | .target name (some value) _ =>
      rw [analyzeTargets]
      split
      · -- a star stands for columns of the scope as they are
        split
        · rename_i hexpand
          exact .bind (ih _) fun rest hrest => .pure ((hs.expandStar hexpand).append hrest)
        · exact .throw trivial
      · exact .bind (inferExpr_sourced hs value) fun i hi => .bind (ih _) fun rest hrest =>
          .pure (.cons (ResultColumn.sourced_ofInferred _ hi) hrest)
    | .schemaChange _ | .insert _ | .select _ | .update _ | .delete _ | .logic .. | .operator ..
    | .column _ | .param .. | .sublink .. | .call _ | .cast .. | .nullTest .. | .case ..
    | .literal _ | .table _ | .derived .. | .list _ | .unsupported .. | .name _ | .star =>
      exact .throw trivial

theorem combineColumns_sourced {left : List ResultColumn} (h : AllSourced c left)
    (right : List ResultColumn) : Answers (AllSourced c) (combineColumns left right) := by
  unfold combineColumns
  split
  · exact .pure (h.zipWith_combine right)
  · exact .throw trivial

/-- A name in a FROM clause is a query of a WITH clause, or else a table of the catalog. -/
theorem analyzeTable_sourced (hc : c.WellFormed) (hs : s.Sourced c) (t : Canonical.TableRef) :
    Answers (fun r => ∀ r' ∈ r, AllSourced c r'.columns) (analyzeSource c s (.table t)) := by
  rw [analyzeSource]
  split
  · -- a WITH query, whose columns were found to be sourced when it was defined
    rename_i cte hfound
    refine .pure fun r hr => ?_
    cases hr
    show AllSourced c cte.columns
    split at hfound
    · exact hs.findCte? hfound
    · cases hfound
  · -- a table of the catalog, whose columns are sourced by what the catalog says of it
    match hfound : c.lookupTable t.tableName with
    | .ok found =>
      refine .pure fun r hr => ?_
      cases hr
      exact Relation.sourced_ofTable hc hfound _ _
    | .error e => exact .throw trivial

end Constructs

variable {c : Catalog}

mutual

theorem analyzeSelect_sourced (hc : c.WellFormed) {s : Scope} (hs : s.Sourced c) (hints : List Hint)
    (q : Select) : Answers (AllSourced c) (analyzeSelect c s hints q) := by
  match q with
  | ⟨ctes, targets, source, joinConditions, condition, distinctOn, groupBy, having, windows,
      orderBy, limit, offset, rows, operation, all, left, right⟩ =>
    rw [analyzeSelect]
    apply Meets.bind (analyzeCtes_sourced hc hs (List.forall_mem_nil _) ctes)
    intro defined hdefined
    have hs := hs.cons (ScopeLevel.sourced_ofCtes hdefined)
    split
    · -- a set operation: its columns are those of the left side
      split
      · exact .bind (Q := fun _ => False) (.throw trivial) fun _ h => h.elim
      · apply Meets.bind (analyzeSide_sourced hc hs hints left)
        intro l hl
        apply Meets.after
        intro r
        apply Meets.bind (combineColumns_sourced hl r)
        intro columns hcolumns
        exact .after fun _ => .after fun _ => .after fun _ => .pure hcolumns
    split
    · exact .after fun _ => .after fun _ => .after fun _ => .pure (valuesColumns_sourced _)
    · -- a plain query: the clauses around the select list do not change its columns
      apply Meets.bind (analyzeSources_sourced hc hs source)
      intro relations hrelations
      have hinner := hs.cons (ScopeLevel.sourced_ofRelations hrelations)
      refine .after fun _ => .after fun _ => ?_
      apply Meets.bind (analyzeTargets_sourced hinner 0 targets)
      intro columns hcolumns
      exact .after fun _ => .after fun _ => .after fun _ => .after fun _ => .after fun _ =>
        .after fun _ => .after fun _ => .pure hcolumns
termination_by structural q

theorem analyzeSide_sourced (hc : c.WellFormed) {s : Scope} (hs : s.Sourced c) (hints : List Hint)
    (q : Option Select) : Answers (AllSourced c) (analyzeSide c s hints q) := by
  match q with
  | none => exact .throw trivial
  | some q => exact analyzeSelect_sourced hc hs hints q
termination_by structural q

theorem analyzeCtes_sourced (hc : c.WellFormed) {s : Scope} (hs : s.Sourced c)
    {defined : List Relation} (hdefined : ∀ r ∈ defined, AllSourced c r.columns)
    (qs : List Canonical.NamedQuery) :
    Answers (fun rs => ∀ r ∈ rs, AllSourced c r.columns) (analyzeCtes c s defined qs) := by
  match qs with
  | [] => exact .pure hdefined
  | ⟨name, n⟩ :: qs =>
    match n with
    | .select query =>
      have hinner := hs.cons (ScopeLevel.sourced_ofCtes hdefined)
      apply Meets.bind (analyzeSelect_sourced hc hinner [] query)
      intro columns hcolumns
      refine analyzeCtes_sourced hc hs (List.forall_mem_append.mpr ⟨hdefined, ?_⟩) qs
      exact List.forall_mem_singleton.mpr hcolumns
    | .schemaChange _ | .insert _ | .update _ | .delete _ | .logic .. | .operator .. | .column _
    | .param .. | .sublink .. | .call _ | .cast .. | .nullTest .. | .case .. | .literal _
    | .target .. | .table _ | .derived .. | .list _ | .unsupported .. | .name _ | .star =>
      exact .throw trivial
termination_by structural qs

theorem analyzeSource_sourced (hc : c.WellFormed) {s : Scope} (hs : s.Sourced c) (n : Node) :
    Answers (fun r => ∀ r' ∈ r, AllSourced c r'.columns) (analyzeSource c s n) := by
  match n with
  | .table t => exact analyzeTable_sourced hc hs t
  | .derived query aliasName nullable =>
    match query with
    | .select query =>
      refine .bind (analyzeSelect_sourced hc hs [] query) fun columns hcolumns =>
        .pure fun r hr => ?_
      cases hr
      exact hcolumns
    | .schemaChange _ | .insert _ | .update _ | .delete _ | .logic .. | .operator .. | .column _
    | .param .. | .sublink .. | .call _ | .cast .. | .nullTest .. | .case .. | .literal _
    | .target .. | .table _ | .derived .. | .list _ | .unsupported .. | .name _ | .star =>
      exact .throw trivial
  | .unsupported _ params => exact .after fun _ => .pure fun _ hr => nomatch hr
  | .schemaChange _ | .insert _ | .select _ | .update _ | .delete _ | .logic .. | .operator ..
  | .column _ | .param .. | .sublink .. | .call _ | .cast .. | .nullTest .. | .case .. | .literal _
  | .target .. | .list _ | .name _ | .star => exact .throw trivial
termination_by structural n

theorem analyzeSources_sourced (hc : c.WellFormed) {s : Scope} (hs : s.Sourced c) (ns : List Node) :
    Answers (fun rs => ∀ r ∈ rs, AllSourced c r.columns) (analyzeSources c s ns) := by
  match ns with
  | [] => exact .pure (List.forall_mem_nil _)
  | n :: ns =>
    exact .bind (analyzeSource_sourced hc hs n) fun r hr =>
      .bind (analyzeSources_sourced hc hs ns) fun rs hrs =>
        .pure (List.forall_mem_append.mpr ⟨fun r' hr' => hr r' (Option.mem_toList.mp hr'), hrs⟩)
termination_by structural ns

end

/-! ## Statements -/

/-- The target of a statement is a table of the catalog. -/
theorem targetRelation_sourced (hc : c.WellFormed) (t : Canonical.TableRef) :
    Answers (fun x => AllSourced c x.2.columns) (targetRelation c t) := by
  unfold targetRelation
  match hfound : c.lookupTable t.tableName with
  | .ok found => exact .pure (Relation.sourced_ofTable hc hfound _ _)
  | .error e => exact .throw trivial

/-- The relations that a RETURNING can refer to: the target and those of the FROM clause. -/
theorem sourced_returning {target : Relation} {others : List Relation}
    (htarget : AllSourced c target.columns) (hothers : ∀ r ∈ others, AllSourced c r.columns) :
    Scope.Sourced c [.ofRelations (target :: others)] :=
  List.forall_mem_singleton.mpr
    (ScopeLevel.sourced_ofRelations (List.forall_mem_cons.mpr ⟨htarget, hothers⟩))

theorem analyzeStatement_sourced (hc : c.WellFormed) (n : Node) :
    Answers (fun x => AllSourced c x.1) (analyzeStatement c n) := by
  have hroot : Scope.Sourced c [] := List.forall_mem_nil _
  cases n with
  | select q =>
    exact .bind (analyzeSelect_sourced hc hroot [] q) fun columns hcolumns => .pure hcolumns
  | insert i =>
    refine .bind (Q := fun x => AllSourced c x.2) ?_ fun x hx => .pure hx
    apply Meets.bind (targetRelation_sourced hc i.table)
    rintro ⟨table, target⟩ htarget
    -- what is written does not matter to what is returned
    refine .after fun hints => .after fun _ => .after fun _ => ?_
    have hscope := sourced_returning htarget (List.forall_mem_nil _)
    exact .bind (analyzeTargets_sourced hscope 0 i.returning) fun columns hcolumns => .pure hcolumns
  | update u =>
    refine .bind (Q := AllSourced c) ?_ fun columns hcolumns => .pure hcolumns
    apply Meets.bind (targetRelation_sourced hc u.table)
    rintro ⟨_, target⟩ htarget
    apply Meets.bind (analyzeSources_sourced hc hroot u.source)
    intro others hothers
    have hscope := sourced_returning htarget hothers
    exact .after fun _ => .after fun _ => .after fun _ =>
      analyzeTargets_sourced hscope 0 u.returning
  | delete d =>
    refine .bind (Q := AllSourced c) ?_ fun columns hcolumns => .pure hcolumns
    apply Meets.bind (targetRelation_sourced hc d.table)
    rintro ⟨_, target⟩ htarget
    apply Meets.bind (analyzeSources_sourced hc hroot d.source)
    intro others hothers
    have hscope := sourced_returning htarget hothers
    exact .after fun _ => .after fun _ => .after fun _ => .after fun _ =>
      analyzeTargets_sourced hscope 0 d.returning
  | _ => exact .throw trivial

/-- Against a catalog that a replay leads to, every result column of a statement names a table if
and only if it names a column of it; the catalog then has that column, with the type that is
reported unless it is opaque, and it is not null if the result column is not. -/
theorem analyze_columns_sourced (hc : c.Reachable) {n : Node} {a : Analysis}
    (hrun : analyze c n = .ok a) : ∀ column ∈ a.columns, column.Sourced c := by
  obtain ⟨⟨⟨columns, table⟩, bs⟩, hstatement, hdone⟩ := exists_of_bind_eq_ok hrun
  cases hdone
  have h := analyzeStatement_sourced hc.wellFormed n []
  rw [hstatement] at h
  exact h

/-- A table that has moved to another schema: `CREATE SCHEMA s`, `CREATE TABLE t (a int NOT NULL)`
and `ALTER TABLE t RENAME TO s.u`. -/
def movingTable : List Node :=
  [.schemaChange (.createSchema "s" false),
    .schemaChange (.createTable (.unqualified "t") false [⟨"a", .named "int", true⟩]),
    .schemaChange (.alterTable (.unqualified "t") false [.renameTable (.qualified "s" "u")])]

/-- The query `WITH q AS (SELECT a AS x FROM s.u) SELECT * FROM q UNION SELECT NULL`. -/
def unionOfCte : Node :=
  .select { Select.empty with
    ctes := [⟨"q", .select { Select.empty with
      targets := [.target (some "x") (some (.column [.name "a"])) 0]
      source := [.table ⟨some "s", "u", none, false⟩] }⟩]
    operation := .union
    left := some { Select.empty with
      targets := [.target none (some (.column [.star])) 0]
      source := [.table ⟨none, "q", none, false⟩] }
    right := some { Select.empty with targets := [.target none (some (.literal .null)) 0] } }

theorem analyze_columns_sourced_unionOfCte : ∃ c a, c.Reachable ∧ analyze c unionOfCte = .ok a ∧
    a.columns = [⟨"x", .named "int", false, some (.qualified "s" "u"), some "a"⟩] ∧
    ∀ column ∈ a.columns, column.Sourced c := by
  let c : Catalog := ⟨"public", (Directory.empty.insert "public" (.empty "public")).insert "s"
    ⟨"s", Directory.empty.insert "u" ⟨.qualified "s" "u", [⟨"a", .named "int", true⟩]⟩⟩⟩
  have hreplay : movingTable.foldlM Catalog.replay (.empty "public") = .ok c := by decide +kernel
  have hc : c.Reachable := (Catalog.Reachable.empty "public").foldlM movingTable hreplay
  have hrun : analyze c unionOfCte =
      .ok ⟨[], [⟨"x", .named "int", false, some (.qualified "s" "u"), some "a"⟩], none⟩ := by
    decide +kernel
  exact ⟨c, _, hc, hrun, rfl, analyze_columns_sourced hc hrun⟩

end TypedSql
