import TypedSql.Proofs.Catalog.Effects
import TypedSql.Proofs.Catalog.History

/-!
# What schema changes leave alone

A schema change that fails leaves no trace, and one that succeeds touches the tables that it names
and no others. A history is therefore the same as the history of its successful statements.

- **Single statements**: the schemas, the tables and the number of tables after a schema change
- **Histories**: the statements that succeed, replayed on their own
-/

namespace TypedSql

open Canonical (AlterCommand Node SchemaChange)

namespace Catalog

variable {c c' : Catalog} {name : TableName}

/-! ## Single statements -/

/-- The full names of the tables that a schema change creates, alters, renames to or drops. -/
def touched (c : Catalog) : SchemaChange → List TableName
  | .createTable name _ _ => [c.qualify name]
  | .alterTable name _ commands => c.namesDuring (c.qualify name) commands
  | .dropTables names _ => names.map c.qualify
  | .createSchema .. => []

/-- The full names of the tables that a statement touches. -/
def touchedBy (c : Catalog) : Node → List TableName
  | .schemaChange change => c.touched change
  | _ => []

/-- Which tables a schema change touches depends on the default schema only. -/
theorem touched_congr (h : c'.defaultSchema = c.defaultSchema) (change : SchemaChange) :
    c'.touched change = c.touched change := by
  have hqualify : c'.qualify = c.qualify := funext (qualify_congr h)
  cases change with
  | createTable name ifNotExists columns => rw [touched, touched, hqualify]
  | alterTable name ifExists commands => rw [touched, touched, hqualify, namesDuring_congr h]
  | dropTables names ifExists => rw [touched, touched, hqualify]
  | createSchema k ifNotExists => rfl

theorem touchedBy_congr (h : c'.defaultSchema = c.defaultSchema) (n : Node) :
    c'.touchedBy n = c.touchedBy n := by
  cases n with
  | schemaChange change => exact touched_congr h change
  | _ => rfl

/-- No schema change takes a schema away, and only a CREATE SCHEMA adds one. -/
theorem isSome_schema?_apply (change : SchemaChange) (hrun : c.apply change = .ok c') (k : String) :
    (c'.schema? k).isSome ↔
      (c.schema? k).isSome ∨ ∃ ifNotExists, change = .createSchema k ifNotExists := by
  -- of all the effects only a new schema changes which schemas there are
  cases effect_of_apply change hrun with
  | schemaThere k' hthere =>
    refine ⟨.inl, ?_⟩
    rintro (h | ⟨_, heq⟩)
    · exact h
    · cases heq
      exact hthere
  | createSchema k' ifNotExists hfree =>
    have hschema : schema? { c with schemas := c.schemas.insert k' (.empty k') } k =
        if k = k' then some (.empty k') else c.schema? k := Directory.find?_insert ..
    rw [hschema]
    by_cases hk : k = k'
    · simp [hk]
    · simp [hk, Ne.symm hk]
  | createTable name ifNotExists columns t hschema hfree hcolumns =>
    simp [isSome_schema?_insertTable]
  | alterTable name ifExists commands old t hold halter =>
    simp [isSome_schema?_insertTable, isSome_schema?_removeTable]
  | dropTables names ifExists gone hgone => simp [isSome_schema?_removeTables]
  | tableThere | tableMissing => simp

/-- A DROP TABLE takes away the tables among its names, under their full names. -/
theorem mem_doomed (h : c.WellFormed) {ifExists : Bool} {names gone : List TableName}
    (hrun : c.doomed ifExists names = .ok gone) (hthere : (c.table? name).isSome) :
    c.qualify name ∈ gone.map c.qualify ↔ c.qualify name ∈ names.map c.qualify := by
  induction names generalizing gone with
  | nil =>
    cases hrun
    exact Iff.rfl
  | cons n names ih =>
    rw [doomed] at hrun
    split at hrun
    · rename_i t hfound
      cases hrest : c.doomed ifExists names with
      | error e => simp [hrest, Except.map] at hrun
      | ok rest =>
        rw [hrest] at hrun
        cases hrun
        have hname : c.qualify t.name = c.qualify n := by
          rw [h.name_eq (table?_eq_some_iff.mpr hfound)]
          rfl
        simp only [List.map_cons, List.mem_cons, hname, ih hrest]
    · -- a name that finds no table is not the one of a table that is there
      rename_i e hmissing
      split at hrun
      · have hne : c.qualify name ≠ c.qualify n := by
          intro heq
          have hnone : c.table? name = none := by
            rw [← table?_qualify, heq, table?_qualify, table?, hmissing]
            rfl
          simp [hnone] at hthere
        simp only [List.map_cons, List.mem_cons, ih hrun, hne, false_or]
      · cases hrun

/-- After a DROP TABLE the tables that it names are gone, and all others are there. -/
theorem table?_dropTables (h : c.WellFormed) {names : List TableName} {ifExists : Bool}
    (hrun : c.dropTables names ifExists = .ok c') (name : TableName) :
    c'.table? name = if c.qualify name ∈ names.map c.qualify then none else c.table? name := by
  obtain ⟨gone, hgone, hdone⟩ := exists_of_bind_eq_ok hrun
  cases hdone
  rw [table?_removeTables]
  cases hthere : c.table? name with
  | none => simp
  | some t =>
    have hiff : c.qualify name ∈ gone.map c.qualify ↔ c.qualify name ∈ names.map c.qualify :=
      mem_doomed h hgone (by rw [hthere]; rfl)
    simp only [hiff]

section Alter

variable {ifExists : Bool} {commands : List AlterCommand} {old t : Table}

theorem WellFormed.placed (h : c.WellFormed) (hfound : c.table? name = some old) :
    c.Placed old.name := by
  rw [h.name_eq hfound]
  have hthere : (c.table? name).isSome := by rw [hfound]; rfl
  exact ⟨isSome_schema?_of_table?_isSome hthere, rfl⟩

/-- The catalog after an ALTER TABLE: the table has left its old place and taken the new one. -/
theorem table?_moved (hplaced : c.Placed old.name) (htarget : c.Placed t.name)
    (name : TableName) :
    ((c.removeTable old.name).insertTable (t.name.schema.getD "") t).table? name =
      if c.qualify name = t.name then some t
      else if c.qualify name = old.name then none else c.table? name := by
  have hschema : ((c.removeTable old.name).schema? (t.name.schema.getD "")).isSome := by
    rw [isSome_schema?_removeTable, htarget.schema_eq]
    exact htarget.schema_isSome
  have hname : t.name = .qualified (t.name.schema.getD "") t.name.name := by
    rw [htarget.schema_eq]
    exact htarget.eq_qualified
  rw [table?_insertTable hschema hname, qualify_removeTable, table?_removeTable,
    hplaced.qualify_eq]

/-- An ALTER TABLE keeps the number of tables: the table leaves its place, and the place that it
takes is free. -/
theorem tableCount_moved (htarget : c.Placed t.name) (hold : c.table? old.name = some old)
    (hfree : t.name = old.name ∨ c.table? t.name = none) :
    ((c.removeTable old.name).insertTable (t.name.schema.getD "") t).tableCount =
      c.tableCount := by
  have hschema : ((c.removeTable old.name).schema? (t.name.schema.getD "")).isSome := by
    rw [isSome_schema?_removeTable, htarget.schema_eq]
    exact htarget.schema_isSome
  have hname : t.name = .qualified (t.name.schema.getD "") t.name.name := by
    rw [htarget.schema_eq]
    exact htarget.eq_qualified
  -- the new name is free once the old table is gone
  have hnone : (c.removeTable old.name).table? t.name = none := by
    rw [table?_removeTable]
    -- the table keeps its name, or takes one that was free before
    rcases hfree with heq | hfree
    · rw [if_pos (congrArg c.qualify heq)]
    · split
      · rfl
      · exact hfree
  rw [tableCount_insertTable hschema hname hnone]
  exact tableCount_removeTable (by rw [hold]; rfl)

theorem tableCount_alterTable (h : c.WellFormed)
    (hrun : c.apply (.alterTable name ifExists commands) = .ok c') :
    c'.tableCount = c.tableCount := by
  cases effect_of_apply _ hrun with
  | tableMissing => rfl
  | alterTable _ _ _ old t hold halter =>
    have hplaced := h.placed hold
    obtain ⟨htarget, -, hfree⟩ := alterAll_placed commands hplaced halter
    have hself : c.table? old.name = some old := by
      rw [h.name_eq hold, table?_qualify]
      exact hold
    exact tableCount_moved htarget hself hfree

end Alter

/-- A schema change that succeeds leaves every table alone that it does not touch. -/
theorem table?_apply (h : c.WellFormed) (change : SchemaChange) (hrun : c.apply change = .ok c')
    (hname : c.qualify name ∉ c.touched change) : c'.table? name = c.table? name := by
  cases effect_of_apply change hrun with
  | schemaThere | tableThere | tableMissing => rfl
  | createSchema k ifNotExists hfree =>
    -- a schema that is new has no tables
    have hschema (k' : String) : schema? { c with schemas := c.schemas.insert k (.empty k) } k' =
        if k' = k then some (.empty k) else c.schema? k' := Directory.find?_insert ..
    rw [table?_eq_bind, table?_eq_bind, hschema]
    have hplace : schemaName { c with schemas := c.schemas.insert k (.empty k) } name =
        c.schemaName name := rfl
    rw [hplace]
    split
    · rename_i heq
      rw [heq, hfree]
      rfl
    · rfl
  | createTable target ifNotExists columns t hschema hfree hcolumns =>
    have htable : t.name = c.qualify target :=
      (Table.addColumns_keeps columns hcolumns List.nodup_nil).1
    rw [table?_insertTable hschema (by rw [htable]; rfl), htable]
    exact if_neg (List.ne_of_not_mem_cons hname)
  | alterTable target ifExists commands old t hold halter =>
    have hplaced := h.placed hold
    obtain ⟨htarget, hmem, -⟩ := alterAll_placed commands hplaced halter
    rw [h.name_eq hold] at hmem
    -- the name is neither the one that the table leaves nor the one that it takes
    have hleft : c.qualify name ≠ old.name := by
      intro heq
      rw [heq, h.name_eq hold] at hname
      exact hname (head_mem_namesDuring ..)
    have hentered : c.qualify name ≠ t.name := by
      intro heq
      rw [heq] at hname
      exact hname hmem
    rw [table?_moved hplaced htarget, if_neg hentered, if_neg hleft]
  | dropTables names ifExists gone hgone =>
    rw [table?_dropTables h hrun]
    exact if_neg hname

/-! ## Histories -/

/-- The statements among others that succeed, each at its place. -/
def succeeding (c : Catalog) : List Node → List Node
  | [] => []
  | n :: ns =>
    match c.replay n with
    | .ok next => n :: next.succeeding ns
    | .error _ => c.succeeding ns

theorem after_of_ok {n : Node} (hrun : c.replay n = .ok c') : c.after n = c' := by
  rw [after, hrun]

theorem after_of_error {n : Node} {e : CatalogError} (hrun : c.replay n = .error e) :
    c.after n = c := by
  rw [after, hrun]

/-- The statements that succeed lead to the same catalog without an error. -/
theorem foldlM_succeeding (ns : List Node) (c : Catalog) :
    (c.succeeding ns).foldlM Catalog.replay c = .ok (c.afterAll ns) := by
  induction ns generalizing c with
  | nil => rfl
  | cons n ns ih =>
    have hafter : c.afterAll (n :: ns) = (c.after n).afterAll ns := rfl
    rw [succeeding, hafter]
    -- a statement that fails is not among those that succeed
    cases hrun : c.replay n with
    | ok next =>
      dsimp only
      rw [List.foldlM_cons, hrun, after_of_ok hrun]
      exact ih next
    | error e =>
      dsimp only
      rw [after_of_error hrun]
      exact ih c

/-- The catalog after `CREATE SCHEMA archive; CREATE TABLE t (a int); CREATE TABLE u (a int)`. -/
def twoTables : Catalog :=
  (empty "public").afterAll [
    .schemaChange (.createSchema "archive" false),
    .schemaChange (.createTable (.unqualified "t") false [⟨"a", .named "int", false⟩]),
    .schemaChange (.createTable (.unqualified "u") false [⟨"a", .named "int", false⟩])]

/-- The statement `ALTER TABLE t RENAME TO archive.u, DROP COLUMN a`. -/
def archiveTable : Node :=
  .schemaChange (.alterTable (.unqualified "t") false
    [.renameTable (.qualified "archive" "u"), .dropColumn "a" false])

/-- The statement `DROP TABLE IF EXISTS u, archive.t, u`. -/
def dropTwice : Node :=
  .schemaChange (.dropTables
    [.unqualified "u", .qualified "archive" "t", .unqualified "u"] true)

end Catalog

/-! ## Compilations -/

/-- The canonical forms of those statements that have one. -/
def canonicalForms (d : Dialect) (statements : List Sql.ScriptStatement) : List Node :=
  statements.filterMap fun s => ((Canonical.convert d s).map (·.node)).toOption

/-- A statement of a schema file does to a catalog what its canonical form does. -/
theorem replayStatement_effect (config : Config) (c : Catalog) (s : Sql.ScriptStatement) :
    match replayStatement config c s with
    | .ok next => next = c.afterAll (canonicalForms config.dialect [s])
    | .error _ => c = c.afterAll (canonicalForms config.dialect [s]) := by
  unfold replayStatement
  cases hconvert : Canonical.convert config.dialect s with
  | error e => simp [canonicalForms, hconvert, Except.map, Except.toOption, Catalog.afterAll]
  | ok converted =>
    have hforms : c.afterAll (canonicalForms config.dialect [s]) = c.after converted.node := by
      simp [canonicalForms, hconvert, Except.map, Except.toOption, Catalog.afterAll]
    rw [hforms]
    dsimp only
    split
    · rename_i hskip
      split at hskip
      · cases hskip
      · split at hskip <;> cases hskip
        rename_i hreplay
        exact (Catalog.after_of_ok hreplay).symm
    · rename_i hskip
      split at hskip
      · -- a statement that is not converted has no effect on a catalog
        rename_i hnode
        rw [hnode]
        rfl
      · split at hskip <;> cases hskip
        rename_i hreplay
        exact (Catalog.after_of_error hreplay).symm

theorem replayEntries_catalog (config : Config) (script : Sql.Script)
    (entries : List (Except Sql.Rejection Sql.ScriptStatement)) (build : CatalogBuild) :
    (replayEntries config script build entries).catalog = build.catalog.afterAll
      (canonicalForms config.dialect (entries.filterMap Except.toOption)) := by
  induction entries generalizing build with
  | nil => rfl
  | cons entry entries ih =>
    cases entry with
    | error r =>
      rw [replayEntries]
      -- an entry that was not parsed leaves the catalog alone
      exact ih _
    | ok s =>
      -- a statement has the effect of its canonical form on the catalog, also where it fails
      have heffect := replayStatement_effect config build.catalog s
      have hforms : canonicalForms config.dialect ((.ok s :: entries).filterMap Except.toOption) =
          canonicalForms config.dialect [s] ++
            canonicalForms config.dialect (entries.filterMap Except.toOption) :=
        List.filterMap_append (l := [s])
      rw [replayEntries, hforms, Catalog.afterAll, List.foldl_append]
      cases hrun : replayStatement config build.catalog s with
      | error d =>
        rw [hrun] at heffect
        refine (ih _).trans ?_
        exact congrArg (Catalog.afterAll · _) heffect
      | ok next =>
        rw [hrun] at heffect
        refine (ih _).trans ?_
        exact congrArg (Catalog.afterAll · _) heffect

/-- The catalog that a compilation builds is the end of a history: that of the canonical forms of
all statements of its schema files. -/
theorem buildCatalog_eq_afterAll (config : Config) (files : List SourceFile) :
    (buildCatalog config files).catalog =
      (Catalog.empty config.schemaName).afterAll (files.flatMap fun f =>
        canonicalForms config.dialect (f.parse config.dialect).statements) := by
  unfold buildCatalog
  -- the files are replayed one after the other, from any catalog that those before have led to
  have hbuild (build : CatalogBuild) :
      (files.foldl (fun build file =>
        replayEntries config (file.parse config.dialect) build (file.parse config.dialect).entries)
        build).catalog =
      build.catalog.afterAll (files.flatMap fun f =>
        canonicalForms config.dialect (f.parse config.dialect).statements) := by
    induction files generalizing build with
    | nil => rfl
    | cons file files ih =>
      rw [List.foldl_cons, ih, replayEntries_catalog, List.flatMap_cons, Catalog.afterAll,
        Catalog.afterAll, Catalog.afterAll, List.foldl_append]
      rfl
  exact hbuild _

end TypedSql
