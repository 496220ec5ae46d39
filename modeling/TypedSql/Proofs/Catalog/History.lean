import TypedSql.Compilation
import TypedSql.Proofs.Catalog.Effects

/-!
# Histories of catalogs

What a sequence of statements makes of a catalog when some of them fail: a statement that fails
leaves the catalog as it was, and the next one goes on from there.

- **Default schema**: no statement changes which schema is the default one
- **Histories**: every catalog of a history is one that a replay leads to, and so is the catalog
  that a compilation builds from its schema files
-/

namespace TypedSql

open Canonical (Node SchemaChange)

namespace Catalog

variable {c c' : Catalog}

/-! ## The default schema -/

@[simp] theorem insertTable_defaultSchema (c : Catalog) (schema : String) (t : Table) :
    (c.insertTable schema t).defaultSchema = c.defaultSchema := by
  unfold insertTable
  split <;> rfl

@[simp] theorem removeTable_defaultSchema (c : Catalog) (name : TableName) :
    (c.removeTable name).defaultSchema = c.defaultSchema := by
  unfold removeTable
  split <;> rfl

theorem removeTables_defaultSchema (names : List TableName) (c : Catalog) :
    (names.foldl removeTable c).defaultSchema = c.defaultSchema := by
  induction names generalizing c with
  | nil => rfl
  | cons name names ih => rw [List.foldl_cons, ih, removeTable_defaultSchema]

/-- No schema change makes another schema the default one. -/
theorem apply_defaultSchema (change : SchemaChange) (hrun : c.apply change = .ok c') :
    c'.defaultSchema = c.defaultSchema := by
  cases effect_of_apply change hrun with
  | schemaThere | createSchema | tableThere | tableMissing => rfl
  | createTable => exact insertTable_defaultSchema ..
  | alterTable => rw [insertTable_defaultSchema, removeTable_defaultSchema]
  | dropTables _ _ gone => exact removeTables_defaultSchema gone c

theorem replay_defaultSchema (n : Node) (hrun : c.replay n = .ok c') :
    c'.defaultSchema = c.defaultSchema := by
  cases n with
  | schemaChange change => exact apply_defaultSchema change hrun
  | _ =>
    cases hrun
    rfl

/-! ## Histories -/

/-- The catalog after a statement. One that fails has no effect. -/
def after (c : Catalog) (n : Node) : Catalog :=
  match c.replay n with
  | .ok next => next
  | .error _ => c

/-- The catalog after statements, some of which may fail. -/
def afterAll (c : Catalog) (ns : List Node) : Catalog := ns.foldl after c

theorem after_defaultSchema (c : Catalog) (n : Node) :
    (c.after n).defaultSchema = c.defaultSchema := by
  unfold after
  split
  · rename_i hrun
    exact replay_defaultSchema n hrun
  · rfl

theorem Reachable.after (h : c.Reachable) (n : Node) : (c.after n).Reachable := by
  unfold Catalog.after
  split
  · rename_i hrun
    exact h.replay n hrun
  · exact h

theorem afterAll_defaultSchema (ns : List Node) (c : Catalog) :
    (c.afterAll ns).defaultSchema = c.defaultSchema := by
  induction ns generalizing c with
  | nil => rfl
  | cons n ns ih => exact (ih (c.after n)).trans (after_defaultSchema c n)

theorem Reachable.afterAll (ns : List Node) (h : c.Reachable) : (c.afterAll ns).Reachable := by
  induction ns generalizing c with
  | nil => exact h
  | cons n ns ih => exact ih (h.after n)

/-- After any statements, whether they succeed or fail, the default schema is there and is the one
that the history has started with; schemas, tables and columns are stored under their own names, no
table has two columns of one name, and a table is found under a name exactly if it is found under
the full form of the name, which is then its own. -/
theorem afterAll_names_agree (defaultSchema : String) (ns : List Node) :
    let c := (empty defaultSchema).afterAll ns
    c.defaultSchema = defaultSchema ∧ (c.schema? defaultSchema).isSome ∧
      (∀ k s, c.schema? k = some s → s.name = k ∧
        ∀ n t, s.tables.find? n = some t → t.name = .qualified k n ∧ t.columnNames.Nodup) ∧
      ∀ name, c.lookupTable name = c.lookupTable (c.qualify name) ∧
        ∀ t, c.lookupTable name = .ok t → t.name = c.qualify name := by
  intro c
  have hdefault : c.defaultSchema = defaultSchema := afterAll_defaultSchema ns (empty defaultSchema)
  -- every state of a replay is reachable, and reachable states are well-formed
  have hc : c.WellFormed := ((Reachable.empty defaultSchema).afterAll ns).wellFormed
  refine ⟨hdefault, hdefault ▸ hc.default_isSome, fun k s hs => ?_, fun name => ?_⟩
  · have hstored := hc.schemas k s hs
    refine ⟨hstored.name_eq, fun n t ht => ?_⟩
    exact ⟨(hstored.tables n t ht).name_eq, (hstored.tables n t ht).nodup⟩
  · exact ⟨(lookupTable_qualify c name).symm, fun t ht => (hc.lookupTable ht).1⟩

end Catalog

/-! ## Compilations -/

/-- A statement of a schema file acts on the catalog as a canonical statement does, or not at
all. -/
theorem replayStatement_reachable {config : Config} {c c' : Catalog} {s : Sql.ScriptStatement}
    (hrun : replayStatement config c s = .ok c') (h : c.Reachable) : c'.Reachable := by
  unfold replayStatement at hrun
  split at hrun
  · cases hrun
  · split at hrun
    · cases hrun
    · split at hrun
      · cases hrun
      · rename_i hreplay
        cases hrun
        exact h.replay _ hreplay

theorem replayEntries_reachable {config : Config} {script : Sql.Script}
    (entries : List (Except Sql.Rejection Sql.ScriptStatement)) {build : CatalogBuild}
    (h : build.catalog.Reachable) :
    (replayEntries config script build entries).catalog.Reachable := by
  induction entries generalizing build with
  | nil => exact h
  | cons entry entries ih =>
    cases entry with
    | error r =>
      rw [replayEntries]
      exact ih h
    | ok s =>
      -- only a statement that succeeds changes the catalog
      rw [replayEntries]
      cases hrun : replayStatement config build.catalog s with
      | error d => exact ih h
      | ok next => exact ih (replayStatement_reachable hrun h)

/-- The catalog that a compilation builds is one that a replay leads to. -/
theorem buildCatalog_reachable (config : Config) (files : List SourceFile) :
    (buildCatalog config files).catalog.Reachable := by
  unfold buildCatalog
  generalize hstart : CatalogBuild.mk (.empty config.schemaName) [] 0 = start
  have h : start.catalog.Reachable := hstart ▸ .empty config.schemaName
  clear hstart
  induction files generalizing start with
  | nil => exact h
  | cons file files ih => exact ih _ (replayEntries_reachable _ h)

end TypedSql
