import TypedSql.Catalog.Replay

/-!
# The catalog invariant

What every catalog has that comes from the replay of schema changes: names and places agree, and no
table has two columns of one name.

- **Tables**: every command of an ALTER TABLE keeps a table well formed
- **Catalogs**: every schema change keeps a catalog well formed
- **Replay**: so does every sequence of them, from the empty catalog on
-/

namespace TypedSql

open Canonical (AlterCommand ColumnDef SchemaChange)

/-! ## Tables -/

/-- A table with a full name whose columns have names of their own. -/
structure Table.WellFormed (t : Table) : Prop where
  schema_isSome : t.name.schema.isSome
  nodup : t.columnNames.Nodup

/-- A well-formed table that has the name of its place. -/
structure Table.StoredAs (t : Table) (schema name : String) : Prop where
  name_eq : t.name = .qualified schema name
  nodup : t.columnNames.Nodup

namespace Table

variable {t t' : Table} {name newName : String} {f : Column → Column}

theorem StoredAs.wellFormed {schema : String} (h : t.StoredAs schema name) : t.WellFormed :=
  ⟨by rw [h.name_eq]; rfl, h.nodup⟩

/-- A well-formed table can be stored in the schema of its name. -/
theorem WellFormed.storedAs (h : t.WellFormed) :
    t.StoredAs (t.name.schema.getD "") t.name.name := by
  refine ⟨?_, h.nodup⟩
  obtain ⟨schema, hschema⟩ := Option.isSome_iff_exists.mp h.schema_isSome
  rw [hschema, Option.getD_some, TableName.qualified, ← hschema]

theorem hasColumn_iff_mem : t.hasColumn name = true ↔ name ∈ t.columnNames := by
  simp only [hasColumn, column?, columnNames, List.find?_isSome, decide_eq_true_eq, List.mem_map]

/-- A column is the one that its name finds, if no other one has that name. -/
theorem column?_of_mem (h : t.columnNames.Nodup) {c : Column} (hc : c ∈ t.columns) :
    t.column? c.name = some c := by
  rw [columnNames] at h
  rw [column?]
  generalize t.columns = columns at h hc ⊢
  induction columns with
  | nil => cases hc
  | cons d ds ih =>
    obtain ⟨hd, hds⟩ := List.nodup_cons.mp h
    rcases List.mem_cons.mp hc with rfl | hc
    · exact List.find?_cons_of_pos (by simp)
    · -- the first column has another name, because no two columns share one
      have hne : d.name ≠ c.name := fun heq => hd (List.mem_map.mpr ⟨c, hc, heq.symm⟩)
      rw [List.find?_cons_of_neg (by simpa using hne)]
      exact ih hds hc

theorem nodup_addColumn (h : t.columnNames.Nodup) {c : Column} (hc : ¬ t.hasColumn c.name = true) :
    (t.columns ++ [c]).map (·.name) |>.Nodup := by
  rw [List.map_append, List.map_singleton]
  refine List.nodup_append.mpr ⟨h, List.pairwise_singleton _ _, fun n hn m hm heq => hc ?_⟩
  rw [List.mem_singleton] at hm
  rw [hasColumn_iff_mem, ← hm, ← heq]
  exact hn

theorem addColumns_keeps (ds : List ColumnDef) (hrun : t.addColumns ds = .ok t')
    (h : t.columnNames.Nodup) : t'.name = t.name ∧ t'.columnNames.Nodup := by
  induction ds generalizing t with
  | nil =>
    cases hrun
    exact ⟨rfl, h⟩
  | cons d ds ih =>
    rw [addColumns] at hrun
    split at hrun
    · cases hrun
    · rename_i hnew
      have hadded := nodup_addColumn (c := .ofDef d) h hnew
      exact ih (t := { t with columns := t.columns ++ [.ofDef d] }) hrun hadded

theorem mem_changeColumn (cs : List Column)
    (hf : ∀ c : Column, c.name = name → (f c).name = newName) {n : String}
    (hn : n ∈ (changeColumn name f cs).map (·.name)) :
    n = newName ∨ n ∈ cs.map (·.name) := by
  induction cs with
  | nil => exact .inr hn
  | cons c cs ih =>
    rw [changeColumn] at hn
    -- only the first column of the name is changed
    split at hn
    · rename_i hc
      rcases List.mem_cons.mp hn with rfl | hn
      · exact .inl (hf c hc)
      · exact .inr (List.mem_cons_of_mem _ hn)
    · rcases List.mem_cons.mp hn with rfl | hn
      · exact .inr List.mem_cons_self
      · exact (ih hn).imp_right (List.mem_cons_of_mem _)

/-- A column may be renamed to a name that no other column has. -/
theorem nodup_changeColumn (cs : List Column)
    (hf : ∀ c : Column, c.name = name → (f c).name = newName)
    (hnew : newName = name ∨ newName ∉ cs.map (·.name)) (h : (cs.map (·.name)).Nodup) :
    ((changeColumn name f cs).map (·.name)).Nodup := by
  induction cs with
  | nil => exact h
  | cons c cs ih =>
    obtain ⟨hc, hcs⟩ := List.nodup_cons.mp h
    have hrest : newName ∉ cs.map (·.name) ∨ newName = name := by
      rcases hnew with hnew | hnew
      · exact .inr hnew
      · exact .inl fun hmem => hnew (List.mem_cons_of_mem _ hmem)
    rw [changeColumn]
    split
    · -- the first column is the one that changes, the others stay as they are
      rename_i hname
      refine List.nodup_cons.mpr ⟨?_, hcs⟩
      show (f c).name ∉ cs.map (·.name)
      rw [hf c hname]
      rcases hrest with hrest | rfl
      · exact hrest
      · exact hname ▸ hc
    · -- a later one changes: its new name must not be that of the first column
      rename_i hname
      refine List.nodup_cons.mpr ⟨fun hmem => ?_, ih hrest.symm hcs⟩
      rcases mem_changeColumn cs hf hmem with heq | hmem
      · rcases hnew with rfl | hnew
        · exact hname heq
        · exact hnew (heq ▸ List.mem_cons_self)
      · exact hc hmem

theorem updateColumn_keeps (hrun : t.updateColumn name f = .ok t')
    (hf : ∀ c : Column, c.name = name → (f c).name = newName)
    (hnew : newName = name ∨ newName ∉ t.columnNames) (h : t.WellFormed) : t'.WellFormed := by
  rw [updateColumn] at hrun
  split at hrun
  · cases hrun
    exact ⟨h.schema_isSome, nodup_changeColumn t.columns hf hnew h.nodup⟩
  · cases hrun

theorem of_checkRename (hrun : t.checkRename name newName = .ok ()) :
    newName = name ∨ newName ∉ t.columnNames := by
  rw [checkRename] at hrun
  split at hrun
  · cases hrun
  · rename_i hnot
    by_cases h : newName = name
    · exact .inl h
    · exact .inr fun hmem => hnot ⟨h, hasColumn_iff_mem.mpr hmem⟩

end Table

theorem exists_of_bind_eq_ok {ε α β : Type} {x : Except ε α} {f : α → Except ε β} {b : β}
    (h : x >>= f = .ok b) : ∃ a, x = .ok a ∧ f a = .ok b := by
  cases x with
  | error e => cases h
  | ok a => exact ⟨a, rfl, h⟩

namespace Catalog

variable {c c' : Catalog} {t t' : Table}

/-- A RENAME without a schema keeps the schema of the table. -/
theorem renameTarget_isSome (c : Catalog) {old : TableName} (new : TableName)
    (h : old.schema.isSome) : (c.renameTarget old new).schema.isSome := by
  unfold renameTarget
  split
  · rfl
  · exact h

/-- Every command of an ALTER TABLE keeps a table well formed. -/
theorem alter_keeps (a : AlterCommand) (hrun : c.alter t a = .ok t') (h : t.WellFormed) :
    t'.WellFormed := by
  cases a with
  | addColumn d ifNotExists =>
    rw [alter] at hrun
    split at hrun
    · -- the column is there already, which is tolerated or not
      split at hrun
      · cases hrun
        exact h
      · cases hrun
    · -- a new column, whose name no other one has
      rename_i hnew
      cases hrun
      exact ⟨h.schema_isSome, Table.nodup_addColumn h.nodup hnew⟩
  | dropColumn name ifExists =>
    rw [alter] at hrun
    split at hrun
    · -- without a column the others keep their names
      cases hrun
      exact ⟨h.schema_isSome, h.nodup.sublist (List.eraseP_sublist.map _)⟩
    · -- there is no such column, which is tolerated or not
      split at hrun
      · cases hrun
        exact h
      · cases hrun
  | modifyColumn name d =>
    obtain ⟨⟨⟩, hcheck, hupdate⟩ := exists_of_bind_eq_ok hrun
    exact Table.updateColumn_keeps hupdate (fun _ _ => rfl) (Table.of_checkRename hcheck) h
  | setNotNull name notNull => exact Table.updateColumn_keeps hrun (fun _ hc => hc) (.inl rfl) h
  | setType name type => exact Table.updateColumn_keeps hrun (fun _ hc => hc) (.inl rfl) h
  | renameColumn name newName =>
    obtain ⟨⟨⟩, hcheck, hupdate⟩ := exists_of_bind_eq_ok hrun
    exact Table.updateColumn_keeps hupdate (fun _ _ => rfl) (Table.of_checkRename hcheck) h
  | renameTable newName =>
    -- the table keeps its columns and changes its name to one in a schema
    obtain ⟨⟨⟩, -, hdone⟩ := exists_of_bind_eq_ok hrun
    cases hdone
    exact ⟨renameTarget_isSome c newName h.schema_isSome, h.nodup⟩

theorem alterAll_keeps (as : List AlterCommand) (hrun : c.alterAll t as = .ok t')
    (h : t.WellFormed) : t'.WellFormed := by
  induction as generalizing t with
  | nil =>
    cases hrun
    exact h
  | cons a as ih =>
    rw [alterAll] at hrun
    split at hrun
    · rename_i halter
      exact ih hrun (alter_keeps a halter h)
    · cases hrun

end Catalog

/-! ## Catalogs -/

/-- A schema that has the name of its place, and so have all its tables. -/
structure Schema.StoredAs (s : Schema) (name : String) : Prop where
  name_eq : s.name = name
  tables : ∀ n t, s.tables.find? n = some t → t.StoredAs name n

/-- A catalog with its default schema, in which names and places agree. -/
structure Catalog.WellFormed (c : Catalog) : Prop where
  default_isSome : (c.schema? c.defaultSchema).isSome
  schemas : ∀ k s, c.schema? k = some s → s.StoredAs k

namespace Schema

theorem empty_storedAs (name : String) : (empty name).StoredAs name :=
  ⟨rfl, fun _ _ hfind => nomatch hfind⟩

theorem StoredAs.insert {s : Schema} {t : Table} {name n : String} (h : s.StoredAs name)
    (ht : t.StoredAs name n) : { s with tables := s.tables.insert n t }.StoredAs name := by
  refine ⟨h.name_eq, fun n' t' hfind => ?_⟩
  rw [Directory.find?_insert] at hfind
  split at hfind
  · rename_i heq
    cases hfind
    exact heq ▸ ht
  · exact h.tables n' t' hfind

theorem StoredAs.erase {s : Schema} {name : String} (h : s.StoredAs name) (n : String) :
    { s with tables := s.tables.erase n }.StoredAs name := by
  refine ⟨h.name_eq, fun n' t' hfind => ?_⟩
  rw [Directory.find?_erase] at hfind
  split at hfind
  · cases hfind
  · exact h.tables n' t' hfind

end Schema

namespace Catalog

variable {c c' : Catalog} {t : Table} {name : TableName}

/-- Putting a schema under its name keeps a catalog well formed. -/
theorem WellFormed.putSchema (h : c.WellFormed) {k : String} {s : Schema} (hs : s.StoredAs k) :
    WellFormed { c with schemas := c.schemas.insert k s } := by
  have hschema (k' : String) : schema? { c with schemas := c.schemas.insert k s } k' =
      if k' = k then some s else c.schema? k' := Directory.find?_insert c.schemas k k' s
  constructor
  · -- the default schema is still there
    rw [hschema]
    split
    · rfl
    · exact h.default_isSome
  · -- the schema that was put, or one that was there before
    intro k' s' hfind
    rw [hschema] at hfind
    split at hfind
    · rename_i heq
      cases hfind
      exact heq ▸ hs
    · exact h.schemas k' s' hfind

theorem empty_wellFormed (defaultSchema : String) : (empty defaultSchema).WellFormed := by
  have hschema (k : String) : (empty defaultSchema).schema? k =
      if k = defaultSchema then some (.empty defaultSchema) else none :=
    Directory.find?_insert .empty defaultSchema k _
  constructor
  · exact Option.isSome_iff_exists.mpr ⟨_, (hschema defaultSchema).trans (if_pos rfl)⟩
  · intro k s hfind
    rw [hschema] at hfind
    split at hfind
    · rename_i heq
      cases hfind
      exact heq ▸ Schema.empty_storedAs defaultSchema
    · cases hfind

/-- A table that is found has the full form of the name under which it is found. -/
theorem WellFormed.lookupTable (h : c.WellFormed) (hfound : c.lookupTable name = .ok t) :
    t.name = c.qualify name ∧ t.columnNames.Nodup := by
  rw [Catalog.lookupTable] at hfound
  split at hfound
  · cases hfound
  · rename_i s hs
    split at hfound
    · cases hfound
    · rename_i t' ht
      cases hfound
      have hstored := (h.schemas _ s hs).tables _ t ht
      exact ⟨hstored.name_eq, hstored.nodup⟩

/-- Qualifying a name does not change what it names. -/
theorem lookupTable_qualify (c : Catalog) (name : TableName) :
    c.lookupTable (c.qualify name) = c.lookupTable name := rfl

theorem insertTable_keeps (h : c.WellFormed) (ht : t.WellFormed) :
    (c.insertTable (t.name.schema.getD "") t).WellFormed := by
  rw [insertTable]
  split
  · rename_i s hs
    exact h.putSchema ((h.schemas _ s hs).insert ht.storedAs)
  · exact h

theorem removeTable_keeps (h : c.WellFormed) (name : TableName) :
    (c.removeTable name).WellFormed := by
  rw [removeTable]
  split
  · rename_i s hs
    exact h.putSchema ((h.schemas _ s hs).erase name.name)
  · exact h

theorem removeTables_keeps (names : List TableName) (h : c.WellFormed) :
    (names.foldl removeTable c).WellFormed := by
  induction names generalizing c with
  | nil => exact h
  | cons name names ih => exact ih (removeTable_keeps h name)

theorem createSchema_keeps {k : String} {ifNotExists : Bool}
    (hrun : c.createSchema k ifNotExists = .ok c') (h : c.WellFormed) : c'.WellFormed := by
  rw [createSchema] at hrun
  split at hrun
  · split at hrun
    · cases hrun
      exact h
    · cases hrun
  · cases hrun
    exact h.putSchema (Schema.empty_storedAs k)

theorem createTable_keeps {ifNotExists : Bool} {columns : List ColumnDef}
    (hrun : c.createTable name ifNotExists columns = .ok c') (h : c.WellFormed) :
    c'.WellFormed := by
  rw [createTable] at hrun
  split at hrun
  · cases hrun
  · -- a table that is there already is tolerated or not; a new one has the columns that are listed
    split at hrun
    · split at hrun
      · cases hrun
        exact h
      · cases hrun
    · obtain ⟨t, hcolumns, hdone⟩ := exists_of_bind_eq_ok hrun
      cases hdone
      obtain ⟨hname, hnodup⟩ := Table.addColumns_keeps columns hcolumns List.nodup_nil
      have ht : t.WellFormed := ⟨by rw [hname]; rfl, hnodup⟩
      have hschema : t.name.schema.getD "" = c.schemaName name := by rw [hname]; rfl
      exact hschema ▸ insertTable_keeps h ht

theorem alterTable_keeps {ifExists : Bool} {commands : List AlterCommand}
    (hrun : c.alterTable name ifExists commands = .ok c') (h : c.WellFormed) : c'.WellFormed := by
  rw [alterTable] at hrun
  split at hrun
  · split at hrun
    · cases hrun
      exact h
    · cases hrun
  · cases hrun
  · rename_i old hold
    obtain ⟨t, halter, hdone⟩ := exists_of_bind_eq_ok hrun
    cases hdone
    -- the table leaves its old place before it takes the one of its new name
    obtain ⟨hname, hnodup⟩ := h.lookupTable hold
    have ht : t.WellFormed := alterAll_keeps commands halter ⟨by rw [hname]; rfl, hnodup⟩
    exact insertTable_keeps (removeTable_keeps h old.name) ht

theorem dropTables_keeps {names : List TableName} {ifExists : Bool}
    (hrun : c.dropTables names ifExists = .ok c') (h : c.WellFormed) : c'.WellFormed := by
  obtain ⟨doomed, -, hdone⟩ := exists_of_bind_eq_ok hrun
  cases hdone
  exact removeTables_keeps doomed h

/-- Every schema change keeps a catalog well formed. -/
theorem apply_keeps (change : SchemaChange) (hrun : c.apply change = .ok c') (h : c.WellFormed) :
    c'.WellFormed := by
  cases change with
  | createTable name ifNotExists columns => exact createTable_keeps hrun h
  | alterTable name ifExists commands => exact alterTable_keeps hrun h
  | dropTables names ifExists => exact dropTables_keeps hrun h
  | createSchema name ifNotExists => exact createSchema_keeps hrun h

theorem replay_keeps (n : Canonical.Node) (hrun : c.replay n = .ok c') (h : c.WellFormed) :
    c'.WellFormed := by
  cases n with
  | schemaChange change => exact apply_keeps change hrun h
  | _ =>
    cases hrun
    exact h

/-! ## Replay -/

/-- The catalogs that statements lead to, from one that holds a default schema only. A statement
that fails leads nowhere. -/
inductive Reachable : Catalog → Prop where
  /-- The catalog from which every replay starts. -/
  | empty (defaultSchema : String) : Reachable (.empty defaultSchema)
  /-- One more statement that succeeds. -/
  | replay {c c' : Catalog} (n : Canonical.Node) (h : Reachable c) (hrun : c.replay n = .ok c') :
    Reachable c'

/-- Statements that succeed one after the other stay among these catalogs. -/
theorem Reachable.foldlM (ns : List Canonical.Node) (h : c.Reachable)
    (hrun : ns.foldlM Catalog.replay c = .ok c') : c'.Reachable := by
  induction ns generalizing c with
  | nil =>
    cases hrun
    exact h
  | cons n ns ih =>
    rw [List.foldlM_cons] at hrun
    obtain ⟨next, hnext, hrest⟩ := exists_of_bind_eq_ok hrun
    exact ih (h.replay n hnext) hrest

/-- Every catalog of a replay is well formed. -/
theorem Reachable.wellFormed (h : c.Reachable) : c.WellFormed := by
  induction h with
  | empty defaultSchema => exact empty_wellFormed defaultSchema
  | replay n _ hrun ih => exact replay_keeps n hrun ih

end Catalog

end TypedSql
