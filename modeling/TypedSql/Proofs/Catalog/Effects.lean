import TypedSql.Proofs.Catalog.Invariant

/-!
# Effects of schema changes

What a schema change that succeeds has done to a catalog, and what is found in the catalog after it.

- **Sums**: how a measure of all values of a directory changes with one entry
- **Tables**: what is found after a table has been put into a catalog or taken away
- **Renaming**: a table of an ALTER TABLE ends under its own name or under a name that is free
- **Equations**: what a schema change comes to, by the schemas that are there and the tables that are
  found; for all kinds of change but an ALTER TABLE whose table is found
- `Effect`: the catalogs that a schema change can lead to, with the conditions under which it does
-/

namespace TypedSql

open Canonical (AlterCommand ColumnDef SchemaChange)

/-! ## Sums -/

section Entries

variable {α : Type} {k : String} {es : List (String × α)}

/-- The sum of a measure over the values of entries. -/
def totalEntries (f : α → Nat) (es : List (String × α)) : Nat :=
  (es.map (·.2)).foldr (fun a n => f a + n) 0

theorem totalEntries_cons (f : α → Nat) (e : String × α) (es : List (String × α)) :
    totalEntries f (e :: es) = f e.2 + totalEntries f es := rfl

/-- A name that stands before all entries is the name of none. -/
theorem lookup_eq_none_of_lt (h : ∀ e ∈ es, k < e.1) : es.lookup k = none := by
  induction es with
  | nil => rfl
  | cons e es ih =>
    obtain ⟨k', v⟩ := e
    obtain ⟨hlt, hrest⟩ := List.forall_mem_cons.mp h
    have hne : k ≠ k' := fun heq => String.lt_irrefl _ (heq ▸ hlt)
    rw [lookup_entry_cons, if_neg hne]
    exact ih hrest

/-- A new entry adds its measure and takes away that of the entry in whose place it stands. -/
theorem totalEntries_insertEntry (f : α → Nat) (v : α) (h : SortedEntries es) :
    totalEntries f (insertEntry k v es) + ((es.lookup k).map f).getD 0 =
      totalEntries f es + f v := by
  induction es with
  | nil => simp [insertEntry, totalEntries]
  | cons e es ih =>
    obtain ⟨hhead, htail⟩ := List.pairwise_cons.mp h
    obtain ⟨k', v'⟩ := e
    rw [insertEntry, lookup_entry_cons]
    split
    · -- the name stands before all others, so there was no entry for it
      rename_i hlt
      have hnone : es.lookup k = none :=
        lookup_eq_none_of_lt fun e he => String.lt_trans hlt (hhead e he)
      have hne : k ≠ k' := fun heq => String.lt_irrefl _ (heq ▸ hlt)
      rw [if_neg hne, hnone, totalEntries_cons]
      simp only [Option.map_none, Option.getD_none]
      omega
    · split
      · simp only [Option.map_some, Option.getD_some, totalEntries_cons]
        omega
      · have hrest := ih htail
        simp only [totalEntries_cons]
        omega

/-- An entry that goes takes its measure away. -/
theorem totalEntries_eraseEntry (f : α → Nat) (k : String) (h : SortedEntries es) :
    totalEntries f (eraseEntry k es) + ((es.lookup k).map f).getD 0 = totalEntries f es := by
  induction es with
  | nil => rfl
  | cons e es ih =>
    obtain ⟨hhead, htail⟩ := List.pairwise_cons.mp h
    obtain ⟨k', v'⟩ := e
    have hrest := ih htail
    rw [lookup_entry_cons]
    by_cases hk : k = k'
    · -- the entries after it have greater names, so all of them stay
      subst hk
      have hnone : es.lookup k = none := lookup_eq_none_of_lt hhead
      have herase : eraseEntry k ((k, v') :: es) = eraseEntry k es := by simp [eraseEntry]
      rw [hnone] at hrest
      rw [if_pos rfl, herase, totalEntries_cons]
      simp only [Option.map_none, Option.getD_none, Option.map_some, Option.getD_some] at hrest ⊢
      omega
    · have herase : eraseEntry k ((k', v') :: es) = (k', v') :: eraseEntry k es := by
        simp [eraseEntry, Ne.symm hk]
      rw [if_neg hk, herase, totalEntries_cons, totalEntries_cons]
      omega

end Entries

namespace Directory

variable {α : Type}

/-- The sum of a measure over all values. -/
def total (f : α → Nat) (d : Directory α) : Nat := totalEntries f d.entries

theorem total_insert (f : α → Nat) (d : Directory α) (k : String) (v : α) :
    (d.insert k v).total f + ((d.find? k).map f).getD 0 = d.total f + f v :=
  totalEntries_insertEntry f v d.sorted

theorem total_erase (f : α → Nat) (d : Directory α) (k : String) :
    (d.erase k).total f + ((d.find? k).map f).getD 0 = d.total f :=
  totalEntries_eraseEntry f k d.sorted

theorem size_eq_total (d : Directory α) : d.size = d.total fun _ => 1 := by
  unfold size total
  induction d.entries with
  | nil => rfl
  | cons e es ih => rw [List.length_cons, ih, totalEntries_cons, Nat.add_comm]

theorem size_insert (d : Directory α) (k : String) (v : α) :
    (d.insert k v).size + (if (d.find? k).isSome then 1 else 0) = d.size + 1 := by
  have h := total_insert (fun _ => 1) d k v
  rw [size_eq_total, size_eq_total]
  cases hfind : d.find? k <;> simpa [hfind] using h

theorem size_erase (d : Directory α) (k : String) :
    (d.erase k).size + (if (d.find? k).isSome then 1 else 0) = d.size := by
  have h := total_erase (fun _ => 1) d k
  rw [size_eq_total, size_eq_total]
  cases hfind : d.find? k <;> simpa [hfind] using h

end Directory

namespace Catalog

variable {c c' : Catalog} {t old : Table} {name : TableName}

/-! ## Tables -/

/-- The table with a name, if there is one. -/
def table? (c : Catalog) (name : TableName) : Option Table := (c.lookupTable name).toOption

theorem table?_eq_bind (c : Catalog) (name : TableName) :
    c.table? name = (c.schema? (c.schemaName name)).bind (·.tables.find? name.name) := by
  rw [table?, lookupTable]
  cases hschema : c.schema? (c.schemaName name) with
  | none => rfl
  | some s =>
    dsimp only [Option.bind_some]
    cases s.tables.find? name.name <;> rfl

theorem table?_eq_some_iff : c.table? name = some t ↔ c.lookupTable name = .ok t := by
  rw [table?]
  cases c.lookupTable name <;> simp [Except.toOption]

/-- What a lookup answers is settled by the table that it finds, and else by whether the schema is
there. -/
theorem lookupTable_eq (c : Catalog) (name : TableName) :
    c.lookupTable name =
      match c.table? name with
      | some t => .ok t
      | none =>
        if (c.schema? (c.schemaName name)).isSome then .error (.unknownTable (c.qualify name))
        else .error (.unknownSchema (c.schemaName name)) := by
  rw [table?_eq_bind, lookupTable]
  cases c.schema? (c.schemaName name) with
  | none => rfl
  | some s =>
    dsimp only [Option.bind_some]
    cases s.tables.find? name.name <;> rfl

/-- Only the full form of a name counts. -/
theorem table?_qualify (c : Catalog) (name : TableName) :
    c.table? (c.qualify name) = c.table? name := rfl

theorem qualify_eq_iff (c : Catalog) {name : TableName} {schema n : String} :
    c.qualify name = .qualified schema n ↔ c.schemaName name = schema ∧ name.name = n := by
  simp [qualify, TableName.qualified]

theorem schemaName_congr (h : c'.defaultSchema = c.defaultSchema) (name : TableName) :
    c'.schemaName name = c.schemaName name := by rw [schemaName, schemaName, h]

/-- What a name means depends on the default schema only. -/
theorem qualify_congr (h : c'.defaultSchema = c.defaultSchema) (name : TableName) :
    c'.qualify name = c.qualify name := by rw [qualify, qualify, schemaName_congr h]

theorem lookupTable_congr (hdefault : c'.defaultSchema = c.defaultSchema)
    (hschema : (c'.schema? (c.schemaName name)).isSome = (c.schema? (c.schemaName name)).isSome)
    (htable : c'.table? name = c.table? name) : c'.lookupTable name = c.lookupTable name := by
  rw [lookupTable_eq, lookupTable_eq, htable, schemaName_congr hdefault, hschema,
    qualify_congr hdefault]

/-- A table is found under the full form of its name only. -/
theorem WellFormed.name_eq (h : c.WellFormed) (hfound : c.table? name = some t) :
    t.name = c.qualify name := (h.lookupTable (table?_eq_some_iff.mp hfound)).1

/-- A catalog one of whose schemas has other tables. -/
def withTables (c : Catalog) (schema : String) (s : Schema) (tables : Directory Table) : Catalog :=
  { c with schemas := c.schemas.insert schema { s with tables := tables } }

section WithTables

variable {schema : String} {s : Schema} (tables : Directory Table)

theorem schema?_withTables (c : Catalog) (schema : String) (s : Schema)
    (tables : Directory Table) (k : String) :
    (c.withTables schema s tables).schema? k =
      if k = schema then some { s with tables := tables } else c.schema? k :=
  Directory.find?_insert ..

theorem isSome_schema?_withTables (hs : c.schema? schema = some s) (k : String) :
    ((c.withTables schema s tables).schema? k).isSome = (c.schema? k).isSome := by
  rw [schema?_withTables]
  split
  · rename_i heq
    rw [heq, hs]
    rfl
  · rfl

theorem table?_withTables (c : Catalog) (schema : String) (s : Schema)
    (tables : Directory Table) (name : TableName) :
    (c.withTables schema s tables).table? name =
      if c.schemaName name = schema then tables.find? name.name else c.table? name := by
  have hname : (c.withTables schema s tables).schemaName name = c.schemaName name := rfl
  rw [table?_eq_bind, table?_eq_bind, hname, schema?_withTables]
  split <;> rfl

theorem tableCount_withTables (hs : c.schema? schema = some s) :
    (c.withTables schema s tables).tableCount + s.tables.size = c.tableCount + tables.size := by
  have h := c.schemas.total_insert (fun s => s.tables.size) schema { s with tables := tables }
  have hfind : c.schemas.find? schema = some s := hs
  rw [hfind] at h
  exact h

end WithTables

theorem insertTable_of_schema? {schema : String} {s : Schema} (hs : c.schema? schema = some s) :
    c.insertTable schema t = c.withTables schema s (s.tables.insert t.name.name t) := by
  rw [insertTable, hs]
  rfl

/-- A table that is put into a schema is found under its name, in the place of what was there. -/
theorem table?_insertTable {schema : String} (hschema : (c.schema? schema).isSome)
    (hname : t.name = .qualified schema t.name.name) (name : TableName) :
    (c.insertTable schema t).table? name =
      if c.qualify name = t.name then some t else c.table? name := by
  obtain ⟨s, hs⟩ := Option.isSome_iff_exists.mp hschema
  rw [insertTable_of_schema? hs, table?_withTables, Directory.find?_insert]
  have hiff : c.qualify name = t.name ↔ c.schemaName name = schema ∧ name.name = t.name.name :=
    hname ▸ c.qualify_eq_iff
  by_cases hplace : c.schemaName name = schema
  · -- the other tables of the schema stay
    rw [if_pos hplace, table?_eq_bind, hplace, hs]
    simp [hiff, hplace]
  · rw [if_neg hplace, if_neg fun h => hplace (hiff.mp h).1]

theorem isSome_schema?_insertTable (c : Catalog) (schema : String) (t : Table) (k : String) :
    ((c.insertTable schema t).schema? k).isSome = (c.schema? k).isSome := by
  rw [insertTable]
  split
  · rename_i s hs
    exact isSome_schema?_withTables _ hs k
  · rfl

/-- A new table is one more. -/
theorem tableCount_insertTable {schema : String} (hschema : (c.schema? schema).isSome)
    (hname : t.name = .qualified schema t.name.name) (hfree : c.table? t.name = none) :
    (c.insertTable schema t).tableCount = c.tableCount + 1 := by
  obtain ⟨s, hs⟩ := Option.isSome_iff_exists.mp hschema
  -- no table of that name is in the schema, so inserting adds one
  have hnone : s.tables.find? t.name.name = none := by
    rw [hname, table?_eq_bind] at hfree
    have hplace : c.schemaName (.qualified schema t.name.name) = schema := rfl
    rw [hplace, hs] at hfree
    exact hfree
  have hcount := tableCount_withTables (s.tables.insert t.name.name t) hs
  have hsize := s.tables.size_insert t.name.name t
  rw [hnone] at hsize
  rw [insertTable_of_schema? hs]
  simp only [Option.isSome_none, Bool.false_eq_true, if_false] at hsize
  omega

/-- A table that is taken away is no longer found, and all others are. -/
theorem table?_removeTable (c : Catalog) (gone name : TableName) :
    (c.removeTable gone).table? name =
      if c.qualify name = c.qualify gone then none else c.table? name := by
  have hiff : c.qualify name = c.qualify gone ↔
      c.schemaName name = c.schemaName gone ∧ name.name = gone.name := c.qualify_eq_iff
  rw [removeTable]
  split
  · rename_i s hs
    refine (table?_withTables c (c.schemaName gone) s (s.tables.erase gone.name) name).trans ?_
    rw [Directory.find?_erase]
    by_cases hplace : c.schemaName name = c.schemaName gone
    · rw [if_pos hplace, table?_eq_bind c name, hplace, hs]
      simp [hiff, hplace]
    · rw [if_neg hplace, if_neg fun h => hplace (hiff.mp h).1]
  · -- a schema that is missing has no tables
    rename_i hnone
    split
    · rename_i heq
      rw [table?_eq_bind, (hiff.mp heq).1, hnone]
      rfl
    · rfl

theorem isSome_schema?_removeTable (c : Catalog) (gone : TableName) (k : String) :
    ((c.removeTable gone).schema? k).isSome = (c.schema? k).isSome := by
  rw [removeTable]
  split
  · rename_i s hs
    exact isSome_schema?_withTables _ hs k
  · rfl

/-- A table that is there is one less when it goes. -/
theorem tableCount_removeTable {gone : TableName} (hfound : (c.table? gone).isSome) :
    (c.removeTable gone).tableCount + 1 = c.tableCount := by
  rw [table?_eq_bind] at hfound
  -- a table is found only in a schema that there is
  cases hs : c.schema? (c.schemaName gone) with
  | none => simp [hs] at hfound
  | some s =>
    have htable : (s.tables.find? gone.name).isSome := by simpa [hs] using hfound
    have hremove : c.removeTable gone =
        c.withTables (c.schemaName gone) s (s.tables.erase gone.name) := by
      rw [removeTable, hs]
      rfl
    have hcount := tableCount_withTables (s.tables.erase gone.name) hs
    have hsize := s.tables.size_erase gone.name
    rw [if_pos htable] at hsize
    rw [hremove]
    omega

theorem qualify_removeTable (c : Catalog) (gone name : TableName) :
    (c.removeTable gone).qualify name = c.qualify name := by
  rw [removeTable]
  split <;> rfl

/-- Of several tables that are taken away none is found any more, and all others are. -/
theorem table?_removeTables (gone : List TableName) (c : Catalog) (name : TableName) :
    (gone.foldl removeTable c).table? name =
      if c.qualify name ∈ gone.map c.qualify then none else c.table? name := by
  induction gone generalizing c with
  | nil => simp
  | cons g gone ih =>
    have hqualify : (c.removeTable g).qualify = c.qualify := funext (qualify_removeTable c g)
    rw [List.foldl_cons, ih, hqualify, table?_removeTable]
    by_cases hhead : c.qualify name = c.qualify g
    · simp [hhead]
    · simp [hhead]

theorem isSome_schema?_removeTables (gone : List TableName) (c : Catalog) (k : String) :
    ((gone.foldl removeTable c).schema? k).isSome = (c.schema? k).isSome := by
  induction gone generalizing c with
  | nil => rfl
  | cons g gone ih => rw [List.foldl_cons, ih, isSome_schema?_removeTable]

/-! ## Renaming -/

/-- The name of a table after a command. -/
def nameAfter (c : Catalog) (name : TableName) : AlterCommand → TableName
  | .renameTable newName => c.renameTarget name newName
  | _ => name

/-- All names that a table has in the course of an ALTER TABLE, the one before it first. -/
def namesDuring (c : Catalog) (name : TableName) : List AlterCommand → List TableName
  | [] => [name]
  | a :: as => name :: c.namesDuring (c.nameAfter name a) as

theorem renameTarget_congr (h : c'.defaultSchema = c.defaultSchema) (name newName : TableName) :
    c'.renameTarget name newName = c.renameTarget name newName := by
  unfold renameTarget
  split
  · exact qualify_congr h newName
  · rfl

theorem nameAfter_congr (h : c'.defaultSchema = c.defaultSchema) (name : TableName)
    (a : AlterCommand) : c'.nameAfter name a = c.nameAfter name a := by
  cases a with
  | renameTable newName => exact renameTarget_congr h name newName
  | _ => rfl

theorem namesDuring_congr (h : c'.defaultSchema = c.defaultSchema) (name : TableName)
    (as : List AlterCommand) : c'.namesDuring name as = c.namesDuring name as := by
  induction as generalizing name with
  | nil => rfl
  | cons a as ih => rw [namesDuring, namesDuring, nameAfter_congr h, ih]

/-- A full name in a schema that is there. -/
structure Placed (c : Catalog) (name : TableName) : Prop where
  schema_isSome : (c.schema? (c.schemaName name)).isSome
  qualify_eq : c.qualify name = name

theorem Placed.eq_qualified (h : c.Placed name) :
    name = .qualified (c.schemaName name) name.name := h.qualify_eq.symm

theorem Placed.schema_eq (h : c.Placed name) : name.schema.getD "" = c.schemaName name :=
  congrArg (fun n : TableName => n.schema.getD "") h.eq_qualified

theorem Placed.name_schema_isSome (h : c.Placed name) : name.schema.isSome :=
  (congrArg (fun n : TableName => n.schema.isSome) h.eq_qualified).trans rfl

/-- A name that a table may be renamed to is its own or free. -/
theorem of_checkTarget {newName : TableName} (hfull : newName.schema.isSome)
    (hrun : c.checkTarget name newName = .ok ()) :
    c.Placed newName ∧ (newName = name ∨ c.table? newName = none) := by
  obtain ⟨schema, hschema⟩ := Option.isSome_iff_exists.mp hfull
  have hplace : c.schemaName newName = schema := by rw [schemaName, hschema]; rfl
  rw [checkTarget, hschema, Option.getD_some] at hrun
  cases hs : c.schema? schema with
  | none => simp [hs] at hrun
  | some s =>
    have hplaced : c.Placed newName := by
      refine ⟨by rw [hplace, hs]; rfl, ?_⟩
      rw [qualify, hplace, TableName.qualified, ← hschema]
    refine ⟨hplaced, ?_⟩
    by_cases hsame : newName = name
    · exact .inl hsame
    · -- the check has found no table of that name
      right
      rw [table?_eq_bind, hplace, hs]
      cases hthere : s.tables.find? newName.name with
      | none => exact hthere
      | some t => simp [hs, hsame, Directory.contains, hthere] at hrun

theorem name_updateColumn {t t' : Table} {column : String} {f : Column → Column}
    (hrun : t.updateColumn column f = .ok t') : t'.name = t.name := by
  rw [Table.updateColumn] at hrun
  split at hrun <;> cases hrun
  rfl

/-- Only a RENAME gives a table another name. -/
theorem alter_name {t t' : Table} (a : AlterCommand) (hrun : c.alter t a = .ok t') :
    t'.name = c.nameAfter t.name a := by
  -- only a RENAME TO gives the table another name
  cases a with
  | addColumn d ifNotExists =>
    rw [alter] at hrun
    split at hrun
    · split at hrun <;> cases hrun
      rfl
    · cases hrun
      rfl
  | dropColumn name ifExists =>
    rw [alter] at hrun
    split at hrun
    · cases hrun
      rfl
    · split at hrun <;> cases hrun
      rfl
  | modifyColumn name d =>
    obtain ⟨⟨⟩, -, hdone⟩ := exists_of_bind_eq_ok hrun
    exact name_updateColumn hdone
  | setNotNull name notNull => exact name_updateColumn hrun
  | setType name type => exact name_updateColumn hrun
  | renameColumn name newName =>
    obtain ⟨⟨⟩, -, hdone⟩ := exists_of_bind_eq_ok hrun
    exact name_updateColumn hdone
  | renameTable newName =>
    obtain ⟨⟨⟩, -, hdone⟩ := exists_of_bind_eq_ok hrun
    cases hdone
    rfl

/-- The new name of a table is in a schema that is there, and no other table has it. -/
theorem alter_placed {t t' : Table} (a : AlterCommand) (hplaced : c.Placed t.name)
    (hrun : c.alter t a = .ok t') :
    c.Placed t'.name ∧ (t'.name = t.name ∨ c.table? t'.name = none) := by
  have hname := alter_name a hrun
  cases a with
  | renameTable newName =>
    obtain ⟨⟨⟩, hcheck, -⟩ := exists_of_bind_eq_ok hrun
    rw [hname]
    exact of_checkTarget (renameTarget_isSome c newName hplaced.name_schema_isSome) hcheck
  | _ =>
    rw [hname]
    exact ⟨hplaced, .inl rfl⟩

/-- The table of an ALTER TABLE ends under one of the names that it has in its course: the first one
or one that is free. -/
theorem alterAll_placed (as : List AlterCommand) {t t' : Table} (hplaced : c.Placed t.name)
    (hrun : c.alterAll t as = .ok t') :
    c.Placed t'.name ∧ t'.name ∈ c.namesDuring t.name as ∧
      (t'.name = t.name ∨ c.table? t'.name = none) := by
  induction as generalizing t with
  | nil =>
    cases hrun
    exact ⟨hplaced, List.mem_singleton_self _, .inl rfl⟩
  | cons a as ih =>
    rw [alterAll] at hrun
    split at hrun
    · rename_i next halter
      obtain ⟨hnext, hnextFree⟩ := alter_placed a hplaced halter
      obtain ⟨hend, hmem, hfree⟩ := ih hnext hrun
      rw [alter_name a halter] at hmem
      refine ⟨hend, List.mem_cons_of_mem _ hmem, ?_⟩
      -- the name of the table is that of the next state, or free in the catalog
      rcases hfree with heq | hfree
      · rw [heq]
        exact hnextFree
      · exact .inr hfree
    · cases hrun

theorem head_mem_namesDuring (c : Catalog) (name : TableName) (as : List AlterCommand) :
    name ∈ c.namesDuring name as := by
  cases as <;> exact List.mem_cons_self

/-! ## Equations -/

theorem apply_createSchema (c : Catalog) (k : String) (ifNotExists : Bool) :
    c.apply (.createSchema k ifNotExists) =
      if (c.schema? k).isSome then
        if ifNotExists then .ok c else .error (.duplicateSchema k)
      else .ok { c with schemas := c.schemas.insert k (.empty k) } := rfl

theorem apply_createTable (c : Catalog) (name : TableName) (ifNotExists : Bool)
    (columns : List ColumnDef) :
    c.apply (.createTable name ifNotExists columns) =
      if (c.schema? (c.schemaName name)).isSome then
        if (c.table? name).isSome then
          if ifNotExists then .ok c else .error (.duplicateTable (c.qualify name))
        else (Table.addColumns ⟨c.qualify name, []⟩ columns).map (c.insertTable (c.schemaName name))
      else .error (.unknownSchema (c.schemaName name)) := by
  rw [apply, createTable, table?_eq_bind]
  cases c.schema? (c.schemaName name) with
  | none => rfl
  | some s =>
    -- the table is looked up in the schema under its bare name
    show (if (s.tables.find? name.name).isSome then _ else _) = _
    rw [Option.bind_some, if_pos Option.isSome_some]
    cases Table.addColumns ⟨c.qualify name, []⟩ columns <;> rfl

/-- IF EXISTS forgives a table that is missing, but not a schema that is. -/
theorem apply_alterTable_missing (hmissing : c.table? name = none) (ifExists : Bool)
    (commands : List AlterCommand) :
    c.apply (.alterTable name ifExists commands) =
      if (c.schema? (c.schemaName name)).isSome then
        if ifExists then .ok c else .error (.unknownTable (c.qualify name))
      else .error (.unknownSchema (c.schemaName name)) := by
  rw [apply, alterTable, lookupTable_eq, hmissing]
  cases (c.schema? (c.schemaName name)).isSome <;> rfl

theorem doomed_cons_found (hfound : c.table? name = some t) (ifExists : Bool)
    (names : List TableName) :
    c.doomed ifExists (name :: names) = (c.doomed ifExists names).map (t.name :: ·) := by
  rw [doomed, table?_eq_some_iff.mp hfound]

theorem doomed_cons_missing (hmissing : c.table? name = none) (names : List TableName) :
    c.doomed true (name :: names) = c.doomed true names := by
  rw [doomed, lookupTable_eq, hmissing]
  cases (c.schema? (c.schemaName name)).isSome <;> rfl

theorem apply_dropTables {ifExists : Bool} {names gone : List TableName}
    (hgone : c.doomed ifExists names = .ok gone) :
    c.apply (.dropTables names ifExists) = .ok (gone.foldl removeTable c) := by
  rw [apply, dropTables, hgone]
  rfl

/-! ## Effects -/

/-- The catalogs that a schema change leads to when it succeeds, with what it has found before. -/
inductive Effect (c : Catalog) : SchemaChange → Catalog → Prop
  /-- IF NOT EXISTS has found the schema. -/
  | schemaThere (k : String) (hthere : (c.schema? k).isSome) : Effect c (.createSchema k true) c
  | createSchema (k : String) (ifNotExists : Bool) (hfree : c.schema? k = none) :
    Effect c (.createSchema k ifNotExists) { c with schemas := c.schemas.insert k (.empty k) }
  /-- IF NOT EXISTS has found the table. -/
  | tableThere (name : TableName) (columns : List ColumnDef) (hthere : (c.table? name).isSome) :
    Effect c (.createTable name true columns) c
  | createTable (name : TableName) (ifNotExists : Bool) (columns : List ColumnDef) (t : Table)
    (hschema : (c.schema? (c.schemaName name)).isSome) (hfree : c.table? name = none)
    (hcolumns : Table.addColumns ⟨c.qualify name, []⟩ columns = .ok t) :
    Effect c (.createTable name ifNotExists columns) (c.insertTable (c.schemaName name) t)
  /-- IF EXISTS has found no table. -/
  | tableMissing (name : TableName) (commands : List AlterCommand)
    (hschema : (c.schema? (c.schemaName name)).isSome) (hmissing : c.table? name = none) :
    Effect c (.alterTable name true commands) c
  | alterTable (name : TableName) (ifExists : Bool) (commands : List AlterCommand) (old t : Table)
    (hold : c.table? name = some old) (halter : c.alterAll old commands = .ok t) :
    Effect c (.alterTable name ifExists commands)
      ((c.removeTable old.name).insertTable (t.name.schema.getD "") t)
  | dropTables (names : List TableName) (ifExists : Bool) (gone : List TableName)
    (hgone : c.doomed ifExists names = .ok gone) :
    Effect c (.dropTables names ifExists) (gone.foldl removeTable c)

theorem isSome_schema?_of_table?_isSome (h : (c.table? name).isSome) :
    (c.schema? (c.schemaName name)).isSome := by
  rw [table?_eq_bind] at h
  cases hs : c.schema? (c.schemaName name) with
  | none => simp [hs] at h
  | some s => rfl

/-- A schema change that succeeds has one of these effects. -/
theorem effect_of_apply (change : SchemaChange) (hrun : c.apply change = .ok c') :
    Effect c change c' := by
  -- one case for each change, and in it one for each way in which the change can succeed
  cases change with
  | createSchema k ifNotExists =>
    rw [apply_createSchema] at hrun
    split at hrun
    · rename_i hthere
      split at hrun <;> cases hrun
      rename_i htolerant
      -- an existing schema is tolerated with IF NOT EXISTS only
      exact htolerant ▸ .schemaThere k hthere
    · rename_i hfree
      cases hrun
      exact .createSchema k ifNotExists (Option.not_isSome_iff_eq_none.mp hfree)
  | createTable name ifNotExists columns =>
    rw [apply_createTable] at hrun
    split at hrun
    · rename_i hschema
      split at hrun
      · rename_i hthere
        split at hrun <;> cases hrun
        rename_i htolerant
        -- an existing table is tolerated with IF NOT EXISTS only
        exact htolerant ▸ .tableThere name columns hthere
      · rename_i hfree
        cases hcolumns : Table.addColumns ⟨c.qualify name, []⟩ columns with
        | error e =>
          rw [hcolumns] at hrun
          cases hrun
        | ok t =>
          rw [hcolumns] at hrun
          cases hrun
          have hnone : c.table? name = none := Option.not_isSome_iff_eq_none.mp hfree
          exact .createTable name ifNotExists columns t hschema hnone hcolumns
    · cases hrun
  | alterTable name ifExists commands =>
    cases hfound : c.table? name with
    | none =>
      rw [apply_alterTable_missing hfound] at hrun
      split at hrun
      · rename_i hschema
        split at hrun <;> cases hrun
        rename_i htolerant
        -- a missing table is tolerated with IF EXISTS only, and only if there is its schema
        exact htolerant ▸ .tableMissing name commands hschema hfound
      · cases hrun
    | some old =>
      rw [apply, alterTable, table?_eq_some_iff.mp hfound] at hrun
      obtain ⟨t, halter, hdone⟩ := exists_of_bind_eq_ok hrun
      cases hdone
      exact .alterTable name ifExists commands old t hfound halter
  | dropTables names ifExists =>
    obtain ⟨gone, hgone, hdone⟩ := exists_of_bind_eq_ok hrun
    cases hdone
    exact .dropTables names ifExists gone hgone

end Catalog

end TypedSql
