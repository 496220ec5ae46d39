import TypedSql.Proofs.Catalog.Sequencing

/-!
# Schema changes that undo each other

A migration comes with a second one that takes it back. What is shown here is that taking it back
leaves nothing behind: the catalog is the one from before, with all its tables, and with the columns
of these in their old order.

- **Columns**: a column that is added and dropped, or renamed there and back
- **Tables**: a table that is made and dropped, and one that is altered there and back
- **Migrations**: the pairs of statements, and migrations of several steps
-/

namespace TypedSql

open Canonical (AlterCommand ColumnDef SchemaChange)

/-! ## Columns -/

/-- A column under another name. -/
def Column.renamed (newName : String) (c : Column) : Column := { c with name := newName }

namespace Table

variable {t : Table} {name newName : String} {cs : List Column}

/-- A column that is renamed is there under its new name. -/
theorem newName_mem_changeColumn (h : name ∈ cs.map (·.name)) :
    newName ∈ (changeColumn name (.renamed newName) cs).map (·.name) := by
  induction cs with
  | nil => cases h
  | cons c cs ih =>
    rw [changeColumn]
    split
    · exact List.mem_cons_self
    · rename_i hc
      rcases List.mem_cons.mp h with heq | hcs
      · exact absurd heq.symm hc
      · exact List.mem_cons_of_mem _ (ih hcs)

/-- A column that is renamed is no longer there under its old name, since no other column has it. -/
theorem name_not_mem_changeColumn (hne : newName ≠ name) (h : (cs.map (·.name)).Nodup) :
    name ∉ (changeColumn name (.renamed newName) cs).map (·.name) := by
  induction cs with
  | nil => exact List.not_mem_nil
  | cons c cs ih =>
    obtain ⟨hc, hcs⟩ := List.nodup_cons.mp h
    rw [changeColumn]
    split
    · rename_i hname
      exact List.not_mem_cons_of_ne_of_not_mem hne.symm (hname ▸ hc)
    · rename_i hname
      exact List.not_mem_cons_of_ne_of_not_mem (Ne.symm hname) (ih hcs)

/-- A column that is renamed to a name that is free, and back, is as it was, and so are all
others. -/
theorem changeColumn_changeColumn (h : newName ∉ cs.map (·.name)) :
    changeColumn newName (.renamed name) (changeColumn name (.renamed newName) cs) = cs := by
  induction cs with
  | nil => rfl
  | cons c cs ih =>
    have hne : c.name ≠ newName := fun heq => h (heq ▸ List.mem_cons_self)
    rw [changeColumn]
    split
    · rename_i hname
      subst hname
      rw [changeColumn]
      exact if_pos rfl
    · -- the name that was free is not that of a column before the one that changes
      rw [changeColumn, if_neg hne, ih fun hmem => h (List.mem_cons_of_mem _ hmem)]

/-- Columns of a table definition whose names differ are all added, in their order. -/
theorem addColumns_eq (t : Table) (ds : List ColumnDef)
    (h : (t.columnNames ++ ds.map (·.name)).Nodup) :
    t.addColumns ds = .ok { t with columns := t.columns ++ ds.map .ofDef } := by
  induction ds generalizing t with
  | nil => rw [addColumns, List.map_nil, List.append_nil]
  | cons d ds ih =>
    have hnew : ¬ t.hasColumn d.name = true := by
      rw [hasColumn_iff_mem]
      exact fun hmem => (List.nodup_append.mp h).2.2 _ hmem _ List.mem_cons_self rfl
    rw [addColumns, if_neg hnew, ih]
    · rw [List.append_assoc]
      rfl
    · -- the column that is added now counts among those that are there
      show ((t.columns ++ [Column.ofDef d]).map (·.name) ++ ds.map (·.name)).Nodup
      rw [List.map_append, List.append_assoc]
      exact h

end Table

namespace Catalog

variable {c : Catalog} {name : TableName} {t old : Table}

theorem alter_addColumn (c : Catalog) {d : ColumnDef} (h : ¬ t.hasColumn d.name = true)
    (ifNotExists : Bool) :
    c.alter t (.addColumn d ifNotExists) = .ok { t with columns := t.columns ++ [.ofDef d] } := by
  rw [alter, if_neg h]

/-- The column that comes last and that no other one has the name of is the one that goes. -/
theorem alter_dropColumn_last (c : Catalog) {d : ColumnDef} (h : ¬ t.hasColumn d.name = true)
    (ifExists : Bool) :
    c.alter { t with columns := t.columns ++ [.ofDef d] } (.dropColumn d.name ifExists) =
      .ok t := by
  -- the new column is there, and no column before it has its name
  have hthere : Table.hasColumn { t with columns := t.columns ++ [.ofDef d] } d.name = true := by
    rw [Table.hasColumn_iff_mem]
    exact List.mem_map_of_mem (List.mem_append_right _ List.mem_cons_self)
  have hothers : ∀ col ∈ t.columns, ¬ decide (col.name = d.name) = true := by
    intro col hcol hname
    refine h (Table.hasColumn_iff_mem.mpr ?_)
    exact List.mem_map.mpr ⟨col, hcol, of_decide_eq_true hname⟩
  have hlast : [Column.ofDef d].eraseP (·.name = d.name) = [] :=
    List.eraseP_cons_of_pos (decide_eq_true rfl)
  rw [alter, if_pos hthere, List.eraseP_append_right _ hothers, hlast, List.append_nil]

section RenameColumn

variable {column newColumn : String} (hthere : t.hasColumn column = true)
  (hfree : ¬ t.hasColumn newColumn = true)
include hthere hfree

theorem alter_renameColumn (c : Catalog) :
    c.alter t (.renameColumn column newColumn) =
      .ok { t with columns := Table.changeColumn column (.renamed newColumn) t.columns } := by
  have hcheck : t.checkRename column newColumn = .ok () := by
    rw [Table.checkRename, if_neg fun h => hfree h.2]
  rw [alter, hcheck]
  show t.updateColumn column (.renamed newColumn) = _
  rw [Table.updateColumn, if_pos hthere]

/-- A column that has been renamed to a name that was free can be renamed back. -/
theorem alter_renameColumn_back (c : Catalog) (hnodup : t.columnNames.Nodup) :
    c.alter { t with columns := Table.changeColumn column (.renamed newColumn) t.columns }
      (.renameColumn newColumn column) = .ok t := by
  have hne : newColumn ≠ column := by
    rintro rfl
    exact hfree hthere
  rw [Table.hasColumn_iff_mem] at hthere hfree
  rw [alter_renameColumn, Table.changeColumn_changeColumn hfree]
  · exact Table.hasColumn_iff_mem.mpr (Table.newName_mem_changeColumn hthere)
  · rw [Table.hasColumn_iff_mem]
    exact Table.name_not_mem_changeColumn hne hnodup

end RenameColumn

/-! ## Tables -/

/-- Two statements of which the second takes back what the first one does. Both succeed, and the
catalog after them is the one from before. -/
def Undoes (c : Catalog) (up down : SchemaChange) : Prop :=
  ∃ c', c.apply up = .ok c' ∧ c'.apply down = .ok c

/-- A table that is new can be dropped again. -/
theorem undoes_createTable (h : c.WellFormed) (hfree : c.table? name = none)
    (hschema : (c.schema? (c.schemaName name)).isSome) {columns : List ColumnDef}
    (hcolumns : (columns.map (·.name)).Nodup) (ifNotExists ifExists : Bool) :
    c.Undoes (.createTable name ifNotExists columns) (.dropTables [name] ifExists) := by
  obtain ⟨t, hadd⟩ : ∃ t, Table.addColumns ⟨c.qualify name, []⟩ columns = .ok t :=
    ⟨_, Table.addColumns_eq _ _ hcolumns⟩
  have hname : t.name = c.qualify name := (Table.addColumns_keeps columns hadd List.nodup_nil).1
  have hup : c.apply (.createTable name ifNotExists columns) =
      .ok (c.insertTable (c.schemaName name) t) := by
    rw [apply_createTable, if_pos hschema, if_neg (by simp [hfree]), hadd]
    rfl
  have htable (x : TableName) : (c.insertTable (c.schemaName name) t).table? x =
      if c.qualify x = c.qualify name then some t else c.table? x := by
    rw [table?_insertTable hschema (by rw [hname]; rfl), hname]
  have hgone : (c.insertTable (c.schemaName name) t).doomed ifExists [name] = .ok [t.name] := by
    rw [doomed_cons_found ((htable name).trans (if_pos rfl))]
    rfl
  have hdown := apply_dropTables hgone
  refine ⟨_, hup, hdown.trans (congrArg Except.ok ?_)⟩
  have hdefault : (c.insertTable (c.schemaName name) t).defaultSchema = c.defaultSchema :=
    insertTable_defaultSchema ..
  refine (apply_keeps _ hdown (apply_keeps _ hup h)).ext h ?_ (fun k => ?_) fun x => ?_
  · rw [removeTables_defaultSchema, hdefault]
  · rw [isSome_schema?_removeTables, isSome_schema?_insertTable]
  · have hplace : c.qualify t.name = c.qualify name := (congrArg c.qualify hname).trans rfl
    rw [List.foldl_cons, List.foldl_nil, table?_removeTable, htable, qualify_congr hdefault,
      qualify_congr hdefault, hplace]
    by_cases hx : c.qualify x = c.qualify name
    · -- the place of the new table was free
      rw [if_pos hx, ← table?_qualify, hx, table?_qualify, hfree]
    · rw [if_neg hx, if_neg hx]

section Alter

variable {newName : TableName} {up down : AlterCommand} {s s' n n' : String}

/-- A table that a command changes, and another one changes back in the catalog that the first one
leads to, is where it was. -/
theorem undoes_alterTable (h : c.WellFormed) (hfound : c.table? name = some old)
    (hup : c.alter old up = .ok t) (hnew : c.qualify newName = t.name)
    (hdown : (c.moved old t).alter t down = .ok old) (ifExists ifExists' : Bool) :
    c.Undoes (.alterTable name ifExists [up]) (.alterTable newName ifExists' [down]) := by
  have hold := h.movable hfound
  have ht := movable_alter hold hup
  -- the table is found under the name that the catalog gives it after the first change
  have hfound' : (c.moved old t).table? newName = some t := by
    rw [find?_moved h ht, if_pos hnew]
  refine ⟨c.moved old t, ?_, ?_⟩
  · rw [apply_alterTable hfound, alterAll_singleton, hup]
    rfl
  · -- what is left is to move the table there and back
    rw [apply_alterTable hfound', alterAll_singleton, hdown]
    show Except.ok ((c.moved old t).moved t old) = .ok c
    rw [moved_moved h ht hold, moved_self h hold]

theorem alter_renameTable_free (t : Table) (hschema : (c.schema? s).isSome)
    (hfree : c.table? (.qualified s n) = none) :
    c.alter t (.renameTable (.qualified s n)) = .ok { t with name := .qualified s n } := by
  have htarget : c.renameTarget t.name (.qualified s n) = .qualified s n := rfl
  have hplace : c.schemaName (.qualified s n) = s := rfl
  rw [alter, htarget, checkTarget_eq c rfl, hplace, if_pos hschema, if_neg (by simp [hfree])]
  rfl

/-- A table that is renamed to a name that is free can be renamed back. -/
theorem undoes_renameTable (h : c.WellFormed) (hfound : (c.table? (.qualified s n)).isSome)
    (hschema : (c.schema? s').isSome) (hfree : c.table? (.qualified s' n') = none)
    (ifExists ifExists' : Bool) :
    c.Undoes (.alterTable (.qualified s n) ifExists [.renameTable (.qualified s' n')])
      (.alterTable (.qualified s' n') ifExists' [.renameTable (.qualified s n)]) := by
  have hschema' : (c.schema? s).isSome := isSome_schema?_of_table?_isSome hfound
  obtain ⟨old, hold⟩ := Option.isSome_iff_exists.mp hfound
  have hname : old.name = .qualified s n := h.name_eq hold
  have hne : TableName.qualified s n ≠ .qualified s' n' := by
    intro heq
    rw [heq, hfree] at hold
    cases hold
  have hup := alter_renameTable_free old hschema hfree
  refine undoes_alterTable h hold hup rfl ?_ ifExists ifExists'
  -- the old place is free again, because the table has left it
  have hmoved := movable_alter (h.movable hold) hup
  have hleft : (c.moved old { old with name := .qualified s' n' }).table? (.qualified s n) =
      none := by
    have hplace : c.qualify (.qualified s n) = .qualified s n := rfl
    rw [find?_moved h hmoved, hplace, if_neg hne, if_pos hname.symm]
  rw [alter_renameTable_free _ (by rwa [isSome_schema?_moved]) hleft, ← hname]

end Alter

/-! ## Migrations -/

/-- **A second migration takes the first one back.** One after the other, each of these pairs of
statements succeeds and leads back to the catalog from before, whatever their IF EXISTS and IF NOT
EXISTS phrases: making a table and dropping it, adding a column and dropping it, renaming a column
there and back, and renaming a table there and back, within one schema or between two. What is made
or renamed to has to be free, and what is dropped or renamed has to be there. -/
theorem migrations_undo (hc : c.Reachable) :
    (∀ name columns ifNotExists ifExists, c.table? name = none →
      (c.schema? (c.schemaName name)).isSome → (columns.map ColumnDef.name).Nodup →
      c.Undoes (.createTable name ifNotExists columns) (.dropTables [name] ifExists)) ∧
    (∀ name t, c.table? name = some t →
      (∀ d, ¬ t.hasColumn d.name = true → ∀ ifExists ifExists' ifNotExists ifExistsColumn,
        c.Undoes (.alterTable name ifExists [.addColumn d ifNotExists])
          (.alterTable name ifExists' [.dropColumn d.name ifExistsColumn])) ∧
      ∀ column newColumn, t.hasColumn column = true → ¬ t.hasColumn newColumn = true →
        ∀ ifExists ifExists',
        c.Undoes (.alterTable name ifExists [.renameColumn column newColumn])
          (.alterTable name ifExists' [.renameColumn newColumn column])) ∧
    ∀ s n s' n', (c.table? (.qualified s n)).isSome → (c.schema? s').isSome →
      c.table? (.qualified s' n') = none → ∀ ifExists ifExists',
      c.Undoes (.alterTable (.qualified s n) ifExists [.renameTable (.qualified s' n')])
        (.alterTable (.qualified s' n') ifExists' [.renameTable (.qualified s n)]) := by
  have h := hc.wellFormed
  refine ⟨fun name columns ifNotExists ifExists hfree hschema hcolumns => ?create,
    fun name t hfound => ⟨fun d hnew ifExists ifExists' ifNotExists ifExistsColumn => ?add,
      fun column newColumn hthere hfree ifExists ifExists' => ?renameColumn⟩,
    fun s n s' n' hfound hschema hfree => ?renameTable⟩
  case create => exact undoes_createTable h hfree hschema hcolumns ifNotExists ifExists
  case add =>
    -- a found table is stored under the name that finds it
    have hname : c.qualify name = t.name := (h.name_eq hfound).symm
    exact undoes_alterTable h hfound (alter_addColumn c hnew ifNotExists) hname
      (alter_dropColumn_last _ hnew ifExistsColumn) ifExists ifExists'
  case renameColumn =>
    have hname : c.qualify name = t.name := (h.name_eq hfound).symm
    -- renaming back hits the right column, since no two columns have one name
    have hnodup := (h.lookupTable (table?_eq_some_iff.mp hfound)).2
    exact undoes_alterTable h hfound (alter_renameColumn hthere hfree c) hname
      (alter_renameColumn_back hthere hfree _ hnodup) ifExists ifExists'
  case renameTable => exact undoes_renameTable h hfound hschema hfree

/-- A table `u` can be made in `archive`, where there is none, and the one in the default schema can
move there, since the two would not be the same. -/
theorem migrations_undo_twoTables :
    twoTables.Undoes
      (.createTable (.qualified "archive" "u") false
        [⟨"a", .named "int", false⟩, ⟨"b", .named "text", true⟩])
      (.dropTables [.qualified "archive" "u"] false) ∧
    twoTables.Undoes
      (.alterTable (.unqualified "t") false [.addColumn ⟨"b", .named "text", true⟩ false])
      (.alterTable (.unqualified "t") false [.dropColumn "b" false]) ∧
    twoTables.Undoes (.alterTable (.unqualified "t") false [.renameColumn "a" "b"])
      (.alterTable (.unqualified "t") false [.renameColumn "b" "a"]) ∧
    twoTables.Undoes
      (.alterTable (.qualified "public" "u") false [.renameTable (.qualified "archive" "u")])
      (.alterTable (.qualified "archive" "u") false [.renameTable (.qualified "public" "u")]) := by
  have hreachable : twoTables.Reachable := (Reachable.empty "public").afterAll _
  obtain ⟨hcreate, hcolumns, hrename⟩ := migrations_undo hreachable
  have ht : twoTables.table? (.unqualified "t") =
      some ⟨.qualified "public" "t", [⟨"a", .named "int", false⟩]⟩ := rfl
  obtain ⟨hadd, hrenameColumn⟩ := hcolumns _ _ ht
  refine ⟨?_, ?_, ?_, ?_⟩
  · apply hcreate
    · decide +kernel
    · decide +kernel
    · decide
  · apply hadd ⟨"b", .named "text", true⟩
    decide
  · apply hrenameColumn
    · decide
    · decide
  · apply hrename
    · decide +kernel
    · decide +kernel
    · decide +kernel

/-- Steps, each with the statement that takes it back in the catalog to which the steps before it
lead. -/
def Undoable (c : Catalog) : List (SchemaChange × SchemaChange) → Prop
  | [] => True
  | (up, down) :: steps => ∃ c', c.apply up = .ok c' ∧ c'.apply down = .ok c ∧ c'.Undoable steps

/-- Steps that can be taken back one by one can be taken back all together, the last one first. -/
theorem Undoable.undo_all {steps : List (SchemaChange × SchemaChange)} (h : c.Undoable steps) :
    ∃ c', (steps.map (·.1)).foldlM apply c = .ok c' ∧
      (steps.map (·.2)).reverse.foldlM apply c' = .ok c := by
  induction steps generalizing c with
  | nil => exact ⟨c, rfl, rfl⟩
  | cons step steps ih =>
    obtain ⟨next, hup, hdown, hsteps⟩ := h
    obtain ⟨c', hups, hdowns⟩ := ih hsteps
    refine ⟨c', ?_, ?_⟩
    · rw [List.map_cons, List.foldlM_cons, hup]
      exact hups
    · -- the step that comes first is the last to be taken back
      rw [List.map_cons, List.reverse_cons, List.foldlM_append, hdowns]
      show [step.2].foldlM apply next = .ok c
      rw [List.foldlM_cons, hdown]
      rfl

end Catalog

end TypedSql
