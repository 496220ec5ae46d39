import TypedSql.Proofs.Analysis.Run
import TypedSql.Proofs.Catalog.Sequencing

/-!
# Independent statements

Two statements of which neither changes what the other one looks at may be given in either order:
both orders come to the same catalog, and each statement succeeds or fails as it does in the other
order.

- **What a statement looks at**: which schemas and which tables settle what it does
- **What a statement changes**: schemas and tables after a statement, whether it succeeds or fails
- **Two statements**: independent statements commute
- **Runs**: statements that are independent of each other may be given in any order
-/

namespace TypedSql

open Canonical (AlterCommand ColumnDef Node SchemaChange)

namespace Catalog

variable {c c' : Catalog} {name : TableName} {n m : Node}

/-! ## What a statement looks at -/

/-- A statement creates a schema, unless it is there. -/
def Creates (n : Node) (k : String) : Prop :=
  ∃ ifNotExists, n = .schemaChange (.createSchema k ifNotExists)

/-- A statement mentions a schema: it creates it, or a table that it touches belongs there. -/
def Mentions (c : Catalog) (n : Node) (k : String) : Prop :=
  Creates n k ∨ ∃ name ∈ c.touchedBy n, c.schemaName name = k

/-- In two catalogs the same is found under the names of the tables that a statement touches. -/
def SameTouched (c : Catalog) (n : Node) (r r' : Catalog) : Prop :=
  ∀ name, c.qualify name ∈ c.touchedBy n → r'.table? name = r.table? name

/-- Two catalogs that look the same to a statement: in the schemas that it mentions and in the
tables that it touches. -/
structure SameFor (c c' : Catalog) (n : Node) : Prop where
  defaultSchema : c'.defaultSchema = c.defaultSchema
  schemas : ∀ k, c.Mentions n k → (c'.schema? k).isSome = (c.schema? k).isSome
  tables : c.SameTouched n c c'

theorem SameFor.schema (h : SameFor c c' n) (hname : c.qualify name ∈ c.touchedBy n) :
    (c'.schema? (c.schemaName name)).isSome = (c.schema? (c.schemaName name)).isSome :=
  h.schemas _ (.inr ⟨_, hname, rfl⟩)

/-- Which tables a DROP TABLE takes away is settled by what is found under its names. -/
theorem doomed_congr {names : List TableName}
    (h : ∀ name ∈ names, c'.lookupTable name = c.lookupTable name) (ifExists : Bool) :
    c'.doomed ifExists names = c.doomed ifExists names := by
  induction names with
  | nil => rfl
  | cons name names ih =>
    obtain ⟨hname, hnames⟩ := List.forall_mem_cons.mp h
    rw [doomed, doomed, hname, ih hnames]

/-- What the commands of an ALTER TABLE do is settled by the schemas of the names that the table has
in their course, and by what is found under these names. -/
theorem alterAll_congr (hdefault : c'.defaultSchema = c.defaultSchema) {t : Table}
    (ht : t.WellFormed) {commands : List AlterCommand}
    (hschemas : ∀ name, c.qualify name ∈ c.namesDuring t.name commands →
      (c'.schema? (c.schemaName name)).isSome = (c.schema? (c.schemaName name)).isSome)
    (htables : ∀ name, c.qualify name ∈ c.namesDuring t.name commands →
      c'.table? name = c.table? name) :
    c'.alterAll t commands = c.alterAll t commands := by
  induction commands generalizing t with
  | nil => rfl
  | cons a as ih =>
    have hstep : c'.alter t a = c.alter t a := by
      refine alter_congr fun new hnew => ⟨renameTarget_congr hdefault .., ?_⟩
      subst hnew
      -- the target is the next name of the table
      have hplace := renameTarget_isSome c new ht.schema_isSome
      have htarget : c.qualify (c.renameTarget t.name new) ∈
          c.namesDuring t.name (.renameTable new :: as) := by
        rw [qualify_of_isSome c hplace]
        exact List.mem_cons_of_mem _ (head_mem_namesDuring ..)
      rw [checkTarget_eq _ hplace, checkTarget_eq _ hplace, schemaName_congr hdefault,
        hschemas _ htarget, htables _ htarget]
    rw [alterAll, alterAll, hstep]
    cases halter : c.alter t a with
    | error e => rfl
    | ok next =>
      -- the next form of the table goes on under the names that are left
      rw [namesDuring, ← alter_name a halter] at hschemas htables
      exact ih (alter_keeps a halter ht)
        (fun name hmem => hschemas name (List.mem_cons_of_mem _ hmem))
        fun name hmem => htables name (List.mem_cons_of_mem _ hmem)

section SameFor

variable {ifExists ifNotExists : Bool}

theorem SameFor.createSchema {k : String}
    (h : SameFor c c' (.schemaChange (.createSchema k ifNotExists))) :
    Agree (c.SameTouched (.schemaChange (.createSchema k ifNotExists)))
      (c.apply (.createSchema k ifNotExists)) (c'.apply (.createSchema k ifNotExists)) := by
  rw [apply_createSchema, apply_createSchema, h.schemas k (.inl ⟨ifNotExists, rfl⟩)]
  -- there is no table that it touches
  cases (c.schema? k).isSome with
  | false => exact fun _ hname => nomatch hname
  | true =>
    cases ifNotExists with
    | false => rfl
    | true => exact fun _ hname => nomatch hname

theorem SameFor.createTable {columns : List ColumnDef}
    (h : SameFor c c' (.schemaChange (.createTable name ifNotExists columns))) :
    Agree (c.SameTouched (.schemaChange (.createTable name ifNotExists columns)))
      (c.apply (.createTable name ifNotExists columns))
      (c'.apply (.createTable name ifNotExists columns)) := by
  have hdefault := h.defaultSchema
  have hmem : c.qualify name ∈
      c.touchedBy (.schemaChange (.createTable name ifNotExists columns)) :=
    List.mem_singleton_self _
  have hschema := h.schema hmem
  rw [apply_createTable, apply_createTable, schemaName_congr hdefault, qualify_congr hdefault,
    hschema, h.tables _ hmem]
  split
  · rename_i hthere
    split
    · split
      · exact h.tables
      · rfl
    · cases hcolumns : Table.addColumns ⟨c.qualify name, []⟩ columns with
      | error e => rfl
      | ok t =>
        -- both catalogs now have the new table under its name
        have hname : t.name = c.qualify name :=
          (Table.addColumns_keeps columns hcolumns List.nodup_nil).1
        have hfull : t.name = .qualified (c.schemaName name) t.name.name := by
          rw [hname]
          rfl
        intro touched htouched
        rw [table?_insertTable hthere hfull, table?_insertTable (hschema.trans hthere) hfull,
          qualify_congr hdefault, h.tables _ htouched]
  · rfl

theorem SameFor.alterTable {commands : List AlterCommand} (hc : c.WellFormed) (hc' : c'.WellFormed)
    (h : SameFor c c' (.schemaChange (.alterTable name ifExists commands))) :
    Agree (c.SameTouched (.schemaChange (.alterTable name ifExists commands)))
      (c.apply (.alterTable name ifExists commands))
      (c'.apply (.alterTable name ifExists commands)) := by
  have hdefault := h.defaultSchema
  have hmem : c.qualify name ∈
      c.touchedBy (.schemaChange (.alterTable name ifExists commands)) :=
    head_mem_namesDuring ..
  have htable : c'.table? name = c.table? name := h.tables _ hmem
  cases hfound : c.table? name with
  | none =>
    rw [apply_alterTable_missing hfound, apply_alterTable_missing (htable.trans hfound),
      schemaName_congr hdefault, qualify_congr hdefault, h.schema hmem]
    split
    · split
      · exact h.tables
      · rfl
    · rfl
  | some old =>
    have hname : old.name = c.qualify name := hc.name_eq hfound
    have hmovable := hc.movable hfound
    have hmovable' := hc'.movable (htable.trans hfound)
    have hsame : c'.alterAll old commands = c.alterAll old commands := by
      refine alterAll_congr hdefault hmovable.wellFormed ?_ ?_
      · rw [hname]
        exact fun _ => h.schema
      · rw [hname]
        exact h.tables
    rw [apply_alterTable hfound, apply_alterTable (htable.trans hfound), hsame]
    cases hrun : c.alterAll old commands with
    | error e => rfl
    | ok t =>
      -- in both catalogs the table has left the one place and taken the other
      have ht := movable_alterAll hmovable hrun
      have ht' := movable_alterAll hmovable' (hsame.trans hrun)
      intro touched htouched
      rw [find?_moved hc ht, find?_moved hc' ht', qualify_congr hdefault, h.tables _ htouched]

theorem SameFor.dropTables {names : List TableName}
    (h : SameFor c c' (.schemaChange (.dropTables names ifExists))) :
    Agree (c.SameTouched (.schemaChange (.dropTables names ifExists)))
      (c.apply (.dropTables names ifExists)) (c'.apply (.dropTables names ifExists)) := by
  have hdefault := h.defaultSchema
  -- the same tables are doomed, because all that are named are touched
  have hdoomed : c'.doomed ifExists names = c.doomed ifExists names := by
    refine doomed_congr (fun name hname => ?_) ifExists
    have hmem : c.qualify name ∈ c.touchedBy (.schemaChange (.dropTables names ifExists)) :=
      List.mem_map_of_mem hname
    exact lookupTable_congr hdefault (h.schema hmem) (h.tables _ hmem)
  cases hgone : c.doomed ifExists names with
  | error e =>
    rw [apply, apply, Catalog.dropTables, Catalog.dropTables, hdoomed, hgone]
    rfl
  | ok gone =>
    rw [apply_dropTables hgone, apply_dropTables (hdoomed.trans hgone)]
    -- what a touched table is removed by is the same on both sides
    have hqualify : c'.qualify = c.qualify := funext (qualify_congr hdefault)
    intro touched htouched
    rw [table?_removeTables, table?_removeTables, hqualify, h.tables _ htouched]

end SameFor

/-- To catalogs that look the same to it a statement does the same: it fails with the same error or
leaves the same behind in the tables that it touches. -/
theorem SameFor.replay (h : c.WellFormed) (h' : c'.WellFormed) (hsame : SameFor c c' n) :
    Agree (c.SameTouched n) (c.replay n) (c'.replay n) := by
  cases n with
  | schemaChange change =>
    cases change with
    | createSchema k ifNotExists => exact hsame.createSchema
    | createTable name ifNotExists columns => exact hsame.createTable
    | alterTable name ifExists commands => exact hsame.alterTable h h'
    | dropTables names ifExists => exact hsame.dropTables
  | _ => exact hsame.tables

/-- Whether a statement succeeds, and its error if it does not. -/
def outcome (c : Catalog) (n : Node) : Except CatalogError Unit := (c.replay n).map fun _ => ()

theorem SameFor.outcome (h : c.WellFormed) (h' : c'.WellFormed) (hsame : SameFor c c' n) :
    c'.outcome n = c.outcome n := by
  have hagree := hsame.replay h h'
  rw [Catalog.outcome, Catalog.outcome]
  cases hrun : c.replay n <;> cases hrun' : c'.replay n <;> rw [hrun, hrun'] at hagree
  · exact congrArg Except.error hagree.symm
  · exact hagree.elim
  · exact hagree.elim
  · rfl

theorem SameFor.after (h : c.WellFormed) (h' : c'.WellFormed) (hsame : SameFor c c' n) :
    c.SameTouched n (c.after n) (c'.after n) := by
  have hagree := hsame.replay h h'
  rw [Catalog.after, Catalog.after]
  cases hrun : c.replay n <;> cases hrun' : c'.replay n <;> rw [hrun, hrun'] at hagree
  · -- a statement that fails leaves both catalogs as they were
    exact hsame.tables
  · exact hagree.elim
  · exact hagree.elim
  · exact hagree

/-! ## What a statement changes -/

/-- After a CREATE SCHEMA its schema is there, whether the statement succeeds or fails, and no other
statement changes which schemas are there. -/
theorem isSome_schema?_after (c : Catalog) (n : Node) (k : String) :
    ((c.after n).schema? k).isSome ↔ (c.schema? k).isSome ∨ Creates n k := by
  cases n with
  | schemaChange change =>
    cases hrun : c.replay (.schemaChange change) with
    | ok next =>
      rw [after_of_ok hrun, isSome_schema?_apply change hrun]
      simp [Creates]
    | error e =>
      rw [after_of_error hrun]
      refine (or_iff_left_of_imp ?_).symm
      rintro ⟨ifNotExists, ⟨⟩⟩
      -- it has failed because the schema is there
      rw [replay, apply_createSchema] at hrun
      split at hrun
      · assumption
      · cases hrun
  | _ => simp [after, replay, Creates]

/-- A statement leaves every table alone that it does not touch, whether it succeeds or fails. -/
theorem table?_after (h : c.WellFormed) (hname : c.qualify name ∉ c.touchedBy n) :
    (c.after n).table? name = c.table? name := by
  cases n with
  | schemaChange change =>
    cases hrun : c.replay (.schemaChange change) with
    | ok next =>
      rw [after_of_ok hrun]
      exact table?_apply h change hrun hname
    | error e => rw [after_of_error hrun]
  | _ => rfl

/-! ## Two statements -/

/-- Neither of two statements changes what the other one looks at: they touch no table in common,
and neither creates a schema that the other one mentions. The default schema does not count, since
it is always there. -/
structure Independent (c : Catalog) (n m : Node) : Prop where
  touched : ∀ name ∈ c.touchedBy n, name ∉ c.touchedBy m
  created : ∀ k, k ≠ c.defaultSchema → Creates n k → ¬ c.Mentions m k
  created' : ∀ k, k ≠ c.defaultSchema → Creates m k → ¬ c.Mentions n k

namespace Independent

theorem symm (h : c.Independent n m) : c.Independent m n :=
  ⟨fun name hm hn => h.touched name hn hm, h.created', h.created⟩

theorem congr (h : c.Independent n m) (hdefault : c'.defaultSchema = c.defaultSchema) :
    c'.Independent n m := by
  have hmentions (n : Node) (k : String) : c'.Mentions n k ↔ c.Mentions n k := by
    simp only [Mentions, touchedBy_congr hdefault, schemaName_congr hdefault]
  constructor
  · rw [touchedBy_congr hdefault, touchedBy_congr hdefault]
    exact h.touched
  · rw [hdefault]
    exact fun k hk hn hm => h.created k hk hn ((hmentions m k).mp hm)
  · rw [hdefault]
    exact fun k hk hm hn => h.created' k hk hm ((hmentions n k).mp hn)

/-- To a statement the catalog looks the same before and after one that is independent of it. -/
theorem sameFor (hc : c.WellFormed) (h : c.Independent n m) : SameFor c (c.after n) m where
  defaultSchema := after_defaultSchema c n
  schemas := by
    intro k hmentions
    rw [Bool.eq_iff_iff, isSome_schema?_after]
    refine or_iff_left_of_imp fun hcreates => ?_
    by_cases hk : k = c.defaultSchema
    · exact hk ▸ hc.default_isSome
    · exact absurd hmentions (h.created k hk hcreates)
  tables := fun _ hm => table?_after hc fun hn => h.touched _ hn hm

variable (hc : c.Reachable) (h : c.Independent n m)
include hc h

theorem outcome_after : (c.after n).outcome m = c.outcome m :=
  (h.sameFor hc.wellFormed).outcome hc.wellFormed (hc.after n).wellFormed

/-- In both orders, what one of the statements leaves behind stays as it is. -/
theorem table?_after_comm (hname : c.qualify name ∈ c.touchedBy n) :
    ((c.after n).after m).table? name = ((c.after m).after n).table? name := by
  have hdefault := after_defaultSchema c n
  have hother : (c.after n).qualify name ∉ (c.after n).touchedBy m := by
    rw [qualify_congr hdefault, touchedBy_congr hdefault]
    exact h.touched _ hname
  calc ((c.after n).after m).table? name
      = (c.after n).table? name := table?_after (hc.after n).wellFormed hother
    _ = ((c.after m).after n).table? name :=
      ((h.symm.sameFor hc.wellFormed).after hc.wellFormed (hc.after m).wellFormed name hname).symm

theorem after_comm : (c.after n).after m = (c.after m).after n := by
  refine ((hc.after n).after m).wellFormed.ext ((hc.after m).after n).wellFormed ?_ (fun k => ?_)
    fun name => ?_
  · simp only [after_defaultSchema]
  · rw [Bool.eq_iff_iff]
    simp only [isSome_schema?_after]
    exact or_right_comm
  · by_cases hn : c.qualify name ∈ c.touchedBy n
    · exact h.table?_after_comm hc hn
    · by_cases hm : c.qualify name ∈ c.touchedBy m
      · exact (h.symm.table?_after_comm hc hm).symm
      · -- neither statement touches the table
        have huntouched {n m : Node} (hn : c.qualify name ∉ c.touchedBy n)
            (hm : c.qualify name ∉ c.touchedBy m) :
            ((c.after n).after m).table? name = c.table? name := by
          have hdefault := after_defaultSchema c n
          rw [table?_after (hc.after n).wellFormed, table?_after hc.wellFormed hn]
          rwa [qualify_congr hdefault, touchedBy_congr hdefault]
        rw [huntouched hn hm, huntouched hm hn]

end Independent

/-- **Independent statements commute.** Of two statements that touch no table in common, and neither
of which creates a schema that the other one mentions, both orders lead to the same catalog, and in
both orders each of them succeeds or fails with the same error. -/
theorem commute_of_independent (hc : c.Reachable) (h : c.Independent n m) :
    (c.after n).after m = (c.after m).after n ∧ (c.after m).outcome n = c.outcome n ∧
      (c.after n).outcome m = c.outcome m :=
  ⟨h.after_comm hc, h.symm.outcome_after hc, h.outcome_after hc⟩

/-- The statement `DROP TABLE u, nosuch.t`. -/
def dropOthers : Node :=
  .schemaChange (.dropTables [.unqualified "u", .qualified "nosuch" "t"] false)

/-- The statement `CREATE SCHEMA spare`. -/
def createSpare : Node := .schemaChange (.createSchema "spare" false)

/-- A RENAME to `archive.u` has nothing to do with a DROP of `u`, which fails before and after it
for want of another schema. -/
theorem commute_of_independent_archiveTable :
    twoTables.Reachable ∧ twoTables.Independent archiveTable dropOthers ∧
      (twoTables.after dropOthers).outcome archiveTable = .ok () ∧
      (twoTables.after archiveTable).outcome dropOthers = .error (.unknownSchema "nosuch") ∧
      twoTables.Independent createSpare archiveTable ∧
      (twoTables.after createSpare).after archiveTable =
        (twoTables.after archiveTable).after createSpare := by
  have hreachable : twoTables.Reachable := (Reachable.empty "public").afterAll _
  have hdrop : twoTables.Independent archiveTable dropOthers := by
    -- neither of the two creates a schema
    refine ⟨by decide +kernel, ?_, ?_⟩
    · rintro k - ⟨_, ⟨⟩⟩
    · rintro k - ⟨_, ⟨⟩⟩
  have hcreate : twoTables.Independent createSpare archiveTable := by
    refine ⟨by decide +kernel, ?_, ?_⟩
    · -- the schema that is created is named by no table of the other statement
      rintro k - ⟨_, ⟨⟩⟩ (⟨_, ⟨⟩⟩ | ⟨name, hname, hplace⟩)
      revert name
      decide +kernel
    · rintro k - ⟨_, ⟨⟩⟩
  obtain ⟨-, hfirst, hsecond⟩ := commute_of_independent hreachable hdrop
  obtain ⟨hcomm, -⟩ := commute_of_independent hreachable hcreate
  exact ⟨hreachable, hdrop, hfirst.trans rfl, hsecond.trans rfl, hcreate, hcomm⟩

/-! ## Runs -/

/-- A statement does not notice any statements before it that are independent of it. -/
theorem outcome_afterAll {ns : List Node} (hc : c.Reachable) (h : ∀ m ∈ ns, c.Independent m n) :
    (c.afterAll ns).outcome n = c.outcome n := by
  induction ns generalizing c with
  | nil => rfl
  | cons m ns ih =>
    obtain ⟨hm, hns⟩ := List.forall_mem_cons.mp h
    have hrest := ih (hc.after m) fun x hx => (hns x hx).congr (after_defaultSchema c m)
    exact hrest.trans (hm.outcome_after hc)

/-- Statements that are independent of each other lead to the same catalog in any order. -/
theorem afterAll_perm {ns ms : List Node} (hc : c.Reachable) (hperm : ns.Perm ms)
    (h : ns.Pairwise c.Independent) : c.afterAll ns = c.afterAll ms := by
  -- neighbours commute, and a permutation is a run of swaps of neighbours
  induction hperm generalizing c with
  | nil => rfl
  | cons n _ ih =>
    obtain ⟨-, hns⟩ := List.pairwise_cons.mp h
    -- independence speaks of names, which mean the same after the statement
    exact ih (hc.after n) (hns.imp fun h => h.congr (after_defaultSchema c n))
  | swap n m ns =>
    obtain ⟨hm, -⟩ := List.pairwise_cons.mp h
    have hcomm := (hm n List.mem_cons_self).after_comm hc
    exact congrArg (Catalog.afterAll · ns) hcomm
  | trans hfirst _ ih ih' =>
    -- independence is symmetric, so the middle list is independent pair by pair as well
    have hmiddle := (hfirst.pairwise_iff Independent.symm).mp h
    exact (ih hc h).trans (ih' hc hmiddle)

end Catalog

end TypedSql
