import TypedSql.Proofs.Catalog.Frame
import TypedSql.Proofs.Queries.Agreement

/-!
# Named tables

The analysis of a statement depends on the tables that the statement names, and on nothing else of
the catalog. A history that leaves these tables alone leaves the analysis alone.

- **Statements**: the analyses of a statement agree where the lookups of its tables do, whatever the
  locations of its nodes are
- **Lookups**: what a lookup answers after a schema change that does not touch the table
- **Histories**: the same after any statements, some of which may fail
-/

namespace TypedSql

open Canonical

/-! ## Statements -/

namespace Canonical.Node

/-- The table that a statement changes. -/
def targetTable? : Node → Option TableRef
  | .insert i => some i.table
  | .update u => some u.table
  | .delete d => some d.table
  | _ => none

/-- The table that a node of a FROM clause is. -/
def tableRef? : Node → Option TableRef
  | .table t => some t
  | _ => none

/-- The names of the tables that a statement changes or reads from, in whichever of its queries. -/
def tableNames (n : Node) : List TableName :=
  (n.targetTable?.toList ++ n.walk.filterMap tableRef?).map TableRef.tableName

theorem tableName_mem_of_targetTable? {n : Node} {t : TableRef} (h : n.targetTable? = some t) :
    t.tableName ∈ n.tableNames := by
  rw [tableNames, h]
  exact List.mem_map_of_mem (List.mem_append_left _ (List.mem_singleton_self t))

theorem tableName_mem_of_mem_walk {n : Node} {t : TableRef} (h : Node.table t ∈ n.walk) :
    t.tableName ∈ n.tableNames := by
  refine List.mem_map_of_mem (List.mem_append_right _ ?_)
  exact List.mem_filterMap.mpr ⟨.table t, h, rfl⟩

end Canonical.Node

variable {P : TableRef → Prop} {c c' : Catalog} {g : Nat → Nat}

section Parts

variable {s s' : Scope}

theorem analyzeAssignment_agree (h : AgreeOn P c s c' s') (target : Relation) (n : Node)
    (hn : TablesIn P n.walk) :
    analyzeAssignment c' s' target (n.relocate g) = analyzeAssignment c s target n := by
  cases n with
  | target name value location =>
    have hvalue : TablesIn P (walkOption value) := by simpa using hn
    have ih := fun hint => inferOption_agree (g := g) h hint value hvalue.option
    simp only [Node.relocate, analyzeAssignment, ih]
  | _ => rfl

theorem analyzeAssignments_agree (h : AgreeOn P c s c' s') (target : Relation) (ns : List Node)
    (hns : TablesIn P (walkAll ns)) :
    (relocateAll g ns).forM (analyzeAssignment c' s' target) =
      ns.forM (analyzeAssignment c s target) := by
  induction ns with
  | nil => rfl
  | cons n ns ih =>
    obtain ⟨hn, hrest⟩ := by simpa using hns
    show (analyzeAssignment c' s' target (n.relocate g) >>= fun _ => _) = _
    rw [analyzeAssignment_agree h target n hn, ih hrest]
    rfl

theorem columnHints_relocateAll (target : Relation) (ns : List Node) :
    columnHints target (relocateAll g ns) = columnHints target ns := by
  induction ns with
  | nil => rfl
  | cons n ns ih =>
    cases n with
    | target name value location =>
      cases name with
      | none => rfl
      | some name => simp only [relocateAll, Node.relocate, columnHints, ih]
    | _ => rfl

theorem insertHints_relocateAll (target : Relation) (ns : List Node) :
    insertHints target (relocateAll g ns) = insertHints target ns := by
  rw [insertHints, insertHints, isEmpty_relocateAll, columnHints_relocateAll]

theorem targetRelation_agree {t : TableRef}
    (ht : c.lookupTable t.tableName = c'.lookupTable t.tableName) :
    targetRelation c' t = targetRelation c t := by
  rw [targetRelation, targetRelation, ht]

end Parts

/-- Agreement does not depend on the levels that are the same on both sides. -/
theorem AgreeOn.sameScope (h : AgreeOn P c [] c' []) (s : Scope) : AgreeOn P c s c' s := by
  induction s with
  | nil => exact h
  | cons l ls ih => exact (ih.push l).mono fun _ => .inl

theorem analyzeInsert_agree (h : AgreeOn P c [] c' []) (i : Canonical.Insert)
    (ht : c.lookupTable i.table.tableName = c'.lookupTable i.table.tableName)
    (hi : TablesIn P i.walk) : analyzeInsert c' (i.relocate g) = analyzeInsert c i := by
  obtain ⟨table, columns, source, conflictTargets, conflictCondition, returning⟩ := i
  simp only [Insert.walk, tablesIn_append] at hi
  obtain ⟨⟨⟨⟨-, hsource⟩, htargets⟩, hcondition⟩, hreturning⟩ := hi
  -- whether there is a condition does not depend on the locations either
  have hisNone : (relocateOption g conflictCondition).isNone = conflictCondition.isNone := by
    cases conflictCondition <;> rfl
  simp only [Insert.relocate, analyzeInsert, analyzeConflict, targetRelation_agree ht,
    insertHints_relocateAll, isEmpty_relocateAll, hisNone,
    analyzeSelect_agree h _ source hsource.select,
    analyzeAssignments_agree (h.sameScope _) _ conflictTargets htargets,
    inferOption_agree (h.sameScope _) none conflictCondition hcondition.option,
    analyzeTargets_agree (h.sameScope _) rfl [] 0 returning hreturning.all]

theorem analyzeUpdate_agree (h : AgreeOn P c [] c' []) (u : Canonical.Update)
    (ht : c.lookupTable u.table.tableName = c'.lookupTable u.table.tableName)
    (hu : TablesIn P u.walk) : analyzeUpdate c' (u.relocate g) = analyzeUpdate c u := by
  obtain ⟨table, targets, source, joinConditions, condition, returning⟩ := u
  simp only [Update.walk, tablesIn_append] at hu
  obtain ⟨⟨⟨⟨htargets, hsource⟩, hjoins⟩, hcondition⟩, hreturning⟩ := hu
  simp only [Update.relocate, analyzeUpdate, targetRelation_agree ht,
    analyzeSources_agree h source hsource.all,
    inferAll_agree (h.sameScope _) none joinConditions hjoins.all,
    analyzeAssignments_agree (h.sameScope _) _ targets htargets,
    inferOption_agree (h.sameScope _) none condition hcondition.option,
    analyzeTargets_agree (h.sameScope _) rfl [] 0 returning hreturning.all]

theorem analyzeDelete_agree (h : AgreeOn P c [] c' []) (d : Canonical.Delete)
    (ht : c.lookupTable d.table.tableName = c'.lookupTable d.table.tableName)
    (hd : TablesIn P d.walk) : analyzeDelete c' (d.relocate g) = analyzeDelete c d := by
  obtain ⟨table, source, joinConditions, condition, orderBy, limit, returning⟩ := d
  simp only [Delete.walk, tablesIn_append] at hd
  obtain ⟨⟨⟨⟨⟨hsource, hjoins⟩, hcondition⟩, horderBy⟩, hlimit⟩, hreturning⟩ := hd
  simp only [Delete.relocate, analyzeDelete, targetRelation_agree ht,
    analyzeSources_agree h source hsource.all,
    inferAll_agree (h.sameScope _) none joinConditions hjoins.all,
    inferOption_agree (h.sameScope _) none condition hcondition.option,
    inferAll_agree (h.sameScope _) none orderBy horderBy.all,
    inferOption_agree (h.sameScope _) _ limit hlimit.option,
    analyzeTargets_agree (h.sameScope _) rfl [] 0 returning hreturning.all]

/-- The analyses of a statement agree if the catalogs do on the tables that it names, whatever the
locations of its nodes are. -/
theorem analyzeStatement_agree (n : Node)
    (h : ∀ name ∈ n.tableNames, c.lookupTable name = c'.lookupTable name) :
    analyzeStatement c' (n.relocate g) = analyzeStatement c n := by
  have hagree : AgreeOn (fun t => c.lookupTable t.tableName = c'.lookupTable t.tableName)
      c [] c' [] := by
    -- a table found in no scope is looked up in the catalog, and both catalogs find the same
    refine ⟨fun _ _ => rfl, fun t ht => ?_⟩
    simp only [analyzeSource, Scope.findCte?, ht]
  have hwalk : TablesIn (fun t => c.lookupTable t.tableName = c'.lookupTable t.tableName) n.walk :=
    fun t ht => h _ (n.tableName_mem_of_mem_walk ht)
  have htarget (t : TableRef) (ht : n.targetTable? = some t) :
      c.lookupTable t.tableName = c'.lookupTable t.tableName :=
    h _ (n.tableName_mem_of_targetTable? ht)
  -- a statement that changes rows looks up its own table too
  cases n with
  | select q =>
    have hq :
        TablesIn (fun t => c.lookupTable t.tableName = c'.lookupTable t.tableName) q.walk := by
      simpa using hwalk
    simp only [Node.relocate, analyzeStatement, analyzeSelect_agree hagree [] q hq.select]
  | insert i =>
    have hi := by simpa using hwalk
    simp only [Node.relocate, analyzeStatement, analyzeInsert_agree hagree i (htarget _ rfl) hi]
  | update u =>
    have hu := by simpa using hwalk
    simp only [Node.relocate, analyzeStatement, analyzeUpdate_agree hagree u (htarget _ rfl) hu]
  | delete d =>
    have hd := by simpa using hwalk
    simp only [Node.relocate, analyzeStatement, analyzeDelete_agree hagree d (htarget _ rfl) hd]
  | _ => rfl

/-- Locations are of no account to an analysis. -/
theorem analyzeStatement_relocate (c : Catalog) (n : Node) :
    analyzeStatement c (n.relocate g) = analyzeStatement c n :=
  analyzeStatement_agree n fun _ _ => rfl

theorem analyze_eq_of_lookupTable_eq {n : Node}
    (h : ∀ name ∈ n.tableNames, c.lookupTable name = c'.lookupTable name) :
    analyze c n = analyze c' n := by
  have hrelocated : analyzeStatement c' (n.relocate id) = analyzeStatement c n :=
    analyzeStatement_agree n h
  have hsame : analyzeStatement c n = analyzeStatement c' n :=
    hrelocated.symm.trans (analyzeStatement_relocate c' n)
  rw [analyze, analyze, hsame]

/-! ## Lookups -/

namespace Catalog

variable {name : TableName} {m : Node}

/-- A statement leaves the lookup of a name alone: it does not touch the table, and it creates no
schema by whose name the table goes. -/
def SparesName (c : Catalog) (m : Node) (name : TableName) : Prop :=
  c.qualify name ∉ c.touchedBy m ∧
    ∀ k ifNotExists, m = .schemaChange (.createSchema k ifNotExists) → name.schema ≠ some k

theorem SparesName.congr (h : c.SparesName m name) (hdefault : c'.defaultSchema = c.defaultSchema) :
    c'.SparesName m name := by
  refine ⟨?_, h.2⟩
  rw [qualify_congr hdefault, touchedBy_congr hdefault]
  exact h.1

/-- A statement that succeeds leaves the lookups of the names alone that it spares. -/
theorem lookupTable_replay (hc : c.WellFormed) (hrun : c.replay m = .ok c')
    (h : c.SparesName m name) : c'.lookupTable name = c.lookupTable name := by
  cases m with
  | schemaChange change =>
    obtain ⟨htouched, hcreated⟩ := h
    have hdefault : c'.defaultSchema = c.defaultSchema := apply_defaultSchema change hrun
    have hschema : (c'.schema? (c.schemaName name)).isSome =
        (c.schema? (c.schemaName name)).isSome := by
      rw [Bool.eq_iff_iff, isSome_schema?_apply change hrun]
      refine or_iff_left_of_imp ?_
      rintro ⟨ifNotExists, rfl⟩
      -- only the default schema is left to be created, and it is there from the start
      cases hname : name.schema with
      | none =>
        have hplace : c.schemaName name = c.defaultSchema := by rw [schemaName, hname]; rfl
        exact hplace ▸ hc.default_isSome
      | some k =>
        have hplace : c.schemaName name = k := by rw [schemaName, hname]; rfl
        exact absurd (hplace ▸ hname) (hcreated _ _ rfl)
    exact lookupTable_congr hdefault hschema (table?_apply hc change hrun htouched)
  | _ =>
    cases hrun
    rfl

/-! ## Histories -/

/-- The statements among others that change the catalog, each at its place. -/
def changing (c : Catalog) : List Node → List Node
  | [] => []
  | m :: ms => if c.after m = c then c.changing ms else m :: (c.after m).changing ms

/-- A history leaves the lookups of the names alone that its statements spare, those apart that
change nothing. -/
theorem lookupTable_afterAll (hc : c.Reachable) (ms : List Node)
    (h : ∀ m ∈ c.changing ms, c.SparesName m name) :
    (c.afterAll ms).lookupTable name = c.lookupTable name := by
  induction ms generalizing c with
  | nil => rfl
  | cons m ms ih =>
    show ((c.after m).afterAll ms).lookupTable name = c.lookupTable name
    rw [changing] at h
    split at h
    · -- what changes nothing leaves the schema as it is
      rename_i hidle
      rw [hidle]
      exact ih hc h
    · -- what touches no table of this name leaves the look-up as it is, then the rest is done
      obtain ⟨hm, hms⟩ := List.forall_mem_cons.mp h
      have hrest := ih (hc.after m) fun x hx => (hms x hx).congr (after_defaultSchema c m)
      rw [hrest]
      cases hrun : c.replay m with
      | ok next =>
        rw [after_of_ok hrun]
        exact lookupTable_replay hc.wellFormed hrun hm
      | error e => rw [after_of_error hrun]

end Catalog

/-- An analysis depends on the tables that the statement changes or reads from, and on nothing else
of the catalog. So it is the same after a history whose statements neither create, alter, rename nor
drop one of these tables and create no schema by whose name one of them goes; statements without
effect do not count. -/
theorem analyze_depends_on_named_tables (n : Node) :
    (∀ c c' : Catalog, (∀ name ∈ n.tableNames, c.lookupTable name = c'.lookupTable name) →
      analyze c n = analyze c' n) ∧
    ∀ c : Catalog, c.Reachable → ∀ ms : List Node,
      (∀ m ∈ c.changing ms, ∀ name ∈ n.tableNames, c.qualify name ∉ c.touchedBy m ∧
        ∀ k ifNotExists, m = .schemaChange (.createSchema k ifNotExists) → name.schema ≠ some k) →
      analyze (c.afterAll ms) n = analyze c n := by
  refine ⟨fun c c' => analyze_eq_of_lookupTable_eq, fun c hc ms h => ?_⟩
  refine analyze_eq_of_lookupTable_eq fun name hname => ?_
  exact Catalog.lookupTable_afterAll hc ms fun m hm => h m hm name hname

section Example

/-- The statement `INSERT INTO t (a) WITH w AS (SELECT $1) SELECT * FROM w RETURNING a`. -/
def insertNamed : Node :=
  .insert
    { table := ⟨none, "t", none, false⟩
      columns := [.target (some "a") none 0]
      source := { Select.empty with
        ctes := [⟨"w", .select
          { Select.empty with targets := [.target none (some (.param 1 37)) 0] }⟩]
        targets := [.target none (some (.column [.star])) 0]
        source := [.table ⟨none, "w", none, false⟩] }
      conflictTargets := []
      conflictCondition := none
      returning := [.target none (some (.column [.name "a"])) 0] }

/-- The statements `CREATE SCHEMA x`, `CREATE TABLE IF NOT EXISTS t (b int)` and
`ALTER TABLE u RENAME TO archive.t`, of which the second one has no effect. -/
def aroundNamed : List Node :=
  [.schemaChange (.createSchema "x" false),
    .schemaChange (.createTable (.unqualified "t") true [⟨"b", .named "int", false⟩]),
    .schemaChange (.alterTable (.unqualified "u") false [.renameTable (.qualified "archive" "t")])]

theorem analyze_depends_on_named_tables_insert :
    let c := Catalog.twoTables
    let c' := c.afterAll aroundNamed
    c'.tableCount = 2 ∧ analyze c insertNamed = analyze c' insertNamed ∧
      analyze c' insertNamed = .ok
        ⟨[⟨1, none, .opaqueType, false⟩],
          [⟨"a", .named "int", false, some (.qualified "public" "t"), some "a"⟩],
          some (.qualified "public" "t")⟩ := by
  intro c c'
  obtain ⟨hagree, hhistory⟩ := analyze_depends_on_named_tables insertNamed
  have hlookups : ∀ name ∈ insertNamed.tableNames, c.lookupTable name = c'.lookupTable name := by
    decide +kernel
  -- the statement in between changes nothing, so only the first and the last are asked for
  have hspared : ∀ m ∈ c.changing aroundNamed, ∀ name ∈ insertNamed.tableNames,
      c.qualify name ∉ c.touchedBy m ∧ ∀ k ifNotExists,
        m = .schemaChange (.createSchema k ifNotExists) → name.schema ≠ some k := by
    rw [aroundNamed, Catalog.changing, if_neg (by decide +kernel), Catalog.changing,
      if_pos (by decide +kernel), Catalog.changing, if_neg (by decide +kernel), Catalog.changing]
    have htouched : ∀ name ∈ insertNamed.tableNames,
        (c.qualify name ∉ c.touchedBy aroundNamed[0] ∧
          c.qualify name ∉ c.touchedBy aroundNamed[2]) ∧ name.schema = none := by decide +kernel
    intro m hm name hname
    obtain ⟨⟨hfirst, hlast⟩, hschema⟩ := htouched name hname
    simp only [List.mem_cons, List.not_mem_nil, or_false] at hm
    rcases hm with rfl | rfl
    · exact ⟨hfirst, by simp [hschema]⟩
    · exact ⟨hlast, by simp [hschema]⟩
  refine ⟨by decide +kernel, hagree c c' hlookups, ?_⟩
  rw [hhistory c ((Catalog.Reachable.empty "public").afterAll _) aroundNamed hspared]
  decide +kernel

end Example

end TypedSql
