import TypedSql.Proofs.Analysis.Outcomes
import TypedSql.Proofs.Catalog.Frame

/-!
# Star expansion

A star stands for the columns of all items of a FROM clause. No item sees the others, so each of
them has the columns that it has alone, and under its name it can be picked out. A query in a FROM
clause that nothing else is asked of has the analysis of the query itself.

- **Star queries**: the columns of a query that selects nothing but a star
- **Items**: what the items of a FROM clause come to, one by one and together
- **Names**: which item has a name
- **Expansion**: what a star stands for
-/

namespace TypedSql

open Canonical

/-! ## Star queries -/

/-- The query that selects a star from the items of a FROM clause: all columns, or those of the item
that a name qualifies the star with. -/
def selectStar (ctes : List NamedQuery) (qualifier : Option String) (items : List Node) : Select :=
  { Select.empty with
    ctes := ctes
    targets := [.target none (some (.column ((qualifier.map Node.name).toList ++ [.star]))) 0]
    source := items }

/-- The columns of a star query in a scope. -/
def starColumns (c : Catalog) (s : Scope) (ctes : List NamedQuery) (qualifier : Option String)
    (items : List Node) : Except AnalysisError (List ResultColumn) :=
  answerFrom [] (analyzeSelect c s [] (selectStar ctes qualifier items))

variable {c : Catalog} {s : Scope} {ctes : List NamedQuery} {items : List Node}

/-- Behind its FROM clause a star query has nothing but the star, which binds nothing. -/
theorem analyzeClauses_selectStar (c : Catalog) (inner : Scope) (qualifier : Option String) :
    ComesTo (analyzeClauses c inner [] (selectStar ctes qualifier items))
      ((inner.expandStar qualifier.toList).map fun columns => (columns, [])) := by
  have hstar : (Node.column ((qualifier.map Node.name).toList ++ [.star])).starQualifiers? =
      some qualifier.toList := by
    cases qualifier <;> rfl
  simp only [analyzeClauses, selectStar, Select.empty, inferAll, inferOption, analyzeTargets,
    analyzeWindows, hstar]
  -- without a hint and other targets, the star alone decides the columns
  cases inner.expandStar qualifier.toList with
  | ok columns =>
    have hpure : ComesTo (pure (columns ++ [])) (.ok (columns, [])) := by
      rw [List.append_nil]
      exact .pure columns
    exact hpure
  | error e => exact .throw e

/-- What a star query comes to, from what its WITH clause and its FROM clause do. -/
theorem starColumns_eq {defined : List Relation} {before : List Parameter}
    {r : StepResult (List Relation)} (qualifier : Option String)
    (hctes : ComesTo (analyzeCtes c s [] ctes) (.ok (defined, before)))
    (hitems : ComesTo (analyzeSources c (⟨[], defined, []⟩ :: s) items) r) :
    starColumns c s ctes qualifier items =
      r.answer >>= fun relations =>
        Scope.expandStar (.ofRelations relations :: ⟨[], defined, []⟩ :: s) qualifier.toList := by
  rw [starColumns, analyzeSelect_eq]
  refine (ComesTo.answerFrom_next hctes []).trans ?_
  rw [analyzeBody_of_plain c _ [] rfl rfl]
  refine (hitems.answerFrom_bind (fun _ => analyzeClauses_selectStar c _ qualifier) _).trans ?_
  refine congrArg _ (funext fun relations => ?_)
  cases Scope.expandStar (.ofRelations relations :: ⟨[], defined, []⟩ :: s) qualifier.toList <;> rfl

/-! ## Items -/

/-- An item of a FROM clause and the relation that it is, if it is one. -/
def Found (c : Catalog) (s : Scope) (item : Node) (found : Option Relation) : Prop :=
  ∃ places, ComesTo (analyzeSource c s item) (.ok (found, places))

/-- The relations of a FROM clause are those of its items. -/
theorem analyzeSources_comesTo {found : List (Option Relation)}
    (h : List.Forall₂ (Found c s) items found) :
    ∃ places, ComesTo (analyzeSources c s items) (.ok (found.flatMap Option.toList, places)) := by
  induction h with
  | nil => exact ⟨[], .pure []⟩
  | cons hitem _ ih =>
    obtain ⟨places, hitem⟩ := hitem
    obtain ⟨later, hitems⟩ := ih
    exact ⟨places ++ later, analyzeSources_cons hitem hitems⟩

/-- The columns of an item alone are those of its relation. -/
theorem exists_found {defined : List Relation} {before : List Parameter} {item : Node}
    {columns : List ResultColumn}
    (hctes : ComesTo (analyzeCtes c s [] ctes) (.ok (defined, before)))
    (halone : starColumns c s ctes none [item] = .ok columns) :
    ∃ found, Found c (⟨[], defined, []⟩ :: s) item found ∧
      columns = found.toList.flatMap Relation.allColumns := by
  -- the item comes to an answer of its own, and the query with it alone shows which
  obtain ⟨r, hitem, -⟩ := analyzeSource_settles c (⟨[], defined, []⟩ :: s) item
  cases r with
  | error e =>
    rw [starColumns_eq none hctes (analyzeSources_cons_error hitem)] at halone
    cases halone
  | ok x =>
    obtain ⟨places, hsources⟩ := analyzeSources_comesTo (.cons ⟨x.2, hitem⟩ .nil)
    rw [starColumns_eq none hctes hsources] at halone
    cases halone
    exact ⟨x.1, ⟨x.2, hitem⟩, congrArg _ (List.append_nil _)⟩

/-! ## Names -/

/-- The name by which a query refers to an item of its FROM clause; it is empty for a query without
an alias. -/
def Canonical.Node.visibleName? : Node → Option String
  | .table t => some t.visibleName
  | .derived _ aliasName _ => some (aliasName.getD "")
  | _ => none

/-- The relation of an item has the name of the item. -/
theorem analyzeSource_name (hc : c.WellFormed) (item : Node) :
    Meets (fun _ => True) (fun found => found.map Relation.name = item.visibleName?)
      (analyzeSource c s item) := by
  cases item with
  | table t =>
    simp only [analyzeSource, lookedUp]
    split
    · exact .pure rfl
    · cases hfound : c.lookupTable t.tableName with
      | error e => exact .throw trivial
      | ok found =>
        -- a table is stored under its own name
        have hname : found.name.name = t.name := by
          rw [(hc.lookupTable hfound).1]
          rfl
        refine .pure ?_
        rw [Option.map_some, Relation.ofTable, hname]
        rfl
  | derived query aliasName nullable =>
    cases query with
    | select q => exact .after fun columns => .pure rfl
    | _ => exact .throw trivial
  | unsupported construct params => exact .after fun _ => .pure rfl
  | _ => exact .throw trivial

theorem Found.name_eq (hc : c.WellFormed) {item : Node} {found : Option Relation}
    (h : Found c s item found) : found.map Relation.name = item.visibleName? := by
  obtain ⟨places, h⟩ := h
  have hname := analyzeSource_name (s := s) hc item []
  rw [h []] at hname
  exact hname

/-- The relations of a FROM clause have the names of its items. -/
theorem names_of_found (hc : c.WellFormed) {found : List (Option Relation)}
    (h : List.Forall₂ (Found c s) items found) :
    (found.flatMap Option.toList).map Relation.name = items.filterMap Node.visibleName? := by
  induction h with
  | nil => rfl
  | @cons item found items rest hitem _ ih =>
    rw [List.flatMap_cons, List.map_append, ih, List.filterMap_cons, ← hitem.name_eq hc]
    cases found <;> rfl

/-- Among relations with names of their own, a name qualifies the columns of the one that has it. -/
theorem expandStar_of_nodup {relations : List Relation} {r : Relation} (hr : r ∈ relations)
    (hnodup : (relations.map Relation.name).Nodup) (s : Scope) :
    Scope.expandStar (.ofRelations relations :: s) [r.name] = .ok r.allColumns := by
  obtain ⟨before, after, rfl⟩ := List.append_of_mem hr
  -- a relation before the one asked for has another name, so the search goes on to it
  have hbefore : ∀ r' ∈ before, ¬ r'.matchesQualifiers [r.name] = true := by
    intro r' hr' hname
    rw [List.map_append, List.nodup_append] at hnodup
    refine hnodup.2.2 _ (List.mem_map_of_mem hr') _ List.mem_cons_self ?_
    simpa [Relation.matchesQualifiers] using hname
  have hfind : (before ++ r :: after).find? (·.matchesQualifiers [r.name]) = some r := by
    rw [List.find?_append, List.find?_eq_none.mpr hbefore, Option.none_or]
    exact List.find?_cons_of_pos (by simp [Relation.matchesQualifiers])
  simp only [Scope.expandStar, Scope.relations, ScopeLevel.ofRelations, hfind, List.isEmpty_cons,
    Bool.false_eq_true, if_false]

/-! ## Expansion -/

/-- A query in a FROM clause has the columns that it has elsewhere. -/
theorem analyzeSelect_selectStar_derived (c : Catalog) (s : Scope) (q : Select)
    (aliasName : Option String) :
    analyzeSelect c s [] (selectStar [] none [.derived (.select q) aliasName false]) =
      analyzeSelect c s [] q := by
  have hcolumns (columns : List ResultColumn) :
      analyzeClauses c (.ofRelations [.derived (aliasName.getD "") columns false] ::
          ⟨[], [], []⟩ :: s) [] (selectStar [] none [.derived (.select q) aliasName false]) =
        pure columns := by
    refine (analyzeClauses_selectStar c _ none).eq_pure.trans (congrArg pure ?_)
    -- what is derived from a query cannot be null as a whole, so its columns stay as they are
    show columns.map (Relation.adjust _) ++ [] = columns
    rw [List.append_nil]
    exact List.map_id'' (fun column => by simp [Relation.adjust, Relation.derived]) columns
  calc
    _ = analyzeBody c (⟨[], [], []⟩ :: s) []
          (selectStar [] none [.derived (.select q) aliasName false]) := analyzeSelect_eq ..
    _ = analyzeSelect c (⟨[], [], []⟩ :: s) [] q := by
      rw [analyzeBody_of_plain c _ [] rfl rfl]
      simp only [selectStar, analyzeSources, analyzeSource, pure_bind, bind_assoc,
        Option.toList_some, List.append_nil] at hcolumns ⊢
      simp only [hcolumns, bind_pure]
    _ = analyzeSelect c s [] q := analyzeSelect_congr (.empty_level c s) [] q fun _ _ => trivial

/-- A star query that is a statement is analysed in the scope without levels. -/
theorem starColumns_statement (c : Catalog) (ctes : List NamedQuery) (qualifier : Option String)
    (items : List Node) :
    starColumns c [] ctes qualifier items =
      (analyze c (.select (selectStar ctes qualifier items))).map Analysis.columns := by
  have hstatement (q : Select) : (analyzeStatement c (.select q)).run [] =
      (analyzeSelect c [] [] q).run [] >>= fun x => pure ((x.1, none), x.2) := rfl
  rw [starColumns, answerFrom, analyze, hstatement]
  cases (analyzeSelect c [] [] (selectStar ctes qualifier items)).run [] <;> rfl

theorem analyze_selectStar_derived (c : Catalog) (q : Select) (aliasName : Option String) :
    analyze c (.select (selectStar [] none [.derived (.select q) aliasName false])) =
      analyze c (.select q) := by
  have hnumbers : Node.numbers (.select (selectStar [] none
      [.derived (.select q) aliasName false])) = Node.numbers (.select q) := by
    simp [Node.numbers, selectStar, Select.empty, Node.paramRef?]
  have hgreatest : greatestParam (.select (selectStar [] none
      [.derived (.select q) aliasName false])) = greatestParam (.select q) :=
    congrArg (List.foldl max 0) hnumbers
  simp only [analyze, analyzeStatement, analyzeSelect_selectStar_derived, hgreatest]

section Items

variable {defined : List Relation} {before : List Parameter} {parts : List (List ResultColumn)}

theorem exists_all_found (hctes : ComesTo (analyzeCtes c s [] ctes) (.ok (defined, before)))
    (hitems : List.Forall₂ (fun item columns => starColumns c s ctes none [item] = .ok columns)
      items parts) :
    ∃ found, List.Forall₂ (Found c (⟨[], defined, []⟩ :: s)) items found ∧
      parts = found.map fun r => r.toList.flatMap Relation.allColumns := by
  induction hitems with
  | nil => exact ⟨[], .nil, rfl⟩
  | cons hitem _ ih =>
    obtain ⟨found, hfound, rfl⟩ := exists_found hctes hitem
    obtain ⟨rest, hrest, rfl⟩ := ih
    exact ⟨found :: rest, .cons hfound hrest, rfl⟩

/-- The columns of a table in a FROM clause are those of the catalog. -/
theorem columns_of_found_table {t : TableRef} {found : Option Relation}
    (hctes : ∀ r ∈ defined, t.mayName r.name = false)
    (hscope : t.schema = none → s.findCte? t.name = none)
    (hfound : Found c (⟨[], defined, []⟩ :: s) (.table t) found) :
    ∃ table, c.lookupTable t.tableName = .ok table ∧
      found.toList.flatMap Relation.allColumns = table.columns.map fun column =>
        ⟨column.name, column.type, column.notNull && !t.nullable, some table.name,
          some column.name⟩ := by
  obtain ⟨places, hfound⟩ := hfound
  have hnone : (defined.reverse.find? fun r => t.mayName r.name) = none :=
    List.find?_eq_none.mpr fun r hr => by simp [hctes r (List.mem_reverse.mp hr)]
  -- a name with a schema is not looked up among the queries of the scope
  have hcte : (if t.schema.isNone then s.findCte? t.name else none) = none := by
    cases hschema : t.schema with
    | none => exact hscope hschema
    | some schema => rfl
  have hrun := hfound []
  rw [analyzeTable_cons, hnone] at hrun
  simp only [analyzeSource, hcte] at hrun
  cases htable : c.lookupTable t.tableName with
  | error e =>
    rw [htable] at hrun
    cases hrun
  | ok table =>
    rw [htable] at hrun
    obtain rfl : some (Relation.ofTable table t.aliasName t.nullable) = found := by
      injection hrun with hrun
      exact congrArg Prod.fst hrun
    refine ⟨table, rfl, ?_⟩
    simp [Relation.ofTable, Relation.allColumns, Relation.adjust, Relation.tableColumn]

/-- A name picks out the columns of the item that has it. -/
theorem starColumns_of_name (hc : c.Reachable)
    (hctes : ComesTo (analyzeCtes c s [] ctes) (.ok (defined, before)))
    {found : List (Option Relation)}
    (hfound : List.Forall₂ (Found c (⟨[], defined, []⟩ :: s)) items found)
    (hnodup : (items.filterMap Node.visibleName?).Nodup) {item : Node} {r : Option Relation}
    {name : String} (hitem : (item, r) ∈ items.zip found) (hname : item.visibleName? = some name) :
    starColumns c s ctes (some name) items = .ok (r.toList.flatMap Relation.allColumns) := by
  obtain ⟨places, hsources⟩ := analyzeSources_comesTo hfound
  have hr := (List.forall₂_iff_zip.mp hfound).2 hitem
  rw [← hr.name_eq hc.wellFormed] at hname
  obtain ⟨relation, rfl, rfl⟩ := Option.map_eq_some_iff.mp hname
  rw [← names_of_found hc.wellFormed hfound] at hnodup
  have hmem : relation ∈ found.flatMap Option.toList :=
    List.mem_flatMap.mpr ⟨_, (List.of_mem_zip hitem).2, List.mem_singleton_self _⟩
  rw [starColumns_eq (some relation.name) hctes hsources]
  refine (expandStar_of_nodup hmem hnodup _).trans ?_
  simp

end Items

/-- **What a star stands for.** Let each item of a FROM clause be analysed alone. Then the columns
of a star are those of all items, one after the other. Those of an item that is a table are the
columns of the table under their own names. If the items have names of their own, a star that one of
the names qualifies stands for the columns of that item. And a query in a FROM clause of its own, of
which all columns are selected, has the analysis of the query itself, or ends in the same error. -/
theorem star_expansion (c : Catalog) :
    (∀ s ctes items parts, (∃ x, (analyzeCtes c s [] ctes).run [] = .ok x) →
      List.Forall₂ (fun item columns => starColumns c s ctes none [item] = .ok columns)
        items parts →
      starColumns c s ctes none items = .ok parts.flatten ∧
      (∀ t columns, (.table t, columns) ∈ items.zip parts →
        (t.schema = none → (∀ q ∈ ctes, q.name ≠ t.name) ∧ s.findCte? t.name = none) →
          ∃ found, c.lookupTable t.tableName = .ok found ∧
            columns = found.columns.map fun column =>
              ⟨column.name, column.type, column.notNull && !t.nullable, some found.name,
                some column.name⟩) ∧
      (c.Reachable → (items.filterMap Node.visibleName?).Nodup →
        ∀ item columns name, (item, columns) ∈ items.zip parts → item.visibleName? = some name →
          starColumns c s ctes (some name) items = .ok columns)) ∧
    ∀ q aliasName,
      analyze c (.select (selectStar [] none [.derived (.select q) aliasName false])) =
        analyze c (.select q) := by
  refine ⟨?_, analyze_selectStar_derived c⟩
  intro s ctes items parts ⟨x, hx⟩ hitems
  obtain ⟨before, hdefined, -⟩ := (analyzeCtes_settles c s [] ctes).exists_places hx
  obtain ⟨found, hfound, rfl⟩ := exists_all_found hdefined hitems
  have hzip {item : Node} {columns : List ResultColumn}
      (hmem : (item, columns) ∈ items.zip (found.map fun r => r.toList.flatMap (·.allColumns))) :
      ∃ r, (item, r) ∈ items.zip found ∧ columns = r.toList.flatMap (·.allColumns) := by
    rw [List.zip_map_right, List.mem_map] at hmem
    obtain ⟨⟨item, r⟩, hr, ⟨⟩⟩ := hmem
    exact ⟨r, hr, rfl⟩
  refine ⟨?together, ?tables, ?names⟩
  case together =>
    obtain ⟨places, hsources⟩ := analyzeSources_comesTo hfound
    rw [starColumns_eq none hdefined hsources]
    refine congrArg Except.ok ?_
    show (found.flatMap Option.toList).flatMap Relation.allColumns = _
    rw [List.flatMap_assoc]
    rfl
  case tables =>
    intro t columns hmem htable
    obtain ⟨r, hr, rfl⟩ := hzip hmem
    refine columns_of_found_table (fun relation hrelation => ?_) (fun hschema => (htable hschema).2)
      ((List.forall₂_iff_zip.mp hfound).2 hr)
    -- every relation of the WITH clause has the name of one of its queries, and the table has none
    obtain ⟨q, hq, hqname⟩ := exists_named_of_run hx hrelation
    cases hschema : t.schema with
    | none => simpa [TableRef.mayName, hschema, ← hqname] using (htable hschema).1 q hq
    | some schema => simp [TableRef.mayName, hschema]
  case names =>
    intro hc hnodup item columns name hmem hname
    obtain ⟨r, hr, rfl⟩ := hzip hmem
    exact starColumns_of_name hc hdefined hfound hnodup hr hname

section Example

/-- The query `SELECT a FROM u`. -/
def selectFromU : Select :=
  { Select.empty with
    targets := [.target none (some (.column [.name "a"])) 0]
    source := [.table ⟨none, "u", none, false⟩] }

/-- The clause `WITH w AS (SELECT a FROM u)`. -/
def withW : List NamedQuery := [⟨"w", .select selectFromU⟩]

/-- The items `t, w, (SELECT a FROM u) AS d`, the second one on the side of an outer join that can
be null. -/
def threeItems : List Node :=
  [.table ⟨none, "t", none, false⟩, .table ⟨none, "w", none, true⟩,
    .derived (.select selectFromU) (some "d") false]

/-- The column `a` of a table. -/
def columnA (table : String) : ResultColumn :=
  ⟨"a", .named "int", false, some (.qualified "public" table), some "a"⟩

theorem star_expansion_threeItems :
    let c := Catalog.twoTables
    starColumns c [] withW none threeItems = .ok [columnA "t", columnA "u", columnA "u"] ∧
      starColumns c [] withW (some "w") threeItems = .ok [columnA "u"] ∧
      ∃ found, c.lookupTable (.unqualified "t") = .ok found ∧ found.columns.length = 1 := by
  intro c
  have hitems : List.Forall₂ (fun item columns => starColumns c [] withW none [item] = .ok columns)
      threeItems [[columnA "t"], [columnA "u"], [columnA "u"]] :=
    .cons (by decide +kernel) (.cons (by decide +kernel) (.cons (by decide +kernel) .nil))
  obtain ⟨hall, htables, hnames⟩ := (star_expansion c).1 [] withW threeItems _ ⟨_, rfl⟩ hitems
  have hreachable : c.Reachable := (Catalog.Reachable.empty "public").afterAll _
  have hnodup : (threeItems.filterMap Node.visibleName?).Nodup := by decide +kernel
  obtain ⟨found, hfound, hcolumns⟩ := htables ⟨none, "t", none, false⟩ _ (.head _)
    fun _ => ⟨by decide, rfl⟩
  refine ⟨hall, hnames hreachable hnodup _ _ "w" (.tail _ (.head _)) rfl, found, hfound, ?_⟩
  simpa using (congrArg List.length hcolumns).symm

end Example

end TypedSql
