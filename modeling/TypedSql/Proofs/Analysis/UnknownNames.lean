import TypedSql.Proofs.Analysis.Failure
import TypedSql.Proofs.Analysis.Resolution
import TypedSql.Proofs.Conversion.Parts
import TypedSql.Proofs.Queries.Agreement

/-!
# Unknown names

A name that no table declares and that the statement gives to no column can be looked up nowhere. So
the analysis of a statement that refers to it fails, wherever the reference stands, unless nothing
looks at it: the sort keys of a VALUES are skipped.

- **References**: nodes that do not refer to a name, and nodes that give it to no column
- **Scopes**: where no column has a name, no reference to it is answered
- **Constructs**: one statement for each function of the analysis
- **Statements**: what follows for statements that are converted
-/

namespace TypedSql

open Canonical

/-! ## References -/

namespace Canonical.Node

/-- The name under which a column of a result is listed, if it has an alias. -/
def targetName? : Node → Option String
  | .target given _ _ => given
  | _ => none

/-- The names that a node gives to columns: the aliases of a list of results, and the name of a
function, which a column without an alias takes over. -/
def givenNames : Node → List String
  | .select q => q.targets.filterMap targetName?
  | .insert i => i.returning.filterMap targetName?
  | .update u => u.returning.filterMap targetName?
  | .delete d => d.returning.filterMap targetName?
  | .call c => [Inferred.lastPart c.name]
  | _ => []

end Canonical.Node

/-- A reference that ends in a star has no name. -/
theorem columnName?_of_star {fields : List Node} (h : endsInStar fields = true) :
    columnName? fields = none := by
  rw [endsInStar] at h
  rw [columnName?]
  cases hlast : fields.getLast? with
  | none => rfl
  | some n =>
    rw [hlast] at h
    cases n with
    | star => rfl
    | _ => cases h

namespace Canonical.Node

/-- Nothing in a node gives a name to a column. -/
def NeverGives (n : Node) (name : String) : Prop := ∀ m, n.Contains m → name ∉ m.givenNames

/-- No reference in a node that an analysis looks at is to a name. -/
def NeverRefers (n : Node) (name : String) : Prop :=
  ∀ fields, n.Reads (.column fields) → columnName? fields ≠ some name

variable {n : Node} {name : String}

theorem NeverGives.self (h : n.NeverGives name) : name ∉ n.givenNames := h n (.self n)

theorem NeverGives.parts (h : n.NeverGives name) : ∀ m ∈ n.parts, m.NeverGives name :=
  fun _ hm k hk => h k (.part hm hk)

theorem NeverGives.of_parts (hn : name ∉ n.givenNames) (h : ∀ m ∈ n.parts, m.NeverGives name) :
    n.NeverGives name := by
  intro k hk
  cases hk with
  | self => exact hn
  | part hm hk => exact h _ hm k hk

/-- A reference gives no names. -/
theorem NeverGives.column (field : String) : (Node.column [.name field]).NeverGives name :=
  .of_parts List.not_mem_nil (List.forall_mem_singleton.mpr
    (.of_parts List.not_mem_nil (List.forall_mem_nil _)))

/-- A name that a query never gives is no alias of its columns. -/
theorem NeverGives.targets {q : Select} (h : (Node.select q).NeverGives name) :
    ∀ m ∈ q.targets, m.targetName? ≠ some name :=
  fun m hm hname => h.self (List.mem_filterMap.mpr ⟨m, hm, hname⟩)

namespace NeverRefers

/-- A node that is no reference itself refers to what its parts refer to. -/
theorem of_parts (hn : ∀ fields, n ≠ .column fields) (h : ∀ m ∈ n.readParts, m.NeverRefers name) :
    n.NeverRefers name := by
  intro fields hreads
  cases hreads with
  | self => exact absurd rfl (hn fields)
  | part hm hreads => exact h _ hm fields hreads

/-- A name or a star has no parts. -/
theorem of_isField (h : n.isField = true) : n.NeverRefers name := by
  cases n with
  | name value => exact .of_parts nofun (List.forall_mem_nil _)
  | star => exact .of_parts nofun (List.forall_mem_nil _)
  | _ => cases h

theorem of_isParam (h : n.isParam = true) : n.NeverRefers name := by
  cases n with
  | param number location => exact .of_parts nofun (List.forall_mem_nil _)
  | _ => cases h

theorem column {fields : List Node} (hfields : ∀ n ∈ fields, n.isField = true)
    (h : columnName? fields ≠ some name) : (Node.column fields).NeverRefers name := by
  intro fields' hreads
  cases hreads with
  | self => exact h
  | part hm hreads => exact of_isField (hfields _ hm) fields' hreads

/-- A star refers to no name. -/
theorem of_star {qualifiers : List String} (h : n.IsExpr)
    (hstar : n.starQualifiers? = some qualifiers) : n.NeverRefers name := by
  cases h with
  | column hfields h =>
    rw [starQualifiers?] at hstar
    split at hstar
    · rename_i hends
      exact column hfields (by simp [columnName?_of_star hends])
    · cases hstar
  | _ => cases hstar

theorem select {q : Select} (hctes : ∀ x ∈ q.ctes, x.query.NeverRefers name)
    (hleft : ∀ side ∈ q.left, (Node.select side).NeverRefers name)
    (hright : ∀ side ∈ q.right, (Node.select side).NeverRefers name)
    (hplain : ∀ m ∈ q.plainParts, m.NeverRefers name) (hrows : ∀ m ∈ q.rows, m.NeverRefers name)
    (hlimit : ∀ m ∈ q.limit, m.NeverRefers name) (hoffset : ∀ m ∈ q.offset, m.NeverRefers name)
    (horderBy : ¬ q.IsValues → ∀ m ∈ q.orderBy, m.NeverRefers name) :
    (Node.select q).NeverRefers name := by
  refine of_parts nofun (List.forall_mem_append.mpr ⟨?_, ?_⟩)
  · exact forall_clauses.mpr ⟨hctes, hleft, hright, hplain, hrows, hlimit, hoffset⟩
  · split
    · exact List.forall_mem_nil _
    · rename_i hvalues
      exact horderBy hvalues

end NeverRefers

end Canonical.Node

/-! ## Scopes -/

/-- No column of a list has a name. -/
def LackName (columns : List ResultColumn) (name : String) : Prop :=
  ∀ column ∈ columns, column.name ≠ name

/-- Nothing at a level has a column with a name. -/
structure ScopeLevel.Lacks (l : ScopeLevel) (name : String) : Prop where
  relations : ∀ r ∈ l.relations, LackName r.columns name
  ctes : ∀ r ∈ l.ctes, LackName r.columns name
  outputs : LackName l.outputs name

/-- Nothing in a scope has a column with a name. -/
def Scope.Lacks (s : Scope) (name : String) : Prop := ∀ l ∈ s, l.Lacks name

section Scopes

variable {name : String} {columns : List ResultColumn} {r : Relation} {l : ScopeLevel} {s : Scope}

theorem lackName_map {f : ResultColumn → ResultColumn}
    (hf : ∀ column, (f column).name = column.name)
    (h : LackName columns name) : LackName (columns.map f) name :=
  List.forall_mem_map.mpr fun column hmem => (hf column).symm ▸ h column hmem

theorem Relation.lackName_allColumns (h : LackName r.columns name) :
    LackName r.allColumns name := lackName_map (fun _ => rfl) h

theorem Relation.lackName_ofTable {t : Table} (h : name ∉ t.columnNames) (aliasName : Option String)
    (nullable : Bool) : LackName (ofTable t aliasName nullable).columns name :=
  List.forall_mem_map.mpr fun _ hmem heq => h (List.mem_map.mpr ⟨_, hmem, heq⟩)

theorem lackName_combine {left : List ResultColumn} (h : LackName left name)
    (right : List ResultColumn) : LackName (List.zipWith .combine left right) name := by
  induction left generalizing right with
  | nil => exact List.forall_mem_nil _
  | cons l left ih =>
    cases right with
    | nil => exact List.forall_mem_nil _
    | cons r right =>
      obtain ⟨hl, hleft⟩ := List.forall_mem_cons.mp h
      exact List.forall_mem_cons.mpr ⟨hl, ih hleft right⟩

theorem lackName_rowColumns (h : ∀ k, name ≠ positionName k) (position : Nat) (is : List Inferred) :
    LackName (rowColumns position is) name := by
  induction is generalizing position with
  | nil => exact List.forall_mem_nil _
  | cons i is ih => exact List.forall_mem_cons.mpr ⟨(h position).symm, ih (position + 1)⟩

theorem lackName_weakenColumns (h : LackName columns name) (is : List Inferred) :
    LackName (weakenColumns columns is) name := by
  induction columns generalizing is with
  | nil => cases is <;> exact List.forall_mem_nil _
  | cons column columns ih =>
    cases is with
    | nil => exact h
    | cons i is =>
      obtain ⟨hcolumn, hcolumns⟩ := List.forall_mem_cons.mp h
      exact List.forall_mem_cons.mpr ⟨hcolumn, ih hcolumns is⟩

theorem lackName_valuesColumns (h : ∀ k, name ≠ positionName k) (rows : List (List Inferred)) :
    LackName (valuesColumns rows) name := by
  cases rows with
  | nil => exact List.forall_mem_nil _
  | cons row rows =>
    show LackName (rows.foldl weakenColumns (rowColumns 1 row)) name
    have hfirst := lackName_rowColumns h 1 row
    generalize rowColumns 1 row = columns at hfirst ⊢
    induction rows generalizing columns with
    | nil => exact hfirst
    | cons row rows ih => exact ih _ (lackName_weakenColumns hfirst row)

namespace Scope.Lacks

theorem cons (h : s.Lacks name) (hl : l.Lacks name) : Scope.Lacks (l :: s) name :=
  List.forall_mem_cons.mpr ⟨hl, h⟩

theorem ofCtes (h : s.Lacks name) {rs : List Relation} (hrs : ∀ r ∈ rs, LackName r.columns name) :
    Scope.Lacks (⟨[], rs, []⟩ :: s) name :=
  h.cons ⟨List.forall_mem_nil _, hrs, List.forall_mem_nil _⟩

theorem ofRelations (h : s.Lacks name) {rs : List Relation}
    (hrs : ∀ r ∈ rs, LackName r.columns name) (houtputs : LackName columns name) :
    Scope.Lacks (⟨rs, [], columns⟩ :: s) name := h.cons ⟨hrs, List.forall_mem_nil _, houtputs⟩

theorem ofRelation (h : s.Lacks name) (hr : LackName r.columns name) :
    Scope.Lacks (.ofRelations [r] :: s) name :=
  h.ofRelations (List.forall_mem_singleton.mpr hr) (List.forall_mem_nil _)

/-- A reference to the name is not answered. -/
theorem resolve_ne_ok (h : s.Lacks name) {fields : List Node}
    (hname : columnName? fields = some name) (column : ResultColumn) :
    s.resolve fields ≠ .ok column := by
  intro hanswer
  simp only [Scope.resolve, hname] at hanswer
  cases Scope.resolveName_eq_iff.mp hanswer with
  | @decided _ _ l _ hs hbefore hsays =>
    -- the level that decides about the name would need a column by it
    have hl : l.Lacks name := h l (hs ▸ List.mem_append_right _ List.mem_cons_self)
    cases hsays with
    | @column r column hr hcolumn =>
      have hmem : r ∈ l.relations := l.mem_of_candidate (hr ▸ List.mem_singleton_self r)
      exact hl.relations r hmem column (List.mem_of_find?_eq_some hcolumn)
        (by simpa using List.find?_some hcolumn)
    | output _ _ hcolumn =>
      exact hl.outputs _ (List.mem_of_find?_eq_some hcolumn)
        (by simpa using List.find?_some hcolumn)

theorem findCte? (h : s.Lacks name) {cte : String} (hfound : s.findCte? cte = some r) :
    LackName r.columns name := by
  obtain ⟨l, hl, hfind⟩ := List.exists_of_findSome?_eq_some hfound
  exact (h l hl).ctes r (List.mem_reverse.mp (List.mem_of_find?_eq_some hfind))

theorem expandStar (h : s.Lacks name) {qualifiers : List String}
    (hrun : s.expandStar qualifiers = .ok columns) : LackName columns name := by
  have hrelations : ∀ r ∈ s.relations, LackName r.allColumns name := by
    -- a star means the relations of the innermost level, if there is one
    cases s with
    | nil => exact List.forall_mem_nil _
    | cons l s =>
      exact fun r hr => Relation.lackName_allColumns ((h l List.mem_cons_self).relations r hr)
  rw [Scope.expandStar] at hrun
  split at hrun
  · -- all relations
    cases hrun
    intro column hmem
    obtain ⟨r, hr, hcolumn⟩ := List.mem_flatMap.mp hmem
    exact hrelations r hr column hcolumn
  · -- the relation of the qualifiers
    split at hrun
    · rename_i hfind
      cases hrun
      exact hrelations _ (List.mem_of_find?_eq_some hfind)
    · cases hrun

end Scope.Lacks

end Scopes

/-! ## Constructs

What is shown of a function of the analysis is that in a scope which lacks a name it fails, or what
it has read does not refer to the name. Columns and relations that it comes to lack the name again,
so that the scopes which are made of them do. -/

/-- No table of a catalog declares a column with a name, and no column has it for its position. -/
structure Undeclared (c : Catalog) (name : String) : Prop where
  tables : ∀ t ∈ c.tables, name ∉ t.columnNames
  positions : ∀ k, name ≠ positionName k

theorem Catalog.mem_tables_of_lookup {c : Catalog} {tableName : TableName} {t : Table}
    (h : c.lookupTable tableName = .ok t) : t ∈ c.tables := by
  -- what is found in a directory is one of its values
  have hmem {α : Type} {d : Directory α} {k : String} {a : α} (h : d.find? k = some a) :
      a ∈ d.values := by
    obtain ⟨before, after, hentries, -⟩ := List.lookup_eq_some_iff.mp h
    exact List.mem_map.mpr ⟨(k, a), hentries ▸ List.mem_append_right _ List.mem_cons_self, rfl⟩
  rw [lookupTable] at h
  split at h
  · cases h
  · rename_i schema hschema
    split at h
    · cases h
    · rename_i found hfound
      cases h
      exact List.mem_flatMap.mpr ⟨schema, hmem hschema, hmem hfound⟩

theorem Undeclared.lookup {c : Catalog} {name : String} (h : Undeclared c name)
    {tableName : TableName} {t : Table} (hfound : c.lookupTable tableName = .ok t) :
    name ∉ t.columnNames := h.tables t (Catalog.mem_tables_of_lookup hfound)

/-- A step that does not fail has an answer with a property. -/
abbrev Yields {α : Type} (P : α → Prop) (m : AnalysisM α) : Prop := Meets (fun _ => True) P m

variable {c : Catalog} {name : String}

theorem combineColumns_lackName {left : List ResultColumn} (h : LackName left name)
    (right : List ResultColumn) : Yields (LackName · name) (combineColumns left right) := by
  rw [combineColumns]
  split
  · exact .pure (lackName_combine h right)
  · exact .throw trivial

theorem defaultName_ne (hc : Undeclared c name) {value : Node} (hrefers : value.NeverRefers name)
    (hgives : value.NeverGives name) (position : Nat) : defaultName value position ≠ name := by
  cases value with
  | column fields =>
    have hne := hrefers fields (.self _)
    rw [defaultName]
    cases hname : columnName? fields with
    | some given => exact fun h => hne (hname.trans (congrArg some h))
    | none => exact (hc.positions position).symm
  | call call => exact fun h => hgives.self (List.mem_singleton.mpr h.symm)
  | _ => exact (hc.positions position).symm

theorem analyzeTable_yields (hc : Undeclared c name) {s : Scope} (hs : s.Lacks name)
    (t : TableRef) : Yields (fun found => ∀ r ∈ found, LackName r.columns name)
      (analyzeSource c s (.table t)) := by
  rw [analyzeSource]
  split
  · rename_i cte hcte
    have hcolumns : LackName cte.columns name := by
      -- a name with a schema is never one of a WITH query
      split at hcte
      · exact hs.findCte? hcte
      · cases hcte
    exact .pure (forall_mem_some hcolumns)
  · cases hfound : c.lookupTable t.tableName with
    | error e => exact .throw_bind trivial _
    | ok found =>
      refine .bind (Meets.pure (Q := fun x => x = found) rfl) fun x hx => .pure (forall_mem_some ?_)
      exact hx ▸ Relation.lackName_ofTable (hc.lookup hfound) _ _

mutual

theorem inferExpr_yields (hc : Undeclared c name) {s : Scope} (hs : s.Lacks name)
    (hint : Option Hint) (n : Node) (h : n.IsExpr) (hn : n.NeverGives name) :
    Yields (fun _ => n.NeverRefers name) (inferExpr c s hint n) := by
  cases h with
  | @column fields hfields h =>
    rw [inferExpr]
    split
    · rename_i hstar
      exact .pure (.column hfields (by simp [columnName?_of_star hstar]))
    · -- only a reference to another name can be answered
      match hrun : s.resolve fields with
      | .ok column => exact .pure (.column hfields fun hname => hs.resolve_ne_ok hname column hrun)
      | .error e => exact .throw trivial
  | param number location =>
    -- a placeholder changes nothing but the bindings
    exact .after fun _ => .pure (.of_isParam rfl)
  | literal value => exact .pure (.of_parts nofun (List.forall_mem_nil _))
  | logic op h =>
    exact .bind (inferAll_yields hc hs none _ h hn.parts) fun _ hargs =>
      .pure (.of_parts nofun hargs)
  | unary _ h =>
    exact .bind (inferExpr_yields hc hs none _ h (hn.parts _ (.head _))) fun _ hright =>
      .pure (.of_parts nofun (List.forall_mem_singleton.mpr hright))
  | @binary op left right hleft hright =>
    have ihleft (hint : Option Hint) := inferExpr_yields hc hs hint left hleft
      (hn.parts left (.head _))
    have ihright (hint : Option Hint) := inferExpr_yields hc hs hint right hright
      (hn.parts right (.tail _ (.head _)))
    have hboth (hl : left.NeverRefers name) (hr : right.NeverRefers name) :
        (Node.operator op (some left) (some right)).NeverRefers name :=
      .of_parts nofun (List.forall_mem_cons.mpr ⟨hl, List.forall_mem_singleton.mpr hr⟩)
    rw [inferExpr]
    -- both operands are read, in the order that the hints ask for
    split
    · exact .bind (ihright none) fun _ hr => .bind (ihleft _) fun _ hl => .pure (hboth hl hr)
    · exact .bind (ihleft none) fun _ hl => .bind (ihright _) fun _ hr => .pure (hboth hl hr)
  | nullTest _ h =>
    exact .bind (.discard (inferExpr_yields hc hs none _ h (hn.parts _ (.head _)))) fun _ harg =>
      .pure (.of_parts nofun (List.forall_mem_singleton.mpr harg))
  | cast _ h =>
    exact .bind (inferExpr_yields hc hs _ _ h (hn.parts _ (.head _))) fun _ harg =>
      .pure (.of_parts nofun (List.forall_mem_singleton.mpr harg))
  | @call call h =>
    obtain ⟨function, args, orderBy, filter, window, star, distinct⟩ := call
    obtain ⟨hargs, horderBy, hfilter, hwindow⟩ := h
    obtain ⟨hgargs, hgorderBy, hgfilter, hgwindow⟩ := forall_parts_call.mp hn.parts
    exact .bind (inferAll_yields hc hs none args hargs hgargs) fun _ hargs =>
      .bind (.discard (inferAll_yields hc hs none orderBy horderBy hgorderBy)) fun _ horderBy =>
      .bind (.discard (inferOption_yields hc hs none filter hfilter hgfilter)) fun _ hfilter =>
      .bind (analyzeOver_yields hc hs window hwindow hgwindow) fun _ hwindow =>
      .pure (.of_parts nofun (forall_parts_call.mpr ⟨hargs, horderBy, hfilter, hwindow⟩))
  | case hoperand hbranches hdefault =>
    obtain ⟨hgoperand, hgbranches, hgdefault⟩ := forall_parts_case.mp hn.parts
    exact .bind (inferOption_yields hc hs none _ hoperand hgoperand) fun _ hoperand =>
      .bind (inferBranches_yields hc hs _ _ hbranches hgbranches) fun _ hbranches =>
      .bind (inferOption_yields hc hs none _ hdefault hgdefault) fun _ hdefault =>
      .pure (.of_parts nofun (forall_parts_case.mpr ⟨hoperand, hbranches, hdefault⟩))
  | @sublink kind test query negated htest hquery =>
    obtain ⟨hgtest, hgquery⟩ := (forall_parts_sublink ..).mp hn.parts
    rw [inferExpr]
    refine .bind (analyzeSublink_yields hc hs query hquery hgquery) fun columns hquery => ?_
    have hboth (htest : ∀ m ∈ test, m.NeverRefers name) :
        (Node.sublink kind test query negated).NeverRefers name :=
      .of_parts nofun ((forall_parts_sublink kind test query negated).mpr ⟨htest, hquery⟩)
    match kind with
    | .exists =>
      exact .bind (.discard (inferOption_yields hc hs none test htest hgtest)) fun _ htest =>
        .pure (hboth htest)
    | .any =>
      exact .bind (inferOption_yields hc hs _ test htest hgtest) fun _ htest =>
        .pure (hboth htest)
  | select h => exact .bind (analyzeSelect_yields hc hs [] _ h hn) fun _ h => .pure h.1
  | list h =>
    exact .bind (inferAll_yields hc hs hint _ h hn.parts) fun _ hitems =>
      .pure (.of_parts nofun hitems)
  | unsupported _ params h =>
    exact .after fun _ => .pure (.of_parts nofun fun m hm => .of_isParam (h m hm))
termination_by structural n

theorem inferAll_yields (hc : Undeclared c name) {s : Scope} (hs : s.Lacks name)
    (hint : Option Hint) (ns : List Node) (h : ∀ n ∈ ns, n.IsExpr)
    (hns : ∀ n ∈ ns, n.NeverGives name) :
    Yields (fun _ => ∀ n ∈ ns, n.NeverRefers name) (inferAll c s hint ns) := by
  match ns with
  | [] => exact .pure (List.forall_mem_nil _)
  | n :: ns =>
    obtain ⟨hn, hrest⟩ := List.forall_mem_cons.mp h
    obtain ⟨hgives, hgivesRest⟩ := List.forall_mem_cons.mp hns
    exact .bind (inferExpr_yields hc hs hint n hn hgives) fun _ hrefers =>
      .bind (inferAll_yields hc hs hint ns hrest hgivesRest) fun _ hrefersRest =>
      .pure (List.forall_mem_cons.mpr ⟨hrefers, hrefersRest⟩)
termination_by structural ns

theorem inferOption_yields (hc : Undeclared c name) {s : Scope} (hs : s.Lacks name)
    (hint : Option Hint) (n : Option Node) (h : ∀ m ∈ n, m.IsExpr)
    (hn : ∀ m ∈ n, m.NeverGives name) :
    Yields (fun _ => ∀ m ∈ n, m.NeverRefers name) (inferOption c s hint n) := by
  match n with
  | none => exact .pure forall_mem_none
  | some n =>
    exact .bind (inferExpr_yields hc hs hint n (h n rfl) (hn n rfl)) fun _ hrefers =>
      .pure (forall_mem_some hrefers)
termination_by structural n

theorem inferBranches_yields (hc : Undeclared c name) {s : Scope} (hs : s.Lacks name)
    (hint : Option Hint) (bs : List Branch) (h : ∀ b ∈ bs, b.WellShaped)
    (hbs : ∀ b ∈ bs, b.condition.NeverGives name ∧ b.result.NeverGives name) :
    Yields (fun _ => ∀ b ∈ bs, b.condition.NeverRefers name ∧ b.result.NeverRefers name)
      (inferBranches c s hint bs) := by
  match bs with
  | [] => exact .pure (List.forall_mem_nil _)
  | ⟨condition, result⟩ :: bs =>
    obtain ⟨⟨hcondition, hresult⟩, hrest⟩ := List.forall_mem_cons.mp h
    obtain ⟨⟨hgcondition, hgresult⟩, hgrest⟩ := List.forall_mem_cons.mp hbs
    exact .bind (.discard (inferExpr_yields hc hs hint condition hcondition hgcondition))
      fun _ hcondition => .bind (inferExpr_yields hc hs none result hresult hgresult)
      fun _ hresult => .bind (inferBranches_yields hc hs hint bs hrest hgrest)
      fun _ hrest => .pure (List.forall_mem_cons.mpr ⟨⟨hcondition, hresult⟩, hrest⟩)
termination_by structural bs

theorem analyzeSublink_yields (hc : Undeclared c name) {s : Scope} (hs : s.Lacks name)
    (query : Option Node) (h : ∀ m ∈ query, m.IsExpr) (hn : ∀ m ∈ query, m.NeverGives name) :
    Yields (fun _ => ∀ m ∈ query, m.NeverRefers name) (analyzeSublink c s query) := by
  match query with
  | none => exact .pure forall_mem_none
  | some n =>
    have hexpr : n.IsExpr := h n rfl
    have hgives := hn n rfl
    have hother : Yields (fun _ => ∀ m ∈ some n, m.NeverRefers name)
        (discard (inferExpr c s none n) >>= fun _ => pure ([] : List ResultColumn)) :=
      .bind (.discard (inferExpr_yields hc hs none n hexpr hgives)) fun _ hrefers =>
        .pure (forall_mem_some hrefers)
    cases hexpr with
    | select hq =>
      -- the columns of a query come with what is known of its references
      exact .weaken (analyzeSelect_yields hc hs [] _ hq hgives)
        fun _ h => forall_mem_some h.1
    | _ => exact hother
termination_by structural query

theorem analyzeOver_yields (hc : Undeclared c name) {s : Scope} (hs : s.Lacks name)
    (w : Option Window) (h : ∀ v ∈ w, v.WellShaped)
    (hw : ∀ v ∈ w, ∀ m ∈ v.parts, m.NeverGives name) :
    Yields (fun _ => ∀ v ∈ w, ∀ m ∈ v.parts, m.NeverRefers name) (analyzeOver c s w) := by
  match w with
  | none => exact .pure fun _ h => nomatch h
  | some w =>
    refine .weaken (analyzeWindow_yields hc hs w (h w rfl) (hw w rfl)) fun _ h => ?_
    exact fun v hv => Option.mem_some.mp hv ▸ h
termination_by structural w

theorem analyzeWindow_yields (hc : Undeclared c name) {s : Scope} (hs : s.Lacks name)
    (w : Window) (h : w.WellShaped) (hw : ∀ m ∈ w.parts, m.NeverGives name) :
    Yields (fun _ => ∀ m ∈ w.parts, m.NeverRefers name) (analyzeWindow c s w) := by
  match w with
  | ⟨_, _, partitionBy, orderBy, startOffset, endOffset⟩ =>
    obtain ⟨hpartitionBy, horderBy, hstart, hend⟩ := h
    obtain ⟨hgpartitionBy, hgorderBy, hgstart, hgend⟩ := forall_windowParts.mp hw
    refine .bind (.discard (inferAll_yields hc hs none partitionBy hpartitionBy hgpartitionBy))
      fun _ hpartitionBy => .bind (.discard (inferAll_yields hc hs none orderBy horderBy hgorderBy))
      fun _ horderBy => .bind (.discard (inferOption_yields hc hs _ startOffset hstart hgstart))
      fun _ hstart => .weaken (.discard (inferOption_yields hc hs _ endOffset hend hgend))
      fun _ hend => ?_
    exact forall_windowParts.mpr ⟨hpartitionBy, horderBy, hstart, hend⟩
termination_by structural w

theorem analyzeWindows_yields (hc : Undeclared c name) {s : Scope} (hs : s.Lacks name)
    (ws : List Window) (h : ∀ w ∈ ws, w.WellShaped)
    (hws : ∀ w ∈ ws, ∀ m ∈ w.parts, m.NeverGives name) :
    Yields (fun _ => ∀ w ∈ ws, ∀ m ∈ w.parts, m.NeverRefers name) (analyzeWindows c s ws) := by
  match ws with
  | [] => exact .pure fun _ h => nomatch h
  | w :: ws =>
    obtain ⟨hw, hrest⟩ := List.forall_mem_cons.mp h
    obtain ⟨hgw, hgrest⟩ := List.forall_mem_cons.mp hws
    exact .bind (analyzeWindow_yields hc hs w hw hgw) fun _ hw =>
      .weaken (analyzeWindows_yields hc hs ws hrest hgrest)
        fun _ hrest => List.forall_mem_cons.mpr ⟨hw, hrest⟩
termination_by structural ws

theorem analyzeSelect_yields (hc : Undeclared c name) {s : Scope} (hs : s.Lacks name)
    (hints : List Hint) (q : Select) (h : q.WellShaped) (hq : (Node.select q).NeverGives name) :
    Yields (fun columns => (Node.select q).NeverRefers name ∧ LackName columns name)
      (analyzeSelect c s hints q) := by
  match q with
  | ⟨ctes, targets, source, joinConditions, condition, distinctOn, groupBy, having, windows,
      orderBy, limit, offset, rows, operation, all, left, right⟩ =>
    obtain ⟨hctes, htargets, hsource, hjoinConditions, hcondition, hdistinctOn, hgroupBy, hhaving,
      hwindows, horderBy, hlimit, hoffset, hrows, hsides, hleft, hright, hkind⟩ := h
    obtain ⟨hgclauses, hgorderBy⟩ := List.forall_mem_append.mp hq.parts
    obtain ⟨hgctes, hgleft, hgright, hgplain, hgrows, hglimit, hgoffset⟩ :=
      forall_clauses.mp hgclauses
    obtain ⟨hgtargets, hgsource, hgjoinConditions, hgcondition, hgdistinctOn, hggroupBy, hghaving,
      hgwindows⟩ := forall_plainParts.mp hgplain
    have haliases := hq.targets
    dsimp only at *
    rw [analyzeSelect]
    refine .bind (analyzeCtes_yields hc hs [] (List.forall_mem_nil _) ctes hctes hgctes)
      fun defined ⟨hctes, hdefined⟩ => ?_
    have hs := hs.ofCtes hdefined
    have hempty {ns : List Node} (h : ns = []) : ∀ m ∈ ns, m.NeverRefers name :=
      h ▸ List.forall_mem_nil _
    have hnone {side : Option Select} (h : side = none) :
        ∀ q ∈ side, (Node.select q).NeverRefers name := h ▸ forall_mem_none
    split
    · -- a set operation has its two sides and the last clauses
      rename_i hoperation
      split
      · exact .throw_bind trivial _
      refine .bind (analyzeSide_yields hc hs hints left hleft hgleft) fun l ⟨hleft, hl⟩ =>
        .bind (analyzeSide_yields hc hs hints right hright hgright) fun r ⟨hright, _⟩ =>
        .bind (combineColumns_lackName hl r) fun columns hcolumns => ?_
      -- the last clauses see the columns of the left side
      have hs := hs.ofRelations (List.forall_mem_nil _) hcolumns
      exact .bind (.discard (inferAll_yields hc hs none orderBy horderBy hgorderBy))
        fun _ horderBy => .bind (.discard (inferOption_yields hc hs _ limit hlimit hglimit))
        fun _ hlimit => .bind (.discard (inferOption_yields hc hs _ offset hoffset hgoffset))
        fun _ hoffset => .pure ⟨.select hctes hleft hright (hempty (hkind.plain (.inl hoperation)))
          (hempty (hkind.rows hoperation)) hlimit hoffset fun _ => horderBy, hcolumns⟩
    rename_i hoperation
    have hoperation : operation = .none := not_not.mp hoperation
    obtain ⟨hnoLeft, hnoRight⟩ := hkind.sides hoperation
    split
    · -- the rows of a VALUES leave nothing but the limits, for its sort keys are not looked at
      rename_i hvalues
      have hvalues : rows.isEmpty = false := by simpa using hvalues
      have hrowsNe : rows ≠ [] := fun h => by simp [h] at hvalues
      exact .bind (inferRows_yields hc hs hints rows hrows hgrows) fun values hrows =>
        .bind (.discard (inferOption_yields hc hs _ limit hlimit hglimit)) fun _ hlimit =>
        .bind (.discard (inferOption_yields hc hs _ offset hoffset hgoffset)) fun _ hoffset =>
        .pure ⟨.select hctes (hnone hnoLeft) (hnone hnoRight)
          (hempty (hkind.plain (.inr hrowsNe))) hrows hlimit hoffset
          fun h => absurd ⟨hoperation, hvalues⟩ h, lackName_valuesColumns hc.positions values⟩
    · rename_i hrowsEmpty
      have hrowsEmpty : rows = [] := by simpa using hrowsEmpty
      refine .bind (analyzeSources_yields hc hs source hsource hgsource)
        fun relations ⟨hsource, hrelations⟩ => ?_
      have hinner := hs.ofRelations hrelations (List.forall_mem_nil _)
      refine .bind (.discard
          (inferAll_yields hc hinner none joinConditions hjoinConditions hgjoinConditions))
        fun _ hjoinConditions => .bind (.discard
          (inferOption_yields hc hinner none condition hcondition hgcondition))
        fun _ hcondition => .bind
          (analyzeTargets_yields hc hinner hints 0 targets htargets hgtargets haliases)
        fun columns ⟨htargets, hcolumns⟩ => ?_
      -- from here on names may also mean columns of the result
      have hinner := hs.ofRelations hrelations hcolumns
      refine .bind (.discard (inferAll_yields hc hinner none distinctOn hdistinctOn hgdistinctOn))
        fun _ hdistinctOn => .bind (.discard
          (inferAll_yields hc hinner none groupBy hgroupBy hggroupBy))
        fun _ hgroupBy => .bind (.discard
          (inferOption_yields hc hinner none having hhaving hghaving))
        fun _ hhaving => .bind (analyzeWindows_yields hc hinner windows hwindows hgwindows)
        fun _ hwindows => .bind (.discard
          (inferAll_yields hc hinner none orderBy horderBy hgorderBy))
        fun _ horderBy => .bind (.discard (inferOption_yields hc hinner _ limit hlimit hglimit))
        fun _ hlimit => .bind (.discard (inferOption_yields hc hinner _ offset hoffset hgoffset))
        fun _ hoffset => .pure ⟨.select hctes (hnone hnoLeft) (hnone hnoRight) ?_
          (hempty hrowsEmpty) hlimit hoffset fun _ => horderBy, hcolumns⟩
      exact forall_plainParts.mpr ⟨htargets, hsource, hjoinConditions, hcondition, hdistinctOn,
        hgroupBy, hhaving, hwindows⟩
termination_by structural q

theorem analyzeSide_yields (hc : Undeclared c name) {s : Scope} (hs : s.Lacks name)
    (hints : List Hint) (side : Option Select) (h : ∀ q ∈ side, q.WellShaped)
    (hside : ∀ q ∈ side, (Node.select q).NeverGives name) :
    Yields (fun columns => (∀ q ∈ side, (Node.select q).NeverRefers name) ∧ LackName columns name)
      (analyzeSide c s hints side) := by
  match side with
  | none => exact .throw trivial
  | some q =>
    refine .weaken (analyzeSelect_yields hc hs hints q (h q rfl) (hside q rfl))
      fun _ h => ⟨fun q' hq' => ?_, h.2⟩
    exact Option.mem_some.mp hq' ▸ h.1
termination_by structural side

theorem analyzeCtes_yields (hc : Undeclared c name) {s : Scope} (hs : s.Lacks name)
    (defined : List Relation) (hdefined : ∀ r ∈ defined, LackName r.columns name)
    (qs : List NamedQuery) (h : ∀ x ∈ qs, x.WellShaped)
    (hqs : ∀ x ∈ qs, x.query.NeverGives name) :
    Yields (fun rs => (∀ x ∈ qs, x.query.NeverRefers name) ∧ ∀ r ∈ rs, LackName r.columns name)
      (analyzeCtes c s defined qs) := by
  match qs with
  | [] => exact .pure ⟨List.forall_mem_nil _, hdefined⟩
  | ⟨cte, n⟩ :: qs =>
    obtain ⟨hn, hrest⟩ := List.forall_mem_cons.mp h
    obtain ⟨hgives, hgivesRest⟩ := List.forall_mem_cons.mp hqs
    -- the query is matched itself, so that the recursive call is seen to be on a part of it
    match n with
    | .select q =>
      cases hn with
      | mk _ hq =>
        refine .bind (analyzeSelect_yields hc (hs.ofCtes hdefined) [] q hq hgives)
          fun columns ⟨hrefers, hcolumns⟩ => ?_
        -- the next queries of the clause see this one as well
        have hdefined : ∀ r ∈ defined ++ [.derived cte columns false], LackName r.columns name :=
          List.forall_mem_append.mpr ⟨hdefined, List.forall_mem_singleton.mpr hcolumns⟩
        exact .weaken (analyzeCtes_yields hc hs _ hdefined qs hrest hgivesRest)
          fun _ h => ⟨List.forall_mem_cons.mpr ⟨hrefers, h.1⟩, h.2⟩
    | .schemaChange _ | .insert _ | .update _ | .delete _ | .logic .. | .operator .. | .column _
    | .param .. | .sublink .. | .call _ | .cast .. | .nullTest .. | .case .. | .literal _
    | .target .. | .table _ | .derived .. | .list _ | .unsupported .. | .name _ | .star => cases hn
termination_by structural qs

theorem inferRows_yields (hc : Undeclared c name) {s : Scope} (hs : s.Lacks name)
    (hints : List Hint) (rows : List Node) (h : ∀ n ∈ rows, n.IsRow)
    (hn : ∀ n ∈ rows, n.NeverGives name) :
    Yields (fun _ => ∀ n ∈ rows, n.NeverRefers name) (inferRows c s hints rows) := by
  match rows with
  | [] => exact .pure (List.forall_mem_nil _)
  | n :: rows =>
    obtain ⟨hrow, hrest⟩ := List.forall_mem_cons.mp h
    obtain ⟨hgives, hgivesRest⟩ := List.forall_mem_cons.mp hn
    cases hrow with
    | @mk items hitems =>
      rw [inferRows]
      -- a row of another length ends the analysis
      split
      · exact .throw_bind trivial _
      · exact .bind (inferRow_yields hc hs hints items hitems hgives.parts) fun _ hrow =>
          .bind (inferRows_yields hc hs hints rows hrest hgivesRest) fun _ hrest =>
          .pure (List.forall_mem_cons.mpr ⟨.of_parts nofun hrow, hrest⟩)
termination_by structural rows

theorem inferRow_yields (hc : Undeclared c name) {s : Scope} (hs : s.Lacks name)
    (hints : List Hint) (ns : List Node) (h : ∀ n ∈ ns, n.IsExpr)
    (hns : ∀ n ∈ ns, n.NeverGives name) :
    Yields (fun _ => ∀ n ∈ ns, n.NeverRefers name) (inferRow c s hints ns) := by
  match ns with
  | [] => exact .pure (List.forall_mem_nil _)
  | n :: ns =>
    obtain ⟨hn, hrest⟩ := List.forall_mem_cons.mp h
    obtain ⟨hgives, hgivesRest⟩ := List.forall_mem_cons.mp hns
    exact .bind (inferExpr_yields hc hs _ n hn hgives) fun _ hrefers =>
      .bind (inferRow_yields hc hs _ ns hrest hgivesRest) fun _ hrefersRest =>
      .pure (List.forall_mem_cons.mpr ⟨hrefers, hrefersRest⟩)
termination_by structural ns

theorem analyzeSource_yields (hc : Undeclared c name) {s : Scope} (hs : s.Lacks name) (n : Node)
    (h : n.IsSource) (hn : n.NeverGives name) :
    Yields (fun found => n.NeverRefers name ∧ ∀ r ∈ found, LackName r.columns name)
      (analyzeSource c s n) := by
  cases h with
  | table t =>
    exact .weaken (analyzeTable_yields hc hs t)
      fun _ h => ⟨.of_parts nofun (List.forall_mem_nil _), h⟩
  | derived _ _ hq =>
    exact .bind (analyzeSelect_yields hc hs [] _ hq (hn.parts _ (.head _)))
      fun _ ⟨hrefers, hcolumns⟩ =>
      .pure ⟨.of_parts nofun (List.forall_mem_singleton.mpr hrefers), forall_mem_some hcolumns⟩
termination_by structural n

theorem analyzeSources_yields (hc : Undeclared c name) {s : Scope} (hs : s.Lacks name)
    (ns : List Node) (h : ∀ n ∈ ns, n.IsSource) (hns : ∀ n ∈ ns, n.NeverGives name) :
    Yields (fun rs => (∀ n ∈ ns, n.NeverRefers name) ∧ ∀ r ∈ rs, LackName r.columns name)
      (analyzeSources c s ns) := by
  match ns with
  | [] => exact .pure ⟨List.forall_mem_nil _, List.forall_mem_nil _⟩
  | n :: ns =>
    obtain ⟨hn, hrest⟩ := List.forall_mem_cons.mp h
    obtain ⟨hgives, hgivesRest⟩ := List.forall_mem_cons.mp hns
    refine .bind (analyzeSource_yields hc hs n hn hgives) fun found ⟨hrefers, hfound⟩ =>
      .bind (analyzeSources_yields hc hs ns hrest hgivesRest) fun rs ⟨hrefersRest, hrs⟩ => .pure ?_
    exact ⟨List.forall_mem_cons.mpr ⟨hrefers, hrefersRest⟩,
      List.forall_mem_append.mpr ⟨fun r hr => hfound r (Option.mem_toList.mp hr), hrs⟩⟩
termination_by structural ns

theorem analyzeTargets_yields (hc : Undeclared c name) {s : Scope} (hs : s.Lacks name)
    (hints : List Hint) (position : Nat) (ns : List Node) (h : ∀ n ∈ ns, n.IsTarget)
    (hns : ∀ n ∈ ns, n.NeverGives name) (haliases : ∀ n ∈ ns, n.targetName? ≠ some name) :
    Yields (fun columns => (∀ n ∈ ns, n.NeverRefers name) ∧ LackName columns name)
      (analyzeTargets c s hints position ns) := by
  match ns with
  | [] => exact .pure ⟨List.forall_mem_nil _, List.forall_mem_nil _⟩
  | n :: ns =>
    obtain ⟨hn, hrest⟩ := List.forall_mem_cons.mp h
    obtain ⟨hgives, hgivesRest⟩ := List.forall_mem_cons.mp hns
    obtain ⟨halias, haliasesRest⟩ := List.forall_mem_cons.mp haliases
    have ih (position : Nat) :=
      analyzeTargets_yields hc hs hints position ns hrest hgivesRest haliasesRest
    cases hn with
    | @mk given value location hvalue =>
      have htarget (h : value.NeverRefers name) :
          (Node.target given (some value) location).NeverRefers name :=
        .of_parts nofun (List.forall_mem_singleton.mpr h)
      rw [analyzeTargets]
      split
      · rename_i hstar
        split
        · rename_i columns hexpand
          refine .bind (ih _) fun rest ⟨hrefers, hrest⟩ => .pure ⟨?_, ?_⟩
          · exact List.forall_mem_cons.mpr ⟨htarget (.of_star hvalue hstar), hrefers⟩
          · exact List.forall_mem_append.mpr ⟨hs.expandStar hexpand, hrest⟩
        · exact .throw trivial
      · -- the column is called by its alias, or else by what its value refers to or calls
        refine .bind (inferExpr_yields hc hs _ value hvalue (hgives.parts value (.head _)))
          fun i hvalueRefers => .bind (ih _) fun rest ⟨hrefers, hrest⟩ => .pure ⟨?_, ?_⟩
        · exact List.forall_mem_cons.mpr ⟨htarget hvalueRefers, hrefers⟩
        · refine List.forall_mem_cons.mpr ⟨?_, hrest⟩
          cases given with
          | none => exact defaultName_ne hc hvalueRefers (hgives.parts value (.head _)) _
          | some given => exact fun h => halias (congrArg some h)
termination_by structural ns

end

/-! ## Statements -/

section Statements

variable (hc : Undeclared c name)

include hc

theorem analyzeAssignment_yields {s : Scope} (hs : s.Lacks name) (target : Relation) {n : Node}
    (h : n.IsAssignment) (hn : n.NeverGives name) :
    Yields (fun _ => n.NeverRefers name) (analyzeAssignment c s target n) := by
  obtain @⟨given, value, location, hvalue⟩ := h
  have hrest (hint : Option Hint) :
      Yields (fun _ => (Node.target given value location).NeverRefers name)
        (discard (inferOption c s hint value)) := by
    -- the hint does not matter, since the value is read whatever it is
    refine .weaken (.discard (inferOption_yields hc hs hint value hvalue ?_)) fun _ hrefers => ?_
    · exact fun m hm => hn.parts m (Option.mem_toList.mpr hm)
    · exact .of_parts nofun fun m hm => hrefers m (Option.mem_toList.mp hm)
  cases given with
  | none => exact .after hrest
  | some given =>
    rw [analyzeAssignment]
    dsimp only
    -- an assignment to an unknown column ends the analysis
    split
    · exact .after hrest
    · exact .throw_bind trivial _

theorem analyzeAssignments_yields {s : Scope} (hs : s.Lacks name) (target : Relation)
    {ns : List Node} (h : ∀ n ∈ ns, n.IsAssignment) (hns : ∀ n ∈ ns, n.NeverGives name) :
    Yields (fun _ => ∀ n ∈ ns, n.NeverRefers name) (ns.forM (analyzeAssignment c s target)) := by
  induction ns with
  | nil => exact .pure (List.forall_mem_nil _)
  | cons n ns ih =>
    obtain ⟨hn, hrest⟩ := List.forall_mem_cons.mp h
    obtain ⟨hgives, hgivesRest⟩ := List.forall_mem_cons.mp hns
    exact .bind (analyzeAssignment_yields hc hs target hn hgives) fun _ hrefers =>
      .weaken (ih hrest hgivesRest) fun _ hrefersRest =>
      List.forall_mem_cons.mpr ⟨hrefers, hrefersRest⟩

theorem targetRelation_yields (t : TableRef) :
    Yields (fun x => LackName x.2.columns name) (targetRelation c t) := by
  rw [targetRelation]
  cases hfound : c.lookupTable t.tableName with
  | error e => exact .throw_bind trivial _
  | ok found => exact .pure (Relation.lackName_ofTable (hc.lookup hfound) _ _)

theorem analyzeConflict_yields {target : Relation} (htarget : LackName target.columns name)
    {i : Insert} (h : i.WellShaped) (htargets : ∀ n ∈ i.conflictTargets, n.NeverGives name)
    (hcondition : ∀ n ∈ i.conflictCondition, n.NeverGives name) :
    Yields (fun _ => (∀ n ∈ i.conflictTargets, n.NeverRefers name) ∧
      ∀ n ∈ i.conflictCondition, n.NeverRefers name) (analyzeConflict c target i) := by
  rw [analyzeConflict]
  split
  · -- there is no ON CONFLICT, and so nothing that could refer to the name
    rename_i hnone
    obtain ⟨hnoTargets, hnoCondition⟩ := Bool.and_eq_true_iff.mp hnone
    refine .pure ⟨?_, ?_⟩
    · rw [List.isEmpty_iff.mp hnoTargets]
      exact List.forall_mem_nil _
    · rw [Option.isNone_iff_eq_none.mp hnoCondition]
      exact forall_mem_none
  · -- the values to insert are seen as a second table with the same columns
    have hs : Scope.Lacks [.ofRelations [target],
        .ofRelations [{ target with name := "excluded", schema := none }]] name :=
      Scope.Lacks.ofRelation (Scope.Lacks.ofRelation (List.forall_mem_nil _) htarget) htarget
    exact .bind (analyzeAssignments_yields hc hs target h.conflictTargets htargets)
      fun _ htargets => .weaken (.discard (inferOption_yields hc hs none _ h.conflictCondition
        hcondition)) fun _ hcondition => ⟨htargets, hcondition⟩

theorem analyzeInsert_yields {i : Insert} (h : i.WellShaped)
    (hi : (Node.insert i).NeverGives name) :
    Yields (fun _ => (Node.insert i).NeverRefers name) (analyzeInsert c i) := by
  obtain ⟨-, hgsource, hgtargets, hgcondition, hgreturning⟩ := forall_parts_insert.mp hi.parts
  -- the listed columns are targets without values
  have hcolumns : ∀ m ∈ i.columns, m.NeverRefers name := by
    intro m hm
    obtain ⟨given, location⟩ := h.columns m hm
    exact .of_parts nofun (List.forall_mem_nil _)
  have hsource (hints : List Hint) : Yields (fun _ => (Node.select i.source).NeverRefers name)
      (discard (analyzeSelect c [] hints i.source)) :=
    .discard (.weaken (analyzeSelect_yields hc (List.forall_mem_nil _) hints _ h.source hgsource)
      fun _ h => h.1)
  refine .bind (targetRelation_yields hc i.table) fun x htarget => .after fun hints =>
    .bind (hsource hints) fun _ hsource =>
    .bind (analyzeConflict_yields hc htarget h hgtargets hgcondition) fun _ hconflict => ?_
  have hs : Scope.Lacks [.ofRelations [x.2]] name :=
    Scope.Lacks.ofRelation (List.forall_mem_nil _) htarget
  refine .bind (analyzeTargets_yields hc hs [] 0 i.returning h.returning hgreturning
    fun m hm hname => hi.self (List.mem_filterMap.mpr ⟨m, hm, hname⟩))
    fun _ hreturning => .pure (.of_parts nofun ?_)
  exact forall_parts_insert.mpr ⟨hcolumns, hsource, hconflict.1, hconflict.2, hreturning.1⟩

theorem analyzeUpdate_yields {u : Update} (h : u.WellShaped)
    (hu : (Node.update u).NeverGives name) :
    Yields (fun _ => (Node.update u).NeverRefers name) (analyzeUpdate c u) := by
  obtain ⟨hgtargets, hgsource, hgjoinConditions, hgcondition, hgreturning⟩ :=
    forall_parts_update.mp hu.parts
  refine .bind (targetRelation_yields hc u.table) fun x htarget =>
    .bind (analyzeSources_yields hc (List.forall_mem_nil _) u.source h.source hgsource)
      fun others hothers => ?_
  have hs : Scope.Lacks [.ofRelations (x.2 :: others)] name :=
    Scope.Lacks.ofRelations (List.forall_mem_nil _) (List.forall_mem_cons.mpr ⟨htarget, hothers.2⟩)
      (List.forall_mem_nil _)
  refine .bind (.discard (inferAll_yields hc hs none _ h.joinConditions hgjoinConditions))
    fun _ hjoinConditions => .bind (analyzeAssignments_yields hc hs x.2 h.targets hgtargets)
    fun _ htargets => .bind (.discard (inferOption_yields hc hs none _ h.condition hgcondition))
    fun _ hcondition => .weaken (analyzeTargets_yields hc hs [] 0 u.returning h.returning
      hgreturning fun m hm hname => hu.self (List.mem_filterMap.mpr ⟨m, hm, hname⟩))
    fun _ hreturning => .of_parts nofun ?_
  exact forall_parts_update.mpr ⟨htargets, hothers.1, hjoinConditions, hcondition, hreturning.1⟩

theorem analyzeDelete_yields {d : Delete} (h : d.WellShaped)
    (hd : (Node.delete d).NeverGives name) :
    Yields (fun _ => (Node.delete d).NeverRefers name) (analyzeDelete c d) := by
  obtain ⟨hgsource, hgjoinConditions, hgcondition, hgorderBy, hglimit, hgreturning⟩ :=
    forall_parts_delete.mp hd.parts
  refine .bind (targetRelation_yields hc d.table) fun x htarget =>
    .bind (analyzeSources_yields hc (List.forall_mem_nil _) d.source h.source hgsource)
      fun others hothers => ?_
  have hs : Scope.Lacks [.ofRelations (x.2 :: others)] name :=
    Scope.Lacks.ofRelations (List.forall_mem_nil _) (List.forall_mem_cons.mpr ⟨htarget, hothers.2⟩)
      (List.forall_mem_nil _)
  refine .bind (.discard (inferAll_yields hc hs none _ h.joinConditions hgjoinConditions))
    fun _ hjoinConditions => .bind (.discard
      (inferOption_yields hc hs none _ h.condition hgcondition))
    fun _ hcondition => .bind (.discard (inferAll_yields hc hs none _ h.orderBy hgorderBy))
    fun _ horderBy => .bind (.discard (inferOption_yields hc hs _ _ h.limit hglimit))
    fun _ hlimit => .weaken (analyzeTargets_yields hc hs [] 0 d.returning h.returning
      hgreturning fun m hm hname => hd.self (List.mem_filterMap.mpr ⟨m, hm, hname⟩))
    fun _ hreturning => .of_parts nofun ?_
  exact forall_parts_delete.mpr
    ⟨hothers.1, hjoinConditions, hcondition, horderBy, hlimit, hreturning.1⟩

theorem analyzeStatement_yields {n : Node} (h : n.IsStatement) (hn : n.NeverGives name) :
    Yields (fun _ => n.NeverRefers name) (analyzeStatement c n) := by
  cases h with
  | select h =>
    exact .bind (analyzeSelect_yields hc (List.forall_mem_nil _) [] _ h hn) fun _ h => .pure h.1
  | insert h => exact .bind (analyzeInsert_yields hc h hn) fun _ h => .pure h
  | update h => exact .bind (analyzeUpdate_yields hc h hn) fun _ h => .pure h
  | delete h => exact .bind (analyzeDelete_yields hc h hn) fun _ h => .pure h
  | other h =>
    cases n with
    | select | insert | update | delete => cases h
    | _ => exact .throw trivial

end Statements

/-- The sort keys of a VALUES do not matter to its analysis. -/
theorem analyzeSelect_values_orderBy (c : Catalog) (s : Scope) (hints : List Hint) {q : Select}
    (h : q.IsValues) (keys : List Node) :
    analyzeSelect c s hints { q with orderBy := keys } = analyzeSelect c s hints q := by
  obtain ⟨hoperation, hrows⟩ := h
  rw [analyzeSelect_eq, analyzeSelect_eq]
  refine bind_congr fun defined => ?_
  simp only [analyzeBody, hoperation, hrows, ne_eq, not_true_eq_false, if_false, Bool.not_false,
    if_true]

/-- The analysis of a converted statement that contains a reference to a name, which no table
declares and no part of the statement gives to a column, fails if it comes across the reference. It
does so unless the reference stands in a sort key of a VALUES, where no analysis looks. -/
theorem analyze_unknown_name {d : Dialect} {s : Sql.ScriptStatement} {r : Converted}
    (hconvert : convert d s = .ok r) {c : Catalog} {name : String} (hc : Undeclared c name)
    (hgives : r.node.NeverGives name) {fields : List Node} (hin : .column fields ∈ r.node.walk)
    (hname : columnName? fields = some name) :
    (r.node.Reads (.column fields) → ∃ e, analyze c r.node = .error e) ∧
      (¬ r.node.Reads (.column fields) → ∃ q key, r.node.Reads (.select q) ∧ q.IsValues ∧
        key ∈ q.orderBy ∧ key.Contains (.column fields) ∧ ∀ s hints keys,
          analyzeSelect c s hints { q with orderBy := keys } = analyzeSelect c s hints q) := by
  refine ⟨fun hreads => ?_, fun hunread => ?_⟩
  · have hrun := analyzeStatement_yields hc (convert_isStatement hconvert) hgives []
    rw [analyze]
    rcases hstatement : (analyzeStatement c r.node).run [] with e | x
    · exact ⟨e, rfl⟩
    · -- an answer is given only if the statement does not refer to the name
      rw [hstatement] at hrun
      exact absurd hname (hrun fields hreads)
  · obtain ⟨q, key, hq, hvalues, hkey, hcontains⟩ :=
      (Node.contains_of_mem_walk hin).reads_or.resolve_left hunread
    exact ⟨q, key, hq, hvalues, hkey, hcontains,
      fun s hints keys => analyzeSelect_values_orderBy c s hints hvalues keys⟩

theorem undeclared_nosuch : Undeclared twoColumns "nosuch" := by
  refine ⟨by decide, fun k h => ?_⟩
  -- a name for a position starts with another character
  have hhead := congrArg (fun given => given.toList.head?) h
  simp [positionName] at hhead

/-- A tree is that of `SELECT a FROM t ORDER BY nosuch`, for some table `t`. -/
def isSortedQuery : Node → Bool
  | .select ⟨[], [.target none (some (.column [.name "a"])) _], [.table _], [], none, [], [], none,
      [], [.column [.name "nosuch"]], none, none, [], .none, _, none, none⟩ => true
  | _ => false

theorem analyze_unknown_name_orderBy : ∃ s r,
    (Sql.Script.parse .postgres none "SELECT a FROM t ORDER BY nosuch").statements = [s] ∧
      convert .postgres s = .ok r ∧ r.node.NeverGives "nosuch" ∧
      r.node.Reads (.column [.name "nosuch"]) ∧ ∃ e, analyze twoColumns r.node = .error e := by
  obtain ⟨s, r, hs, hconvert, hcheck⟩ := Conversion.exists_converted .postgres
    "SELECT a FROM t ORDER BY nosuch" (fun _ r => isSortedQuery r.node) (by decide +kernel)
  -- all that has to be known of the tree is its form
  rw [isSortedQuery.eq_def] at hcheck
  split at hcheck
  case h_2 => cases hcheck
  case h_1 hnode =>
    have hgives : r.node.NeverGives "nosuch" := by
      rw [hnode]
      refine .of_parts List.not_mem_nil (List.forall_mem_cons.mpr ⟨?_, List.forall_mem_cons.mpr
        ⟨?_, List.forall_mem_singleton.mpr (.column "nosuch")⟩⟩)
      · exact .of_parts List.not_mem_nil (List.forall_mem_singleton.mpr (.column "a"))
      · exact .of_parts List.not_mem_nil (List.forall_mem_nil _)
    have hreads : r.node.Reads (.column [.name "nosuch"]) := by
      rw [hnode]
      exact .part (.tail _ (.tail _ (.head _))) (.self _)
    have hin : .column [.name "nosuch"] ∈ r.node.walk := by
      rw [hnode]
      simp [Node.walk, Select.walk, walkAll, walkOption, walkNamed, walkSide, walkWindows]
    have h := analyze_unknown_name hconvert undeclared_nosuch hgives hin rfl
    exact ⟨s, r, hs, hconvert, hgives, hreads, h.1 hreads⟩

/-- A tree is that of `VALUES (v) ORDER BY nosuch`, for some literal `v`. -/
def isSortedValues : Node → Bool
  | .select ⟨[], [], [], [], none, [], [], none, [], [.column [.name "nosuch"]], none, none,
      [.list [.literal _]], .none, _, none, none⟩ => true
  | _ => false

/-- The sort key of a VALUES is a reference to an unknown name, and still the analysis has an
answer. -/
theorem analyze_ok_of_unknown_sortKey : ∃ s r,
    (Sql.Script.parse .postgres none "VALUES (1) ORDER BY nosuch").statements = [s] ∧
      convert .postgres s = .ok r ∧ Undeclared twoColumns "nosuch" ∧
      r.node.NeverGives "nosuch" ∧ .column [.name "nosuch"] ∈ r.node.walk ∧
      ∃ answer, analyze twoColumns r.node = .ok answer := by
  obtain ⟨s, r, hs, hconvert, hcheck⟩ := Conversion.exists_converted .postgres
    "VALUES (1) ORDER BY nosuch"
    (fun _ r => isSortedValues r.node && (analyze twoColumns r.node).isOk) (by decide +kernel)
  obtain ⟨htree, hrun⟩ := Bool.and_eq_true_iff.mp hcheck
  rcases hanswer : analyze twoColumns r.node with e | answer
  · rw [hanswer] at hrun
    cases hrun
  rw [isSortedValues.eq_def] at htree
  split at htree
  case h_2 => cases htree
  case h_1 hnode =>
    have hgives : r.node.NeverGives "nosuch" := by
      rw [hnode]
      refine .of_parts List.not_mem_nil (List.forall_mem_cons.mpr
        ⟨.of_parts List.not_mem_nil (List.forall_mem_singleton.mpr ?_),
          List.forall_mem_singleton.mpr (.column "nosuch")⟩)
      exact .of_parts List.not_mem_nil (List.forall_mem_nil _)
    -- the reference stands in the tree, although it is not read
    have hin : .column [.name "nosuch"] ∈ r.node.walk := by
      rw [hnode]
      simp [Node.walk, Select.walk, walkAll, walkOption, walkNamed, walkSide, walkWindows]
    exact ⟨s, r, hs, hconvert, undeclared_nosuch, hgives, hin, answer, hanswer⟩

end TypedSql
