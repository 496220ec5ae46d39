import Mathlib.Data.List.Forall2
import TypedSql.Proofs.Analysis.Run
import TypedSql.Proofs.Queries.OpenTables
import TypedSql.Proofs.Queries.Relocation

/-!
# Agreement

An analysis looks up columns by their names and the tables that a statement leaves open, and nothing
else of the catalog or of the levels around it. Where these lookups agree the analyses are the same,
whatever the locations of the nodes are.

- **Surroundings**: catalogs and scopes that agree on some tables
- **Lookups**: what names mean in surroundings that agree
- **Constructs**: one statement for each function of the analysis
-/

namespace TypedSql

open Canonical

/-! ## Surroundings -/

/-- Two catalogs, each with a scope, in which the names of columns mean the same, and so do the
tables that satisfy `P`. -/
structure AgreeOn (P : TableRef → Prop) (c : Catalog) (s : Scope) (c' : Catalog) (s' : Scope) :
    Prop where
  names : ∀ qualifiers name, s'.resolveName qualifiers name = s.resolveName qualifiers name
  tables : ∀ t, P t → analyzeSource c' s' (.table t) = analyzeSource c s (.table t)

/-- Every table among the nodes satisfies `P`. -/
def TablesIn (P : TableRef → Prop) (ns : List Node) : Prop := ∀ t, Node.table t ∈ ns → P t

section Tables

variable {P : TableRef → Prop}

@[simp] theorem tablesIn_nil : TablesIn P [] := fun _ h => nomatch h

@[simp] theorem tablesIn_append (ns ns' : List Node) :
    TablesIn P (ns ++ ns') ↔ TablesIn P ns ∧ TablesIn P ns' := by
  simp [TablesIn, or_imp, forall_and]

@[simp] theorem tablesIn_cons (n : Node) (ns : List Node) :
    TablesIn P (n :: ns) ↔ (∀ t, n = .table t → P t) ∧ TablesIn P ns := by
  simp [TablesIn, or_imp, forall_and, eq_comm]

end Tables

theorem TablesIn.select {P : TableRef → Prop} {q : Select} (h : TablesIn P q.walk) :
    ∀ t ∈ q.openTables, P t := fun t ht => h t (q.mem_walk_of_open ht)

theorem TablesIn.all {P : TableRef → Prop} {ns : List Node} (h : TablesIn P (walkAll ns)) :
    ∀ t ∈ openAll ns, P t := fun t ht => h t (mem_walkAll_of_open ns ht)

theorem TablesIn.option {P : TableRef → Prop} {n : Option Node} (h : TablesIn P (walkOption n)) :
    ∀ t ∈ openOption n, P t := fun t ht => h t (mem_walkOption_of_open n ht)

variable {P P' : TableRef → Prop} {c c' : Catalog} {s s' : Scope} {g : Nat → Nat}

/-- A table is the last query of the innermost level that has its name, or else what it is without
the level. -/
theorem analyzeTable_cons (c : Catalog) (l : ScopeLevel) (s : Scope) (t : TableRef) :
    analyzeSource c (l :: s) (.table t) =
      match l.ctes.reverse.find? fun r => t.mayName r.name with
      | some cte => pure (some { cte with name := t.visibleName, nullable := t.nullable })
      | none => analyzeSource c s (.table t) := by
  simp only [analyzeSource, Scope.findCte?, List.findSome?_cons]
  -- only a table without a schema can be one of a WITH query
  cases hschema : t.schema with
  | none =>
    simp only [TableRef.mayName, hschema, Option.isNone_none, Bool.true_and, if_true]
    cases l.ctes.reverse.find? fun r => r.name = t.name <;> rfl
  | some schema =>
    have hnone : (l.ctes.reverse.find? fun r => t.mayName r.name) = none :=
      List.find?_eq_none.mpr fun r _ => by simp [TableRef.mayName, hschema]
    rw [hnone]
    rfl

namespace AgreeOn

theorem refl (P : TableRef → Prop) (c : Catalog) (s : Scope) : AgreeOn P c s c s where
  names _ _ := rfl
  tables _ _ := rfl

theorem mono (h : AgreeOn P' c s c' s') (hP : ∀ t, P t → P' t) : AgreeOn P c s c' s' where
  names := h.names
  tables t ht := h.tables t (hP t ht)

/-- A level that knows no name is invisible. -/
theorem empty_level (c : Catalog) (s : Scope) :
    AgreeOn (fun _ => True) c s c (⟨[], [], []⟩ :: s) where
  names qualifiers name := by cases qualifiers <;> rfl
  tables t _ := by
    rw [analyzeTable_cons]
    rfl

/-- With a further level around both, the names of its queries mean the same as well. -/
theorem push (h : AgreeOn P c s c' s') (l : ScopeLevel) :
    AgreeOn (fun t => P t ∨ ∃ r ∈ l.ctes, t.mayName r.name = true) c (l :: s) c' (l :: s') where
  names qualifiers name := by simp only [Scope.resolveName, h.names]
  tables t ht := by
    rw [analyzeTable_cons, analyzeTable_cons]
    cases hfound : l.ctes.reverse.find? fun r => t.mayName r.name with
    | some cte => rfl
    | none =>
      refine h.tables t (ht.resolve_right ?_)
      rintro ⟨r, hr, hname⟩
      exact List.find?_eq_none.mp hfound r (List.mem_reverse.mpr hr) hname

/-! ## Lookups -/

theorem resolve (h : AgreeOn P c s c' s') (fields : List Node) :
    s'.resolve (relocateAll g fields) = s.resolve fields := by
  simp only [Scope.resolve, columnName?_relocateAll, qualifiers_relocateAll, h.names]

end AgreeOn

theorem expandStar_congr (h : s'.relations = s.relations) (qualifiers : List String) :
    s'.expandStar qualifiers = s.expandStar qualifiers := by
  simp only [Scope.expandStar, h]

@[simp] theorem defaultName_relocate (n : Node) (position : Nat) :
    defaultName (n.relocate g) position = defaultName n position := by
  -- the name of a column comes from its value, and locations are no part of names
  cases n with
  | column fields => simp [Node.relocate, defaultName]
  | call call => cases call; rfl
  | _ => rfl

@[simp] theorem bindAll_relocateAll (ns : List Node) : bindAll (relocateAll g ns) = bindAll ns := by
  induction ns with
  | nil => rfl
  | cons n ns ih => cases n <;> simp only [relocateAll, Node.relocate, bindAll, ih]

/-! ## Constructs -/

/-- The result columns of a query in a scope that knows the queries of its WITH clause. -/
def analyzeBody (c : Catalog) (s : Scope) (hints : List Hint) (q : Select) :
    AnalysisM (List ResultColumn) := do
  if q.operation ≠ .none then
    if q.left.isNone || q.right.isNone then malformed .missingSide
    let leftColumns ← analyzeSide c s hints q.left
    let rightColumns ← analyzeSide c s hints q.right
    let columns ← combineColumns leftColumns rightColumns
    let inner : Scope := ⟨[], [], columns⟩ :: s
    discard (inferAll c inner none q.orderBy)
    discard (inferOption c inner (some (.count "limit")) q.limit)
    discard (inferOption c inner (some (.count "offset")) q.offset)
    return columns
  else if !q.rows.isEmpty then
    let rows ← inferRows c s hints q.rows
    discard (inferOption c s (some (.count "limit")) q.limit)
    discard (inferOption c s (some (.count "offset")) q.offset)
    return valuesColumns rows
  else
    let relations ← analyzeSources c s q.source
    let inner : Scope := .ofRelations relations :: s
    discard (inferAll c inner none q.joinConditions)
    discard (inferOption c inner none q.condition)
    let columns ← analyzeTargets c inner hints 0 q.targets
    let inner := inner.setOutputs columns
    discard (inferAll c inner none q.distinctOn)
    discard (inferAll c inner none q.groupBy)
    discard (inferOption c inner none q.having)
    analyzeWindows c inner q.windows
    discard (inferAll c inner none q.orderBy)
    discard (inferOption c inner (some (.count "limit")) q.limit)
    discard (inferOption c inner (some (.count "offset")) q.offset)
    return columns

/-- The result columns of a plain query in a scope that knows the relations of its FROM clause. -/
def analyzeClauses (c : Catalog) (inner : Scope) (hints : List Hint) (q : Select) :
    AnalysisM (List ResultColumn) := do
  discard (inferAll c inner none q.joinConditions)
  discard (inferOption c inner none q.condition)
  let columns ← analyzeTargets c inner hints 0 q.targets
  let inner := inner.setOutputs columns
  discard (inferAll c inner none q.distinctOn)
  discard (inferAll c inner none q.groupBy)
  discard (inferOption c inner none q.having)
  analyzeWindows c inner q.windows
  discard (inferAll c inner none q.orderBy)
  discard (inferOption c inner (some (.count "limit")) q.limit)
  discard (inferOption c inner (some (.count "offset")) q.offset)
  return columns

/-- A plain query is analysed from its FROM clause on. -/
theorem analyzeBody_of_plain (c : Catalog) (s : Scope) (hints : List Hint) {q : Select}
    (hoperation : q.operation = .none) (hrows : q.rows = []) :
    analyzeBody c s hints q =
      analyzeSources c s q.source >>= fun relations =>
        analyzeClauses c (.ofRelations relations :: s) hints q := by
  rw [analyzeBody, if_neg (not_not_intro hoperation), hrows, if_neg Bool.noConfusion]
  rfl

/-- A query is analysed after the queries of its WITH clause. -/
theorem analyzeSelect_eq (c : Catalog) (s : Scope) (hints : List Hint) (q : Select) :
    analyzeSelect c s hints q =
      analyzeCtes c s [] q.ctes >>= fun defined =>
        analyzeBody c (⟨[], defined, []⟩ :: s) hints q := by
  cases q
  rw [analyzeSelect]
  rfl

section Body

/-- A WITH clause defines a relation under each of its names. -/
theorem names_analyzeCtes (c : Catalog) (s : Scope) (defined : List Relation)
    (qs : List NamedQuery) :
    Meets (fun _ => True)
      (fun rs => rs.map Relation.name = defined.map Relation.name ++ qs.map NamedQuery.name)
      (analyzeCtes c s defined qs) := by
  induction qs generalizing defined with
  | nil => exact .pure (by simp)
  | cons q qs ih =>
    obtain ⟨name, n⟩ := q
    cases n with
    | select query =>
      -- the query comes behind those defined so far, under its own name
      refine .after fun columns bs => ?_
      have h := ih (defined ++ [.derived name columns false]) bs
      simpa [Relation.derived] using h
    | _ => exact .throw trivial

/-- Every relation that a WITH clause defines has the name of one of its queries. -/
theorem exists_named_of_run {c : Catalog} {s : Scope} {qs : List NamedQuery} {bs : Bindings}
    {x : List Relation × Bindings} (hrun : (analyzeCtes c s [] qs).run bs = .ok x) {r : Relation}
    (hr : r ∈ x.1) : ∃ q ∈ qs, q.name = r.name := by
  have h := names_analyzeCtes c s [] qs bs
  rw [hrun] at h
  have hnames : x.1.map Relation.name = qs.map NamedQuery.name := h
  exact List.mem_map.mp (hnames ▸ List.mem_map_of_mem hr)

/-- Two steps that do the same wherever the surroundings agree. -/
def SameWhere {α : Type} (P : TableRef → Prop) (c c' : Catalog) (m m' : Scope → AnalysisM α) :
    Prop := ∀ s s', AgreeOn P c s c' s' → m' s' = m s

/-- The analyses of a query agree if those of its parts do, wherever these stand. -/
theorem analyzeBody_agree_of (hints : List Hint) (q : Select) (h : AgreeOn P c s c' s')
    (hsides : ∀ side ∈ [q.left, q.right], SameWhere P c c' (analyzeSide c · hints side)
      (analyzeSide c' · hints (relocateSide g side)))
    (hrows : SameWhere P c c' (inferRows c · hints q.rows)
      (inferRows c' · hints (relocateAll g q.rows)))
    (hsource : SameWhere P c c' (analyzeSources c · q.source)
      (analyzeSources c' · (relocateAll g q.source)))
    (htargets : ∀ l, AgreeOn P c (l :: s) c' (l :: s') →
      analyzeTargets c' (l :: s') hints 0 (relocateAll g q.targets) =
        analyzeTargets c (l :: s) hints 0 q.targets)
    (hwindows : SameWhere P c c' (analyzeWindows c · q.windows)
      (analyzeWindows c' · (relocateWindows g q.windows)))
    (hall : ∀ ns ∈ [q.joinConditions, q.distinctOn, q.groupBy, q.orderBy],
      SameWhere P c c' (inferAll c · none ns) (inferAll c' · none (relocateAll g ns)))
    (hoption : ∀ n ∈ [q.condition, q.having, q.limit, q.offset], ∀ hint,
      SameWhere P c c' (inferOption c · hint n) (inferOption c' · hint (relocateOption g n))) :
    analyzeBody c' s' hints (q.relocate g) = analyzeBody c s hints q := by
  obtain ⟨ctes, targets, source, joinConditions, condition, distinctOn, groupBy, having, windows,
    orderBy, limit, offset, rows, operation, all, left, right⟩ := q
  simp only [List.mem_cons, List.not_mem_nil, or_false, forall_eq_or_imp,
    forall_eq] at hsides hall hoption
  obtain ⟨hleft, hright⟩ := hsides
  obtain ⟨hjoins, hdistinctOn, hgroupBy, horderBy⟩ := hall
  obtain ⟨hcondition, hhaving, hlimit, hoffset⟩ := hoption
  -- the level that a body opens depends on its own relations and columns, which agree
  have hinner (l : ScopeLevel) : AgreeOn P c (l :: s) c' (l :: s') :=
    (h.push l).mono fun _ => .inl
  simp only [SameWhere] at *
  simp only [Select.relocate, analyzeBody, isNone_relocateSide, isEmpty_relocateAll,
    Scope.setOutputs, hleft _ _ h, hright _ _ h, hrows _ _ h, hsource _ _ h, hlimit _ _ _ h,
    hoffset _ _ _ h, horderBy _ _ (hinner _), hlimit _ _ _ (hinner _), hoffset _ _ _ (hinner _),
    hjoins _ _ (hinner _), hcondition _ _ _ (hinner _), htargets _ (hinner _),
    hdistinctOn _ _ (hinner _), hgroupBy _ _ (hinner _), hhaving _ _ _ (hinner _),
    hwindows _ _ (hinner _)]

/-- The analyses of a query agree if those of its WITH clause and of what stands behind it do. -/
theorem query_agree_of {hints : List Hint} {q : Select}
    (hbody : ∀ {P : TableRef → Prop} {s s' : Scope}, AgreeOn P c s c' s' →
      (∀ t ∈ q.bodyTables, P t) →
        analyzeBody c' s' hints (q.relocate g) = analyzeBody c s hints q)
    (hctes : ∀ {P : TableRef → Prop} {s s' : Scope}, AgreeOn P c s c' s' → ∀ body,
      (∀ t ∈ openNamed q.ctes body, P t) →
        analyzeCtes c' s' [] (relocateNamed g q.ctes) = analyzeCtes c s [] q.ctes) :
    (∀ {P : TableRef → Prop} {s s' : Scope}, AgreeOn P c s c' s' → (∀ t ∈ q.bodyTables, P t) →
      analyzeBody c' s' hints (q.relocate g) = analyzeBody c s hints q) ∧
    ∀ {P : TableRef → Prop} {s s' : Scope}, AgreeOn P c s c' s' → (∀ t ∈ q.openTables, P t) →
      analyzeSelect c' s' hints (q.relocate g) = analyzeSelect c s hints q := by
  refine ⟨hbody, fun {P s s'} h hq => ?_⟩
  rw [Select.openTables_eq] at hq
  have hdefined : analyzeCtes c' s' [] (q.relocate g).ctes = analyzeCtes c s [] q.ctes := by
    refine Eq.trans ?_ (hctes h _ hq)
    cases q
    rfl
  rw [analyzeSelect_eq, analyzeSelect_eq, hdefined]
  refine (names_analyzeCtes c s [] q.ctes).bind_congr fun defined hnames => ?_
  refine hbody (h.push ⟨[], defined, []⟩) fun t ht => ?_
  refine (mem_openNamed_of_mem q.ctes ht).imp (hq t) ?_
  -- the level that the body stands in has a relation for each query of the clause
  rintro ⟨x, hx, hname⟩
  have hmem : x.name ∈ defined.map Relation.name := hnames ▸ List.mem_map_of_mem hx
  obtain ⟨r, hr, hrname⟩ := List.mem_map.mp hmem
  exact ⟨r, hr, hrname ▸ hname⟩

end Body

mutual

theorem inferExpr_agree {P : TableRef → Prop} {s s' : Scope} (h : AgreeOn P c s c' s')
    (hint : Option Hint) (n : Node)
    (hn : ∀ t ∈ n.openTables, P t) :
    inferExpr c' s' hint (n.relocate g) = inferExpr c s hint n := by
  match n with
  | .column fields =>
    simp only [Node.relocate, inferExpr, endsInStar_relocateAll, h.resolve]
  | .logic op args =>
    simp only [Node.relocate, inferExpr, inferAll_agree h none args hn]
  | .operator name left none => cases left <;> rfl
  | .operator name none (some right) =>
    simp only [Node.relocate, relocateOption, inferExpr, inferExpr_agree h none right hn]
  | .operator name (some left) (some right) =>
    obtain ⟨hleft, hright⟩ := List.forall_mem_append.mp hn
    have ihleft := fun hint => inferExpr_agree h hint left hleft
    have ihright := fun hint => inferExpr_agree h hint right hright
    -- whether an operand is a placeholder does not depend on where it stands
    simp only [Node.relocate, relocateOption, inferExpr, Node.isParam_relocate, ihleft, ihright]
  | .nullTest arg isNull =>
    simp only [Node.relocate, inferExpr, inferExpr_agree h none arg hn]
  | .cast arg type =>
    simp only [Node.relocate, inferExpr, inferExpr_agree h _ arg hn]
  | .call ⟨name, args, orderBy, filter, window, star, distinct⟩ =>
    simp only [Node.openTables, Call.openTables, List.forall_mem_append] at hn
    obtain ⟨⟨⟨hargs, horderBy⟩, hfilter⟩, hwindow⟩ := hn
    simp only [Node.relocate, Call.relocate, inferExpr, inferAll_agree h none args hargs,
      inferAll_agree h none orderBy horderBy, inferOption_agree h none filter hfilter,
      analyzeOver_agree h window hwindow]
  | .case operand branches default =>
    simp only [Node.openTables, List.forall_mem_append] at hn
    obtain ⟨⟨hoperand, hbranches⟩, hdefault⟩ := hn
    have ihbranches := fun hint => inferBranches_agree h hint branches hbranches
    -- the operand hints at what the branches are, and its result is the same
    simp only [Node.relocate, inferExpr, inferOption_agree h none operand hoperand, ihbranches,
      inferOption_agree h none default hdefault]
  | .sublink kind test query negated =>
    obtain ⟨htest, hquery⟩ := List.forall_mem_append.mp hn
    have ihtest := fun hint => inferOption_agree h hint test htest
    simp only [Node.relocate, inferExpr, analyzeSublink_agree h query hquery]
    cases kind <;> simp only [ihtest]
  | .select query =>
    simp only [Node.relocate, inferExpr, (query_agree [] query).2 h hn]
  | .list items =>
    simp only [Node.relocate, inferExpr, inferAll_agree h hint items hn]
  | .unsupported construct params =>
    simp only [Node.relocate, inferExpr, bindAll_relocateAll]
  | .param number location => rfl
  | .literal value => rfl
  | .schemaChange _ | .insert _ | .update _ | .delete _ | .target .. | .table _ | .derived ..
  | .name _ | .star => rfl
termination_by structural n

theorem inferAll_agree {P : TableRef → Prop} {s s' : Scope} (h : AgreeOn P c s c' s')
    (hint : Option Hint) (ns : List Node)
    (hns : ∀ t ∈ openAll ns, P t) :
    inferAll c' s' hint (relocateAll g ns) = inferAll c s hint ns := by
  match ns with
  | [] => rfl
  | n :: ns =>
    obtain ⟨hn, hns⟩ := List.forall_mem_append.mp hns
    simp only [relocateAll, inferAll, inferExpr_agree h hint n hn, inferAll_agree h hint ns hns]
termination_by structural ns

theorem inferOption_agree {P : TableRef → Prop} {s s' : Scope} (h : AgreeOn P c s c' s')
    (hint : Option Hint) (n : Option Node)
    (hn : ∀ t ∈ openOption n, P t) :
    inferOption c' s' hint (relocateOption g n) = inferOption c s hint n := by
  match n with
  | none => rfl
  | some n => simp only [relocateOption, inferOption, inferExpr_agree h hint n hn]
termination_by structural n

theorem inferBranches_agree {P : TableRef → Prop} {s s' : Scope} (h : AgreeOn P c s c' s')
    (hint : Option Hint) (bs : List Branch)
    (hbs : ∀ t ∈ openBranches bs, P t) :
    inferBranches c' s' hint (relocateBranches g bs) = inferBranches c s hint bs := by
  match bs with
  | [] => rfl
  | ⟨condition, result⟩ :: bs =>
    simp only [openBranches, List.forall_mem_append] at hbs
    obtain ⟨⟨hcondition, hresult⟩, hbs⟩ := hbs
    simp only [relocateBranches, inferBranches, inferExpr_agree h hint condition hcondition,
      inferExpr_agree h none result hresult, inferBranches_agree h hint bs hbs]
termination_by structural bs

theorem analyzeSublink_agree {P : TableRef → Prop} {s s' : Scope} (h : AgreeOn P c s c' s')
    (n : Option Node)
    (hn : ∀ t ∈ openOption n, P t) :
    analyzeSublink c' s' (relocateOption g n) = analyzeSublink c s n := by
  match n with
  | none => rfl
  | some n =>
    match n with
    | .select query =>
      simp only [relocateOption, Node.relocate, analyzeSublink, (query_agree [] query).2 h hn]
    | .schemaChange _ | .insert _ | .update _ | .delete _ | .logic .. | .operator .. | .column _
    | .param .. | .sublink .. | .call _ | .cast .. | .nullTest .. | .case .. | .literal _
    | .target .. | .table _ | .derived .. | .list _ | .unsupported .. | .name _ | .star =>
      -- what is no query is read like any other expression
      exact congrArg (fun m => discard m >>= fun _ => pure []) (inferExpr_agree h none _ hn)
termination_by structural n

theorem analyzeOver_agree {P : TableRef → Prop} {s s' : Scope} (h : AgreeOn P c s c' s')
    (w : Option Window)
    (hw : ∀ t ∈ openOver w, P t) :
    analyzeOver c' s' (relocateOver g w) = analyzeOver c s w := by
  match w with
  | none => rfl
  | some w => exact analyzeWindow_agree h w hw
termination_by structural w

theorem analyzeWindow_agree {P : TableRef → Prop} {s s' : Scope} (h : AgreeOn P c s c' s')
    (w : Window) (hw : ∀ t ∈ w.openTables, P t) :
    analyzeWindow c' s' (w.relocate g) = analyzeWindow c s w := by
  match w with
  | ⟨name, base, partitionBy, orderBy, startOffset, endOffset⟩ =>
    simp only [Window.openTables, List.forall_mem_append] at hw
    obtain ⟨⟨⟨hpartitionBy, horderBy⟩, hstart⟩, hend⟩ := hw
    simp only [Window.relocate, analyzeWindow, inferAll_agree h none partitionBy hpartitionBy,
      inferAll_agree h none orderBy horderBy, inferOption_agree h _ startOffset hstart,
      inferOption_agree h _ endOffset hend]
termination_by structural w

theorem analyzeWindows_agree {P : TableRef → Prop} {s s' : Scope} (h : AgreeOn P c s c' s')
    (ws : List Window)
    (hws : ∀ t ∈ openWindows ws, P t) :
    analyzeWindows c' s' (relocateWindows g ws) = analyzeWindows c s ws := by
  match ws with
  | [] => rfl
  | w :: ws =>
    obtain ⟨hw, hws⟩ := List.forall_mem_append.mp hws
    simp only [relocateWindows, analyzeWindows, analyzeWindow_agree h w hw,
      analyzeWindows_agree h ws hws]
termination_by structural ws

/-- A query, without its WITH clause and with it. -/
theorem query_agree (hints : List Hint) (q : Select) :
    (∀ {P : TableRef → Prop} {s s' : Scope}, AgreeOn P c s c' s' → (∀ t ∈ q.bodyTables, P t) →
      analyzeBody c' s' hints (q.relocate g) = analyzeBody c s hints q) ∧
    ∀ {P : TableRef → Prop} {s s' : Scope}, AgreeOn P c s c' s' → (∀ t ∈ q.openTables, P t) →
      analyzeSelect c' s' hints (q.relocate g) = analyzeSelect c s hints q := by
  match q with
  | ⟨ctes, targets, source, joinConditions, condition, distinctOn, groupBy, having, windows,
      orderBy, limit, offset, rows, operation, all, left, right⟩ =>
    -- the WITH clause is dealt with apart, since what it defines is not left open by the body
    refine query_agree_of (fun {P s s'} h hq => ?_) fun h body hq =>
      analyzeCtes_agree h [] ctes body fun t ht => .inl (hq t ht)
    simp only [Select.bodyTables, Select.openTables, openNamed, List.forall_mem_append] at hq
    obtain ⟨⟨⟨⟨⟨⟨⟨⟨⟨⟨⟨⟨⟨hleft, hright⟩, htargets⟩, hsource⟩, hjoins⟩, hcondition⟩, hdistinctOn⟩,
      hgroupBy⟩, hhaving⟩, hwindows⟩, hrows⟩, horderBy⟩, hlimit⟩, hoffset⟩ := hq
    refine analyzeBody_agree_of (P := P) hints _ h ?_
      (fun _ _ h => inferRows_agree h hints rows hrows)
      (fun _ _ h => analyzeSources_agree h source hsource)
      (fun _ h => analyzeTargets_agree h rfl hints 0 targets htargets)
      (fun _ _ h => analyzeWindows_agree h windows hwindows) ?_ ?_
    · simp only [List.mem_cons, List.not_mem_nil, or_false, forall_eq_or_imp, forall_eq]
      exact ⟨fun _ _ h => analyzeSide_agree h hints left hleft,
        fun _ _ h => analyzeSide_agree h hints right hright⟩
    · simp only [List.mem_cons, List.not_mem_nil, or_false, forall_eq_or_imp, forall_eq]
      exact ⟨fun _ _ h => inferAll_agree h none joinConditions hjoins,
        fun _ _ h => inferAll_agree h none distinctOn hdistinctOn,
        fun _ _ h => inferAll_agree h none groupBy hgroupBy,
        fun _ _ h => inferAll_agree h none orderBy horderBy⟩
    · simp only [List.mem_cons, List.not_mem_nil, or_false, forall_eq_or_imp, forall_eq]
      exact ⟨fun hint _ _ h => inferOption_agree h hint condition hcondition,
        fun hint _ _ h => inferOption_agree h hint having hhaving,
        fun hint _ _ h => inferOption_agree h hint limit hlimit,
        fun hint _ _ h => inferOption_agree h hint offset hoffset⟩
termination_by structural q

theorem analyzeSide_agree {P : TableRef → Prop} {s s' : Scope} (h : AgreeOn P c s c' s')
    (hints : List Hint) (q : Option Select)
    (hq : ∀ t ∈ openSide q, P t) :
    analyzeSide c' s' hints (relocateSide g q) = analyzeSide c s hints q := by
  match q with
  | none => rfl
  | some q => exact (query_agree hints q).2 h hq
termination_by structural q

theorem analyzeCtes_agree {P : TableRef → Prop} {s s' : Scope} (h : AgreeOn P c s c' s')
    (defined : List Relation) (qs : List NamedQuery) (body : List TableRef)
    (hqs : ∀ t ∈ openNamed qs body, P t ∨ ∃ r ∈ defined, t.mayName r.name = true) :
    analyzeCtes c' s' defined (relocateNamed g qs) = analyzeCtes c s defined qs := by
  match qs with
  | [] => rfl
  | ⟨name, n⟩ :: qs =>
    obtain ⟨hn, hrest⟩ := List.forall_mem_append.mp hqs
    match n with
    | .select query =>
      have ih (columns : List ResultColumn) := analyzeCtes_agree h
        (defined ++ [.derived name columns false]) qs body fun t ht => by
          -- an open table is one of the scope around, or has been defined before it in the clause
          rcases mem_leaveOpen_or name ht with hopen | hname
          · refine (hrest t hopen).imp_right ?_
            exact fun ⟨r, hr, h⟩ => ⟨r, List.mem_append_left _ hr, h⟩
          · exact .inr ⟨_, List.mem_append_right _ (List.mem_singleton_self _), hname⟩
      simp only [relocateNamed, Node.relocate, analyzeCtes,
        (query_agree [] query).2 (h.push ⟨[], defined, []⟩) hn, ih]
    | .schemaChange _ | .insert _ | .update _ | .delete _ | .logic .. | .operator .. | .column _
    | .param .. | .sublink .. | .call _ | .cast .. | .nullTest .. | .case .. | .literal _
    | .target .. | .table _ | .derived .. | .list _ | .unsupported .. | .name _ | .star => rfl
termination_by structural qs

theorem inferRows_agree {P : TableRef → Prop} {s s' : Scope} (h : AgreeOn P c s c' s')
    (hints : List Hint) (ns : List Node)
    (hns : ∀ t ∈ openAll ns, P t) :
    inferRows c' s' hints (relocateAll g ns) = inferRows c s hints ns := by
  match ns with
  | [] => rfl
  | n :: rows =>
    obtain ⟨hn, hrows⟩ := List.forall_mem_append.mp hns
    match n with
    | .list items =>
      simp only [relocateAll, Node.relocate, inferRows, length_relocateAll,
        inferRow_agree h hints items hn, inferRows_agree h hints rows hrows]
    | .schemaChange _ | .insert _ | .update _ | .delete _ | .logic .. | .operator .. | .column _
    | .param .. | .sublink .. | .call _ | .cast .. | .nullTest .. | .case .. | .literal _
    | .target .. | .table _ | .derived .. | .select _ | .unsupported .. | .name _ | .star => rfl
termination_by structural ns

theorem inferRow_agree {P : TableRef → Prop} {s s' : Scope} (h : AgreeOn P c s c' s')
    (hints : List Hint) (ns : List Node)
    (hns : ∀ t ∈ openAll ns, P t) :
    inferRow c' s' hints (relocateAll g ns) = inferRow c s hints ns := by
  match ns with
  | [] => rfl
  | n :: ns =>
    obtain ⟨hn, hns⟩ := List.forall_mem_append.mp hns
    simp only [relocateAll, inferRow, inferExpr_agree h _ n hn, inferRow_agree h _ ns hns]
termination_by structural ns

theorem analyzeSource_agree {P : TableRef → Prop} {s s' : Scope} (h : AgreeOn P c s c' s')
    (n : Node) (hn : ∀ t ∈ n.openTables, P t) :
    analyzeSource c' s' (n.relocate g) = analyzeSource c s n := by
  match n with
  | .table t => exact h.tables t (hn t (List.mem_singleton_self _))
  | .derived query aliasName nullable =>
    match query with
    | .select query =>
      simp only [Node.relocate, analyzeSource, (query_agree [] query).2 h hn]
    | .schemaChange _ | .insert _ | .update _ | .delete _ | .logic .. | .operator .. | .column _
    | .param .. | .sublink .. | .call _ | .cast .. | .nullTest .. | .case .. | .literal _
    | .target .. | .table _ | .derived .. | .list _ | .unsupported .. | .name _ | .star => rfl
  | .unsupported construct params =>
    simp only [Node.relocate, analyzeSource, bindAll_relocateAll]
  | .schemaChange _ | .insert _ | .select _ | .update _ | .delete _ | .logic .. | .operator ..
  | .column _ | .param .. | .sublink .. | .call _ | .cast .. | .nullTest .. | .case .. | .literal _
  | .target .. | .list _ | .name _ | .star => rfl
termination_by structural n

theorem analyzeSources_agree {P : TableRef → Prop} {s s' : Scope} (h : AgreeOn P c s c' s')
    (ns : List Node)
    (hns : ∀ t ∈ openAll ns, P t) :
    analyzeSources c' s' (relocateAll g ns) = analyzeSources c s ns := by
  match ns with
  | [] => rfl
  | n :: ns =>
    obtain ⟨hn, hns⟩ := List.forall_mem_append.mp hns
    simp only [relocateAll, analyzeSources, analyzeSource_agree h n hn,
      analyzeSources_agree h ns hns]
termination_by structural ns

theorem analyzeTargets_agree {P : TableRef → Prop} {s s' : Scope} (h : AgreeOn P c s c' s')
    (hrelations : s'.relations = s.relations)
    (hints : List Hint) (position : Nat) (ns : List Node) (hns : ∀ t ∈ openAll ns, P t) :
    analyzeTargets c' s' hints position (relocateAll g ns) =
      analyzeTargets c s hints position ns := by
  match ns with
  | [] => rfl
  | n :: ns =>
    obtain ⟨hn, hrest⟩ := List.forall_mem_append.mp hns
    match n with
    | .target name (some value) location =>
      have ih := fun position => analyzeTargets_agree h hrelations hints position ns hrest
      -- neither stars nor default names change with the locations
      simp only [relocateAll, Node.relocate, relocateOption, analyzeTargets,
        Node.starQualifiers?_relocate, defaultName_relocate, expandStar_congr hrelations,
        inferExpr_agree h _ value hn, ih]
    | .target name none location => rfl
    | .schemaChange _ | .insert _ | .select _ | .update _ | .delete _ | .logic .. | .operator ..
    | .column _ | .param .. | .sublink .. | .call _ | .cast .. | .nullTest .. | .case ..
    | .literal _ | .table _ | .derived .. | .list _ | .unsupported .. | .name _ | .star => rfl
termination_by structural ns

end

section Queries

variable (h : AgreeOn P c s c' s') (hints : List Hint) (q : Select)

include h

theorem analyzeSelect_agree (hq : ∀ t ∈ q.openTables, P t) :
    analyzeSelect c' s' hints (q.relocate g) = analyzeSelect c s hints q :=
  (query_agree hints q).2 h hq

theorem analyzeBody_agree (hq : ∀ t ∈ q.bodyTables, P t) :
    analyzeBody c' s' hints (q.relocate g) = analyzeBody c s hints q :=
  (query_agree hints q).1 h hq

/-- What stands behind a FROM clause agrees, whatever the relations of the clause are. -/
theorem analyzeClauses_agree (l : ScopeLevel)
    (hq : ∀ t ∈ Select.bodyTables { q with source := [] }, P t) :
    analyzeClauses c' (l :: s') hints (q.relocate g) = analyzeClauses c (l :: s) hints q := by
  obtain ⟨ctes, targets, source, joinConditions, condition, distinctOn, groupBy, having, windows,
    orderBy, limit, offset, rows, operation, all, left, right⟩ := q
  simp only [Select.bodyTables, Select.openTables, openNamed, List.forall_mem_append] at hq
  -- the tables in the FROM are not asked for here
  obtain ⟨⟨⟨⟨⟨⟨⟨⟨⟨⟨⟨⟨⟨-, -⟩, htargets⟩, -⟩, hjoins⟩, hcondition⟩, hdistinctOn⟩,
    hgroupBy⟩, hhaving⟩, hwindows⟩, -⟩, horderBy⟩, hlimit⟩, hoffset⟩ := hq
  have hinner (l : ScopeLevel) : AgreeOn P c (l :: s) c' (l :: s') :=
    (h.push l).mono fun _ => .inl
  simp only [Select.relocate, analyzeClauses, Scope.setOutputs,
    inferAll_agree (hinner _) none _ hjoins, inferOption_agree (hinner _) _ _ hcondition,
    analyzeTargets_agree (hinner _) rfl hints 0 _ htargets,
    inferAll_agree (hinner _) none _ hdistinctOn, inferAll_agree (hinner _) none _ hgroupBy,
    inferOption_agree (hinner _) _ _ hhaving, analyzeWindows_agree (hinner _) _ hwindows,
    inferAll_agree (hinner _) none _ horderBy, inferOption_agree (hinner _) _ _ hlimit,
    inferOption_agree (hinner _) _ _ hoffset]

end Queries

/-! ## Trees as they are

Surroundings agree with themselves, on a tree with any locations. So where two of them agree they do
on the tree as it is. -/

theorem analyzeSelect_congr (h : AgreeOn P c s c' s') (hints : List Hint) (q : Select)
    (hq : ∀ t ∈ q.openTables, P t) : analyzeSelect c' s' hints q = analyzeSelect c s hints q :=
  (analyzeSelect_agree (g := id) (.refl P c' s') hints q hq).symm.trans
    (analyzeSelect_agree h hints q hq)

theorem analyzeBody_congr (h : AgreeOn P c s c' s') (hints : List Hint) (q : Select)
    (hq : ∀ t ∈ q.bodyTables, P t) : analyzeBody c' s' hints q = analyzeBody c s hints q :=
  (analyzeBody_agree (g := id) (.refl P c' s') hints q hq).symm.trans
    (analyzeBody_agree h hints q hq)

theorem analyzeClauses_congr (h : AgreeOn P c s c' s') (hints : List Hint) (q : Select)
    (l : ScopeLevel) (hq : ∀ t ∈ Select.bodyTables { q with source := [] }, P t) :
    analyzeClauses c' (l :: s') hints q = analyzeClauses c (l :: s) hints q :=
  (analyzeClauses_agree (g := id) (.refl P c' s') hints q l hq).symm.trans
    (analyzeClauses_agree h hints q l hq)

theorem analyzeSource_congr (h : AgreeOn P c s c' s') (n : Node) (hn : ∀ t ∈ n.openTables, P t) :
    analyzeSource c' s' n = analyzeSource c s n :=
  (analyzeSource_agree (g := id) (.refl P c' s') n hn).symm.trans (analyzeSource_agree h n hn)

end TypedSql
