import TypedSql.Proofs.Analysis.LooseTyping

/-!
# Nullability

An analysis is monotone in what it is told about nulls: under a catalog and a tree that promise less
it comes to the same result, which promises less as well, or to the same error.

- **Expressions and queries**: two runs over a tree and a loosened one, by induction on the tree
- **Statements**: the same for statements
-/

namespace TypedSql

open Canonical (Node Select)

variable {c c' : Catalog}

/-! ## Single constructs -/

section Constructs

variable {s s' : Scope} {hint hint' : Option Hint}

theorem inferColumn_loosens (hs : s.Loosens s') (hint hint' : Option Hint)
    {fields fields' : List Node} (h : List.Forall₂ Node.Loosens fields fields') :
    LooseRuns Loosened (inferExpr c s hint (.column fields))
      (inferExpr c' s' hint' (.column fields')) := by
  rw [inferExpr, inferExpr, Canonical.Node.Loosens.endsInStar_eq h]
  split
  · exact .pure (.refl rfl)
  · match s.resolve fields, s'.resolve fields', resolve_loosens hs h with
    | .ok column, .ok column', hcolumn => exact .pure (Inferred.loosened_ofColumn hcolumn)
    | .error e, .error e', he =>
      cases he
      exact .throw e

/-- A placeholder takes its type from the other operand of a comparison. -/
theorem inferBinary_loosens (name : String) {left left' right right' : Node}
    (hleftParam : left.isParam = left'.isParam) (hrightParam : right.isParam = right'.isParam)
    (hleft : ∀ {hint hint'}, Option.Rel Loosened hint hint' →
      LooseRuns Loosened (inferExpr c s hint left) (inferExpr c' s' hint' left'))
    (hright : ∀ {hint hint'}, Option.Rel Loosened hint hint' →
      LooseRuns Loosened (inferExpr c s hint right) (inferExpr c' s' hint' right')) :
    LooseRuns Loosened (inferExpr c s hint (.operator name (some left) (some right)))
      (inferExpr c' s' hint' (.operator name (some left') (some right'))) := by
  rw [inferExpr, inferExpr, hleftParam, hrightParam]
  split
  · -- only the left operand is a placeholder, so the right one is typed first
    apply Simulates.bind (hright .none)
    intro r r' hr
    apply Simulates.bind (hleft (Inferred.loosened_hint? hr))
    intro l l' hl
    exact .pure (Inferred.loosened_ofOperator name (.some hl) hr)
  · apply Simulates.bind (hleft .none)
    intro l l' hl
    -- in a comparison the right operand is told the type of the left one
    have hhint : Option.Rel Loosened
        (if OperatorKind.ofName name = .comparison then l.hint? else none)
        (if OperatorKind.ofName name = .comparison then l'.hint? else none) := by
      split
      · exact Inferred.loosened_hint? hl
      · exact .none
    apply Simulates.bind (hright hhint)
    intro r r' hr
    exact .pure (Inferred.loosened_ofOperator name (.some hl) hr)

theorem inferSublink_loosens (kind : Canonical.SublinkKind) (negated : Bool)
    {test test' query query' : Option Node}
    (htest : ∀ {hint hint'}, Option.Rel Loosened hint hint' →
      LooseRuns (Option.Rel Loosened) (inferOption c s hint test) (inferOption c' s' hint' test'))
    (hquery : LooseRuns (List.Forall₂ Loosened) (analyzeSublink c s query)
      (analyzeSublink c' s' query')) :
    LooseRuns Loosened (inferExpr c s hint (.sublink kind test query negated))
      (inferExpr c' s' hint' (.sublink kind test' query' negated)) := by
  rw [inferExpr, inferExpr]
  refine .bind hquery fun columns columns' hcolumns => ?_
  -- an EXISTS is never null, and an IN can be null where its operand or the column can
  match kind with
  | .exists => exact .bind (.discard (htest .none)) fun _ _ _ => .pure (.refl rfl)
  | .any =>
    have hfirst := rel_head? hcolumns
    refine .bind (htest (ResultColumn.loosened_firstHint hfirst)) fun t t' ht =>
      .pure (loosened_computed fun hnot => ?_)
    rw [Bool.and_eq_true] at hnot ⊢
    exact ⟨getD_notNull ht hnot.1 fun _ _ => rfl, getD_notNull hfirst hnot.2 fun _ _ => rfl⟩

theorem loosened_bindHint {i i' : Option Inferred} (h : Option.Rel Loosened i i') :
    Option.Rel Loosened (i.bind (·.hint?)) (i'.bind (·.hint?)) := by
  cases h with
  | none => exact .none
  | some h => exact Inferred.loosened_hint? h

theorem loosened_count (name : String) :
    Option.Rel Loosened (some (Hint.count name)) (some (Hint.count name)) := .some (.refl rfl)

/-- What a query sees of the queries of its WITH clause. -/
theorem loosens_defined (hs : s.Loosens s') {defined defined' : List Relation}
    (h : List.Forall₂ Relation.Loosens defined defined') :
    Scope.Loosens (⟨[], defined, []⟩ :: s) (⟨[], defined', []⟩ :: s') :=
  .cons ⟨.nil, h, .nil⟩ hs

/-- What the last clauses of a set operation see of its columns. -/
theorem loosens_outputs (hs : s.Loosens s') {columns columns' : List ResultColumn}
    (h : List.Forall₂ Loosened columns columns') :
    Scope.Loosens (⟨[], [], columns⟩ :: s) (⟨[], [], columns'⟩ :: s') := .cons ⟨.nil, .nil, h⟩ hs

/-- What a plain query sees of its FROM clause. -/
theorem loosens_relations (hs : s.Loosens s') {relations relations' : List Relation}
    (h : List.Forall₂ Relation.Loosens relations relations') :
    Scope.Loosens (.ofRelations relations :: s) (.ofRelations relations' :: s') :=
  .cons ⟨h, .nil, .nil⟩ hs

theorem combineColumns_loosens {left left' right right' : List ResultColumn}
    (hl : List.Forall₂ Loosened left left') (hr : List.Forall₂ Loosened right right') :
    LooseRuns (List.Forall₂ Loosened) (combineColumns left right)
      (combineColumns left' right') := by
  unfold combineColumns
  rw [hl.length_eq, hr.length_eq]
  split
  · exact .pure (ResultColumn.loosened_zipWith_combine hl hr)
  · exact .throw _

theorem inferRows_loosens_of {hints hints' : List Hint} (hh : List.Forall₂ Loosened hints hints')
    {items items' rows rows' : List Node} (hitems : List.Forall₂ Node.Loosens items items')
    (hrow : LooseRuns (List.Forall₂ Loosened) (inferRow c s hints items)
      (inferRow c' s' hints' items'))
    (hrows : LooseRuns (List.Forall₂ (List.Forall₂ Loosened)) (inferRows c s hints rows)
      (inferRows c' s' hints' rows')) :
    LooseRuns (List.Forall₂ (List.Forall₂ Loosened)) (inferRows c s hints (.list items :: rows))
      (inferRows c' s' hints' (.list items' :: rows')) := by
  rw [inferRows, inferRows, isEmpty_eq_of_forall₂ hh, hitems.length_eq, hh.length_eq]
  -- the check of the number of values is the same on either side
  have hrest := Simulates.bind hrow fun row row' hrow =>
    Simulates.bind hrows fun rest rest' hrest => Simulates.pure (List.Forall₂.cons hrow hrest)
  split
  · exact .bind (.throw (R := fun _ _ => True) _) fun _ _ _ => hrest
  · exact hrest

/-- A name in a FROM clause: a query of a WITH clause, or else a table of the catalog. -/
theorem analyzeTable_loosens (hc : c.Loosens c') (hs : s.Loosens s') {t t' : Canonical.TableRef}
    (h : t.Loosens t') :
    LooseRuns (Option.Rel Relation.Loosens) (analyzeSource c s (.table t))
      (analyzeSource c' s' (.table t')) := by
  obtain ⟨b, rfl, hb⟩ := h
  rw [analyzeSource, analyzeSource]
  dsimp only
  -- a WITH query of that name is found in both scopes or in neither
  have hfound : Option.Rel Relation.Loosens
      (if t.schema.isNone then s.findCte? t.name else none)
      (if t.schema.isNone then s'.findCte? t.name else none) := by
    split
    · exact hs.findCte? t.name
    · exact .none
  generalize (if t.schema.isNone then s.findCte? t.name else none) = found,
    (if t.schema.isNone then s'.findCte? t.name else none) = found' at hfound
  cases hfound with
  | some hcte => exact .pure (.some ⟨rfl, hcte.schema, hcte.table, hcte.columns, hb⟩)
  | none =>
    exact .bind (lookedUp_loosens hc _) fun found found' hfound =>
      .pure (.some (.ofTable hfound t.aliasName hb))

/-- A column of a select list, or the columns that a star stands for. -/
theorem analyzeTarget_loosens (hs : s.Loosens s') {hints hints' : List Hint} {position : Nat}
    {name : Option String} {location location' : Nat} {value value' : Node} {ns ns' : List Node}
    (hvalue : value.Loosens value')
    (hinfer : LooseRuns Loosened (inferExpr c s hints[position]? value)
      (inferExpr c' s' hints'[position]? value'))
    (hrest : ∀ position, LooseRuns (List.Forall₂ Loosened) (analyzeTargets c s hints position ns)
      (analyzeTargets c' s' hints' position ns')) :
    LooseRuns (List.Forall₂ Loosened)
      (analyzeTargets c s hints position (.target name (some value) location :: ns))
      (analyzeTargets c' s' hints' position (.target name (some value') location' :: ns')) := by
  rw [analyzeTargets, analyzeTargets, hvalue.starQualifiers?_eq]
  -- both targets are stars with the same qualifiers, or neither is one
  cases value'.starQualifiers? with
  | none =>
    refine .bind hinfer fun i i' hi => .bind (hrest _) fun rest rest' hrest => .pure ?_
    rw [hvalue.defaultName_eq]
    exact .cons (ResultColumn.loosened_ofInferred _ hi) hrest
  | some qualifiers =>
    dsimp only
    match s.expandStar qualifiers, s'.expandStar qualifiers, hs.expandStar qualifiers with
    | .ok columns, .ok columns', hcolumns =>
      dsimp only
      rw [hcolumns.length_eq]
      exact .bind (hrest _) fun rest rest' hrest => .pure (List.rel_append hcolumns hrest)
    | .error e, .error e', he =>
      cases he
      exact .throw e

end Constructs

/-! ## Expressions and queries -/

mutual

theorem inferExpr_loosens (hc : c.Loosens c') {s s' : Scope} (hs : s.Loosens s')
    {hint hint' : Option Hint} (hh : Option.Rel Loosened hint hint') (n n' : Node)
    (h : n.Loosens n') : LooseRuns Loosened (inferExpr c s hint n) (inferExpr c' s' hint' n') := by
  -- related nodes have the same form, so each case of the one tree meets a single case of the other
  match n with
  | .column fields =>
    cases h with
    | column h => exact inferColumn_loosens hs hint hint' h
  | .param number location =>
    cases h with
    | param => exact bindParam_loosens number hh
  | .literal value =>
    cases h with
    | literal => exact .pure (.refl (by cases value <;> rfl))
  | .logic op args =>
    cases h with
    | logic _ h =>
      exact .bind (inferAll_loosens hc hs .none args _ h) fun is is' his =>
        .pure (loosened_computed (Inferred.all_notNull his))
  | .operator name left none =>
    cases h with
    | operator _ hleft hright =>
      -- without its right operand an operator fails in both trees
      cases hright
      cases hleft <;> exact .throw _
  | .operator name none (some right) =>
    cases h with
    | operator _ hleft hright =>
      cases hleft
      cases hright with
      | some hright =>
        exact .bind (inferExpr_loosens hc hs .none right _ hright) fun r r' hr =>
          .pure (Inferred.loosened_ofOperator name .none hr)
  | .operator name (some left) (some right) =>
    cases h with
    | operator _ hleft hright =>
      cases hleft with
      | some hleft =>
        cases hright with
        | some hright =>
          exact inferBinary_loosens name hleft.isParam_eq hright.isParam_eq
            (fun hh => inferExpr_loosens hc hs hh left _ hleft)
            (fun hh => inferExpr_loosens hc hs hh right _ hright)
  | .nullTest arg isNull =>
    cases h with
    | nullTest _ h =>
      exact .bind (.discard (inferExpr_loosens hc hs .none arg _ h)) fun _ _ _ => .pure (.refl rfl)
  | .cast arg type =>
    cases h with
    | cast _ h =>
      exact .bind (inferExpr_loosens hc hs (.some (.refl rfl)) arg _ h) fun i i' hi =>
        .pure (loosened_computed (Inferred.notNull_of_loosened hi))
  | .call ⟨name, args, orderBy, filter, window, star, distinct⟩ =>
    cases h with
    | @call _ call' h =>
      obtain ⟨name', args', orderBy', filter', window', star', distinct'⟩ := call'
      cases h with
      | mk hname hargs horderBy hfilter hwindow hstar _ =>
        -- what decides the type of a call, its name and its star, is the same in both
        cases hname
        cases hstar
        apply Simulates.bind (inferAll_loosens hc hs .none args args' hargs)
        intro is is' his
        apply Simulates.bind (.discard (inferAll_loosens hc hs .none orderBy orderBy' horderBy))
        intro _ _ _
        apply Simulates.bind (.discard (inferOption_loosens hc hs .none filter filter' hfilter))
        intro _ _ _
        apply Simulates.bind (analyzeOver_loosens hc hs window window' hwindow)
        intro _ _ _
        exact .pure (Inferred.loosened_ofCall name his star)
  | .case operand branches default =>
    cases h with
    | case hoperand hbranches hdefault =>
      apply Simulates.bind (inferOption_loosens hc hs .none operand _ hoperand)
      intro i i' hi
      apply Simulates.bind (inferBranches_loosens hc hs (loosened_bindHint hi) branches _ hbranches)
      intro is is' his
      apply Simulates.bind (inferOption_loosens hc hs .none default _ hdefault)
      intro d d' hd
      refine .pure ?_
      rw [isSome_eq_of_rel hd]
      exact Inferred.loosened_ofBranches (List.rel_append his (rel_toList hd)) _
  | .sublink kind test query negated =>
    cases h with
    | sublink _ _ htest hquery =>
      exact inferSublink_loosens kind negated (fun hh => inferOption_loosens hc hs hh test _ htest)
        (analyzeSublink_loosens hc hs query _ hquery)
  | .select query =>
    cases h with
    | select h =>
      refine .bind (analyzeSelect_loosens hc hs .nil query _ h) fun columns columns' hcolumns => ?_
      -- only the type of the first column is passed on, and types are not loosened
      cases hcolumns with
      | nil => exact .pure (.refl rfl)
      | cons hcolumn _ =>
        obtain ⟨b, rfl, -⟩ := hcolumn
        exact .pure (.refl rfl)
  | .list items =>
    cases h with
    | list h =>
      exact .bind (inferAll_loosens hc hs hh items _ h) fun is is' his =>
        .pure (Inferred.loosened_ofList his)
  | .unsupported construct params =>
    cases h with
    | unsupported _ h => exact .bind (bindAll_loosens h) fun _ _ _ => .pure (.refl rfl)
  | .schemaChange _ | .insert _ | .update _ | .delete _ | .target .. | .table _ | .derived ..
  | .name _ | .star =>
    -- no expression in either tree
    cases h
    exact .throw _
termination_by structural n

theorem inferAll_loosens (hc : c.Loosens c') {s s' : Scope} (hs : s.Loosens s')
    {hint hint' : Option Hint} (hh : Option.Rel Loosened hint hint') (ns ns' : List Node)
    (h : List.Forall₂ Node.Loosens ns ns') :
    LooseRuns (List.Forall₂ Loosened) (inferAll c s hint ns) (inferAll c' s' hint' ns') := by
  match ns, ns', h with
  | [], [], .nil => exact .pure .nil
  | n :: ns, n' :: ns', .cons hn hns =>
    exact .bind (inferExpr_loosens hc hs hh n n' hn) fun i i' hi =>
      .bind (inferAll_loosens hc hs hh ns ns' hns) fun is is' his => .pure (.cons hi his)
termination_by structural ns

theorem inferOption_loosens (hc : c.Loosens c') {s s' : Scope} (hs : s.Loosens s')
    {hint hint' : Option Hint} (hh : Option.Rel Loosened hint hint') (n n' : Option Node)
    (h : Option.Rel Node.Loosens n n') :
    LooseRuns (Option.Rel Loosened) (inferOption c s hint n) (inferOption c' s' hint' n') := by
  match n, n', h with
  | none, none, .none => exact .pure .none
  | some n, some n', .some hn =>
    exact .bind (inferExpr_loosens hc hs hh n n' hn) fun i i' hi => .pure (.some hi)
termination_by structural n

theorem inferBranches_loosens (hc : c.Loosens c') {s s' : Scope} (hs : s.Loosens s')
    {hint hint' : Option Hint} (hh : Option.Rel Loosened hint hint')
    (bs bs' : List Canonical.Branch) (h : List.Forall₂ Canonical.Branch.Loosens bs bs') :
    LooseRuns (List.Forall₂ Loosened) (inferBranches c s hint bs)
      (inferBranches c' s' hint' bs') := by
  match bs, bs', h with
  | [], [], .nil => exact .pure .nil
  | ⟨condition, result⟩ :: bs, ⟨condition', result'⟩ :: bs', .cons (.mk hcondition hresult) hbs =>
    exact .bind (.discard (inferExpr_loosens hc hs hh condition condition' hcondition)) fun _ _ _ =>
      .bind (inferExpr_loosens hc hs .none result result' hresult) fun i i' hi =>
      .bind (inferBranches_loosens hc hs hh bs bs' hbs) fun is is' his => .pure (.cons hi his)
termination_by structural bs

theorem analyzeOver_loosens (hc : c.Loosens c') {s s' : Scope} (hs : s.Loosens s')
    (w w' : Option Canonical.Window) (h : Option.Rel Canonical.Window.Loosens w w') :
    LooseRuns (fun _ _ => True) (analyzeOver c s w) (analyzeOver c' s' w') := by
  match w, w', h with
  | none, none, .none => exact .pure trivial
  | some w, some w', .some h => exact analyzeWindow_loosens hc hs w w' h
termination_by structural w

theorem analyzeWindow_loosens (hc : c.Loosens c') {s s' : Scope} (hs : s.Loosens s')
    (w w' : Canonical.Window) (h : w.Loosens w') :
    LooseRuns (fun _ _ => True) (analyzeWindow c s w) (analyzeWindow c' s' w') := by
  match w, w', h with
  | ⟨_, _, partitionBy, orderBy, startOffset, endOffset⟩,
      ⟨_, _, partitionBy', orderBy', startOffset', endOffset'⟩,
      .mk _ _ hpartitionBy horderBy hstartOffset hendOffset =>
    apply Simulates.bind
      (.discard (inferAll_loosens hc hs .none partitionBy partitionBy' hpartitionBy))
    intro _ _ _
    apply Simulates.bind (.discard (inferAll_loosens hc hs .none orderBy orderBy' horderBy))
    intro _ _ _
    apply Simulates.bind (.discard (inferOption_loosens hc hs (.some (.refl rfl)) startOffset
      startOffset' hstartOffset))
    intro _ _ _
    exact .discard (inferOption_loosens hc hs (.some (.refl rfl)) endOffset endOffset' hendOffset)
termination_by structural w

theorem analyzeWindows_loosens (hc : c.Loosens c') {s s' : Scope} (hs : s.Loosens s')
    (ws ws' : List Canonical.Window) (h : List.Forall₂ Canonical.Window.Loosens ws ws') :
    LooseRuns (fun _ _ => True) (analyzeWindows c s ws) (analyzeWindows c' s' ws') := by
  match ws, ws', h with
  | [], [], .nil => exact .pure trivial
  | w :: ws, w' :: ws', .cons hw hws =>
    exact .bind (analyzeWindow_loosens hc hs w w' hw) fun _ _ _ =>
      analyzeWindows_loosens hc hs ws ws' hws
termination_by structural ws

theorem analyzeSublink_loosens (hc : c.Loosens c') {s s' : Scope} (hs : s.Loosens s')
    (query query' : Option Node) (h : Option.Rel Node.Loosens query query') :
    LooseRuns (List.Forall₂ Loosened) (analyzeSublink c s query) (analyzeSublink c' s' query') := by
  match query with
  | none =>
    cases h
    exact .pure .nil
  | some n =>
    cases h with
    | some h =>
      have hn := h
      -- what is not a query is typed for its placeholders only
      cases h with
      | select h => exact analyzeSelect_loosens hc hs .nil _ _ h
      | _ => exact .bind (.discard (inferExpr_loosens hc hs .none _ _ hn)) fun _ _ _ => .pure .nil
termination_by structural query

theorem analyzeSelect_loosens (hc : c.Loosens c') {s s' : Scope} (hs : s.Loosens s')
    {hints hints' : List Hint} (hh : List.Forall₂ Loosened hints hints') (q q' : Select)
    (h : q.Loosens q') :
    LooseRuns (List.Forall₂ Loosened) (analyzeSelect c s hints q)
      (analyzeSelect c' s' hints' q') := by
  match q with
  | ⟨ctes, targets, source, joinConditions, condition, distinctOn, groupBy, having, windows,
      orderBy, limit, offset, rows, operation, all, left, right⟩ =>
    obtain ⟨ctes', targets', source', joinConditions', condition', distinctOn', groupBy', having',
      windows', orderBy', limit', offset', rows', operation', all', left', right'⟩ := q'
    cases h with
    | mk hctes htargets hsource hjoinConditions hcondition hdistinctOn hgroupBy hhaving hwindows
        horderBy hlimit hoffset hrows hoperation _ hleft hright =>
      cases hoperation
      rw [analyzeSelect, analyzeSelect]
      apply Simulates.bind (analyzeCtes_loosens hc hs .nil ctes ctes' hctes)
      intro defined defined' hdefined
      have hs := loosens_defined hs hdefined
      -- which of the three kinds of query it is does not depend on any nullability
      rw [isNone_eq_of_rel hleft, isNone_eq_of_rel hright, isEmpty_eq_of_forall₂ hrows]
      split
      · have hsides := Simulates.bind (analyzeSide_loosens hc hs hh left left' hleft) fun l l' hl =>
          Simulates.bind (analyzeSide_loosens hc hs hh right right' hright) fun r r' hr =>
          Simulates.bind (combineColumns_loosens hl hr) fun columns columns' hcolumns =>
          have hinner := loosens_outputs hs hcolumns
          Simulates.bind (.discard (inferAll_loosens hc hinner .none orderBy orderBy' horderBy))
            fun _ _ _ =>
          Simulates.bind (.discard (inferOption_loosens hc hinner (loosened_count "limit") limit
            limit' hlimit)) fun _ _ _ =>
          Simulates.bind (.discard (inferOption_loosens hc hinner (loosened_count "offset") offset
            offset' hoffset)) fun _ _ _ => Simulates.pure hcolumns
        split
        · exact .bind (.throw (R := fun _ _ => True) _) fun _ _ _ => hsides
        · exact hsides
      split
      · apply Simulates.bind (inferRows_loosens hc hs hh rows rows' hrows)
        intro values values' hvalues
        apply Simulates.bind
          (.discard (inferOption_loosens hc hs (loosened_count "limit") limit limit' hlimit))
        intro _ _ _
        apply Simulates.bind
          (.discard (inferOption_loosens hc hs (loosened_count "offset") offset offset' hoffset))
        intro _ _ _
        exact .pure (ResultColumn.loosened_valuesColumns hvalues)
      · apply Simulates.bind (analyzeSources_loosens hc hs source source' hsource)
        intro relations relations' hrelations
        have hinner := loosens_relations hs hrelations
        apply Simulates.bind (.discard (inferAll_loosens hc hinner .none joinConditions
          joinConditions' hjoinConditions))
        intro _ _ _
        apply Simulates.bind
          (.discard (inferOption_loosens hc hinner .none condition condition' hcondition))
        intro _ _ _
        apply Simulates.bind (analyzeTargets_loosens hc hinner hh 0 targets targets' htargets)
        intro columns columns' hcolumns
        -- the clauses after the select list see its columns as well
        have houter := hinner.setOutputs hcolumns
        apply Simulates.bind
          (.discard (inferAll_loosens hc houter .none distinctOn distinctOn' hdistinctOn))
        intro _ _ _
        apply Simulates.bind (.discard (inferAll_loosens hc houter .none groupBy groupBy' hgroupBy))
        intro _ _ _
        apply Simulates.bind (.discard (inferOption_loosens hc houter .none having having' hhaving))
        intro _ _ _
        apply Simulates.bind (analyzeWindows_loosens hc houter windows windows' hwindows)
        intro _ _ _
        apply Simulates.bind (.discard (inferAll_loosens hc houter .none orderBy orderBy' horderBy))
        intro _ _ _
        apply Simulates.bind
          (.discard (inferOption_loosens hc houter (loosened_count "limit") limit limit' hlimit))
        intro _ _ _
        apply Simulates.bind (.discard (inferOption_loosens hc houter (loosened_count "offset")
          offset offset' hoffset))
        intro _ _ _
        exact .pure hcolumns
termination_by structural q

theorem analyzeSide_loosens (hc : c.Loosens c') {s s' : Scope} (hs : s.Loosens s')
    {hints hints' : List Hint} (hh : List.Forall₂ Loosened hints hints') (q q' : Option Select)
    (h : Option.Rel Canonical.Select.Loosens q q') :
    LooseRuns (List.Forall₂ Loosened) (analyzeSide c s hints q) (analyzeSide c' s' hints' q') := by
  match q, q', h with
  | none, none, .none => exact .throw _
  | some q, some q', .some h => exact analyzeSelect_loosens hc hs hh q q' h
termination_by structural q

theorem analyzeCtes_loosens (hc : c.Loosens c') {s s' : Scope} (hs : s.Loosens s')
    {defined defined' : List Relation} (hdefined : List.Forall₂ Relation.Loosens defined defined')
    (qs qs' : List Canonical.NamedQuery) (h : List.Forall₂ Canonical.NamedQuery.Loosens qs qs') :
    LooseRuns (List.Forall₂ Relation.Loosens) (analyzeCtes c s defined qs)
      (analyzeCtes c' s' defined' qs') := by
  match qs with
  | [] =>
    cases h
    exact .pure hdefined
  | ⟨name, n⟩ :: qs =>
    cases h with
    | @cons _ q' _ _ hq hqs =>
      obtain ⟨name', n'⟩ := q'
      cases hq with
      | mk hname hquery =>
        dsimp only at hname hquery
        subst hname
        cases hquery with
        | select hquery =>
          -- the queries behind this one see related relations under the same name
          refine .bind (analyzeSelect_loosens hc (loosens_defined hs hdefined) .nil _ _ hquery)
            fun columns columns' hcolumns => analyzeCtes_loosens hc hs ?_ qs _ hqs
          exact List.rel_append hdefined (.cons ⟨rfl, rfl, rfl, hcolumns, id⟩ .nil)
        | _ => exact .throw _
termination_by structural qs

theorem inferRows_loosens (hc : c.Loosens c') {s s' : Scope} (hs : s.Loosens s')
    {hints hints' : List Hint} (hh : List.Forall₂ Loosened hints hints') (rows rows' : List Node)
    (h : List.Forall₂ Node.Loosens rows rows') :
    LooseRuns (List.Forall₂ (List.Forall₂ Loosened)) (inferRows c s hints rows)
      (inferRows c' s' hints' rows') := by
  match rows with
  | [] =>
    cases h
    exact .pure .nil
  | n :: rows =>
    cases h with
    | cons hn hrows =>
      cases hn with
      | list hitems =>
        refine inferRows_loosens_of hh hitems (inferRow_loosens hc hs hh _ _ hitems)
          (inferRows_loosens hc hs hh rows _ hrows)
      | _ => exact .throw _
termination_by structural rows

theorem inferRow_loosens (hc : c.Loosens c') {s s' : Scope} (hs : s.Loosens s')
    {hints hints' : List Hint} (hh : List.Forall₂ Loosened hints hints') (ns ns' : List Node)
    (h : List.Forall₂ Node.Loosens ns ns') :
    LooseRuns (List.Forall₂ Loosened) (inferRow c s hints ns) (inferRow c' s' hints' ns') := by
  match ns, ns', h with
  | [], [], .nil => exact .pure .nil
  | n :: ns, n' :: ns', .cons hn hns =>
    exact .bind (inferExpr_loosens hc hs (rel_head? hh) n n' hn) fun i i' hi =>
      .bind (inferRow_loosens hc hs (rel_tail hh) ns ns' hns) fun is is' his => .pure (.cons hi his)
termination_by structural ns

theorem analyzeSource_loosens (hc : c.Loosens c') {s s' : Scope} (hs : s.Loosens s') (n n' : Node)
    (h : n.Loosens n') :
    LooseRuns (Option.Rel Relation.Loosens) (analyzeSource c s n) (analyzeSource c' s' n') := by
  match n with
  | .table t =>
    cases h with
    | table h => exact analyzeTable_loosens hc hs h
  | .derived query aliasName nullable =>
    cases h with
    | derived _ hquery hnullable =>
      cases hquery with
      | select hquery =>
        exact .bind (analyzeSelect_loosens hc hs .nil _ _ hquery) fun columns columns' hcolumns =>
          .pure (.some ⟨rfl, rfl, rfl, hcolumns, hnullable⟩)
      | _ => exact .throw _
  | .unsupported construct params =>
    cases h with
    | unsupported _ h => exact .bind (bindAll_loosens h) fun _ _ _ => .pure .none
  | .schemaChange _ | .insert _ | .select _ | .update _ | .delete _ | .logic .. | .operator ..
  | .column _ | .param .. | .sublink .. | .call _ | .cast .. | .nullTest .. | .case .. | .literal _
  | .target .. | .list _ | .name _ | .star =>
    cases h
    exact .throw _
termination_by structural n

theorem analyzeSources_loosens (hc : c.Loosens c') {s s' : Scope} (hs : s.Loosens s')
    (ns ns' : List Node) (h : List.Forall₂ Node.Loosens ns ns') :
    LooseRuns (List.Forall₂ Relation.Loosens) (analyzeSources c s ns)
      (analyzeSources c' s' ns') := by
  match ns, ns', h with
  | [], [], .nil => exact .pure .nil
  | n :: ns, n' :: ns', .cons hn hns =>
    exact .bind (analyzeSource_loosens hc hs n n' hn) fun r r' hr =>
      .bind (analyzeSources_loosens hc hs ns ns' hns) fun rs rs' hrs =>
        .pure (List.rel_append (rel_toList hr) hrs)
termination_by structural ns

theorem analyzeTargets_loosens (hc : c.Loosens c') {s s' : Scope} (hs : s.Loosens s')
    {hints hints' : List Hint} (hh : List.Forall₂ Loosened hints hints') (position : Nat)
    (ns ns' : List Node) (h : List.Forall₂ Node.Loosens ns ns') :
    LooseRuns (List.Forall₂ Loosened) (analyzeTargets c s hints position ns)
      (analyzeTargets c' s' hints' position ns') := by
  match ns with
  | [] =>
    cases h
    exact .pure .nil
  | n :: ns =>
    cases h with
    | cons hn hns =>
      match n with
      | .target name none location =>
        cases hn with
        | target _ _ h =>
          cases h
          exact .throw _
      | .target name (some value) location =>
        cases hn with
        | target _ _ h =>
          cases h with
          | some hvalue =>
            exact analyzeTarget_loosens hs hvalue
              (inferExpr_loosens hc hs (rel_getElem? hh position) value _ hvalue)
              fun position => analyzeTargets_loosens hc hs hh position ns _ hns
      | .schemaChange _ | .insert _ | .select _ | .update _ | .delete _ | .logic .. | .operator ..
      | .column _ | .param .. | .sublink .. | .call _ | .cast .. | .nullTest .. | .case ..
      | .literal _ | .table _ | .derived .. | .list _ | .unsupported .. | .name _ | .star =>
        cases hn
        exact .throw _
termination_by structural ns

end

/-! ## Statements -/

section Statements

variable {s s' : Scope} {target target' : Relation}

theorem analyzeAssignment_loosens (hc : c.Loosens c') (hs : s.Loosens s')
    (ht : target.Loosens target') {n n' : Node} (h : n.Loosens n') :
    LooseRuns (fun _ _ => True) (analyzeAssignment c s target n)
      (analyzeAssignment c' s' target' n') := by
  cases h with
  | target name location h =>
    have hvalue {hint hint' : Option Hint} (hh : Option.Rel Loosened hint hint') :=
      Simulates.discard (inferOption_loosens hc hs hh _ _ h)
    cases name with
    | none => exact .bind (.pure (R := Option.Rel Loosened) .none) fun _ _ hh => hvalue hh
    | some name =>
      rw [analyzeAssignment, analyzeAssignment]
      dsimp only
      rw [ht.table]
      -- both tables have the column, or neither has it
      match target.column? name, target'.column? name, ht.column? name with
      | _, _, .some hcolumn =>
        exact .bind (.pure (.some (ResultColumn.loosened_hint hcolumn))) fun _ _ hh => hvalue hh
      | _, _, .none => exact .bind (.throw (R := Option.Rel Loosened) _) fun _ _ hh => hvalue hh
  | _ => exact .throw _

theorem analyzeAssignments_loosens (hc : c.Loosens c') (hs : s.Loosens s')
    (ht : target.Loosens target') {ns ns' : List Node} (h : List.Forall₂ Node.Loosens ns ns') :
    LooseRuns (fun _ _ => True) (ns.forM (analyzeAssignment c s target))
      (ns'.forM (analyzeAssignment c' s' target')) := by
  induction h with
  | nil => exact .pure trivial
  | cons hn _ ih => exact .bind (analyzeAssignment_loosens hc hs ht hn) fun _ _ _ => ih

theorem columnHints_loosens (ht : target.Loosens target') {ns ns' : List Node}
    (h : List.Forall₂ Node.Loosens ns ns') :
    LooseRuns (List.Forall₂ Loosened) (columnHints target ns) (columnHints target' ns') := by
  induction h with
  | nil => exact .pure .nil
  | cons hn _ ih =>
    cases hn with
    | target name location h =>
      cases name with
      | none => exact .throw _
      | some name =>
        rw [columnHints, columnHints, ht.table]
        -- both tables have the column, or neither has it
        match target.column? name, target'.column? name, ht.column? name with
        | _, _, .some hcolumn =>
          exact .bind ih fun hints hints' hh =>
            .pure (.cons (ResultColumn.loosened_hint hcolumn) hh)
        | _, _, .none => exact .throw _
    | _ => exact .throw _

/-- The target of a statement is never replaced by nulls. -/
theorem targetRelation_loosens (hc : c.Loosens c') {t t' : Canonical.TableRef} (h : t.Loosens t') :
    LooseRuns (fun x x' => x.1.name = x'.1.name ∧ x.2.Loosens x'.2) (targetRelation c t)
      (targetRelation c' t') := by
  obtain ⟨b, rfl, -⟩ := h
  exact .bind (lookedUp_loosens hc _) fun found found' hfound =>
    .pure ⟨hfound.name.symm, .ofTable hfound t.aliasName id⟩

theorem insertHints_loosens (ht : target.Loosens target') {ns ns' : List Node}
    (h : List.Forall₂ Node.Loosens ns ns') :
    LooseRuns (List.Forall₂ Loosened) (insertHints target ns) (insertHints target' ns') := by
  unfold insertHints
  rw [isEmpty_eq_of_forall₂ h]
  split
  · exact .pure (List.rel_map (fun _ _ hc => ResultColumn.loosened_hint hc) ht.columns)
  · exact columnHints_loosens ht h

theorem analyzeConflict_loosens (hc : c.Loosens c') (ht : target.Loosens target')
    {i i' : Canonical.Insert} (h : i.Loosens i') :
    LooseRuns (fun _ _ => True) (analyzeConflict c target i) (analyzeConflict c' target' i') := by
  obtain ⟨_, _, _, htargets, hcondition, _⟩ := h
  unfold analyzeConflict
  rw [isEmpty_eq_of_forall₂ htargets, isNone_eq_of_rel hcondition]
  split
  · exact .pure trivial
  · -- the assignments see the target, and the row that was to be inserted under another name
    have hexcluded : Relation.Loosens { target with name := "excluded", schema := none }
        { target' with name := "excluded", schema := none } :=
      ⟨rfl, rfl, ht.table, ht.columns, ht.nullable⟩
    have hs : Scope.Loosens [.ofRelations [target], .ofRelations
        [{ target with name := "excluded", schema := none }]] [.ofRelations [target'],
          .ofRelations [{ target' with name := "excluded", schema := none }]] :=
      loosens_relations (loosens_relations .nil (.cons hexcluded .nil)) (.cons ht .nil)
    exact .bind (analyzeAssignments_loosens hc hs ht htargets) fun _ _ _ =>
      .discard (inferOption_loosens hc hs .none _ _ hcondition)

theorem analyzeInsert_loosens (hc : c.Loosens c') {i i' : Canonical.Insert} (h : i.Loosens i') :
    LooseRuns (fun x x' => x.1 = x'.1 ∧ List.Forall₂ Loosened x.2 x'.2) (analyzeInsert c i)
      (analyzeInsert c' i') := by
  have hi := h
  obtain ⟨htable, hcolumns, hsource, _, _, hreturning⟩ := h
  apply Simulates.bind (targetRelation_loosens hc htable)
  rintro ⟨_, target⟩ ⟨_, target'⟩ ⟨hname, ht⟩
  apply Simulates.bind (insertHints_loosens ht hcolumns)
  intro hints hints' hh
  apply Simulates.bind (.discard (analyzeSelect_loosens hc .nil hh _ _ hsource))
  intro _ _ _
  apply Simulates.bind (analyzeConflict_loosens hc ht hi)
  intro _ _ _
  -- the returned columns see the table alone
  have hs := loosens_relations .nil (.cons ht .nil)
  apply Simulates.bind (analyzeTargets_loosens hc hs .nil 0 _ _ hreturning)
  intro columns columns' hcolumns
  exact .pure ⟨hname, hcolumns⟩

theorem analyzeUpdate_loosens (hc : c.Loosens c') {u u' : Canonical.Update} (h : u.Loosens u') :
    LooseRuns (List.Forall₂ Loosened) (analyzeUpdate c u) (analyzeUpdate c' u') := by
  obtain ⟨htable, htargets, hsource, hjoinConditions, hcondition, hreturning⟩ := h
  apply Simulates.bind (targetRelation_loosens hc htable)
  rintro ⟨_, target⟩ ⟨_, target'⟩ ⟨-, ht⟩
  apply Simulates.bind (analyzeSources_loosens hc .nil _ _ hsource)
  intro others others' hothers
  have hs : Scope.Loosens [.ofRelations (target :: others)] [.ofRelations (target' :: others')] :=
    loosens_relations .nil (.cons ht hothers)
  apply Simulates.bind (.discard (inferAll_loosens hc hs .none _ _ hjoinConditions))
  intro _ _ _
  apply Simulates.bind (analyzeAssignments_loosens hc hs ht htargets)
  intro _ _ _
  apply Simulates.bind (.discard (inferOption_loosens hc hs .none _ _ hcondition))
  intro _ _ _
  exact analyzeTargets_loosens hc hs .nil 0 _ _ hreturning

theorem analyzeDelete_loosens (hc : c.Loosens c') {d d' : Canonical.Delete} (h : d.Loosens d') :
    LooseRuns (List.Forall₂ Loosened) (analyzeDelete c d) (analyzeDelete c' d') := by
  obtain ⟨htable, hsource, hjoinConditions, hcondition, horderBy, hlimit, hreturning⟩ := h
  apply Simulates.bind (targetRelation_loosens hc htable)
  rintro ⟨_, target⟩ ⟨_, target'⟩ ⟨-, ht⟩
  apply Simulates.bind (analyzeSources_loosens hc .nil _ _ hsource)
  intro others others' hothers
  have hs : Scope.Loosens [.ofRelations (target :: others)] [.ofRelations (target' :: others')] :=
    loosens_relations .nil (.cons ht hothers)
  apply Simulates.bind (.discard (inferAll_loosens hc hs .none _ _ hjoinConditions))
  intro _ _ _
  apply Simulates.bind (.discard (inferOption_loosens hc hs .none _ _ hcondition))
  intro _ _ _
  apply Simulates.bind (.discard (inferAll_loosens hc hs .none _ _ horderBy))
  intro _ _ _
  apply Simulates.bind (.discard (inferOption_loosens hc hs (loosened_count _) _ _ hlimit))
  intro _ _ _
  exact analyzeTargets_loosens hc hs .nil 0 _ _ hreturning

theorem analyzeStatement_loosens (hc : c.Loosens c') {n n' : Node} (h : n.Loosens n') :
    LooseRuns (fun x x' => List.Forall₂ Loosened x.1 x'.1 ∧ x.2 = x'.2) (analyzeStatement c n)
      (analyzeStatement c' n') := by
  cases h with
  | select h =>
    exact .bind (analyzeSelect_loosens hc .nil .nil _ _ h) fun columns columns' hcolumns =>
      .pure ⟨hcolumns, rfl⟩
  | insert h =>
    exact .bind (analyzeInsert_loosens hc h) fun ⟨_, columns⟩ ⟨_, columns'⟩ hi =>
      .pure ⟨hi.2, congrArg some hi.1⟩
  | update h =>
    exact .bind (analyzeUpdate_loosens hc h) fun columns columns' hcolumns => .pure ⟨hcolumns, rfl⟩
  | delete h =>
    exact .bind (analyzeDelete_loosens hc h) fun columns columns' hcolumns => .pure ⟨hcolumns, rfl⟩
  | _ => exact .throw _

end Statements

/-- Two analyses that differ in promises about nulls only, where the second one promises no more. -/
structure Analysis.Loosens (a a' : Analysis) : Prop where
  params : List.Forall₂ Loosened a.params a'.params
  columns : List.Forall₂ Loosened a.columns a'.columns
  insertIntoTable : a'.insertIntoTable = a.insertIntoTable

/-- Under a loosened catalog a loosened statement has the same error, or the same result columns and
the same parameters, of which no more are not null. -/
theorem analyze_loosens (hc : c.Loosens c') {n n' : Node} (h : n.Loosens n') :
    Agree Analysis.Loosens (analyze c n) (analyze c' n') := by
  have hruns := analyzeStatement_loosens hc h [] [] .nil
  unfold analyze
  have hgreatest : greatestParam n' = greatestParam n := by
    rw [greatestParam, greatestParam, h.paramRefs_eq]
  match hr : (analyzeStatement c n).run [], hr' : (analyzeStatement c' n').run [] with
  | .ok ((columns, table), bs), .ok ((columns', table'), bs') =>
    -- the parameters are the bindings up to the greatest number, which is the same in both trees
    rw [hr, hr'] at hruns
    obtain ⟨⟨hcolumns, htable⟩, hbs⟩ := hruns
    rw [hgreatest]
    exact ⟨Bindings.loosened_parameters hbs _, hcolumns, htable.symm⟩
  | .error e, .error e' =>
    rw [hr, hr'] at hruns
    exact hruns
  | .ok _, .error _ | .error _, .ok _ =>
    rw [hr, hr'] at hruns
    exact hruns.elim

/-- A catalog with one table, which has one column. -/
def oneColumn (notNull : Bool) : Catalog :=
  ⟨"public", Directory.empty.insert "public" ⟨"public", Directory.empty.insert "t"
    ⟨.qualified "public" "t", [⟨"a", .named "int", notNull⟩]⟩⟩⟩

/-- The query `SELECT a FROM t`. -/
def selectColumn (nullable : Bool) : Node :=
  .select { Select.empty with
    targets := [.target none (some (.column [.name "a"])) 0]
    source := [.table ⟨none, "t", none, nullable⟩] }

theorem analyze_loosens_selectColumn :
    ∃ a a', analyze (oneColumn true) (selectColumn false) = .ok a ∧
      analyze (oneColumn false) (selectColumn true) = .ok a' ∧ a.Loosens a' := by
  -- the column loses its NOT NULL, and the table is marked as nullable
  have hcatalog : (oneColumn true).Loosens (oneColumn false) :=
    ⟨rfl, .cons ⟨rfl, rfl, .cons ⟨rfl, rfl, .cons ⟨false, rfl, fun _ => rfl⟩ .nil⟩ .nil⟩ .nil⟩
  have htree : (selectColumn false).Loosens (selectColumn true) :=
    .select ⟨.nil, .cons (.target none 0 (.some (.column (.cons (.name "a") .nil)))) .nil,
      .cons (.table ⟨true, rfl, fun _ => rfl⟩) .nil, .nil, .none, .nil, .nil, .none, .nil, .nil,
      .none, .none, .nil, rfl, rfl, .none, .none⟩
  have h := analyze_loosens hcatalog htree
  have hrun : analyze (oneColumn true) (selectColumn false) =
      .ok ⟨[], [⟨"a", .named "int", true, some (.qualified "public" "t"), some "a"⟩], none⟩ := by
    decide +kernel
  have hrun' : analyze (oneColumn false) (selectColumn true) =
      .ok ⟨[], [⟨"a", .named "int", false, some (.qualified "public" "t"), some "a"⟩], none⟩ := by
    decide +kernel
  rw [hrun, hrun'] at h
  exact ⟨_, _, hrun, hrun', h⟩

end TypedSql
