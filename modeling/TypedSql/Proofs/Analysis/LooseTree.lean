import TypedSql.Proofs.Analysis.LooseScope

/-!
# Trees under loosening

What a loosened tree keeps: the names in it, and its placeholders.

- **Names**: the parts of references, and the names of columns
- **Walks**: the nodes of a tree, one by one
-/

namespace TypedSql.Canonical

/-! ## Names -/

namespace Node.Loosens

variable {n n' : Node} {ns ns' : List Node}

theorem nameText?_eq (h : Node.Loosens n n') : n.nameText? = n'.nameText? := by cases h <;> rfl

theorem isStar_eq (h : Node.Loosens n n') : n.isStar = n'.isStar := by cases h <;> rfl

theorem isParam_eq (h : Node.Loosens n n') : n.isParam = n'.isParam := by cases h <;> rfl

theorem getLast? (h : List.Forall₂ Node.Loosens ns ns') :
    Option.Rel Node.Loosens ns.getLast? ns'.getLast? := by
  rw [List.getLast?_eq_head?_reverse, List.getLast?_eq_head?_reverse]
  have hreverse := List.rel_reverse h
  generalize ns.reverse = ms, ns'.reverse = ms' at hreverse
  cases hreverse with
  | nil => exact .none
  | cons h _ => exact .some h

theorem endsInStar_eq (h : List.Forall₂ Node.Loosens ns ns') :
    endsInStar ns = endsInStar ns' := by
  unfold endsInStar
  match ns.getLast?, ns'.getLast?, getLast? h with
  | _, _, .none => rfl
  | _, _, .some h => exact h.isStar_eq

theorem columnName?_eq (h : List.Forall₂ Node.Loosens ns ns') :
    columnName? ns = columnName? ns' := by
  unfold columnName?
  match ns.getLast?, ns'.getLast?, getLast? h with
  | _, _, .none => rfl
  | _, _, .some h => exact h.nameText?_eq

theorem qualifiers_eq (h : List.Forall₂ Node.Loosens ns ns') :
    qualifiers ns = qualifiers ns' := by
  have hnames {ms ms' : List Node} (h : List.Forall₂ Node.Loosens ms ms') :
      ms.filterMap Node.nameText? = ms'.filterMap Node.nameText? := by
    induction h with
    | nil => rfl
    | cons h _ ih => rw [List.filterMap_cons, List.filterMap_cons, h.nameText?_eq, ih]
  -- all fields but the last one, which are as many on either side
  unfold qualifiers
  rw [List.dropLast_eq_take, List.dropLast_eq_take, ← h.length_eq]
  exact hnames (List.forall₂_take _ h)

theorem starQualifiers?_eq (h : Node.Loosens n n') : n.starQualifiers? = n'.starQualifiers? := by
  cases h with
  | column h =>
    unfold Node.starQualifiers?
    dsimp only
    rw [endsInStar_eq h, qualifiers_eq h]
  | _ => rfl

theorem defaultName_eq (h : Node.Loosens n n') (position : Nat) :
    defaultName n position = defaultName n' position := by
  cases h with
  | column h =>
    unfold defaultName
    dsimp only
    rw [columnName?_eq h]
  | call h =>
    obtain ⟨hname, -⟩ := h
    unfold defaultName
    dsimp only
    rw [hname]
  | _ => rfl

end Node.Loosens

/-! ## Walks -/

mutual

theorem Node.Loosens.walk (n n' : Node) (h : n.Loosens n') :
    List.Forall₂ Node.Loosens n.walk n'.walk := by
  have hn := h
  -- related nodes have the same form, so their walks go through related parts in the same order
  match n with
  | .schemaChange _ | .param .. | .literal _ | .table _ | .name _ | .star =>
    cases h
    exact .cons hn .nil
  | .insert i =>
    cases h with
    | insert h => exact .cons hn (Insert.Loosens.walk i _ h)
  | .select s =>
    cases h with
    | select h => exact .cons hn (Select.Loosens.walk s _ h)
  | .update u =>
    cases h with
    | update h => exact .cons hn (Update.Loosens.walk u _ h)
  | .delete d =>
    cases h with
    | delete h => exact .cons hn (Delete.Loosens.walk d _ h)
  | .logic op args =>
    cases h with
    | logic _ h => exact .cons hn (walkAll_loosens args _ h)
  | .operator name left right =>
    cases h with
    | operator _ hleft hright =>
      exact .cons hn (List.rel_append (walkOption_loosens left _ hleft)
        (walkOption_loosens right _ hright))
  | .column fields =>
    cases h with
    | column h => exact .cons hn (walkAll_loosens fields _ h)
  | .sublink kind test query negated =>
    cases h with
    | sublink _ _ htest hquery =>
      exact .cons hn (List.rel_append (walkOption_loosens test _ htest)
        (walkOption_loosens query _ hquery))
  | .call c =>
    cases h with
    | call h => exact .cons hn (Call.Loosens.walk c _ h)
  | .cast arg type =>
    cases h with
    | cast _ h => exact .cons hn (Node.Loosens.walk arg _ h)
  | .nullTest arg isNull =>
    cases h with
    | nullTest _ h => exact .cons hn (Node.Loosens.walk arg _ h)
  | .case operand branches default =>
    cases h with
    | case hoperand hbranches hdefault =>
      exact .cons hn (List.rel_append (List.rel_append (walkOption_loosens operand _ hoperand)
        (walkBranches_loosens branches _ hbranches)) (walkOption_loosens default _ hdefault))
  | .target name value location =>
    cases h with
    | target _ _ h => exact .cons hn (walkOption_loosens value _ h)
  | .derived query aliasName nullable =>
    cases h with
    | derived _ h _ => exact .cons hn (Node.Loosens.walk query _ h)
  | .list items =>
    cases h with
    | list h => exact .cons hn (walkAll_loosens items _ h)
  | .unsupported construct params =>
    cases h with
    | unsupported _ h => exact .cons hn (walkAll_loosens params _ h)
termination_by structural n

theorem walkAll_loosens (ns ns' : List Node) (h : List.Forall₂ Node.Loosens ns ns') :
    List.Forall₂ Node.Loosens (walkAll ns) (walkAll ns') := by
  match ns, ns', h with
  | [], [], .nil => exact .nil
  | n :: ns, n' :: ns', .cons hn hns =>
    exact List.rel_append (Node.Loosens.walk n n' hn) (walkAll_loosens ns ns' hns)
termination_by structural ns

theorem walkOption_loosens (n n' : Option Node) (h : Option.Rel Node.Loosens n n') :
    List.Forall₂ Node.Loosens (walkOption n) (walkOption n') := by
  match n, n', h with
  | none, none, .none => exact .nil
  | some n, some n', .some h => exact Node.Loosens.walk n n' h
termination_by structural n

theorem Select.Loosens.walk (s s' : Select) (h : s.Loosens s') :
    List.Forall₂ Node.Loosens s.walk s'.walk := by
  match s with
  | ⟨ctes, targets, source, joinConditions, condition, distinctOn, groupBy, having, windows,
      orderBy, limit, offset, rows, operation, all, left, right⟩ =>
    obtain ⟨ctes', targets', source', joinConditions', condition', distinctOn', groupBy', having',
      windows', orderBy', limit', offset', rows', operation', all', left', right'⟩ := s'
    obtain ⟨hctes, htargets, hsource, hjoinConditions, hcondition, hdistinctOn, hgroupBy, hhaving,
      hwindows, horderBy, hlimit, hoffset, hrows, _, _, hleft, hright⟩ := h
    -- the parts of a query in the order in which they are walked
    have hfirst := List.rel_append (List.rel_append (walkNamed_loosens ctes _ hctes)
      (walkSide_loosens left _ hleft)) (walkSide_loosens right _ hright)
    have hsecond := List.rel_append (List.rel_append (List.rel_append hfirst
      (walkAll_loosens distinctOn _ hdistinctOn)) (walkAll_loosens targets _ htargets))
      (walkAll_loosens source _ hsource)
    have hthird := List.rel_append (List.rel_append (List.rel_append hsecond
      (walkAll_loosens joinConditions _ hjoinConditions))
      (walkOption_loosens condition _ hcondition)) (walkAll_loosens groupBy _ hgroupBy)
    have hfourth := List.rel_append (List.rel_append (List.rel_append hthird
      (walkOption_loosens having _ hhaving)) (walkWindows_loosens windows _ hwindows))
      (walkAll_loosens rows _ hrows)
    exact List.rel_append (List.rel_append (List.rel_append hfourth
      (walkAll_loosens orderBy _ horderBy)) (walkOption_loosens limit _ hlimit))
      (walkOption_loosens offset _ hoffset)
termination_by structural s

theorem walkSide_loosens (s s' : Option Select) (h : Option.Rel Select.Loosens s s') :
    List.Forall₂ Node.Loosens (walkSide s) (walkSide s') := by
  match s, s', h with
  | none, none, .none => exact .nil
  | some s, some s', .some h => exact Select.Loosens.walk s s' h
termination_by structural s

theorem walkNamed_loosens (qs qs' : List NamedQuery)
    (h : List.Forall₂ NamedQuery.Loosens qs qs') :
    List.Forall₂ Node.Loosens (walkNamed qs) (walkNamed qs') := by
  match qs, qs', h with
  | [], [], .nil => exact .nil
  | ⟨name, query⟩ :: qs, ⟨name', query'⟩ :: qs', .cons (.mk _ hquery) hqs =>
    exact List.rel_append (Node.Loosens.walk query _ hquery) (walkNamed_loosens qs qs' hqs)
termination_by structural qs

theorem Insert.Loosens.walk (i i' : Insert) (h : i.Loosens i') :
    List.Forall₂ Node.Loosens i.walk i'.walk := by
  match i with
  | ⟨table, columns, source, conflictTargets, conflictCondition, returning⟩ =>
    obtain ⟨table', columns', source', conflictTargets', conflictCondition', returning'⟩ := i'
    obtain ⟨_, hcolumns, hsource, hconflictTargets, hconflictCondition, hreturning⟩ := h
    have hfirst := List.rel_append (walkAll_loosens columns _ hcolumns)
      (Select.Loosens.walk source _ hsource)
    exact List.rel_append (List.rel_append (List.rel_append hfirst
      (walkAll_loosens conflictTargets _ hconflictTargets))
      (walkOption_loosens conflictCondition _ hconflictCondition))
      (walkAll_loosens returning _ hreturning)
termination_by structural i

theorem Update.Loosens.walk (u u' : Update) (h : u.Loosens u') :
    List.Forall₂ Node.Loosens u.walk u'.walk := by
  match u with
  | ⟨table, targets, source, joinConditions, condition, returning⟩ =>
    obtain ⟨table', targets', source', joinConditions', condition', returning'⟩ := u'
    obtain ⟨_, htargets, hsource, hjoinConditions, hcondition, hreturning⟩ := h
    have hfirst := List.rel_append (walkAll_loosens targets _ htargets)
      (walkAll_loosens source _ hsource)
    exact List.rel_append (List.rel_append (List.rel_append hfirst
      (walkAll_loosens joinConditions _ hjoinConditions))
      (walkOption_loosens condition _ hcondition)) (walkAll_loosens returning _ hreturning)
termination_by structural u

theorem Delete.Loosens.walk (d d' : Delete) (h : d.Loosens d') :
    List.Forall₂ Node.Loosens d.walk d'.walk := by
  match d with
  | ⟨table, source, joinConditions, condition, orderBy, limit, returning⟩ =>
    obtain ⟨table', source', joinConditions', condition', orderBy', limit', returning'⟩ := d'
    obtain ⟨_, hsource, hjoinConditions, hcondition, horderBy, hlimit, hreturning⟩ := h
    have hfirst := List.rel_append (walkAll_loosens source _ hsource)
      (walkAll_loosens joinConditions _ hjoinConditions)
    have hsecond := List.rel_append (List.rel_append hfirst
      (walkOption_loosens condition _ hcondition)) (walkAll_loosens orderBy _ horderBy)
    exact List.rel_append (List.rel_append hsecond (walkOption_loosens limit _ hlimit))
      (walkAll_loosens returning _ hreturning)
termination_by structural d

theorem Call.Loosens.walk (c c' : Call) (h : c.Loosens c') :
    List.Forall₂ Node.Loosens c.walk c'.walk := by
  match c with
  | ⟨name, args, orderBy, filter, window, star, distinct⟩ =>
    obtain ⟨name', args', orderBy', filter', window', star', distinct'⟩ := c'
    obtain ⟨_, hargs, horderBy, hfilter, hwindow, _, _⟩ := h
    exact List.rel_append (List.rel_append (List.rel_append (walkAll_loosens args _ hargs)
      (walkAll_loosens orderBy _ horderBy)) (walkOption_loosens filter _ hfilter))
      (walkOver_loosens window _ hwindow)
termination_by structural c

theorem walkOver_loosens (w w' : Option Window) (h : Option.Rel Window.Loosens w w') :
    List.Forall₂ Node.Loosens (walkOver w) (walkOver w') := by
  match w, w', h with
  | none, none, .none => exact .nil
  | some w, some w', .some h => exact Window.Loosens.walk w w' h
termination_by structural w

theorem Window.Loosens.walk (w w' : Window) (h : w.Loosens w') :
    List.Forall₂ Node.Loosens w.walk w'.walk := by
  match w with
  | ⟨name, base, partitionBy, orderBy, startOffset, endOffset⟩ =>
    obtain ⟨name', base', partitionBy', orderBy', startOffset', endOffset'⟩ := w'
    obtain ⟨_, _, hpartitionBy, horderBy, hstartOffset, hendOffset⟩ := h
    exact List.rel_append (List.rel_append (List.rel_append
      (walkAll_loosens partitionBy _ hpartitionBy) (walkAll_loosens orderBy _ horderBy))
      (walkOption_loosens startOffset _ hstartOffset)) (walkOption_loosens endOffset _ hendOffset)
termination_by structural w

theorem walkWindows_loosens (ws ws' : List Window) (h : List.Forall₂ Window.Loosens ws ws') :
    List.Forall₂ Node.Loosens (walkWindows ws) (walkWindows ws') := by
  match ws, ws', h with
  | [], [], .nil => exact .nil
  | w :: ws, w' :: ws', .cons hw hws =>
    exact List.rel_append (Window.Loosens.walk w w' hw) (walkWindows_loosens ws ws' hws)
termination_by structural ws

theorem walkBranches_loosens (bs bs' : List Branch) (h : List.Forall₂ Branch.Loosens bs bs') :
    List.Forall₂ Node.Loosens (walkBranches bs) (walkBranches bs') := by
  match bs, bs', h with
  | [], [], .nil => exact .nil
  | ⟨condition, result⟩ :: bs, ⟨condition', result'⟩ :: bs', .cons (.mk hcondition hresult) hbs =>
    exact List.rel_append (List.rel_append (Node.Loosens.walk condition _ hcondition)
      (Node.Loosens.walk result _ hresult)) (walkBranches_loosens bs bs' hbs)
termination_by structural bs

end

/-- A loosened tree has the same placeholders. -/
theorem Node.Loosens.paramRefs_eq {n n' : Node} (h : n.Loosens n') :
    n.paramRefs = n'.paramRefs := by
  unfold Node.paramRefs
  have hwalk := Node.Loosens.walk n n' h
  -- the two walks visit nodes of the same kinds, and a placeholder is never changed
  generalize n.walk = ns, n'.walk = ns' at hwalk
  induction hwalk with
  | nil => rfl
  | cons h _ ih =>
    rw [List.filterMap_cons, List.filterMap_cons, ih]
    cases h <;> rfl

end TypedSql.Canonical
