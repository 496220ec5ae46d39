import TypedSql.Canonical.Walk

/-!
# Queries of a canonical tree

Which queries of a canonical tree have a LIMIT or an OFFSET, and where their nodes stand.

- `Node.limited`: the queries with a LIMIT or an OFFSET in a tree
- `Closed`: nodes that are together with all nodes inside them, as those of a walk are
-/

namespace TypedSql.Canonical

/-! ## Queries -/

mutual

/-- The queries with a LIMIT or an OFFSET among a query and the sides of its set operations. -/
def Select.limited : Select → List Select
  | ⟨ctes, targets, source, joinConditions, condition, distinctOn, groupBy, having, windows,
      orderBy, limit, offset, rows, operation, all, left, right⟩ =>
    (if limit.isSome || offset.isSome then
      [⟨ctes, targets, source, joinConditions, condition, distinctOn, groupBy, having, windows,
        orderBy, limit, offset, rows, operation, all, left, right⟩]
    else []) ++ (limitedSide left ++ limitedSide right)

/-- The queries with a LIMIT or an OFFSET of a side of a set operation. -/
def limitedSide : Option Select → List Select
  | none => []
  | some s => s.limited

end

/-- The queries with a LIMIT or an OFFSET that a node is or, for an INSERT, reads from. -/
@[simp] def Node.ownLimited : Node → List Select
  | .select s => s.limited
  | .insert i => i.source.limited
  | _ => []

/-- The queries with a LIMIT or an OFFSET among nodes. -/
def limitedIn (ns : List Node) : List Select := ns.flatMap Node.ownLimited

/-- The queries with a LIMIT or an OFFSET in a tree. -/
def Node.limited (n : Node) : List Select := limitedIn n.walk

@[simp] theorem limitedIn_nil : limitedIn [] = [] := rfl

@[simp] theorem limitedIn_cons (n : Node) (ns : List Node) :
    limitedIn (n :: ns) = n.ownLimited ++ limitedIn ns := rfl

@[simp] theorem limitedIn_append (ms ns : List Node) :
    limitedIn (ms ++ ns) = limitedIn ms ++ limitedIn ns := List.flatMap_append

/-! ## Closed walks -/

/-- Nodes that are together with all nodes inside them. -/
def Closed (ns : List Node) : Prop := ∀ n ∈ ns, n.walk ⊆ ns

namespace Closed

theorem nil : Closed [] := List.forall_mem_nil _

theorem append {ms ns : List Node} (hms : Closed ms) (hns : Closed ns) : Closed (ms ++ ns) := by
  intro n hn
  rcases List.mem_append.mp hn with h | h
  · exact List.subset_append_of_subset_left _ (hms n h)
  · exact List.subset_append_of_subset_right _ (hns n h)

theorem cons {n : Node} {ns : List Node} (hwalk : n.walk = n :: ns) (hns : Closed ns) :
    Closed n.walk := by
  rw [hwalk]
  intro m hm
  rcases List.mem_cons.mp hm with rfl | h
  · rw [hwalk]
    exact List.Subset.refl _
  · exact List.subset_cons_of_subset _ (hns m h)

end Closed

mutual

theorem Node.walk_closed (n : Node) : Closed n.walk := by
  match n with
  | .schemaChange _ | .param .. | .literal _ | .table _ | .name _ | .star => exact .cons rfl .nil
  | .insert i => exact .cons rfl i.walk_closed
  | .select s => exact .cons rfl s.walk_closed
  | .update u => exact .cons rfl u.walk_closed
  | .delete d => exact .cons rfl d.walk_closed
  | .logic op args => exact .cons rfl (walkAll_closed args)
  | .operator name left right =>
    exact .cons rfl ((walkOption_closed left).append (walkOption_closed right))
  | .column fields => exact .cons rfl (walkAll_closed fields)
  | .sublink kind test query negated =>
    exact .cons rfl ((walkOption_closed test).append (walkOption_closed query))
  | .call c => exact .cons rfl c.walk_closed
  | .cast arg type => exact .cons rfl arg.walk_closed
  | .nullTest arg isNull => exact .cons rfl arg.walk_closed
  | .case operand branches default =>
    exact .cons rfl (((walkOption_closed operand).append (walkBranches_closed branches)).append
      (walkOption_closed default))
  | .target name value location => exact .cons rfl (walkOption_closed value)
  | .derived query aliasName nullable => exact .cons rfl query.walk_closed
  | .list items => exact .cons rfl (walkAll_closed items)
  | .unsupported construct params => exact .cons rfl (walkAll_closed params)

theorem walkAll_closed (ns : List Node) : Closed (walkAll ns) := by
  match ns with
  | [] => exact .nil
  | n :: ns => exact n.walk_closed.append (walkAll_closed ns)

theorem walkOption_closed (n : Option Node) : Closed (walkOption n) := by
  match n with
  | none => exact .nil
  | some n => exact n.walk_closed

theorem Select.walk_closed (s : Select) : Closed s.walk := by
  match s with
  | ⟨ctes, targets, source, joinConditions, condition, distinctOn, groupBy, having, windows,
      orderBy, limit, offset, rows, _, _, left, right⟩ =>
    have hsides := ((walkNamed_closed ctes).append (walkSide_closed left)).append
      (walkSide_closed right)
    have hsource := ((hsides.append (walkAll_closed distinctOn)).append
      (walkAll_closed targets)).append (walkAll_closed source)
    have hgroups := (((hsource.append (walkAll_closed joinConditions)).append
      (walkOption_closed condition)).append (walkAll_closed groupBy)).append
        (walkOption_closed having)
    exact ((((hgroups.append (walkWindows_closed windows)).append (walkAll_closed rows)).append
      (walkAll_closed orderBy)).append (walkOption_closed limit)).append (walkOption_closed offset)

theorem walkSide_closed (s : Option Select) : Closed (walkSide s) := by
  match s with
  | none => exact .nil
  | some s => exact s.walk_closed

theorem walkNamed_closed (qs : List NamedQuery) : Closed (walkNamed qs) := by
  match qs with
  | [] => exact .nil
  | ⟨_, query⟩ :: qs => exact query.walk_closed.append (walkNamed_closed qs)

theorem Insert.walk_closed (i : Insert) : Closed i.walk := by
  match i with
  | ⟨_, columns, source, conflictTargets, conflictCondition, returning⟩ =>
    exact ((((walkAll_closed columns).append source.walk_closed).append
      (walkAll_closed conflictTargets)).append (walkOption_closed conflictCondition)).append
        (walkAll_closed returning)

theorem Update.walk_closed (u : Update) : Closed u.walk := by
  match u with
  | ⟨_, targets, source, joinConditions, condition, returning⟩ =>
    exact ((((walkAll_closed targets).append (walkAll_closed source)).append
      (walkAll_closed joinConditions)).append (walkOption_closed condition)).append
        (walkAll_closed returning)

theorem Delete.walk_closed (d : Delete) : Closed d.walk := by
  match d with
  | ⟨_, source, joinConditions, condition, orderBy, limit, returning⟩ =>
    exact (((((walkAll_closed source).append (walkAll_closed joinConditions)).append
      (walkOption_closed condition)).append (walkAll_closed orderBy)).append
        (walkOption_closed limit)).append (walkAll_closed returning)

theorem Call.walk_closed (c : Call) : Closed c.walk := by
  match c with
  | ⟨_, args, orderBy, filter, window, _, _⟩ =>
    exact (((walkAll_closed args).append (walkAll_closed orderBy)).append
      (walkOption_closed filter)).append (walkOver_closed window)

theorem walkOver_closed (w : Option Window) : Closed (walkOver w) := by
  match w with
  | none => exact .nil
  | some w => exact w.walk_closed

theorem Window.walk_closed (w : Window) : Closed w.walk := by
  match w with
  | ⟨_, _, partitionBy, orderBy, startOffset, endOffset⟩ =>
    exact (((walkAll_closed partitionBy).append (walkAll_closed orderBy)).append
      (walkOption_closed startOffset)).append (walkOption_closed endOffset)

theorem walkWindows_closed (ws : List Window) : Closed (walkWindows ws) := by
  match ws with
  | [] => exact .nil
  | w :: ws => exact w.walk_closed.append (walkWindows_closed ws)

theorem walkBranches_closed (bs : List Branch) : Closed (walkBranches bs) := by
  match bs with
  | [] => exact .nil
  | ⟨condition, result⟩ :: bs =>
    exact (condition.walk_closed.append result.walk_closed).append (walkBranches_closed bs)

end

mutual

theorem Select.walk_subset_of_mem_limited {s : Select} (t : Select) (h : s ∈ t.limited) :
    s.walk ⊆ t.walk := by
  match t with
  | ⟨ctes, targets, source, joinConditions, condition, distinctOn, groupBy, having, windows,
      orderBy, limit, offset, rows, _, _, left, right⟩ =>
    simp only [Select.limited, List.mem_append] at h
    rcases h with h | h | h
    · split at h
      · rw [List.mem_singleton.mp h]
        exact List.Subset.refl _
      · cases h
    · -- a level of the left side, whose walk is a part of the walk of the whole
      intro n hn
      have := limitedSide_walk_subset left h hn
      simp only [Select.walk, List.mem_append, this, true_or, or_true]
    · -- a level of the right side, likewise
      intro n hn
      have := limitedSide_walk_subset right h hn
      simp only [Select.walk, List.mem_append, this, true_or, or_true]

theorem limitedSide_walk_subset {s : Select} (t : Option Select) (h : s ∈ limitedSide t) :
    s.walk ⊆ walkSide t := by
  match t with
  | some t => exact Select.walk_subset_of_mem_limited t h

end

/-- The nodes of a query stand where the query does. -/
theorem Closed.walk_subset {ns : List Node} (hns : Closed ns) {s : Select}
    (h : s ∈ limitedIn ns) : s.walk ⊆ ns := by
  obtain ⟨n, hn, hs⟩ := List.mem_flatMap.mp h
  have hwalk := hns n hn
  cases n with
  | select t =>
    exact fun m hm => hwalk (List.mem_cons_of_mem _ (Select.walk_subset_of_mem_limited t hs hm))
  | insert i =>
    obtain ⟨table, columns, source, conflictTargets, conflictCondition, returning⟩ := i
    intro m hm
    have := Select.walk_subset_of_mem_limited source hs hm
    exact hwalk (by simp [Node.walk, Insert.walk, this])
  | _ => cases hs

end TypedSql.Canonical
