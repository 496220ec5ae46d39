import Mathlib.Tactic.ByContra
import Mathlib.Tactic.Tauto
import TypedSql.Canonical.Walk
import TypedSql.Proofs.Conversion.Shape

/-!
# Parts of canonical trees

What stands in a node of a tree, at any depth, and what of it an analysis looks at: all but the sort
keys of a VALUES.

- **Parts**: what stands directly in a node
- **Containment**: what stands in a node, anywhere or where an analysis looks
- **Walks**: what a walk of a tree comes across stands in the tree
-/

namespace TypedSql.Canonical

/-! ## Parts -/

/-- A query is a list of rows. -/
def Select.IsValues (q : Select) : Prop := q.operation = .none ∧ q.rows.isEmpty = false

instance (q : Select) : Decidable q.IsValues := inferInstanceAs (Decidable (_ ∧ _))

/-- What stands directly in a query, apart from its sort keys. -/
def Select.clauses (q : Select) : List Node :=
  q.ctes.map NamedQuery.query ++ (q.left.toList ++ q.right.toList).map .select ++ q.plainParts ++
    q.rows ++ q.limit.toList ++ q.offset.toList

namespace Node

/-- What stands directly in a node. -/
def parts : Node → List Node
  | .insert i =>
    i.columns ++ [.select i.source] ++ i.conflictTargets ++ i.conflictCondition.toList ++
      i.returning
  | .select q => q.clauses ++ q.orderBy
  | .update u => u.targets ++ u.source ++ u.joinConditions ++ u.condition.toList ++ u.returning
  | .delete d =>
    d.source ++ d.joinConditions ++ d.condition.toList ++ d.orderBy ++ d.limit.toList ++ d.returning
  | .logic _ args => args
  | .operator _ left right => left.toList ++ right.toList
  | .column fields => fields
  | .sublink _ test query _ => test.toList ++ query.toList
  | .call c => c.args ++ c.orderBy ++ c.filter.toList ++ c.window.toList.flatMap Window.parts
  | .cast arg _ | .nullTest arg _ => [arg]
  | .case operand branches default =>
    operand.toList ++ branches.flatMap (fun b => [b.condition, b.result]) ++ default.toList
  | .target _ value _ => value.toList
  | .derived query _ _ => [query]
  | .list items => items
  | .unsupported _ params => params
  | .schemaChange _ | .param .. | .literal _ | .table _ | .name _ | .star => []

/-- What stands directly in a node without the sort keys of a VALUES. -/
def readParts : Node → List Node
  | .select q => q.clauses ++ if q.IsValues then [] else q.orderBy
  | n => n.parts

end Node

section Forall

variable {P : Node → Prop}

theorem forall_windowParts {w : Window} :
    (∀ m ∈ w.parts, P m) ↔ (∀ m ∈ w.partitionBy, P m) ∧ (∀ m ∈ w.orderBy, P m) ∧
      (∀ m ∈ w.startOffset, P m) ∧ ∀ m ∈ w.endOffset, P m := by
  simp only [Window.parts, List.forall_mem_append, Option.mem_toList, Option.mem_def, and_assoc]

theorem forall_plainParts {q : Select} :
    (∀ m ∈ q.plainParts, P m) ↔ (∀ m ∈ q.targets, P m) ∧ (∀ m ∈ q.source, P m) ∧
      (∀ m ∈ q.joinConditions, P m) ∧ (∀ m ∈ q.condition, P m) ∧ (∀ m ∈ q.distinctOn, P m) ∧
      (∀ m ∈ q.groupBy, P m) ∧ (∀ m ∈ q.having, P m) ∧ ∀ w ∈ q.windows, ∀ m ∈ w.parts, P m := by
  simp only [Select.plainParts, List.forall_mem_append, List.forall_mem_flatMap, Option.mem_toList,
    Option.mem_def, and_assoc]

theorem forall_clauses {q : Select} :
    (∀ m ∈ q.clauses, P m) ↔ (∀ x ∈ q.ctes, P x.query) ∧ (∀ side ∈ q.left, P (.select side)) ∧
      (∀ side ∈ q.right, P (.select side)) ∧ (∀ m ∈ q.plainParts, P m) ∧ (∀ m ∈ q.rows, P m) ∧
      (∀ m ∈ q.limit, P m) ∧ ∀ m ∈ q.offset, P m := by
  simp only [Select.clauses, List.map_append, List.forall_mem_append, List.forall_mem_map,
    Option.mem_toList, Option.mem_def, and_assoc]

theorem forall_parts_call {c : Call} :
    (∀ m ∈ (Node.call c).parts, P m) ↔ (∀ m ∈ c.args, P m) ∧ (∀ m ∈ c.orderBy, P m) ∧
      (∀ m ∈ c.filter, P m) ∧ ∀ w ∈ c.window, ∀ m ∈ w.parts, P m := by
  show (∀ m ∈ c.args ++ c.orderBy ++ c.filter.toList ++ c.window.toList.flatMap Window.parts,
    P m) ↔ _
  simp only [List.forall_mem_append, List.forall_mem_flatMap, Option.mem_toList,
    Option.mem_def, and_assoc]

theorem forall_parts_case {operand default : Option Node} {branches : List Branch} :
    (∀ m ∈ (Node.case operand branches default).parts, P m) ↔ (∀ m ∈ operand, P m) ∧
      (∀ b ∈ branches, P b.condition ∧ P b.result) ∧ ∀ m ∈ default, P m := by
  show (∀ m ∈ operand.toList ++ branches.flatMap (fun b => [b.condition, b.result]) ++
    default.toList, P m) ↔ _
  simp only [List.forall_mem_append, List.forall_mem_flatMap, Option.mem_toList,
    Option.mem_def, List.forall_mem_cons, List.not_mem_nil, false_implies, implies_true, and_true,
    and_assoc]

theorem forall_parts_sublink (kind : SublinkKind) (test query : Option Node) (negated : Bool) :
    (∀ m ∈ (Node.sublink kind test query negated).parts, P m) ↔
      (∀ m ∈ test, P m) ∧ ∀ m ∈ query, P m := by
  show (∀ m ∈ test.toList ++ query.toList, P m) ↔ _
  simp only [List.forall_mem_append, Option.mem_toList, Option.mem_def]

theorem forall_parts_insert {i : Insert} :
    (∀ m ∈ (Node.insert i).parts, P m) ↔ (∀ m ∈ i.columns, P m) ∧ P (.select i.source) ∧
      (∀ m ∈ i.conflictTargets, P m) ∧ (∀ m ∈ i.conflictCondition, P m) ∧
      ∀ m ∈ i.returning, P m := by
  show (∀ m ∈ i.columns ++ [.select i.source] ++ i.conflictTargets ++ i.conflictCondition.toList ++
    i.returning, P m) ↔ _
  simp only [List.forall_mem_append, List.forall_mem_singleton, Option.mem_toList,
    Option.mem_def, and_assoc]

theorem forall_parts_update {u : Update} :
    (∀ m ∈ (Node.update u).parts, P m) ↔ (∀ m ∈ u.targets, P m) ∧ (∀ m ∈ u.source, P m) ∧
      (∀ m ∈ u.joinConditions, P m) ∧ (∀ m ∈ u.condition, P m) ∧ ∀ m ∈ u.returning, P m := by
  show (∀ m ∈ u.targets ++ u.source ++ u.joinConditions ++ u.condition.toList ++ u.returning,
    P m) ↔ _
  simp only [List.forall_mem_append, Option.mem_toList, Option.mem_def, and_assoc]

theorem forall_parts_delete {d : Delete} :
    (∀ m ∈ (Node.delete d).parts, P m) ↔ (∀ m ∈ d.source, P m) ∧ (∀ m ∈ d.joinConditions, P m) ∧
      (∀ m ∈ d.condition, P m) ∧ (∀ m ∈ d.orderBy, P m) ∧ (∀ m ∈ d.limit, P m) ∧
      ∀ m ∈ d.returning, P m := by
  show (∀ m ∈ d.source ++ d.joinConditions ++ d.condition.toList ++ d.orderBy ++ d.limit.toList ++
    d.returning, P m) ↔ _
  simp only [List.forall_mem_append, Option.mem_toList, Option.mem_def, and_assoc]

end Forall

/-! ## Containment -/

namespace Node

/-- A node stands in another one, or is it. -/
inductive Contains : Node → Node → Prop where
  | self (n : Node) : Contains n n
  | part {n m k : Node} (hm : m ∈ n.parts) (h : Contains m k) : Contains n k

/-- A node stands in another one, or is it, and not in a sort key of a VALUES. -/
inductive Reads : Node → Node → Prop where
  | self (n : Node) : Reads n n
  | part {n m k : Node} (hm : m ∈ n.readParts) (h : Reads m k) : Reads n k

/-- What stands in a node has parts that stand in it as well. -/
theorem Contains.parts {n k : Node} (h : n.Contains k) : ∀ m ∈ k.parts, n.Contains m := by
  induction h with
  | self n => exact fun m hm => .part hm (.self m)
  | part hm _ ih => exact fun k hk => .part hm (ih k hk)

/-- What stands in a node stands in a sort key of a VALUES if it does not stand elsewhere. -/
theorem Contains.reads_or {n k : Node} (h : n.Contains k) :
    n.Reads k ∨
      ∃ q key, n.Reads (.select q) ∧ q.IsValues ∧ key ∈ q.orderBy ∧ key.Contains k := by
  induction h with
  | self n => exact .inl (.self n)
  | @part n m k hm hk ih =>
    by_cases hread : m ∈ n.readParts
    · exact ih.imp (.part hread) fun ⟨q, key, hq, h⟩ => ⟨q, key, .part hread hq, h⟩
    · -- the parts that are not read are the sort keys of the node itself
      cases n with
      | select q =>
        have hvalues : q.IsValues := by
          by_contra hplain
          rw [readParts, if_neg hplain] at hread
          exact hread hm
        have hkey : m ∈ q.orderBy := by
          rw [readParts, if_pos hvalues, List.append_nil] at hread
          exact (List.mem_append.mp hm).resolve_left hread
        exact .inr ⟨q, m, .self _, hvalues, hkey, hk⟩
      | _ => exact absurd hm hread

end Node

/-! ## Walks -/

/-- Each of some nodes stands in one of the others, or is one. -/
def Covers (ns ks : List Node) : Prop := ∀ k ∈ ks, ∃ n ∈ ns, n.Contains k

namespace Covers

variable {ns ns' ks ks' : List Node}

theorem nil : Covers ns [] := List.forall_mem_nil _

theorem mono (h : Covers ns ks) (hsub : ∀ n ∈ ns, n ∈ ns') : Covers ns' ks :=
  fun k hk => (h k hk).imp fun _ ⟨hn, hk⟩ => ⟨hsub _ hn, hk⟩

/-- One list of nodes after the other. -/
theorem append (h : Covers ns ks) (h' : Covers ns' ks') : Covers (ns ++ ns') (ks ++ ks') :=
  List.forall_mem_append.mpr
    ⟨h.mono fun _ => List.mem_append_left ns', h'.mono fun _ => List.mem_append_right ns⟩

/-- The nodes in the parts of a node stand in the node. -/
theorem node {n : Node} (h : Covers n.parts ks) (hwalk : n.walk = n :: ks) : Covers [n] n.walk := by
  intro k hk
  rw [hwalk] at hk
  refine ⟨n, List.mem_singleton_self n, ?_⟩
  rcases List.mem_cons.mp hk with rfl | hk
  · exact .self _
  · obtain ⟨m, hm, hk⟩ := h k hk
    exact .part hm hk

/-- A side of a set operation is a query like others. -/
theorem side {q : Select} (h : Covers (Node.select q).parts ks) : Covers [.select q] ks := by
  intro k hk
  obtain ⟨m, hm, hk⟩ := h k hk
  exact ⟨.select q, List.mem_singleton_self _, .part hm hk⟩

end Covers

mutual

theorem Node.walk_covers (n : Node) : Covers [n] n.walk := by
  -- a walk lists the node and then goes through its parts, in the order in which they are listed
  match n with
  | .schemaChange _ | .param .. | .literal _ | .table _ | .name _ | .star => exact .node .nil rfl
  | .insert i => exact .node i.walk_covers rfl
  | .select q => exact .node q.walk_covers rfl
  | .update u => exact .node u.walk_covers rfl
  | .delete d => exact .node d.walk_covers rfl
  | .logic op args => exact .node (walkAll_covers args) rfl
  | .operator name left right =>
    exact .node ((walkOption_covers left).append (walkOption_covers right)) rfl
  | .column fields => exact .node (walkAll_covers fields) rfl
  | .sublink kind test query negated =>
    exact .node ((walkOption_covers test).append (walkOption_covers query)) rfl
  | .call call => exact .node call.walk_covers rfl
  | .cast arg type => exact .node arg.walk_covers rfl
  | .nullTest arg isNull => exact .node arg.walk_covers rfl
  | .case operand branches default =>
    exact .node (((walkOption_covers operand).append (walkBranches_covers branches)).append
      (walkOption_covers default)) rfl
  | .target name value location => exact .node (walkOption_covers value) rfl
  | .derived query aliasName nullable => exact .node query.walk_covers rfl
  | .list items => exact .node (walkAll_covers items) rfl
  | .unsupported construct params => exact .node (walkAll_covers params) rfl
termination_by structural n

theorem walkAll_covers (ns : List Node) : Covers ns (walkAll ns) := by
  match ns with
  | [] => exact .nil
  | n :: ns => exact n.walk_covers.append (walkAll_covers ns)
termination_by structural ns

theorem walkOption_covers (n : Option Node) : Covers n.toList (walkOption n) := by
  match n with
  | none => exact .nil
  | some n => exact n.walk_covers
termination_by structural n

theorem Select.walk_covers (q : Select) : Covers (Node.select q).parts q.walk := by
  match q with
  | ⟨ctes, targets, source, joinConditions, condition, distinctOn, groupBy, having, windows,
      orderBy, limit, offset, rows, operation, all, left, right⟩ =>
    have hsides := ((walkNamed_covers ctes).append (walkSide_covers left)).append
      (walkSide_covers right)
    have hplain := (((((((hsides.append (walkAll_covers distinctOn)).append
      (walkAll_covers targets)).append (walkAll_covers source)).append
      (walkAll_covers joinConditions)).append (walkOption_covers condition)).append
      (walkAll_covers groupBy)).append (walkOption_covers having)).append
      (walkWindows_covers windows)
    have hall := (((hplain.append (walkAll_covers rows)).append (walkAll_covers orderBy)).append
      (walkOption_covers limit)).append (walkOption_covers offset)
    -- the parts are the same, in another order
    refine hall.mono fun n hn => ?_
    simp only [Node.parts, Select.clauses, Select.plainParts, List.map_append,
      List.mem_append] at hn ⊢
    tauto
termination_by structural q

theorem walkSide_covers (q : Option Select) : Covers (q.toList.map .select) (walkSide q) := by
  match q with
  | none => exact .nil
  | some q => exact q.walk_covers.side
termination_by structural q

theorem walkNamed_covers (qs : List NamedQuery) :
    Covers (qs.map NamedQuery.query) (walkNamed qs) := by
  match qs with
  | [] => exact .nil
  | ⟨name, query⟩ :: qs => exact query.walk_covers.append (walkNamed_covers qs)
termination_by structural qs

theorem Insert.walk_covers (i : Insert) : Covers (Node.insert i).parts i.walk := by
  match i with
  | ⟨table, columns, source, conflictTargets, conflictCondition, returning⟩ =>
    exact ((((walkAll_covers columns).append source.walk_covers.side).append
      (walkAll_covers conflictTargets)).append (walkOption_covers conflictCondition)).append
      (walkAll_covers returning)
termination_by structural i

theorem Update.walk_covers (u : Update) : Covers (Node.update u).parts u.walk := by
  match u with
  | ⟨table, targets, source, joinConditions, condition, returning⟩ =>
    exact ((((walkAll_covers targets).append (walkAll_covers source)).append
      (walkAll_covers joinConditions)).append (walkOption_covers condition)).append
      (walkAll_covers returning)
termination_by structural u

theorem Delete.walk_covers (d : Delete) : Covers (Node.delete d).parts d.walk := by
  match d with
  | ⟨table, source, joinConditions, condition, orderBy, limit, returning⟩ =>
    exact (((((walkAll_covers source).append (walkAll_covers joinConditions)).append
      (walkOption_covers condition)).append (walkAll_covers orderBy)).append
      (walkOption_covers limit)).append (walkAll_covers returning)
termination_by structural d

theorem Call.walk_covers (call : Call) : Covers (Node.call call).parts call.walk := by
  match call with
  | ⟨name, args, orderBy, filter, window, star, distinct⟩ =>
    exact (((walkAll_covers args).append (walkAll_covers orderBy)).append
      (walkOption_covers filter)).append (walkOver_covers window)
termination_by structural call

theorem walkOver_covers (w : Option Window) :
    Covers (w.toList.flatMap Window.parts) (walkOver w) := by
  match w with
  | none => exact .nil
  | some w =>
    rw [Option.toList_some, List.flatMap_singleton]
    exact w.walk_covers
termination_by structural w

theorem Window.walk_covers (w : Window) : Covers w.parts w.walk := by
  match w with
  | ⟨name, base, partitionBy, orderBy, startOffset, endOffset⟩ =>
    exact (((walkAll_covers partitionBy).append (walkAll_covers orderBy)).append
      (walkOption_covers startOffset)).append (walkOption_covers endOffset)
termination_by structural w

theorem walkWindows_covers (ws : List Window) :
    Covers (ws.flatMap Window.parts) (walkWindows ws) := by
  match ws with
  | [] => exact .nil
  | w :: ws => exact w.walk_covers.append (walkWindows_covers ws)
termination_by structural ws

theorem walkBranches_covers (bs : List Branch) :
    Covers (bs.flatMap fun b => [b.condition, b.result]) (walkBranches bs) := by
  match bs with
  | [] => exact .nil
  | ⟨condition, result⟩ :: bs =>
    exact (condition.walk_covers.append result.walk_covers).append (walkBranches_covers bs)
termination_by structural bs

end

/-- What a walk comes across stands in the tree. -/
theorem Node.contains_of_mem_walk {n k : Node} (h : k ∈ n.walk) : n.Contains k := by
  obtain ⟨m, hm, hk⟩ := n.walk_covers k h
  rwa [List.mem_singleton.mp hm] at hk

end TypedSql.Canonical
