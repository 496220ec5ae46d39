import TypedSql.Proofs.Analysis.Renumbering

/-!
# Relocation

Trees that differ in the locations of their nodes only. A location tells where in a text a node was
written; what a tree means does not depend on it.

- `Node.relocate`: the tree with other locations
-/

namespace TypedSql.Canonical

/-! ## Relocated trees -/

mutual

/-- The node with other locations. -/
def Node.relocate (f : Nat → Nat) : Node → Node
  | .schemaChange change => .schemaChange change
  | .insert i => .insert (i.relocate f)
  | .select s => .select (s.relocate f)
  | .update u => .update (u.relocate f)
  | .delete d => .delete (d.relocate f)
  | .logic op args => .logic op (relocateAll f args)
  | .operator name left right => .operator name (relocateOption f left) (relocateOption f right)
  | .column fields => .column (relocateAll f fields)
  | .param number location => .param number (f location)
  | .sublink kind test query negated =>
    .sublink kind (relocateOption f test) (relocateOption f query) negated
  | .call c => .call (c.relocate f)
  | .cast arg type => .cast (arg.relocate f) type
  | .nullTest arg isNull => .nullTest (arg.relocate f) isNull
  | .case operand branches default =>
    .case (relocateOption f operand) (relocateBranches f branches) (relocateOption f default)
  | .literal value => .literal value
  | .target name value location => .target name (relocateOption f value) (f location)
  | .table ref => .table ref
  | .derived query aliasName nullable => .derived (query.relocate f) aliasName nullable
  | .list items => .list (relocateAll f items)
  | .name value => .name value
  | .star => .star
  | .unsupported construct params => .unsupported construct (relocateAll f params)

/-- The nodes of a list with other locations. -/
def relocateAll (f : Nat → Nat) : List Node → List Node
  | [] => []
  | n :: ns => n.relocate f :: relocateAll f ns

/-- A node that may be absent, with other locations. -/
def relocateOption (f : Nat → Nat) : Option Node → Option Node
  | none => none
  | some n => some (n.relocate f)

/-- The query with other locations. -/
def Select.relocate (f : Nat → Nat) : Select → Select
  | ⟨ctes, targets, source, joinConditions, condition, distinctOn, groupBy, having, windows,
      orderBy, limit, offset, rows, operation, all, left, right⟩ =>
    ⟨relocateNamed f ctes, relocateAll f targets, relocateAll f source,
      relocateAll f joinConditions, relocateOption f condition, relocateAll f distinctOn,
      relocateAll f groupBy, relocateOption f having, relocateWindows f windows,
      relocateAll f orderBy, relocateOption f limit, relocateOption f offset, relocateAll f rows,
      operation, all, relocateSide f left, relocateSide f right⟩

/-- A side of a set operation with other locations. -/
def relocateSide (f : Nat → Nat) : Option Select → Option Select
  | none => none
  | some s => some (s.relocate f)

/-- The queries of a WITH clause with other locations. -/
def relocateNamed (f : Nat → Nat) : List NamedQuery → List NamedQuery
  | [] => []
  | ⟨name, query⟩ :: qs => ⟨name, query.relocate f⟩ :: relocateNamed f qs

/-- The INSERT with other locations. -/
def Insert.relocate (f : Nat → Nat) : Insert → Insert
  | ⟨table, columns, source, conflictTargets, conflictCondition, returning⟩ =>
    ⟨table, relocateAll f columns, source.relocate f, relocateAll f conflictTargets,
      relocateOption f conflictCondition, relocateAll f returning⟩

/-- The UPDATE with other locations. -/
def Update.relocate (f : Nat → Nat) : Update → Update
  | ⟨table, targets, source, joinConditions, condition, returning⟩ =>
    ⟨table, relocateAll f targets, relocateAll f source, relocateAll f joinConditions,
      relocateOption f condition, relocateAll f returning⟩

/-- The DELETE with other locations. -/
def Delete.relocate (f : Nat → Nat) : Delete → Delete
  | ⟨table, source, joinConditions, condition, orderBy, limit, returning⟩ =>
    ⟨table, relocateAll f source, relocateAll f joinConditions, relocateOption f condition,
      relocateAll f orderBy, relocateOption f limit, relocateAll f returning⟩

/-- The function call with other locations. -/
def Call.relocate (f : Nat → Nat) : Call → Call
  | ⟨name, args, orderBy, filter, window, star, distinct⟩ =>
    ⟨name, relocateAll f args, relocateAll f orderBy, relocateOption f filter,
      relocateOver f window, star, distinct⟩

/-- The window of a call with other locations. -/
def relocateOver (f : Nat → Nat) : Option Window → Option Window
  | none => none
  | some w => some (w.relocate f)

/-- The window with other locations. -/
def Window.relocate (f : Nat → Nat) : Window → Window
  | ⟨name, base, partitionBy, orderBy, startOffset, endOffset⟩ =>
    ⟨name, base, relocateAll f partitionBy, relocateAll f orderBy, relocateOption f startOffset,
      relocateOption f endOffset⟩

/-- The windows of a WINDOW clause with other locations. -/
def relocateWindows (f : Nat → Nat) : List Window → List Window
  | [] => []
  | w :: ws => w.relocate f :: relocateWindows f ws

/-- The branches of a CASE expression with other locations. -/
def relocateBranches (f : Nat → Nat) : List Branch → List Branch
  | [] => []
  | ⟨condition, result⟩ :: bs => ⟨condition.relocate f, result.relocate f⟩ :: relocateBranches f bs

end

variable {f : Nat → Nat}

theorem relocateAll_eq_map (ns : List Node) : relocateAll f ns = ns.map (·.relocate f) := by
  induction ns with
  | nil => rfl
  | cons n ns ih => exact congrArg (n.relocate f :: ·) ih

@[simp] theorem length_relocateAll (ns : List Node) : (relocateAll f ns).length = ns.length := by
  rw [relocateAll_eq_map, List.length_map]

@[simp] theorem isNone_relocateSide (s : Option Select) :
    (relocateSide f s).isNone = s.isNone := by
  cases s <;> rfl

@[simp] theorem isEmpty_relocateAll (ns : List Node) :
    (relocateAll f ns).isEmpty = ns.isEmpty := by
  cases ns <;> rfl

/-! ## What locations do not change -/

namespace Node

@[simp] theorem isParam_relocate (n : Node) : (n.relocate f).isParam = n.isParam := by
  cases n <;> rfl

@[simp] theorem nameText?_relocate (n : Node) : (n.relocate f).nameText? = n.nameText? := by
  cases n <;> rfl

@[simp] theorem isStar_relocate (n : Node) : (n.relocate f).isStar = n.isStar := by
  cases n <;> rfl

end Node

@[simp] theorem endsInStar_relocateAll (fields : List Node) :
    endsInStar (relocateAll f fields) = endsInStar fields := by
  rw [relocateAll_eq_map, endsInStar_map Node.isStar_relocate]

@[simp] theorem columnName?_relocateAll (fields : List Node) :
    columnName? (relocateAll f fields) = columnName? fields := by
  rw [relocateAll_eq_map, columnName?_map Node.nameText?_relocate]

@[simp] theorem qualifiers_relocateAll (fields : List Node) :
    qualifiers (relocateAll f fields) = qualifiers fields := by
  rw [relocateAll_eq_map, qualifiers_map Node.nameText?_relocate]

@[simp] theorem Node.starQualifiers?_relocate (n : Node) :
    (n.relocate f).starQualifiers? = n.starQualifiers? := by
  cases n <;> try rfl
  simp [Node.relocate, Node.starQualifiers?]

end TypedSql.Canonical
