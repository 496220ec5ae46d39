import TypedSql.Canonical.Tree

/-!
# Walks

The nodes of a tree in a fixed order: every node before the nodes inside it, and the clauses of a
statement in the order of its text, except that all join conditions come after the tables.
-/

namespace TypedSql.Canonical

mutual

/-- A node and all nodes inside it. -/
def Node.walk : Node → List Node
  | .schemaChange c => [.schemaChange c]
  | .insert i => .insert i :: i.walk
  | .select s => .select s :: s.walk
  | .update u => .update u :: u.walk
  | .delete d => .delete d :: d.walk
  | .logic op args => .logic op args :: walkAll args
  | .operator name left right => .operator name left right :: (walkOption left ++ walkOption right)
  | .column fields => .column fields :: walkAll fields
  | .param number location => [.param number location]
  | .sublink kind test query negated =>
    .sublink kind test query negated :: (walkOption test ++ walkOption query)
  | .call c => .call c :: c.walk
  | .cast arg type => .cast arg type :: arg.walk
  | .nullTest arg isNull => .nullTest arg isNull :: arg.walk
  | .case operand branches default =>
    .case operand branches default ::
      (walkOption operand ++ walkBranches branches ++ walkOption default)
  | .literal value => [.literal value]
  | .target name value location => .target name value location :: walkOption value
  | .table ref => [.table ref]
  | .derived query aliasName nullable => .derived query aliasName nullable :: query.walk
  | .list items => .list items :: walkAll items
  | .name value => [.name value]
  | .star => [.star]
  | .unsupported construct params => .unsupported construct params :: walkAll params

/-- The nodes of a list, one after the other. -/
def walkAll : List Node → List Node
  | [] => []
  | n :: ns => n.walk ++ walkAll ns

/-- The nodes of what may be absent. -/
def walkOption : Option Node → List Node
  | none => []
  | some n => n.walk

/-- The nodes of a query. -/
def Select.walk : Select → List Node
  | ⟨ctes, targets, source, joinConditions, condition, distinctOn, groupBy, having, windows, orderBy,
      limit, offset, rows, _, _, left, right⟩ =>
    walkNamed ctes ++ walkSide left ++ walkSide right ++ walkAll distinctOn ++ walkAll targets ++
      walkAll source ++ walkAll joinConditions ++ walkOption condition ++ walkAll groupBy ++
      walkOption having ++ walkWindows windows ++ walkAll rows ++ walkAll orderBy ++
      walkOption limit ++ walkOption offset

/-- The nodes of a side of a set operation. -/
def walkSide : Option Select → List Node
  | none => []
  | some s => s.walk

/-- The nodes of the queries of a WITH clause. -/
def walkNamed : List NamedQuery → List Node
  | [] => []
  | ⟨_, query⟩ :: qs => query.walk ++ walkNamed qs

/-- The nodes of an INSERT. -/
def Insert.walk : Insert → List Node
  | ⟨_, columns, source, conflictTargets, conflictCondition, returning⟩ =>
    walkAll columns ++ source.walk ++ walkAll conflictTargets ++ walkOption conflictCondition ++
      walkAll returning

/-- The nodes of an UPDATE. -/
def Update.walk : Update → List Node
  | ⟨_, targets, source, joinConditions, condition, returning⟩ =>
    walkAll targets ++ walkAll source ++ walkAll joinConditions ++ walkOption condition ++
      walkAll returning

/-- The nodes of a DELETE. -/
def Delete.walk : Delete → List Node
  | ⟨_, source, joinConditions, condition, orderBy, limit, returning⟩ =>
    walkAll source ++ walkAll joinConditions ++ walkOption condition ++ walkAll orderBy ++
      walkOption limit ++ walkAll returning

/-- The nodes of a function call. -/
def Call.walk : Call → List Node
  | ⟨_, args, orderBy, filter, window, _, _⟩ =>
    walkAll args ++ walkAll orderBy ++ walkOption filter ++ walkOver window

/-- The nodes of the window of a call. -/
def walkOver : Option Window → List Node
  | none => []
  | some w => w.walk

/-- The nodes of a window. -/
def Window.walk : Window → List Node
  | ⟨_, _, partitionBy, orderBy, startOffset, endOffset⟩ =>
    walkAll partitionBy ++ walkAll orderBy ++ walkOption startOffset ++ walkOption endOffset

/-- The nodes of the windows of a WINDOW clause. -/
def walkWindows : List Window → List Node
  | [] => []
  | w :: ws => w.walk ++ walkWindows ws

/-- The nodes of the branches of a CASE expression. -/
def walkBranches : List Branch → List Node
  | [] => []
  | ⟨condition, result⟩ :: bs => condition.walk ++ result.walk ++ walkBranches bs

end

attribute [simp] Node.walk walkAll walkOption Select.walk walkSide walkNamed Insert.walk Update.walk
  Delete.walk Call.walk walkOver Window.walk walkWindows walkBranches

/-- A placeholder of a tree. -/
structure ParamRef where
  number : Nat
  location : Nat
  deriving DecidableEq

/-- The placeholder that a node is. -/
def Node.paramRef? : Node → Option ParamRef
  | .param number location => some ⟨number, location⟩
  | _ => none

/-- The placeholders of a tree, in the order of the walk. -/
def Node.paramRefs (n : Node) : List ParamRef := n.walk.filterMap Node.paramRef?

end TypedSql.Canonical
