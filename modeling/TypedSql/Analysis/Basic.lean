import TypedSql.Analysis.Scope
import TypedSql.Analysis.Typing
import TypedSql.Canonical.Walk

/-!
# Analysis

Resolves the names of a statement against a catalog, types its placeholders from the places where
they stand, and computes its result columns. A placeholder that stands in several places has the
type of the first place that gives it one.
-/

namespace TypedSql

open Canonical (Node Select)

/-- What is known about a statement. -/
structure Analysis where
  params : List Parameter
  columns : List ResultColumn
  insertIntoTable : Option TableName
  deriving DecidableEq, Inhabited

/-! ## Placeholders -/

/-- The parameters that placeholders are bound to, one for each number. -/
abbrev Bindings := List Parameter

namespace Bindings

/-- The parameter with a number. -/
def find? (bs : Bindings) (number : Nat) : Option Parameter := List.find? (·.number = number) bs

/-- Adds a candidate for its number. One that is there already stays, unless it is opaque and the
candidate is not. -/
def record (p : Parameter) : Bindings → Bindings
  | [] => [p]
  | q :: qs =>
    if q.number = p.number then
      if q.type.isOpaque && !p.type.isOpaque then p :: qs else q :: qs
    else q :: record p qs

end Bindings

/-- The parameter that a hint makes of a placeholder. -/
def Parameter.ofHint (number : Nat) : Option Hint → Parameter
  | some h => ⟨number, h.name, h.type, h.notNull⟩
  | none => .unknown number

/-- A step of an analysis: it binds placeholders, or ends in an error. -/
abbrev AnalysisM := StateT Bindings (Except AnalysisError)

/-- Ends an analysis because of a malformed tree. -/
def malformed {α : Type} (cause : Malformation) : AnalysisM α := throw (.malformed cause)

/-- Turns a lookup in the catalog into a step. -/
def lookedUp {α : Type} : Except CatalogError α → AnalysisM α
  | .ok a => pure a
  | .error e => throw (.ofCatalog e)

/-- Binds a placeholder. -/
def bindParam (number : Nat) (hint : Option Hint) : AnalysisM Inferred := do
  modify (Bindings.record (.ofHint number hint))
  return .ofHint hint

/-- Binds the placeholders of a construct that is not understood. -/
def bindAll : List Node → AnalysisM Unit
  | [] => return
  | .param number _ :: ns => do
    discard (bindParam number none)
    bindAll ns
  | _ :: ns => bindAll ns

/-! ## Result columns -/

/-- The name of the column at a position that has no name of its own. -/
def positionName (position : Nat) : String := "column_" ++ toString position

/-- The name of a result column without an alias. -/
def defaultName (value : Node) (position : Nat) : String :=
  match value with
  | .column fields => (Canonical.columnName? fields).getD (positionName position)
  | .call c => Inferred.lastPart c.name
  | _ => positionName position

/-- The result column that an expression makes. -/
def ResultColumn.ofInferred (name : String) (i : Inferred) : ResultColumn :=
  ⟨name, i.type, i.notNull, i.source.map (·.1), i.source.map (·.2)⟩

/-- The column that two sides of a set operation make: it is called after the left one. -/
def ResultColumn.combine (left right : ResultColumn) : ResultColumn :=
  { left with
    notNull := left.notNull && right.notNull
    type := if left.type.isOpaque then right.type else left.type }

/-- The columns that two sides of a set operation make. -/
def combineColumns (left right : List ResultColumn) : AnalysisM (List ResultColumn) :=
  if left.length = right.length then return List.zipWith .combine left right
  else malformed (.columnCounts left.length right.length)

/-- The columns of the first row of a VALUES, the first of them at a position. -/
def rowColumns (position : Nat) : List Inferred → List ResultColumn
  | [] => []
  | i :: is => .computed (positionName position) i.type i.notNull :: rowColumns (position + 1) is

/-- Takes a further row of a VALUES into account: what it may be null in can be null. -/
def weakenColumns : List ResultColumn → List Inferred → List ResultColumn
  | c :: cs, i :: is => { c with notNull := c.notNull && i.notNull } :: weakenColumns cs is
  | cs, [] => cs
  | [], _ => []

/-- The columns of the rows of a VALUES. -/
def valuesColumns : List (List Inferred) → List ResultColumn
  | [] => []
  | row :: rows => rows.foldl weakenColumns (rowColumns 1 row)

/-! ## Expressions and queries -/

mutual

/-- Infers an expression in a scope; a placeholder takes the hint. -/
def inferExpr (c : Catalog) (s : Scope) (hint : Option Hint) : Node → AnalysisM Inferred
  | .column fields =>
    if Canonical.endsInStar fields then return .unknown
    else
      match s.resolve fields with
      | .ok column => return .ofColumn column
      | .error e => throw e
  | .param number _ => bindParam number hint
  | .literal value => return .ofLiteral value
  | .logic _ args => do
    let args ← inferAll c s none args
    return .boolean (args.all (·.notNull))
  | .operator name _ none => malformed (.operatorWithoutOperand name)
  | .operator name none (some right) => do
    let right ← inferExpr c s none right
    return .ofOperator name none right
  | .operator name (some left) (some right) => do
    let compares := OperatorKind.ofName name = .comparison
    -- the operand that is no placeholder goes first, because it tells the type of the other one
    if compares ∧ left.isParam ∧ ¬ right.isParam then
      let right ← inferExpr c s none right
      let left ← inferExpr c s right.hint? left
      return .ofOperator name (some left) right
    else
      let left ← inferExpr c s none left
      let right ← inferExpr c s (if compares then left.hint? else none) right
      return .ofOperator name (some left) right
  | .nullTest arg _ => do
    discard (inferExpr c s none arg)
    return .boolean true
  | .cast arg type => do
    let arg ← inferExpr c s (some (.castTo type)) arg
    return .computed type arg.notNull
  | .call ⟨name, args, orderBy, filter, window, star, _⟩ => do
    let args ← inferAll c s none args
    discard (inferAll c s none orderBy)
    discard (inferOption c s none filter)
    analyzeOver c s window
    return .ofCall name args star
  | .case operand branches default => do
    let operand ← inferOption c s none operand
    -- the conditions are compared with the operand, if there is one
    let results ← inferBranches c s (operand.bind (·.hint?)) branches
    let default ← inferOption c s none default
    return .ofBranches (results ++ default.toList) default.isSome
  | .sublink kind test query _ => do
    let columns ← analyzeSublink c s query
    match kind with
    | .exists =>
      discard (inferOption c s none test)
      return .boolean true
    | .any =>
      -- what is tested against a query is compared with its first column
      let first := columns.head?
      let hint := (first.filter fun column => !column.type.isOpaque).map Hint.column
      let test ← inferOption c s hint test
      return .boolean ((test.map (·.notNull)).getD false && (first.map (·.notNull)).getD false)
  | .select query => do
    let columns ← analyzeSelect c s [] query
    -- a query without rows is null, so no column of it is known not to be
    return match columns with
      | column :: _ => .computed column.type false
      | [] => .unknown
  | .list items => do
    let items ← inferAll c s hint items
    return .ofList items
  | .unsupported _ params => do
    bindAll params
    return .unknown
  | .schemaChange change => malformed (.inExpression change.kind)
  | .insert _ => malformed (.inExpression "Insert")
  | .update _ => malformed (.inExpression "Update")
  | .delete _ => malformed (.inExpression "Delete")
  | .target .. => malformed (.inExpression "ResTarget")
  | .table _ => malformed (.inExpression "RangeVar")
  | .derived .. => malformed (.inExpression "RangeSubselect")
  | .name _ => malformed (.inExpression "Name")
  | .star => malformed (.inExpression "Star")

/-- Infers expressions one after the other. -/
def inferAll (c : Catalog) (s : Scope) (hint : Option Hint) : List Node → AnalysisM (List Inferred)
  | [] => return []
  | n :: ns => do
    let i ← inferExpr c s hint n
    let is ← inferAll c s hint ns
    return i :: is

/-- Infers an expression that may be absent. -/
def inferOption (c : Catalog) (s : Scope) (hint : Option Hint) :
    Option Node → AnalysisM (Option Inferred)
  | none => return none
  | some n => do
    let i ← inferExpr c s hint n
    return some i

/-- Infers the results of the branches of a CASE; the conditions take the hint. -/
def inferBranches (c : Catalog) (s : Scope) (hint : Option Hint) :
    List Canonical.Branch → AnalysisM (List Inferred)
  | [] => return []
  | ⟨condition, result⟩ :: bs => do
    discard (inferExpr c s hint condition)
    let i ← inferExpr c s none result
    let is ← inferBranches c s hint bs
    return i :: is

/-- The columns of the query of a sublink; there are none if it is missing or no query. -/
def analyzeSublink (c : Catalog) (s : Scope) : Option Node → AnalysisM (List ResultColumn)
  | none => return []
  | some (.select query) => analyzeSelect c s [] query
  | some n => do
    discard (inferExpr c s none n)
    return []

/-- Analyses the window of a call. -/
def analyzeOver (c : Catalog) (s : Scope) : Option Canonical.Window → AnalysisM Unit
  | none => return
  | some w => analyzeWindow c s w

/-- Analyses a window. -/
def analyzeWindow (c : Catalog) (s : Scope) : Canonical.Window → AnalysisM Unit
  | ⟨_, _, partitionBy, orderBy, startOffset, endOffset⟩ => do
    discard (inferAll c s none partitionBy)
    discard (inferAll c s none orderBy)
    discard (inferOption c s (some .frame) startOffset)
    discard (inferOption c s (some .frame) endOffset)

/-- Analyses the windows of a WINDOW clause. -/
def analyzeWindows (c : Catalog) (s : Scope) : List Canonical.Window → AnalysisM Unit
  | [] => return
  | w :: ws => do
    analyzeWindow c s w
    analyzeWindows c s ws

/-- The result columns of a query; the placeholders that are columns take the hints. -/
def analyzeSelect (c : Catalog) (s : Scope) (hints : List Hint) :
    Select → AnalysisM (List ResultColumn)
  | ⟨ctes, targets, source, joinConditions, condition, distinctOn, groupBy, having, windows, orderBy,
      limit, offset, rows, operation, _, left, right⟩ => do
    let defined ← analyzeCtes c s [] ctes
    -- the queries of the WITH clause form a level of their own, around all else
    let s : Scope := ⟨[], defined, []⟩ :: s
    if operation ≠ .none then
      if left.isNone || right.isNone then malformed .missingSide
      let leftColumns ← analyzeSide c s hints left
      let rightColumns ← analyzeSide c s hints right
      let columns ← combineColumns leftColumns rightColumns
      -- the last clauses of a set operation see its columns, but not the tables of its sides
      let inner : Scope := ⟨[], [], columns⟩ :: s
      discard (inferAll c inner none orderBy)
      discard (inferOption c inner (some (.count "limit")) limit)
      discard (inferOption c inner (some (.count "offset")) offset)
      return columns
    else if !rows.isEmpty then
      let rows ← inferRows c s hints rows
      discard (inferOption c s (some (.count "limit")) limit)
      discard (inferOption c s (some (.count "offset")) offset)
      return valuesColumns rows
    else
      let relations ← analyzeSources c s source
      let inner : Scope := .ofRelations relations :: s
      discard (inferAll c inner none joinConditions)
      discard (inferOption c inner none condition)
      let columns ← analyzeTargets c inner hints 0 targets
      -- from here on names may also mean columns of the result
      let inner := inner.setOutputs columns
      discard (inferAll c inner none distinctOn)
      discard (inferAll c inner none groupBy)
      discard (inferOption c inner none having)
      analyzeWindows c inner windows
      discard (inferAll c inner none orderBy)
      discard (inferOption c inner (some (.count "limit")) limit)
      discard (inferOption c inner (some (.count "offset")) offset)
      return columns

/-- The columns of a side of a set operation. -/
def analyzeSide (c : Catalog) (s : Scope) (hints : List Hint) :
    Option Select → AnalysisM (List ResultColumn)
  | some side => analyzeSelect c s hints side
  | none => malformed .missingSide

/-- The relations that a WITH clause defines, after those already `defined`; each query sees the
ones before it. -/
def analyzeCtes (c : Catalog) (s : Scope) (defined : List Relation) :
    List Canonical.NamedQuery → AnalysisM (List Relation)
  | [] => return defined
  | ⟨name, .select query⟩ :: qs => do
    let columns ← analyzeSelect c (⟨[], defined, []⟩ :: s) [] query
    analyzeCtes c s (defined ++ [.derived name columns false]) qs
  | ⟨name, n⟩ :: _ => malformed (.cteNotQuery name n.kind)

/-- Infers the rows of a VALUES. -/
def inferRows (c : Catalog) (s : Scope) (hints : List Hint) :
    List Node → AnalysisM (List (List Inferred))
  | [] => return []
  | .list items :: rows => do
    if !hints.isEmpty && items.length ≠ hints.length then
      malformed (.valueCount hints.length items.length)
    let row ← inferRow c s hints items
    let rest ← inferRows c s hints rows
    return row :: rest
  | _ :: _ => malformed .rowNotList

/-- Infers the values of a row, each with a hint of its own. -/
def inferRow (c : Catalog) (s : Scope) (hints : List Hint) : List Node → AnalysisM (List Inferred)
  | [] => return []
  | n :: ns => do
    let i ← inferExpr c s hints.head? n
    let is ← inferRow c s hints.tail ns
    return i :: is

/-- The relation that an item of a FROM clause is, if it is one. -/
def analyzeSource (c : Catalog) (s : Scope) : Node → AnalysisM (Option Relation)
  | .table t => do
    -- a name without a schema may mean a query of a WITH clause
    match if t.schema.isNone then s.findCte? t.name else none with
    | some cte => return some { cte with name := t.visibleName, nullable := t.nullable }
    | none =>
      let found ← lookedUp (c.lookupTable t.tableName)
      return some (.ofTable found t.aliasName t.nullable)
  | .derived (.select query) aliasName nullable => do
    let columns ← analyzeSelect c s [] query
    return some (.derived (aliasName.getD "") columns nullable)
  | .derived .. => malformed .derivedNotQuery
  | .unsupported _ params => do
    bindAll params
    return none
  | n => malformed (.inSource n.kind)

/-- The relations of a FROM clause. No item sees the others. -/
def analyzeSources (c : Catalog) (s : Scope) : List Node → AnalysisM (List Relation)
  | [] => return []
  | n :: ns => do
    let r ← analyzeSource c s n
    let rs ← analyzeSources c s ns
    return r.toList ++ rs

/-- The columns of a select list, after as many others as `position` says. -/
def analyzeTargets (c : Catalog) (s : Scope) (hints : List Hint) (position : Nat) :
    List Node → AnalysisM (List ResultColumn)
  | [] => return []
  | .target name (some value) _ :: ns => do
    match value.starQualifiers? with
    | some qualifiers =>
      match s.expandStar qualifiers with
      | .ok columns =>
        -- the hints of the columns that a star stands for are passed over
        let rest ← analyzeTargets c s hints (position + columns.length) ns
        return columns ++ rest
      | .error e => throw e
    | none =>
      let i ← inferExpr c s hints[position]? value
      let column := ResultColumn.ofInferred (name.getD (defaultName value (position + 1))) i
      let rest ← analyzeTargets c s hints (position + 1) ns
      return column :: rest
  | .target _ none _ :: _ => malformed .targetWithoutValue
  | n :: _ => malformed (.inTargets n.kind)

end

/-! ## Statements -/

/-- Analyses an assignment to a column of the target. -/
def analyzeAssignment (c : Catalog) (s : Scope) (target : Relation) : Node → AnalysisM Unit
  | .target name value _ => do
    let hint ←
      match name with
      | some n =>
        match target.column? n with
        | some column => pure (some (Hint.column column))
        | none => throw (.unknownColumn n target.table)
      | none => pure none
    discard (inferOption c s hint value)
  | n => malformed (.inAssignments n.kind)

/-- The hints of the columns that an INSERT lists. -/
def columnHints (target : Relation) : List Node → AnalysisM (List Hint)
  | [] => return []
  | .target (some name) _ _ :: ns => do
    match target.column? name with
    | some column =>
      let rest ← columnHints target ns
      return Hint.column column :: rest
    | none => throw (.unknownColumn name target.table)
  | _ :: _ => malformed .unnamedColumn

/-- The table that a statement changes, as a relation. -/
def targetRelation (c : Catalog) (t : Canonical.TableRef) : AnalysisM (Table × Relation) := do
  let found ← lookedUp (c.lookupTable t.tableName)
  return (found, .ofTable found t.aliasName false)

/-- The hints for what an INSERT writes: those of the columns that it lists, or of all columns. -/
def insertHints (target : Relation) (columns : List Node) : AnalysisM (List Hint) :=
  if columns.isEmpty then return target.columns.map Hint.column else columnHints target columns

/-- Analyses what an INSERT does with a row that is there already. The row that could not be
inserted is called `excluded`. -/
def analyzeConflict (c : Catalog) (target : Relation) (i : Canonical.Insert) : AnalysisM Unit := do
  if i.conflictTargets.isEmpty && i.conflictCondition.isNone then return
  let excluded := { target with name := "excluded", schema := none }
  -- a name without qualifier means a column of the target
  let s : Scope := [.ofRelations [target], .ofRelations [excluded]]
  i.conflictTargets.forM (analyzeAssignment c s target)
  discard (inferOption c s none i.conflictCondition)

/-- The table that an INSERT writes into, and the columns that it returns. -/
def analyzeInsert (c : Catalog) (i : Canonical.Insert) :
    AnalysisM (TableName × List ResultColumn) := do
  let (table, target) ← targetRelation c i.table
  let hints ← insertHints target i.columns
  discard (analyzeSelect c [] hints i.source)
  analyzeConflict c target i
  let columns ← analyzeTargets c [.ofRelations [target]] [] 0 i.returning
  return (table.name, columns)

/-- The columns that an UPDATE returns. -/
def analyzeUpdate (c : Catalog) (u : Canonical.Update) : AnalysisM (List ResultColumn) := do
  let (_, target) ← targetRelation c u.table
  let others ← analyzeSources c [] u.source
  let s : Scope := [.ofRelations (target :: others)]
  discard (inferAll c s none u.joinConditions)
  u.targets.forM (analyzeAssignment c s target)
  discard (inferOption c s none u.condition)
  analyzeTargets c s [] 0 u.returning

/-- The columns that a DELETE returns. -/
def analyzeDelete (c : Catalog) (d : Canonical.Delete) : AnalysisM (List ResultColumn) := do
  let (_, target) ← targetRelation c d.table
  let others ← analyzeSources c [] d.source
  let s : Scope := [.ofRelations (target :: others)]
  discard (inferAll c s none d.joinConditions)
  discard (inferOption c s none d.condition)
  discard (inferAll c s none d.orderBy)
  discard (inferOption c s (some (.count "limit")) d.limit)
  analyzeTargets c s [] 0 d.returning

/-- The result columns of a statement, and the table that it inserts into. -/
def analyzeStatement (c : Catalog) : Node → AnalysisM (List ResultColumn × Option TableName)
  | .select s => do
    let columns ← analyzeSelect c [] [] s
    return (columns, none)
  | .insert i => do
    let (table, columns) ← analyzeInsert c i
    return (columns, some table)
  | .update u => do
    let columns ← analyzeUpdate c u
    return (columns, none)
  | .delete d => do
    let columns ← analyzeDelete c d
    return (columns, none)
  | .unsupported construct _ => throw (.unsupported construct)
  | n => throw (.unsupported n.kind)

/-- The parameters up to the greatest number; those that are not bound are unknown. -/
def Bindings.parameters (bs : Bindings) (greatest : Nat) : List Parameter :=
  (List.range' 1 greatest).map fun n => (bs.find? n).getD (.unknown n)

/-- The greatest number of a placeholder in a statement. -/
def greatestParam (n : Node) : Nat := (n.paramRefs.map (·.number)).foldl max 0

/-- Analyses a statement. -/
def analyze (c : Catalog) (n : Node) : Except AnalysisError Analysis := do
  let ((columns, table), bs) ← (analyzeStatement c n).run []
  return ⟨bs.parameters (greatestParam n), columns, table⟩

end TypedSql
