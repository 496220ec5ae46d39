import TypedSql.Canonical.Conversion.Definition
import TypedSql.Canonical.Conversion.Query

/-!
# Conversion of statements

Turns the syntax tree of a statement into its canonical tree. `Conversion.statement` converts a tree
in the course of a conversion, and `convert` converts a statement of a script on its own.
-/

namespace TypedSql.Canonical

namespace Conversion

/-- Converts the assignments of a SET clause. Only the last part of a column's name is kept. -/
def assignments : List Sql.Assignment → Conversion (List Node)
  | [] => return []
  | a :: as => do
    let node ← match a with
      | .column name value => do
        let name ← lastIdent name
        target (some name) (← expr value)
      | .tuple text => do target none (← skip "tuple assignment" text)
    return node :: (← assignments as)

/-- Converts what an INSERT does with a row that is there already. -/
def onInsert : Option Sql.OnInsert → Conversion (List Node × Option Node)
  | some (.duplicateKeyUpdate as) => return (← assignments as, none)
  | some (.conflictUpdate _ as condition) => do
    let targets ← assignments as
    return (targets, ← exprOption condition)
  | some (.conflictNothing _) | none => return ([], none)

/-- Converts what an INSERT writes. One without a source writes the empty query. -/
def insertSource : Option Sql.Query → Conversion Select
  | some q => query q
  | none => return .empty

/-- Converts an INSERT. -/
def insert (i : Sql.Insert) : Conversion Node := do
  let table ← tryCatch (tableRef i.table i.aliasName) fun _ => throw (.insertTarget i.table)
  let d ← dialect
  let fallback := (← read).fallback
  let columns := i.columns.map fun c => Node.target (some (fold d c)) none fallback
  let source ← insertSource i.source
  let (conflictTargets, conflictCondition) ← onInsert i.onInsert
  let returning ← selectItems i.returning
  return .insert ⟨table, columns, source, conflictTargets, conflictCondition, returning⟩

/-- Adds the table of a FROM clause, if there is one. -/
def tableOption (acc : Sources) : Option Sql.TableWithJoins → Conversion Sources
  | some t => table acc t
  | none => return acc

/-- Converts an UPDATE. The first table that its clauses name is the one that it changes. -/
def update (u : Sql.Update) : Conversion Node := do
  let source ← table ⟨[], []⟩ u.table
  let targets ← assignments u.assignments
  let source ← tableOption source u.source
  let condition ← exprOption u.condition
  let returning ← selectItems u.returning
  match source.items with
  | .table ref :: items =>
    return .update ⟨ref, targets, items, source.conditions, condition, returning⟩
  | _ => throw .updateTarget

/-- Converts a DELETE. The first table that its clauses name is the one that it changes. -/
def delete (s : Sql.Delete) : Conversion Node := do
  noteIf (1 < s.targets.length) "multi-table DELETE"
  let source ← tables ⟨[], []⟩ s.source
  let source ← tables source s.others
  match source.items with
  | .table ref :: items =>
    let condition ← exprOption s.condition
    let keys ← orderKeys s.orderBy
    let limit ← exprOption s.limit
    let returning ← selectItems s.returning
    return .delete ⟨ref, items, source.conditions, condition, keys, limit, returning⟩
  | _ => throw .deleteTarget

/-- Converts a statement. -/
def statement : Sql.Statement → Conversion Node
  | .query q => return .select (← query q)
  | .insert i => insert i
  | .update u => update u
  | .delete s => delete s
  | .createTable create => createTable create
  | .alterTable alter => alterTable alter
  | .dropTables names ifExists _ => dropTables names ifExists
  | .createSchema name ifNotExists _ => createSchema name ifNotExists
  | .unmapped kind text => return .unsupported kind (← paramsIn text)

end Conversion

/-- The canonical form of a statement. -/
structure Converted where
  node : Node
  /-- The offset of the statement in its file, in bytes. -/
  location : Nat
  /-- The length of the statement in bytes. -/
  length : Nat
  /-- The constructs inside the statement that have no canonical form. -/
  unsupported : List String

/-- Converts a statement of a script by the rules of a dialect. -/
def convert (d : Dialect) (s : Sql.ScriptStatement) : Except ConversionError Converted :=
  let (result, progress) :=
    (Conversion.statement s.tree).run ⟨d, s.start, s.limitComma⟩ (.start s.placeholders)
  result.map fun node => ⟨node, s.start, s.text.utf8ByteSize, progress.unsupported⟩

end TypedSql.Canonical
