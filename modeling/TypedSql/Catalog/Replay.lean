import TypedSql.Canonical.Tree
import TypedSql.Catalog.Basic

/-!
# Replaying schema changes

What the statements that define tables do to a catalog. A statement is applied as a whole or not at
all: one that fails answers an error and no catalog.
-/

namespace TypedSql

open Canonical (AlterCommand ColumnDef SchemaChange)

/-! ## Changes of a table -/

/-- The column that a definition defines. -/
def Column.ofDef (d : ColumnDef) : Column := ⟨d.name, d.type, d.notNull⟩

namespace Table

/-- Adds the columns of a table definition, whose names must differ. -/
def addColumns (t : Table) : List ColumnDef → Except CatalogError Table
  | [] => .ok t
  | d :: ds =>
    if t.hasColumn d.name then .error (.duplicateColumn t.name d.name)
    else addColumns { t with columns := t.columns ++ [.ofDef d] } ds

/-- Changes the first column with a name. -/
def changeColumn (name : String) (f : Column → Column) : List Column → List Column
  | [] => []
  | c :: cs => if c.name = name then f c :: cs else c :: changeColumn name f cs

/-- Changes a column that must be there. -/
def updateColumn (t : Table) (name : String) (f : Column → Column) : Except CatalogError Table :=
  if t.hasColumn name then .ok { t with columns := changeColumn name f t.columns }
  else .error (.unknownColumn t.name name)

/-- Refuses a new name for a column if another column has it. -/
def checkRename (t : Table) (name newName : String) : Except CatalogError Unit :=
  if newName ≠ name ∧ t.hasColumn newName then .error (.duplicateColumn t.name newName) else .ok ()

end Table

namespace Catalog

/-- The name that a table gets from a RENAME. Without a schema it stays in the schema of the
table. -/
def renameTarget (c : Catalog) (old new : TableName) : TableName :=
  match new.schema with
  | some _ => c.qualify new
  | none => ⟨old.schema, new.name⟩

/-- Refuses a new name for a table if its schema is missing or another table has it. -/
def checkTarget (c : Catalog) (old new : TableName) : Except CatalogError Unit :=
  let schema := new.schema.getD ""
  match c.schema? schema with
  | none => .error (.unknownSchema schema)
  | some s =>
    if new ≠ old ∧ s.tables.contains new.name then .error (.duplicateTable new) else .ok ()

/-- What a command does to a table of the catalog. -/
def alter (c : Catalog) (t : Table) : AlterCommand → Except CatalogError Table
  | .addColumn d ifNotExists =>
    if t.hasColumn d.name then
      if ifNotExists then .ok t else .error (.duplicateColumn t.name d.name)
    else .ok { t with columns := t.columns ++ [.ofDef d] }
  | .dropColumn name ifExists =>
    if t.hasColumn name then .ok { t with columns := t.columns.eraseP (·.name = name) }
    else if ifExists then .ok t
    else .error (.unknownColumn t.name name)
  | .modifyColumn name d => do
    t.checkRename name d.name
    t.updateColumn name fun _ => .ofDef d
  | .setNotNull name notNull => t.updateColumn name fun c => { c with notNull := notNull }
  | .setType name type => t.updateColumn name fun c => { c with type := type }
  | .renameColumn name newName => do
    t.checkRename name newName
    t.updateColumn name fun c => { c with name := newName }
  | .renameTable newName => do
    let target := c.renameTarget t.name newName
    c.checkTarget t.name target
    return { t with name := target }

/-- What commands do to a table of the catalog, one after the other. -/
def alterAll (c : Catalog) (t : Table) : List AlterCommand → Except CatalogError Table
  | [] => .ok t
  | a :: as =>
    match c.alter t a with
    | .ok t => c.alterAll t as
    | .error e => .error e

/-! ## Changes of the catalog -/

/-- Puts a table into a schema; a schema that is missing is left alone. -/
def insertTable (c : Catalog) (schema : String) (t : Table) : Catalog :=
  match c.schema? schema with
  | some s =>
    { c with
      schemas := c.schemas.insert schema { s with tables := s.tables.insert t.name.name t } }
  | none => c

/-- Takes a table away. -/
def removeTable (c : Catalog) (name : TableName) : Catalog :=
  match c.schema? (c.schemaName name) with
  | some s =>
    { c with
      schemas :=
        c.schemas.insert (c.schemaName name) { s with tables := s.tables.erase name.name } }
  | none => c

/-- The effect of a CREATE SCHEMA. -/
def createSchema (c : Catalog) (name : String) (ifNotExists : Bool) : Except CatalogError Catalog :=
  if c.schemas.contains name then
    if ifNotExists then .ok c else .error (.duplicateSchema name)
  else .ok { c with schemas := c.schemas.insert name (.empty name) }

/-- The effect of a CREATE TABLE. -/
def createTable (c : Catalog) (name : TableName) (ifNotExists : Bool) (columns : List ColumnDef) :
    Except CatalogError Catalog :=
  let qualified := c.qualify name
  match c.schema? (c.schemaName name) with
  | none => .error (.unknownSchema (c.schemaName name))
  | some s =>
    if s.tables.contains qualified.name then
      if ifNotExists then .ok c else .error (.duplicateTable qualified)
    else do
      let t ← Table.addColumns ⟨qualified, []⟩ columns
      return c.insertTable (c.schemaName name) t

/-- The effect of an ALTER TABLE: that of all its commands. -/
def alterTable (c : Catalog) (name : TableName) (ifExists : Bool) (commands : List AlterCommand) :
    Except CatalogError Catalog :=
  match c.lookupTable name with
  | .error (.unknownTable t) => if ifExists then .ok c else .error (.unknownTable t)
  | .error e => .error e
  | .ok old => do
    let t ← c.alterAll old commands
    -- a command may have renamed the table, so it leaves its place before it takes the new one
    return (c.removeTable old.name).insertTable (t.name.schema.getD "") t

/-- The tables that a DROP TABLE takes away, by their full names. -/
def doomed (c : Catalog) (ifExists : Bool) : List TableName → Except CatalogError (List TableName)
  | [] => .ok []
  | name :: names =>
    match c.lookupTable name with
    | .ok t => (c.doomed ifExists names).map (t.name :: ·)
    -- IF EXISTS forgives a missing schema as well as a missing table
    | .error e => if ifExists then c.doomed ifExists names else .error e

/-- The effect of a DROP TABLE: all its tables go, or none. -/
def dropTables (c : Catalog) (names : List TableName) (ifExists : Bool) :
    Except CatalogError Catalog := do
  return (← c.doomed ifExists names).foldl removeTable c

/-- The effect of a statement that changes the schema. -/
def apply (c : Catalog) : SchemaChange → Except CatalogError Catalog
  | .createTable name ifNotExists columns => c.createTable name ifNotExists columns
  | .alterTable name ifExists commands => c.alterTable name ifExists commands
  | .dropTables names ifExists => c.dropTables names ifExists
  | .createSchema name ifNotExists => c.createSchema name ifNotExists

/-- The effect of any statement; queries have none. -/
def replay (c : Catalog) : Canonical.Node → Except CatalogError Catalog
  | .schemaChange change => c.apply change
  | _ => .ok c

end Catalog

end TypedSql
