import TypedSql.Catalog.Directory
import TypedSql.Diagnostic
import TypedSql.SqlType
import TypedSql.TableName

/-!
# Catalogs

Schemas, their tables and the columns of these, with lookups by name. A name without a schema is
looked up in the default schema of the catalog.
-/

namespace TypedSql

/-- A column of a table. -/
structure Column where
  name : String
  type : SqlType
  notNull : Bool
  deriving DecidableEq, Inhabited

namespace Column

/-- The JSON form. -/
def toJson (c : Column) : Json :=
  .object [("name", .string c.name), ("data_type", c.type.toJson), ("not_null", .bool c.notNull)]

end Column

/-- A table, with its columns in the order of their declaration. -/
structure Table where
  /-- The qualified name. -/
  name : TableName
  columns : List Column
  deriving DecidableEq, Inhabited

namespace Table

/-- The column with a name. -/
def column? (t : Table) (name : String) : Option Column := t.columns.find? (·.name = name)

/-- Whether the table has a column. -/
def hasColumn (t : Table) (name : String) : Bool := (t.column? name).isSome

/-- The names of the columns, in order. -/
def columnNames (t : Table) : List String := t.columns.map (·.name)

/-- The JSON form. -/
def toJson (t : Table) : Json :=
  .object [("name", t.name.toJson), ("columns", .array (t.columns.map Column.toJson))]

end Table

/-- A schema. -/
structure Schema where
  name : String
  tables : Directory Table
  deriving DecidableEq, Inhabited

namespace Schema

/-- A schema without tables. -/
def empty (name : String) : Schema := ⟨name, .empty⟩

/-- The JSON form. -/
def toJson (s : Schema) : Json :=
  .object [("name", .string s.name),
    ("tables", .object (s.tables.entries.map fun (k, t) => (k, t.toJson)))]

end Schema

/-- The schemas of a database. -/
structure Catalog where
  /-- The schema in which names without a schema are looked up. -/
  defaultSchema : String
  schemas : Directory Schema
  deriving DecidableEq, Inhabited

/-- Why a change of the catalog or a lookup fails. -/
inductive CatalogError where
  | duplicateSchema (name : String)
  | duplicateTable (name : TableName)
  | duplicateColumn (table : TableName) (column : String)
  | unknownSchema (name : String)
  | unknownTable (name : TableName)
  | unknownColumn (table : TableName) (column : String)
  deriving DecidableEq

namespace CatalogError

/-- The code of the diagnostic for an error. -/
def code : CatalogError → DiagnosticCode
  | .duplicateSchema _ | .duplicateTable _ | .duplicateColumn .. => .duplicateObject
  | .unknownSchema _ => .unknownSchema
  | .unknownTable _ => .unknownTable
  | .unknownColumn .. => .unknownColumn

/-- The text of an error. -/
def message : CatalogError → String
  | .duplicateSchema s => "Schema already exists: " ++ s
  | .duplicateTable t => "Table already exists: " ++ t.render
  | .duplicateColumn t c => "Column '" ++ c ++ "' already exists on table " ++ t.render
  | .unknownSchema s => "Unknown schema: " ++ s
  | .unknownTable t => "Unknown table: " ++ t.render
  | .unknownColumn t c => "Unknown column '" ++ c ++ "' on table " ++ t.render

/-- The diagnostic for an error. -/
def toDiagnostic (e : CatalogError) : Diagnostic := .ofError e.code e.message

end CatalogError

namespace Catalog

/-- A catalog that holds the default schema only. -/
def empty (defaultSchema : String) : Catalog :=
  ⟨defaultSchema, Directory.empty.insert defaultSchema (.empty defaultSchema)⟩

/-- The schema with a name. -/
def schema? (c : Catalog) (name : String) : Option Schema := c.schemas.find? name

/-- All tables, schema by schema. -/
def tables (c : Catalog) : List Table := c.schemas.values.flatMap (·.tables.values)

/-- The number of tables. -/
def tableCount (c : Catalog) : Nat := c.schemas.values.foldr (fun s n => s.tables.size + n) 0

/-- The schema in which a name is looked up. -/
def schemaName (c : Catalog) (name : TableName) : String := name.schema.getD c.defaultSchema

/-- The name together with its schema. -/
def qualify (c : Catalog) (name : TableName) : TableName :=
  .qualified (c.schemaName name) name.name

/-- The table with a name. -/
def lookupTable (c : Catalog) (name : TableName) : Except CatalogError Table :=
  match c.schema? (c.schemaName name) with
  | none => .error (.unknownSchema (c.schemaName name))
  | some s =>
    match s.tables.find? name.name with
    | none => .error (.unknownTable (c.qualify name))
    | some t => .ok t

/-- A column of the table with a name. -/
def lookupColumn (c : Catalog) (table : TableName) (column : String) :
    Except CatalogError Column := do
  let t ← c.lookupTable table
  match t.column? column with
  | some found => .ok found
  | none => .error (.unknownColumn t.name column)

/-- The JSON form. -/
def toJson (c : Catalog) : Json :=
  .object [("default_schema", .string c.defaultSchema),
    ("schemas", .object (c.schemas.entries.map fun (k, s) => (k, s.toJson)))]

end Catalog

end TypedSql
