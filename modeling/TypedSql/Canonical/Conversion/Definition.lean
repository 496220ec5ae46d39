import TypedSql.Canonical.Conversion.Basic

/-!
# Conversion of definitions

The canonical form of the statements that change the schema.
-/

namespace TypedSql.Canonical

namespace Conversion

/-- Applies the options of a column to what its type says about nulls; a later option wins. -/
def notNullAfter (notNull : Bool) (options : List Sql.ColumnOption) : Bool :=
  options.foldl (fun notNull option =>
    match option.nullability with
    | .required => true
    | .allowed => false
    | .unsaid => notNull) notNull

/-- The definition of a column. -/
def columnDef (d : Dialect) (column : Sql.ColumnDecl) : ColumnDef :=
  let type := typeOf d column.type
  ⟨fold d column.name, type, notNullAfter (neverNull d type) column.options⟩

/-- The columns of the primary key of a table that its constraints name. -/
def keyColumns (d : Dialect) (constraints : List Sql.TableConstraint) : List String :=
  constraints.flatMap fun constraint => constraint.key.map (fold d)

/-- Converts a CREATE TABLE. The columns of a table that is made from another one are not known. -/
def createTable (create : Sql.CreateTable) : Conversion Node := do
  if create.query.isSome then return .unsupported "CREATE TABLE ... AS SELECT" []
  if create.like.isSome then return .unsupported "CREATE TABLE ... LIKE" []
  let name ← tableName create.name
  let d ← dialect
  let key := keyColumns d create.constraints
  let columns := create.columns.map fun column =>
    let column := columnDef d column
    { column with notNull := column.notNull || key.contains column.name }
  return .schemaChange (.createTable name create.ifNotExists columns)

/-- The commands that a change of a table stands for. -/
def alterCommands (change : Sql.TableChange) : Conversion (List AlterCommand) := do
  let d ← dialect
  match change with
  | .addColumn column ifNotExists => return [.addColumn (columnDef d column) ifNotExists]
  | .dropColumn name ifExists => return [.dropColumn (fold d name) ifExists]
  | .changeColumn name column => return [.modifyColumn (fold d name) (columnDef d column)]
  | .setNotNull name notNull => return [.setNotNull (fold d name) notNull]
  | .setType name type => return [.setType (fold d name) (typeOf d type)]
  | .renameColumn name newName => return [.renameColumn (fold d name) (fold d newName)]
  | .renameTable newName => return [.renameTable (← tableName newName)]
  | .nothing => return []

/-- Converts an ALTER TABLE. -/
def alterTable (alter : Sql.AlterTable) : Conversion Node := do
  let table ← tableName alter.name
  let commands ← alter.actions.mapM fun action => alterCommands action.change
  return .schemaChange (.alterTable table alter.ifExists commands.flatten)

/-- Converts a DROP TABLE. -/
def dropTables (names : List Sql.ObjectName) (ifExists : Bool) : Conversion Node := do
  let names ← names.mapM tableName
  return .schemaChange (.dropTables names ifExists)

/-- Converts a CREATE SCHEMA. -/
def createSchema (name : Sql.ObjectName) (ifNotExists : Bool) : Conversion Node := do
  let name ← lastIdent name
  return .schemaChange (.createSchema name ifNotExists)

end Conversion

end TypedSql.Canonical
