import TypedSql.SqlType
import TypedSql.TableName

/-!
# Query descriptors

What is known about a query once it is analysed: its parameters, its result columns, and the name
and the cardinality that its header declares. Descriptors hold no syntax, and their JSON form
can be read back.
-/

namespace TypedSql

/-- What the header of a query says that a query returns. -/
inductive QueryCommand where
  /-- Exactly one row. -/
  | one
  /-- Any number of rows. -/
  | many
  /-- Nothing. -/
  | exec
  /-- The number of affected rows. -/
  | execRows
  /-- What the driver answers. -/
  | execResult
  /-- The last id that was inserted. -/
  | execLastId
  deriving DecidableEq, Inhabited

namespace QueryCommand

/-- The spelling of a command in a header. -/
def name : QueryCommand → String
  | .one => "one"
  | .many => "many"
  | .exec => "exec"
  | .execRows => "execrows"
  | .execResult => "execresult"
  | .execLastId => "execlastid"

/-- The command with a spelling. -/
def ofName? (s : String) : Option QueryCommand :=
  match s with
  | "one" => some .one
  | "many" => some .many
  | "exec" => some .exec
  | "execrows" => some .execRows
  | "execresult" => some .execResult
  | "execlastid" => some .execLastId
  | _ => none

/-- Whether the command promises result columns. -/
def returnsRows : QueryCommand → Bool
  | .one | .many => true
  | _ => false

/-- The command as it is written after the name of a query. -/
def render (c : QueryCommand) : String := ":" ++ c.name

/-- The JSON form. -/
def toJson (c : QueryCommand) : Json := .string c.name

/-- Reads the JSON form. -/
def ofJson? (j : Json) : Option QueryCommand := do ofName? (← j.name?)

end QueryCommand

/-- A placeholder parameter. -/
structure Parameter where
  /-- The number of the parameter; the first one is one. -/
  number : Nat
  /-- The name of the column that the parameter is compared with or written into. -/
  name : Option String
  type : SqlType
  notNull : Bool
  deriving DecidableEq, Inhabited

namespace Parameter

/-- A parameter about which nothing is known. -/
def unknown (number : Nat) : Parameter := ⟨number, none, .opaqueType, false⟩

/-- The JSON form. -/
def toJson (p : Parameter) : Json :=
  .object ([("number", .nat p.number)] ++ Json.optionalField "name" .string p.name ++
    [("data_type", p.type.toJson), ("not_null", .bool p.notNull)])

/-- Reads the JSON form. -/
def ofJson? (j : Json) : Option Parameter := do
  let r ← j.record? 4
  return ⟨← r.required 0 "number" Json.word?, ← r.optional 1 "name" Json.string?,
    ← r.required 2 "data_type" SqlType.ofJson?, ← r.required 3 "not_null" Json.bool?⟩

end Parameter

/-- A column of a result, or one that a query can refer to. -/
structure ResultColumn where
  name : String
  type : SqlType
  notNull : Bool
  /-- The table that the column comes straight from. -/
  table : Option TableName
  /-- The name of the column in that table. -/
  originalName : Option String
  deriving DecidableEq, Inhabited

namespace ResultColumn

/-- A column that comes from no table. -/
def computed (name : String) (type : SqlType) (notNull : Bool) : ResultColumn :=
  ⟨name, type, notNull, none, none⟩

/-- The JSON form. -/
def toJson (c : ResultColumn) : Json :=
  .object ([("name", .string c.name), ("data_type", c.type.toJson),
      ("not_null", .bool c.notNull)] ++
    Json.optionalField "table" TableName.toJson c.table ++
    Json.optionalField "original_name" .string c.originalName)

/-- Reads the JSON form. -/
def ofJson? (j : Json) : Option ResultColumn := do
  let r ← j.record? 5
  return ⟨← r.required 0 "name" Json.string?, ← r.required 1 "data_type" SqlType.ofJson?,
    ← r.required 2 "not_null" Json.bool?, ← r.optional 3 "table" TableName.ofJson?,
    ← r.optional 4 "original_name" Json.string?⟩

end ResultColumn

/-- The result of analysing one query. -/
structure QueryDescriptor where
  name : Option String
  command : Option QueryCommand
  sql : String
  file : Option String
  /-- The offset of the statement in its file, in bytes. -/
  location : Nat
  params : List Parameter
  columns : List ResultColumn
  /-- The table that an INSERT writes into. -/
  insertIntoTable : Option TableName
  deriving DecidableEq, Inhabited

namespace QueryDescriptor

/-- The first result column with a name. -/
def findColumn? (d : QueryDescriptor) (name : String) : Option ResultColumn :=
  d.columns.find? (·.name = name)

/-- The names of the result columns. -/
def columnNames (d : QueryDescriptor) : List String := d.columns.map (·.name)

/-- The JSON form; what is absent is left out. -/
def toJson (d : QueryDescriptor) : Json :=
  .object (Json.optionalField "name" .string d.name ++
    Json.optionalField "command" QueryCommand.toJson d.command ++ [("sql", .string d.sql)] ++
    Json.optionalField "file" .string d.file ++
    [("location", .nat d.location), ("params", .array (d.params.map Parameter.toJson)),
      ("columns", .array (d.columns.map ResultColumn.toJson))] ++
    Json.optionalField "insert_into_table" TableName.toJson d.insertIntoTable)

/-- Reads the JSON form. -/
def ofJson? (j : Json) : Option QueryDescriptor := do
  let r ← j.record? 8
  return ⟨← r.optional 0 "name" Json.string?, ← r.optional 1 "command" QueryCommand.ofJson?,
    ← r.required 2 "sql" Json.string?, ← r.optional 3 "file" Json.string?,
    ← r.required 4 "location" Json.word?, ← r.required 5 "params" (Json.list? Parameter.ofJson?),
    ← r.required 6 "columns" (Json.list? ResultColumn.ofJson?),
    ← r.optional 7 "insert_into_table" TableName.ofJson?⟩

end QueryDescriptor

end TypedSql
