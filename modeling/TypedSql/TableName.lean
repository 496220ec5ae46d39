import TypedSql.Json

/-!
# Table names

Names of tables, with or without the schema that the table lives in.
-/

namespace TypedSql

/-- The name of a table, perhaps qualified by a schema. -/
structure TableName where
  schema : Option String
  name : String
  deriving DecidableEq, Inhabited

namespace TableName

/-- A name without a schema. -/
def unqualified (name : String) : TableName := ⟨none, name⟩

/-- A name in a schema. -/
def qualified (schema name : String) : TableName := ⟨some schema, name⟩

/-- The name as text; the schema without a name is left out. -/
def render (t : TableName) : String :=
  match t.schema with
  | some s => if s = "" then t.name else s ++ "." ++ t.name
  | none => t.name

/-- The JSON form; a missing schema is written as null. -/
def toJson (t : TableName) : Json :=
  .object [("schema", Json.nullable .string t.schema), ("name", .string t.name)]

/-- Reads the JSON form. -/
def ofJson? (j : Json) : Option TableName := do
  let r ← j.record? 2
  return ⟨← r.optional 0 "schema" Json.string?, ← r.required 1 "name" Json.string?⟩

end TableName

end TypedSql
