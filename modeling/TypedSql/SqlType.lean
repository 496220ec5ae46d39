import TypedSql.Json

/-!
# SQL types

The types of columns and placeholders: a normalised name with two flags. Lengths and precisions are
not part of a type.
-/

namespace TypedSql

/-- A declared or inferred type. -/
structure SqlType where
  name : String
  unsigned : Bool
  /-- Whether the type is an array of what the name says. -/
  array : Bool
  deriving DecidableEq, Inhabited

namespace SqlType

/-- The type with a name and without flags. -/
def named (name : String) : SqlType := ⟨name, false, false⟩

/-- The type of what nothing is known about. -/
def opaqueType : SqlType := named "any"

/-- Whether nothing is known about the type. -/
def isOpaque (t : SqlType) : Bool := t.name = "any"

/-- The type as text. -/
def render (t : SqlType) : String :=
  t.name ++ (if t.unsigned then " unsigned" else "") ++ if t.array then "[]" else ""

/-- The JSON form; a flag is written only when it is set. -/
def toJson (t : SqlType) : Json :=
  .object ([("name", .string t.name)] ++ Json.flagField "unsigned" t.unsigned ++
    Json.flagField "array" t.array)

/-- Reads the JSON form. -/
def ofJson? (j : Json) : Option SqlType := do
  let r ← j.record? 3
  return ⟨← r.required 0 "name" Json.string?, ← r.flag 1 "unsigned", ← r.flag 2 "array"⟩

end SqlType

end TypedSql
