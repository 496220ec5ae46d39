import TypedSql.Config
import TypedSql.FileSystem
import TypedSql.Toml.Document
import TypedSql.Toml.Printer

/-!
# Configuration files

The settings of a compilation as TOML text.

* `Config.parse?` reads a text; what it does not mention has its usual value
* `Config.render` writes all settings
* `Config.load` reads a file, and makes its directory the root of the project
-/

namespace TypedSql

/-- Why settings cannot be read or written. -/
inductive ConfigError where
  /-- A file cannot be read or written. -/
  | file (cause : FileError)
  /-- A text holds no settings. -/
  | malformed
  /-- There is no such dialect. -/
  | unknownDialect (name : String)

namespace ConfigError

/-- The reason in words. -/
def message : ConfigError → String
  | .file cause => "IO error: " ++ cause.message
  | .malformed => "Parse error: malformed settings"
  | .unknownDialect name => "Parse error: unknown dialect '" ++ name ++ "'"

end ConfigError

/-- The dialect with a name in upper or lower case. -/
def Dialect.parse (s : String) : Except ConfigError Dialect :=
  let name := s.toLower
  match ofName? name with
  | some d => .ok d
  | none => .error (.unknownDialect name)

namespace Config

open Toml (Value)

/-! ## Reading -/

/-- A string. -/
def string? : Value → Option String
  | .string s => some s
  | _ => none

/-- A truth value. -/
def boolean? : Value → Option Bool
  | .boolean b => some b
  | _ => none

/-- An array of strings. -/
def strings? : Value → Option (List String)
  | .array items => items.mapM string?
  | _ => none

/-- A name for one of several choices: a string, or the only key of a table that holds nothing. -/
def choice? : Value → Option String
  | .string s => some s
  | .table [(name, .table [])] | .table [(name, .array [])] => some name
  | _ => none

/-- A dialect by its name. -/
def dialect? (v : Value) : Option Dialect := do Dialect.ofName? (← choice? v)

/-- A severity by its name. -/
def severity? (v : Value) : Option Severity := do Severity.ofName? (← choice? v)

/-- Severities by codes. -/
def overrides? : Value → Option (Directory Severity)
  | .table fields =>
    fields.foldlM (fun d (code, v) => do return d.insert code (← severity? v)) .empty
  | _ => none

/-- A setting, or its usual value where it is not mentioned. -/
def setting {α : Type} (fields : List (String × Value)) (key : String) (usual : α)
    (read : Value → Option α) : Option α :=
  match fields.lookup key with
  | some v => read v
  | none => some usual

/-- The settings about severities: a table with overrides, or an array that starts with them. -/
def severities? : Value → Option (Directory Severity)
  | .table fields => setting fields "overrides" .empty overrides?
  | .array (v :: _) => overrides? v
  | .array [] | .datetime _ => some .empty
  | _ => none

/-- The settings in the fields of a table. Fields with other names do not count. -/
def ofFields? (fields : List (String × Value)) : Option Config := do
  let usual := default ""
  let d ← setting fields "dialect" usual.dialect dialect?
  let schema ← setting fields "schema" usual.schema strings?
  let queries ← setting fields "queries" usual.queries strings?
  let defaultSchema ←
    setting fields "default_schema" usual.defaultSchema fun v => some <$> string? v
  let reportOpaqueTypes ← setting fields "report_opaque_types" usual.reportOpaqueTypes boolean?
  let parallel ← setting fields "parallel" usual.parallel boolean?
  let overrides ← setting fields "severity" usual.overrides severities?
  return ⟨d, schema, queries, defaultSchema, reportOpaqueTypes, parallel, overrides, usual.root⟩

/-- The settings in a text. -/
def parse? (text : String) : Option Config := do ofFields? (← Toml.parse? text)

/-- The settings in the text of a file. Relative paths start from the directory of the file. -/
def ofFile (path text : String) : Except ConfigError Config :=
  match parse? text with
  | some c => .ok { c with root := Path.parent path }
  | none => .error .malformed

/-- The settings in a file. -/
def load {m : Type → Type} [Monad m] (files : FileSystem m) (path : String) :
    m (Except ConfigError Config) := do
  match ← files.read path with
  | .ok text => return ofFile path text
  | .error e => return .error (.file e)

/-! ## Writing -/

/-- A line with a key and a value. -/
def line (key value : String) : String := key ++ " = " ++ value ++ "\n"

/-- The spelling of a truth value. -/
def writeBoolean (b : Bool) : String := if b then "true" else "false"

/-- The settings as text. -/
def render (c : Config) : String :=
  line "dialect" (Toml.writeString c.dialect.name) ++
  line "schema" (Toml.writeStrings c.schema) ++
  line "queries" (Toml.writeStrings c.queries) ++
  (match c.defaultSchema with
    | some s => line "default_schema" (Toml.writeString s)
    | none => "") ++
  line "report_opaque_types" (writeBoolean c.reportOpaqueTypes) ++
  line "parallel" (writeBoolean c.parallel) ++
  "\n[severity.overrides]\n" ++
  String.join (c.overrides.entries.map fun (code, s) =>
    line (Toml.writeKey code) (Toml.writeString s.name))

end Config

end TypedSql
