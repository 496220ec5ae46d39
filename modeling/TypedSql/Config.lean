import TypedSql.Catalog.Directory
import TypedSql.Diagnostic
import TypedSql.Dialect
import TypedSql.Path

/-!
# Configurations

What a compilation can be told: the dialect, where the files are, and how serious findings are.
-/

namespace TypedSql

/-- The settings of a compilation. -/
structure Config where
  dialect : Dialect
  /-- The schema files, and directories of them, in the order of their replay. -/
  schema : List String
  /-- The query files, and directories of them. -/
  queries : List String
  /-- The schema of unqualified names, if it is not the one of the dialect. -/
  defaultSchema : Option String
  /-- Whether types that are not known are reported. -/
  reportOpaqueTypes : Bool
  /-- Whether queries may be analysed at the same time. The answer does not depend on it. -/
  parallel : Bool
  /-- The severities of diagnostics that differ from the usual ones, by code. -/
  overrides : Directory Severity
  /-- The directory that relative paths start from. -/
  root : String
  deriving DecidableEq

namespace Config

/-- The settings of a project that says nothing. -/
def default (root : String) : Config := ⟨.mysql, [], [], none, false, true, .empty, root⟩

/-- The severity of a diagnostic that usually has the severity `usual`. -/
def severityOf (c : Config) (code : DiagnosticCode) (usual : Severity) : Severity :=
  (c.overrides.find? code.name).getD usual

/-- Gives a diagnostic the severity that is set for its code. -/
def adjust (c : Config) (d : Diagnostic) : Diagnostic :=
  { d with severity := c.severityOf d.code d.severity }

/-- The schema of unqualified names. -/
def schemaName (c : Config) : String := c.defaultSchema.getD c.dialect.defaultSchema

/-- A path as seen from the root of the project. -/
def resolve (c : Config) (path : String) : String := Path.join c.root path

/-- The JSON form. The root is no part of it. -/
def toJson (c : Config) : Json :=
  .object [("dialect", .string c.dialect.name), ("schema", .array (c.schema.map .string)),
    ("queries", .array (c.queries.map .string)),
    ("default_schema", Json.nullable .string c.defaultSchema),
    ("report_opaque_types", .bool c.reportOpaqueTypes), ("parallel", .bool c.parallel),
    ("severity", .object [("overrides",
      .object (c.overrides.entries.map fun (code, s) => (code, .string s.name)))])]

end Config

end TypedSql
