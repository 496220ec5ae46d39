import TypedSql.Descriptor
import TypedSql.Diagnostic

/-!
# Reports

The outcome of a compilation: descriptors, diagnostics and their counts. The counts are kept along
with the lists as these grow.
-/

namespace TypedSql

/-- The counts of a report. -/
structure Summary where
  total : Nat
  errors : Nat
  warnings : Nat
  info : Nat
  /-- The number of statements seen. -/
  statements : Nat
  queriesCompiled : Nat
  deriving DecidableEq, Inhabited

namespace Summary

/-- The counts of an empty report. -/
def empty : Summary := ⟨0, 0, 0, 0, 0, 0⟩

/-- The JSON form. -/
def toJson (s : Summary) : Json :=
  .object [("total", .nat s.total), ("errors", .nat s.errors), ("warnings", .nat s.warnings),
    ("info", .nat s.info), ("statements", .nat s.statements),
    ("queries_compiled", .nat s.queriesCompiled)]

end Summary

/-- The outcome of a compilation. -/
structure Report where
  summary : Summary
  queries : List QueryDescriptor
  diagnostics : List Diagnostic
  deriving Inhabited

namespace Report

/-- The version of the format of reports. -/
def majorVersion : Nat := 1

/-- The version of the additions to the format. -/
def minorVersion : Nat := 0

/-- The version as text. -/
def version : String := toString majorVersion ++ "." ++ toString minorVersion

/-- A report on a number of statements, without findings. -/
def empty (statements : Nat) : Report := ⟨{ Summary.empty with statements := statements }, [], []⟩

/-- Adds a descriptor. -/
def addQuery (r : Report) (q : QueryDescriptor) : Report :=
  { r with
    summary := { r.summary with queriesCompiled := r.summary.queriesCompiled + 1 }
    queries := r.queries ++ [q] }

/-- Adds a diagnostic. -/
def addDiagnostic (r : Report) (d : Diagnostic) : Report :=
  let s := { r.summary with total := r.summary.total + 1 }
  let s := match d.severity with
    | .error => { s with errors := s.errors + 1 }
    | .warn => { s with warnings := s.warnings + 1 }
    | .info => { s with info := s.info + 1 }
  { r with summary := s, diagnostics := r.diagnostics ++ [d] }

/-- The report on the findings of a compilation. -/
def ofParts (queries : List QueryDescriptor) (diagnostics : List Diagnostic) (statements : Nat) :
    Report :=
  diagnostics.foldl addDiagnostic (queries.foldl addQuery (empty statements))

/-- Whether the report holds errors. -/
def hasErrors (r : Report) : Bool := 0 < r.summary.errors

/-- The JSON form that is written to a file. -/
def toJson (r : Report) : Json :=
  .object [("version", .object [("major", .nat majorVersion), ("minor", .nat minorVersion)]),
    ("summary", r.summary.toJson), ("queries", .array (r.queries.map QueryDescriptor.toJson)),
    ("diagnostics", .array (r.diagnostics.map Diagnostic.toJson))]

end Report

end TypedSql
