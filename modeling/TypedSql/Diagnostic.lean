import TypedSql.Json
import TypedSql.Text.Position

/-!
# Diagnostics

Messages about statements: a stable code, a severity, a text, and the place that they are about.
-/

namespace TypedSql

/-- The codes of diagnostics. They are stable: tools match on them. -/
inductive DiagnosticCode where
  /-- The text is no statement. -/
  | sqlParseError
  /-- A construct has no canonical form. -/
  | unsupportedConstruct
  /-- A statement is put together wrongly. -/
  | malformedStatement
  /-- An object is created twice. -/
  | duplicateObject
  | unknownSchema
  | unknownTable
  | unknownColumn
  /-- More than one table in scope has the column. -/
  | ambiguousColumn
  /-- The type of a parameter or a column is not known. -/
  | opaqueType
  /-- The header of a query is malformed or does not fit the query. -/
  | invalidHeader
  deriving DecidableEq, Inhabited

namespace DiagnosticCode

/-- The spelling of a code. -/
def name : DiagnosticCode → String
  | .sqlParseError => "SQL_PARSE_ERROR"
  | .unsupportedConstruct => "UNSUPPORTED_CONSTRUCT"
  | .malformedStatement => "MALFORMED_STATEMENT"
  | .duplicateObject => "DUPLICATE_OBJECT"
  | .unknownSchema => "UNKNOWN_SCHEMA"
  | .unknownTable => "UNKNOWN_TABLE"
  | .unknownColumn => "UNKNOWN_COLUMN"
  | .ambiguousColumn => "AMBIGUOUS_COLUMN"
  | .opaqueType => "OPAQUE_TYPE"
  | .invalidHeader => "INVALID_ANNOTATION"

/-- All codes. -/
def all : List DiagnosticCode :=
  [.sqlParseError, .unsupportedConstruct, .malformedStatement, .duplicateObject, .unknownSchema,
    .unknownTable, .unknownColumn, .ambiguousColumn, .opaqueType, .invalidHeader]

/-- The code with a spelling. -/
def ofName? (s : String) : Option DiagnosticCode := all.find? (·.name = s)

/-- Reads the JSON form. -/
def ofJson? (j : Json) : Option DiagnosticCode := do ofName? (← j.name?)

/-- Whether the code says that something is not handled, and not that the SQL is wrong. -/
def isUnsupported (c : DiagnosticCode) : Bool :=
  c = .unsupportedConstruct || c = .opaqueType

end DiagnosticCode

/-- How serious a diagnostic is. -/
inductive Severity where
  | info
  | warn
  | error
  deriving DecidableEq, Inhabited

namespace Severity

/-- The spelling of a severity. -/
def name : Severity → String
  | .info => "info"
  | .warn => "warn"
  | .error => "error"

/-- The severity with a spelling. -/
def ofName? (s : String) : Option Severity :=
  match s with
  | "info" => some .info
  | "warn" => some .warn
  | "error" => some .error
  | _ => none

/-- Reads the JSON form. -/
def ofJson? (j : Json) : Option Severity := do ofName? (← j.name?)

end Severity

/-- A place in a file, as exactly as it is known. -/
structure Location where
  file : String
  line : Option Nat
  column : Option Nat
  /-- The offset in bytes. -/
  offset : Option Nat
  deriving DecidableEq, Inhabited

namespace Location

/-- A file as a whole. -/
def ofFile (file : String) : Location := ⟨file, none, none, none⟩

/-- A line of a file. -/
def ofLine (file : String) (line : Nat) : Location := ⟨file, some line, none, none⟩

/-- The place at an offset into the text of a file; offsets past the end stand for the end. -/
def ofOffset (file source : String) (offset : Nat) : Location :=
  let cs := source.toList
  let p := Text.Position.ofOffset cs offset
  ⟨file, some p.line, some p.column, some (min offset (Text.byteSize cs))⟩

/-- The place as text: file, line and column, as far as they are known. -/
def render (l : Location) : String :=
  match l.line, l.column with
  | some line, some column => l.file ++ ":" ++ toString line ++ ":" ++ toString column
  | some line, none => l.file ++ ":" ++ toString line
  | none, _ => l.file

/-- The JSON form; what is not known is null. -/
def toJson (l : Location) : Json :=
  .object [("file", .string l.file), ("line", Json.nullable .nat l.line),
    ("column", Json.nullable .nat l.column), ("offset", Json.nullable .nat l.offset)]

/-- Reads the JSON form. -/
def ofJson? (j : Json) : Option Location := do
  let r ← j.record? 4
  return ⟨← r.required 0 "file" Json.string?, ← r.optional 1 "line" Json.word?,
    ← r.optional 2 "column" Json.word?, ← r.optional 3 "offset" Json.word?⟩

end Location

/-- A message about a statement. -/
structure Diagnostic where
  code : DiagnosticCode
  severity : Severity
  message : String
  location : Option Location
  /-- The text of the statement. -/
  statement : Option String
  deriving DecidableEq, Inhabited

namespace Diagnostic

/-- A message without a place. -/
def new (code : DiagnosticCode) (severity : Severity) (message : String) : Diagnostic :=
  ⟨code, severity, message, none, none⟩

/-- An error without a place. -/
def ofError (code : DiagnosticCode) (message : String) : Diagnostic := new code .error message

/-- The message as one line of text. -/
def render (d : Diagnostic) : String :=
  (match d.location with
    | some l => l.render ++ ": "
    | none => "") ++
  d.severity.name ++ " [" ++ d.code.name ++ "] " ++ d.message

/-- The JSON form. -/
def toJson (d : Diagnostic) : Json :=
  .object [("code", .string d.code.name), ("severity", .string d.severity.name),
    ("message", .string d.message), ("location", Json.nullable Location.toJson d.location),
    ("statement", Json.nullable .string d.statement)]

/-- Reads the JSON form. -/
def ofJson? (j : Json) : Option Diagnostic := do
  let r ← j.record? 5
  return ⟨← r.required 0 "code" DiagnosticCode.ofJson?, ← r.required 1 "severity" Severity.ofJson?,
    ← r.required 2 "message" Json.string?, ← r.optional 3 "location" Location.ofJson?,
    ← r.optional 4 "statement" Json.string?⟩

end Diagnostic

end TypedSql
