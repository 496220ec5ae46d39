import TypedSql.Report

/-!
# Reports as text

What a reader at a terminal sees of a report: the counts, the diagnostics, and the queries with
their parameters and columns.
-/

namespace TypedSql

/-- Texts, each on a line of its own. -/
def textLines (lines : List String) : String := String.join (lines.map (· ++ "\n"))

/-- A severity in front of a message. -/
def Severity.label : Severity → String
  | .error => "ERROR"
  | .warn => "WARN"
  | .info => "INFO"

/-- A diagnostic, with its place on a second line. -/
def Diagnostic.lines (d : Diagnostic) : List String :=
  ("  [" ++ d.severity.label ++ "] " ++ d.code.name ++ ": " ++ d.message) ::
    (d.location.map fun l => "    at " ++ l.render).toList

/-- A name with its type, and whether it may be null. -/
def typedName (name : String) (type : SqlType) (notNull : Bool) : String :=
  name ++ " " ++ type.render ++ if notNull then "" else " (nullable)"

/-- A parameter on a line. -/
def Parameter.line (p : Parameter) : String :=
  "    $" ++ toString p.number ++ " " ++ typedName (p.name.getD "?") p.type p.notNull

/-- A column on a line. -/
def ResultColumn.line (c : ResultColumn) : String := "    -> " ++ typedName c.name c.type c.notNull

/-- A query, with a line for each parameter and each column. -/
def QueryDescriptor.lines (q : QueryDescriptor) : List String :=
  let command := (q.command.map QueryCommand.render).getD ""
  ("  " ++ q.name.getD "<unnamed>" ++ " " ++ command) ::
    q.params.map Parameter.line ++ q.columns.map ResultColumn.line

namespace Report

/-- The diagnostics under a title. -/
def diagnosticLines (r : Report) : List String :=
  "Diagnostics:" :: r.diagnostics.flatMap Diagnostic.lines

/-- A line between parts. -/
def rule : String := String.ofList (List.replicate 60 '=')

/-- The counts under a title. -/
def summaryLines (s : Summary) : List String :=
  ["Summary:", "  Statements:        " ++ toString s.statements,
    "  Queries compiled:  " ++ toString s.queriesCompiled,
    "  Total diagnostics: " ++ toString s.total, "  Errors:   " ++ toString s.errors,
    "  Warnings: " ++ toString s.warnings, "  Info:     " ++ toString s.info]

/-- The report without the queries. -/
def lines (r : Report) : List String :=
  ["", rule, "QueryLens Compile Report", rule, "", "Version: " ++ version, ""] ++
    summaryLines r.summary ++ [""] ++
    (if r.diagnostics.isEmpty then ["✓ No issues found!"] else r.diagnosticLines) ++ ["", rule]

end Report

end TypedSql
