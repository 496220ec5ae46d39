import TypedSql.Analysis.Basic
import TypedSql.Canonical.Conversion
import TypedSql.Catalog.Replay
import TypedSql.Config
import TypedSql.Report
import TypedSql.Sql.Header
import TypedSql.Sql.Script

/-!
# Compilations

The way from files to a report: the schema files are replayed into a catalog, and every statement of
the query files is analysed against it on its own.

* `buildCatalog`: a statement that fails is reported and has no effect
* `compileQueries`: the outcomes of all statements, in the order of the files
* `compile`: both, as a report
-/

namespace TypedSql

open Sql (Script ScriptStatement Rejection Header)

/-- A file of SQL. -/
structure SourceFile where
  path : String
  contents : String
  deriving DecidableEq

/-- The script of a file. -/
def SourceFile.parse (d : Dialect) (f : SourceFile) : Script := .parse d (some f.path) f.contents

namespace Config

/-- A diagnostic about a rejected text. -/
def rejected (c : Config) (r : Rejection) : Diagnostic := c.adjust r.toDiagnostic

/-- Puts a diagnostic at the place of a statement. -/
def locate (c : Config) (script : Script) (s : ScriptStatement) (d : Diagnostic) : Diagnostic :=
  c.adjust { d with
    location := some (.ofOffset script.displayPath script.source s.start)
    statement := some (Text.trim s.text) }

end Config

/-! ## The catalog -/

/-- A catalog with the findings of its replay. -/
structure CatalogBuild where
  catalog : Catalog
  diagnostics : List Diagnostic
  /-- The number of statements seen. -/
  statements : Nat

/-- The notice that a statement of a schema file has no effect. -/
def skippedStatement (construct : String) : Diagnostic :=
  .new .unsupportedConstruct .info ("Skipped unsupported statement: " ++ construct)

/-- The effect of one statement on a catalog, or what is to be said about it. -/
def replayStatement (config : Config) (catalog : Catalog) (s : ScriptStatement) :
    Except Diagnostic Catalog :=
  match Canonical.convert config.dialect s with
  | .error e => .error e.toDiagnostic
  | .ok converted =>
    match converted.node with
    | .unsupported construct _ => .error (skippedStatement construct)
    | node =>
      match catalog.replay node with
      | .error e => .error e.toDiagnostic
      | .ok catalog => .ok catalog

/-- Replays the statements of a script. -/
def replayEntries (config : Config) (script : Script) (build : CatalogBuild) :
    List (Except Rejection ScriptStatement) → CatalogBuild
  | [] => build
  | entry :: entries =>
    -- the catalog with the effect of the statement, or what is to be said about it
    let next : Except Diagnostic Catalog := match entry with
      | .error r => .error (config.rejected r)
      | .ok s => (replayStatement config build.catalog s).mapError (config.locate script s)
    let build := match next with
      | .error d => { build with diagnostics := build.diagnostics ++ [d] }
      | .ok catalog => { build with catalog := catalog }
    replayEntries config script { build with statements := build.statements + 1 } entries

/-- Replays schema files in order. -/
def buildCatalog (config : Config) (files : List SourceFile) : CatalogBuild :=
  files.foldl (fun build file =>
    let script := file.parse config.dialect
    replayEntries config script build script.entries) ⟨.empty config.schemaName, [], 0⟩

/-! ## Queries -/

/-- What becomes of one statement of a query file. -/
structure Outcome where
  descriptor : Option QueryDescriptor
  diagnostics : List Diagnostic

/-- The notice that a part of a statement is not looked at. -/
def ignoredConstruct (construct : String) : Diagnostic :=
  .new .unsupportedConstruct .warn ("Unsupported construct ignored: " ++ construct)

/-- The diagnostic for a query that is not analysed. What is not handled is no error. -/
def analysisFailure (e : AnalysisError) : Diagnostic :=
  match e with
  | .unsupported _ => { e.toDiagnostic with severity := .warn }
  | e => e.toDiagnostic

/-- The notice that a query does not return what its header promises. -/
def noColumns (a : Header) : Diagnostic :=
  .new .invalidHeader .warn
    ("query '" ++ a.name ++ "' is annotated " ++ a.command.render ++ " but returns no columns")

/-- The notices about the types of a query that are not known: those of its parameters, and then
those of its columns. -/
def opaqueTypes (q : QueryDescriptor) : List Diagnostic :=
  let params := (q.params.filter (·.type.isOpaque)).map fun p => "parameter $" ++ toString p.number
  let columns := (q.columns.filter (·.type.isOpaque)).map fun c => "column '" ++ c.name ++ "'"
  (params ++ columns).map fun what =>
    .new .opaqueType .info ("Could not infer a type for " ++ what)

/-- The descriptor of an analysed query. -/
def describe (script : Script) (s : ScriptStatement) (header : Option Header)
    (a : Analysis) : QueryDescriptor where
  name := header.map Header.name
  command := header.map Header.command
  sql := Text.trim s.text
  file := script.path
  location := s.start
  params := a.params
  columns := a.columns
  insertIntoTable := a.insertIntoTable

/-- Analyses a statement. The diagnostics have no place yet. -/
def compileStatement (config : Config) (catalog : Catalog) (script : Script) (s : ScriptStatement) :
    Outcome :=
  match Header.parse s.comments, Canonical.convert config.dialect s with
  | .error e, _ => ⟨none, [e.toDiagnostic]⟩
  | .ok _, .error e => ⟨none, [e.toDiagnostic]⟩
  | .ok header, .ok converted =>
    -- a schema change among the queries is passed over in silence
    if converted.node.isSchemaChange then ⟨none, []⟩
    else
      let ignored := converted.unsupported.map ignoredConstruct
      match analyze catalog converted.node with
      | .error e => ⟨none, ignored ++ [analysisFailure e]⟩
      | .ok analysis =>
        -- the notices about the result do not keep it from being reported
        let q := describe script s header analysis
        let broken := header.filter fun a => a.command.returnsRows && q.columns.isEmpty
        let unknown := if config.reportOpaqueTypes then opaqueTypes q else []
        ⟨some q, ignored ++ (broken.map noColumns).toList ++ unknown⟩

/-- Compiles an entry of a script. -/
def compileEntry (config : Config) (catalog : Catalog) (script : Script) :
    Except Rejection ScriptStatement → Outcome
  | .error r => ⟨none, [config.rejected r]⟩
  | .ok s =>
    let outcome := compileStatement config catalog script s
    { outcome with diagnostics := outcome.diagnostics.map (config.locate script s) }

/-- The outcomes of the statements of query files, in order. -/
def compileQueries (config : Config) (catalog : Catalog) (files : List SourceFile) :
    List Outcome :=
  files.flatMap fun file =>
    let script := file.parse config.dialect
    script.entries.map (compileEntry config catalog script)

/-! ## Reports -/

/-- Compiles query files against schema files. -/
def compile (config : Config) (schema queries : List SourceFile) : Report :=
  let build := buildCatalog config schema
  let outcomes := compileQueries config build.catalog queries
  .ofParts (outcomes.filterMap Outcome.descriptor)
    (build.diagnostics ++ outcomes.flatMap Outcome.diagnostics)
    (build.statements + outcomes.length)

end TypedSql
