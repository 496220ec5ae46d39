import TypedSql.CommandLine.Arguments
import TypedSql.Compilation
import TypedSql.Json.Printer
import TypedSql.Report.Text

/-!
# Running commands

What each command does with files, and what it prints. `run` carries out a command line and answers
with everything that is printed and whether the program has succeeded.
-/

namespace TypedSql.CommandLine

/-- Why a command ends early. -/
inductive Failure where
  /-- The settings cannot be used. -/
  | settings (path : String) (cause : ConfigError)
  /-- There is nothing at the path of sources. -/
  | missing (path : String)
  /-- A folder cannot be searched. -/
  | search (path : String) (cause : FileError)
  /-- A source cannot be read. -/
  | read (path : String) (cause : FileError)
  /-- There are no queries. -/
  | noQueries
  | writeReport (path : String) (cause : FileError)
  | writeCatalog (path : String) (cause : FileError)
  | writeSettings (cause : ConfigError)
  /-- There is a file where the settings would go. -/
  | occupied (path : String)

/-- The path of the settings of a project. -/
def settingsPath : String := "querylens.toml"

namespace Failure

/-- What has failed. -/
def message : Failure → String
  | settings path _ => "failed to load config " ++ path
  | missing path => path ++ " does not exist"
  | search path _ => "failed to walk " ++ path
  | read path _ => "failed to read " ++ path
  | noQueries =>
    "No query files found. Set \x60queries\x60 in " ++ settingsPath ++ " or pass --queries."
  | writeReport path _ => "failed to write report " ++ path
  | writeCatalog path _ => "failed to write catalog " ++ path
  | writeSettings cause => cause.message
  | occupied path => path ++ " already exists (use --force to overwrite)"

/-- Why it has failed, where more is known. -/
def cause? : Failure → Option String
  | settings _ cause => some cause.message
  | search _ cause | read _ cause | writeReport _ cause | writeCatalog _ cause => some cause.message
  | missing _ | noQueries | writeSettings _ | occupied _ => none

/-- The lines that tell of the failure. -/
def lines (f : Failure) : List String :=
  ("Error: " ++ f.message) ::
    match f.cause? with
    | some cause => ["", "Caused by:", "    " ++ cause]
    | none => []

end Failure

/-- What is printed: answers, and remarks on the way to them. -/
structure Printed where
  output : String
  remarks : String
  deriving Inhabited

/-- A command under way. -/
abbrev Action (m : Type → Type) := ExceptT Failure (StateT Printed m)

section

variable {m : Type → Type} [Monad m]

/-- Prints lines of the answer. -/
def answer (lines : List String) : Action m Unit :=
  modify fun p => { p with output := p.output ++ textLines lines }

/-- Prints remarks if they are wanted. -/
def remark (wanted : Bool) (lines : List String) : Action m Unit :=
  if wanted then modify fun p => { p with remarks := p.remarks ++ textLines lines } else pure ()

/-- Uses files, and gives the failure of it a meaning. -/
def attempt {ε α : Type} (failure : ε → Failure) (use : m (Except ε α)) : Action m α := do
  match ← (use : m _) with
  | .ok a => return a
  | .error e => throw (failure e)

variable (files : FileSystem m)

/-! ## Settings -/

/-- The settings in the named file, in the file of the project, or else the usual ones. -/
def findSettings (arguments : Arguments) : Action m Config := do
  let load (path : String) : Action m Config := attempt (.settings path) (Config.load files path)
  match arguments.config with
  | some path => load path
  | none =>
    if (← files.kind? settingsPath).isSome then load settingsPath
    else
      remark arguments.verbose ["No config file found, using defaults"]
      return .default (← files.current)

/-- How the choice of a dialect is remarked on. -/
def dialectLabel : Dialect → String
  | .mysql => "MySql"
  | .postgres => "Postgres"

/-- The settings that count. -/
def settings (arguments : Arguments) : Action m Config := do
  let config ← findSettings files arguments
  let config := { config with dialect := arguments.dialect.getD config.dialect }
  remark arguments.verbose ["Using dialect: " ++ dialectLabel config.dialect]
  return config

/-! ## Sources -/

/-- The paths of the sources at a path: the file itself, or the files in the folder. -/
def sourcePaths (path : String) : Action m (List String) := do
  match ← files.kind? path with
  | some .file => return [path]
  | some .folder => return (← attempt (.search path) (files.tree path)).sqlFiles path
  | _ => throw (.missing path)

/-- A source. -/
def readSource (path : String) : Action m SourceFile := do
  return ⟨path, ← attempt (.read path) (files.read path)⟩

/-- The sources at paths of the settings, in order. -/
def readSources (config : Config) (paths : List String) : Action m (List SourceFile) := do
  let sources ← paths.mapM fun path => do
    (← sourcePaths files (config.resolve path)).mapM (readSource files)
  return sources.flatten

/-! ## Commands -/

/-- Compiles the queries and writes the report; answers whether there are no errors. -/
def runCompile (config : Config) (output : String) (verbose : Bool) : Action m Bool := do
  let schema ← readSources files config config.schema
  let queries ← readSources files config config.queries
  if queries.isEmpty then throw .noQueries
  remark verbose ["Compiling " ++ toString schema.length ++ " schema file(s), " ++
    toString queries.length ++ " query file(s)"]
  let report := compile config schema queries
  attempt (.writeReport output) (files.write output report.toJson.pretty)
  remark verbose (("Report saved to: " ++ output) :: report.queries.flatMap QueryDescriptor.lines)
  answer report.lines
  return !report.hasErrors

/-- Replays the schema and writes or prints the catalog; answers whether there are no errors. -/
def runCatalog (config : Config) (output : Option String) (verbose : Bool) : Action m Bool := do
  let schema ← readSources files config config.schema
  remark verbose ["Replaying " ++ toString schema.length ++ " schema file(s)"]
  let build := buildCatalog config schema
  let text := build.catalog.toJson.pretty
  match output with
  | some path =>
    attempt (.writeCatalog path) (files.write path text)
    remark verbose ["Catalog saved to: " ++ path]
  | none => answer [text]
  let report := Report.ofParts [] build.diagnostics build.statements
  unless report.diagnostics.isEmpty do answer report.diagnosticLines
  return !report.hasErrors

/-- The settings that a project starts with. -/
def initialSettings : Config :=
  { Config.default "" with schema := ["schema"], queries := ["queries"] }

/-- Writes a file with settings. -/
def runInit (path : String) (force : Bool) : Action m Unit := do
  if (← files.kind? path).isSome && !force then throw (.occupied path)
  attempt (fun cause => .writeSettings (.file cause)) (files.write path initialSettings.render)
  answer ["Wrote " ++ path]

/-- Paths from the command line, in the place of those in the settings. -/
def replacing (given configured : List String) : List String :=
  if given.isEmpty then configured else given

/-- Carries out what a command line asks for; answers whether all is well. -/
def runArguments (arguments : Arguments) : Action m Bool := do
  match arguments.command with
  | .compile output schema queries sequential =>
    let config ← settings files arguments
    let config := { config with
      schema := replacing schema config.schema
      queries := replacing queries config.queries
      parallel := config.parallel && !sequential }
    runCompile files config output arguments.verbose
  | .catalog output schema =>
    let config ← settings files arguments
    runCatalog files { config with schema := replacing schema config.schema } output
      arguments.verbose
  | .init force =>
    runInit files (arguments.config.getD settingsPath) force
    return true

/-! ## Outcomes -/

/-- How a run of the program ends. -/
structure Outcome where
  /-- The status that the program reports: 0 if all is well, 1 after an error, 2 if the command line
  is wrong. -/
  status : Nat
  printed : Printed

/-- The line about the right use of the program. -/
def usage : String :=
  "Usage: querylens [-c PATH] [-d DIALECT] [-v] compile|catalog|init [OPTIONS]"

/-- The line about the version of the program. -/
def programVersion : String := "querylens 0.1.0"

/-- How a run ends that does not start a command. -/
def Stop.outcome : Stop → Outcome
  | .help => ⟨0, textLines [usage], ""⟩
  | .version => ⟨0, textLines [programVersion], ""⟩
  | .misuse => ⟨2, "", textLines [usage]⟩

/-- Carries out a command line. -/
def run (args : List String) : m Outcome := do
  match Arguments.parse args with
  | .error stop => return stop.outcome
  | .ok arguments =>
    match ← (runArguments files arguments).run.run ⟨"", ""⟩ with
    | (.ok well, printed) => return ⟨if well then 0 else 1, printed⟩
    | (.error failure, printed) =>
      return ⟨1, { printed with remarks := printed.remarks ++ textLines failure.lines }⟩

end

end TypedSql.CommandLine
