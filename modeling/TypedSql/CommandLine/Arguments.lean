import TypedSql.CommandLine.Options

/-!
# Arguments of the command line

What a command line asks for: a command with its options, and options that every command takes.
The latter may stand before the command or after it, where they count more.
-/

namespace TypedSql.CommandLine

/-- A command. -/
inductive Command where
  /-- Compile the query files, and write a report. Paths in the lists are used in the place of those
  in the settings. -/
  | compile (output : String) (schema queries : List String) (sequential : Bool)
  /-- Replay the schema files, and write the catalog. -/
  | catalog (output : Option String) (schema : List String)
  /-- Write a file with settings. -/
  | init (force : Bool)

/-- What a command line asks for. -/
structure Arguments where
  /-- The path of the settings. -/
  config : Option String
  dialect : Option Dialect
  verbose : Bool
  command : Command

/-- The options of every command. -/
def commonOptions : List Opt := [.config, .dialect, .verbose, .help]

/-- The options of a command, if there is one with this name. -/
def commandOptions? (name : String) : Option (List Opt) :=
  match name with
  | "compile" => some [.output, .schema, .queries, .sequential]
  | "catalog" => some [.output, .schema]
  | "init" => some [.force]
  | _ => none

/-- The path that a report is written to. -/
def defaultOutput : String := "report.json"

/-- The command with a name, and options of its own. -/
def Command.ofGiven? (name : String) (given : Given) : Option Command :=
  match name with
  | "compile" =>
    let output := (given.value? .output).getD defaultOutput
    some (.compile output (given.values .schema) (given.values .queries) (given.has .sequential))
  | "catalog" => some (.catalog (given.value? .output) (given.values .schema))
  | "init" => some (.init (given.has .force))
  | _ => none

/-- What arguments after the word for help ask for. -/
def helpOn : List String → Stop
  | [] => .help
  | [name] => if name = "help" || (commandOptions? name).isSome then .help else .misuse
  | _ => .misuse

/-- Reads a command line. -/
def Arguments.parse (args : List String) : Except Stop Arguments := do
  let (outer, rest) ← readOptions (.version :: commonOptions) ⟨[], none⟩ args
  match rest with
  | [] => throw .misuse
  | name :: rest =>
    if name = "help" then throw (helpOn rest)
    match commandOptions? name with
    | none => throw .misuse
    | some options =>
      let (inner, rest) ← readOptions (options ++ commonOptions) ⟨[], none⟩ rest
      unless rest.isEmpty do throw .misuse
      match Command.ofGiven? name inner with
      | none => throw .misuse
      | some command =>
        let given := inner ++ outer
        let dialect := (given.value? .dialect).bind fun name => (Dialect.parse name).toOption
        return ⟨given.value? .config, dialect, given.has .verbose, command⟩

end TypedSql.CommandLine
