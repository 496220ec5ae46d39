import TypedSql.Descriptor
import TypedSql.Diagnostic
import TypedSql.Text.CharClass

/-!
# Headers

The comment lines above a query name it and declare what it returns, as in `-- name: ListUsers
:many`. The other lines of the block are documentation.
-/

namespace TypedSql.Sql

open TypedSql.Text

/-- What the comments above a query say about it. -/
structure Header where
  name : String
  command : QueryCommand
  /-- The other lines of the block, without the marks of comments. -/
  comments : List String
  deriving DecidableEq

/-- Why a block that names a query is no header. -/
inductive HeaderError where
  | missingCommand (name : String)
  | unknownCommand (name command : String)
  deriving DecidableEq

namespace HeaderError

/-- The wording of an error. -/
def message : HeaderError → String
  | .missingCommand name =>
    "query '" ++ name ++ "' has no command, expected e.g. \x60-- name: " ++ name ++ " :one\x60"
  | .unknownCommand name command =>
    "query '" ++ name ++ "' has unknown command ':" ++ command ++ "'"

/-- The error as a diagnostic. -/
def toDiagnostic (e : HeaderError) : Diagnostic := .ofError .invalidHeader e.message

end HeaderError

/-- The text of a comment line without its marks. -/
def commentBody (line : String) : String :=
  let line := trim line
  trim <|
    match afterPrefix? "--" line, afterPrefix? "#" line, afterPrefix? "/*" line with
    | some rest, _, _ => rest
    | none, some rest, _ => rest
    | none, none, some rest => (beforeSuffix? "*/" rest).getD rest
    | none, none, none => line

/-- The name that a line gives to its query, and what follows the name. Nothing after the name may
stand on a further line. -/
def namedQuery? (body : String) : Option (String × String) := do
  let cs := trimStart (← afterPrefix? "name:" body).toList
  let name := cs.takeWhile (!isBlank ·)
  let rest := trimStart (cs.drop name.length)
  if name.isEmpty || rest.contains '\n' then none
  else some (String.ofList name, trim (String.ofList rest))

namespace Header

/-- The command that stands after the name of a query. -/
def commandOf (name rest : String) : Except HeaderError QueryCommand :=
  match afterPrefix? ":" rest with
  | none => .error (.missingCommand name)
  | some rest =>
    let word := (words rest).headD ""
    match QueryCommand.ofName? word with
    | some command => .ok command
    | none => .error (.unknownCommand name word)

/-- Reads the comments above a statement. The last line that names the query counts; a block without
such a line is no header. -/
def parse (lines : List String) : Except HeaderError (Option Header) :=
  let bodies := lines.map commentBody
  match (bodies.filterMap namedQuery?).getLast? with
  | none => .ok none
  | some (name, rest) =>
    let comments := bodies.filter fun body => (namedQuery? body).isNone && body ≠ ""
    (commandOf name rest).map fun command => some ⟨name, command, comments⟩

end Header

end TypedSql.Sql
