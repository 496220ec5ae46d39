import TypedSql.Sql.Grammar.Alteration
import TypedSql.Sql.Grammar.Role
import TypedSql.Sql.Grammar.Routine

/-!
# Grammar of CREATE, ALTER and DROP

The statements that create, change or drop the objects of a database, of which only tables and
schemas are kept as data. The others are kept as texts, for their placeholders.
-/

namespace TypedSql.Sql.Grammar

/-! ## Views and indexes -/

/-- A CREATE VIEW from the word MATERIALIZED or VIEW on; `opening` is the text before it and
`temporary` the text between the two words. -/
def createView (l : Level) (opening temporary : String) : Parser Statement := do
  let materialized ← keyword? "MATERIALIZED"
  expectKeyword "VIEW"
  let name ← objectName
  let columns ← whenever (← symbol? "(") do
    let columns ← commaSeparatedUntil ")" identifier
    expectSymbol ")"
    return columns
  let options ← optionsAfter? l "WITH"
  let cluster ← afterKeyword? "CLUSTER" do
    expectKeyword "BY"
    columnList? false
  expectKeyword "AS"
  let query ← l.query
  return .unmapped "CreateView" (opening ++ textIf materialized "MATERIALIZED " ++ temporary ++
    "VIEW " ++ nameText name ++ options ++ spacedIdents (columns.getD []) ++
    textIf (cluster.any (!·.isEmpty)) (" CLUSTER BY " ++ identList (cluster.getD [])) ++ " AS " ++
    query.render)

/-- A CREATE INDEX after its keywords; `opening` are the keywords. -/
def createIndex (l : Level) (opening : String) : Parser Statement := do
  let concurrently ← keyword? "CONCURRENTLY"
  let (ifNotExists, guard) ← ifNotExists?
  let anonymous ← if ifNotExists then pure false else keyword? "ON"
  let name ← whenever (!anonymous) do
    let name ← objectName
    expectKeyword "ON"
    return name
  let table ← objectName
  let method ← afterKeyword? "USING" identifier
  let keys ← inParentheses (commaSeparated l.orderItem)
  let others ← afterKeyword? "INCLUDE" (inParentheses (commaSeparated identifier))
  let nulls ← nullsDistinct?
  let options ← if l.isPostgres then afterKeyword? "WITH" (inParentheses l.exprs) else pure none
  let condition ← afterKeyword? "WHERE" l.expr
  return .unmapped "CreateIndex" (opening ++ textIf concurrently " CONCURRENTLY" ++ guard ++
    optional " " (name.map nameText) ++ " ON " ++ nameText table ++
    optional " USING " (method.map (·.render ++ " ")) ++ parenthesised (orderTexts keys) ++
    optional " INCLUDE " (others.map identList) ++ nulls ++
    optional " WITH " (options.map fun es => parenthesised (exprTexts es)) ++
    optional " WHERE " (exprText? condition))

/-! ## Schemas -/

/-- A CREATE SCHEMA after its keywords. -/
def createSchema : Parser Statement := do
  let (ifNotExists, guard) ← ifNotExists?
  let text := "CREATE SCHEMA" ++ guard
  if ← keyword? "AUTHORIZATION" then
    let owner ← identifier
    return .createSchema [owner] ifNotExists (text ++ " AUTHORIZATION " ++ owner.render)
  else
    let name ← objectName
    let owner ← afterKeyword? "AUTHORIZATION" identifier
    return .createSchema name ifNotExists
      (text ++ " " ++ nameText name ++ optional " AUTHORIZATION " (owner.map Ident.render))

/-- The places of the files of a database, at most `n` clauses. A later clause replaces an earlier
one. -/
def databasePlaces (d : Dialect) :
    Nat → Option String → Option String → Parser (Option String × Option String)
  | 0, location, managed => return (location, managed)
  | n + 1, location, managed => do
    if ← keyword? "LOCATION" then databasePlaces d n (some (← stringLiteral d)) managed
    else if ← keyword? "MANAGEDLOCATION" then
      databasePlaces d n location (some (← stringLiteral d))
    else return (location, managed)

/-- A CREATE DATABASE after its keywords. A database is a schema. Paths are written as they are. -/
def createDatabase (d : Dialect) : Parser Statement := do
  let (ifNotExists, guard) ← ifNotExists?
  let name ← objectName
  let (location, managed) ← databasePlaces d (← get).length none none
  return .createSchema name ifNotExists ("CREATE DATABASE" ++ guard ++ " " ++ nameText name ++
    optional " LOCATION '" (location.map (· ++ "'")) ++
    optional " MANAGEDLOCATION '" (managed.map (· ++ "'")))

/-! ## Other objects -/

/-- A CREATE SEQUENCE after its keywords; `opening` are the keywords. -/
def createSequence (d : Dialect) (opening : String) : Parser Statement := do
  let (_, guard) ← ifNotExists?
  let name ← objectName
  let type ← afterKeyword? "AS" (dataType d)
  let options ← sequenceOptions
  let owner ← whenever (← keywords? ["OWNED", "BY"]) do
    if ← keyword? "NONE" then return "NONE" else return nameText (← objectName)
  return .unmapped "CreateSequence" (opening ++ guard ++ " " ++ nameText name ++
    optional " AS " (type.map DataType.render) ++ options ++ optional " OWNED BY " owner)

/-- A CREATE EXTENSION after its keywords. -/
def createExtension : Parser Statement := do
  let (_, guard) ← ifNotExists?
  let name ← identifier
  let options ← afterKeyword? "WITH" do
    let schema ← afterKeyword? "SCHEMA" identifier
    let version ← afterKeyword? "VERSION" identifier
    return optional " SCHEMA " (schema.map Ident.render) ++
      optional " VERSION " (version.map Ident.render) ++ textIf (← keyword? "CASCADE") " CASCADE"
  let options := options.getD ""
  return .unmapped "CreateExtension" ("CREATE EXTENSION" ++ guard ++ " " ++ name.render ++
    textIf (options ≠ "") " WITH" ++ options)

/-- The attributes of a row type after the opening parenthesis, at most `n`. The last one may have
a comma after it. -/
def typeAttributes (d : Dialect) : Nat → Parser (List String)
  | 0 => unexpected
  | n + 1 => do
    let name ← identifier
    let type ← dataType d
    let text := name.render ++ " " ++ type.render ++ ((← afterKeyword? "COLLATE" collation).getD "")
    let comma ← symbol? ","
    if ← symbol? ")" then return [text]
    else if comma then return text :: (← typeAttributes d n)
    else unexpected

/-- A CREATE TYPE after its keywords: an enumeration in PostgreSQL, or a row type. -/
def createType (l : Level) : Parser Statement := do
  let name ← objectName
  expectKeyword "AS"
  let text := "CREATE TYPE " ++ nameText name ++ " AS "
  if ← onlyIf l.isPostgres (keyword? "ENUM") then
    let labels ← inParentheses (commaSeparatedUntil ")" identifier)
    return .unmapped "CreateType" (text ++ "ENUM " ++ identList labels)
  else
    let attributes ← whenever (← symbol? "(") do
      if ← symbol? ")" then return [] else typeAttributes l.dialect (← get).length
    return .unmapped "CreateType" (text ++ parenthesised (attributes.getD []))

/-- A CREATE VIRTUAL TABLE after the word VIRTUAL. -/
def createVirtualTable : Parser Statement := do
  expectKeyword "TABLE"
  let (_, guard) ← ifNotExists?
  let name ← objectName
  expectKeyword "USING"
  let source ← identifier
  return .unmapped "CreateVirtualTable" ("CREATE VIRTUAL TABLE" ++ guard ++ " " ++ nameText name ++
    " USING " ++ source.render ++ spacedIdents (← columnList? false))

/-- An identifier, or nothing where none stands. The token that is no identifier is lost. -/
def lenientIdent : Parser (Option Ident) := do return (← next?).bind Token.ident?

/-- The name of a secret and the storage that holds it. -/
def secretName : Parser (Option Ident × Option Ident) := do
  if ← peekSymbol "(" then return (none, none)
  let stored ← keyword? "IN"
  let first ← lenientIdent
  let (name, storage) := if stored then (none, first) else (first, none)
  if ← onlyIf storage.isNone (keyword? "IN") then return (name, ← lenientIdent)
  else return (name, storage)

/-- A CREATE SECRET after its keywords; `opening` are the keywords. -/
def createSecret (opening : String) : Parser Statement := do
  let (_, guard) ← ifNotExists?
  let (name, storage) ← secretName
  expectSymbol "("
  expectKeyword "TYPE"
  let type ← identifier
  let options ← whenever (← symbol? ",") <| commaSeparated do
    let key ← identifier
    return key.render ++ " " ++ (← identifier).render
  expectSymbol ")"
  return .unmapped "CreateSecret" (opening ++ guard ++ optional " " (name.map Ident.render) ++
    optional " IN " (storage.map Ident.render) ++ " ( TYPE " ++ type.render ++
    optional ", " (options.map commas) ++ " )")

/-! ## CREATE -/

/-- A CREATE of an object that cannot replace another one, after the keyword of the object. -/
def createOther (l : Level) (temporary alter : String) : String → Parser Statement
  | "EXTENSION" => createExtension
  | "INDEX" => createIndex l "CREATE INDEX"
  | "UNIQUE" => do
    expectKeyword "INDEX"
    createIndex l "CREATE UNIQUE INDEX"
  | "VIRTUAL" => createVirtualTable
  | "SCHEMA" => createSchema
  | "DATABASE" => createDatabase l.dialect
  | "ROLE" => createRole l
  | "SEQUENCE" => createSequence l.dialect ("CREATE " ++ temporary ++ "SEQUENCE")
  | "TYPE" => createType l
  | "PROCEDURE" => createProcedure l ("CREATE " ++ alter)
  | _ => unexpected

/-- A CREATE after its keyword. -/
def create (l : Level) : Parser Statement := do
  let replace := textIf (← keywords? ["OR", "REPLACE"]) "OR REPLACE "
  let alter := textIf (← keywords? ["OR", "ALTER"]) "OR ALTER "
  let nearby ← keyword? "LOCAL"
  let everywhere ← keyword? "GLOBAL"
  let transient := textIf (← keyword? "TRANSIENT") "TRANSIENT "
  let temporary := textIf (← oneOf? ["TEMP", "TEMPORARY"]).isSome "TEMPORARY "
  let reach := if everywhere then "GLOBAL " else textIf nearby "LOCAL "
  let opening := "CREATE " ++ replace
  match ← peekKeyword with
  | "MATERIALIZED" | "VIEW" => createView l opening temporary
  | keyword =>
    discard next
    match keyword with
    | "TABLE" => return .createTable (← createTable l (opening ++ reach ++ temporary ++ transient))
    | "POLICY" => createPolicy l
    | "EXTERNAL" =>
      expectKeyword "TABLE"
      return .createTable (← createExternalTable l (opening ++ "EXTERNAL "))
    | "FUNCTION" => createFunction l (opening ++ temporary)
    | "TRIGGER" => createTrigger l (opening ++ "TRIGGER")
    | "CONSTRAINT" =>
      expectKeyword "TRIGGER"
      createTrigger l (opening ++ "CONSTRAINT TRIGGER")
    | "SECRET" => createSecret (opening ++ temporary ++ "SECRET")
    | keyword => if replace = "" then createOther l temporary alter keyword else unexpected

/-! ## ALTER and DROP -/

/-- An ALTER VIEW after its keywords. -/
def alterView (l : Level) : Parser Statement := do
  let name ← objectName
  let columns ← columnList? false
  let options ← optionsAfter? l "WITH"
  expectKeyword "AS"
  let query ← l.query
  return .unmapped "AlterView" ("ALTER VIEW " ++ nameText name ++ options ++ spacedIdents columns ++
    " AS " ++ query.render)

/-- An ALTER after its keyword. -/
def alter (l : Level) : Parser Statement := do
  match ← expectOneOf ["VIEW", "TABLE", "INDEX", "ROLE", "POLICY"] with
  | "VIEW" => alterView l
  | "TABLE" => return .alterTable (← alterTable l)
  | "INDEX" =>
    let name ← objectName
    expectKeywords ["RENAME", "TO"]
    return .unmapped "AlterIndex"
      ("ALTER INDEX " ++ nameText name ++ " RENAME TO " ++ nameText (← objectName))
  | "ROLE" => alterRole l
  | _ => alterPolicy l

/-- A DROP SECRET after its keywords; `opening` are the keywords. -/
def dropSecret (opening : String) : Parser Statement := do
  let (_, guard) ← ifExists?
  let name ← identifier
  let storage ← afterKeyword? "FROM" lenientIdent
  return .unmapped "DropSecret" (opening ++ guard ++ " " ++ name.render ++
    optional " FROM " (storage.join.map Ident.render))

/-- A DROP of objects by name, after the keyword of their sort; `opening` is the text up to it. -/
def dropObjects (sort opening : String) : Parser Statement := do
  let (ifExists, guard) ← ifExists?
  let names ← commaSeparated objectName
  let cascade ← keyword? "CASCADE"
  let restrict ← keyword? "RESTRICT"
  let purge ← keyword? "PURGE"
  if cascade && restrict then unexpected
  if sort = "ROLE" ∧ (cascade || restrict || purge) then unexpected
  let text := opening ++ guard ++ " " ++ commas (names.map nameText) ++ textIf cascade " CASCADE" ++
    textIf restrict " RESTRICT" ++ textIf purge " PURGE"
  if sort = "TABLE" then return .dropTables names ifExists text
  else return .unmapped "Drop" text

/-- A DROP after its keyword. -/
def drop (l : Level) : Parser Statement := do
  let temporary := textIf (← onlyIf l.isMysql (keyword? "TEMPORARY")) "TEMPORARY "
  match ← expectOneOf ["TABLE", "VIEW", "INDEX", "ROLE", "SCHEMA", "DATABASE", "SEQUENCE", "STAGE",
      "TYPE", "FUNCTION", "POLICY", "PROCEDURE", "SECRET", "TRIGGER"] with
  | "FUNCTION" => dropRoutines l "DropFunction" "DROP FUNCTION"
  | "PROCEDURE" => dropRoutines l "DropProcedure" "DROP PROCEDURE"
  | "POLICY" => dropOfTable "DropPolicy" "DROP POLICY" (do return (← identifier).render)
  | "TRIGGER" => dropOfTable "DropTrigger" "DROP TRIGGER" (do return nameText (← objectName))
  | "SECRET" => dropSecret ("DROP " ++ temporary ++ "SECRET")
  | sort => dropObjects sort ("DROP " ++ temporary ++ sort)

end TypedSql.Sql.Grammar
