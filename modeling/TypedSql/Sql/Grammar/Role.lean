import TypedSql.Sql.Grammar.Definition

/-!
# Grammar of roles and policies

Roles with their options, and policies, which decide who may see the rows of a table. The
statements are kept as texts, for their placeholders.
-/

namespace TypedSql.Sql.Grammar

/-! ## Options of roles -/

/-- The password of a role, after its keyword. -/
def rolePassword : Parser String := do
  if ← keyword? "NULL" then return "PASSWORD NULL" else return "PASSWORD " ++ (← literal).render

/-- How many connections a role may have, after its first keyword. -/
def roleConnections : Parser String := do
  expectKeyword "LIMIT"
  return "CONNECTION LIMIT " ++ (← numberLiteral).render

/-- How long a password holds, after its first keyword. -/
def roleValidity : Parser String := do
  expectKeyword "UNTIL"
  return "VALID UNTIL " ++ (← literal).render

/-- The switches of a role. -/
def roleSwitches : List String :=
  ["SUPERUSER", "CREATEDB", "CREATEROLE", "INHERIT", "LOGIN", "REPLICATION", "BYPASSRLS"]

/-- Roles after some keywords, if these are next. -/
def rolesAfter? (ks : List String) : Parser (Option String) := do
  whenever (← keywords? ks) do
    return separated " " ks ++ " " ++ commas ((← commaSeparated identifier).map Ident.render)

/-- The options of a new role in the order in which they are written. -/
def roleOptions : List (Parser (Option String)) :=
  roleSwitches.map (fun k => oneOf? [k, "NO" ++ k]) ++
    [afterKeyword? "CONNECTION" roleConnections, afterKeyword? "PASSWORD" rolePassword,
      afterKeyword? "VALID" roleValidity, rolesAfter? ["IN", "ROLE"], rolesAfter? ["IN", "GROUP"],
      rolesAfter? ["ROLE"], rolesAfter? ["USER"], rolesAfter? ["ADMIN"]]

/-- Each of some parsers with its place among them. -/
def withPlaces {α : Type} (n : Nat) : List (Parser (Option α)) → List (Parser (Option (Nat × α)))
  | [] => []
  | p :: ps => (do return (← p).map (n, ·)) :: withPlaces (n + 1) ps

/-- A CREATE ROLE after its keywords. Roles have options in PostgreSQL only, each at most once. -/
def createRole (l : Level) : Parser Statement := do
  let (_, guard) ← ifNotExists?
  let names ← commaSeparated objectName
  discard (keyword? "WITH")
  let options ← if l.isPostgres then onceEach (withPlaces 0 roleOptions) else pure []
  let options := options.mergeSort fun a b => a.1 ≤ b.1
  return .unmapped "CreateRole" ("CREATE ROLE" ++ guard ++ " " ++ commas (names.map nameText) ++
    String.join (options.map fun option => " " ++ option.2))

/-! ## ALTER ROLE -/

/-- An option of an ALTER ROLE, if one is next. -/
def roleOption? : Parser (Option String) := attempt do
  match ← next with
  | .word _ "CONNECTION" _ => roleConnections
  | .word _ "PASSWORD" _ => rolePassword
  | .word _ "VALID" _ => roleValidity
  | .word _ k _ => if roleSwitches.any fun s => k = s || k = "NO" ++ s then return k else unexpected
  | _ => unexpected

/-- The value that a role gives to a variable, after the name of the variable. -/
def roleSetting (l : Level) : Parser String := do
  if ← keywords? ["FROM", "CURRENT"] then return " FROM CURRENT"
  unless ← symbol? "=" do expectKeyword "TO"
  if ← keyword? "DEFAULT" then return " TO DEFAULT"
  return " TO " ++ (← forgiving l.expr).render

/-- An ALTER ROLE after its keywords. -/
def alterRole (l : Level) : Parser Statement := do
  if l.isMysql then unexpected
  let name ← identifier
  let place ← if ← keywords? ["IN", "DATABASE"] then lenientName else pure none
  let place := optional "IN DATABASE " (place.map (nameText · ++ " "))
  let change ←
    if ← keyword? "RENAME" then
      expectKeyword "TO"
      pure ("RENAME TO " ++ (← identifier).render)
    else if ← keyword? "SET" then
      let variableName ← objectName
      pure (place ++ "SET " ++ nameText variableName ++ (← roleSetting l))
    else if ← keyword? "RESET" then
      if ← keyword? "ALL" then pure (place ++ "RESET ALL")
      else pure (place ++ "RESET " ++ nameText (← objectName))
    else
      discard (keyword? "WITH")
      let options ← repeated roleOption?
      if options.isEmpty then unexpected
      pure ("WITH " ++ separated " " options)
  return .unmapped "AlterRole" ("ALTER ROLE " ++ name.render ++ " " ++ change)

/-! ## Policies -/

/-- Whom a policy is for and what it tests, as text. -/
def policyRules (l : Level) : Parser String := do
  let owners ← afterKeyword? "TO" (commaSeparated identifier)
  let visible ← afterKeyword? "USING" (parenthesisedExpr l)
  let check ← whenever (← keywords? ["WITH", "CHECK"]) (parenthesisedExpr l)
  return optional " TO " (owners.map fun os => commas (os.map Ident.render)) ++
    optional " USING " visible ++ optional " WITH CHECK " check

/-- A CREATE POLICY after its keywords. -/
def createPolicy (l : Level) : Parser Statement := do
  let name ← identifier
  expectKeyword "ON"
  let table ← objectName
  let sort ← afterKeyword? "AS" (expectOneOf ["PERMISSIVE", "RESTRICTIVE"])
  let command ← afterKeyword? "FOR" (expectOneOf ["ALL", "SELECT", "INSERT", "UPDATE", "DELETE"])
  return .unmapped "CreatePolicy" ("CREATE POLICY " ++ name.render ++ " ON " ++ nameText table ++
    optional " AS " sort ++ optional " FOR " command ++ (← policyRules l))

/-- An ALTER POLICY after its keywords. -/
def alterPolicy (l : Level) : Parser Statement := do
  let name ← identifier
  expectKeyword "ON"
  let table ← objectName
  let change ←
    if ← keyword? "RENAME" then
      expectKeyword "TO"
      pure (" RENAME TO " ++ (← identifier).render)
    else policyRules l
  return .unmapped "AlterPolicy"
    ("ALTER POLICY " ++ name.render ++ " ON " ++ nameText table ++ change)

end TypedSql.Sql.Grammar
