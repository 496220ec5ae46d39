import TypedSql.Sql.Grammar.Level

/-!
# Grammar of rights

GRANT and REVOKE, which give rights on objects and take them back.
-/

namespace TypedSql.Sql.Grammar

/-- A right, perhaps on some columns, as text. -/
def permission : Parser String := do
  let k ← expectOneOf ["CONNECT", "CREATE", "DELETE", "EXECUTE", "INSERT", "REFERENCES", "SELECT",
    "TEMPORARY", "TRIGGER", "TRUNCATE", "UPDATE", "USAGE"]
  if ["INSERT", "REFERENCES", "SELECT", "UPDATE"].contains k then
    return k ++ spacedIdents (← columnList? false)
  else return k

/-- The rights and the objects of a GRANT or REVOKE, as text. -/
def rights : Parser String := do
  let permissions ←
    if ← keyword? "ALL" then pure ("ALL" ++ textIf (← keyword? "PRIVILEGES") " PRIVILEGES")
    else pure (commas (← commaSeparated permission))
  expectKeyword "ON"
  let sort ←
    if ← keywords? ["ALL", "TABLES", "IN", "SCHEMA"] then pure "ALL TABLES IN SCHEMA "
    else if ← keywords? ["ALL", "SEQUENCES", "IN", "SCHEMA"] then pure "ALL SEQUENCES IN SCHEMA "
    else match ← oneOf? ["SEQUENCE", "SCHEMA", "TABLE"] with
      | some "TABLE" | none => pure ""
      | some sort => pure (sort ++ " ")
  let names ← commaSeparated objectName
  return permissions ++ " ON " ++ sort ++ commas (names.map nameText)

/-- Those who are given rights, as text. -/
def grantees : Parser String := do
  return commas ((← commaSeparated identifier).map Ident.render)

/-- Who gives the rights, as text. -/
def grantedBy? : Parser String := do
  let name ← whenever (← keywords? ["GRANTED", "BY"]) identifier
  return optional " GRANTED BY " (name.map Ident.render)

/-- A GRANT after its keyword. -/
def grant : Parser Statement := do
  let rights ← rights
  expectKeyword "TO"
  let grantees ← grantees
  let option ← keywords? ["WITH", "GRANT", "OPTION"]
  return .unmapped "Grant" ("GRANT " ++ rights ++ " TO " ++ grantees ++
    textIf option " WITH GRANT OPTION" ++ (← grantedBy?))

/-- A REVOKE after its keyword. -/
def revoke : Parser Statement := do
  let rights ← rights
  expectKeyword "FROM"
  let grantees ← grantees
  let grantor ← grantedBy?
  let behavior ← oneOf? ["CASCADE", "RESTRICT"]
  return .unmapped "Revoke" ("REVOKE " ++ rights ++ " FROM " ++ grantees ++ grantor ++
    optional " " behavior)

end TypedSql.Sql.Grammar
