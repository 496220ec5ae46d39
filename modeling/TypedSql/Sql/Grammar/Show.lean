import TypedSql.Sql.Grammar.Definition

/-!
# Grammar of SHOW

A SHOW lists objects of one sort, perhaps only those in some place or those that pass a filter.
-/

namespace TypedSql.Sql.Grammar

/-- The filter of a SHOW, as text. A pattern after ILIKE is written without quotes. -/
def showFilter (l : Level) : Parser String := do
  let pattern := stringLiteral l.dialect
  if ← keyword? "LIKE" then return " LIKE " ++ betweenQuotes '\'' (← pattern)
  else if ← keyword? "ILIKE" then return " ILIKE " ++ quotesDoubled '\'' (← pattern)
  else if ← keyword? "WHERE" then return " WHERE " ++ (← l.expr).render
  else return optional " " ((← attempt pattern).map (betweenQuotes '\''))

/-- The name of the place that a SHOW looks into, as text; `sort` is the sort of place. -/
def placeOfSort (sort : String) : Parser String := do
  let unnamed ← onlyIf (sort = "DATABASE" || sort = "SCHEMA") do
    let ts ← get
    return startsWithKeywords ["STARTS", "WITH"] ts || startsWithKeywords ["LIMIT"] ts
  let name ← if unnamed then pure none else attempt objectName
  return " " ++ sort ++ optional " " (name.map nameText)

/-- The place that a SHOW looks into, as text. A second name is the place of the first one. -/
def showPlace : Parser String := do
  match ← oneOf? ["FROM", "IN"] with
  | none => return ""
  | some word =>
    match ← oneOf? ["ACCOUNT", "DATABASE", "SCHEMA", "TABLE", "VIEW"] with
    | some sort => return " " ++ word ++ (← placeOfSort sort)
    | none =>
      let name ← objectName
      let outer ← whenever ((← oneOf? ["FROM", "IN"]).isSome) identifier
      return " " ++ word ++ " " ++ nameText (outer.toList ++ name)

/-- The place that a SHOW looks into and what it lists of it, as text. The filter is written
last. -/
def showOptions (l : Level) : Parser String := do
  let place ← showPlace
  let filter ← showFilter l
  let first ← whenever (← keywords? ["STARTS", "WITH"]) literal
  let limit ← afterKeyword? "LIMIT" (limitCount l)
  let start ← afterKeyword? "FROM" literal
  return place ++ optional " STARTS WITH " (first.map Literal.render) ++
    optional " LIMIT " (exprText? limit.join) ++ optional " FROM " (start.map Literal.render) ++
    filter

/-- A SHOW of a variable: its words up to an equals sign. -/
def showVariable : Parser Statement := do
  let ts ← get
  set (ts.dropWhile (· ≠ .symbol "="))
  let words := (ts.takeWhile (· ≠ .symbol "=")).filterMap fun
    | .word text _ quote => some (Ident.render ⟨text, quote⟩)
    | _ => none
  return .unmapped "ShowVariable" (separated " " ("SHOW" :: words))

/-- A SHOW after its keyword. -/
def showObjects (l : Level) : Parser Statement := do
  let word (k : String) : Parser String := do return textIf (← keyword? k) (k ++ " ")
  let terse ← word "TERSE"
  let extended ← word "EXTENDED"
  let full ← word "FULL"
  let session ← word "SESSION"
  let everywhere ← word "GLOBAL"
  let external ← word "EXTERNAL"
  let history : Parser String := do return textIf (← keyword? "HISTORY") " HISTORY"
  let listed (kind text : String) : Parser Statement := do
    return .unmapped kind ("SHOW " ++ text ++ (← showOptions l))
  let filtered (kind text : String) : Parser Statement := do
    return .unmapped kind ("SHOW " ++ text ++ (← showFilter l))
  if (← oneOf? ["COLUMNS", "FIELDS"]).isSome then
    listed "ShowColumns" (extended ++ full ++ "COLUMNS")
  else if ← keyword? "TABLES" then
    let history ← if external = "" then history else pure ""
    listed "ShowTables" (terse ++ extended ++ full ++ external ++ "TABLES" ++ history)
  else if ← keywords? ["MATERIALIZED", "VIEWS"] then
    listed "ShowViews" (terse ++ "MATERIALIZED VIEWS")
  else if ← keyword? "VIEWS" then listed "ShowViews" (terse ++ "VIEWS")
  else if ← keyword? "FUNCTIONS" then filtered "ShowFunctions" "FUNCTIONS"
  else if extended ≠ "" ∨ full ≠ "" then unexpected
  else if ← keyword? "CREATE" then
    let sort ← expectOneOf ["TABLE", "TRIGGER", "FUNCTION", "PROCEDURE", "EVENT", "VIEW"]
    return .unmapped "ShowCreate" ("SHOW CREATE " ++ sort ++ " " ++ nameText (← objectName))
  else if ← keyword? "COLLATION" then filtered "ShowCollation" "COLLATION"
  else if ← allOf [keyword? "VARIABLES", return l.isMysql] then
    filtered "ShowVariables" (everywhere ++ session ++ "VARIABLES")
  else if ← allOf [keyword? "STATUS", return l.isMysql] then
    filtered "ShowStatus" (everywhere ++ session ++ "STATUS")
  else if ← keyword? "DATABASES" then
    let history ← history
    listed "ShowDatabases" (terse ++ "DATABASES" ++ history)
  else if ← keyword? "SCHEMAS" then
    let history ← history
    listed "ShowSchemas" (terse ++ "SCHEMAS" ++ history)
  else showVariable

end TypedSql.Sql.Grammar
