import TypedSql.Sql.Grammar.Select

/-!
# Grammar of INSERT, UPDATE and DELETE

The statements that change the rows of a table, after their first keyword.
-/

namespace TypedSql.Sql.Grammar

/-- An assignment of a SET clause. -/
def assignment (l : Level) : Parser Assignment := do
  if ← symbol? "(" then
    let columns ← commaSeparated objectName
    expectSymbol ")"
    expectSymbol "="
    let value ← l.expr
    return .tuple (parenthesised (columns.map nameText) ++ " = " ++ value.render)
  else
    let name ← objectName
    expectSymbol "="
    return .column name (← l.expr)

/-- The assignments of a SET clause. -/
def assignments (l : Level) : Parser (List Assignment) := commaSeparated (assignment l)

/-- A RETURNING clause, if there is one. -/
def returning? (l : Level) : Parser (List SelectItem) := do
  return (← afterKeyword? "RETURNING" (commaSeparated (selectItem l))).getD []

/-- What to do on a conflict, as a clause of its own, if it is next. -/
def conflictClause? : Parser (Option String) := do
  for action in ["REPLACE", "ROLLBACK", "ABORT", "FAIL", "IGNORE"] do
    if ← keywords? ["OR", action] then return some ("OR " ++ action)
  if ← keyword? "REPLACE" then return some "REPLACE" else return none

/-- What an INSERT does with a row that is there already. -/
def onInsert (l : Level) : Parser OnInsert := do
  if ← keyword? "CONFLICT" then
    let target ←
      if ← keywords? ["ON", "CONSTRAINT"] then pure (" ON CONSTRAINT " ++ nameText (← objectName))
      else if ← peekSymbol "(" then
        pure (parenthesised ((← columnList false).map Ident.render))
      else pure ""
    expectKeyword "DO"
    if ← keyword? "NOTHING" then return .conflictNothing target
    expectKeywords ["UPDATE", "SET"]
    let assignments ← assignments l
    return .conflictUpdate target assignments (← afterKeyword? "WHERE" l.expr)
  else
    expectKeywords ["DUPLICATE", "KEY", "UPDATE"]
    return .duplicateKeyUpdate (← assignments l)

/-- The columns and the source of an INSERT: the column list, the text of a partition, and the query
that gives the rows. -/
def insertSource (l : Level) : Parser (List Ident × String × Option Query) := do
  if ← keywords? ["DEFAULT", "VALUES"] then return ([], "", none)
  let queryFirst ← allOf [peekSymbol "(", do return (← peekKeywordAt 1) = "SELECT"]
  if queryFirst then return ([], "", some (← l.query))
  let columns ← columnList? l.isMysql
  let partition ← afterKeyword? "PARTITION" (inParentheses l.exprs)
  let text := optional "PARTITION " (partition.map fun es => parenthesised (exprTexts es) ++ " ")
  return (columns, text, some (← l.query))

/-- The format of a file. -/
def fileFormat : Parser String :=
  expectOneOf ["AVRO", "JSONFILE", "ORC", "PARQUET", "RCFILE", "SEQUENCEFILE", "TEXTFILE"]

/-- An INSERT into a directory after the word DIRECTORY. The path is written as it is. -/
def insertDirectory (l : Level) (opening : String) : Parser Statement := do
  let path ← stringLiteral l.dialect
  let format ← whenever (← keywords? ["STORED", "AS"]) fileFormat
  let source ← l.query
  return .unmapped "Directory" (opening ++ " DIRECTORY '" ++ path ++ "'" ++
    optional " STORED AS " format ++ " " ++ source.render)

/-- An INSERT after its keyword; `verb` is the keyword. -/
def insert (l : Level) (verb : String) : Parser Statement := do
  let conflict ← conflictClause?
  let priority ←
    if l.isMysql then oneOf? ["LOW_PRIORITY", "DELAYED", "HIGH_PRIORITY"] else pure none
  let ignore ← onlyIf l.isMysql (keyword? "IGNORE")
  let overwrite ← keyword? "OVERWRITE"
  let into ← keyword? "INTO"
  let nearby ← keyword? "LOCAL"
  if ← keyword? "DIRECTORY" then
    return ← insertDirectory l
      ("INSERT" ++ textIf overwrite " OVERWRITE" ++ textIf nearby " LOCAL")
  let table ← keyword? "TABLE"
  let name ← objectName
  let aliasName ← if l.isPostgres then afterKeyword? "AS" identifier else pure none
  let (columns, partition, source) ← insertSource l
  let rowAlias ← if l.isMysql then afterKeyword? "AS" do
      let name ← objectName
      let columns ← columnList? false
      return " AS " ++ nameText name ++
        textIf (!columns.isEmpty) (" " ++ parenthesised (columns.map Ident.render))
    else pure none
  let onInsert ← afterKeyword? "ON" (onInsert l)
  let returning ← returning? l
  let opening := match conflict with
    | some text => "INSERT " ++ text ++ " INTO"
    | none => verb ++ optional " " priority ++ textIf ignore " IGNORE" ++
        textIf overwrite " OVERWRITE" ++ textIf into " INTO" ++ textIf table " TABLE"
  return .insert
    ⟨opening, name, aliasName, columns, partition, source, rowAlias.getD "", onInsert, returning⟩

/-- An UPDATE after its keyword. MySQL takes the word FROM and no table after it. -/
def update (l : Level) : Parser Update := do
  let conflict ← conflictClause?
  let table ← tableWithJoins l
  expectKeyword "SET"
  let assignments ← assignments l
  let source ←
    if ← keyword? "FROM" then
      if l.isPostgres then pure (some (← tableWithJoins l)) else pure none
    else pure none
  let condition ← afterKeyword? "WHERE" l.expr
  let returning ← returning? l
  return ⟨"UPDATE" ++ optional " " conflict, table, assignments, source, condition, returning⟩

/-- The number of rows after LIMIT, if there is one; `LIMIT ALL` has none. -/
def limitCount (l : Level) : Parser (Option Expr) := do
  if ← keyword? "ALL" then return none else return some (← l.expr)

/-- A DELETE after its keyword. -/
def delete (l : Level) : Parser Delete := do
  let targets ←
    if ← keyword? "FROM" then pure []
    else do
      let targets ← commaSeparated objectName
      expectKeyword "FROM"
      pure targets
  let source ← commaSeparated (tableWithJoins l)
  let others ← afterKeyword? "USING" (commaSeparated (tableWithJoins l))
  let condition ← afterKeyword? "WHERE" l.expr
  let returning ← returning? l
  let orderBy ← l.orderBy?
  let limit ← afterKeyword? "LIMIT" (limitCount l)
  return ⟨targets, source, others.getD [], condition, returning, orderBy, limit.join⟩

end TypedSql.Sql.Grammar
