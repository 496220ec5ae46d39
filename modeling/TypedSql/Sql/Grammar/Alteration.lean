import TypedSql.Sql.Grammar.Definition

/-!
# Grammar of ALTER TABLE

The actions of an ALTER TABLE: what each does to the columns or the name of the table, and its
text.
-/

namespace TypedSql.Sql.Grammar

/-- An action that leaves the columns and the name of the table as they are. -/
def silentAction (text : String) : AlterAction := ⟨.nothing, text⟩

/-- Expressions in parentheses, as text. -/
def exprList (l : Level) : Parser String := do
  return parenthesised (exprTexts (← inParentheses l.exprs))

/-! ## Columns -/

/-- The place of a column in MySQL, as text. -/
def columnPosition? (d : Dialect) : Parser String := do
  if ← onlyIf (d = .mysql) (keyword? "FIRST") then return " FIRST"
  else if ← onlyIf (d = .mysql) (keyword? "AFTER") then return " AFTER " ++ (← identifier).render
  else return ""

/-- A column after its name in an action that changes it, with the text of its place. -/
def changedColumn (l : Level) (name : Ident) : Parser (ColumnDecl × String) := do
  let type ← dataType l.dialect
  let options ← repeated (columnOption? l)
  return (⟨name, type, "", options⟩, ← columnPosition? l.dialect)

/-- The action after ADD. -/
def addAction (l : Level) : Parser AlterAction := do
  if let some constraint ← tableConstraint? l then
    return silentAction ("ADD " ++ constraint.text)
  let (early, guard) ← ifNotExists?
  let partitions ← repeated (afterKeyword? "PARTITION" (exprList l))
  unless partitions.isEmpty do
    return silentAction ("ADD" ++ guard ++ String.join (partitions.map (" PARTITION " ++ ·)))
  let word ← keyword? "COLUMN"
  let ifNotExists ←
    if l.isPostgres then pure ((← ifNotExists?).1 || early) else pure false
  let column ← columnDecl l
  let position ← columnPosition? l.dialect
  return ⟨.addColumn column ifNotExists, "ADD" ++ textIf word " COLUMN" ++
    textIf ifNotExists " IF NOT EXISTS" ++ " " ++ column.render ++ position⟩

/-- The action after RENAME. -/
def renameAction (l : Level) : Parser AlterAction := do
  if ← onlyIf l.isPostgres (keyword? "CONSTRAINT") then
    let name ← identifier
    expectKeyword "TO"
    return silentAction ("RENAME CONSTRAINT " ++ name.render ++ " TO " ++ (← identifier).render)
  else if ← keyword? "TO" then
    let name ← objectName
    return ⟨.renameTable name, "RENAME TO " ++ nameText name⟩
  else
    discard (keyword? "COLUMN")
    let name ← identifier
    expectKeyword "TO"
    let newName ← identifier
    return ⟨.renameColumn name newName,
      "RENAME COLUMN " ++ name.render ++ " TO " ++ newName.render⟩

/-- The action after DROP. A few words are taken even where the dialect gives them no meaning. -/
def dropAction (l : Level) : Parser AlterAction := do
  if ← keywords? ["IF", "EXISTS", "PARTITION"] then
    return silentAction ("DROP IF EXISTS PARTITION " ++ (← exprList l))
  else if ← keyword? "PARTITION" then
    return silentAction ("DROP PARTITION " ++ (← exprList l))
  else if ← keyword? "CONSTRAINT" then
    let (_, guard) ← ifExists?
    let name ← identifier
    return silentAction ("DROP CONSTRAINT" ++ guard ++ " " ++ name.render ++
      textIf (← keyword? "CASCADE") " CASCADE")
  else if ← allOf [keywords? ["PRIMARY", "KEY"], return l.isMysql] then
    return silentAction "DROP PRIMARY KEY"
  discard (keyword? "PROJECTION")
  if ← keywords? ["CLUSTERING", "KEY"] then return silentAction "DROP CLUSTERING KEY"
  discard (keyword? "COLUMN")
  let (ifExists, guard) ← ifExists?
  let name ← identifier
  return ⟨.dropColumn name ifExists, "DROP COLUMN" ++ guard ++ " " ++ name.render ++
    textIf (← keyword? "CASCADE") " CASCADE"⟩

/-- The action after ALTER. -/
def alterColumnAction (l : Level) : Parser AlterAction := do
  discard (keyword? "COLUMN")
  let name ← identifier
  let action (change : TableChange) (text : String) : AlterAction :=
    ⟨change, "ALTER COLUMN " ++ name.render ++ " " ++ text⟩
  if ← keywords? ["SET", "NOT", "NULL"] then return action (.setNotNull name true) "SET NOT NULL"
  else if ← keywords? ["DROP", "NOT", "NULL"] then
    return action (.setNotNull name false) "DROP NOT NULL"
  else if ← keywords? ["SET", "DEFAULT"] then
    return action .nothing ("SET DEFAULT " ++ (← l.expr).render)
  else if ← keywords? ["DROP", "DEFAULT"] then return action .nothing "DROP DEFAULT"
  let retyped ←
    if ← keywords? ["SET", "DATA", "TYPE"] then pure true
    else onlyIf l.isPostgres (keyword? "TYPE")
  if retyped then
    let type ← dataType l.dialect
    let value ← whenever (← onlyIf l.isPostgres (keyword? "USING")) l.expr
    return action (.setType name type)
      ("SET DATA TYPE " ++ type.render ++ optional " USING " (exprText? value))
  else
    expectKeywords ["ADD", "GENERATED"]
    let time ←
      if ← keyword? "ALWAYS" then pure " ALWAYS"
      else pure (textIf (← keywords? ["BY", "DEFAULT"]) " BY DEFAULT")
    expectKeywords ["AS", "IDENTITY"]
    let options ← whenever (← peekSymbol "(") (inParentheses sequenceOptions)
    return action .nothing ("ADD GENERATED" ++ time ++ " AS IDENTITY" ++
      optional " (" (options.map (· ++ " )")))

/-! ## Other actions -/

/-- A switch of a rule or a trigger after ENABLE or DISABLE; `states` are the words that may stand
before it. -/
def switchAction (verb : String) (states : List (List String)) : Parser AlterAction := do
  if ← keywords? ["ROW", "LEVEL", "SECURITY"] then
    return silentAction (verb ++ " ROW LEVEL SECURITY")
  let switches := states.flatMap fun state => [state ++ ["RULE"], state ++ ["TRIGGER"]]
  for words in switches do
    if ← keywords? words then
      return silentAction (separated " " (verb :: words) ++ " " ++ (← identifier).render)
  unexpected

/-- An action that starts with the word CHANGE or MODIFY. -/
def changeAction (l : Level) (verb : String) : Parser AlterAction := do
  discard (keyword? "COLUMN")
  let name ← identifier
  let newName ← if verb = "CHANGE" then identifier else pure name
  let (column, position) ← changedColumn l newName
  let opening := verb ++ " COLUMN " ++ textIf (verb = "CHANGE") (name.render ++ " ")
  return ⟨.changeColumn name column, opening ++ column.render ++ position⟩

/-- An action on the storage or the owner of the table. -/
def tableAction (l : Level) : Parser AlterAction := do
  if ← keyword? "SWAP" then
    expectKeyword "WITH"
    return silentAction ("SWAP WITH " ++ nameText (← objectName))
  else if ← onlyIf l.isPostgres (keywords? ["OWNER", "TO"]) then
    return silentAction ("OWNER TO " ++ (← identifier).render)
  else if ← keywords? ["CLUSTER", "BY"] then
    return silentAction ("CLUSTER BY " ++ (← exprList l))
  else if ← keywords? ["SUSPEND", "RECLUSTER"] then return silentAction "SUSPEND RECLUSTER"
  else if ← keywords? ["RESUME", "RECLUSTER"] then return silentAction "RESUME RECLUSTER"
  else
    expectKeywords ["SET", "TBLPROPERTIES"]
    let options ← inParentheses (commaSeparated (keyValue l))
    return silentAction ("SET TBLPROPERTIES" ++ parenthesised options)

/-- An action of an ALTER TABLE. -/
def alterAction (l : Level) : Parser AlterAction := do
  if ← keyword? "ADD" then return ← addAction l
  if ← keyword? "RENAME" then return ← renameAction l
  if ← keyword? "DISABLE" then return ← switchAction "DISABLE" [[]]
  if ← keyword? "ENABLE" then
    return ← switchAction "ENABLE" [["ALWAYS"], ["REPLICA"], []]
  -- Projections have no meaning, but the words are taken.
  discard (keywords? ["CLEAR", "PROJECTION"])
  discard (keywords? ["MATERIALIZE", "PROJECTION"])
  if ← keyword? "DROP" then return ← dropAction l
  if ← keyword? "PARTITION" then
    let before ← exprList l
    expectKeywords ["RENAME", "TO", "PARTITION"]
    return silentAction ("PARTITION " ++ before ++ " RENAME TO PARTITION " ++ (← exprList l))
  if ← keyword? "CHANGE" then return ← changeAction l "CHANGE"
  if ← keyword? "MODIFY" then return ← changeAction l "MODIFY"
  if ← keyword? "ALTER" then return ← alterColumnAction l
  tableAction l

/-- The place of the files of a table after the actions, as text. -/
def location? : Parser String := do
  if ← keyword? "LOCATION" then return " LOCATION " ++ (← identifier).render
  else if ← keywords? ["SET", "LOCATION"] then return " SET LOCATION " ++ (← identifier).render
  else return ""

/-- An ALTER TABLE after its keywords. -/
def alterTable (l : Level) : Parser AlterTable := do
  let (ifExists, guard) ← ifExists?
  let only ← keyword? "ONLY"
  let name ← objectName
  let cluster ← onCluster?
  let actions ← commaSeparated (alterAction l)
  let location ← location?
  return {
    name, ifExists, actions, location
    opening := "ALTER TABLE" ++ guard ++ textIf only " ONLY"
    cluster := optional "ON CLUSTER " (cluster.map fun c => c.render ++ " ")
  }

end TypedSql.Sql.Grammar
