import TypedSql.Sql.Grammar.Definition

/-!
# Grammar of session statements

Transactions, variables, EXPLAIN, prepared statements, cursors and locks: statements that neither
define tables nor name result columns. They are kept as texts, for their placeholders.
-/

namespace TypedSql.Sql.Grammar

/-- A statement that is one name after some keywords. -/
def named (kind text : String) : Parser Statement := do
  return .unmapped kind (text ++ " " ++ (← identifier).render)

/-! ## Transactions -/

/-- A mode of a transaction, if one is next. -/
def transactionMode? : Parser (Option String) := do
  if ← keywords? ["ISOLATION", "LEVEL"] then
    match ← expectOneOf ["READ", "REPEATABLE", "SERIALIZABLE"] with
    | "READ" =>
      return some ("ISOLATION LEVEL READ " ++ (← expectOneOf ["UNCOMMITTED", "COMMITTED"]))
    | "REPEATABLE" =>
      expectKeyword "READ"
      return some "ISOLATION LEVEL REPEATABLE READ"
    | level => return some ("ISOLATION LEVEL " ++ level)
  else if ← keywords? ["READ", "ONLY"] then return some "READ ONLY"
  else if ← keywords? ["READ", "WRITE"] then return some "READ WRITE"
  else return none

/-- The modes of a transaction, at most `n`. Commas between them may be left out; after one a mode
is required. -/
def transactionModesAtMost (required : Bool) : Nat → Parser (List String)
  | 0 => return []
  | n + 1 => do
    match ← transactionMode? with
    | some mode => return mode :: (← transactionModesAtMost (← symbol? ",") n)
    | none => if required then unexpected else return []

/-- The modes of a transaction, as text. -/
def transactionModes : Parser String := do
  let modes ← transactionModesAtMost false ((← get).length + 1)
  return textIf (!modes.isEmpty) (" " ++ commas modes)

/-- A statement that starts a transaction. -/
def startTransaction (text : String) : Parser Statement := do
  return .unmapped "StartTransaction" (text ++ (← transactionModes))

/-- A BEGIN after its keyword. -/
def begin : Parser Statement := do
  startTransaction ("BEGIN" ++ optional " " (← oneOf? ["TRANSACTION", "WORK"]))

/-- The end of a transaction with the wish for another one, as text. -/
def chain : Parser String := do
  discard (oneOf? ["TRANSACTION", "WORK"])
  unless ← keyword? "AND" do return ""
  let refused ← keyword? "NO"
  expectKeyword "CHAIN"
  return textIf (!refused) " AND CHAIN"

/-- A COMMIT after its keyword. -/
def commit (verb : String) : Parser Statement := do
  return .unmapped "Commit" (verb ++ (← chain))

/-- A ROLLBACK after its keyword. -/
def rollback : Parser Statement := do
  let chain ← chain
  let savepoint ← afterKeyword? "TO" do
    discard (keyword? "SAVEPOINT")
    identifier
  return .unmapped "Rollback"
    ("ROLLBACK" ++ chain ++ optional " TO SAVEPOINT " (savepoint.map Ident.render))

/-! ## Variables -/

/-- The values of a variable, after the equals sign. -/
def variableValues (l : Level) : Parser (List Expr) := commaSeparated do
  if ← Level.queryAhead then return .subquery (← l.query) else forgiving l.expr

/-- The role of the session, after SET and its modifier. -/
def setRole (modifier : Option String) : Parser Statement := do
  expectKeyword "ROLE"
  let role ← if ← keyword? "NONE" then pure "NONE" else Ident.render <$> identifier
  return .unmapped "SetRole" ("SET" ++ optional " " modifier ++ " ROLE " ++ role)

/-- The character set of the session, after SET NAMES. Its names are written as they are. -/
def setNames (d : Dialect) : Parser Statement := do
  if ← keyword? "DEFAULT" then return .unmapped "SetNamesDefault" "SET NAMES DEFAULT"
  let name ← stringLiteral d
  let collation ← afterKeyword? "COLLATE" (stringLiteral d)
  return .unmapped "SetNames" ("SET NAMES " ++ name ++ optional " COLLATE " collation)

/-- What a SET does with a variable that is not followed by a value. -/
def setSpecial (l : Level) (target : String) (modifier : Option String) : Parser Statement := do
  if target.toUpper = "TIMEZONE" then
    let zone ← forgiving l.expr
    return .unmapped "SetTimeZone"
      ("SET " ++ textIf (modifier = some "LOCAL") "LOCAL " ++ "TIME ZONE " ++ zone.render)
  else if target = "CHARACTERISTICS" then
    expectKeywords ["AS", "TRANSACTION"]
    return .unmapped "SetTransaction"
      ("SET SESSION CHARACTERISTICS AS TRANSACTION" ++ (← transactionModes))
  else if target = "TRANSACTION" ∧ modifier = none then
    if ← keyword? "SNAPSHOT" then
      return .unmapped "SetTransaction" ("SET TRANSACTION SNAPSHOT " ++ (← literal).render)
    return .unmapped "SetTransaction" ("SET TRANSACTION" ++ (← transactionModes))
  else unexpected

/-- A SET after its keyword. -/
def setVariable (l : Level) : Parser Statement := do
  let modifier ← oneOf? ["SESSION", "LOCAL", "HIVEVAR"]
  let hive := modifier = some "HIVEVAR"
  if hive then expectSymbol ":"
  match ← if hive then pure none else attempt (setRole modifier) with
  | some s => return s
  | none =>
    let zone ← keywords? ["TIME", "ZONE"]
    let target ← if zone then pure "TIMEZONE" else nameText <$> objectName
    if l.isMysql ∧ target.toUpper = "NAMES" then return ← setNames l.dialect
    let assigned ← if ← symbol? "=" then pure true else keyword? "TO"
    unless assigned do return ← setSpecial l target modifier
    let values ← variableValues l
    return .unmapped "SetVariable" ("SET " ++ textIf (modifier = some "LOCAL") "LOCAL " ++
      textIf hive "HIVEVAR:" ++ target ++ " = " ++ commas (exprTexts values))

/-! ## EXPLAIN -/

/-- The options of an EXPLAIN in parentheses, as text. -/
def explainOptions (l : Level) : Parser String := do
  let options ← inParentheses <| commaSeparated do
    let name ← identifier
    let bare ← if ← peekSymbol "," then pure true else peekSymbol ")"
    let value ← whenever (!bare) l.expr
    return name.render ++ optional " " (exprText? value)
  return parenthesised options ++ " "

/-- The statement that an EXPLAIN is about, or the table that it describes; `word` is the keyword
and `options` the text after it. -/
def explained (l : Level) (word options : String) : Parser Statement := do
  match ← attempt l.statement with
  | some s =>
    if let .unmapped kind _ := s then
      if kind = "Explain" ∨ kind = "ExplainTable" then unexpected
    return .unmapped "Explain" (word ++ " " ++ options ++ s.render)
  | none =>
    let format ← oneOf? ["EXTENDED", "FORMATTED"]
    return .unmapped "ExplainTable"
      (word ++ " " ++ optional "" (format.map (· ++ " ")) ++ nameText (← objectName))

/-- An EXPLAIN after its keyword. -/
def explain (l : Level) (word : String) : Parser Statement := do
  let options ←
    if word = "EXPLAIN" ∧ l.isPostgres ∧ (← peekSymbol "(") then explainOptions l
    else if ← keywords? ["QUERY", "PLAN"] then pure "QUERY PLAN "
    else do
      let analyze ← keyword? "ANALYZE"
      let verbose ← keyword? "VERBOSE"
      let format ← afterKeyword? "FORMAT" (expectOneOf ["TEXT", "JSON", "GRAPHVIZ"])
      pure (textIf analyze "ANALYZE " ++ textIf verbose "VERBOSE " ++
        optional "FORMAT " (format.map (· ++ " ")))
  explained l word options

/-! ## Prepared statements and calls -/

/-- A CALL after its keyword. -/
def callStatement (l : Level) : Parser Statement := do
  let name ← objectName
  if ← peekSymbol "(" then
    let e ← call l (interval l (primary l ((← get).length + 1))) false name
    return .unmapped "Call" ("CALL " ++ e.render)
  else return .unmapped "Call" ("CALL " ++ nameText name)

/-- The parameters of an EXECUTE, with or without parentheses, as text. -/
def executeParameters (l : Level) : Parser String := do
  if ← symbol? "(" then
    let items ← commaSeparatedUntil ")" l.expr
    expectSymbol ")"
    return parenthesised (exprTexts items)
  else
    let ended := (← get).isEmpty || (← peekKeyword) = "USING" || (← peekSymbol ";")
    if ended then return "" else return " " ++ commas (exprTexts (← l.exprs))

/-- An EXECUTE after its keyword. -/
def execute (l : Level) : Parser Statement := do
  let name ← objectName
  let parameters ← executeParameters l
  let values ← afterKeyword? "USING" l.exprs
  return .unmapped "Execute" ("EXECUTE " ++ nameText name ++ parameters ++
    optional " USING " (values.map fun es => commas (exprTexts es)))

/-- A PREPARE after its keyword. -/
def prepare (l : Level) : Parser Statement := do
  let name ← identifier
  let types ← whenever (← symbol? "(") do
    let types ← commaSeparated (dataType l.dialect)
    expectSymbol ")"
    return types
  expectKeyword "AS"
  let s ← l.statement
  return .unmapped "Prepare" ("PREPARE " ++ name.render ++
    optional " " (types.map fun ts => parenthesised (ts.map DataType.render)) ++ " AS " ++ s.render)

/-- A DEALLOCATE after its keyword. -/
def deallocate : Parser Statement := do
  let word ← keyword? "PREPARE"
  named "Deallocate" ("DEALLOCATE" ++ textIf word " PREPARE")

/-! ## Cursors -/

/-- The declaration of a cursor after its keyword. -/
def declareCursor (l : Level) : Parser Statement := do
  let name ← identifier
  let binary ← keyword? "BINARY"
  let sensitivity ←
    if ← keyword? "INSENSITIVE" then pure " INSENSITIVE"
    else pure (textIf (← keyword? "ASENSITIVE") " ASENSITIVE")
  let scroll ←
    if ← keyword? "SCROLL" then pure " SCROLL"
    else pure (textIf (← keywords? ["NO", "SCROLL"]) " NO SCROLL")
  expectKeyword "CURSOR"
  let hold ← oneOf? ["WITH", "WITHOUT"]
  if hold.isSome then expectKeyword "HOLD"
  expectKeyword "FOR"
  let query ← l.query
  return .unmapped "Declare" ("DECLARE " ++ name.render ++ textIf binary " BINARY" ++ sensitivity ++
    scroll ++ " CURSOR" ++ optional " " (hold.map (· ++ " HOLD")) ++ " FOR " ++ query.render)

/-- The rows that a FETCH moves to, as text. -/
def fetchDirection : Parser String := do
  match ← oneOf? ["NEXT", "PRIOR", "FIRST", "LAST", "ABSOLUTE", "RELATIVE", "ALL", "FORWARD",
      "BACKWARD"] with
  | none => return (← numberLiteral).render
  | some word =>
    match word with
    | "ABSOLUTE" | "RELATIVE" => return word ++ " " ++ (← numberLiteral).render
    | "FORWARD" | "BACKWARD" =>
      if ← keyword? "ALL" then return word ++ " ALL"
      else return word ++ " " ++ (← numberLiteral).render
    | _ => return word

/-- A FETCH from a cursor after its keyword. -/
def fetchCursor : Parser Statement := do
  let direction ← fetchDirection
  discard (expectOneOf ["FROM", "IN"])
  let name ← identifier
  let target ← afterKeyword? "INTO" objectName
  return .unmapped "Fetch" ("FETCH " ++ direction ++ " IN " ++ name.render ++
    optional " INTO " (target.map nameText))

/-- A CLOSE after its keyword. -/
def closeCursor : Parser Statement := do
  if ← keyword? "ALL" then return .unmapped "Close" "CLOSE ALL" else named "Close" "CLOSE"

/-! ## Locks -/

/-- A LOCK TABLES after its keywords. -/
def lockTables : Parser Statement := do
  let locks ← commaSeparated do
    let table ← identifier
    let aliasName ← alias? ["READ", "WRITE", "LOW_PRIORITY"]
    let mode ←
      match ← expectOneOf ["READ", "WRITE", "LOW_PRIORITY"] with
      | "READ" => pure ("READ" ++ textIf (← keyword? "LOCAL") " LOCAL")
      | "LOW_PRIORITY" =>
        expectKeyword "WRITE"
        pure "LOW_PRIORITY WRITE"
      | mode => pure mode
    return table.render ++ optional " AS " (aliasName.map Ident.render) ++ " " ++ mode
  return .unmapped "LockTables" ("LOCK TABLES " ++ commas locks)

/-! ## Messages -/

/-- A NOTIFY after its keyword. The message is written as it is. -/
def notify (d : Dialect) : Parser Statement := do
  let channel ← identifier
  let message ← whenever (← symbol? ",") (stringLiteral d)
  return .unmapped "NOTIFY"
    ("NOTIFY " ++ channel.render ++ optional ", '" (message.map (· ++ "'")))

/-- An UNLISTEN after its keyword. -/
def unlisten : Parser Statement := do
  if ← symbol? "*" then return .unmapped "UNLISTEN" "UNLISTEN *" else named "UNLISTEN" "UNLISTEN"

/-- A KILL after its keyword. -/
def kill : Parser Statement := do
  let sort ← oneOf? ["CONNECTION", "QUERY"]
  let id ← unsigned
  return .unmapped "Kill" ("KILL " ++ optional "" (sort.map (· ++ " ")) ++ toString id)

/-- An ASSERT after its keyword. -/
def assertion (l : Level) : Parser Statement := do
  let condition ← l.expr
  let message ← afterKeyword? "AS" l.expr
  return .unmapped "Assert" ("ASSERT " ++ condition.render ++ optional " AS " (exprText? message))

/-- The value of a setting: a string, a number or a placeholder. -/
def settingValue : Parser Literal := do
  match ← literal with
  | .string .single text => return .string .single text
  | .string .double text => return .string .double text
  | .number text long => return .number text long
  | .placeholder text => return .placeholder text
  | _ => unexpected

/-- A PRAGMA after its keyword. -/
def pragma : Parser Statement := do
  let name ← objectName
  let value ←
    if ← peekSymbol "(" then pure ("(" ++ (← inParentheses settingValue).render ++ ")")
    else if ← symbol? "=" then pure (" = " ++ (← settingValue).render)
    else pure ""
  return .unmapped "Pragma" ("PRAGMA " ++ nameText name ++ value)

end TypedSql.Sql.Grammar
