import TypedSql.Sql.Grammar.Definition

/-!
# Grammar of upkeep

Statements on whole tables and on the server: truncating, copying, merging, caching, gathering
statistics, commenting. They are kept as texts, for their placeholders.
-/

namespace TypedSql.Sql.Grammar

/-! ## Whole tables -/

/-- A TRUNCATE after its keyword. -/
def truncate (l : Level) : Parser Statement := do
  let word ← keyword? "TABLE"
  let only ← keyword? "ONLY"
  let names ← commaSeparated objectName
  let partitions ← afterKeyword? "PARTITION" (inParentheses l.exprs)
  let behavior ←
    if l.isPostgres then do
      let identity ←
        match ← keywordText? ["RESTART", "IDENTITY"] with
        | some text => pure (some text)
        | none => keywordText? ["CONTINUE", "IDENTITY"]
      pure (optional " " identity ++ optional " " (← oneOf? ["CASCADE", "RESTRICT"]))
    else pure ""
  let cluster ← onCluster?
  return .unmapped "Truncate" ("TRUNCATE " ++ textIf word "TABLE " ++ textIf only "ONLY " ++
    commas (names.map nameText) ++ behavior ++
    optional " PARTITION " (partitions.map fun es => parenthesised (exprTexts es)) ++
    optional " ON CLUSTER " (cluster.map Ident.render))

/-- What an ANALYZE is to do; a later list of partitions or columns replaces an earlier one. -/
structure Analysis where
  partitions : String
  compute : Bool
  noScan : Bool
  cache : Bool
  columns : Option (List Ident)

namespace Analysis

/-- The canonical text of the clauses. -/
def render (a : Analysis) : String :=
  a.partitions ++ textIf a.compute " COMPUTE STATISTICS" ++ textIf a.noScan " NOSCAN" ++
  textIf a.cache " CACHE METADATA" ++
  optional " FOR COLUMNS" (a.columns.map fun cs =>
    textIf (!cs.isEmpty) (" " ++ commas (cs.map Ident.render)))

/-- The clauses of an ANALYZE, at most `n`, after the clauses `a`. -/
def parse (l : Level) : Nat → Analysis → Parser Analysis
  | 0, a => return a
  | n + 1, a => do
    match ← oneOf? ["PARTITION", "FOR", "CACHE", "NOSCAN", "COMPUTE"] with
    | some "PARTITION" =>
      let keys ← inParentheses l.exprs
      parse l n { a with partitions := " PARTITION " ++ parenthesised (exprTexts keys) }
    | some "FOR" =>
      expectKeyword "COLUMNS"
      parse l n { a with columns := some ((← attempt (commaSeparated identifier)).getD []) }
    | some "CACHE" =>
      expectKeyword "METADATA"
      parse l n { a with cache := true }
    | some "NOSCAN" => parse l n { a with noScan := true }
    | some _ =>
      expectKeyword "STATISTICS"
      parse l n { a with compute := true }
    | none => return a

end Analysis

/-- An ANALYZE after its keyword. -/
def analyze (l : Level) : Parser Statement := do
  expectKeyword "TABLE"
  let name ← objectName
  let clauses ← Analysis.parse l ((← get).length + 1) ⟨"", false, false, false, none⟩
  return .unmapped "Analyze" ("ANALYZE TABLE " ++ nameText name ++ clauses.render)

/-- A COMMENT ON after its keyword. The comment is written as it is. -/
def comment (d : Dialect) : Parser Statement := do
  let (_, guard) ← ifExists?
  expectKeyword "ON"
  let sort ← expectOneOf ["COLUMN", "TABLE", "EXTENSION", "SCHEMA", "DATABASE", "USER", "ROLE"]
  let name ← objectName
  expectKeyword "IS"
  let text ← if ← keyword? "NULL" then pure "NULL" else pure ("'" ++ (← stringLiteral d) ++ "'")
  return .unmapped "Comment" ("COMMENT" ++ guard ++ " ON " ++ sort ++ " " ++ nameText name ++
    " IS " ++ text)

/-! ## COPY -/

/-- A character: a string literal of one byte. -/
def charLiteral (d : Dialect) : Parser String := do
  let text ← stringLiteral d
  if text.utf8ByteSize = 1 then return text else unexpected

/-- A character after a keyword, as text. It is written as it is. -/
def charOption (d : Dialect) (k : String) : Parser String := do
  return k ++ " '" ++ (← charLiteral d) ++ "'"

/-- A flag that may be given as TRUE or FALSE, as text. -/
def flagOption (k : String) : Parser String := do
  return k ++ textIf ((← oneOf? ["TRUE", "FALSE"]) = some "FALSE") " FALSE"

/-- An option of a COPY. -/
def copyOption (d : Dialect) : Parser String := do
  let k ← expectOneOf ["FORMAT", "FREEZE", "DELIMITER", "NULL", "HEADER", "QUOTE", "ESCAPE",
    "FORCE_QUOTE", "FORCE_NOT_NULL", "FORCE_NULL", "ENCODING"]
  match k with
  | "FORMAT" => return "FORMAT " ++ (← identifier).render
  | "FREEZE" | "HEADER" => flagOption k
  | "DELIMITER" | "QUOTE" | "ESCAPE" => charOption d k
  | "NULL" | "ENCODING" => return k ++ " " ++ betweenQuotes '\'' (← stringLiteral d)
  | _ => return k ++ " " ++ identList (← columnList false)

/-- An option after CSV in the older form of COPY, if one is next. -/
def csvOption? (d : Dialect) : Parser (Option String) := attempt do
  match ← expectOneOf ["HEADER", "QUOTE", "ESCAPE", "FORCE"] with
  | "HEADER" => return " HEADER"
  | "FORCE" =>
    let words ← if ← keyword? "QUOTE" then pure " FORCE QUOTE " else do
      expectKeywords ["NOT", "NULL"]
      pure " FORCE NOT NULL "
    return words ++ commas ((← commaSeparated identifier).map Ident.render)
  | k =>
    discard (keyword? "AS")
    return " " ++ (← charOption d k)

/-- An option in the older form of COPY, if one is next. -/
def olderCopyOption? (d : Dialect) : Parser (Option String) := attempt do
  match ← expectOneOf ["BINARY", "DELIMITER", "NULL", "CSV"] with
  | "BINARY" => return " BINARY"
  | "CSV" => return " CSV" ++ String.join (← repeated (csvOption? d))
  | k =>
    discard (keyword? "AS")
    if k = "DELIMITER" then return " " ++ (← charOption d k)
    else return " NULL " ++ betweenQuotes '\'' (← stringLiteral d)

/-- What a COPY reads from or writes to. Rows that follow in the text are refused. -/
def copyTarget (d : Dialect) : Parser String := do
  match ← oneOf? ["STDIN", "STDOUT", "PROGRAM"] with
  | some "STDIN" => unexpected
  | some "STDOUT" => return "STDOUT"
  | some _ => return "PROGRAM " ++ betweenQuotes '\'' (← stringLiteral d)
  | none => return betweenQuotes '\'' (← stringLiteral d)

/-- A COPY after its keyword. -/
def copy (l : Level) : Parser Statement := do
  let (source, isQuery) ←
    if ← peekSymbol "(" then do
      let query ← inParentheses l.query
      pure ("(" ++ query.render ++ ")", true)
    else do
      let name ← objectName
      pure (nameText name ++ spacedIdents (← columnList? false), false)
  let direction ← expectOneOf ["FROM", "TO"]
  if isQuery ∧ direction = "FROM" then unexpected
  let target ← copyTarget l.dialect
  discard (keyword? "WITH")
  let options ← whenever (← symbol? "(") do
    let options ← commaSeparated (copyOption l.dialect)
    expectSymbol ")"
    return options
  let older ← repeated (olderCopyOption? l.dialect)
  return .unmapped "Copy" ("COPY " ++ source ++ " " ++ direction ++ " " ++ target ++
    optional " " (options.map parenthesised) ++ String.join older)

/-- An UNLOAD after its keyword. -/
def unload (l : Level) : Parser Statement := do
  let query ← inParentheses l.query
  expectKeyword "TO"
  let target ← identifier
  return .unmapped "Unload" ("UNLOAD(" ++ query.render ++ ") TO " ++ target.render ++
    (← optionsAfter? l "WITH"))

/-! ## MERGE -/

/-- What a clause of a MERGE does; `inserts` tells that it is for rows without a partner. -/
def mergeAction (l : Level) (inserts : Bool) : Parser String := do
  match ← expectOneOf ["UPDATE", "INSERT", "DELETE"] with
  | "INSERT" =>
    unless inserts do unexpected
    let columns ← columnList? l.isMysql
    expectKeyword "VALUES"
    let values ← valuesBody l
    return "INSERT " ++ textIf (!columns.isEmpty) (identList columns ++ " ") ++ values.render
  | verb =>
    if inserts then unexpected
    if verb = "DELETE" then return "DELETE"
    expectKeyword "SET"
    return "UPDATE SET " ++ assignmentsText (← assignments l)

/-- A clause of a MERGE after the word WHEN. -/
def mergeClause (l : Level) : Parser String := do
  let missing ← keyword? "NOT"
  expectKeyword "MATCHED"
  let bySource ← onlyIf missing (keywords? ["BY", "SOURCE"])
  let byTarget ← onlyIf (missing && !bySource) (keywords? ["BY", "TARGET"])
  let condition ← afterKeyword? "AND" l.expr
  expectKeyword "THEN"
  let action ← mergeAction l (missing && !bySource)
  return "WHEN " ++ notText missing ++ "MATCHED" ++ textIf bySource " BY SOURCE" ++
    textIf byTarget " BY TARGET" ++ optional " AND " (exprText? condition) ++ " THEN " ++ action

/-- The clauses of a MERGE, which go on to the end of the statement. -/
def mergeClauses (l : Level) : Parser (List String) := do
  let clauses ← repeated (afterKeyword? "WHEN" (mergeClause l))
  let ended := (← get).isEmpty || (← peekSymbol ";")
  if ended then return clauses else unexpected

/-- A MERGE after its keyword. -/
def merge (l : Level) : Parser Statement := do
  let into ← keyword? "INTO"
  let table ← tableFactor l
  expectKeyword "USING"
  let source ← tableFactor l
  expectKeyword "ON"
  let condition ← l.expr
  let clauses ← mergeClauses l
  return .unmapped "Merge" ("MERGE" ++ textIf into " INTO" ++ " " ++ table.render ++ " USING " ++
    source.render ++ " ON " ++ condition.render ++ " " ++ separated " " clauses)

/-! ## Caches -/

/-- The query that fills a cache, as text. It runs to the end of the tokens. -/
def cachedQuery (l : Level) : Parser String := do
  match ← peek? with
  | none => return ""
  | some (.word ..) =>
    let word ← keyword? "AS"
    return textIf word " AS" ++ " " ++ (← l.query).render
  | some _ => unexpected

/-- A CACHE after its keyword. -/
def cache (l : Level) : Parser Statement := do
  let flag ←
    if ← keyword? "TABLE" then pure none
    else do
      let flag ← objectName
      expectKeyword "TABLE"
      pure (some flag)
  let name ← objectName
  let options ← afterKeyword? "OPTIONS" (keyValues l)
  let query ← cachedQuery l
  return .unmapped "Cache" ("CACHE " ++ optional "" (flag.map (nameText · ++ " ")) ++ "TABLE " ++
    nameText name ++ (match options.getD [] with
      | [] => ""
      | options => " OPTIONS" ++ parenthesised options) ++ query)

/-- An UNCACHE after its keyword. -/
def uncache : Parser Statement := do
  expectKeyword "TABLE"
  let (_, guard) ← ifExists?
  return .unmapped "UNCache" ("UNCACHE TABLE" ++ guard ++ " " ++ nameText (← objectName))

/-- A check of the partitions of a table after its keyword. -/
def checkPartitions : Parser Statement := do
  let repair ← keyword? "REPAIR"
  expectKeyword "TABLE"
  let name ← objectName
  let action ← attempt do
    let action ← oneOf? ["ADD", "DROP", "SYNC"]
    expectKeyword "PARTITIONS"
    return action
  return .unmapped "Msck" ("MSCK " ++ textIf repair "REPAIR " ++ "TABLE " ++ nameText name ++
    optional " " (action.join.map (· ++ " PARTITIONS")))

/-! ## The server -/

/-- An ATTACH after its keyword. -/
def attach (l : Level) : Parser Statement := do
  let word ← keyword? "DATABASE"
  let file ← l.expr
  expectKeyword "AS"
  let name ← identifier
  return .unmapped "AttachDatabase"
    ("ATTACH " ++ textIf word "DATABASE " ++ file.render ++ " AS " ++ name.render)

/-- The tables of a FLUSH TABLES and its locks, at most `n` words. Words without meaning are passed
over, and any other token ends the statement. -/
def flushedTables : Nat → Parser String
  | 0 => return ""
  | n + 1 => do
    match ← next? with
    | some (.word text keyword quote) =>
      match keyword with
      | "WITH" =>
        let locked ← keywords? ["READ", "LOCK"]
        return textIf locked " WITH READ LOCK" ++ (← flushedTables n)
      | "FOR" =>
        let exported ← keyword? "EXPORT"
        return textIf exported " FOR EXPORT" ++ (← flushedTables n)
      | keyword =>
        if allKeywords.contains keyword then flushedTables n
        else
          set (.word text keyword quote :: (← get))
          let names ← commaSeparated objectName
          return " " ++ commas (names.map nameText) ++ (← flushedTables n)
    | _ => return ""

/-- A FLUSH after its keyword. -/
def flush : Parser Statement := do
  let scope := optional " " (← oneOf? ["NO_WRITE_TO_BINLOG", "LOCAL"])
  let flushed (text : String) : Parser Statement :=
    return .unmapped "Flush" ("FLUSH" ++ scope ++ text)
  match ← expectOneOf ["BINARY", "ENGINE", "ERROR", "GENERAL", "HOSTS", "LOGS", "OPTIMIZER_COSTS",
      "PRIVILEGES", "RELAY", "SLOW", "STATUS", "TABLES", "USER_RESOURCES"] with
  | "TABLES" => flushed (" TABLES" ++ (← flushedTables ((← get).length + 1)))
  | "RELAY" =>
    expectKeyword "LOGS"
    let channel ← whenever (← keywords? ["FOR", "CHANNEL"]) objectName
    flushed (" RELAY LOGS" ++ optional " FOR CHANNEL " (channel.map nameText))
  | word =>
    if ["BINARY", "ENGINE", "ERROR", "GENERAL", "SLOW"].contains word then
      expectKeyword "LOGS"
      flushed (" " ++ word ++ " LOGS")
    else flushed (" " ++ word)

end TypedSql.Sql.Grammar
