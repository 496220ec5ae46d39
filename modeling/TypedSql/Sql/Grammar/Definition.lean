import TypedSql.Sql.Grammar.Column

/-!
# Grammar of CREATE TABLE

The columns of a new table, the options after them and the query that fills it. The options are
kept as text, for their placeholders.
-/

namespace TypedSql.Sql.Grammar

/-! ## Parts that definitions share -/

/-- The words IF NOT EXISTS as text, and whether they are next. -/
def ifNotExists? : Parser (Bool × String) := do
  let present ← keywords? ["IF", "NOT", "EXISTS"]
  return (present, textIf present " IF NOT EXISTS")

/-- The words IF EXISTS as text, and whether they are next. -/
def ifExists? : Parser (Bool × String) := do
  let present ← keywords? ["IF", "EXISTS"]
  return (present, textIf present " IF EXISTS")

/-- The cluster that runs a definition, if it is named. -/
def onCluster? : Parser (Option Ident) := do
  whenever (← keywords? ["ON", "CLUSTER"]) identifier

/-- An option with its value, as text. -/
def keyValue (l : Level) : Parser String := do
  let key ← identifier
  expectSymbol "="
  return key.render ++ " = " ++ (← l.expr).render

/-- Options with values in parentheses, perhaps none. -/
def keyValues (l : Level) : Parser (List String) :=
  inParentheses (commaSeparatedUntil ")" (keyValue l))

/-- Options with values after some keywords, as text; nothing if there are none. -/
def optionsAfter? (l : Level) (k : String) : Parser String := do
  let options ← afterKeyword? k (keyValues l)
  return match options.getD [] with
    | [] => ""
    | options => " " ++ k ++ " " ++ parenthesised options

/-! ## Columns -/

/-- The columns and constraints of a table, at most `n`, with the closing parenthesis. -/
def tableElements (l : Level) : Nat → Parser (List ColumnDecl × List TableConstraint)
  | 0 => unexpected
  | n + 1 => do
    let constraint ← tableConstraint? l
    let column ←
      if constraint.isSome then pure none
      else match ← peek? with
        | some (.word ..) => pure (some (← columnDecl l))
        | _ => unexpected
    let comma ← symbol? ","
    let closing ← peekSymbol ")"
    if !comma && !closing then unexpected
    let (columns, constraints) ←
      if !comma then do
        expectSymbol ")"
        pure ([], [])
      else tableElements l n
    return (column.toList ++ columns, constraint.toList ++ constraints)

/-- The columns and constraints of a table in parentheses, if there are any. -/
def tableElements? (l : Level) : Parser (List ColumnDecl × List TableConstraint) := do
  if ← symbol? "(" then
    if ← symbol? ")" then return ([], []) else tableElements l (← get).length
  else return ([], [])

/-! ## Storage -/

/-- The columns that the files of a table are partitioned by, as text. -/
def partitionedBy? (l : Level) : Parser String := do
  let columns ← whenever (← keywords? ["PARTITIONED", "BY"]) do
    inParentheses (commaSeparated (columnDecl l))
  return optional " PARTITIONED BY "
    (columns.map fun cs => parenthesised (cs.map ColumnDecl.render))

/-- A delimiter of a row format, if one is next. A word that starts none is taken and ends the
delimiters. -/
def delimiter? : Parser (Option String) := do
  let mark (ks : List String) : Parser (Option String) := do
    whenever (← keywords? ks) do
      return separated " " ks ++ " " ++ (← identifier).render
  match ← oneOf? ["FIELDS", "COLLECTION", "MAP", "LINES", "NULL"] with
  | some "FIELDS" =>
    match ← mark ["TERMINATED", "BY"] with
    | none => return none
    | some text => return some (" FIELDS " ++ text ++ optional " " (← mark ["ESCAPED", "BY"]))
  | some "COLLECTION" => after "COLLECTION" (← mark ["ITEMS", "TERMINATED", "BY"])
  | some "MAP" => after "MAP" (← mark ["KEYS", "TERMINATED", "BY"])
  | some "LINES" => after "LINES" (← mark ["TERMINATED", "BY"])
  | some _ => after "NULL" (← mark ["DEFINED", "AS"])
  | none => return none
where
  /-- A delimiter after its first word. -/
  after (k : String) (mark : Option String) : Parser (Option String) :=
    return mark.map (" " ++ k ++ " " ++ ·)

/-- The format of the rows of a file after `ROW`, as text. The name of a class is written as it
is. -/
def rowFormat (d : Dialect) : Parser String := do
  expectKeyword "FORMAT"
  if ← keyword? "SERDE" then return " ROW FORMAT SERDE '" ++ (← stringLiteral d) ++ "'"
  discard (keyword? "DELIMITED")
  return " ROW FORMAT DELIMITED" ++ String.join (← repeated delimiter?)

/-- How the files of a table are stored. A later clause replaces an earlier one. -/
structure Storage where
  rows : String
  files : String
  properties : String
  location : Option String

namespace Storage

/-- The text of a storage in an order of its own. Paths are written as they are. -/
def render (s : Storage) : String :=
  s.rows ++ s.files ++ s.properties ++ optional " LOCATION '" (s.location.map (· ++ "'"))

/-- The clauses of a storage, at most `n`. -/
def parse (l : Level) : Nat → Storage → Parser Storage
  | 0, s => return s
  | n + 1, s => do
    match ← oneOf? ["ROW", "STORED", "LOCATION"] with
    | some "ROW" => parse l n { s with rows := ← rowFormat l.dialect }
    | some "STORED" =>
      expectKeyword "AS"
      if ← keyword? "INPUTFORMAT" then
        let input ← l.expr
        expectKeyword "OUTPUTFORMAT"
        let output ← l.expr
        parse l n { s with
          files := " STORED AS INPUTFORMAT " ++ input.render ++ " OUTPUTFORMAT " ++ output.render }
      else parse l n { s with files := " STORED AS " ++ (← fileFormat) }
    | some _ => parse l n { s with location := some (← stringLiteral l.dialect) }
    | none =>
      if ← keywords? ["WITH", "SERDEPROPERTIES"] then
        let options ← inParentheses (commaSeparated (keyValue l))
        parse l n { s with properties := " WITH SERDEPROPERTIES " ++ parenthesised options }
      else return s

end Storage

/-- How the files of a table are stored, as text. -/
def storage (l : Level) : Parser String := do
  return (← Storage.parse l ((← get).length + 1) ⟨"", "", "", none⟩).render

/-! ## Options -/

/-- The word after an equals sign, without its quotes. -/
def equalsWord : Parser String := do
  expectSymbol "="
  match ← next with
  | .word text _ _ => return text
  | _ => unexpected

/-- The engine of a table, as text. -/
def engine? : Parser String := do
  let text ← afterKeyword? "ENGINE" do
    let name ← equalsWord
    let parameters ← columnList? false
    return " ENGINE=" ++ name ++ textIf (!parameters.isEmpty) (identList parameters)
  return text.getD ""

/-- The first value of a generated key, as text. -/
def autoIncrement? : Parser String := do
  let first ← afterKeyword? "AUTO_INCREMENT" do
    discard (symbol? "=")
    unsignedBelow (Nat.pow 2 32)
  return optional " AUTO_INCREMENT " (first.map toString)

/-- The order of the rows of a table, as text. -/
def tableOrder? (l : Level) : Parser String := do
  unless ← keywords? ["ORDER", "BY"] do return ""
  if ← symbol? "(" then
    let keys ← commaSeparatedUntil ")" l.expr
    expectSymbol ")"
    return " ORDER BY " ++ parenthesised (exprTexts keys)
  else return " ORDER BY " ++ (← l.expr).render

/-- What happens to the rows of a table at the end of a transaction, as text. -/
def onCommit? : Parser String := do
  unless ← keywords? ["ON", "COMMIT"] do return ""
  if ← keywords? ["DELETE", "ROWS"] then return " ON COMMIT DELETE ROWS"
  else if ← keywords? ["PRESERVE", "ROWS"] then return " ON COMMIT PRESERVE ROWS"
  else
    expectKeyword "DROP"
    return " ON COMMIT DROP"

/-- The comment on a table, as text. It is written as it is. -/
def tableComment? : Parser String := do
  let text ← afterKeyword? "COMMENT" do
    let equals ← symbol? "="
    match ← next with
    | .string .single text => return " COMMENT " ++ textIf equals "= " ++ "'" ++ text ++ "'"
    | _ => unexpected
  return text.getD ""

/-- The options after the columns of a table, which stand in a fixed order, as text. -/
def tableOptions (l : Level) : Parser String := do
  let rowid ← keywords? ["WITHOUT", "ROWID"]
  let partitioned ← partitionedBy? l
  let storage ← storage l
  let options ← optionsAfter? l "WITH"
  let properties ← optionsAfter? l "TBLPROPERTIES"
  let engine ← engine?
  let first ← autoIncrement?
  let order ← tableOrder? l
  let partition ← whenever (← onlyIf l.isPostgres (keywords? ["PARTITION", "BY"])) l.expr
  let charset ← whenever (← keywords? ["DEFAULT", "CHARSET"]) equalsWord
  let collate ← afterKeyword? "COLLATE" equalsWord
  let commit ← onCommit?
  let strict ← keyword? "STRICT"
  let comment ← tableComment?
  return textIf rowid " WITHOUT ROWID" ++ partitioned ++ storage ++ properties ++ options ++
    engine ++ comment ++ first ++ order ++ optional " PARTITION BY " (exprText? partition) ++
    optional " DEFAULT CHARSET=" charset ++ optional " COLLATE=" collate ++ commit ++
    textIf strict " STRICT"

/-! ## CREATE TABLE -/

/-- The name of another table after a keyword, if one of the keywords is next. -/
def otherTable? (ks : List String) : Parser (Option ObjectName) := do
  match ← oneOf? ks with
  | some _ => lenientName
  | none => return none

/-- A CREATE TABLE after its keywords; `opening` is its text before the word TABLE. -/
def createTable (l : Level) (opening : String) : Parser CreateTable := do
  let (ifNotExists, guard) ← ifNotExists?
  let name ← objectName
  let cluster ← onCluster?
  let like ← otherTable? ["LIKE", "ILIKE"]
  let clone ← otherTable? ["CLONE"]
  let (columns, constraints) ← tableElements? l
  let options ← tableOptions l
  let query ←
    if ← keyword? "AS" then pure (some (← l.query))
    else if l.isMysql ∧ (← peekKeyword) = "SELECT" then pure (some (← l.query))
    else pure none
  return {
    name, ifNotExists, columns, constraints, like, clone, options, query
    opening := opening ++ "TABLE" ++ guard
    cluster := optional " ON CLUSTER " (cluster.map Ident.render)
  }

/-- A CREATE EXTERNAL TABLE after its keywords; `opening` is its text before the word TABLE. -/
def createExternalTable (l : Level) (opening : String) : Parser CreateTable := do
  let (ifNotExists, guard) ← ifNotExists?
  let name ← objectName
  let (columns, constraints) ← tableElements? l
  let partitioned ← partitionedBy? l
  let storage ← storage l
  let properties ← optionsAfter? l "TBLPROPERTIES"
  return {
    name, ifNotExists, columns, constraints
    opening := opening ++ "TABLE" ++ guard
    cluster := ""
    like := none
    clone := none
    options := partitioned ++ storage ++ properties
    query := none
  }

end TypedSql.Sql.Grammar
