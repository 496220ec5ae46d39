import TypedSql.Sql.Grammar.Object
import TypedSql.Sql.Grammar.Rights
import TypedSql.Sql.Grammar.Session
import TypedSql.Sql.Grammar.Show
import TypedSql.Sql.Grammar.Upkeep
import TypedSql.Sql.Lexer

/-!
# Grammar of statements

Puts the grammars of the constructs together: a statement is recognised by its first keyword, and
constructs nest at most fifty deep.
-/

namespace TypedSql.Sql

namespace Grammar

/-- A statement after its first keyword, or nothing if no statement starts with the keyword. -/
def statementOf (l : Level) (keyword : String) : Parser Statement := do
  match keyword with
  | "INSERT" => insert l "INSERT"
  | "REPLACE" => if l.isMysql then insert l "REPLACE" else unexpected
  | "UPDATE" => return .update (← update l)
  | "DELETE" => return .delete (← delete l)
  | "CREATE" => create l
  | "ALTER" => alter l
  | "DROP" => drop l
  | "TRUNCATE" => truncate l
  | "DESC" | "DESCRIBE" | "EXPLAIN" => explain l keyword
  | "SET" => setVariable l
  | "SHOW" => showObjects l
  | "USE" => return .unmapped "Use" ("USE " ++ nameText (← objectName))
  | "START" =>
    expectKeyword "TRANSACTION"
    startTransaction "START TRANSACTION"
  | "BEGIN" => begin
  | "END" | "COMMIT" => commit keyword
  | "ROLLBACK" => rollback
  | "SAVEPOINT" => named "Savepoint" "SAVEPOINT"
  | "RELEASE" =>
    discard (keyword? "SAVEPOINT")
    named "ReleaseSavepoint" "RELEASE SAVEPOINT"
  | "CALL" => callStatement l
  | "EXECUTE" | "EXEC" => execute l
  | "PREPARE" => prepare l
  | "DEALLOCATE" => deallocate
  | "DECLARE" => declareCursor l
  | "FETCH" => fetchCursor
  | "CLOSE" => closeCursor
  | "GRANT" => grant
  | "REVOKE" => revoke
  | "COPY" => copy l
  | "MERGE" => merge l
  | "ANALYZE" => analyze l
  | "ATTACH" => attach l
  | "CACHE" => cache l
  | "UNCACHE" => uncache
  | "MSCK" => checkPartitions
  | "PRAGMA" => pragma
  | "UNLOAD" => unload l
  | "FLUSH" => if l.isMysql then flush else unexpected
  | "LOAD" => if l.isPostgres then named "Load" "LOAD" else unexpected
  | "COMMENT" => if l.isPostgres then comment l.dialect else unexpected
  | "LISTEN" => if l.isPostgres then named "LISTEN" "LISTEN" else unexpected
  | "UNLISTEN" => if l.isPostgres then unlisten else unexpected
  | "NOTIFY" => if l.isPostgres then notify l.dialect else unexpected
  | "DISCARD" =>
    let sort ← expectOneOf ["ALL", "PLANS", "SEQUENCES", "TEMP", "TEMPORARY"]
    return .unmapped "Discard" ("DISCARD " ++ sort)
  | "KILL" => kill
  | "ASSERT" => assertion l
  | _ => unexpected

/-- A statement. -/
def statement (l : Level) : Parser Statement := do
  if ← onlyIf l.isMysql (keywords? ["LOCK", "TABLES"]) then return ← lockTables
  if ← onlyIf l.isMysql (keywords? ["UNLOCK", "TABLES"]) then
    return .unmapped "UnlockTables" "UNLOCK TABLES"
  match ← peekKeyword with
  | "SELECT" | "WITH" | "VALUES" | "FROM" => return .query (← l.query)
  | keyword =>
    if ← peekSymbol "(" then return .query (← l.query)
    else
      discard next
      statementOf l keyword

/-- The parsers for what may nest `n` more constructs. -/
def level (d : Dialect) : Nat → Level
  | 0 => .bottom d
  | n + 1 =>
    let inner := level d n
    { dialect := d, subexpr := subexpr inner, query := query inner, statement := statement inner }

/-- The parsers at the outermost level. -/
def outermost (d : Dialect) : Level := level d 50

end Grammar

/-! ## Parsing -/

/-- Why a text is not one statement. -/
inductive ParseFailure where
  /-- The text cannot be cut into tokens. -/
  | tokens
  /-- The tokens are no statement. -/
  | grammar
  /-- The constructs nest too deeply. -/
  | depth
  deriving DecidableEq

/-- The failure that a refusal of the tokens means. -/
def ParseFailure.ofSyntaxError : SyntaxError → ParseFailure
  | .unexpected => .grammar
  | .tooDeep => .depth

/-- Runs a parser on the tokens of a text, gaps left out. -/
def parseWith {α : Type} (d : Dialect) (p : Parser α) (text : String) :
    Except ParseFailure (α × List Token) := do
  match tokens d text with
  | .error _ => throw .tokens
  | .ok ts =>
    match p (ts.filter fun t => !t.isGap) with
    | .ok r => return r
    | .error e => throw (.ofSyntaxError e)

/-- The one statement that a text is. -/
def parseStatement (d : Dialect) (text : String) : Except ParseFailure Statement := do
  let n := text.length + 1
  match ← parseWith d ((Grammar.outermost d).statements n) text with
  | ([s], _) => return s
  | _ => throw .grammar

/-- The data type at the front of a text. -/
def parseDataType (d : Dialect) (text : String) : Except ParseFailure DataType := do
  return (← parseWith d (Grammar.dataType d) text).1

end TypedSql.Sql
