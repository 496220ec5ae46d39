import TypedSql.Sql.Grammar.Basic
import TypedSql.Sql.Printer

/-!
# Levels of nesting

Statements, queries and expressions contain each other, up to a fixed depth. A `Level` holds the
parsers for what stands one step further inside; the grammar of each construct is a function of the
level below it.
-/

namespace TypedSql.Sql

/-- The parsers for what is nested inside a construct. `subexpr p` reads an expression made of
operators that bind tighter than `p`. -/
structure Level where
  dialect : Dialect
  subexpr : Nat → Parser Expr
  query : Parser Query
  statement : Parser Statement

namespace Level

/-- The level at which nothing may be nested any more. -/
def bottom (d : Dialect) : Level where
  dialect := d
  subexpr _ := throw .tooDeep
  query := throw .tooDeep
  statement := throw .tooDeep

/-- An expression. -/
def expr (l : Level) : Parser Expr := l.subexpr 0

/-- Whether the dialect is MySQL. -/
def isMysql (l : Level) : Bool := l.dialect = .mysql

/-- Whether the dialect is PostgreSQL. -/
def isPostgres (l : Level) : Bool := l.dialect = .postgres

/-- One or more expressions with commas between them. -/
def exprs (l : Level) : Parser (List Expr) := commaSeparated l.expr

/-- Whether a query starts here. -/
def queryAhead : Parser Bool := do
  let k ← peekKeyword
  return k = "SELECT" || k = "WITH"

/-- A sort key with its direction. -/
def orderItem (l : Level) : Parser OrderItem := do
  let key ← l.expr
  let direction ←
    match ← oneOf? ["ASC", "DESC"] with
    | some k => pure (" " ++ k)
    | none => pure ""
  let nulls ←
    if ← keywords? ["NULLS", "FIRST"] then pure " NULLS FIRST"
    else if ← keywords? ["NULLS", "LAST"] then pure " NULLS LAST"
    else pure ""
  return ⟨key, direction ++ nulls⟩

/-- The sort keys after `ORDER BY`, if it is next. -/
def orderBy? (l : Level) : Parser (List OrderItem) := do
  if ← keywords? ["ORDER", "BY"] then commaSeparated l.orderItem else return []

/-- Statements with semicolons between them, at most `n`. The word END after a statement ends the
list. -/
def statements (l : Level) : Nat → Parser (List Statement)
  | 0 => unexpected
  | n + 1 => do
    let ts ← get
    set (ts.dropWhile (· = .symbol ";"))
    if (← get).isEmpty then return []
    let s ← l.statement
    match ← peek? with
    | none => return [s]
    | some t =>
      if t.keyword = "END" then return [s]
      else if t = .symbol ";" then return s :: (← statements l n)
      else unexpected

end Level

/-- A value or a star. -/
inductive Starred where
  | star
  | qualifiedStar (name : ObjectName)
  | value (value : Expr)

namespace Starred

/-- The parts of a name before a star, at most `n`, if a star ends it. -/
def nameParts : Nat → ObjectName → Parser (Option ObjectName)
  | 0, _ => unexpected
  | n + 1, parts => do
    unless ← symbol? "." do return none
    match ← next with
    | .symbol "*" => return some parts
    | .word text _ quote => nameParts n (parts ++ [⟨text, quote⟩])
    | .string .single text => nameParts n (parts ++ [⟨text, some '\''⟩])
    | _ => unexpected

/-- A star, perhaps after a name, or an expression. -/
def parse (l : Level) : Parser Starred := do
  let before ← get
  let qualified (first : Ident) : Parser Starred := do
    match ← nameParts before.length [first] with
    | some name => return .qualifiedStar name
    | none =>
      set before
      return .value (← l.expr)
  match ← next? with
  | some (.symbol "*") => return .star
  | some (.word text _ quote) => qualified ⟨text, quote⟩
  | some (.string .single text) => qualified ⟨text, some '\''⟩
  | _ =>
    set before
    return .value (← l.expr)

end Starred

end TypedSql.Sql
