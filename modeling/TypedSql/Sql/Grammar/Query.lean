import TypedSql.Sql.Grammar.Manipulation

/-!
# Grammar of queries

The body of a query, made of SELECTs and set operators, and the clauses around it.
-/

namespace TypedSql.Sql.Grammar

/-! ## Bodies -/

/-- The rows of a VALUES list. In MySQL a row may be empty. -/
def valuesBody (l : Level) : Parser SetExpr := do
  let rows ← commaSeparated do
    let explicit ← keyword? "ROW"
    let items ← inParentheses do
      if ← onlyIf l.isMysql (peekSymbol ")") then return [] else l.exprs
    return (explicit, items)
  return .values (rows.any Prod.fst) (rows.map Prod.snd)

/-- A table in place of a query, after its keyword. The word after the name is taken even where no
period comes between. -/
def tableBody : Parser SetExpr := do
  let first ← next
  let second ← next?
  let third ← next?
  match first, second, third with
  | .word schema _ _, some (.symbol "."), some (.word table _ _) =>
    return .unmapped "Table" ("TABLE " ++ schema ++ "." ++ table)
  | _, some (.symbol "."), _ => unexpected
  | .word table _ _, _, _ => return .unmapped "Table" ("TABLE " ++ table)
  | _, _, _ => unexpected

/-- A body without set operators. -/
def bodyStart (l : Level) : Parser SetExpr := do
  if ← keyword? "SELECT" then return .select (← select l)
  else if ← symbol? "(" then
    let query ← l.query
    expectSymbol ")"
    return .query query
  else if ← keyword? "VALUES" then valuesBody l
  else if ← keyword? "TABLE" then tableBody
  else unexpected

/-- The quantifier after a set operator. -/
def quantifier : Parser String := do
  if ← keywords? ["DISTINCT", "BY", "NAME"] then return "DISTINCT BY NAME"
  else if ← keywords? ["BY", "NAME"] then return "BY NAME"
  else if ← keyword? "ALL" then
    if ← keywords? ["BY", "NAME"] then return "ALL BY NAME" else return "ALL"
  else if ← keyword? "DISTINCT" then return "DISTINCT"
  else return ""

/-- How tightly set operators bind: INTERSECT binds tighter than the other two. -/
def setRank : SetOperator → Nat
  | .intersect => 2
  | _ => 1

/-- The set operators after a body, at most `n`, that bind tighter than `rank`; `right` reads the
right side of an operator of a given rank. -/
def setOperations (right : Nat → Parser SetExpr) (rank : Nat) : Nat → SetExpr → Parser SetExpr
  | 0, body => return body
  | n + 1, body => do
    let op := match ← peekKeyword with
      | "UNION" => some SetOperator.union
      | "EXCEPT" => some .except
      | "INTERSECT" => some .intersect
      | _ => none
    match op with
    | none => return body
    | some op =>
      if setRank op ≤ rank then return body
      else
        discard next
        let quantifier ← quantifier
        let right' ← right (setRank op)
        setOperations right rank n (.operation op quantifier body right')

/-- A body made of set operators that bind tighter than `rank`. As the right side of an operator
binds tighter than the operator, sides nest at most `n` deep. -/
def bodyAtMost (l : Level) : Nat → Nat → Parser SetExpr
  | 0, _ => unexpected
  | n + 1, rank => do
    let start ← bodyStart l
    setOperations (bodyAtMost l n) rank (← get).length start

/-- The body of a query. -/
def body (l : Level) : Parser SetExpr := bodyAtMost l 3 0

/-! ## Clauses around a body -/

/-- A named query of a WITH clause. -/
def cte (l : Level) : Parser Cte := do
  let name ← identifier
  let columns ← tableAlias?.tableColumns l
  expectKeyword "AS"
  let materialized ←
    if ← onlyIf l.isPostgres (keyword? "MATERIALIZED") then pure "MATERIALIZED "
    else if ← onlyIf l.isPostgres (keywords? ["NOT", "MATERIALIZED"]) then pure "NOT MATERIALIZED "
    else pure ""
  let query ← inParentheses l.query
  let source ← afterKeyword? "FROM" identifier
  return ⟨⟨name, columns⟩, materialized, query, optional " FROM " (source.map Ident.render)⟩

/-- The limit and the offset, in either order, with the text after the offset. With a comma, the
first number is the offset. -/
def limitAndOffset (l : Level) : Parser (Option Expr × Option Expr × String) := do
  let limit : Parser (Option Expr) := do return (← afterKeyword? "LIMIT" (limitCount l)).join
  let offset : Parser (Option (Expr × String)) := afterKeyword? "OFFSET" do
    let value ← l.expr
    return (value, optional " " (← oneOf? ["ROW", "ROWS"]))
  let comma (count : Option Expr) (skipped : Option (Expr × String)) :
      Parser (Option Expr × Option (Expr × String)) := do
    match count, skipped with
    | some first, none =>
      if ← onlyIf l.isMysql (symbol? ",") then return (some (← l.expr), some (first, ""))
      else return (count, skipped)
    | _, _ => return (count, skipped)
  let count ← limit
  let skipped ← offset
  let (count, skipped) ← comma count skipped
  let count ← if count.isNone then limit else pure count
  let skipped ← if skipped.isNone then offset else pure skipped
  let (count, skipped) ← comma count skipped
  return (count, skipped.map Prod.fst, (skipped.map Prod.snd).getD "")

/-- A FETCH clause after its keyword: the number of rows and the text after it. -/
def fetch : Parser (Option Expr × String) := do
  discard (expectOneOf ["FIRST", "NEXT"])
  let (quantity, percent) ←
    match ← oneOf? ["ROW", "ROWS"] with
    | some _ => pure (none, false)
    | none => do
      let quantity ← literal
      let percent ← keyword? "PERCENT"
      discard (expectOneOf ["ROW", "ROWS"])
      pure (some (Expr.literal quantity), percent)
  let ties ←
    if ← keyword? "ONLY" then pure false
    else do
      expectKeywords ["WITH", "TIES"]
      pure true
  return (quantity, textIf percent " PERCENT" ++ textIf quantity.isSome " " ++ "ROWS " ++
    if ties then "WITH TIES" else "ONLY")

/-- A locking clause after `FOR`, as text. -/
def lock : Parser String := do
  let strength ← expectOneOf ["UPDATE", "SHARE"]
  let table ← afterKeyword? "OF" objectName
  let patience ←
    if ← keyword? "NOWAIT" then pure " NOWAIT"
    else if ← keywords? ["SKIP", "LOCKED"] then pure " SKIP LOCKED"
    else pure ""
  return " FOR " ++ strength ++ optional " OF " (table.map nameText) ++ patience

/-- A string in parentheses after a word, as text. The string is written as it is. -/
def rawArgument (d : Dialect) (word : String) : Parser String := do
  return word ++ "('" ++ (← inParentheses (stringLiteral d)) ++ "')"

/-- A word that may have a string in parentheses after it, as text. -/
def optionalArgument (d : Dialect) (word : String) : Parser String := do
  if ← peekSymbol "(" then rawArgument d word else return word

/-- The options after the mode of an output format, as text. A comma may stand without an option,
and of several roots the last one counts. -/
def formatOptions (d : Dialect) (flags : List (List String)) : Parser String := do
  let options ← repeated do
    whenever (← symbol? ",") do
      if ← keyword? "ROOT" then return (none, some (← rawArgument d "ROOT"))
      let k ← peekKeyword
      match flags.find? (·.head? = some k) with
      | some flag =>
        expectKeywords flag
        return (some (separated " " flag), none)
      | none => return (none, none)
  let flags := (options.filterMap Prod.fst).eraseDups
  let root := (options.filterMap Prod.snd).getLast?
  return String.join ((flags ++ root.toList).map (", " ++ ·))

/-- The format in which a query answers, after `FOR`, as text, if one is asked for. -/
def outputFormat? (d : Dialect) : Parser (Option String) := do
  match ← oneOf? ["XML", "JSON", "BROWSE"] with
  | none => return none
  | some "XML" =>
    let mode ←
      match ← expectOneOf ["RAW", "AUTO", "EXPLICIT", "PATH"] with
      | "RAW" => optionalArgument d "RAW"
      | "PATH" => optionalArgument d "PATH"
      | mode => pure mode
    let options ← formatOptions d [["ELEMENTS"], ["BINARY", "BASE64"], ["TYPE"]]
    return some (" FOR XML " ++ mode ++ options)
  | some "JSON" =>
    let mode ← expectOneOf ["AUTO", "PATH"]
    let options ← formatOptions d [["INCLUDE_NULL_VALUES"], ["WITHOUT_ARRAY_WRAPPER"]]
    return some (" FOR JSON " ++ mode ++ options)
  | some _ => return some " FOR BROWSE"

/-- The clauses after `FOR` at the end of a query, at most `n`, as text. An output format is the
last of them. -/
def forClauses (d : Dialect) : Nat → Parser String
  | 0 => return ""
  | n + 1 => do
    unless ← keyword? "FOR" do return ""
    match ← outputFormat? d with
    | some format => return format
    | none => return (← lock) ++ (← forClauses d n)

/-! ## Queries -/

/-- A query with nothing but a WITH clause around its body. -/
def plainQuery (recursive : Bool) (ctes : List Cte) (body : SetExpr) : Query :=
  ⟨recursive, ctes, body, [], none, none, "", none, none, ""⟩

/-- A query. After a WITH clause its body may also change data. -/
def query (l : Level) : Parser Query := do
  let (recursive, ctes) ←
    if ← keyword? "WITH" then do
      let recursive ← keyword? "RECURSIVE"
      pure (recursive, ← commaSeparated (cte l))
    else pure (false, [])
  if ← keyword? "INSERT" then
    return plainQuery recursive ctes (.unmapped "Insert" (← insert l "INSERT").render)
  else if ← keyword? "UPDATE" then
    return plainQuery recursive ctes (.unmapped "Update" (← update l).render)
  else
    let body ← body l
    let orderBy ← l.orderBy?
    let (limit, offset, rows) ← limitAndOffset l
    let fetched ← afterKeyword? "FETCH" fetch
    let tail ← forClauses l.dialect (← get).length
    return ⟨recursive, ctes, body, orderBy, limit, offset, rows, fetched.map Prod.snd,
      fetched.bind Prod.fst, tail⟩

end TypedSql.Sql.Grammar
