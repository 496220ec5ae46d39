import TypedSql.Sql.Grammar.Expr

/-!
# Grammar of table references

The tables of a FROM clause: names, derived tables, functions and joins. Joins in parentheses nest
without bound.
-/

namespace TypedSql.Sql.Grammar

/-! ## Aliases -/

/-- The alias of a table, perhaps with names and types for its columns. -/
def tableAlias? (l : Level) : Parser (Option TableAlias) := do
  match ← alias? reservedForTableAlias with
  | none => return none
  | some name => return some ⟨name, ← tableColumns l⟩
where
  /-- The list of columns after an alias, as text. -/
  tableColumns (l : Level) : Parser String := do
    let columns ← whenever (← symbol? "(") do
      let columns ← commaSeparated do
        let name ← identifier
        let type ← attempt (dataType l.dialect)
        return name.render ++ optional " " (type.map DataType.render)
      expectSymbol ")"
      return " " ++ parenthesised columns
    return columns.getD ""

/-! ## Joins -/

/-- The condition of a join that may have one. -/
def joinCondition (l : Level) (natural : Bool) : Parser (SharedColumns × Option Expr) := do
  if natural then return (.natural, none)
  else if ← keyword? "ON" then return (.none, some (← l.expr))
  else if ← keyword? "USING" then return (.using (← columnList false), none)
  else return (.none, none)

/-- The kind of a join that takes a condition, if one starts here. -/
def joinKind? : Parser (Option JoinKind) := do
  match ← oneOf? ["INNER", "JOIN", "LEFT", "RIGHT", "FULL", "SEMI", "ANTI", "OUTER"] with
  | some "JOIN" => return some .inner
  | some "INNER" =>
    expectKeyword "JOIN"
    return some .inner
  | some "FULL" =>
    discard (keyword? "OUTER")
    expectKeyword "JOIN"
    return some .full
  | some "SEMI" =>
    expectKeyword "JOIN"
    return some .semi
  | some "ANTI" =>
    expectKeyword "JOIN"
    return some .anti
  | some "OUTER" => unexpected
  | some side =>
    let left := side = "LEFT"
    match ← expectOneOf ["OUTER", "SEMI", "ANTI", "JOIN"] with
    | "SEMI" =>
      expectKeyword "JOIN"
      return some (if left then .leftSemi else .rightSemi)
    | "ANTI" =>
      expectKeyword "JOIN"
      return some (if left then .leftAnti else .rightAnti)
    | "OUTER" =>
      expectKeyword "JOIN"
      return some (if left then .left else .right)
    | _ => return some (if left then .left else .right)
  | none => return none

/-- A join, if one starts here. -/
def join? (l : Level) (factor : Parser TableFactor) : Parser (Option Join) := do
  let everywhere ← keyword? "GLOBAL"
  if ← keyword? "CROSS" then
    let kind := if (← expectOneOf ["JOIN", "APPLY"]) = "JOIN" then JoinKind.cross else .crossApply
    return some ⟨everywhere, kind, ← factor, .none, none⟩
  else if ← keyword? "OUTER" then
    expectKeyword "APPLY"
    return some ⟨everywhere, .outerApply, ← factor, .none, none⟩
  else if ← keyword? "ASOF" then
    expectKeyword "JOIN"
    let relation ← factor
    expectKeyword "MATCH_CONDITION"
    let condition ← inParentheses l.expr
    let (shared, on) ← joinCondition l false
    return some ⟨everywhere, .nearest condition.render, relation, shared, on⟩
  else
    let natural ← keyword? "NATURAL"
    match ← joinKind? with
    | some kind =>
      let relation ← factor
      let (shared, on) ← joinCondition l natural
      return some ⟨everywhere, kind, relation, shared, on⟩
    | none => if natural then unexpected else return none

/-- A table reference with its joins. -/
def tableWithJoinsOf (l : Level) (factor : Parser TableFactor) : Parser TableWithJoins := do
  let relation ← factor
  return ⟨relation, ← repeated (join? l factor)⟩

/-! ## Functions in place of tables -/

/-- What a column of a JSON table holds when its value is missing (`EMPTY`) or faulty (`ERROR`):
which of the two, and what stands in for the value. -/
def jsonFallback? : Parser (Option (String × String)) := do
  match ← oneOf? ["NULL", "ERROR", "DEFAULT"] with
  | none => return none
  | some k =>
    let value ← if k = "DEFAULT" then pure (" " ++ (← literal).render) else pure ""
    expectKeyword "ON"
    return some (← expectOneOf ["EMPTY", "ERROR"], k ++ value)

/-- Fallbacks in print: the last one given for each case, missing values first. -/
def jsonFallbackText (fallbacks : List (String × String)) : String :=
  String.join <| ["EMPTY", "ERROR"].map fun event =>
    match fallbacks.reverse.lookup event with
    | some value => " " ++ value ++ " ON " ++ event
    | none => ""

/-- A column of a JSON table; nested columns go at most `n` deep. -/
def jsonColumn (l : Level) : Nat → Parser String
  | 0 => unexpected
  | n + 1 => do
    if ← keyword? "NESTED" then
      discard (keyword? "PATH")
      let path ← literal
      expectKeyword "COLUMNS"
      let columns ← inParentheses (commaSeparated (jsonColumn l n))
      return "NESTED PATH " ++ path.render ++ " COLUMNS " ++ parenthesised columns
    let name ← identifier
    if ← keyword? "FOR" then
      expectKeyword "ORDINALITY"
      return name.render ++ " FOR ORDINALITY"
    let type ← dataType l.dialect
    let present ← keyword? "EXISTS"
    expectKeyword "PATH"
    let path ← literal
    let fallbacks ← repeated jsonFallback?
    return name.render ++ " " ++ type.render ++ textIf present " EXISTS" ++ " PATH " ++
      path.render ++ jsonFallbackText fallbacks

/-- A JSON table after its opening parenthesis. -/
def jsonTable (l : Level) : Parser TableFactor := do
  let source ← l.expr
  expectSymbol ","
  let path ← literal
  expectKeyword "COLUMNS"
  let columns ← inParentheses (commaSeparated (jsonColumn l ((← get).length + 1)))
  expectSymbol ")"
  let tableAlias ← tableAlias? l
  return .unmapped "JsonTable" ("JSON_TABLE(" ++ source.render ++ ", " ++ path.render ++
    " COLUMNS" ++ parenthesised columns ++ ")" ++ aliasText tableAlias)

/-- A table read from a JSON text, after its opening parenthesis. -/
def openJsonTable (l : Level) : Parser TableFactor := do
  let source ← l.expr
  let path ← whenever (← symbol? ",") literal
  expectSymbol ")"
  let columns ← afterKeyword? "WITH" <| inParentheses <| commaSeparated do
    let name ← identifier
    let type ← dataType l.dialect
    let path ←
      match ← peek? with
      | some (.string .single text) =>
        discard next
        pure (" " ++ betweenQuotes '\'' text)
      | _ => pure ""
    return name.render ++ " " ++ type.render ++ path ++
      textIf (← keywords? ["AS", "JSON"]) " AS JSON"
  let tableAlias ← tableAlias? l
  return .unmapped "OpenJsonTable" ("OPENJSON(" ++ source.render ++
    optional ", " (path.map Literal.render) ++ ")" ++
    optional " WITH " (columns.map parenthesised) ++ aliasText tableAlias)

/-- The unnested arrays after their keyword. -/
def unnest (l : Level) : Parser TableFactor := do
  let arrays ← inParentheses l.exprs
  let ordinality ← keywords? ["WITH", "ORDINALITY"]
  let tableAlias ← tableAlias? l
  let offset ←
    if ← keyword? "WITH" then
      if ← keyword? "OFFSET" then
        let name ← alias? reservedForColumnAlias
        pure (" WITH OFFSET" ++ optional " AS " (name.map Ident.render))
      else pure ""
    else pure ""
  return .unmapped "UNNEST" ("UNNEST" ++ parenthesised (exprTexts arrays) ++
    textIf ordinality " WITH ORDINALITY" ++ aliasText tableAlias ++ offset)

/-- Arguments of a function in place of a table, after the opening parenthesis. -/
def tableArguments (l : Level) : Parser String := do
  if ← symbol? ")" then return "()"
  let items ← commaSeparated (argument l)
  expectSymbol ")"
  return parenthesised (argumentTexts items)

/-! ## Pivots -/

/-- A call with an alias, for a pivot. -/
def aliasedCall (l : Level) : Parser String := do
  match ← next with
  | .word text _ _ =>
    let e ← call l (interval l (primary l (← get).length)) false [⟨text, none⟩]
    let tableAlias ← afterKeyword? "AS" identifier
    return e.render ++ optional " AS " (tableAlias.map Ident.render)
  | _ => unexpected

/-- The values that a pivot turns into columns. -/
def pivotValues (l : Level) : Parser String := do
  if ← keyword? "ANY" then
    let keys ← l.orderBy?
    return "ANY" ++ textIf (!keys.isEmpty) (" ORDER BY " ++ commas (orderTexts keys))
  else if ← Level.queryAhead then return (← l.query).render
  else
    let items ← commaSeparated do
      let e ← l.expr
      let tableAlias ← afterKeyword? "AS" identifier
      return e.render ++ optional " AS " (tableAlias.map Ident.render)
    return commas items

/-- A table turned by a pivot, after its keyword. -/
def pivot (l : Level) (table : TableFactor) : Parser TableFactor := do
  expectSymbol "("
  let calls ← commaSeparated (aliasedCall l)
  expectKeyword "FOR"
  let column ← objectName
  expectKeyword "IN"
  let values ← inParentheses (pivotValues l)
  let default ← whenever (← keywords? ["DEFAULT", "ON", "NULL"]) (inParentheses l.expr)
  expectSymbol ")"
  let tableAlias ← tableAlias? l
  return .unmapped "Pivot" (table.render ++ " PIVOT(" ++ commas calls ++ " FOR " ++
    nameText column ++ " IN (" ++ values ++ ")" ++
    optional " DEFAULT ON NULL " (default.map fun e => "(" ++ e.render ++ ")") ++ ")" ++
    aliasText tableAlias)

/-- A table turned back by an unpivot, after its keyword. -/
def unpivot (l : Level) (table : TableFactor) : Parser TableFactor := do
  expectSymbol "("
  let value ← identifier
  expectKeyword "FOR"
  let name ← identifier
  expectKeyword "IN"
  let columns ← columnList false
  expectSymbol ")"
  let tableAlias ← tableAlias? l
  return .unmapped "Unpivot" (table.render ++ " UNPIVOT(" ++ value.render ++ " FOR " ++
    name.render ++ " IN " ++ parenthesised (columns.map Ident.render) ++ ")" ++
    aliasText tableAlias)

/-- The pivots after a table, at most `n`. -/
def pivots (l : Level) : Nat → TableFactor → Parser TableFactor
  | 0, table => return table
  | n + 1, table => do
    match ← oneOf? ["PIVOT", "UNPIVOT"] with
    | some "PIVOT" => pivots l n (← pivot l table)
    | some _ => pivots l n (← unpivot l table)
    | none => return table

/-- The pivots after a table. -/
def pivoted (l : Level) (table : TableFactor) : Parser TableFactor := do
  pivots l (← get).length table

/-! ## Table references -/

/-- A query after its opening parenthesis, in place of a table. -/
def derivedTable (l : Level) (lateral : Bool) : Parser TableFactor := do
  let query ← l.query
  expectSymbol ")"
  return .derived lateral query (← tableAlias? l)

/-- A table by name, or a function. -/
def namedTable (l : Level) : Parser TableFactor := do
  let name ← objectName
  let partitions ←
    if ← onlyIf l.isMysql (keyword? "PARTITION") then do
      let names ← inParentheses (commaSeparated identifier)
      pure ("PARTITION " ++ parenthesised (names.map Ident.render))
    else pure ""
  let arguments ← whenever (← symbol? "(") (tableArguments l)
  let ordinality ← keywords? ["WITH", "ORDINALITY"]
  let tableAlias ← tableAlias? l
  let beforeHints ← get
  let hints ←
    if ← keyword? "WITH" then
      if ← symbol? "(" then do
        let hints ← l.exprs
        expectSymbol ")"
        pure (" WITH " ++ parenthesised (exprTexts hints))
      else do
        set beforeHints
        pure ""
    else pure ""
  pivoted l (.table name (partitions ++ arguments.getD "" ++ textIf ordinality " WITH ORDINALITY")
    tableAlias hints)

/-- A table reference; parentheses around joins nest at most `n` deep. -/
def tableFactorAtMost (l : Level) : Nat → Parser TableFactor
  | 0 => unexpected
  | n + 1 => do
    if ← keyword? "LATERAL" then
      if ← symbol? "(" then derivedTable l true
      else
        let name ← objectName
        expectSymbol "("
        let arguments ← tableArguments l
        let tableAlias ← tableAlias? l
        return .unmapped "Function"
          ("LATERAL " ++ nameText name ++ arguments ++ aliasText tableAlias)
    else if ← keyword? "TABLE" then
      let e ← inParentheses l.expr
      let tableAlias ← tableAlias? l
      return .unmapped "TableFunction" ("TABLE(" ++ e.render ++ ")" ++ aliasText tableAlias)
    else if ← symbol? "(" then
      -- A parenthesis holds a query, or else joins.
      match ← attempt (derivedTable l false) with
      | some table => pivoted l table
      | none =>
        let inner ← tableWithJoinsOf l (tableFactorAtMost l n)
        match inner with
        | ⟨.nestedJoin .., _⟩ | ⟨_, _ :: _⟩ =>
          expectSymbol ")"
          return .nestedJoin inner (← tableAlias? l)
        | _ => unexpected
    else if ← onlyIf l.isPostgres (keyword? "UNNEST") then unnest l
    else
      let before ← get
      let word ← oneOf? ["JSON_TABLE", "OPENJSON"]
      let opened ← symbol? "("
      match word, opened with
      | some "JSON_TABLE", true => jsonTable l
      | some "OPENJSON", true => openJsonTable l
      | _, _ =>
        set before
        namedTable l

/-- A table reference. -/
def tableFactor (l : Level) : Parser TableFactor := do
  tableFactorAtMost l ((← get).length + 1)

/-- A table reference with its joins. -/
def tableWithJoins (l : Level) : Parser TableWithJoins := tableWithJoinsOf l (tableFactor l)

end TypedSql.Sql.Grammar
