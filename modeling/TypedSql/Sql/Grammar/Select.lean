import TypedSql.Sql.Grammar.Table

/-!
# Grammar of SELECT

Select lists, grouping, named windows and the SELECT itself.
-/

namespace TypedSql.Sql.Grammar

/-- An entry of a select list. The word FROM is no expression here. -/
def selectItem (l : Level) : Parser SelectItem := do
  match ← Starred.parse l with
  | .star => return .star
  | .qualifiedStar name => return .qualifiedStar name
  | .value e =>
    match e with
    | .column ⟨text, none⟩ [] => if text.toLower = "from" then unexpected
    | _ => pure ()
    match ← alias? reservedForColumnAlias with
    | some aliasName => return .aliased e aliasName
    | none => return .value e

/-- A list of expressions in parentheses; without parentheses a single one if `single` allows. -/
def groupingSet (l : Level) (single : Bool) : Parser (List Expr) := do
  if ← symbol? "(" then
    if ← symbol? ")" then return []
    let items ← l.exprs
    expectSymbol ")"
    return items
  else if single then return [← l.expr]
  else unexpected

/-- The sets of a CUBE or ROLLUP, as text. -/
def groupingSets (l : Level) (kind word : String) (single : Bool) : Parser Expr := do
  let sets ← inParentheses (commaSeparated (groupingSet l single))
  let text (set : List Expr) : String :=
    match exprTexts set with
    | [t] => if single then t else parenthesised [t]
    | ts => parenthesised ts
  return .unmapped kind (word ++ " " ++ parenthesised (sets.map text))

/-- A key of a GROUP BY clause. -/
def groupKey (l : Level) : Parser Expr := do
  if l.isMysql then l.expr
  else if ← keywords? ["GROUPING", "SETS"] then groupingSets l "GroupingSets" "GROUPING SETS" false
  else if ← keyword? "CUBE" then groupingSets l "Cube" "CUBE" true
  else if ← keyword? "ROLLUP" then groupingSets l "Rollup" "ROLLUP" true
  else
    let before ← get
    if ← allOf [symbol? "(", symbol? ")"] then return .unmapped "Tuple" "()"
    set before
    l.expr

/-- A named window. -/
def namedWindow (l : Level) : Parser WindowSpec := do
  let name ← identifier
  expectKeyword "AS"
  expectSymbol "("
  windowSpec l (interval l (primary l ((← get).length + 1))) (some name)

/-- A TOP clause, as text. -/
def top? (l : Level) : Parser (Option String) := afterKeyword? "TOP" do
  let quantity ←
    if ← symbol? "(" then do
      let e ← l.expr
      expectSymbol ")"
      pure ("(" ++ e.render ++ ")")
    else pure (toString (← unsigned))
  let percent ← keyword? "PERCENT"
  let ties ← keywords? ["WITH", "TIES"]
  return "TOP " ++ quantity ++ textIf percent " PERCENT" ++ textIf ties " WITH TIES"

/-- The table that the rows of a SELECT go into, as text. -/
def into? : Parser String := do
  let text ← afterKeyword? "INTO" do
    let temporary ← oneOf? ["TEMP", "TEMPORARY"]
    let unlogged ← keyword? "UNLOGGED"
    let table ← keyword? "TABLE"
    let name ← objectName
    return " INTO " ++ textIf temporary.isSome "TEMPORARY " ++ textIf unlogged "UNLOGGED " ++
      textIf table "TABLE " ++ nameText name
  return text.getD ""

/-- A lateral view, as text, if one starts here. -/
def lateralView? (l : Level) : Parser (Option String) := do
  whenever (← keywords? ["LATERAL", "VIEW"]) do
    let outer ← keyword? "OUTER"
    let e ← l.expr
    let name ← objectName
    let aliases ← commaSeparated (alias? ["WHERE", "GROUP", "CLUSTER", "HAVING", "LATERAL"])
    let aliases := aliases.filterMap id
    return " LATERAL VIEW " ++ textIf outer "OUTER " ++ e.render ++ " " ++ nameText name ++
      textIf (!aliases.isEmpty) (" AS " ++ commas (aliases.map Ident.render))

/-- What DISTINCT compares, with the expressions after ON. -/
def distinct (l : Level) : Parser (Distinct × List Expr) := do
  let all ← keyword? "ALL"
  unless ← keyword? "DISTINCT" do return (.no, [])
  if all then unexpected
  unless ← keyword? "ON" do return (.row, [])
  let keys ← inParentheses (commaSeparatedUntil ")" l.expr)
  return (.on, keys)

/-- A list of expressions after two keywords, as text, if they are next. -/
def clustering? (l : Level) (first second : String) : Parser String := do
  if ← keywords? [first, second] then
    return " " ++ first ++ " " ++ second ++ " " ++ commas (exprTexts (← l.exprs))
  else return ""

/-- The named windows and the QUALIFY condition, which come in any order. -/
def windowsAndQualify (l : Level) : Parser (List WindowSpec × Bool × Option String) := do
  let windows := commaSeparated (namedWindow l)
  let condition : Parser String := do return (← l.expr).render
  if ← keyword? "WINDOW" then
    let windows ← windows
    return (windows, true, ← afterKeyword? "QUALIFY" condition)
  else if ← keyword? "QUALIFY" then
    let qualify ← condition
    return ((← afterKeyword? "WINDOW" windows).getD [], false, some qualify)
  else return ([], false, none)

/-- A SELECT after its keyword. -/
def select (l : Level) : Parser Select := do
  let (distinct, distinctOn) ← distinct l
  let top ← top? l
  let projection ← commaSeparated (selectItem l)
  let into ← into?
  let source ← afterKeyword? "FROM" (commaSeparated (tableWithJoins l))
  let lateralViews ← repeated (lateralView? l)
  let condition ← afterKeyword? "WHERE" l.expr
  let groupAll ←
    if ← keywords? ["GROUP", "BY"] then pure (some (← keyword? "ALL")) else pure none
  let groupBy ← if groupAll = some false then commaSeparated (groupKey l) else pure []
  let cluster ← clustering? l "CLUSTER" "BY"
  let distribute ← clustering? l "DISTRIBUTE" "BY"
  let sort ← clustering? l "SORT" "BY"
  let having ← afterKeyword? "HAVING" l.expr
  let (windows, windowFirst, qualify) ← windowsAndQualify l
  return {
    distinct, distinctOn, top, projection, into, lateralViews, condition, groupBy, having,
    windows, windowFirst, qualify
    source := source.getD []
    groupAll := groupAll = some true
    clustering := cluster ++ distribute ++ sort
  }

end TypedSql.Sql.Grammar
