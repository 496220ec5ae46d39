import TypedSql.Sql.Grammar.Level

/-!
# Grammar of calls

Function calls with their arguments, the clauses between and after the parentheses, and windows.
-/

namespace TypedSql.Sql.Grammar

/-! ## Arguments -/

/-- An argument after its label. -/
def labelledArgument (label : String) : Starred → Argument
  | .star => .star (label ++ "*")
  | .qualifiedStar name => .star (label ++ nameText name ++ ".*")
  | .value value => .value label value

/-- The mark between the name and the value of an argument. -/
def argumentMark (l : Level) : Parser String := do
  if ← keyword? "VALUE" then return "VALUE"
  else if ← symbol? "=>" then return "=>"
  else if ← onlyIf l.isPostgres (symbol? ":") then return ":"
  else unexpected

/-- A named argument, if there is one. In PostgreSQL any expression serves as its name. -/
def namedArgument? (l : Level) : Parser (Option Argument) :=
  match l.dialect with
  | .postgres => attempt do
    let name ← l.expr
    let mark ← argumentMark l
    match labelledArgument (name.render ++ " " ++ mark ++ " ") (← Starred.parse l) with
    | .value label value => return .labelled (label ++ value.render)
    | .star text | .labelled text => return .labelled text
  | .mysql => attempt do
    let name ← identifier
    let mark ← argumentMark l
    return labelledArgument (name.render ++ " " ++ mark ++ " ") (← Starred.parse l)

/-- An argument of a call. -/
def argument (l : Level) : Parser Argument := do
  match ← namedArgument? l with
  | some a => return a
  | none => return labelledArgument "" (← Starred.parse l)

/-- How a call treats nulls. -/
def nullTreatment? : Parser (Option String) := do
  match ← oneOf? ["RESPECT", "IGNORE"] with
  | some k =>
    expectKeyword "NULLS"
    return some (k ++ " NULLS")
  | none => return none

/-- What a JSON function does with nulls. -/
def jsonNulls? : Parser (Option ArgumentClause) := do
  if ← keywords? ["ABSENT", "ON", "NULL"] then return some (.silent "ABSENT ON NULL")
  else if ← keywords? ["NULL", "ON", "NULL"] then return some (.silent "NULL ON NULL")
  else return none

/-- What a list aggregate does with a text that is too long. -/
def overflow? (l : Level) : Parser (Option ArgumentClause) := do
  unless ← keywords? ["ON", "OVERFLOW"] do return none
  if ← keyword? "ERROR" then return some (.unmapped "OnOverflow" "ON OVERFLOW ERROR")
  expectKeyword "TRUNCATE"
  let k ← peekKeyword
  let filler ←
    if k = "WITH" ∨ k = "WITHOUT" then pure ""
    else match ← peek? with
      | some (.string kind _) =>
        if [StringKind.single, .escaped, .unicode, .national, .hex].contains kind then
          pure ((← l.expr).render ++ " ")
        else unexpected
      | _ => unexpected
  let k ← expectOneOf ["WITH", "WITHOUT"]
  expectKeyword "COUNT"
  return some (.unmapped "OnOverflow" ("ON OVERFLOW TRUNCATE " ++ filler ++ k ++ " COUNT"))

/-- The arguments and their clauses, with the closing parenthesis. -/
def arguments (l : Level) : Parser Arguments := do
  let nulls ← jsonNulls?
  if ← symbol? ")" then return .list none [] nulls.toList
  let all ← keyword? "ALL"
  let distinct ← keyword? "DISTINCT"
  if all && distinct then unexpected
  let treatment := if all then some "ALL" else if distinct then some "DISTINCT" else none
  let items ← commaSeparated (argument l)
  let order ← whenever (← keywords? ["ORDER", "BY"]) do
    return ArgumentClause.orderBy (← commaSeparated l.orderItem)
  let limit ← afterKeyword? "LIMIT" do
    return ArgumentClause.unmapped "Limit" ("LIMIT " ++ (← l.expr).render)
  let separator ← if l.isMysql then afterKeyword? "SEPARATOR" do
      return ArgumentClause.silent ("SEPARATOR " ++ (← literal).render)
    else pure none
  let overflow ← overflow? l
  let nullsAfter ← jsonNulls?
  expectSymbol ")"
  return .list treatment items
    (nulls.toList ++ order.toList ++ limit.toList ++ separator.toList ++ overflow.toList ++
      nullsAfter.toList)

/-! ## Windows -/

/-- An edge of a frame with its offset. -/
def frameEdge (l : Level) (interval : Parser Expr) : Parser (FrameEdge × Option Expr) := do
  if ← keywords? ["CURRENT", "ROW"] then return (.currentRow, none)
  let offset ←
    if ← keyword? "UNBOUNDED" then pure none
    else match ← peek? with
      | some (.string .single _) => pure (some (← interval))
      | _ => pure (some (← l.expr))
  match ← expectOneOf ["PRECEDING", "FOLLOWING"] with
  | "PRECEDING" => return (.preceding, offset)
  | _ => return (.following, offset)

/-- A window definition after its opening parenthesis, with the closing one. -/
def windowSpec (l : Level) (interval : Parser Expr) (name : Option Ident) : Parser WindowSpec := do
  let reference ←
    match ← peek? with
    | some (.word _ keyword _) =>
      if allKeywords.contains keyword then pure none else attempt identifier
    | _ => pure none
  let partitionBy ← if ← keywords? ["PARTITION", "BY"] then l.exprs else pure []
  let orderBy ← l.orderBy?
  if ← symbol? ")" then return ⟨name, true, reference, partitionBy, orderBy, none, none, none⟩
  let units ← expectOneOf ["ROWS", "RANGE", "GROUPS"]
  if ← keyword? "BETWEEN" then
    let (start, startOffset) ← frameEdge l interval
    expectKeyword "AND"
    let (stop, stopOffset) ← frameEdge l interval
    expectSymbol ")"
    return ⟨name, true, reference, partitionBy, orderBy, some ⟨units, start, some stop⟩,
      startOffset, stopOffset⟩
  else
    let (start, startOffset) ← frameEdge l interval
    expectSymbol ")"
    return ⟨name, true, reference, partitionBy, orderBy, some ⟨units, start, none⟩, startOffset,
      none⟩

/-- A window that only refers to another one. -/
def windowReference (name : Ident) : WindowSpec :=
  ⟨none, false, some name, [], [], none, none, none⟩

/-! ## Calls -/

/-- A call after the name of the function. -/
def call (l : Level) (interval : Parser Expr) (braced : Bool) (name : ObjectName) :
    Parser Expr := do
  expectSymbol "("
  let items ← arguments l
  let withinGroup ←
    if ← keywords? ["WITHIN", "GROUP"] then inParentheses do
      expectKeywords ["ORDER", "BY"]
      commaSeparated l.orderItem
    else pure []
  -- The words of a filter are taken even if no filter follows them.
  let filter ←
    if ← onlyIf l.isPostgres (allOf [keyword? "FILTER", symbol? "(", keyword? "WHERE"]) then do
      let condition ← l.expr
      expectSymbol ")"
      pure (some condition)
    else pure none
  let nulls ← nullTreatment?
  let window ← afterKeyword? "OVER" do
    if ← symbol? "(" then windowSpec l interval none
    else return windowReference (← identifier)
  return .call name items withinGroup filter nulls window braced

/-- A call without clauses. -/
def callWith (name : ObjectName) (items : Arguments) : Expr :=
  .call name items [] none none none false

end TypedSql.Sql.Grammar
