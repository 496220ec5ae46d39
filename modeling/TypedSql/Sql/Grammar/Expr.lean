import TypedSql.Sql.Grammar.Call
import TypedSql.Sql.Grammar.DataType
import TypedSql.Sql.Grammar.Precedence

/-!
# Grammar of expressions

An expression starts with a primary (a literal, a name, a call, a keyword form or a parenthesis) and
goes on with operators. A keyword that starts a form of its own is read as a plain name where the
form does not fit.
-/

namespace TypedSql.Sql.Grammar

/-! ## Intervals and fields -/

/-- The field of a date or time. -/
def dateTimeField (d : Dialect) : Parser String := do
  match ← next with
  | .word text keyword quote =>
    if dateTimeFields.contains keyword then return keyword
    else if d = .postgres then return Ident.render ⟨text, quote⟩
    else unexpected
  | .string .single text =>
    if d = .postgres then return betweenQuotes '\'' text else unexpected
  | _ => unexpected

/-- A number in parentheses, as text, if there is one. -/
def precisionText? : Parser String := do
  let arguments ← precision?
  return textIf (!arguments.isEmpty) (" " ++ parenthesised (arguments.map TypeArgument.render))

/-- What follows the value of an interval: its unit, or the units that it spans. -/
def intervalSuffix (l : Level) : Parser String := do
  let leading ←
    if intervalUnits.contains (← peekKeyword) then pure (some (← dateTimeField l.dialect))
    else if l.isMysql then unexpected
    else pure none
  match leading with
  | some "SECOND" =>
    let arguments ← precisionScale?
    return " SECOND" ++
      textIf (!arguments.isEmpty) (" " ++ parenthesised (arguments.map TypeArgument.render))
  | leading =>
    let precision ← precisionText?
    if ← keyword? "TO" then
      let last ← dateTimeField l.dialect
      let fraction ← if last = "SECOND" then precisionText? else pure ""
      return optional " " leading ++ precision ++ " TO " ++ last ++ fraction
    else return optional " " leading ++ precision

/-- An interval after its keyword. In MySQL its value is a whole expression and its unit is
required; in PostgreSQL the value is a primary. -/
def interval (l : Level) (primary : Parser Expr) : Parser Expr := do
  let value ← if l.isMysql then l.expr else primary
  let suffix ← intervalSuffix l
  return .unmapped "Interval" ("INTERVAL " ++ value.render ++ suffix)

/-- A string after the name of its type. Only types spelled by keywords stand before strings. -/
def typedString (l : Level) (primary : Parser Expr) : Parser Expr := do
  match ← dataType l.dialect with
  | .scalar "INTERVAL" _ _ => interval l primary
  | .named .. => unexpected
  | type =>
    let text ← stringLiteral l.dialect
    return .unmapped "TypedString" (type.render ++ " " ++ betweenQuotes '\'' text)

/-! ## Forms that start with a keyword -/

/-- A CASE expression after its keyword. -/
def caseForm (l : Level) : Parser Expr := do
  let operand ←
    if ← keyword? "WHEN" then pure none
    else do
      let operand ← l.expr
      expectKeyword "WHEN"
      pure (some operand)
  let branch : Parser Branch := do
    let condition ← l.expr
    expectKeyword "THEN"
    return ⟨condition, ← l.expr⟩
  let first ← branch
  let others ← repeated (afterKeyword? "WHEN" branch)
  let default ← afterKeyword? "ELSE" l.expr
  expectKeyword "END"
  return .case operand (first :: others) default

/-- The parentheses of a cast. -/
def castForm (l : Level) (name : String) : Parser Expr := inParentheses do
  let operand ← l.expr
  expectKeyword "AS"
  let type ← dataType l.dialect
  let format ← afterKeyword? "FORMAT" do
    let value ← literal
    if ← keywords? ["AT", "TIME", "ZONE"] then
      return " FORMAT " ++ value.render ++ " AT TIME ZONE " ++ (← literal).render
    else return " FORMAT " ++ value.render
  return .cast (.call name (format.getD "")) operand type

/-- The parentheses of a conversion to a type or a character set. -/
def convertForm (l : Level) : Parser Expr := inParentheses do
  let operand ← l.expr
  if ← keyword? "USING" then
    return .unmapped "Convert" ("CONVERT(" ++ operand.render ++ " USING " ++
      nameText (← objectName) ++ ")")
  expectSymbol ","
  let type ← dataType l.dialect
  let charset ← whenever (← keywords? ["CHARACTER", "SET"]) objectName
  return .unmapped "Convert" ("CONVERT(" ++ operand.render ++ ", " ++ type.render ++
    optional " CHARACTER SET " (charset.map nameText) ++ ")")

/-- The parentheses of an existence test. -/
def existsForm (l : Level) (negated : Bool) : Parser Expr := inParentheses do
  return .exists (← l.query) negated

/-- The parentheses of the extraction of a field. -/
def extractForm (l : Level) : Parser Expr := inParentheses do
  let field ← dateTimeField l.dialect
  expectKeyword "FROM"
  return .keywordCall "EXTRACT" [field ++ " FROM ", ""] [← l.expr]

/-- The parentheses of a rounding function. -/
def roundingForm (l : Level) (name : String) : Parser Expr := inParentheses do
  let operand ← l.expr
  let closing ←
    if ← keyword? "TO" then pure (" TO " ++ (← dateTimeField l.dialect))
    else if ← symbol? "," then
      match ← literal with
      | .number text long => pure (", " ++ (Literal.number text long).render)
      | _ => unexpected
    else pure ""
  return .keywordCall name ["", closing] [operand]

/-- A search for a part of a text, or an ordinary call. -/
def positionForm (l : Level) (primary : Parser Expr) (name : Ident) : Parser Expr := do
  let form ← attempt <| inParentheses do
    let part ← l.subexpr (Rank.between.level l.dialect)
    expectKeyword "IN"
    return Expr.keywordCall "POSITION" ["", " IN ", ""] [part, ← l.expr]
  match form with
  | some e => return e
  | none => call l (interval l primary) false [name]

/-- The parentheses of a part of a text. -/
def substringForm (l : Level) : Parser Expr := inParentheses do
  let operand ← l.expr
  let comma ← symbol? ","
  let start ← if comma then pure (some (← l.expr)) else afterKeyword? "FROM" l.expr
  let counted ← if ← keyword? "FOR" then pure true else symbol? ","
  let count ← whenever counted l.expr
  let words (fromWord forWord : String) : List String :=
    [""] ++ (start.map fun _ => fromWord).toList ++ (count.map fun _ => forWord).toList ++ [""]
  return .keywordCall "SUBSTRING" (if comma then words ", " ", " else words " FROM " " FOR ")
    (operand :: start.toList ++ count.toList)

/-- The parentheses of a replacement in a text. -/
def overlayForm (l : Level) : Parser Expr := inParentheses do
  let operand ← l.expr
  expectKeyword "PLACING"
  let replacement ← l.expr
  expectKeyword "FROM"
  let start ← l.expr
  let count ← afterKeyword? "FOR" l.expr
  return .unmapped "Overlay" ("OVERLAY(" ++ operand.render ++ " PLACING " ++ replacement.render ++
    " FROM " ++ start.render ++ optional " FOR " (exprText? count) ++ ")")

/-- The parentheses of a trimmed text. A comma before the closing one means nothing. -/
def trimForm (l : Level) : Parser Expr := inParentheses do
  let side := ((← oneOf? ["BOTH", "LEADING", "TRAILING"]).map (· ++ " ")).getD ""
  let first ← l.expr
  if ← keyword? "FROM" then
    return .keywordCall "TRIM" [side, " FROM ", ""] [first, ← l.expr]
  else
    discard (symbol? ",")
    return .keywordCall "TRIM" [side, ""] [first]

/-- A negation after its keyword. -/
def notForm (l : Level) : Parser Expr := do
  if ← keyword? "EXISTS" then existsForm l true
  else return .unary .not (← l.subexpr (Rank.not.level l.dialect))

/-- A full-text search after its keyword. -/
def matchForm : Parser Expr := do
  let columns ← columnList false
  expectKeyword "AGAINST"
  inParentheses do
    let value ← literal
    let modifier ←
      if ← keywords? ["IN", "NATURAL", "LANGUAGE", "MODE"] then
        if ← keywords? ["WITH", "QUERY", "EXPANSION"] then
          pure " IN NATURAL LANGUAGE MODE WITH QUERY EXPANSION"
        else pure " IN NATURAL LANGUAGE MODE"
      else if ← keywords? ["IN", "BOOLEAN", "MODE"] then pure " IN BOOLEAN MODE"
      else if ← keywords? ["WITH", "QUERY", "EXPANSION"] then pure " WITH QUERY EXPANSION"
      else pure ""
    return .unmapped "MatchAgainst" ("MATCH " ++ parenthesised (columns.map Ident.render) ++
      " AGAINST (" ++ value.render ++ modifier ++ ")")

/-- An array after its opening bracket. -/
def arrayForm (l : Level) (name : String) : Parser Expr := do
  let items ← commaSeparatedUntil "]" l.expr
  expectSymbol "]"
  return .unmapped "Array" (name ++ "[" ++ commas (exprTexts items) ++ "]")

/-- The form that a keyword starts, if it starts one here. -/
def keywordForm? (l : Level) (primary : Parser Expr) (name : Ident) (keyword : String) :
    Parser (Option Expr) := do
  match keyword with
  | "TRUE" => return some (.literal (.boolean true))
  | "FALSE" => return some (.literal (.boolean false))
  | "NULL" => return some (.literal .null)
  | "CURRENT_CATALOG" | "CURRENT_USER" | "SESSION_USER" | "USER" =>
    return if l.isPostgres then some (callWith [name] .none) else none
  | "CURRENT_TIMESTAMP" | "CURRENT_TIME" | "CURRENT_DATE" | "LOCALTIME" | "LOCALTIMESTAMP" =>
    if ← symbol? "(" then return some (callWith [name] (← arguments l))
    else return some (callWith [name] .none)
  | "CASE" => return some (← caseForm l)
  | "CONVERT" => return some (← convertForm l)
  | "CAST" | "TRY_CAST" | "SAFE_CAST" => return some (← castForm l keyword)
  | "EXISTS" => return some (← existsForm l false)
  | "EXTRACT" => return some (← extractForm l)
  | "CEIL" | "FLOOR" => return some (← roundingForm l keyword)
  | "POSITION" =>
    if ← peekSymbol "(" then return some (← positionForm l primary name) else return none
  | "SUBSTRING" => return some (← substringForm l)
  | "OVERLAY" => return some (← overlayForm l)
  | "TRIM" => return some (← trimForm l)
  | "INTERVAL" => return some (← interval l primary)
  | "ARRAY" =>
    if ← symbol? "[" then return some (← arrayForm l "ARRAY")
    else if ← symbol? "(" then
      let query ← l.query
      expectSymbol ")"
      return some (callWith [name] (.query query))
    else return none
  | "NOT" => return some (← notForm l)
  | "MATCH" => if l.isMysql then return some (← matchForm) else return none
  | _ => return none

/-! ## Names and calls -/

/-- The parts of a name after its first one, at most `n`, and whether a star ends it. -/
def compoundParts (d : Dialect) : Nat → Parser (ObjectName × Bool)
  | 0 => unexpected
  | n + 1 => do
    unless ← symbol? "." do return ([], false)
    let part ←
      match ← next with
      | .word text _ quote => pure (some ⟨text, quote⟩)
      | .string .single text => pure (some ⟨text, some '\''⟩)
      | .symbol "*" => if d = .postgres then pure none else unexpected
      | _ => unexpected
    match part with
    | some part =>
      let (parts, star) ← compoundParts d n
      return (part :: parts, star)
    | none => return ([], true)

/-- A column, a call, or a string with a character set, after its first word. -/
def nameForm (l : Level) (primary : Parser Expr) (name : Ident) : Parser Expr := do
  match ← peek? with
  | some (.symbol s) =>
    if s = "(" ∨ s = "." then
      let (rest, star) ← compoundParts l.dialect ((← get).length + 1)
      let parts := name :: rest
      if star then return .unmapped "QualifiedWildcard" (nameText parts ++ ".*")
      else if ← peekSymbol "(" then call l (interval l primary) false parts
      else return .column name rest
    else return .column name []
  | some (.string kind text) =>
    if name.text.toList.head? = some '_' ∧ [StringKind.single, .double, .hex].contains kind then
      discard next
      return .unmapped "IntroducedString" (name.text ++ " " ++ stringText kind text)
    else return .column name []
  | _ => return .column name []

/-- A form that a keyword starts, or else what a plain name may be. Where the form does not fit, the
keyword is read as a name, unless it is reserved. -/
def wordForm (l : Level) (primary : Parser Expr) (name : Ident) (keyword : String) : Parser Expr :=
  fun ts =>
    match keywordForm? l primary name keyword ts with
    | .ok (some e, rest) => .ok (e, rest)
    | .ok (none, _) => nameForm l primary name ts
    | .error cause =>
      if reservedForIdentifier.contains keyword then .error cause
      else match nameForm l primary name ts with
        | .ok r => .ok r
        | .error _ => .error cause

/-! ## Primaries -/

/-- What stands after an opening parenthesis: a query, an expression or a tuple. A field of the
result may be taken. -/
def parenthesis (l : Level) : Parser Expr := do
  let inner ←
    if ← Level.queryAhead then pure (Expr.subquery (← l.query))
    else
      match ← l.exprs with
      | [e] => pure (.nested e)
      | items => pure (.unmapped "Tuple" (parenthesised (exprTexts items)))
  expectSymbol ")"
  if ← symbol? "." then
    match ← next with
    | .word text _ quote =>
      return .unmapped "CompositeAccess" (inner.render ++ "." ++ Ident.render ⟨text, quote⟩)
    | _ => unexpected
  else return inner

/-- A call in braces. -/
def bracedCall (l : Level) (primary : Parser Expr) : Parser Expr := do
  expectKeyword "FN"
  let name ← objectName
  let e ← call l (interval l primary) true name
  expectSymbol "\x7d"
  return e

/-- The start of an expression, up to its collation. Values of intervals nest at most `n` deep. -/
def primary (l : Level) : Nat → Parser Expr
  | 0 => unexpected
  | n + 1 => do
    let inner := primary l n
    match ← attempt (typedString l inner) with
    | some e => return e
    | none =>
      let before ← get
      let e ←
        match ← next with
        | .word text keyword quote => wordForm l inner ⟨text, quote⟩ keyword
        | .number text long => pure (.literal (.number text long))
        | .placeholder text => pure (.literal (.placeholder text))
        | .string kind text =>
          if kind = .escaped ∧ l.isMysql then unexpected
          else pure (.literal (.string kind text))
        | .symbol "[" => arrayForm l ""
        | .symbol "+" => pure (.unary .plus (← l.subexpr (Rank.mulDivMod.level l.dialect)))
        | .symbol "-" => pure (.unary .minus (← l.subexpr (Rank.mulDivMod.level l.dialect)))
        | .symbol "(" => parenthesis l
        | .symbol "\x7b" => bracedCall l inner
        | .symbol s =>
          if l.isPostgres ∧ ["!!", "|/", "||/", "@", "~"].contains s then
            pure (.unary (.before s) (← l.subexpr (Rank.plusMinus.level l.dialect)))
          else if s = ":" ∨ s = "@" then
            set before
            pure (.literal (← literal))
          else unexpected
        | _ => unexpected
      if ← keyword? "COLLATE" then
        return .unmapped "Collate" (e.render ++ " COLLATE " ++ nameText (← objectName))
      else return e

/-! ## Operators -/

/-- The operators whose operand may be quantified. -/
def isComparison (op : BinaryOp) : Bool :=
  match op with
  | .other s => ["=", "<>", "<", "<=", ">", ">="].contains s
  | _ => false

/-- The name in the parentheses after OPERATOR, at most `n` parts. -/
def operatorName : Nat → Parser (List String)
  | 0 => unexpected
  | n + 1 => do
    let part ←
      match ← next with
      | .word text _ quote => pure (Ident.render ⟨text, quote⟩)
      | .number text long => pure (Literal.number text long).render
      | .string kind text => pure (stringText kind text)
      | .placeholder text => pure text
      | .symbol s => pure s
      | .other c => pure (String.singleton c)
      | _ => unexpected
    if ← symbol? "." then return part :: (← operatorName n) else return [part]

/-- The operator between two operands, if the token is one. -/
def binaryOperator? (d : Dialect) : Token → Parser (Option BinaryOp)
  | .symbol s => do
    match s with
    | "==" => return some (.other "=")
    | "::" | "!" | "[" => return none
    | "&&" | "^@" | "<<" | ">>" | "#" => return if d = .postgres then some (.other s) else none
    | s => return if (Rank.ofSymbol? d s).isSome then some (.other s) else none
  | t => do
    match t.keyword with
    | "AND" => return some .and
    | "OR" => return some .or
    | "XOR" => return some (.other "XOR")
    | "OPERATOR" =>
      if d = .postgres then
        let parts ← inParentheses do operatorName (← get).length
        return some (.other ("OPERATOR(" ++ separated "." parts ++ ")"))
      else return none
    | _ => return none

/-- The right side of an operator, which may be quantified. -/
def rightSide (l : Level) (binding : Nat) (left : Expr) (op : BinaryOp) : Parser Expr := do
  match ← oneOf? ["ANY", "ALL", "SOME"] with
  | none => return .binary left op (← l.subexpr binding)
  | some quantifier =>
    let before ← get
    expectSymbol "("
    let right ←
      if ← Level.queryAhead then
        set before
        l.subexpr binding
      else do
        let right ← l.subexpr binding
        expectSymbol ")"
        pure right
    unless isComparison op do unexpected
    let text := match right with
      | .subquery _ => right.render
      | _ => "(" ++ right.render ++ ")"
    return .unmapped (if quantifier = "ALL" then "AllOp" else "AnyOp")
      (left.render ++ " " ++ op.render ++ " " ++ quantifier ++ text)

/-- What follows IS. -/
def isForm (l : Level) (left : Expr) : Parser Expr := do
  let negated ← keyword? "NOT"
  let not := notText negated
  if ← keyword? "NULL" then return .isNull left negated
  else if ← keywords? ["DISTINCT", "FROM"] then
    let right ← l.expr
    return .unmapped (if negated then "IsNotDistinctFrom" else "IsDistinctFrom")
      (left.render ++ " IS " ++ not ++ "DISTINCT FROM " ++ right.render)
  else
    let k ← expectOneOf ["TRUE", "FALSE", "UNKNOWN"]
    let name := match k with
      | "TRUE" => "True"
      | "FALSE" => "False"
      | _ => "Unknown"
    return .unmapped ((if negated then "IsNot" else "Is") ++ name)
      (left.render ++ " IS " ++ not ++ k)

/-- The escape character of a pattern. -/
def escape? (d : Dialect) : Parser (Option String) := afterKeyword? "ESCAPE" (stringLiteral d)

/-- What follows IN. -/
def inForm (l : Level) (left : Expr) (negated : Bool) : Parser Expr := do
  if ← keyword? "UNNEST" then
    let array ← inParentheses l.expr
    return .unmapped "InUnnest"
      (left.render ++ " " ++ notText negated ++ "IN UNNEST(" ++ array.render ++ ")")
  inParentheses do
    if ← Level.queryAhead then return .inQuery left (← l.query) negated
    else return .inList left (← l.exprs) negated

/-- A predicate that may be negated. -/
def predicate (l : Level) (left : Expr) (negated : Bool) : Parser Expr := do
  let pattern := l.subexpr (Rank.like.level l.dialect)
  let operand := l.subexpr (Rank.between.level l.dialect)
  let regexp ← keyword? "REGEXP"
  let rlike ← keyword? "RLIKE"
  if regexp || rlike then
    let right ← pattern
    return .unmapped "RLike" (left.render ++ " " ++ notText negated ++
      (if regexp then "REGEXP " else "RLIKE ") ++ right.render)
  else if ← keyword? "IN" then inForm l left negated
  else if ← keyword? "BETWEEN" then
    let low ← operand
    expectKeyword "AND"
    return .between left low (← operand) negated
  else match ← oneOf? ["LIKE", "ILIKE"] with
  | some op =>
    let any ← keyword? "ANY"
    let right ← pattern
    return .like op any left right (← escape? l.dialect) negated
  | none =>
    expectKeywords ["SIMILAR", "TO"]
    let right ← pattern
    let escape ← escape? l.dialect
    return .unmapped "SimilarTo" (left.render ++ " " ++ notText negated ++ "SIMILAR TO " ++
      right.render ++ optional " ESCAPE " (escape.map fun e => "'" ++ e ++ "'"))

/-- What stands in brackets after an array: an index or a range. -/
def subscript (l : Level) : Parser String := do
  let lower ← if ← symbol? ":" then pure none else pure (some (← l.expr))
  if ← symbol? "]" then return (exprText? lower).getD ":"
  if lower.isSome then expectSymbol ":"
  let slice := (exprText? lower).getD "" ++ ":"
  if ← symbol? "]" then return slice
  let slice := slice ++ (← l.expr).render
  if ← symbol? "]" then return slice
  expectSymbol ":"
  if ← symbol? "]" then return slice
  let stride ← l.expr
  expectSymbol "]"
  return slice ++ ":" ++ stride.render

/-- What stands in brackets after a map, in MySQL. -/
def mapKeys (l : Level) : Parser String := do
  let key : Parser String := do
    let key ← l.expr
    expectSymbol "]"
    return "[" ++ key.render ++ "]"
  let first ← key
  let others ← repeated do whenever (← symbol? "[") key
  return String.join (first :: others)

/-- An operator after its left operand. `binding` is how tightly it binds. -/
def operation (l : Level) (left : Expr) (binding : Nat) : Parser Expr := do
  if ← onlyIf l.isMysql (keyword? "DIV") then return .binary left (.other "DIV") (← l.expr)
  let before ← get
  let t ← next
  match ← binaryOperator? l.dialect t with
  | some op => rightSide l binding left op
  | none =>
    match t with
    | .symbol "::" => return .cast .operator left (← dataType l.dialect)
    | .symbol "!" => if l.isPostgres then return .unary (.after "!") left else unexpected
    | .symbol "[" =>
      if l.isPostgres then
        return .unmapped "Subscript" (left.render ++ "[" ++ (← subscript l) ++ "]")
      else return .unmapped "MapAccess" (left.render ++ (← mapKeys l))
    | t =>
      match t.keyword with
      | "IS" => isForm l left
      | "AT" =>
        expectKeywords ["TIME", "ZONE"]
        let zone ← l.subexpr binding
        return .unmapped "AtTimeZone" (left.render ++ " AT TIME ZONE " ++ zone.render)
      | "NOT" => predicate l left true
      | "IN" | "BETWEEN" | "LIKE" | "ILIKE" | "SIMILAR" | "REGEXP" | "RLIKE" =>
        set before
        predicate l left false
      | _ => unexpected

/-- The operators after an operand, at most `n`, as long as they bind tighter than `binding`. -/
def operations (l : Level) (binding : Nat) : Nat → Expr → Parser Expr
  | 0, e => return e
  | n + 1, e => do
    let here := bindingOf l.dialect (← get)
    if here ≤ binding then return e
    else operations l binding n (← operation l e here)

/-- An expression made of operators that bind tighter than `binding`. -/
def subexpr (l : Level) (binding : Nat) : Parser Expr := do
  let n := (← get).length + 1
  operations l binding n (← primary l n)

end TypedSql.Sql.Grammar
