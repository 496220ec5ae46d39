import TypedSql.Canonical.Conversion.Basic

/-!
# Conversion of queries

The canonical form of expressions and queries.

* Parentheses vanish; a query in parentheses takes over the clauses that stand after it.
* The tables of a FROM clause become one flat list and the conditions of all joins another. A table
  is marked when an outer join can replace its rows by nulls.
* A construct without canonical form is replaced by its name and its placeholders.
-/

namespace TypedSql.Canonical

open TypedSql.Text

namespace Conversion

/-! ## Expressions without subexpressions -/

/-- Whether a number is written with a period or an exponent. -/
def isDecimal (number : String) : Bool := number.any fun c => c = '.' || c = 'e' || c = 'E'

/-- Converts a literal. -/
def literal (value : Sql.Literal) : Conversion Node := do
  match value with
  | .number text _ =>
    return .literal (if isDecimal text then .decimal text else .integer text)
  | .string .single text | .string .double text | .string .escaped text
  | .string .national text => return .literal (.string text)
  | .boolean b => return .literal (.boolean b)
  | .null => return .literal .null
  | .placeholder text => param text
  | other => skip "literal" other.render

/-- A reference to a column. -/
def columnRef (parts : List Sql.Ident) : Conversion Node := do
  let d ← dialect
  return .column (parts.map fun i => .name (fold d i))

/-- A reference to all columns of a table, or of all tables. -/
def starRef (parts : List Sql.Ident) : Conversion Node := do
  let d ← dialect
  return .column (parts.map (fun i => .name (fold d i)) ++ [.star])

/-- An operator between two operands. -/
def binary (op : Sql.BinaryOp) (left right : Node) : Node :=
  match op with
  | .and => .logic .and [left, right]
  | .or => .logic .or [left, right]
  | .other _ => .operator (operatorName op) (some left) (some right)

/-- An operator with one operand. The sign of a number becomes part of it. -/
def unary (op : Sql.UnaryOp) (arg : Node) : Node :=
  match op with
  | .not => .logic .not [arg]
  | .plus => arg
  | .minus =>
    match arg with
    | .literal (.integer n) => .literal (.integer ("-" ++ n))
    | .literal (.decimal n) => .literal (.decimal ("-" ++ n))
    | arg => .operator "-" none (some arg)
  | .before spelling | .after spelling => .operator (lower spelling) none (some arg)

/-- The name of a predicate that may be negated. -/
def negatable (name : String) (negated : Bool) : String :=
  if negated then "not " ++ name else name

/-- A call of a function with nothing but arguments. -/
def plainCall (name : String) (args : List Node) : Node :=
  .call ⟨name, args, [], none, none, false, false⟩

/-- The name of a function, which has no letter case in either dialect. -/
def functionName (name : Sql.ObjectName) : String :=
  Sql.separated "." (name.map fun i => lower i.text)

/-- A table by name. -/
def tableRef (name : Sql.ObjectName) (aliasName : Option Sql.Ident) : Conversion TableRef := do
  let table ← tableName name
  let d ← dialect
  return ⟨table.schema, table.name, aliasName.map (fold d), false⟩

/-! ## Joins -/

/-- The flattened part of a FROM clause. -/
structure Sources where
  items : List Node
  /-- The ON conditions of the joins. -/
  conditions : List Node

/-- Marks a table whose rows an outer join can replace by nulls. -/
def markNullable : Node → Node
  | .table ref => .table { ref with nullable := true }
  | .derived query aliasName _ => .derived query aliasName true
  | node => node

/-- The name of a kind of join without canonical form. -/
def unmappedJoin? : Sql.JoinKind → Option String
  | .semi => some "Semi"
  | .anti => some "Anti"
  | .crossApply => some "CrossApply"
  | .outerApply => some "OuterApply"
  | .nearest _ => some "AsOf"
  | _ => none

/-- Whether the join lists the columns that it compares. -/
def listsColumns : Sql.SharedColumns → Bool
  | .using _ => true
  | .none | .natural => false

/-- Whether the join fills up rows on its left with nulls. -/
def padsLeft : Sql.JoinKind → Bool
  | .right | .full => true
  | _ => false

/-- Whether the join fills up rows on its right with nulls. -/
def padsRight : Sql.JoinKind → Bool
  | .left | .full => true
  | _ => false

/-- Marks what a join fills up with nulls; its left side are the first `n` tables. -/
def markJoin (kind : Sql.JoinKind) (n : Nat) (items : List Node) : List Node :=
  let left := items.take n
  let right := items.drop n
  (if padsLeft kind then left.map markNullable else left) ++
    if padsRight kind then right.map markNullable else right

/-- The operation of a set operator. -/
def setOperation : Sql.SetOperator → SetOperation
  | .union => .union
  | .intersect => .intersect
  | .except => .except

/-- The parts of a call that stand in its parentheses. -/
structure CallParts where
  args : List Node
  orderBy : List Node
  star : Bool
  distinct : Bool

/-! ## Expressions and queries -/

mutual

/-- Converts an expression. -/
def expr : Sql.Expr → Conversion Node
  | .column first rest => columnRef (first :: rest)
  | .literal value => literal value
  | .nested inner => expr inner
  | .binary left op right => do
    let left ← expr left
    let right ← expr right
    return binary op left right
  | .unary op operand => return unary op (← expr operand)
  | .isNull operand negated => return .nullTest (← expr operand) !negated
  | .inList operand items negated => do
    let left ← expr operand
    let items ← exprs items
    return .operator (negatable "in" negated) (some left) (some (.list items))
  | .between operand low high negated => do
    let left ← expr operand
    let low ← expr low
    let high ← expr high
    return .operator (negatable "between" negated) (some left) (some (.list [low, high]))
  | .like op _ operand pattern _ negated => do
    let left ← expr operand
    let pattern ← expr pattern
    return .operator (negatable (lower op) negated) (some left) (some pattern)
  | .inQuery operand q negated => do
    let test ← expr operand
    return .sublink .any (some test) (← tested (query q)) negated
  | .exists q negated => return .sublink .exists none (← tested (query q)) negated
  | .subquery q => return .select (← query q)
  | .cast _ operand type => do
    let arg ← expr operand
    return .cast arg (typeOf (← dialect) type)
  | .case operand bs default => do
    let operand ← exprOption operand
    let bs ← branches bs
    return .case operand bs (← exprOption default)
  | .call name args withinGroup filter _ w _ => do
    let parts ← arguments args
    let keys ← orderKeys withinGroup
    let filter ← exprOption filter
    let w ← windowOption w
    return .call ⟨functionName name, parts.args, parts.orderBy ++ keys, filter, w, parts.star,
      parts.distinct⟩
  | .keywordCall name _ args => return plainCall (lower name) (← exprs args)
  | .unmapped kind text => skip kind text

/-- Converts the expressions of a list. -/
def exprs : List Sql.Expr → Conversion (List Node)
  | [] => return []
  | e :: es => do
    let node ← expr e
    return node :: (← exprs es)

/-- Converts an expression that may be absent. -/
def exprOption : Option Sql.Expr → Conversion (Option Node)
  | none => return none
  | some e => return some (← expr e)

/-- Converts the branches of a CASE expression. -/
def branches : List Sql.Branch → Conversion (List Branch)
  | [] => return []
  | ⟨condition, result⟩ :: bs => do
    let condition ← expr condition
    let result ← expr result
    return ⟨condition, result⟩ :: (← branches bs)

/-- Converts what stands in the parentheses of a call. -/
def arguments : Sql.Arguments → Conversion CallParts
  | .none => return ⟨[], [], false, false⟩
  | .query q => return ⟨[.select (← query q)], [], false, false⟩
  | .list treatment items clauses => do
    let (args, star) ← argumentItems items
    let keys ← argumentClauses clauses
    return ⟨args, keys, star, treatment = some "DISTINCT"⟩

/-- Converts the arguments of a call, and tells whether there is a star among them. -/
def argumentItems : List Sql.Argument → Conversion (List Node × Bool)
  | [] => return ([], false)
  | .value _ value :: as => do
    let node ← expr value
    let (nodes, star) ← argumentItems as
    return (node :: nodes, star)
  | .star _ :: as => do
    let (nodes, _) ← argumentItems as
    return (nodes, true)
  | .labelled text :: as => do
    let node ← skip "named function argument" text
    let (nodes, star) ← argumentItems as
    return (node :: nodes, star)

/-- Converts the clauses after the arguments of a call. -/
def argumentClauses : List Sql.ArgumentClause → Conversion (List Node)
  | [] => return []
  | .orderBy items :: cs => do
    let keys ← orderKeys items
    return keys ++ (← argumentClauses cs)
  | .silent _ :: cs => argumentClauses cs
  | .unmapped kind text :: cs => do
    let node ← skip kind text
    return node :: (← argumentClauses cs)

/-- Converts sort keys. -/
def orderKeys : List Sql.OrderItem → Conversion (List Node)
  | [] => return []
  | ⟨key, _⟩ :: os => do
    let node ← expr key
    return node :: (← orderKeys os)

/-- Converts a window. -/
def window : Sql.WindowSpec → Conversion Window
  | ⟨name, _, reference, partitionBy, orderBy, _, startOffset, stopOffset⟩ => do
    let partitionBy ← exprs partitionBy
    let orderBy ← orderKeys orderBy
    let startOffset ← exprOption startOffset
    let stopOffset ← exprOption stopOffset
    let d ← dialect
    return ⟨name.map (fold d), reference.map (fold d), partitionBy, orderBy, startOffset,
      stopOffset⟩

/-- Converts the window of a call. -/
def windowOption : Option Sql.WindowSpec → Conversion (Option Window)
  | none => return none
  | some w => return some (← window w)

/-- Converts the windows of a WINDOW clause. -/
def windows : List Sql.WindowSpec → Conversion (List Window)
  | [] => return []
  | w :: ws => do
    let w ← window w
    return w :: (← windows ws)

/-- Converts a query. -/
def query : Sql.Query → Conversion Select
  | ⟨_, ctes, body, orderBy, limit, offset, _, _, quantity, _⟩ => do
    let ctes ← namedQueries ctes
    let select ← setExpr body
    let keys ← orderKeys orderBy
    -- `LIMIT 1, 2` writes the offset first
    let offsetFirst := (← read).limitComma
    let (offset, limit) ← inOrder offsetFirst (exprOption offset) (exprOption limit)
    let quantity ← exprOption quantity
    -- the clauses around a body in parentheses replace those inside
    return { select with
      ctes := if ctes.isEmpty then select.ctes else ctes
      orderBy := if keys.isEmpty then select.orderBy else keys
      limit := quantity.or (limit.or select.limit)
      offset := offset.or select.offset }

/-- Converts the queries of a WITH clause. -/
def namedQueries : List Sql.Cte → Conversion (List NamedQuery)
  | [] => return []
  | ⟨aliasName, _, q, _⟩ :: cs => do
    let name ← ident aliasName.name
    let select ← query q
    return ⟨name, .select select⟩ :: (← namedQueries cs)

/-- Converts the body of a query. -/
def setExpr : Sql.SetExpr → Conversion Select
  | .select s => select s
  | .query q => query q
  | .operation op quantifier left right => do
    let left ← setExpr left
    let right ← setExpr right
    return { Select.empty with
      operation := setOperation op
      all := quantifier = "ALL"
      left := some left
      right := some right }
  | .values _ items => return { Select.empty with rows := ← rows items }
  | .unmapped kind text => do
    let node ← skip kind text
    return { Select.empty with targets := [← target none node] }

/-- Converts the rows of a VALUES. -/
def rows : List (List Sql.Expr) → Conversion (List Node)
  | [] => return []
  | row :: rest => do
    let items ← exprs row
    return .list items :: (← rows rest)

/-- Converts a SELECT. The clauses without canonical form are kept with the join conditions. -/
def select : Sql.Select → Conversion Select
  | ⟨_, distinctOn, top, projection, _, source, lateralViews, condition, groupAll, groupBy, _, having,
      ws, windowFirst, qualify⟩ => do
    let top ← top.toList.mapM (skip "TOP")
    let distinctOn ← exprs distinctOn
    let targets ← selectItems projection
    let source ← tables ⟨[], []⟩ source
    let views ← lateralViews.mapM (skip "LATERAL VIEW")
    let condition ← exprOption condition
    noteIf groupAll "GROUP BY ALL"
    let groupBy ← exprs groupBy
    let having ← exprOption having
    let (ws, qualify) ←
      inOrder windowFirst (windows ws) (qualify.toList.mapM (skip "QUALIFY"))
    return { Select.empty with
      targets := targets
      source := source.items
      joinConditions := source.conditions ++ top ++ views ++ qualify
      condition := condition
      distinctOn := distinctOn
      groupBy := groupBy
      having := having
      windows := ws }

/-- Converts the entries of a select list. -/
def selectItems : List Sql.SelectItem → Conversion (List Node)
  | [] => return []
  | .value value :: is => do
    let node ← target none (← expr value)
    return node :: (← selectItems is)
  | .aliased value aliasName :: is => do
    let value ← expr value
    let node ← target (some (← ident aliasName)) value
    return node :: (← selectItems is)
  | .star :: is => do
    let node ← target none (← starRef [])
    return node :: (← selectItems is)
  | .qualifiedStar name :: is => do
    let node ← target none (← starRef name)
    return node :: (← selectItems is)

/-- Adds the tables of a FROM clause. -/
def tables (acc : Sources) : List Sql.TableWithJoins → Conversion Sources
  | [] => return acc
  | t :: ts => do
    let acc ← table acc t
    tables acc ts

/-- Adds a table and what it is joined with. -/
def table (acc : Sources) : Sql.TableWithJoins → Conversion Sources
  | ⟨relation, js⟩ => do
    let acc ← factor acc relation
    joins acc js

/-- Adds the tables of joins. -/
def joins (acc : Sources) : List Sql.Join → Conversion Sources
  | [] => return acc
  | ⟨_, kind, relation, shared, on⟩ :: js => do
    let n := acc.items.length
    -- everything before the join is its left side, whatever the factor adds its right side
    let acc ← factor acc relation
    let acc := { acc with items := markJoin kind n acc.items }
    let acc ← match unmappedJoin? kind with
      | some construct => do
        note construct
        pure acc
      | none => do
        let condition ← exprOption on
        noteIf (listsColumns shared) "JOIN ... USING"
        pure { acc with conditions := acc.conditions ++ condition.toList }
    joins acc js

/-- Adds a table reference. -/
def factor (acc : Sources) : Sql.TableFactor → Conversion Sources
  | .table name _ aliasName _ => do
    let ref ← tableRef name (aliasName.map Sql.TableAlias.name)
    return { acc with items := acc.items ++ [.table ref] }
  | .derived _ q aliasName => do
    let select ← query q
    let d ← dialect
    let aliasName := aliasName.map fun a => fold d a.name
    return { acc with items := acc.items ++ [.derived (.select select) aliasName false] }
  -- joins in parentheses are flattened, and their alias is dropped
  | .nestedJoin inner _ => table acc inner
  | .unmapped kind text => do
    note kind
    let params ← paramsIn text
    return { acc with conditions := acc.conditions ++ params }

end

end Conversion

end TypedSql.Canonical
