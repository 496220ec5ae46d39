import TypedSql.Sql.Spelling

/-!
# Printer

The canonical text of expressions, queries and statements. A construct that no later stage looks
into is known by this text, and the placeholders in it are those of the text, in its order.
-/

namespace TypedSql.Sql

/-- `NOT ` for a negated predicate. -/
def notText (negated : Bool) : String := textIf negated "NOT "

/-- The text of a set operator with its quantifier. -/
def SetOperator.render (op : SetOperator) (quantifier : String) : String :=
  let name := match op with
    | .union => "UNION"
    | .intersect => "INTERSECT"
    | .except => "EXCEPT"
  if quantifier = "" then name else name ++ " " ++ quantifier

/-- The keywords of a join, up to its relation. -/
def JoinKind.render : JoinKind → String
  | .inner => "JOIN"
  | .left => "LEFT JOIN"
  | .right => "RIGHT JOIN"
  | .full => "FULL JOIN"
  | .cross => "CROSS JOIN"
  | .semi => "SEMI JOIN"
  | .anti => "ANTI JOIN"
  | .leftSemi => "LEFT SEMI JOIN"
  | .rightSemi => "RIGHT SEMI JOIN"
  | .leftAnti => "LEFT ANTI JOIN"
  | .rightAnti => "RIGHT ANTI JOIN"
  | .crossApply => "CROSS APPLY"
  | .outerApply => "OUTER APPLY"
  | .nearest _ => "ASOF JOIN"

/-- The edge of a frame, with its offset. -/
def FrameEdge.render (edge : FrameEdge) (offset : Option String) : String :=
  match edge with
  | .currentRow => "CURRENT ROW"
  | .preceding => offset.getD "UNBOUNDED" ++ " PRECEDING"
  | .following => offset.getD "UNBOUNDED" ++ " FOLLOWING"

/-- The frame of a window, with the offsets of its edges. -/
def FrameShape.render (shape : FrameShape) (start stop : Option String) : String :=
  match shape.stop with
  | some edge =>
    shape.units ++ " BETWEEN " ++ shape.start.render start ++ " AND " ++ edge.render stop
  | none => shape.units ++ " " ++ shape.start.render start

/-- The alias of a table reference. -/
def aliasText (tableAlias : Option TableAlias) : String :=
  optional " AS " (tableAlias.map TableAlias.render)

/-- Puts the texts of the arguments between the words of a keyword call. -/
def interleave : List String → List String → String
  | [], _ => ""
  | w :: _, [] => w
  | w :: ws, a :: as => w ++ a ++ interleave ws as

mutual

/-- The canonical text of an expression. -/
def Expr.render : Expr → String
  | .column first rest => nameText (first :: rest)
  | .literal value => value.render
  | .nested inner => "(" ++ inner.render ++ ")"
  | .binary left op right => left.render ++ " " ++ op.render ++ " " ++ right.render
  | .unary op operand =>
    match op with
    | .not => "NOT " ++ operand.render
    | .plus => "+" ++ operand.render
    | .minus => "-" ++ operand.render
    | .before spelling => spelling ++ operand.render
    | .after spelling => operand.render ++ spelling
  | .isNull operand negated => operand.render ++ " IS " ++ notText negated ++ "NULL"
  | .inList operand items negated =>
    operand.render ++ " " ++ notText negated ++ "IN " ++ parenthesised (exprTexts items)
  | .between operand low high negated =>
    operand.render ++ " " ++ notText negated ++ "BETWEEN " ++ low.render ++ " AND " ++ high.render
  | .like op any operand pattern escape negated =>
    operand.render ++ " " ++ notText negated ++ op ++ " " ++ textIf any "ANY " ++ pattern.render ++
      optional " ESCAPE " (escape.map fun e => "'" ++ e ++ "'")
  | .inQuery operand query negated =>
    operand.render ++ " " ++ notText negated ++ "IN (" ++ query.render ++ ")"
  | .exists query negated => notText negated ++ "EXISTS (" ++ query.render ++ ")"
  | .subquery query => "(" ++ query.render ++ ")"
  | .cast form operand type =>
    match form with
    | .operator => operand.render ++ "::" ++ type.render
    | .call name format => name ++ "(" ++ operand.render ++ " AS " ++ type.render ++ format ++ ")"
  | .case operand branches default =>
    "CASE" ++ optional " " (exprText? operand) ++ branchTexts branches ++
      optional " ELSE " (exprText? default) ++ " END"
  | .call name arguments withinGroup filter nulls window braced =>
    textIf braced "\x7bfn " ++ nameText name ++ arguments.render ++
      (match orderTexts withinGroup with
        | [] => ""
        | keys => " WITHIN GROUP (ORDER BY " ++ commas keys ++ ")") ++
      optional " FILTER (WHERE " ((exprText? filter).map (· ++ ")")) ++ optional " " nulls ++
      optional " OVER " (windowText? window) ++ textIf braced "\x7d"
  | .keywordCall name words arguments =>
    name ++ "(" ++ interleave words (exprTexts arguments) ++ ")"
  | .unmapped _ text => text

/-- The texts of the expressions of a list. -/
def exprTexts : List Expr → List String
  | [] => []
  | e :: es => e.render :: exprTexts es

/-- The text of an expression that may be absent. -/
def exprText? : Option Expr → Option String
  | none => none
  | some e => some e.render

/-- The texts of the branches of a CASE expression. -/
def branchTexts : List Branch → String
  | [] => ""
  | ⟨condition, result⟩ :: bs =>
    " WHEN " ++ condition.render ++ " THEN " ++ result.render ++ branchTexts bs

/-- The canonical text of the parentheses of a call. -/
def Arguments.render : Arguments → String
  | .none => ""
  | .query query => "(" ++ query.render ++ ")"
  | .list treatment items clauses =>
    let items := argumentTexts items
    let clauses := clauseTexts clauses
    "(" ++ optional "" (treatment.map (· ++ " ")) ++ commas items ++
      textIf (!items.isEmpty && !clauses.isEmpty) " " ++ separated " " clauses ++ ")"

/-- The texts of the arguments of a call. -/
def argumentTexts : List Argument → List String
  | [] => []
  | .value label value :: as => (label ++ value.render) :: argumentTexts as
  | .star text :: as => text :: argumentTexts as
  | .labelled text :: as => text :: argumentTexts as

/-- The texts of the clauses after the arguments. -/
def clauseTexts : List ArgumentClause → List String
  | [] => []
  | .orderBy items :: cs => ("ORDER BY " ++ commas (orderTexts items)) :: clauseTexts cs
  | .silent text :: cs => text :: clauseTexts cs
  | .unmapped _ text :: cs => text :: clauseTexts cs

/-- The texts of sort keys. -/
def orderTexts : List OrderItem → List String
  | [] => []
  | ⟨key, direction⟩ :: os => (key.render ++ direction) :: orderTexts os

/-- The canonical text of a window. -/
def WindowSpec.render : WindowSpec → String
  | ⟨name, parens, reference, partitionBy, orderBy, frame, startOffset, stopOffset⟩ =>
    let partition := match exprTexts partitionBy with
      | [] => []
      | keys => ["PARTITION BY " ++ commas keys]
    let order := match orderTexts orderBy with
      | [] => []
      | keys => ["ORDER BY " ++ commas keys]
    let start := exprText? startOffset
    let stop := exprText? stopOffset
    let frame := (frame.map fun shape => shape.render start stop).toList
    let body := separated " " ((reference.map Ident.render).toList ++ partition ++ order ++ frame)
    optional "" (name.map fun n => n.render ++ " AS ") ++
      if parens then "(" ++ body ++ ")" else body

/-- The text of a window that may be absent. -/
def windowText? : Option WindowSpec → Option String
  | none => none
  | some w => some w.render

/-- The texts of the windows of a WINDOW clause. -/
def windowTexts : List WindowSpec → List String
  | [] => []
  | w :: ws => w.render :: windowTexts ws

/-- The canonical text of a query. -/
def Query.render : Query → String
  | ⟨recursive, ctes, body, orderBy, limit, offset, rows, fetch, quantity, tail⟩ =>
    (match cteTexts ctes with
      | [] => ""
      | ctes => "WITH " ++ textIf recursive "RECURSIVE " ++ commas ctes ++ " ") ++
    body.render ++
    (match orderTexts orderBy with
      | [] => ""
      | keys => " ORDER BY " ++ commas keys) ++
    optional " LIMIT " (exprText? limit) ++
    optional " OFFSET " ((exprText? offset).map (· ++ rows)) ++
    (match fetch with
      | none => ""
      | some text => " FETCH FIRST " ++ optional "" (exprText? quantity) ++ text) ++
    tail

/-- The texts of the named queries of a WITH clause. -/
def cteTexts : List Cte → List String
  | [] => []
  | ⟨tableAlias, materialized, query, source⟩ :: cs =>
    (tableAlias.render ++ " AS " ++ materialized ++ "(" ++ query.render ++ ")" ++ source) ::
      cteTexts cs

/-- The canonical text of the body of a query. -/
def SetExpr.render : SetExpr → String
  | .select select => select.render
  | .query query => "(" ++ query.render ++ ")"
  | .operation op quantifier left right =>
    left.render ++ " " ++ op.render quantifier ++ " " ++ right.render
  | .values explicitRow rows =>
    "VALUES " ++ commas ((rowTexts rows).map fun row => textIf explicitRow "ROW" ++ row)
  | .unmapped _ text => text

/-- The texts of the rows of a VALUES list. -/
def rowTexts : List (List Expr) → List String
  | [] => []
  | row :: rows => parenthesised (exprTexts row) :: rowTexts rows

/-- The canonical text of a SELECT. -/
def Select.render : Select → String
  | ⟨distinct, distinctOn, top, projection, into, source, lateralViews, condition, groupAll, groupBy,
      clustering, having, windows, windowFirst, qualify⟩ =>
    let keys := exprTexts groupBy
    let windowClause := match windowTexts windows with
      | [] => ""
      | windows => " WINDOW " ++ commas windows
    let qualifyClause := optional " QUALIFY " qualify
    "SELECT" ++
    (match distinct with
      | .no => ""
      | .row => " DISTINCT"
      | .on => " DISTINCT ON " ++ parenthesised (exprTexts distinctOn)) ++
    optional " " top ++ " " ++ commas (itemTexts projection) ++ into ++
    (match sourceTexts source with
      | [] => ""
      | tables => " FROM " ++ commas tables) ++
    String.join lateralViews ++
    optional " WHERE " (exprText? condition) ++
    (if groupAll then " GROUP BY ALL"
      else textIf (!keys.isEmpty) (" GROUP BY " ++ commas keys)) ++
    clustering ++ optional " HAVING " (exprText? having) ++
    (if windowFirst then windowClause ++ qualifyClause else qualifyClause ++ windowClause)

/-- The texts of the entries of a select list. -/
def itemTexts : List SelectItem → List String
  | [] => []
  | .value value :: is => value.render :: itemTexts is
  | .aliased value tableAlias :: is => (value.render ++ " AS " ++ tableAlias.render) :: itemTexts is
  | .star :: is => "*" :: itemTexts is
  | .qualifiedStar name :: is => (nameText name ++ ".*") :: itemTexts is

/-- The canonical text of a table reference with its joins. -/
def TableWithJoins.render : TableWithJoins → String
  | ⟨relation, joins⟩ => relation.render ++ joinTexts joins

/-- The texts of the tables of a FROM clause. -/
def sourceTexts : List TableWithJoins → List String
  | [] => []
  | t :: ts => t.render :: sourceTexts ts

/-- The text of the joins after a table. -/
def joinTexts : List Join → String
  | [] => ""
  | ⟨everywhere, kind, relation, shared, on⟩ :: js =>
    textIf everywhere " GLOBAL" ++ " " ++
    (match shared with
      | .natural => "NATURAL "
      | _ => "") ++
    kind.render ++ " " ++ relation.render ++
    (match kind with
      | .nearest condition => " MATCH_CONDITION (" ++ condition ++ ")"
      | _ => "") ++
    optional " ON " (exprText? on) ++
    (match shared with
      | .using columns => " USING" ++ parenthesised (columns.map Ident.render)
      | _ => "") ++
    joinTexts js

/-- The canonical text of a table reference. -/
def TableFactor.render : TableFactor → String
  | .table name before tableAlias after => nameText name ++ before ++ aliasText tableAlias ++ after
  | .derived lateral query tableAlias =>
    textIf lateral "LATERAL " ++ "(" ++ query.render ++ ")" ++ aliasText tableAlias
  | .nestedJoin inner tableAlias => "(" ++ inner.render ++ ")" ++ aliasText tableAlias
  | .unmapped _ text => text

end

/-! ## Statements -/

/-- The canonical text of an assignment. -/
def Assignment.render : Assignment → String
  | .column name value => nameText name ++ " = " ++ value.render
  | .tuple text => text

/-- The texts of the assignments of a SET clause. -/
def assignmentsText (assignments : List Assignment) : String :=
  commas (assignments.map Assignment.render)

/-- The text of a RETURNING clause. -/
def returningText (items : List SelectItem) : String :=
  textIf (!items.isEmpty) (" RETURNING " ++ commas (itemTexts items))

/-- The canonical text of what an INSERT does with a row that is there already. -/
def OnInsert.render : OnInsert → String
  | .duplicateKeyUpdate assignments => " ON DUPLICATE KEY UPDATE " ++ assignmentsText assignments
  | .conflictNothing target => " ON CONFLICT" ++ target ++ " DO NOTHING"
  | .conflictUpdate target assignments condition =>
    " ON CONFLICT" ++ target ++ " DO UPDATE SET " ++ assignmentsText assignments ++
      optional " WHERE " (exprText? condition)

/-- The canonical text of an INSERT. -/
def Insert.render (i : Insert) : String :=
  i.opening ++ " " ++ nameText i.table ++ optional " AS " (i.aliasName.map Ident.render) ++ " " ++
  textIf (!i.columns.isEmpty) (parenthesised (i.columns.map Ident.render) ++ " ") ++ i.partition ++
  (match i.source with
    | some query => query.render
    | none => textIf i.columns.isEmpty "DEFAULT VALUES") ++
  i.rowAlias ++ optional "" (i.onInsert.map OnInsert.render) ++ returningText i.returning

/-- The canonical text of an UPDATE. -/
def Update.render (u : Update) : String :=
  u.opening ++ " " ++ u.table.render ++ " SET " ++ assignmentsText u.assignments ++
  optional " FROM " (u.source.map TableWithJoins.render) ++
  optional " WHERE " (exprText? u.condition) ++ returningText u.returning

/-- The canonical text of a DELETE. -/
def Delete.render (d : Delete) : String :=
  "DELETE " ++ textIf (!d.targets.isEmpty) (commas (d.targets.map nameText) ++ " ") ++ "FROM " ++
  commas (sourceTexts d.source) ++
  textIf (!d.others.isEmpty) (" USING " ++ commas (sourceTexts d.others)) ++
  optional " WHERE " (exprText? d.condition) ++ returningText d.returning ++
  textIf (!d.orderBy.isEmpty) (" ORDER BY " ++ commas (orderTexts d.orderBy)) ++
  optional " LIMIT " (exprText? d.limit)

/-- The canonical text of a column of a table definition. -/
def ColumnDecl.render (c : ColumnDecl) : String :=
  c.name.render ++ " " ++ c.type.render ++ c.collation ++
  String.join (c.options.map fun option => " " ++ option.text)

/-- The canonical text of a CREATE TABLE. Only a table that is made from another one lacks the
list of columns. -/
def CreateTable.render (c : CreateTable) : String :=
  let elements := c.columns.map ColumnDecl.render ++ c.constraints.map TableConstraint.text
  let bare := c.query.isSome || c.like.isSome || c.clone.isSome
  c.opening ++ " " ++ nameText c.name ++ c.cluster ++
  textIf (!elements.isEmpty || !bare) (" " ++ parenthesised elements) ++
  optional " LIKE " (c.like.map nameText) ++ optional " CLONE " (c.clone.map nameText) ++
  c.options ++ optional " AS " (c.query.map Query.render)

/-- The canonical text of an ALTER TABLE. -/
def AlterTable.render (a : AlterTable) : String :=
  a.opening ++ " " ++ nameText a.name ++ " " ++ a.cluster ++
    commas (a.actions.map AlterAction.text) ++ a.location

/-- The canonical text of a statement. -/
def Statement.render : Statement → String
  | .query q => q.render
  | .insert i => i.render
  | .update u => u.render
  | .delete d => d.render
  | .createTable c => c.render
  | .alterTable a => a.render
  | .dropTables _ _ text => text
  | .createSchema _ _ text => text
  | .unmapped _ text => text

end TypedSql.Sql
