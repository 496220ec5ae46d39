import TypedSql.Proofs.Conversion.Tally

/-!
# Levels of queries

Where a MySQL statement has queries, read off the syntax tree alone.

- `Level`: a query of a statement and how many placeholders are converted before it
- `Levels.statement`: the levels of a statement

Clauses are converted in the order of the text, apart from the operands of a LIMIT: whether the
offset stands first is one flag for the whole statement.
-/

namespace TypedSql.Canonical

/-- A placeholder of MySQL, as an expression. -/
def markExpr : Sql.Expr := .literal (.placeholder "?")

/-- Whether an expression is a placeholder of MySQL. -/
def isMark : Sql.Expr → Bool
  | .literal (.placeholder text) => text = "?"
  | _ => false

theorem eq_markExpr {e : Sql.Expr} (h : isMark e) : e = markExpr := by
  unfold isMark at h
  split at h
  · simp_all [markExpr]
  · cases h

/-- A query of a statement. -/
structure Level where
  query : Sql.Query
  /-- How many placeholders of the statement are converted before those of the query. -/
  start : Nat

namespace Level

/-- How many placeholders of the statement are converted before the LIMIT of the query. -/
def beforeLimit (level : Level) : Nat :=
  level.start + (Tally.namedQueries level.query.ctes).written +
    (Tally.setExpr level.query.body).whole.written + (Tally.orderKeys level.query.orderBy).written

/-- Whether the query has a LIMIT, an OFFSET or a FETCH of its own. -/
def hasLimit (level : Level) : Bool :=
  level.query.limit.isSome || level.query.offset.isSome || level.query.fetchQuantity.isSome

/-- Whether the query has a LIMIT with a placeholder for the count, and another one for the offset,
if there is an offset. -/
def isMarked (level : Level) : Bool :=
  level.query.limit.any isMark && level.query.offset.all isMark && level.query.fetchQuantity.isNone

theorem limit_of_isMarked {level : Level} (h : level.isMarked) :
    level.query.limit = some markExpr := by
  simp only [isMarked, Bool.and_eq_true, Option.any_eq_true] at h
  obtain ⟨⟨⟨e, he, hmark⟩, -⟩, -⟩ := h
  rw [he, eq_markExpr hmark]

theorem offset_of_isMarked {level : Level} (h : level.isMarked) :
    level.query.offset = none ∨ level.query.offset = some markExpr := by
  simp only [isMarked, Bool.and_eq_true, Option.all_eq_true] at h
  obtain ⟨⟨-, hoffset⟩, -⟩ := h
  rcases he : level.query.offset with _ | e
  · exact .inl rfl
  · exact .inr (congrArg some (eq_markExpr (hoffset e he)))

theorem fetchQuantity_of_isMarked {level : Level} (h : level.isMarked) :
    level.query.fetchQuantity = none := by
  simp only [isMarked, Bool.and_eq_true, Option.isNone_iff_eq_none] at h
  exact h.2

/-- The number of the placeholder written as the count of a LIMIT, from whether the LIMIT is
written with a comma. -/
def countNumber (level : Level) (comma : Bool) : Nat :=
  level.beforeLimit + if comma && level.query.offset.isSome then 2 else 1

/-- The number of the placeholder written as the offset of a LIMIT, from whether the LIMIT is
written with a comma. -/
def offsetNumber (level : Level) (comma : Bool) : Nat :=
  level.beforeLimit + if comma then 1 else 2

end Level

/-! ## Levels of constructs -/

/-- The levels of a construct, from how many placeholders are converted before it. -/
def Levels := Nat → List Level

namespace Levels

/-- A construct without queries. -/
def none : Levels := fun _ => []

/-- The levels of a construct with the tally `t`, and of what is converted after it. -/
def andThen (first : Levels) (t : Tally) (second : Levels) : Levels :=
  fun n => first n ++ second (n + t.written)

@[simp] theorem andThen_none (first : Levels) (t : Tally) : first.andThen t none = first := by
  funext n
  exact List.append_nil _

/-- The levels of a query that a predicate tests: it is left out if it does not convert. -/
def tested (levels : Levels) (t : Tally) : Levels := if t.converts then levels else none

/-- The levels of two clauses, of which the first one may be converted after the second one. -/
def inOrder (straight : Bool) (first : Levels) (t : Tally) (second : Levels) (u : Tally) : Levels :=
  if straight then first.andThen t second else second.andThen u first

mutual

/-- The levels of an expression. -/
def expr (comma : Bool) : Sql.Expr → Levels
  | .column .. => none
  | .literal _ => none
  | .nested inner => expr comma inner
  | .binary left _ right => (expr comma left).andThen (.expr left) (expr comma right)
  | .unary _ operand => expr comma operand
  | .isNull operand _ => expr comma operand
  | .inList operand items _ => (expr comma operand).andThen (.expr operand) (exprs comma items)
  | .between operand low high _ =>
    (expr comma operand).andThen (.expr operand) ((expr comma low).andThen (.expr low)
      (expr comma high))
  | .like _ _ operand pattern _ _ =>
    (expr comma operand).andThen (.expr operand) (expr comma pattern)
  | .inQuery operand q _ =>
    (expr comma operand).andThen (.expr operand) ((query comma q).tested (Tally.query q).whole)
  | .exists q _ => (query comma q).tested (Tally.query q).whole
  | .subquery q => query comma q
  | .cast _ operand _ => expr comma operand
  | .case operand bs default =>
    (exprOption comma operand).andThen (.exprOption operand) ((branches comma bs).andThen
      (.branches bs) (exprOption comma default))
  | .call _ args withinGroup filter _ w _ =>
    (arguments comma args).andThen (.arguments args) ((orderKeys comma withinGroup).andThen
      (.orderKeys withinGroup) ((exprOption comma filter).andThen (.exprOption filter)
        (windowOption comma w)))
  | .keywordCall _ _ args => exprs comma args
  | .unmapped .. => none

/-- The levels of the expressions of a list. -/
def exprs (comma : Bool) : List Sql.Expr → Levels
  | [] => none
  | e :: es => (expr comma e).andThen (.expr e) (exprs comma es)

/-- The levels of an expression that may be absent. -/
def exprOption (comma : Bool) : Option Sql.Expr → Levels
  | .none => none
  | some e => expr comma e

/-- The levels of the branches of a CASE expression. -/
def branches (comma : Bool) : List Sql.Branch → Levels
  | [] => none
  | ⟨condition, result⟩ :: bs =>
    (expr comma condition).andThen (.expr condition) ((expr comma result).andThen (.expr result)
      (branches comma bs))

/-- The levels of what stands in the parentheses of a call. -/
def arguments (comma : Bool) : Sql.Arguments → Levels
  | .none => none
  | .query q => query comma q
  | .list _ items clauses =>
    (argumentItems comma items).andThen (.argumentItems items) (argumentClauses comma clauses)

/-- The levels of the arguments of a call. -/
def argumentItems (comma : Bool) : List Sql.Argument → Levels
  | [] => none
  | .value _ value :: as => (expr comma value).andThen (.expr value) (argumentItems comma as)
  | .star _ :: as => argumentItems comma as
  | .labelled text :: as => none.andThen (.skipped text) (argumentItems comma as)

/-- The levels of the clauses after the arguments of a call. -/
def argumentClauses (comma : Bool) : List Sql.ArgumentClause → Levels
  | [] => none
  | .orderBy items :: cs =>
    (orderKeys comma items).andThen (.orderKeys items) (argumentClauses comma cs)
  | .silent _ :: cs => argumentClauses comma cs
  | .unmapped _ text :: cs => none.andThen (.skipped text) (argumentClauses comma cs)

/-- The levels of sort keys. -/
def orderKeys (comma : Bool) : List Sql.OrderItem → Levels
  | [] => none
  | ⟨key, _⟩ :: os => (expr comma key).andThen (.expr key) (orderKeys comma os)

/-- The levels of a window. -/
def window (comma : Bool) : Sql.WindowSpec → Levels
  | ⟨_, _, _, partitionBy, orderBy, _, startOffset, stopOffset⟩ =>
    (exprs comma partitionBy).andThen (.exprs partitionBy) ((orderKeys comma orderBy).andThen
      (.orderKeys orderBy) ((exprOption comma startOffset).andThen (.exprOption startOffset)
        (exprOption comma stopOffset)))

/-- The levels of the window of a call. -/
def windowOption (comma : Bool) : Option Sql.WindowSpec → Levels
  | .none => none
  | some w => window comma w

/-- The levels of the windows of a WINDOW clause. -/
def windows (comma : Bool) : List Sql.WindowSpec → Levels
  | [] => none
  | w :: ws => (window comma w).andThen (.window w) (windows comma ws)

/-- The levels of a query: the query itself and those inside it. -/
def query (comma : Bool) : Sql.Query → Levels
  | ⟨recursive, ctes, body, orderBy, limit, offset, rows, fetch, quantity, tail⟩ => fun n =>
    ⟨⟨recursive, ctes, body, orderBy, limit, offset, rows, fetch, quantity, tail⟩, n⟩ ::
      (namedQueries comma ctes).andThen (.namedQueries ctes) ((setExpr comma body).andThen
        (Tally.setExpr body).whole ((orderKeys comma orderBy).andThen (.orderKeys orderBy)
          ((inOrder comma (exprOption comma offset) (.exprOption offset) (exprOption comma limit)
            (.exprOption limit)).andThen (.exprOption offset + .exprOption limit)
              (exprOption comma quantity)))) n

/-- The levels of the queries of a WITH clause. -/
def namedQueries (comma : Bool) : List Sql.Cte → Levels
  | [] => none
  | ⟨_, _, q, _⟩ :: cs =>
    (query comma q).andThen (Tally.query q).whole (namedQueries comma cs)

/-- The levels of the body of a query. -/
def setExpr (comma : Bool) : Sql.SetExpr → Levels
  | .select s => select comma s
  | .query q => query comma q
  | .operation _ _ left right =>
    (setExpr comma left).andThen (Tally.setExpr left).whole (setExpr comma right)
  | .values _ items => rows comma items
  | .unmapped .. => none

/-- The levels of the rows of a VALUES. -/
def rows (comma : Bool) : List (List Sql.Expr) → Levels
  | [] => none
  | row :: rest => (exprs comma row).andThen (.exprs row) (rows comma rest)

/-- The levels of a SELECT. -/
def select (comma : Bool) : Sql.Select → Levels
  | ⟨_, distinctOn, top, projection, _, source, lateralViews, condition, _, groupBy, _, having, ws,
      windowFirst, qualify⟩ =>
    none.andThen (.skippedAll top.toList) ((exprs comma distinctOn).andThen (.exprs distinctOn)
      ((selectItems comma projection).andThen (.selectItems projection)
        ((tables comma source).andThen (.tables source) (none.andThen (.skippedAll lateralViews)
          ((exprOption comma condition).andThen (.exprOption condition)
            ((exprs comma groupBy).andThen (.exprs groupBy)
              ((exprOption comma having).andThen (.exprOption having) (inOrder windowFirst
                (windows comma ws) (.windows ws) none (.skippedAll qualify.toList)))))))))

/-- The levels of the entries of a select list. -/
def selectItems (comma : Bool) : List Sql.SelectItem → Levels
  | [] => none
  | .value value :: is => (expr comma value).andThen (.expr value) (selectItems comma is)
  | .aliased value _ :: is => (expr comma value).andThen (.expr value) (selectItems comma is)
  | .star :: is => selectItems comma is
  | .qualifiedStar _ :: is => selectItems comma is

/-- The levels of the tables of a FROM clause. -/
def tables (comma : Bool) : List Sql.TableWithJoins → Levels
  | [] => none
  | t :: ts => (table comma t).andThen (.table t) (tables comma ts)

/-- The levels of a table and what it is joined with. -/
def table (comma : Bool) : Sql.TableWithJoins → Levels
  | ⟨relation, js⟩ => (factor comma relation).andThen (.factor relation) (joins comma js)

/-- The levels of joins. The condition of a join without canonical form is left out. -/
def joins (comma : Bool) : List Sql.Join → Levels
  | [] => none
  | ⟨_, kind, relation, _, on⟩ :: js =>
    (factor comma relation).andThen (.factor relation)
      (if (Conversion.unmappedJoin? kind).isSome then joins comma js
      else (exprOption comma on).andThen (.exprOption on) (joins comma js))

/-- The levels of a table reference. -/
def factor (comma : Bool) : Sql.TableFactor → Levels
  | .table .. => none
  | .derived _ q _ => query comma q
  | .nestedJoin inner _ => table comma inner
  | .unmapped .. => none

end

/-! ## Levels of statements -/

/-- The levels of the assignments of a SET clause. -/
def assignments (comma : Bool) : List Sql.Assignment → Levels
  | [] => none
  | .column _ value :: as => (expr comma value).andThen (.expr value) (assignments comma as)
  | .tuple text :: as => none.andThen (.skipped text) (assignments comma as)

/-- The levels of what an INSERT does with a row that is there already. -/
def onInsert (comma : Bool) : Option Sql.OnInsert → Levels
  | some (.duplicateKeyUpdate as) => assignments comma as
  | some (.conflictUpdate _ as condition) =>
    (assignments comma as).andThen (.assignments as) (exprOption comma condition)
  | some (.conflictNothing _) => none
  | .none => none

/-- The levels of what an INSERT writes. -/
def insertSource (comma : Bool) : Option Sql.Query → Levels
  | .none => none
  | some q => query comma q

/-- The levels of a table with joins that may be absent. -/
def tableOption (comma : Bool) : Option Sql.TableWithJoins → Levels
  | .none => none
  | some t => table comma t

/-- The levels of a statement. The statements that change the schema have none. -/
def statement (comma : Bool) : Sql.Statement → Levels
  | .query q => query comma q
  | .insert i =>
    (insertSource comma i.source).andThen (.insertSource i.source)
      ((onInsert comma i.onInsert).andThen (.onInsert i.onInsert) (selectItems comma i.returning))
  | .update u =>
    (table comma u.table).andThen (.table u.table) ((assignments comma u.assignments).andThen
      (.assignments u.assignments) ((tableOption comma u.source).andThen (.tableOption u.source)
        ((exprOption comma u.condition).andThen (.exprOption u.condition)
          (selectItems comma u.returning))))
  | .delete d =>
    (tables comma d.source).andThen (.tables d.source) ((tables comma d.others).andThen
      (.tables d.others) ((exprOption comma d.condition).andThen (.exprOption d.condition)
        ((orderKeys comma d.orderBy).andThen (.orderKeys d.orderBy)
          ((exprOption comma d.limit).andThen (.exprOption d.limit)
            (selectItems comma d.returning)))))
  | _ => none

end Levels

end TypedSql.Canonical
