import TypedSql.Canonical.Conversion

/-!
# Tallies of placeholders

How many placeholders of a MySQL statement its canonical tree holds, read off the syntax tree alone.
A tally tells, for each construct, how many of its placeholders are kept and how many are lost, and
whether the construct converts.

- `Tally`: kept and lost placeholders of a construct
- `Clauses`: the tally of a query, with the four clauses apart that an outer query can take over
- `Tally.statement`: the tally of a statement

Placeholders are lost in three ways: with a clause of a parenthesised query that an outer clause
replaces, with a tested query that does not convert, and in texts that no stage looks into.
-/

namespace TypedSql.Canonical

/-- How many placeholders of a construct the canonical tree keeps. -/
structure Tally where
  kept : Nat
  /-- The placeholders of the construct that no node holds. -/
  lost : Nat
  /-- Whether the construct has a canonical form. -/
  converts : Bool

namespace Tally

/-- All placeholders of a construct. -/
def written (t : Tally) : Nat := t.kept + t.lost

instance : Zero Tally := ⟨⟨0, 0, true⟩⟩

instance : Add Tally := ⟨fun t u => ⟨t.kept + u.kept, t.lost + u.lost, t.converts && u.converts⟩⟩

@[simp] theorem kept_zero : (0 : Tally).kept = 0 := rfl

@[simp] theorem lost_zero : (0 : Tally).lost = 0 := rfl

@[simp] theorem converts_zero : (0 : Tally).converts = true := rfl

@[simp] theorem kept_add (t u : Tally) : (t + u).kept = t.kept + u.kept := rfl

@[simp] theorem lost_add (t u : Tally) : (t + u).lost = t.lost + u.lost := rfl

@[simp] theorem converts_add (t u : Tally) : (t + u).converts = (t.converts && u.converts) := rfl

@[simp] theorem written_zero : written 0 = 0 := rfl

@[simp] theorem written_add (t u : Tally) : (t + u).written = t.written + u.written := by
  simp only [written, kept_add, lost_add]
  omega

@[simp] theorem zero_add (t : Tally) : 0 + t = t := by
  show (⟨0 + t.kept, 0 + t.lost, true && t.converts⟩ : Tally) = t
  simp

@[simp] theorem add_zero (t : Tally) : t + 0 = t := by
  show (⟨t.kept + 0, t.lost + 0, t.converts && true⟩ : Tally) = t
  simp

/-- The placeholders of a text that is cut into tokens. -/
def marks (text : String) : Nat := (Conversion.placeholdersOf .mysql text).count "?"

/-- A text that no stage looks into. -/
def silent (text : String) : Tally := ⟨0, marks text, true⟩

/-- A construct without canonical form, by its text: its placeholders are kept. -/
def skipped (text : String) : Tally := ⟨marks text, 0, true⟩

/-- Several constructs without canonical form. -/
def skippedAll : List String → Tally
  | [] => 0
  | text :: texts => skipped text + skippedAll texts

/-- Several texts that no stage looks into. -/
def silentAll : List String → Tally
  | [] => 0
  | text :: texts => silent text + silentAll texts

theorem kept_silentAll (texts : List String) : (silentAll texts).kept = 0 := by
  induction texts with
  | nil => rfl
  | cons text texts ih => simpa [silentAll, silent] using ih

theorem converts_silentAll (texts : List String) : (silentAll texts).converts = true := by
  induction texts with
  | nil => rfl
  | cons text texts ih => simpa [silentAll, silent] using ih

/-- A construct that conversion leaves out. -/
def dropped (t : Tally) : Tally := ⟨0, t.written, true⟩

/-- A query that a predicate tests: it is left out if it does not convert. -/
def tested (t : Tally) : Tally := if t.converts then t else t.dropped

/-- The name of a table, which has at most three parts. -/
def tableName (name : Sql.ObjectName) : Tally := ⟨0, 0, 0 < name.length && name.length ≤ 3⟩

/-- The texts of a table alias. -/
def aliasTexts (a : Option Sql.TableAlias) : List String := (a.map (·.columns)).toList

/-- A literal. Only the placeholder of MySQL converts. -/
def literal : Sql.Literal → Tally
  | .placeholder text => if text = "?" then ⟨1, 0, true⟩ else ⟨0, 0, false⟩
  | .number .. | .boolean _ | .null => 0
  | .string .single _ | .string .double _ | .string .escaped _ | .string .national _ => 0
  | other => skipped other.render

end Tally

/-- A clause of a query that an outer query can take over. -/
inductive Clause where
  | ctes
  | orderBy
  | limit
  | offset
  deriving DecidableEq

/-- The tally of a query. The placeholders kept in the clauses that an outer query can take over
stand apart from the rest. -/
structure Clauses where
  kept : Clause → Nat
  rest : Tally

namespace Clauses

/-- A query without clauses that an outer query can take over. -/
def plain (t : Tally) : Clauses := ⟨fun _ => 0, t⟩

/-- The tally of the whole query. -/
def whole (c : Clauses) : Tally :=
  { c.rest with
    kept := c.rest.kept + c.kept .ctes + c.kept .orderBy + c.kept .limit + c.kept .offset }

/-- Puts a clause around a query, if it is there. What the query has in its place is lost. -/
def put (c : Clauses) (k : Clause) (present : Bool) (t : Tally) : Clauses :=
  if present then
    ⟨fun j => if j = k then t.kept else c.kept j,
      ⟨c.rest.kept, c.rest.lost + t.lost + c.kept k, c.rest.converts && t.converts⟩⟩
  else c

/-- Adds texts that no stage looks into. -/
def withTexts (c : Clauses) (t : Tally) : Clauses := { c with rest := c.rest + t }

@[simp] theorem whole_plain (t : Tally) : (plain t).whole = t := rfl

/-- A clause adds its placeholders to those written. -/
theorem written_put (c : Clauses) (k : Clause) {present : Bool} {t : Tally}
    (h : present = false → t = 0) :
    (c.put k present t).whole.written = c.whole.written + t.written := by
  cases present with
  | false => simp [put, h rfl, Tally.written]
  | true => cases k <;> simp [put, whole, Tally.written] <;> omega

theorem converts_put (c : Clauses) (k : Clause) {present : Bool} {t : Tally}
    (h : present = false → t = 0) :
    (c.put k present t).whole.converts = (c.whole.converts && t.converts) := by
  cases present with
  | false => simp [put, h rfl]
  | true => simp [put, whole]

/-- A query loses what is lost in a clause that is put around it, and what it has in the place of
that clause. -/
theorem lost_put (c : Clauses) (k : Clause) {present : Bool} {t : Tally}
    (h : present = false → t = 0) :
    (c.put k present t).whole.lost = c.whole.lost + t.lost + if present then c.kept k else 0 := by
  cases present with
  | false => simp [put, h rfl]
  | true => simp [put, whole]

theorem kept_put_self (c : Clauses) (k : Clause) (present : Bool) (t : Tally) :
    (c.put k present t).kept k = if present then t.kept else c.kept k := by
  unfold put
  split <;> simp

theorem kept_put_of_ne {c : Clauses} {j k : Clause} (h : j ≠ k) (present : Bool) (t : Tally) :
    (c.put k present t).kept j = c.kept j := by
  unfold put
  split <;> simp [h]

theorem written_withTexts (c : Clauses) (t : Tally) :
    (c.withTexts t).whole.written = c.whole.written + t.written := by
  simp [withTexts, whole, Tally.written]
  omega

theorem lost_withTexts (c : Clauses) (t : Tally) :
    (c.withTexts t).whole.lost = c.whole.lost + t.lost := rfl

theorem converts_withTexts (c : Clauses) (t : Tally) :
    (c.withTexts t).whole.converts = (c.whole.converts && t.converts) := rfl

end Clauses

/-! ## Expressions and queries -/

namespace Tally

mutual

/-- The tally of an expression. -/
def expr : Sql.Expr → Tally
  | .column .. => 0
  | .literal value => literal value
  | .nested inner => expr inner
  | .binary left _ right => expr left + expr right
  | .unary _ operand => expr operand
  | .isNull operand _ => expr operand
  | .inList operand items _ => expr operand + exprs items
  | .between operand low high _ => expr operand + (expr low + expr high)
  | .like _ _ operand pattern _ _ => expr operand + expr pattern
  | .inQuery operand q _ => expr operand + tested (query q).whole
  | .exists q _ => tested (query q).whole
  | .subquery q => (query q).whole
  | .cast form operand _ => expr operand + castForm form
  | .case operand bs default => exprOption operand + (branches bs + exprOption default)
  | .call _ args withinGroup filter nulls w _ =>
    arguments args + (orderKeys withinGroup + (exprOption filter + windowOption w)) +
      silentAll nulls.toList
  | .keywordCall _ words args => exprs args + silentAll words
  | .unmapped _ text => skipped text
where
  /-- The text of a format clause. -/
  castForm : Sql.CastForm → Tally
    | .operator => 0
    | .call _ format => silent format

/-- The tally of the expressions of a list. -/
def exprs : List Sql.Expr → Tally
  | [] => 0
  | e :: es => expr e + exprs es

/-- The tally of an expression that may be absent. -/
def exprOption : Option Sql.Expr → Tally
  | none => 0
  | some e => expr e

/-- The tally of the branches of a CASE expression. -/
def branches : List Sql.Branch → Tally
  | [] => 0
  | ⟨condition, result⟩ :: bs => expr condition + (expr result + branches bs)

/-- The tally of what stands in the parentheses of a call. -/
def arguments : Sql.Arguments → Tally
  | .none => 0
  | .query q => (query q).whole
  | .list _ items clauses => argumentItems items + argumentClauses clauses

/-- The tally of the arguments of a call. -/
def argumentItems : List Sql.Argument → Tally
  | [] => 0
  | .value label value :: as => expr value + argumentItems as + silent label
  | .star text :: as => argumentItems as + silent text
  | .labelled text :: as => skipped text + argumentItems as

/-- The tally of the clauses after the arguments of a call. -/
def argumentClauses : List Sql.ArgumentClause → Tally
  | [] => 0
  | .orderBy items :: cs => orderKeys items + argumentClauses cs
  | .silent text :: cs => argumentClauses cs + silent text
  | .unmapped _ text :: cs => skipped text + argumentClauses cs

/-- The tally of sort keys. -/
def orderKeys : List Sql.OrderItem → Tally
  | [] => 0
  | ⟨key, direction⟩ :: os => expr key + orderKeys os + silent direction

/-- The tally of a window. -/
def window : Sql.WindowSpec → Tally
  | ⟨_, _, _, partitionBy, orderBy, _, startOffset, stopOffset⟩ =>
    exprs partitionBy + (orderKeys orderBy + (exprOption startOffset + exprOption stopOffset))

/-- The tally of the window of a call. -/
def windowOption : Option Sql.WindowSpec → Tally
  | none => 0
  | some w => window w

/-- The tally of the windows of a WINDOW clause. -/
def windows : List Sql.WindowSpec → Tally
  | [] => 0
  | w :: ws => window w + windows ws

/-- The tally of a query: its clauses replace those of its body. -/
def query : Sql.Query → Clauses
  | ⟨_, ctes, body, orderBy, limit, offset, rows, fetch, quantity, tail⟩ =>
    (setExpr body).put .ctes (!ctes.isEmpty) (namedQueries ctes)
      |>.put .orderBy (!orderBy.isEmpty) (orderKeys orderBy)
      |>.put .limit limit.isSome (exprOption limit)
      |>.put .offset offset.isSome (exprOption offset)
      |>.put .limit quantity.isSome (exprOption quantity)
      |>.withTexts (silentAll (rows :: tail :: fetch.toList))

/-- The tally of the queries of a WITH clause. -/
def namedQueries : List Sql.Cte → Tally
  | [] => 0
  | ⟨tableAlias, materialized, q, source⟩ :: cs =>
    (query q).whole + namedQueries cs + silentAll [tableAlias.columns, materialized, source]

/-- The tally of the body of a query. -/
def setExpr : Sql.SetExpr → Clauses
  | .select s => .plain (select s)
  | .query q => query q
  | .operation _ _ left right => .plain ((setExpr left).whole + (setExpr right).whole)
  | .values _ items => .plain (rows items)
  | .unmapped _ text => .plain (skipped text)

/-- The tally of the rows of a VALUES. -/
def rows : List (List Sql.Expr) → Tally
  | [] => 0
  | row :: rest => exprs row + rows rest

/-- The tally of a SELECT. -/
def select : Sql.Select → Tally
  | ⟨_, distinctOn, top, projection, into, source, lateralViews, condition, _, groupBy, clustering,
      having, ws, _, qualify⟩ =>
    skippedAll top.toList + (exprs distinctOn + (selectItems projection + (tables source +
      (skippedAll lateralViews + (exprOption condition + (exprs groupBy + (exprOption having +
        (windows ws + skippedAll qualify.toList)))))))) + silentAll [into, clustering]

/-- The tally of the entries of a select list. -/
def selectItems : List Sql.SelectItem → Tally
  | [] => 0
  | .value value :: is => expr value + selectItems is
  | .aliased value _ :: is => expr value + selectItems is
  | .star :: is => selectItems is
  | .qualifiedStar _ :: is => selectItems is

/-- The tally of the tables of a FROM clause. -/
def tables : List Sql.TableWithJoins → Tally
  | [] => 0
  | t :: ts => table t + tables ts

/-- The tally of a table and what it is joined with. -/
def table : Sql.TableWithJoins → Tally
  | ⟨relation, js⟩ => factor relation + joins js

/-- The tally of joins. The condition of a join without canonical form is left out. -/
def joins : List Sql.Join → Tally
  | [] => 0
  | ⟨_, kind, relation, _, on⟩ :: js =>
    factor relation +
      ((if (Conversion.unmappedJoin? kind).isSome then (exprOption on).dropped else exprOption on) +
        joins js) + silentAll (matchCondition kind).toList
where
  /-- The text of a match condition. -/
  matchCondition : Sql.JoinKind → Option String
    | .nearest condition => some condition
    | _ => none

/-- The tally of a table reference. -/
def factor : Sql.TableFactor → Tally
  | .table name before tableAlias after =>
    tableName name + silentAll (aliasTexts tableAlias ++ [before, after])
  | .derived _ q tableAlias => (query q).whole + silentAll (aliasTexts tableAlias)
  | .nestedJoin inner tableAlias => table inner + silentAll (aliasTexts tableAlias)
  | .unmapped _ text => skipped text

end

theorem namedQueries_of_isEmpty {ctes : List Sql.Cte} (h : (!ctes.isEmpty) = false) :
    namedQueries ctes = 0 := by
  cases ctes with
  | nil => rfl
  | cons => simp at h

theorem orderKeys_of_isEmpty {orderBy : List Sql.OrderItem} (h : (!orderBy.isEmpty) = false) :
    orderKeys orderBy = 0 := by
  cases orderBy with
  | nil => rfl
  | cons => simp at h

theorem exprOption_of_isNone {e : Option Sql.Expr} (h : e.isSome = false) : exprOption e = 0 := by
  cases e with
  | none => rfl
  | some => simp at h

/-- All placeholders of the clauses of a query are written in it. -/
theorem written_query (q : Sql.Query) :
    (query q).whole.written =
      (setExpr q.body).whole.written + (namedQueries q.ctes).written +
        (orderKeys q.orderBy).written + (exprOption q.limit).written +
          (exprOption q.offset).written + (exprOption q.fetchQuantity).written +
            (silentAll (q.rows :: q.tail :: q.fetch.toList)).written := by
  obtain ⟨recursive, ctes, body, orderBy, limit, offset, rows, fetch, quantity, tail⟩ := q
  rw [query, Clauses.written_withTexts, Clauses.written_put _ _ exprOption_of_isNone,
    Clauses.written_put _ _ exprOption_of_isNone, Clauses.written_put _ _ exprOption_of_isNone,
    Clauses.written_put _ _ orderKeys_of_isEmpty, Clauses.written_put _ _ namedQueries_of_isEmpty]

/-- A query converts if all of its clauses do. -/
theorem converts_query (q : Sql.Query) :
    (query q).whole.converts =
      ((setExpr q.body).whole.converts && (namedQueries q.ctes).converts &&
        (orderKeys q.orderBy).converts && (exprOption q.limit).converts &&
          (exprOption q.offset).converts && (exprOption q.fetchQuantity).converts) := by
  obtain ⟨recursive, ctes, body, orderBy, limit, offset, rows, fetch, quantity, tail⟩ := q
  rw [query, Clauses.converts_withTexts, converts_silentAll, Bool.and_true,
    Clauses.converts_put _ _ exprOption_of_isNone, Clauses.converts_put _ _ exprOption_of_isNone,
    Clauses.converts_put _ _ exprOption_of_isNone, Clauses.converts_put _ _ orderKeys_of_isEmpty,
    Clauses.converts_put _ _ namedQueries_of_isEmpty]

/-- A query loses what is lost in its clauses and what its body has in the place of them. The
quantity of a FETCH takes the place of a LIMIT. -/
theorem lost_query (q : Sql.Query) :
    (query q).whole.lost =
      (setExpr q.body).whole.lost +
        ((namedQueries q.ctes).lost + if !q.ctes.isEmpty then (setExpr q.body).kept .ctes else 0) +
        ((orderKeys q.orderBy).lost +
          if !q.orderBy.isEmpty then (setExpr q.body).kept .orderBy else 0) +
        ((exprOption q.limit).lost + if q.limit.isSome then (setExpr q.body).kept .limit else 0) +
        ((exprOption q.offset).lost +
          if q.offset.isSome then (setExpr q.body).kept .offset else 0) +
        ((exprOption q.fetchQuantity).lost + if q.fetchQuantity.isSome then
          if q.limit.isSome then (exprOption q.limit).kept else (setExpr q.body).kept .limit
        else 0) +
        (silentAll (q.rows :: q.tail :: q.fetch.toList)).lost := by
  obtain ⟨recursive, ctes, body, orderBy, limit, offset, rows, fetch, quantity, tail⟩ := q
  rw [query, Clauses.lost_withTexts, Clauses.lost_put _ _ exprOption_of_isNone,
    Clauses.lost_put _ _ exprOption_of_isNone, Clauses.lost_put _ _ exprOption_of_isNone,
    Clauses.lost_put _ _ orderKeys_of_isEmpty, Clauses.lost_put _ _ namedQueries_of_isEmpty]
  -- what a clause takes the place of is what the body has there, but for the quantity
  rw [Clauses.kept_put_of_ne (by decide : Clause.limit ≠ .offset), Clauses.kept_put_self,
    Clauses.kept_put_of_ne (by decide : Clause.offset ≠ .limit),
    Clauses.kept_put_of_ne (by decide : Clause.offset ≠ .orderBy),
    Clauses.kept_put_of_ne (by decide : Clause.offset ≠ .ctes),
    Clauses.kept_put_of_ne (by decide : Clause.limit ≠ .orderBy),
    Clauses.kept_put_of_ne (by decide : Clause.limit ≠ .ctes),
    Clauses.kept_put_of_ne (by decide : Clause.orderBy ≠ .ctes)]
  dsimp only
  omega

theorem lost_le_query (q : Sql.Query) :
    (setExpr q.body).whole.lost + (namedQueries q.ctes).lost + (orderKeys q.orderBy).lost +
      (exprOption q.limit).lost + (exprOption q.offset).lost + (exprOption q.fetchQuantity).lost +
        (silentAll (q.rows :: q.tail :: q.fetch.toList)).lost ≤ (query q).whole.lost := by
  rw [lost_query]
  omega

/-! ## Statements -/

/-- The tally of the assignments of a SET clause. -/
def assignments : List Sql.Assignment → Tally
  | [] => 0
  | .column name value :: as => ⟨0, 0, !name.isEmpty⟩ + (expr value + assignments as)
  | .tuple text :: as => skipped text + assignments as

/-- The tally of what an INSERT does with a row that is there already. -/
def onInsert : Option Sql.OnInsert → Tally
  | some (.duplicateKeyUpdate as) => assignments as
  | some (.conflictUpdate target as condition) =>
    assignments as + exprOption condition + silent target
  | some (.conflictNothing target) => silent target
  | none => 0

/-- The tally of what an INSERT writes. -/
def insertSource : Option Sql.Query → Tally
  | none => 0
  | some q => (query q).whole

/-- The tally of a table with joins that may be absent. -/
def tableOption : Option Sql.TableWithJoins → Tally
  | none => 0
  | some t => table t

/-- The tally of a statement. Nothing is kept of the statements that change the schema. -/
def statement : Sql.Statement → Tally
  | .query q => (query q).whole
  | .insert i =>
    tableName i.table + (insertSource i.source + (onInsert i.onInsert + selectItems i.returning)) +
      silentAll [i.opening, i.partition, i.rowAlias]
  | .update u =>
    table u.table + (assignments u.assignments + (tableOption u.source +
      (exprOption u.condition + selectItems u.returning))) + silent u.opening
  | .delete d =>
    tables d.source + (tables d.others + (exprOption d.condition + (orderKeys d.orderBy +
      (exprOption d.limit + selectItems d.returning))))
  | .unmapped _ text => skipped text
  | definition => silent definition.render

end Tally

end TypedSql.Canonical
