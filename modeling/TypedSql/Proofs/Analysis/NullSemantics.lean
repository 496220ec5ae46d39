import TypedSql.Proofs.Analysis.Origins

/-!
# Null semantics

What expressions and queries evaluate to, as far as nulls go. Conditions follow three-valued logic;
of operators, casts and functions no more is fixed than when they are null. What a database holds
enters through the rows that a query selects from.

- **Values**: null, and lists of values
- **Logic**: connectives, membership and the first value that is not null
- **Evaluations**: what is left open by the rules, and what is assumed of it
- **Expressions and queries**: values of expressions and rows of queries
-/

namespace TypedSql

open Canonical

/-! ## Values -/

/-- The value of an expression. -/
inductive SqlValue where
  | null
  | truth (b : Bool)
  /-- A value of any other type, by its text. -/
  | datum (text : String)
  /-- The values of a list of operands, as on the right of IN. -/
  | list (items : List SqlValue)

mutual

/-- Whether a value is null; a list is if one of its items is. -/
def SqlValue.isNull : SqlValue → Bool
  | .null => true
  | .truth _ | .datum _ => false
  | .list items => anyNull items

/-- Whether one of several values is null. -/
def anyNull : List SqlValue → Bool
  | [] => false
  | v :: vs => v.isNull || anyNull vs

end

namespace SqlValue

/-- The items of a list; any other value stands for itself. -/
def items : SqlValue → List SqlValue
  | .list items => items
  | v => [v]

/-- The value of a constant. -/
def ofLiteral : Literal → SqlValue
  | .integer text | .decimal text | .string text => .datum text
  | .boolean b => .truth b
  | .null => .null

/-- The first value that is not null. -/
def firstKnown (vs : List SqlValue) : SqlValue := (vs.find? fun v => !v.isNull).getD .null

end SqlValue

/-- The values of the columns that a query can refer to. -/
structure SqlRow where
  /-- The value of a reference, by its qualifiers and its name. -/
  column : List String → String → SqlValue
  /-- The values that a star stands for, by its qualifiers. -/
  star : List String → List SqlValue

/-- A value is not null if it is said not to be. -/
def Honours (v : SqlValue) (notNull : Bool) : Prop := notNull = true → v.isNull = false

/-- A reference is null only if the column of the scope that it resolves to can be. -/
def SqlRow.Respects (ρ : SqlRow) (s : Scope) : Prop :=
  ∀ qualifiers name column, s.resolveName qualifiers name = .ok column →
    Honours (ρ.column qualifiers name) column.notNull

/-- So is every value that a star stands for. -/
structure SqlRow.Fills (ρ : SqlRow) (s : Scope) : Prop where
  respects : ρ.Respects s
  star : ∀ qualifiers columns, s.expandStar qualifiers = .ok columns →
    List.Forall₂ (fun v column => Honours v column.notNull) (ρ.star qualifiers) columns

/-! ## Evaluations -/

/-- An evaluation of a statement: values for what the rules of expressions leave open. An operator,
a cast or a text function is null only on a null operand; counts and clocks are never null. -/
structure Evaluation (c : Catalog) where
  /-- The value of a placeholder. -/
  param : Nat → SqlValue
  /-- Whether a value that is not null counts as true. -/
  holds : SqlValue → Bool
  operator : String → List SqlValue → SqlValue
  cast : SqlType → SqlValue → SqlValue
  /-- The value of a function or an aggregate, in a row and on the values of its arguments there. -/
  call : SqlRow → Call → List SqlValue → SqlValue
  /-- The value of a construct without canonical form. -/
  unsupported : SqlRow → Node → SqlValue
  /-- The rows for which the select list of a plain query is evaluated, from the scope and the row
  that the query stands in. -/
  rows : Scope → SqlRow → Select → List SqlRow
  /-- What a query keeps of its rows, after DISTINCT, the set operation and LIMIT. -/
  kept : Scope → SqlRow → Select → List (List SqlValue) → List (List SqlValue)
  operator_strict : ∀ name vs, anyNull vs = false → (operator name vs).isNull = false
  cast_strict : ∀ type v, v.isNull = false → (cast type v).isNull = false
  text_strict : ∀ ρ f vs, Inferred.stringFunctions.contains (Inferred.lastPart f.name) = true →
    anyNull vs = false → (call ρ f vs).isNull = false
  count_known : ∀ ρ f vs, Inferred.lastPart f.name = "count" → (call ρ f vs).isNull = false
  clock_known : ∀ ρ f vs, Inferred.clockFunctions.contains (Inferred.lastPart f.name) = true →
    (call ρ f vs).isNull = false
  holds_truth : ∀ b, holds (.truth b) = b
  rows_fill : ∀ s ρ q, ρ.Respects s → ∀ ρ' ∈ rows s ρ q, ρ'.Fills (q.rowScope c s)
  kept_subset : ∀ s ρ q rows, kept s ρ q rows ⊆ rows

/-- What is null unless it is said not to be. -/
def SqlValue.sparse (notNull : Bool) : SqlValue := if notNull then .datum "" else .null

theorem SqlValue.sparse_honours (notNull : Bool) : Honours (.sparse notNull) notNull :=
  fun hnot => by rw [hnot]; rfl

/-- The row that is null wherever the scope lets it be. -/
def SqlRow.sparse (s : Scope) : SqlRow where
  column qualifiers name :=
    match s.resolveName qualifiers name with
    | .ok column => .sparse column.notNull
    | .error _ => .null
  star qualifiers :=
    match s.expandStar qualifiers with
    | .ok columns => columns.map fun column => .sparse column.notNull
    | .error _ => []

theorem SqlRow.sparse_fills (s : Scope) : (SqlRow.sparse s).Fills s := by
  constructor
  · intro qualifiers name column hcolumn
    simp only [SqlRow.sparse, hcolumn]
    exact SqlValue.sparse_honours _
  · intro qualifiers columns hcolumns
    simp only [SqlRow.sparse, hcolumns, List.forall₂_map_left_iff]
    exact List.forall₂_same.mpr fun column _ => SqlValue.sparse_honours _

/-- The evaluation in which everything is null that may be, but for the placeholders: so all that is
assumed of evaluations can be met. -/
def Evaluation.sparse (c : Catalog) (param : Nat → SqlValue) : Evaluation c where
  param := param
  holds v := match v with
    | .truth b => b
    | _ => true
  operator _ vs := .sparse (!anyNull vs)
  cast _ v := v
  call _ f vs :=
    let base := Inferred.lastPart f.name
    .sparse (base = "count" || Inferred.clockFunctions.contains base ||
      Inferred.stringFunctions.contains base && !anyNull vs)
  unsupported _ _ := .null
  rows s _ q := [.sparse (q.rowScope c s)]
  kept _ _ _ rows := rows
  operator_strict _ _ h := SqlValue.sparse_honours _ (by rw [h]; rfl)
  cast_strict _ _ h := h
  text_strict _ _ _ htext h := SqlValue.sparse_honours _ <| by
    simp only [htext, h, Bool.not_false, Bool.and_self, Bool.or_true]
  count_known _ _ _ h := SqlValue.sparse_honours _ <| by simp only [h, decide_true, Bool.true_or]
  clock_known _ _ _ h := SqlValue.sparse_honours _ <| by simp only [h, Bool.or_true, Bool.true_or]
  holds_truth _ := rfl
  rows_fill s _ q _ _ h := by
    rw [List.mem_singleton.mp h]
    exact SqlRow.sparse_fills _
  kept_subset _ _ _ rows := List.Subset.refl rows

namespace Evaluation

variable {c : Catalog} (E : Evaluation c)

/-! ## Logic -/

/-- Whether a value is known and true. -/
def accepts (v : SqlValue) : Bool := !v.isNull && E.holds v

/-- Whether a value is known and false. -/
def rejects (v : SqlValue) : Bool := !v.isNull && !E.holds v

/-- NOT: unknown of what is unknown. -/
def negate (v : SqlValue) : SqlValue := if v.isNull then .null else .truth (!E.holds v)

/-- AND: false if one operand is, or else unknown if one operand is. -/
def conjoin (vs : List SqlValue) : SqlValue :=
  if vs.any E.rejects then .truth false else if anyNull vs then .null else .truth true

/-- OR: true if one operand is, or else unknown if one operand is. -/
def disjoin (vs : List SqlValue) : SqlValue :=
  if vs.any E.accepts then .truth true else if anyNull vs then .null else .truth false

/-- The value of a connective. -/
def connect : Connective → List SqlValue → SqlValue
  | .and, vs => E.conjoin vs
  | .or, vs => E.disjoin vs
  | .not, vs => E.negate (E.conjoin vs)

/-- Whether a value is among others: it is compared with each of them. -/
def among (negated : Bool) (test : SqlValue) (elements : List SqlValue) : SqlValue :=
  let found := E.disjoin (elements.map fun v => E.operator "=" [test, v])
  if negated then E.negate found else found

/-- The value of an operator. IN, with or without NOT, asks for membership. -/
def apply (name : String) (left right : Option SqlValue) : SqlValue :=
  match left, right with
  | some l, some r =>
    if OperatorKind.positive name = "in" then E.among (name ≠ "in") l r.items
    else E.operator name [l, r]
  | left, right => E.operator name (left.toList ++ right.toList)

/-- Whether a branch of a CASE is taken: its condition equals the operand, or is true if there is
none. -/
def takes (operand : Option SqlValue) (condition : SqlValue) : Bool :=
  match operand with
  | some v => E.accepts (E.operator "=" [v, condition])
  | none => E.accepts condition

/-- The value of a function. -/
def callValue (ρ : SqlRow) (f : Call) (args : List SqlValue) : SqlValue :=
  if Inferred.fallbackFunctions.contains (Inferred.lastPart f.name) then SqlValue.firstKnown args
  else E.call ρ f args

/-! ## Expressions and queries -/

mutual

/-- The value of an expression in a scope and a row. What is no expression has none. -/
def valueOf (s : Scope) (ρ : SqlRow) : Node → SqlValue
  | .column fields =>
    match columnName? fields with
    | some name => ρ.column (qualifiers fields) name
    | none => .null
  | .param number _ => E.param number
  | .literal value => .ofLiteral value
  | .logic op args => E.connect op (valuesOf s ρ args)
  | .operator name left right => E.apply name (optionValueOf s ρ left) (optionValueOf s ρ right)
  | .nullTest arg isNull => .truth ((valueOf s ρ arg).isNull == isNull)
  | .cast arg type => E.cast type (valueOf s ρ arg)
  | .call ⟨name, args, orderBy, filter, window, star, distinct⟩ =>
    E.callValue ρ ⟨name, args, orderBy, filter, window, star, distinct⟩ (valuesOf s ρ args)
  | .case operand branches default =>
    -- a CASE without a matching branch and without ELSE is null
    ((branchValueOf s ρ (optionValueOf s ρ operand) branches).or
      (optionValueOf s ρ default)).getD .null
  | .sublink .exists _ query negated =>
    -- whether there are rows is known, whatever is in them
    .truth ((sublinkRows s ρ query).isEmpty == negated)
  | .sublink .any test query negated =>
    E.among negated ((optionValueOf s ρ test).getD .null)
      ((sublinkRows s ρ query).filterMap List.head?)
  | .select query =>
    -- a query without rows is null
    ((queryRows s ρ query).head?.bind List.head?).getD .null
  | .list items => .list (valuesOf s ρ items)
  | .unsupported construct params => E.unsupported ρ (.unsupported construct params)
  | _ => .null

/-- The values of several expressions. -/
def valuesOf (s : Scope) (ρ : SqlRow) : List Node → List SqlValue
  | [] => []
  | n :: ns => valueOf s ρ n :: valuesOf s ρ ns

/-- The value of an expression that may be absent. -/
def optionValueOf (s : Scope) (ρ : SqlRow) : Option Node → Option SqlValue
  | none => none
  | some n => some (valueOf s ρ n)

/-- The result of the first branch that is taken. -/
def branchValueOf (s : Scope) (ρ : SqlRow) (operand : Option SqlValue) :
    List Branch → Option SqlValue
  | [] => none
  | ⟨condition, result⟩ :: bs =>
    if E.takes operand (valueOf s ρ condition) then some (valueOf s ρ result)
    else branchValueOf s ρ operand bs

/-- The rows of the query of a sublink. -/
def sublinkRows (s : Scope) (ρ : SqlRow) : Option Node → List (List SqlValue)
  | some (.select query) => queryRows s ρ query
  | _ => []

/-- The rows of a query: those of its sides, of its VALUES or of its select list. -/
def queryRows (s : Scope) (ρ : SqlRow) : Select → List (List SqlValue)
  | ⟨ctes, targets, source, joinConditions, condition, distinctOn, groupBy, having, windows,
      orderBy, limit, offset, rows, operation, all, left, right⟩ =>
    let q : Select := ⟨ctes, targets, source, joinConditions, condition, distinctOn, groupBy,
      having, windows, orderBy, limit, offset, rows, operation, all, left, right⟩
    E.kept s ρ q <|
      if operation ≠ .none then
        sideRows (q.bodyScope c s) ρ left ++ sideRows (q.bodyScope c s) ρ right
      else if !rows.isEmpty then valuesRows (q.bodyScope c s) ρ rows
      else (E.rows s ρ q).map fun ρ' => targetValues (q.rowScope c s) ρ' targets

/-- The rows of a side of a set operation. -/
def sideRows (s : Scope) (ρ : SqlRow) : Option Select → List (List SqlValue)
  | none => []
  | some q => queryRows s ρ q

/-- The rows of a VALUES. -/
def valuesRows (s : Scope) (ρ : SqlRow) : List Node → List (List SqlValue)
  | .list items :: rows => valuesOf s ρ items :: valuesRows s ρ rows
  | _ => []

/-- The values of a select list. -/
def targetValues (s : Scope) (ρ : SqlRow) : List Node → List SqlValue
  | .target _ (some value) _ :: ns =>
    match value.starQualifiers? with
    | some qualifiers => ρ.star qualifiers ++ targetValues s ρ ns
    | none => valueOf s ρ value :: targetValues s ρ ns
  | _ => []

end

end Evaluation

end TypedSql
