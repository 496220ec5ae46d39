import TypedSql.Proofs.Conversion.Run

/-!
# Shapes of canonical trees

A canonical tree can hold any node anywhere. What a conversion makes is better: every node stands
where it belongs.

- **Shapes**: what may stand as an expression, in a select list, in a FROM clause, as a row
- **Single constructs**: what the steps of a conversion answer, piece by piece
- **Expressions and queries**: one statement for each function of the conversion
- **Statements**: so is every statement that is a query or changes data
-/

namespace TypedSql.Canonical

/-! ## Shapes -/

/-- Whether the node is a field of a reference. -/
def Node.isField : Node → Bool
  | .name _ | .star => true
  | _ => false

/-- What stands in the windows of a call or of a WINDOW clause. -/
def Window.parts (w : Window) : List Node :=
  w.partitionBy ++ w.orderBy ++ w.startOffset.toList ++ w.endOffset.toList

/-- What stands in the clauses that only a plain query has. -/
def Select.plainParts (q : Select) : List Node :=
  q.targets ++ q.source ++ q.joinConditions ++ q.condition.toList ++ q.distinctOn ++ q.groupBy ++
    q.having.toList ++ q.windows.flatMap Window.parts

/-- A query is a plain one, the rows of a VALUES or a set operation, and has no clauses of another
kind. -/
structure Select.OneKind (q : Select) : Prop where
  plain : q.operation ≠ .none ∨ q.rows ≠ [] → q.plainParts = []
  rows : q.operation ≠ .none → q.rows = []
  sides : q.operation = .none → q.left = none ∧ q.right = none

mutual

/-- A node that can stand as an expression. -/
inductive Node.IsExpr : Node → Prop where
  /-- A reference has names only, or ends in a star. -/
  | column {fields : List Node} (hfields : ∀ n ∈ fields, n.isField = true)
      (h : endsInStar fields = true ∨ (columnName? fields).isSome = true) :
      Node.IsExpr (.column fields)
  | param (number location : Nat) : Node.IsExpr (.param number location)
  | literal (value : Literal) : Node.IsExpr (.literal value)
  | logic (op : Connective) {args : List Node} (h : ∀ n ∈ args, Node.IsExpr n) :
      Node.IsExpr (.logic op args)
  | unary (name : String) {right : Node} (h : Node.IsExpr right) :
      Node.IsExpr (.operator name none (some right))
  | binary (name : String) {left right : Node} (hleft : Node.IsExpr left)
      (hright : Node.IsExpr right) : Node.IsExpr (.operator name (some left) (some right))
  | sublink (kind : SublinkKind) {test query : Option Node} (negated : Bool)
      (htest : ∀ n ∈ test, Node.IsExpr n) (hquery : ∀ n ∈ query, Node.IsExpr n) :
      Node.IsExpr (.sublink kind test query negated)
  | call {c : Call} (h : Call.WellShaped c) : Node.IsExpr (.call c)
  | cast {arg : Node} (type : SqlType) (h : Node.IsExpr arg) : Node.IsExpr (.cast arg type)
  | nullTest {arg : Node} (isNull : Bool) (h : Node.IsExpr arg) : Node.IsExpr (.nullTest arg isNull)
  | case {operand default : Option Node} {branches : List Branch}
      (hoperand : ∀ n ∈ operand, Node.IsExpr n) (hbranches : ∀ b ∈ branches, Branch.WellShaped b)
      (hdefault : ∀ n ∈ default, Node.IsExpr n) : Node.IsExpr (.case operand branches default)
  | select {q : Select} (h : Select.WellShaped q) : Node.IsExpr (.select q)
  | list {items : List Node} (h : ∀ n ∈ items, Node.IsExpr n) : Node.IsExpr (.list items)
  | unsupported (construct : String) (params : List Node) (h : ∀ n ∈ params, n.isParam = true) :
      Node.IsExpr (.unsupported construct params)

/-- A column of a result, with its value. -/
inductive Node.IsTarget : Node → Prop where
  | mk (name : Option String) {value : Node} (location : Nat) (h : Node.IsExpr value) :
      Node.IsTarget (.target name (some value) location)

/-- An item of a FROM clause. -/
inductive Node.IsSource : Node → Prop where
  | table (ref : TableRef) : Node.IsSource (.table ref)
  | derived {q : Select} (aliasName : Option String) (nullable : Bool) (h : Select.WellShaped q) :
      Node.IsSource (.derived (.select q) aliasName nullable)

/-- A row of a VALUES. -/
inductive Node.IsRow : Node → Prop where
  | mk {items : List Node} (h : ∀ n ∈ items, Node.IsExpr n) : Node.IsRow (.list items)

/-- A branch of a CASE between expressions. -/
inductive Branch.WellShaped : Branch → Prop where
  | mk {b : Branch} (condition : Node.IsExpr b.condition) (result : Node.IsExpr b.result) :
      Branch.WellShaped b

/-- A call whose parts are expressions. -/
inductive Call.WellShaped : Call → Prop where
  | mk {c : Call} (args : ∀ n ∈ c.args, Node.IsExpr n) (orderBy : ∀ n ∈ c.orderBy, Node.IsExpr n)
      (filter : ∀ n ∈ c.filter, Node.IsExpr n) (window : ∀ w ∈ c.window, Window.WellShaped w) :
      Call.WellShaped c

/-- A window whose parts are expressions. -/
inductive Window.WellShaped : Window → Prop where
  | mk {w : Window} (partitionBy : ∀ n ∈ w.partitionBy, Node.IsExpr n)
      (orderBy : ∀ n ∈ w.orderBy, Node.IsExpr n) (startOffset : ∀ n ∈ w.startOffset, Node.IsExpr n)
      (endOffset : ∀ n ∈ w.endOffset, Node.IsExpr n) : Window.WellShaped w

/-- A part of a WITH clause that is a query. -/
inductive NamedQuery.WellShaped : NamedQuery → Prop where
  | mk (name : String) {q : Select} (h : Select.WellShaped q) :
      NamedQuery.WellShaped ⟨name, .select q⟩

/-- A query in which every node stands where it belongs, and that has the clauses of its kind only
and two sides if it is a set operation. -/
inductive Select.WellShaped : Select → Prop where
  | mk {q : Select} (ctes : ∀ x ∈ q.ctes, NamedQuery.WellShaped x)
      (targets : ∀ n ∈ q.targets, Node.IsTarget n) (source : ∀ n ∈ q.source, Node.IsSource n)
      (joinConditions : ∀ n ∈ q.joinConditions, Node.IsExpr n)
      (condition : ∀ n ∈ q.condition, Node.IsExpr n)
      (distinctOn : ∀ n ∈ q.distinctOn, Node.IsExpr n)
      (groupBy : ∀ n ∈ q.groupBy, Node.IsExpr n) (having : ∀ n ∈ q.having, Node.IsExpr n)
      (windows : ∀ w ∈ q.windows, Window.WellShaped w) (orderBy : ∀ n ∈ q.orderBy, Node.IsExpr n)
      (limit : ∀ n ∈ q.limit, Node.IsExpr n) (offset : ∀ n ∈ q.offset, Node.IsExpr n)
      (rows : ∀ n ∈ q.rows, Node.IsRow n)
      (sides : q.operation ≠ .none → q.left.isSome = true ∧ q.right.isSome = true)
      (left : ∀ s ∈ q.left, Select.WellShaped s) (right : ∀ s ∈ q.right, Select.WellShaped s)
      (kind : Select.OneKind q) : Select.WellShaped q

end

theorem forall_mem_none {α : Type} {P : α → Prop} : ∀ a ∈ (none : Option α), P a := by
  intro a h
  cases h

theorem forall_mem_some {α : Type} {P : α → Prop} {a : α} (h : P a) : ∀ b ∈ some a, P b := by
  intro b hb
  have hab : a = b := Option.mem_some.mp hb
  rwa [← hab]

/-- All nodes of a list are expressions. -/
abbrev AllExprs (ns : List Node) : Prop := ∀ n ∈ ns, n.IsExpr

theorem allExprs_cons {n : Node} {ns : List Node} (hn : n.IsExpr) (hns : AllExprs ns) :
    AllExprs (n :: ns) := List.forall_mem_cons.mpr ⟨hn, hns⟩

theorem allExprs_append {ms ns : List Node} (hms : AllExprs ms) (hns : AllExprs ns) :
    AllExprs (ms ++ ns) := List.forall_mem_append.mpr ⟨hms, hns⟩

theorem Node.isExpr_of_isParam {n : Node} (h : n.isParam = true) : n.IsExpr := by
  cases n with
  | param number location => exact .param number location
  | _ => cases h

theorem Select.empty_oneKind : Select.empty.OneKind :=
  ⟨fun _ => rfl, fun _ => rfl, fun _ => ⟨rfl, rfl⟩⟩

/-- The empty query has no node out of place. -/
theorem Select.empty_wellShaped : Select.empty.WellShaped := by
  have hnone (h : SetOperation.none ≠ .none) : (none : Option Select).isSome = true ∧
      (none : Option Select).isSome = true := (h rfl).elim
  constructor
  all_goals first
    | exact List.forall_mem_nil _ | exact forall_mem_none | exact hnone | exact empty_oneKind

/-! ## Single constructs -/

namespace Conversion

theorem isSome_columnName? (first : Node) (rest : List Node)
    (h : ∀ n ∈ first :: rest, n.nameText?.isSome) :
    (columnName? (first :: rest)).isSome = true := by
  -- the name of the column is the last of the parts
  rw [columnName?, List.getLast?_eq_some_getLast (List.cons_ne_nil first rest), Option.bind_some]
  exact h _ (List.getLast_mem _)

theorem ensures_param (text : String) : Ensures (param text) fun n => n.isParam = true := by
  refine .after fun d => .after fun p => ?_
  split
  · -- a placeholder that the dialect knows
    exact .after fun _ => .after fun offset => .pure rfl
  · exact .throw

theorem ensures_params (texts : List String) :
    Ensures (params texts) fun ns => ∀ n ∈ ns, n.isParam = true := by
  induction texts with
  | nil => exact .pure (List.forall_mem_nil _)
  | cons text texts ih =>
    -- a placeholder that does not convert leaves nothing behind
    have hattempt : Ensures (tryCatch (some <$> param text) fun _ => return none)
        fun n? => ∀ n ∈ n?, n.isParam = true := by
      refine .tryCatch ?_ fun _ => .pure forall_mem_none
      exact .map (ensures_param text) fun n hn => forall_mem_some hn
    refine .bind hattempt fun n? hn => .bind ih fun ns hns => .pure ?_
    exact List.forall_mem_append.mpr ⟨fun m hm => hn m (Option.mem_toList.mp hm), hns⟩

theorem ensures_paramsIn (text : String) :
    Ensures (paramsIn text) fun ns => ∀ n ∈ ns, n.isParam = true := .after fun _ => ensures_params _

theorem ensures_skip (construct text : String) : Ensures (skip construct text) Node.IsExpr :=
  .after fun _ => .bind (ensures_paramsIn text) fun params h =>
    .pure (.unsupported construct params h)

theorem ensures_literal (value : Sql.Literal) : Ensures (literal value) Node.IsExpr := by
  match value with
  | .placeholder text => exact (ensures_param text).imp fun _ => Node.isExpr_of_isParam
  | .number .. | .boolean _ | .null
  | .string .single _ | .string .double _ | .string .escaped _ | .string .national _ =>
    exact .pure (.literal _)
  | .string .unicode _ | .string .hex _ | .string .byteSingle _ | .string .byteDouble _
  | .string (.dollar _) _ => exact ensures_skip _ _

theorem ensures_columnRef (first : Sql.Ident) (rest : List Sql.Ident) :
    Ensures (columnRef (first :: rest)) Node.IsExpr := by
  refine .after fun d => .pure (.column ?_ (.inr (isSome_columnName? _ _ ?_)))
  all_goals exact List.forall_mem_cons.mpr ⟨rfl, List.forall_mem_map.mpr fun _ _ => rfl⟩

theorem ensures_starRef (parts : List Sql.Ident) : Ensures (starRef parts) Node.IsExpr :=
  .after fun d => .pure (.column
    (List.forall_mem_append.mpr ⟨List.forall_mem_map.mpr fun _ _ => rfl, by simp [Node.isField]⟩)
    (.inl (by simp [endsInStar, Node.isStar])))

theorem ensures_target (name : Option String) {value : Node} (h : value.IsExpr) :
    Ensures (target name value) Node.IsTarget := .after fun _ => .pure (.mk name _ h)

theorem ensures_tested {q : Conversion Select} (h : Ensures q Select.WellShaped) :
    Ensures (tested q) fun n? => ∀ n ∈ n?, n.IsExpr := by
  refine .tryCatch ?_ fun _ => .after fun _ => .pure forall_mem_none
  exact .bind h fun s hs => .pure (forall_mem_some (.select hs))

theorem isExpr_binary (op : Sql.BinaryOp) {left right : Node} (hleft : left.IsExpr)
    (hright : right.IsExpr) : (binary op left right).IsExpr := by
  have hargs : AllExprs [left, right] :=
    allExprs_cons hleft (List.forall_mem_singleton.mpr hright)
  cases op with
  | and => exact .logic .and hargs
  | or => exact .logic .or hargs
  | other spelling => exact .binary _ hleft hright

theorem isExpr_unary (op : Sql.UnaryOp) {arg : Node} (h : arg.IsExpr) : (unary op arg).IsExpr := by
  cases op with
  | not => exact .logic .not (List.forall_mem_singleton.mpr h)
  | plus => exact h
  | minus =>
    unfold unary
    dsimp only
    -- the minus before a number becomes part of the literal
    split
    · exact .literal _
    · exact .literal _
    · exact .unary "-" h
  | before spelling => exact .unary _ h
  | after spelling => exact .unary _ h

theorem isExpr_plainCall (name : String) {args : List Node} (h : AllExprs args) :
    (plainCall name args).IsExpr :=
  .call (.mk h (List.forall_mem_nil _) forall_mem_none forall_mem_none)

/-! ### FROM clauses -/

/-- A FROM clause of tables and conditions. -/
structure Sources.WellShaped (s : Sources) : Prop where
  items : ∀ n ∈ s.items, n.IsSource
  conditions : AllExprs s.conditions

namespace Sources

theorem empty_wellShaped : WellShaped ⟨[], []⟩ := ⟨List.forall_mem_nil _, List.forall_mem_nil _⟩

variable {s : Sources} {n : Node}

theorem WellShaped.addItem (h : s.WellShaped) (hn : n.IsSource) :
    WellShaped { s with items := s.items ++ [n] } :=
  ⟨List.forall_mem_append.mpr ⟨h.items, List.forall_mem_singleton.mpr hn⟩, h.conditions⟩

theorem WellShaped.addConditions (h : s.WellShaped) {ns : List Node} (hns : AllExprs ns) :
    WellShaped { s with conditions := s.conditions ++ ns } :=
  ⟨h.items, allExprs_append h.conditions hns⟩

theorem isSource_markNullable (h : n.IsSource) : (markNullable n).IsSource := by
  cases h with
  | table ref => exact .table _
  | derived aliasName _ h => exact .derived aliasName true h

theorem isSource_map_markNullable {ns : List Node} (h : ∀ n ∈ ns, n.IsSource) :
    ∀ n ∈ ns.map markNullable, n.IsSource :=
  List.forall_mem_map.mpr fun n hn => isSource_markNullable (h n hn)

/-- Marking the tables that an outer join fills up leaves them tables. -/
theorem isSource_markJoin (kind : Sql.JoinKind) (k : Nat) {ns : List Node}
    (h : ∀ n ∈ ns, n.IsSource) : ∀ n ∈ markJoin kind k ns, n.IsSource := by
  have hleft : ∀ n ∈ ns.take k, n.IsSource := fun n hn => h n (List.mem_of_mem_take hn)
  have hright : ∀ n ∈ ns.drop k, n.IsSource := fun n hn => h n (List.mem_of_mem_drop hn)
  refine List.forall_mem_append.mpr ⟨?_, ?_⟩
  · split
    · exact isSource_map_markNullable hleft
    · exact hleft
  · split
    · exact isSource_map_markNullable hright
    · exact hright

end Sources

/-! ### Queries -/

/-- What stands in the parentheses of a call are expressions. -/
structure CallParts.WellShaped (p : CallParts) : Prop where
  args : AllExprs p.args
  orderBy : AllExprs p.orderBy

theorem allExprs_of_or {a b : Option Node} (ha : ∀ n ∈ a, n.IsExpr) (hb : ∀ n ∈ b, n.IsExpr) :
    ∀ n ∈ a.or b, n.IsExpr := by
  cases a with
  | none => exact hb
  | some a => exact ha

/-- A query stays well shaped under the clauses around it, whether they replace its own or not. -/
theorem wellShaped_withClauses {q : Select} (h : q.WellShaped) {ctes : List NamedQuery}
    {keys : List Node} {limit offset : Option Node} (hctes : ∀ x ∈ ctes, x.WellShaped)
    (hkeys : AllExprs keys) (hlimit : ∀ n ∈ limit, n.IsExpr) (hoffset : ∀ n ∈ offset, n.IsExpr) :
    Select.WellShaped { q with
      ctes := if ctes.isEmpty then q.ctes else ctes
      orderBy := if keys.isEmpty then q.orderBy else keys
      limit := limit.or q.limit
      offset := offset.or q.offset } := by
  -- only the four clauses change, so the other facts are those of the body
  obtain ⟨hctes', htargets, hsource, hjoins, hcondition, hdistinctOn, hgroupBy, hhaving, hwindows,
    horderBy, hlimit', hoffset', hrows, hsides, hleft, hright, hkind⟩ := h
  have hnewCtes : ∀ x ∈ if ctes.isEmpty then q.ctes else ctes, x.WellShaped := by
    split
    · exact hctes'
    · exact hctes
  have hnewKeys : AllExprs (if keys.isEmpty then q.orderBy else keys) := by
    split
    · exact horderBy
    · exact hkeys
  exact .mk hnewCtes htargets hsource hjoins hcondition hdistinctOn hgroupBy hhaving hwindows
    hnewKeys (allExprs_of_or hlimit hlimit') (allExprs_of_or hoffset hoffset') hrows hsides hleft
    hright ⟨hkind.plain, hkind.rows, hkind.sides⟩

theorem ensures_query_of (q : Sql.Query)
    (hctes : Ensures (namedQueries q.ctes) fun xs => ∀ x ∈ xs, x.WellShaped)
    (hbody : Ensures (setExpr q.body) Select.WellShaped)
    (horderBy : Ensures (orderKeys q.orderBy) AllExprs)
    (hlimit : Ensures (exprOption q.limit) fun n? => ∀ n ∈ n?, n.IsExpr)
    (hoffset : Ensures (exprOption q.offset) fun n? => ∀ n ∈ n?, n.IsExpr)
    (hquantity : Ensures (exprOption q.fetchQuantity) fun n? => ∀ n ∈ n?, n.IsExpr) :
    Ensures (query q) Select.WellShaped := by
  obtain ⟨recursive, ctes, body, orderBy, limit, offset, rows, fetch, quantity, tail⟩ := q
  dsimp only at *
  rw [query]
  refine .bind hctes fun ctes hctes => ?_
  refine .bind hbody fun body hbody => ?_
  refine .bind horderBy fun keys hkeys => ?_
  refine .after fun setting => ?_
  refine .bind (.inOrder _ hoffset hlimit) fun ⟨offset, limit⟩ ⟨hoffset, hlimit⟩ => ?_
  refine .bind hquantity fun quantity hquantity => ?_
  refine .pure ?_
  -- the quantity of a FETCH goes before a LIMIT, and both before those of the body
  rw [← Option.or_assoc]
  exact wellShaped_withClauses hbody hctes hkeys (allExprs_of_or hquantity hlimit) hoffset

theorem ensures_select_of (s : Sql.Select) (hdistinctOn : Ensures (exprs s.distinctOn) AllExprs)
    (hprojection : Ensures (selectItems s.projection) fun ns => ∀ n ∈ ns, n.IsTarget)
    (hsource : Ensures (tables ⟨[], []⟩ s.source) Sources.WellShaped)
    (hcondition : Ensures (exprOption s.condition) fun n? => ∀ n ∈ n?, n.IsExpr)
    (hgroupBy : Ensures (exprs s.groupBy) AllExprs)
    (hhaving : Ensures (exprOption s.having) fun n? => ∀ n ∈ n?, n.IsExpr)
    (hwindows : Ensures (windows s.windows) fun ws => ∀ w ∈ ws, w.WellShaped) :
    Ensures (select s) Select.WellShaped := by
  obtain ⟨distinct, distinctOn, top, projection, into, source, lateralViews, condition, groupAll,
    groupBy, clustering, having, ws, windowFirst, qualify⟩ := s
  dsimp only at *
  rw [select]
  refine .bind (.mapM (ensures_skip "TOP") _) fun top htop => ?_
  refine .bind hdistinctOn fun distinctOn hdistinctOn => ?_
  refine .bind hprojection fun targets htargets => ?_
  refine .bind hsource fun source hsource => ?_
  refine .bind (.mapM (ensures_skip "LATERAL VIEW") _) fun views hviews => ?_
  refine .bind hcondition fun condition hcondition => ?_
  refine .after fun _ => ?_
  refine .bind hgroupBy fun groupBy hgroupBy => ?_
  refine .bind hhaving fun having hhaving => ?_
  refine .bind (.inOrder _ hwindows (.mapM (ensures_skip "QUALIFY") _))
    fun ⟨ws, qualify⟩ ⟨hwindows, hqualify⟩ => ?_
  refine .pure ?_
  -- a construct without canonical form is an expression, so it may stand among the join conditions
  have hconditions := allExprs_append (allExprs_append (allExprs_append hsource.conditions htop)
    hviews) hqualify
  obtain ⟨hctes, -, -, -, -, -, -, -, -, horderBy, hlimit, hoffset, hrows, hsides, hleft, hright,
    hkind⟩ := Select.empty_wellShaped
  exact .mk hctes htargets hsource.items hconditions hcondition hdistinctOn hgroupBy hhaving
    hwindows horderBy hlimit hoffset hrows hsides hleft hright
    ⟨fun h => absurd h (by simp [Select.empty]), hkind.rows, hkind.sides⟩

theorem wellShaped_operation {op : SetOperation} (hop : op ≠ .none) (all : Bool)
    {left right : Select} (hleft : left.WellShaped) (hright : right.WellShaped) :
    Select.WellShaped { Select.empty with
      operation := op, all := all, left := some left, right := some right } := by
  obtain ⟨hctes, htargets, hsource, hjoins, hcondition, hdistinctOn, hgroupBy, hhaving, hwindows,
    horderBy, hlimit, hoffset, hrows, -, -, -, -⟩ := Select.empty_wellShaped
  exact .mk hctes htargets hsource hjoins hcondition hdistinctOn hgroupBy hhaving hwindows horderBy
    hlimit hoffset hrows (fun _ => ⟨rfl, rfl⟩) (forall_mem_some hleft)
    (forall_mem_some hright) ⟨fun _ => rfl, fun _ => rfl, fun h => absurd h hop⟩

theorem wellShaped_values {rows : List Node} (h : ∀ n ∈ rows, n.IsRow) :
    Select.WellShaped { Select.empty with rows := rows } := by
  obtain ⟨hctes, htargets, hsource, hjoins, hcondition, hdistinctOn, hgroupBy, hhaving, hwindows,
    horderBy, hlimit, hoffset, -, hsides, hleft, hright, hkind⟩ := Select.empty_wellShaped
  exact .mk hctes htargets hsource hjoins hcondition hdistinctOn hgroupBy hhaving hwindows horderBy
    hlimit hoffset h hsides hleft hright ⟨fun _ => rfl, fun h => absurd rfl h, hkind.sides⟩

theorem wellShaped_targets {targets : List Node} (h : ∀ n ∈ targets, n.IsTarget) :
    Select.WellShaped { Select.empty with targets := targets } := by
  obtain ⟨hctes, -, hsource, hjoins, hcondition, hdistinctOn, hgroupBy, hhaving, hwindows, horderBy,
    hlimit, hoffset, hrows, hsides, hleft, hright, hkind⟩ := Select.empty_wellShaped
  exact .mk hctes h hsource hjoins hcondition hdistinctOn hgroupBy hhaving hwindows horderBy hlimit
    hoffset hrows hsides hleft hright
    ⟨fun h => absurd h (by simp [Select.empty]), hkind.rows, hkind.sides⟩

theorem ensures_joins_of {acc : Sources} (j : Sql.Join) {js : List Sql.Join}
    (hfactor : Ensures (factor acc j.relation) Sources.WellShaped)
    (hon : Ensures (exprOption j.on) fun n? => ∀ n ∈ n?, n.IsExpr)
    (hjoins : ∀ acc : Sources, acc.WellShaped → Ensures (joins acc js) Sources.WellShaped) :
    Ensures (joins acc (j :: js)) Sources.WellShaped := by
  obtain ⟨everywhere, kind, relation, shared, on⟩ := j
  dsimp only at *
  rw [joins]
  refine .bind hfactor fun acc hacc => ?_
  have hmarked (k : Nat) : Sources.WellShaped { acc with items := markJoin kind k acc.items } :=
    ⟨Sources.isSource_markJoin kind k hacc.items, hacc.conditions⟩
  split
  · -- a join without canonical form has its tables, but no condition
    exact .after fun _ => .bind (.pure (hmarked _)) hjoins
  · refine .bind hon fun condition hcondition => .after fun _ => .bind (.pure ?_) hjoins
    exact (hmarked _).addConditions fun n hn => hcondition n (Option.mem_toList.mp hn)

mutual

theorem ensures_expr (e : Sql.Expr) : Ensures (expr e) Node.IsExpr := by
  match e with
  | .column first rest => exact ensures_columnRef first rest
  | .literal value => exact ensures_literal value
  | .nested inner => exact ensures_expr inner
  | .binary left op right =>
    exact .bind (ensures_expr left) fun l hl => .bind (ensures_expr right) fun r hr =>
      .pure (isExpr_binary op hl hr)
  | .unary op operand => exact .bind (ensures_expr operand) fun n hn => .pure (isExpr_unary op hn)
  | .isNull operand negated =>
    exact .bind (ensures_expr operand) fun n hn => .pure (.nullTest _ hn)
  | .inList operand items negated =>
    exact .bind (ensures_expr operand) fun n hn => .bind (ensures_exprs items) fun ns hns =>
      .pure (.binary _ hn (.list hns))
  | .between operand low high negated =>
    exact .bind (ensures_expr operand) fun n hn => .bind (ensures_expr low) fun l hl =>
      .bind (ensures_expr high) fun h hh =>
      .pure (.binary _ hn (.list (allExprs_cons hl (List.forall_mem_singleton.mpr hh))))
  | .like op any operand pattern escape negated =>
    exact .bind (ensures_expr operand) fun n hn => .bind (ensures_expr pattern) fun p hp =>
      .pure (.binary _ hn hp)
  | .inQuery operand q negated =>
    exact .bind (ensures_expr operand) fun n hn => .bind (ensures_tested (ensures_query q))
      fun s hs => .pure (.sublink .any negated (forall_mem_some hn) hs)
  | .exists q negated =>
    exact .bind (ensures_tested (ensures_query q)) fun s hs =>
      .pure (.sublink .exists negated forall_mem_none hs)
  | .subquery q => exact .bind (ensures_query q) fun s hs => .pure (.select hs)
  | .cast form operand type =>
    exact .bind (ensures_expr operand) fun n hn => .after fun d => .pure (.cast _ hn)
  | .case operand bs default =>
    exact .bind (ensures_exprOption operand) fun o ho => .bind (ensures_branches bs) fun bs hbs =>
      .bind (ensures_exprOption default) fun d hd => .pure (.case ho hbs hd)
  | .call name args withinGroup filter nulls w braced =>
    exact .bind (ensures_arguments args) fun parts hparts =>
      .bind (ensures_orderKeys withinGroup) fun keys hkeys =>
      .bind (ensures_exprOption filter) fun f hf => .bind (ensures_windowOption w) fun w hw =>
      .pure (.call (.mk hparts.args (allExprs_append hparts.orderBy hkeys) hf hw))
  | .keywordCall name words args =>
    exact .bind (ensures_exprs args) fun ns hns => .pure (isExpr_plainCall _ hns)
  | .unmapped kind text => exact ensures_skip kind text

theorem ensures_exprs (es : List Sql.Expr) : Ensures (exprs es) AllExprs := by
  match es with
  | [] => exact .pure (List.forall_mem_nil _)
  | e :: es =>
    exact .bind (ensures_expr e) fun n hn => .bind (ensures_exprs es) fun ns hns =>
      .pure (allExprs_cons hn hns)

theorem ensures_exprOption (e : Option Sql.Expr) :
    Ensures (exprOption e) fun n? => ∀ n ∈ n?, n.IsExpr := by
  match e with
  | none => exact .pure forall_mem_none
  | some e =>
    exact .bind (ensures_expr e) fun n hn => .pure (forall_mem_some hn)

theorem ensures_branches (bs : List Sql.Branch) :
    Ensures (branches bs) fun bs => ∀ b ∈ bs, b.WellShaped := by
  match bs with
  | [] => exact .pure (List.forall_mem_nil _)
  | ⟨condition, result⟩ :: bs =>
    exact .bind (ensures_expr condition) fun c hc => .bind (ensures_expr result) fun r hr =>
      .bind (ensures_branches bs) fun bs hbs =>
      .pure (List.forall_mem_cons.mpr ⟨.mk hc hr, hbs⟩)

theorem ensures_arguments (args : Sql.Arguments) :
    Ensures (arguments args) CallParts.WellShaped := by
  match args with
  | .none => exact .pure ⟨List.forall_mem_nil _, List.forall_mem_nil _⟩
  | .query q =>
    exact .bind (ensures_query q) fun s hs =>
      .pure ⟨List.forall_mem_singleton.mpr (.select hs), List.forall_mem_nil _⟩
  | .list treatment items clauses =>
    exact .bind (ensures_argumentItems items) fun x hx =>
      .bind (ensures_argumentClauses clauses) fun keys hkeys => .pure ⟨hx, hkeys⟩

theorem ensures_argumentItems (as : List Sql.Argument) :
    Ensures (argumentItems as) fun x => AllExprs x.1 := by
  match as with
  | [] => exact .pure (List.forall_mem_nil _)
  | .value label value :: as =>
    exact .bind (ensures_expr value) fun n hn => .bind (ensures_argumentItems as) fun x hx =>
      .pure (allExprs_cons hn hx)
  | .star text :: as => exact .bind (ensures_argumentItems as) fun x hx => .pure hx
  | .labelled text :: as =>
    exact .bind (ensures_skip _ text) fun n hn => .bind (ensures_argumentItems as) fun x hx =>
      .pure (allExprs_cons hn hx)

theorem ensures_argumentClauses (cs : List Sql.ArgumentClause) :
    Ensures (argumentClauses cs) AllExprs := by
  match cs with
  | [] => exact .pure (List.forall_mem_nil _)
  | .orderBy items :: cs =>
    exact .bind (ensures_orderKeys items) fun ms hms => .bind (ensures_argumentClauses cs)
      fun ns hns => .pure (allExprs_append hms hns)
  | .silent text :: cs => exact ensures_argumentClauses cs
  | .unmapped kind text :: cs =>
    exact .bind (ensures_skip kind text) fun n hn => .bind (ensures_argumentClauses cs)
      fun ns hns => .pure (allExprs_cons hn hns)

theorem ensures_orderKeys (os : List Sql.OrderItem) : Ensures (orderKeys os) AllExprs := by
  match os with
  | [] => exact .pure (List.forall_mem_nil _)
  | ⟨key, direction⟩ :: os =>
    exact .bind (ensures_expr key) fun n hn => .bind (ensures_orderKeys os) fun ns hns =>
      .pure (allExprs_cons hn hns)

theorem ensures_window (w : Sql.WindowSpec) : Ensures (window w) Window.WellShaped := by
  match w with
  | ⟨_, _, _, partitionBy, orderBy, _, startOffset, stopOffset⟩ =>
    exact .bind (ensures_exprs partitionBy) fun ps hps => .bind (ensures_orderKeys orderBy)
      fun os hos => .bind (ensures_exprOption startOffset) fun start hstart =>
      .bind (ensures_exprOption stopOffset) fun stop hstop => .after fun d =>
      .pure (.mk hps hos hstart hstop)

theorem ensures_windowOption (w : Option Sql.WindowSpec) :
    Ensures (windowOption w) fun w? => ∀ w ∈ w?, w.WellShaped := by
  match w with
  | none => exact .pure forall_mem_none
  | some w =>
    exact .bind (ensures_window w) fun w hw => .pure (forall_mem_some hw)

theorem ensures_windows (ws : List Sql.WindowSpec) :
    Ensures (windows ws) fun ws => ∀ w ∈ ws, w.WellShaped := by
  match ws with
  | [] => exact .pure (List.forall_mem_nil _)
  | w :: ws =>
    exact .bind (ensures_window w) fun w hw => .bind (ensures_windows ws) fun ws hws =>
      .pure (List.forall_mem_cons.mpr ⟨hw, hws⟩)

theorem ensures_query (q : Sql.Query) : Ensures (query q) Select.WellShaped := by
  match q with
  | ⟨_, ctes, body, orderBy, limit, offset, _, _, quantity, _⟩ =>
    exact ensures_query_of _ (ensures_namedQueries ctes) (ensures_setExpr body)
      (ensures_orderKeys orderBy) (ensures_exprOption limit) (ensures_exprOption offset)
      (ensures_exprOption quantity)

theorem ensures_namedQueries (cs : List Sql.Cte) :
    Ensures (namedQueries cs) fun xs => ∀ x ∈ xs, x.WellShaped := by
  match cs with
  | [] => exact .pure (List.forall_mem_nil _)
  | ⟨tableAlias, materialized, q, source⟩ :: cs =>
    exact .after fun name => .bind (ensures_query q) fun s hs => .bind (ensures_namedQueries cs)
      fun xs hxs => .pure (List.forall_mem_cons.mpr ⟨.mk name hs, hxs⟩)

theorem ensures_setExpr (b : Sql.SetExpr) : Ensures (setExpr b) Select.WellShaped := by
  match b with
  | .select s => exact ensures_select s
  | .query q => exact ensures_query q
  | .operation op quantifier left right =>
    exact .bind (ensures_setExpr left) fun l hl => .bind (ensures_setExpr right) fun r hr =>
      .pure (wellShaped_operation (by cases op <;> exact nofun) _ hl hr)
  | .values explicit items =>
    exact .bind (ensures_rows items) fun ns hns => .pure (wellShaped_values hns)
  | .unmapped kind text =>
    exact .bind (ensures_skip kind text) fun n hn => .bind (ensures_target none hn) fun t ht =>
      .pure (wellShaped_targets (List.forall_mem_singleton.mpr ht))

theorem ensures_rows (items : List (List Sql.Expr)) :
    Ensures (rows items) fun ns => ∀ n ∈ ns, n.IsRow := by
  match items with
  | [] => exact .pure (List.forall_mem_nil _)
  | row :: rest =>
    exact .bind (ensures_exprs row) fun es hes => .bind (ensures_rows rest) fun ns hns =>
      .pure (List.forall_mem_cons.mpr ⟨.mk hes, hns⟩)

theorem ensures_select (s : Sql.Select) : Ensures (select s) Select.WellShaped := by
  match s with
  | ⟨_, distinctOn, _, projection, _, source, _, condition, _, groupBy, _, having, ws, _, _⟩ =>
    exact ensures_select_of _ (ensures_exprs distinctOn) (ensures_selectItems projection)
      (ensures_tables Sources.empty_wellShaped source) (ensures_exprOption condition)
      (ensures_exprs groupBy) (ensures_exprOption having) (ensures_windows ws)

theorem ensures_selectItems (is : List Sql.SelectItem) :
    Ensures (selectItems is) fun ns => ∀ n ∈ ns, n.IsTarget := by
  match is with
  | [] => exact .pure (List.forall_mem_nil _)
  | .value value :: is =>
    exact .bind (ensures_expr value) fun n hn => .bind (ensures_target none hn) fun t ht =>
      .bind (ensures_selectItems is) fun ns hns => .pure (List.forall_mem_cons.mpr ⟨ht, hns⟩)
  | .aliased value aliasName :: is =>
    exact .bind (ensures_expr value) fun n hn => .after fun name =>
      .bind (ensures_target (some name) hn) fun t ht => .bind (ensures_selectItems is)
      fun ns hns => .pure (List.forall_mem_cons.mpr ⟨ht, hns⟩)
  | .star :: is =>
    exact .bind (ensures_starRef []) fun n hn => .bind (ensures_target none hn) fun t ht =>
      .bind (ensures_selectItems is) fun ns hns => .pure (List.forall_mem_cons.mpr ⟨ht, hns⟩)
  | .qualifiedStar name :: is =>
    exact .bind (ensures_starRef name) fun n hn => .bind (ensures_target none hn) fun t ht =>
      .bind (ensures_selectItems is) fun ns hns => .pure (List.forall_mem_cons.mpr ⟨ht, hns⟩)

theorem ensures_tables {acc : Sources} (hacc : acc.WellShaped) (ts : List Sql.TableWithJoins) :
    Ensures (tables acc ts) Sources.WellShaped := by
  match ts with
  | [] => exact .pure hacc
  | t :: ts => exact .bind (ensures_table hacc t) fun acc hacc => ensures_tables hacc ts

theorem ensures_table {acc : Sources} (hacc : acc.WellShaped) (t : Sql.TableWithJoins) :
    Ensures (table acc t) Sources.WellShaped := by
  match t with
  | ⟨relation, js⟩ =>
    exact .bind (ensures_factor hacc relation) fun acc hacc => ensures_joins hacc js

theorem ensures_joins {acc : Sources} (hacc : acc.WellShaped) (js : List Sql.Join) :
    Ensures (joins acc js) Sources.WellShaped := by
  match js with
  | [] => exact .pure hacc
  | ⟨everywhere, kind, relation, shared, on⟩ :: js =>
    exact ensures_joins_of _ (ensures_factor hacc relation) (ensures_exprOption on)
      fun acc hacc => ensures_joins hacc js

theorem ensures_factor {acc : Sources} (hacc : acc.WellShaped) (f : Sql.TableFactor) :
    Ensures (factor acc f) Sources.WellShaped := by
  match f with
  | .table name before tableAlias after => exact .after fun ref => .pure (hacc.addItem (.table ref))
  | .derived lateral q tableAlias =>
    exact .bind (ensures_query q) fun s hs => .after fun d => .pure (hacc.addItem (.derived _ _ hs))
  | .nestedJoin inner tableAlias => exact ensures_table hacc inner
  | .unmapped kind text =>
    exact .after fun _ => .bind (ensures_paramsIn text) fun ns hns =>
      .pure (hacc.addConditions fun n hn => Node.isExpr_of_isParam (hns n hn))

end

end Conversion

/-! ## Statements -/

/-- An assignment of a SET clause. -/
inductive Node.IsAssignment : Node → Prop where
  | mk (name : Option String) {value : Option Node} (location : Nat) (h : ∀ n ∈ value, n.IsExpr) :
    IsAssignment (.target name value location)

/-- A column that an INSERT lists. -/
inductive Node.IsInsertColumn : Node → Prop where
  | mk (name : String) (location : Nat) : IsInsertColumn (.target (some name) none location)

/-- An INSERT in which every node stands where it belongs. -/
structure Insert.WellShaped (i : Insert) : Prop where
  columns : ∀ n ∈ i.columns, n.IsInsertColumn
  source : i.source.WellShaped
  conflictTargets : ∀ n ∈ i.conflictTargets, n.IsAssignment
  conflictCondition : ∀ n ∈ i.conflictCondition, n.IsExpr
  returning : ∀ n ∈ i.returning, n.IsTarget

/-- An UPDATE in which every node stands where it belongs. -/
structure Update.WellShaped (u : Update) : Prop where
  targets : ∀ n ∈ u.targets, n.IsAssignment
  source : ∀ n ∈ u.source, n.IsSource
  joinConditions : AllExprs u.joinConditions
  condition : ∀ n ∈ u.condition, n.IsExpr
  returning : ∀ n ∈ u.returning, n.IsTarget

/-- A DELETE in which every node stands where it belongs. -/
structure Delete.WellShaped (d : Delete) : Prop where
  source : ∀ n ∈ d.source, n.IsSource
  joinConditions : AllExprs d.joinConditions
  condition : ∀ n ∈ d.condition, n.IsExpr
  orderBy : AllExprs d.orderBy
  limit : ∀ n ∈ d.limit, n.IsExpr
  returning : ∀ n ∈ d.returning, n.IsTarget

/-- A statement in which every node stands where it belongs, if it is a query or changes data. -/
inductive Node.IsStatement : Node → Prop where
  | select {q : Select} (h : q.WellShaped) : IsStatement (.select q)
  | insert {i : Insert} (h : i.WellShaped) : IsStatement (.insert i)
  | update {u : Update} (h : u.WellShaped) : IsStatement (.update u)
  | delete {d : Delete} (h : d.WellShaped) : IsStatement (.delete d)
  | other {n : Node} (h : n.isQuery = false) : IsStatement n

namespace Conversion

theorem ensures_assignments (as : List Sql.Assignment) :
    Ensures (assignments as) fun ns => ∀ n ∈ ns, n.IsAssignment := by
  have hmk {n : Node} (hn : n.IsTarget) : n.IsAssignment := by
    obtain ⟨name, location, hvalue⟩ := hn
    exact .mk name location (forall_mem_some hvalue)
  induction as with
  | nil => exact .pure (List.forall_mem_nil _)
  | cons a as ih =>
    -- whatever the first assignment becomes, the others are put behind it
    have hrest (n : Node) (hn : n.IsTarget) :
        Ensures (do return n :: (← assignments as)) fun ns => ∀ n ∈ ns, n.IsAssignment :=
      .bind ih fun ns hns => .pure (List.forall_mem_cons.mpr ⟨hmk hn, hns⟩)
    cases a with
    | column name value =>
      exact .after fun name => .bind (ensures_expr value) fun n hn =>
        .bind (ensures_target (some name) hn) hrest
    | tuple text =>
      exact .bind (ensures_skip _ text) fun n hn => .bind (ensures_target none hn) hrest

theorem ensures_onInsert (o : Option Sql.OnInsert) :
    Ensures (onInsert o) fun x => (∀ n ∈ x.1, n.IsAssignment) ∧ ∀ n ∈ x.2, n.IsExpr := by
  match o with
  | some (.duplicateKeyUpdate as) =>
    exact .bind (ensures_assignments as) fun ns hns => .pure ⟨hns, forall_mem_none⟩
  | some (.conflictUpdate target as condition) =>
    exact .bind (ensures_assignments as) fun ns hns => .bind (ensures_exprOption condition)
      fun c hc => .pure ⟨hns, hc⟩
  | some (.conflictNothing target) | none =>
    exact .pure ⟨List.forall_mem_nil _, forall_mem_none⟩

theorem ensures_insertSource (q : Option Sql.Query) :
    Ensures (insertSource q) Select.WellShaped := by
  cases q with
  | none => exact .pure Select.empty_wellShaped
  | some q => exact ensures_query q

theorem ensures_insert (i : Sql.Insert) : Ensures (insert i) Node.IsStatement := by
  refine .after fun table => .after fun d => .after fun setting => ?_
  refine .bind (ensures_insertSource i.source) fun source hsource => ?_
  refine .bind (ensures_onInsert i.onInsert) fun ⟨targets, condition⟩ ⟨htargets, hcondition⟩ => ?_
  refine .bind (ensures_selectItems i.returning) fun returning hreturning => ?_
  refine .pure (.insert ?_)
  have hcolumns : ∀ n ∈ i.columns.map fun c => Node.target (some (fold d c)) none setting.fallback,
      n.IsInsertColumn := List.forall_mem_map.mpr fun c _ => .mk _ _
  exact ⟨hcolumns, hsource, htargets, hcondition, hreturning⟩

theorem ensures_tableOption {acc : Sources} (hacc : acc.WellShaped)
    (t : Option Sql.TableWithJoins) : Ensures (tableOption acc t) Sources.WellShaped := by
  cases t with
  | none => exact .pure hacc
  | some t => exact ensures_table hacc t

theorem ensures_update (u : Sql.Update) : Ensures (update u) Node.IsStatement := by
  refine .bind (ensures_table Sources.empty_wellShaped u.table) fun source hsource => ?_
  refine .bind (ensures_assignments u.assignments) fun targets htargets => ?_
  refine .bind (ensures_tableOption hsource u.source) fun source hsource => ?_
  refine .bind (ensures_exprOption u.condition) fun condition hcondition => ?_
  refine .bind (ensures_selectItems u.returning) fun returning hreturning => ?_
  split
  · -- the target is taken out of the sources, the others stay
    rename_i hitems
    have hothers := (List.forall_mem_cons.mp (hitems ▸ hsource.items)).2
    exact .pure (.update ⟨htargets, hothers, hsource.conditions, hcondition, hreturning⟩)
  · exact .throw

theorem ensures_delete (d : Sql.Delete) : Ensures (delete d) Node.IsStatement := by
  refine .after fun _ => ?_
  refine .bind (ensures_tables Sources.empty_wellShaped d.source) fun source hsource => ?_
  refine .bind (ensures_tables hsource d.others) fun source hsource => ?_
  split
  · rename_i hitems
    have hothers := (List.forall_mem_cons.mp (hitems ▸ hsource.items)).2
    refine .bind (ensures_exprOption d.condition) fun condition hcondition => ?_
    refine .bind (ensures_orderKeys d.orderBy) fun keys hkeys => ?_
    refine .bind (ensures_exprOption d.limit) fun limit hlimit => ?_
    refine .bind (ensures_selectItems d.returning) fun returning hreturning => ?_
    exact .pure (.delete ⟨hothers, hsource.conditions, hcondition, hkeys, hlimit, hreturning⟩)
  · exact .throw

/-- In every converted statement every node stands where it belongs. -/
theorem ensures_statement (s : Sql.Statement) : Ensures (statement s) Node.IsStatement := by
  match s with
  | .query q => exact .bind (ensures_query q) fun s hs => .pure (.select hs)
  | .insert i => exact ensures_insert i
  | .update u => exact ensures_update u
  | .delete d => exact ensures_delete d
  | .createTable create => exact (ensures_createTable create).imp fun _ => .other
  | .alterTable alter => exact .after fun name => .after fun commands => .pure (.other rfl)
  | .dropTables names ifExists text => exact .after fun names => .pure (.other rfl)
  | .createSchema name ifNotExists text => exact .after fun name => .pure (.other rfl)
  | .unmapped kind text => exact .after fun params => .pure (.other rfl)

end Conversion

theorem convert_isStatement {d : Dialect} {s : Sql.ScriptStatement} {c : Converted}
    (h : convert d s = .ok c) : c.node.IsStatement := by
  obtain ⟨q, hrun⟩ := Conversion.exists_run_of_convert h
  exact Conversion.ensures_statement s.tree _ _ c.node q hrun

end TypedSql.Canonical
