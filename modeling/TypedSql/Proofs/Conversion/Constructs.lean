import TypedSql.Proofs.Conversion.Ledger

/-!
# Placeholders of expressions and queries

Every construct of an expression or a query adds to the canonical tree exactly the placeholders that
its tally keeps, by induction on the syntax tree.

- **Single nodes**: literals, references, operators and marks of joins
- **Clauses**: how a query takes over the clauses of its body
- **Shapes of answers**: the answers of a clause that is absent are empty
- **Constructs**: one statement for each function of the conversion
-/

namespace TypedSql.Canonical

namespace Conversion

variable {l : Ledger}

/-! ## Single nodes -/

theorem adds_literal (value : Sql.Literal) :
    Adds l [] Node.walk (literal value) (.literal value) := by
  match value with
  | .placeholder text =>
    -- only a bare question mark is counted up; other placeholders say their number
    by_cases h : text = "?"
    · subst h
      exact adds_param_mark
    · simpa [literal, Tally.literal, h] using adds_param_of_ne h
  | .number .. | .boolean _ | .null
  | .string .single _ | .string .double _ | .string .escaped _ | .string .national _ =>
    exact Adds.pure (by simp)
  | .string .unicode _ | .string .hex _ | .string .byteSingle _ | .string .byteDouble _
  | .string (.dollar _) _ => exact adds_skip _ _

@[simp] theorem refs_walkAll_names (parts : List Sql.Ident) (f : Sql.Ident → String) :
    refs (walkAll (parts.map fun i => .name (f i))) = [] := by
  induction parts with
  | nil => rfl
  | cons i is ih => simpa using ih

@[simp] theorem walkAll_append (ms ns : List Node) :
    walkAll (ms ++ ns) = walkAll ms ++ walkAll ns := by
  induction ms with
  | nil => rfl
  | cons m ms ih => simp [ih]

theorem adds_columnRef (parts : List Sql.Ident) : Adds l [] Node.walk (columnRef parts) 0 :=
  .afterRead quiet_dialect fun d _ => .pure (by simp)

theorem quiet_starRef_eq (parts : List Sql.Ident) :
    Quiet l (starRef parts) 0
      (· = .column (parts.map (fun i => .name (fold .mysql i)) ++ [.star])) :=
  quiet_of_run fun _ => rfl

theorem quiet_starRef (parts : List Sql.Ident) :
    Quiet l (starRef parts) 0 fun n => refs n.walk = [] :=
  (quiet_starRef_eq parts).imp fun n new ⟨hn, hnew⟩ => ⟨by simp [hn], hnew⟩

@[simp] theorem refs_walk_binary (op : Sql.BinaryOp) (left right : Node) :
    refs (binary op left right).walk = refs left.walk ++ refs right.walk := by
  cases op <;> simp [binary]

/-- A sign that becomes part of a number changes nothing, because a number holds no placeholder. -/
@[simp] theorem refs_walk_unary (op : Sql.UnaryOp) (arg : Node) :
    refs (unary op arg).walk = refs arg.walk := by
  match op with
  | .not | .plus | .before _ | .after _ => simp [unary]
  | .minus =>
    unfold unary
    dsimp only
    split <;> simp

theorem quiet_tableRef (name : Sql.ObjectName) (aliasName : Option Sql.Ident) :
    Quiet l (tableRef name aliasName) (.tableName name) fun _ => True := by
  have h := (quiet_tableName (l := l) name).bind fun table _ => quiet_dialect.bind fun d _ =>
    .pure (a := TableRef.mk table.schema table.name (aliasName.map (fold d)) false)
      (P := fun _ => True) trivial
  exact h.weaken (by simp [Tally.written]) (by simp)

/-! ## Tables -/

/-- The nodes of the tables and conditions of a FROM clause. -/
def Sources.walk (s : Sources) : List Node := walkAll s.items ++ walkAll s.conditions

/-- Marking a table adds no placeholder. -/
@[simp] theorem refs_walk_markNullable (n : Node) : refs (markNullable n).walk = refs n.walk := by
  cases n <;> simp [markNullable]

theorem refs_walkAll_markNullable (ns : List Node) :
    refs (walkAll (ns.map markNullable)) = refs (walkAll ns) := by
  induction ns with
  | nil => rfl
  | cons n ns ih => simp [ih]

@[simp] theorem refs_walkAll_markJoin (kind : Sql.JoinKind) (n : Nat) (items : List Node) :
    refs (walkAll (markJoin kind n items)) = refs (walkAll items) := by
  -- only one side of the join is marked, so the items are taken apart where the sides meet
  have h : refs (walkAll items) =
      refs (walkAll (items.take n)) ++ refs (walkAll (items.drop n)) := by
    rw [← refs_append, ← walkAll_append, List.take_append_drop]
  rw [h]
  unfold markJoin
  simp only [walkAll_append, refs_append]
  split <;> split <;> simp only [refs_walkAll_markNullable]

/-! ## Clauses -/

/-- The nodes of a clause that an outer query can take over. -/
def clauseWalk (s : Select) : Clause → List Node
  | .ctes => walkNamed s.ctes
  | .orderBy => walkAll s.orderBy
  | .limit => walkOption s.limit
  | .offset => walkOption s.offset

/-- A query without the clauses that an outer query can take over. -/
def core (s : Select) : Select :=
  { s with ctes := [], orderBy := [], limit := none, offset := none }

theorem walk_select_perm (s : Select) :
    s.walk.Perm ((core s).walk ++ (clauseWalk s .ctes ++ (clauseWalk s .orderBy ++
      (clauseWalk s .limit ++ clauseWalk s .offset)))) := by
  classical
  cases s
  refine List.perm_iff_count.mpr fun n => ?_
  simp only [core, clauseWalk, Select.walk, walkNamed, walkAll, walkOption, List.count_append,
    List.count_nil]
  omega

theorem refs_walk_select (s : Select) :
    (refs s.walk).Perm (refs (core s).walk ++ (refs (clauseWalk s .ctes) ++
      (refs (clauseWalk s .orderBy) ++ (refs (clauseWalk s .limit) ++
        refs (clauseWalk s .offset))))) := by
  have h : (refs s.walk).Perm (refs _) := (walk_select_perm s).filterMap Node.paramRef?
  simpa only [refs_append] using h

/-- A converted query holds the placeholders that its tally keeps, clause by clause. -/
structure Holds (c : Clauses) (s : Select) (new : List ParamRef) : Prop where
  count : ∀ r, (refs s.walk).count r ≤ new.count r
  clause : ∀ k, (refs (clauseWalk s k)).length = c.kept k
  rest : (refs (core s).walk).length = c.rest.kept

theorem walkOption_or (a b : Option Node) :
    walkOption (a.or b) = if a.isSome then walkOption a else walkOption b := by
  cases a <;> rfl

namespace Holds

variable {c : Clauses} {s s' : Select} {new more : List ParamRef}

theorem extends_whole (h : Holds c s new) : Extends [] Select.walk c.whole.kept s new := by
  refine ⟨fun r => by simpa using h.count r, ?_⟩
  rw [(refs_walk_select s).length_eq]
  simp [h.clause, h.rest, Clauses.whole]
  omega

/-- A query without clauses holds what all of it holds. -/
theorem plain {t : Tally} (hcore : core s = s) (h : Extends [] Select.walk t.kept s new) :
    Holds (.plain t) s new where
  count r := by simpa using h.1 r
  clause k := by
    rw [← hcore]
    cases k <;> rfl
  rest := by
    rw [hcore]
    simpa [Clauses.plain] using h.2

/-- A clause around a query takes the place of the clause inside it. -/
theorem put {α : Type} {k : Clause} {present : Bool} {t : Tally} {walk : α → List Node} {a : α}
    (h : Holds c s new) (hext : Extends [] walk t.kept a more) (hcore : core s' = core s)
    (hother : ∀ j, j ≠ k → clauseWalk s' j = clauseWalk s j)
    (hclause : clauseWalk s' k = if present then walk a else clauseWalk s k) :
    Holds (c.put k present t) s' (new ++ more) where
  count r := by
    have hs := (refs_walk_select s).count_eq r
    have hs' := (refs_walk_select s').count_eq r
    have hnew := h.count r
    have hmore := hext.1 r
    have hk : (refs (clauseWalk s' k)).count r ≤
        (refs (walk a)).count r + (refs (clauseWalk s k)).count r := by
      rw [hclause]
      split <;> omega
    simp only [List.count_append, List.count_nil] at hs hs' hmore ⊢
    rw [hcore] at hs'
    -- whichever clause is replaced, the other three and the core are those of the body
    cases k with
    | ctes =>
      rw [hother .orderBy (by decide), hother .limit (by decide), hother .offset (by decide)] at hs'
      omega
    | orderBy =>
      rw [hother .ctes (by decide), hother .limit (by decide), hother .offset (by decide)] at hs'
      omega
    | limit =>
      rw [hother .ctes (by decide), hother .orderBy (by decide), hother .offset (by decide)] at hs'
      omega
    | offset =>
      rw [hother .ctes (by decide), hother .orderBy (by decide), hother .limit (by decide)] at hs'
      omega
  clause j := by
    unfold Clauses.put
    by_cases hj : j = k
    · subst hj
      rw [hclause]
      split <;> simp [hext.2, h.clause]
    · rw [hother j hj]
      split <;> simp [hj, h.clause]
  rest := by
    rw [hcore, h.rest]
    unfold Clauses.put
    split <;> rfl

theorem putCtes {present : Bool} {t : Tally} {ctes : List NamedQuery} (h : Holds c s new)
    (hext : Extends [] walkNamed t.kept ctes more) (hctes : ctes.isEmpty = !present) :
    Holds (c.put .ctes present t) { s with ctes := if ctes.isEmpty then s.ctes else ctes }
      (new ++ more) := by
  refine h.put hext rfl (fun j hj => ?_) ?_
  · cases j <;> first | rfl | exact absurd rfl hj
  · cases present <;> simp [clauseWalk, hctes]

theorem putOrderBy {present : Bool} {t : Tally} {keys : List Node} (h : Holds c s new)
    (hext : Extends [] walkAll t.kept keys more) (hkeys : keys.isEmpty = !present) :
    Holds (c.put .orderBy present t) { s with orderBy := if keys.isEmpty then s.orderBy else keys }
      (new ++ more) := by
  refine h.put hext rfl (fun j hj => ?_) ?_
  · cases j <;> first | rfl | exact absurd rfl hj
  · cases present <;> simp [clauseWalk, hkeys]

theorem putLimit {present : Bool} {t : Tally} {limit : Option Node} (h : Holds c s new)
    (hext : Extends [] walkOption t.kept limit more) (hlimit : limit.isSome = present) :
    Holds (c.put .limit present t) { s with limit := limit.or s.limit } (new ++ more) := by
  refine h.put hext rfl (fun j hj => ?_) ?_
  · cases j <;> first | rfl | exact absurd rfl hj
  · rw [← hlimit]
    exact walkOption_or limit s.limit

theorem putOffset {present : Bool} {t : Tally} {offset : Option Node} (h : Holds c s new)
    (hext : Extends [] walkOption t.kept offset more) (hoffset : offset.isSome = present) :
    Holds (c.put .offset present t) { s with offset := offset.or s.offset } (new ++ more) := by
  refine h.put hext rfl (fun j hj => ?_) ?_
  · cases j <;> first | rfl | exact absurd rfl hj
  · rw [← hoffset]
    exact walkOption_or offset s.offset

theorem perm (h : Holds c s new) (hp : new.Perm more) : Holds c s more :=
  ⟨fun r => hp.count_eq r ▸ h.count r, h.clause, h.rest⟩

/-- Texts that no stage looks into change nothing. -/
theorem withTexts (h : Holds c s new) (texts : List String) :
    Holds (c.withTexts (.silentAll texts)) s new :=
  ⟨h.count, h.clause, by simp [h.rest, Clauses.withTexts, Tally.kept_silentAll]⟩

end Holds

theorem Issues.adds {c : Conversion Select} {cs : Clauses} (h : Issues l c cs.whole (Holds cs)) :
    Adds l [] Select.walk c cs.whole := h.imp fun _ _ => Holds.extends_whole

theorem Adds.plain {c : Conversion Select} {t : Tally} (h : Adds l [] Select.walk c t)
    (hcore : Ensures c fun q => core q = q) : Issues l c t (Holds (.plain t)) :=
  (Issues.and h hcore).imp fun _ _ ⟨hext, hcore⟩ => .plain hcore hext

/-! ## Shapes of answers -/

theorem ensures_orderKeys_isEmpty (os : List Sql.OrderItem) :
    Ensures (orderKeys os) (·.isEmpty = !!os.isEmpty) := by
  cases os with
  | nil => exact .pure rfl
  | cons o os =>
    obtain ⟨key, direction⟩ := o
    exact .after fun n => .after fun ns => .pure rfl

theorem ensures_namedQueries_isEmpty (cs : List Sql.Cte) :
    Ensures (namedQueries cs) (·.isEmpty = !!cs.isEmpty) := by
  cases cs with
  | nil => exact .pure rfl
  | cons cte cs =>
    obtain ⟨tableAlias, materialized, q, source⟩ := cte
    exact .after fun name => .after fun s => .after fun ns => .pure rfl

theorem ensures_exprOption_isSome (e : Option Sql.Expr) :
    Ensures (exprOption e) (·.isSome = e.isSome) := by
  cases e with
  | none => exact .pure rfl
  | some e => exact .after fun n => .pure rfl

theorem ensures_select_core (s : Sql.Select) : Ensures (select s) fun q => core q = q := by
  obtain ⟨distinct, distinctOn, top, projection, into, source, lateralViews, condition, groupAll,
    groupBy, clustering, having, ws, windowFirst, qualify⟩ := s
  rw [select]
  refine .after fun top => .after fun distinctOn => .after fun targets => .after fun source =>
    .after fun views => .after fun condition => ?_
  exact .after fun _ => .after fun groupBy => .after fun having => .after fun ⟨ws, qualify⟩ =>
    .pure rfl

/-! ## Queries -/

theorem issues_query_of (q : Sql.Query)
    (hctes : Adds l [] walkNamed (namedQueries q.ctes) (.namedQueries q.ctes))
    (hbody : Issues l (setExpr q.body) (Tally.setExpr q.body).whole (Holds (Tally.setExpr q.body)))
    (horderBy : Adds l [] walkAll (orderKeys q.orderBy) (.orderKeys q.orderBy))
    (hlimit : Adds l [] walkOption (exprOption q.limit) (.exprOption q.limit))
    (hoffset : Adds l [] walkOption (exprOption q.offset) (.exprOption q.offset))
    (hquantity : Adds l [] walkOption (exprOption q.fetchQuantity) (.exprOption q.fetchQuantity)) :
    Issues l (query q) (Tally.query q).whole (Holds (Tally.query q)) := by
  obtain ⟨recursive, ctes, body, orderBy, limit, offset, rows, fetch, quantity, tail⟩ := q
  dsimp only at *
  -- the tally of the run adds the clauses in the order in which they are converted
  have hrun : Issues l
      (query ⟨recursive, ctes, body, orderBy, limit, offset, rows, fetch, quantity, tail⟩)
      (.namedQueries ctes + ((Tally.setExpr body).whole + (.orderKeys orderBy +
        (0 + ((.exprOption offset + .exprOption limit) + .exprOption quantity)))))
      (Holds (Tally.query
        ⟨recursive, ctes, body, orderBy, limit, offset, rows, fetch, quantity, tail⟩)) := by
    apply Issues.bind (Issues.and hctes (ensures_namedQueries_isEmpty ctes))
    rintro ctes' new₁ ⟨hctes, hctes'⟩
    apply Issues.bind hbody
    intro s new₂ hbody
    apply Issues.bind (Issues.and horderBy (ensures_orderKeys_isEmpty orderBy))
    rintro keys new₃ ⟨hkeys, hkeys'⟩
    apply Issues.bind quiet_read
    rintro setting none ⟨-, hnone⟩
    apply Issues.bind ((Issues.and hoffset (ensures_exprOption_isSome offset)).inOrder
      (Issues.and hlimit (ensures_exprOption_isSome limit)))
    rintro ⟨offset', limit'⟩ new₄ ⟨newOffset, newLimit, hperm, hoffset, hlimit⟩
    apply Issues.map (Issues.and hquantity (ensures_exprOption_isSome quantity))
    rintro quantity' new₅ ⟨hquantity, hquantity'⟩
    -- the five clauses are put around the body in the order that `query` puts them
    have hput := ((((hbody.putCtes hctes hctes').putOrderBy hkeys hkeys').putLimit hlimit.1
      hlimit.2).putOffset hoffset.1 hoffset.2).putLimit hquantity hquantity'
    rw [Tally.query]
    refine (hput.withTexts (rows :: tail :: fetch.toList)).perm ?_
    subst hnone
    refine List.perm_iff_count.mpr fun r => ?_
    simp only [List.count_append, hperm.count_eq, List.count_nil]
    omega
  -- a clause that is replaced moves from the kept placeholders to the lost ones
  refine hrun.weaken ?_ ?_
  · rw [Tally.written_query]
    simp only [Tally.written_add, Tally.written_zero]
    omega
  · rw [Tally.converts_query]
    simp only [Tally.converts_add, Tally.converts_zero, Bool.true_and]
    ac_rfl

theorem adds_select_of (s : Sql.Select)
    (hdistinctOn : Adds l [] walkAll (exprs s.distinctOn) (.exprs s.distinctOn))
    (hprojection : Adds l [] walkAll (selectItems s.projection) (.selectItems s.projection))
    (hsource : Adds l [] Sources.walk (tables ⟨[], []⟩ s.source) (.tables s.source))
    (hcondition : Adds l [] walkOption (exprOption s.condition) (.exprOption s.condition))
    (hgroupBy : Adds l [] walkAll (exprs s.groupBy) (.exprs s.groupBy))
    (hhaving : Adds l [] walkOption (exprOption s.having) (.exprOption s.having))
    (hwindows : Adds l [] walkWindows (windows s.windows) (.windows s.windows)) :
    Adds l [] Select.walk (select s) (.select s) := by
  obtain ⟨distinct, distinctOn, top, projection, into, source, lateralViews, condition, groupAll,
    groupBy, clustering, having, ws, windowFirst, qualify⟩ := s
  rw [select, Tally.select]
  refine Adds.silent ?_ [into, clustering]
  apply Adds.bind (adds_mapM_skip _ top.toList)
  intro top
  apply Adds.bind hdistinctOn
  intro distinctOn
  apply Adds.bind hprojection
  intro targets
  apply Adds.bind hsource
  intro source
  apply Adds.bind (adds_mapM_skip _ lateralViews)
  intro views
  apply Adds.bind hcondition
  intro condition
  apply Adds.afterRead (quiet_noteIf _ _)
  intro _ _
  apply Adds.bind hgroupBy
  intro groupBy
  apply Adds.bind hhaving
  intro having
  apply Adds.last (hwindows.inOrder (adds_mapM_skip _ qualify.toList))
  rintro ⟨ws, qualify⟩
  refine .pure ?_
  -- the skipped clauses join the conditions of the FROM clause: only the order differs
  refine List.perm_iff_count.mpr fun r => ?_
  simp only [Select.walk, Select.empty, Sources.walk, walkNamed, walkSide, walkAll, walkOption,
    walkAll_append, refs_append, refs_nil, List.count_append, List.count_nil]
  omega

theorem adds_joins_of {acc : Sources} (j : Sql.Join) {js : List Sql.Join}
    (hrelation : Adds l (refs acc.walk) Sources.walk (factor acc j.relation) (.factor j.relation))
    (hon : Adds l [] walkOption (exprOption j.on) (.exprOption j.on))
    (hjoins : ∀ acc : Sources, Adds l (refs acc.walk) Sources.walk (joins acc js) (.joins js)) :
    Adds l (refs acc.walk) Sources.walk (joins acc (j :: js)) (.joins (j :: js)) := by
  obtain ⟨everywhere, kind, relation, shared, on⟩ := j
  rw [joins, Tally.joins]
  refine Adds.silent ?_ (Tally.joins.matchCondition kind).toList
  refine hrelation.andThen fun acc' => ?_
  have hmark : refs (Sources.walk ⟨markJoin kind acc.items.length acc'.items, acc'.conditions⟩) =
      refs acc'.walk := by simp [Sources.walk]
  dsimp only
  cases unmappedJoin? kind with
  | some construct =>
    -- the condition is not converted at all
    refine .weaken (t := .joins js) ?_ (by simp [Tally.dropped]) (by simp [Tally.dropped])
      (by simp [Tally.dropped])
    exact .afterRead (quiet_note construct) fun _ _ => hmark ▸ hjoins _
  | none =>
    refine .bind hon fun condition => .afterRead (quiet_noteIf _ _) fun _ _ => ?_
    refine (hjoins _).perm ?_
    rw [← hmark]
    refine List.perm_iff_count.mpr fun r => ?_
    cases condition <;> simp [Sources.walk]

/-! ## Constructs -/

/-- The nodes of what stands in the parentheses of a call. -/
def CallParts.walk (parts : CallParts) : List Node := walkAll parts.args ++ walkAll parts.orderBy

mutual

theorem adds_expr (e : Sql.Expr) : Adds l [] Node.walk (expr e) (.expr e) := by
  match e with
  | .column first rest => exact adds_columnRef _
  | .literal value => exact adds_literal value
  | .nested inner => exact adds_expr inner
  | .binary left op right =>
    exact (adds_expr left).bind fun left => (adds_expr right).map fun right => by simp
  | .unary op operand => exact (adds_expr operand).map fun arg => by simp
  | .isNull operand negated => exact (adds_expr operand).map fun arg => by simp
  | .inList operand items negated =>
    exact (adds_expr operand).bind fun left => (adds_exprs items).map fun items => by
      simp
  | .between operand low high negated =>
    exact (adds_expr operand).bind fun left => (adds_expr low).bind fun low =>
      (adds_expr high).map fun high => by simp
  | .like op any operand pattern escape negated =>
    exact (adds_expr operand).bind fun left => (adds_expr pattern).map fun pattern => by
      simp
  | .inQuery operand q negated =>
    exact (adds_expr operand).bind fun test =>
      (adds_tested (issues_query q).adds).map fun found => by simp
  | .exists q negated =>
    exact (adds_tested (issues_query q).adds).map fun found => by simp
  | .subquery q => exact (issues_query q).adds.map fun s => by simp
  -- the kind of the cast is written after its operand, and adds no placeholders
  | .cast form operand type =>
    have h : Adds l [] Node.walk (expr (.cast form operand type)) (.expr operand) :=
      (adds_expr operand).last fun arg => .afterRead quiet_dialect fun d _ =>
        .pure (by simp)
    cases form with
    | operator => exact h.silent []
    | call keyword format => exact h.silent [format]
  | .case operand bs default =>
    exact (adds_exprOption operand).bind fun operand => (adds_branches bs).bind fun bs =>
      (adds_exprOption default).map fun default => by simp
  | .call name args withinGroup filter nulls w treatment =>
    exact ((adds_arguments args).bind fun parts => (adds_orderKeys withinGroup).bind fun keys =>
      (adds_exprOption filter).bind fun filter => (adds_windowOption w).map fun w => by
        simp [CallParts.walk]).silent _
  | .keywordCall name words args =>
    exact ((adds_exprs args).map fun args => by
      simp [plainCall]).silent _
  | .unmapped kind text => exact adds_skip kind text

theorem adds_exprs (es : List Sql.Expr) : Adds l [] walkAll (exprs es) (.exprs es) := by
  match es with
  | [] => exact .pure (by simp)
  | e :: es =>
    exact (adds_expr e).bind fun n => (adds_exprs es).map fun ns => by simp

theorem adds_exprOption (e : Option Sql.Expr) :
    Adds l [] walkOption (exprOption e) (.exprOption e) := by
  match e with
  | none => exact .pure (by simp)
  | some e => exact (adds_expr e).map fun n => by simp

theorem adds_branches (bs : List Sql.Branch) :
    Adds l [] walkBranches (branches bs) (.branches bs) := by
  match bs with
  | [] => exact .pure (by simp)
  | ⟨condition, result⟩ :: bs =>
    exact (adds_expr condition).bind fun condition => (adds_expr result).bind fun result =>
      (adds_branches bs).map fun bs => by simp

theorem adds_arguments (args : Sql.Arguments) :
    Adds l [] CallParts.walk (arguments args) (.arguments args) := by
  match args with
  | .none => exact .pure (by simp [CallParts.walk])
  | .query q => exact (issues_query q).adds.map fun s => by simp [CallParts.walk]
  | .list treatment items clauses =>
    exact (adds_argumentItems items).bind fun ⟨args, star⟩ =>
      (adds_argumentClauses clauses).map fun keys => by simp [CallParts.walk]

theorem adds_argumentItems (as : List Sql.Argument) :
    Adds l [] (fun x => walkAll x.1) (argumentItems as) (.argumentItems as) := by
  match as with
  | [] => exact .pure (by simp)
  | .value label value :: as =>
    refine Adds.silent ?_ [label]
    exact (adds_expr value).bind fun n => (adds_argumentItems as).last fun ⟨ns, star⟩ =>
      .pure (by simp)
  | .star text :: as =>
    refine Adds.silent ?_ [text]
    exact (adds_argumentItems as).last fun ⟨ns, star⟩ => .pure (by simp)
  | .labelled text :: as =>
    exact (adds_skip _ text).bind fun n => (adds_argumentItems as).last fun ⟨ns, star⟩ =>
      .pure (by simp)

theorem adds_argumentClauses (cs : List Sql.ArgumentClause) :
    Adds l [] walkAll (argumentClauses cs) (.argumentClauses cs) := by
  match cs with
  | [] => exact .pure (by simp)
  | .orderBy items :: cs =>
    exact (adds_orderKeys items).bind fun keys => (adds_argumentClauses cs).map fun ns => by simp
  | .silent text :: cs => exact (adds_argumentClauses cs).silent [text]
  | .unmapped kind text :: cs =>
    exact (adds_skip kind text).bind fun n => (adds_argumentClauses cs).map fun ns => by
      simp

theorem adds_orderKeys (os : List Sql.OrderItem) :
    Adds l [] walkAll (orderKeys os) (.orderKeys os) := by
  match os with
  | [] => exact .pure (by simp)
  | ⟨key, direction⟩ :: os =>
    exact ((adds_expr key).bind fun n => (adds_orderKeys os).map fun ns => by
      simp).silent [direction]

theorem adds_window (w : Sql.WindowSpec) : Adds l [] Window.walk (window w) (.window w) := by
  match w with
  | ⟨name, before, reference, partitionBy, orderBy, frame, startOffset, stopOffset⟩ =>
    apply Adds.bind (adds_exprs partitionBy)
    intro partitionBy
    apply Adds.bind (adds_orderKeys orderBy)
    intro orderBy
    apply Adds.bind (adds_exprOption startOffset)
    intro startOffset
    apply Adds.last (adds_exprOption stopOffset)
    intro stopOffset
    exact .afterRead quiet_dialect fun d _ => .pure (by simp)

theorem adds_windowOption (w : Option Sql.WindowSpec) :
    Adds l [] walkOver (windowOption w) (.windowOption w) := by
  match w with
  | none => exact .pure (by simp)
  | some w => exact (adds_window w).map fun w => by simp

theorem adds_windows (ws : List Sql.WindowSpec) :
    Adds l [] walkWindows (windows ws) (.windows ws) := by
  match ws with
  | [] => exact .pure (by simp)
  | w :: ws =>
    exact (adds_window w).bind fun w => (adds_windows ws).map fun ws => by simp

theorem issues_query (q : Sql.Query) :
    Issues l (query q) (Tally.query q).whole (Holds (Tally.query q)) := by
  match q with
  | ⟨_, ctes, body, orderBy, limit, offset, _, _, quantity, _⟩ =>
    exact issues_query_of _ (adds_namedQueries ctes) (issues_setExpr body) (adds_orderKeys orderBy)
      (adds_exprOption limit) (adds_exprOption offset) (adds_exprOption quantity)

theorem adds_namedQueries (cs : List Sql.Cte) :
    Adds l [] walkNamed (namedQueries cs) (.namedQueries cs) := by
  match cs with
  | [] => exact .pure (by simp)
  | ⟨tableAlias, materialized, q, source⟩ :: cs =>
    refine Adds.silent ?_
      [tableAlias.columns, materialized, source]
    exact .afterRead (quiet_ident _) fun name _ => (issues_query q).adds.bind fun s =>
      (adds_namedQueries cs).map fun ns => by simp

theorem issues_setExpr (b : Sql.SetExpr) :
    Issues l (setExpr b) (Tally.setExpr b).whole (Holds (Tally.setExpr b)) := by
  match b with
  | .select s => exact (adds_select s).plain (ensures_select_core s)
  | .query q => exact issues_query q
  -- both sides are counted, whatever the operation
  | .operation op quantifier left right =>
    have h : Adds l [] Select.walk (setExpr (.operation op quantifier left right))
        ((Tally.setExpr left).whole + (Tally.setExpr right).whole) :=
      (issues_setExpr left).adds.bind fun left => (issues_setExpr right).adds.map fun right => by
        simp [Select.empty]
    exact h.plain (.after fun left => .after fun right => .pure rfl)
  | .values explicit items =>
    have h : Adds l [] Select.walk (setExpr (.values explicit items)) (.rows items) :=
      (adds_rows items).map fun rows => by
        simp [Select.empty]
    exact h.plain (.after fun rows => .pure rfl)
  -- a body that is not mapped becomes the single target of a query
  | .unmapped kind text =>
    have h : Adds l [] Select.walk (setExpr (.unmapped kind text)) (.skipped text) :=
      (adds_skip kind text).last fun node => .afterRead (quiet_target none node) fun n hn =>
        .pure (by simp [Select.empty, hn])
    exact h.plain (.after fun node => .after fun n => .pure rfl)

theorem adds_rows (items : List (List Sql.Expr)) :
    Adds l [] walkAll (rows items) (.rows items) := by
  match items with
  | [] => exact .pure (by simp)
  | row :: rest =>
    exact (adds_exprs row).bind fun items => (adds_rows rest).map fun ns => by
      simp

theorem adds_select (s : Sql.Select) : Adds l [] Select.walk (select s) (.select s) := by
  match s with
  | ⟨_, distinctOn, _, projection, _, source, _, condition, _, groupBy, _, having, ws, _, _⟩ =>
    exact adds_select_of _ (adds_exprs distinctOn) (adds_selectItems projection)
      (adds_tables ⟨[], []⟩ source) (adds_exprOption condition) (adds_exprs groupBy)
      (adds_exprOption having) (adds_windows ws)

theorem adds_selectItems (is : List Sql.SelectItem) :
    Adds l [] walkAll (selectItems is) (.selectItems is) := by
  match is with
  | [] => exact .pure (by simp)
  | .value value :: is =>
    exact (adds_expr value).bind fun n => .afterRead (quiet_target _ n) fun n hn =>
      (adds_selectItems is).map fun ns => by simp [hn]
  | .aliased value aliasName :: is =>
    exact (adds_expr value).bind fun n => .afterRead (quiet_ident _) fun _ _ =>
      .afterRead (quiet_target _ n) fun n hn =>
        (adds_selectItems is).map fun ns => by simp [hn]
  | .star :: is =>
    exact .afterRead (quiet_starRef []) fun n hn => .afterRead (quiet_target _ n) fun n hn' =>
      (adds_selectItems is).map fun ns => by simp [hn, hn']
  | .qualifiedStar name :: is =>
    exact .afterRead (quiet_starRef name) fun n hn => .afterRead (quiet_target _ n) fun n hn' =>
      (adds_selectItems is).map fun ns => by simp [hn, hn']

theorem adds_tables (acc : Sources) (ts : List Sql.TableWithJoins) :
    Adds l (refs acc.walk) Sources.walk (tables acc ts) (.tables ts) := by
  match ts with
  | [] => exact .pure .rfl
  | t :: ts => exact (adds_table acc t).andThen fun acc => adds_tables acc ts

theorem adds_table (acc : Sources) (t : Sql.TableWithJoins) :
    Adds l (refs acc.walk) Sources.walk (table acc t) (.table t) := by
  match t with
  | ⟨relation, js⟩ => exact (adds_factor acc relation).andThen fun acc => adds_joins acc js

theorem adds_joins (acc : Sources) (js : List Sql.Join) :
    Adds l (refs acc.walk) Sources.walk (joins acc js) (.joins js) := by
  match js with
  | [] => exact .pure .rfl
  | ⟨everywhere, kind, relation, shared, on⟩ :: js =>
    exact adds_joins_of _ (adds_factor acc relation) (adds_exprOption on) fun acc =>
      adds_joins acc js

theorem adds_factor (acc : Sources) (f : Sql.TableFactor) :
    Adds l (refs acc.walk) Sources.walk (factor acc f) (.factor f) := by
  match f with
  | .table name before tableAlias after =>
    refine .after (quiet_tableRef name _) (fun ref _ => ?_) rfl
    have h : Adds l (refs acc.walk) Sources.walk
        (pure { acc with items := acc.items ++ [.table ref] }) 0 :=
      .pure (by simp [Sources.walk])
    rw [← Tally.zero_add (Tally.silentAll _)]
    exact h.silent _
  | .derived lateral q tableAlias =>
    refine Adds.silent ?_ _
    refine (issues_query q).adds.last fun s => .afterRead quiet_dialect fun d _ => .pure ?_
    -- only how often each reference stands in the walk matters
    refine List.perm_iff_count.mpr fun r => ?_
    simp [Sources.walk]
    omega
  | .nestedJoin inner tableAlias => exact (adds_table acc inner).silent _
  | .unmapped kind text =>
    exact .afterRead (quiet_note kind) fun _ _ => (adds_paramsIn text).map fun params => by
      simp [Sources.walk]

end

end Conversion

end TypedSql.Canonical
