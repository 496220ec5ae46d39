import TypedSql.Proofs.Conversion.LevelMarks
import TypedSql.Proofs.Queries.NamedTables

/-!
# Locations

Where a statement stands in its file shows in the locations of its tree only. A conversion takes
locations from the text and writes them down, and an analysis does not look at them.

- **Moved runs**: conversions that come to the same when all locations are moved
- **Single constructs**: the steps of a conversion, piece by piece
- **Expressions and queries**: one statement for each function of the conversion
- **Statements**: a statement is converted to the same tree wherever it stands
- **Analyses**: an analysis of a moved tree
-/

namespace TypedSql.Canonical

/-! ## Moved runs -/

/-- Something with locations in it. -/
class Placed (α : Type) where
  /-- The thing with other locations. -/
  move : (Nat → Nat) → α → α

export Placed (move)

section Instances

instance : Placed Node := ⟨Node.relocate⟩

instance : Placed (List Node) := ⟨relocateAll⟩

instance : Placed (Option Node) := ⟨relocateOption⟩

instance : Placed Select := ⟨Select.relocate⟩

instance : Placed (List NamedQuery) := ⟨relocateNamed⟩

instance : Placed Window := ⟨Window.relocate⟩

instance : Placed (Option Window) := ⟨relocateOver⟩

instance : Placed (List Window) := ⟨relocateWindows⟩

instance : Placed (List Branch) := ⟨relocateBranches⟩

instance : Placed Bool := ⟨fun _ b => b⟩

instance {α β : Type} [Placed α] [Placed β] : Placed (α × β) :=
  ⟨fun f => Prod.map (move f) (move f)⟩

instance : Placed Conversion.Sources := ⟨fun f s => ⟨move f s.items, move f s.conditions⟩⟩

instance : Placed Conversion.CallParts :=
  ⟨fun f p => ⟨move f p.args, move f p.orderBy, p.star, p.distinct⟩⟩

instance : Placed Conversion.QueryParts :=
  ⟨fun f p => ⟨move f p.ctes, move f p.body, move f p.keys, move f p.offset, move f p.limit,
    move f p.quantity⟩⟩

instance : Placed Sql.Placeholder := ⟨fun f p => { p with offset := f p.offset }⟩

instance : Placed Setting := ⟨fun f s => { s with fallback := f s.fallback }⟩

instance : Placed Progress := ⟨fun f p => { p with unclaimed := p.unclaimed.map (move f) }⟩

end Instances

variable {f : Nat → Nat}

theorem move_append (ns ns' : List Node) : move f (ns ++ ns') = move f ns ++ move f ns' := by
  show relocateAll f _ = relocateAll f _ ++ relocateAll f _
  simp only [relocateAll_eq_map, List.map_append]

theorem move_toList (n : Option Node) : move f n.toList = (move f n).toList := by
  cases n <;> rfl

theorem move_or (a b : Option Node) : move f (a.or b) = (move f a).or (move f b) := by
  cases a <;> rfl

namespace Conversion

variable {α β γ : Type}

/-- With all locations of the text moved, the second conversion comes to what the first one does,
changed by a map. -/
def MovesBy (f : Nat → Nat) (E : α → α) (c c' : Conversion α) : Prop :=
  ∀ s p, c'.run (move f s) (move f p) = Prod.map (Except.map E) (move f) (c.run s p)

/-- With all locations of the text moved, the second conversion answers what the first one does,
with all locations moved. -/
abbrev Moves (f : Nat → Nat) [Placed α] (c c' : Conversion α) : Prop := MovesBy f (move f) c c'

/-- A conversion that answers nothing with a location. -/
abbrev Unmoved (f : Nat → Nat) (c : Conversion α) : Prop := MovesBy f id c c

namespace MovesBy

variable {E : α → α} {F : β → β} {c c' : Conversion α} {g g' : α → Conversion β}

theorem pure {a a' : α} (h : a' = E a) : MovesBy f E (Pure.pure a) (Pure.pure a') :=
  fun _ _ => h ▸ rfl

theorem throw (e : ConversionError) : MovesBy f E (MonadExcept.throw e) (MonadExcept.throw e) :=
  fun _ _ => rfl

theorem bind (hc : MovesBy f E c c') (hg : ∀ a, MovesBy f F (g a) (g' (E a))) :
    MovesBy f F (c >>= g) (c' >>= g') := by
  intro s p
  rw [run_bind, run_bind, hc s p]
  rcases c.run s p with ⟨e | a, q⟩
  · rfl
  · exact hg a s q

/-- What is answered without locations is the same for both conversions. -/
theorem after {c : Conversion α} (hc : Unmoved f c) (hg : ∀ a, MovesBy f F (g a) (g' a)) :
    MovesBy f F (c >>= g) (c >>= g') := bind hc hg

theorem map {k : α → β} (hc : MovesBy f E c c') (hk : ∀ a, k (E a) = F (k a)) :
    MovesBy f F (k <$> c) (k <$> c') := by
  rw [map_eq_pure_bind, map_eq_pure_bind]
  exact hc.bind fun a => .pure (hk a)

theorem tryCatch {handler handler' : ConversionError → Conversion α} (hc : MovesBy f E c c')
    (hhandler : ∀ e, MovesBy f E (handler e) (handler' e)) :
    MovesBy f E (MonadExcept.tryCatch c handler) (MonadExcept.tryCatch c' handler') := by
  intro s p
  rw [run_tryCatch, run_tryCatch, hc s p]
  rcases c.run s p with ⟨e | a, q⟩
  · exact hhandler e s q
  · rfl

theorem inOrder {d d' : Conversion β} (straight : Bool) (hc : MovesBy f E c c')
    (hd : MovesBy f F d d') :
    MovesBy f (Prod.map E F) (Conversion.inOrder straight c d)
      (Conversion.inOrder straight c' d') := by
  cases straight
  · exact hd.bind fun b => hc.bind fun a => .pure rfl
  · exact hc.bind fun a => hd.bind fun b => .pure rfl

end MovesBy

theorem moves_mapM {k : γ → Conversion Node} (hk : ∀ x, Moves f (k x) (k x)) (xs : List γ) :
    Moves f (xs.mapM k) (xs.mapM k) := by
  induction xs with
  | nil => exact .pure rfl
  | cons x xs ih =>
    rw [List.mapM_cons]
    exact .bind (hk x) fun n => .bind ih fun ns => .pure rfl

theorem unmoved_mapM {k : γ → Conversion β} (hk : ∀ x, Unmoved f (k x)) (xs : List γ) :
    Unmoved f (xs.mapM k) := by
  induction xs with
  | nil => exact .pure rfl
  | cons x xs ih =>
    rw [List.mapM_cons]
    exact .after (hk x) fun y => .after ih fun ys => .pure rfl

/-! ## Single constructs -/

theorem unmoved_dialect : Unmoved f dialect := fun _ _ => rfl

theorem moves_read : Moves f read read := fun _ _ => rfl

theorem moves_get : Moves f get get := fun _ _ => rfl

theorem unmoved_note (construct : String) : Unmoved f (note construct) := fun _ _ => rfl

theorem unmoved_noteIf (present : Bool) (construct : String) :
    Unmoved f (noteIf present construct) := by
  cases present
  · exact .pure rfl
  · exact unmoved_note construct

theorem unmoved_ident (i : Sql.Ident) : Unmoved f (ident i) :=
  .after unmoved_dialect fun _ => .pure rfl

theorem unmoved_lastIdent (name : Sql.ObjectName) : Unmoved f (lastIdent name) := by
  refine .after unmoved_dialect fun d => ?_
  split
  · exact .pure rfl
  · exact .throw _

theorem unmoved_tableName (name : Sql.ObjectName) : Unmoved f (tableName name) := by
  refine .after unmoved_dialect fun d => ?_
  split
  · exact .pure rfl
  · exact .pure rfl
  · exact .pure rfl
  · exact .throw _

theorem unmoved_tableRef (name : Sql.ObjectName) (aliasName : Option Sql.Ident) :
    Unmoved f (tableRef name aliasName) :=
  .after (unmoved_tableName name) fun _ => .after unmoved_dialect fun _ => .pure rfl

theorem takePlaceholder_move (text : String) (ps : List Sql.Placeholder) :
    takePlaceholder text (ps.map (move f)) =
      (takePlaceholder text ps).map (Prod.map (move f) (List.map (move f))) := by
  induction ps with
  | nil => rfl
  | cons p ps ih =>
    have htext : (move f p).text = p.text := rfl
    rw [List.map_cons, takePlaceholder, takePlaceholder, htext, ih]
    split
    · rfl
    · cases takePlaceholder text ps <;> rfl

/-- A placeholder is claimed at its moved location, and where none is left at the fallback. -/
theorem moves_claim (text : String) : MovesBy f f (claim text) (claim text) := by
  refine .bind moves_get fun p => ?_
  have htake : takePlaceholder text (move f p).unclaimed =
      (takePlaceholder text p.unclaimed).map (Prod.map (move f) (List.map (move f))) :=
    takePlaceholder_move text p.unclaimed
  rw [htake]
  intro s q
  cases takePlaceholder text p.unclaimed <;> rfl

theorem moves_param (text : String) : Moves f (param text) (param text) := by
  refine .after unmoved_dialect fun d => .bind moves_get fun p => ?_
  have hseen : (move f p).seen = p.seen := rfl
  rw [hseen]
  cases paramNumber? d text (p.seen + 1) with
  | none => exact .throw _
  | some number =>
    -- the count of the placeholders is no location
    refine .after (fun _ _ => rfl) fun _ => ?_
    exact .bind (moves_claim text) fun offset => .pure rfl

theorem moves_params (texts : List String) : Moves f (params texts) (params texts) := by
  induction texts with
  | nil => exact .pure rfl
  | cons text texts ih =>
    have hattempt : Moves f (tryCatch (some <$> param text) fun _ => return none)
        (tryCatch (some <$> param text) fun _ => return none) :=
      .tryCatch (.map (moves_param text) fun _ => rfl) fun _ => .pure rfl
    refine .bind hattempt fun n => .bind ih fun ns => .pure ?_
    rw [move_append, move_toList]

theorem moves_paramsIn (text : String) : Moves f (paramsIn text) (paramsIn text) :=
  .after unmoved_dialect fun _ => moves_params _

theorem moves_skip (construct text : String) :
    Moves f (skip construct text) (skip construct text) :=
  .after (unmoved_note construct) fun _ => .bind (moves_paramsIn text) fun _ => .pure rfl

theorem moves_tested {c : Conversion Select} (h : Moves f c c) :
    Moves f (tested c) (tested c) :=
  .tryCatch (.bind h fun _ => .pure rfl) fun _ =>
    .after (unmoved_note "subquery") fun _ => .pure rfl

theorem moves_target (name : Option String) (n : Node) :
    Moves f (target name n) (target name (move f n)) := .bind moves_read fun _ => .pure rfl

theorem moves_literal (value : Sql.Literal) : Moves f (literal value) (literal value) := by
  match value with
  | .placeholder text => exact moves_param text
  | .number .. | .boolean _ | .null
  | .string .single _ | .string .double _ | .string .escaped _ | .string .national _ =>
    exact .pure rfl
  | .string .unicode _ | .string .hex _ | .string .byteSingle _ | .string .byteDouble _
  | .string (.dollar _) _ => exact moves_skip _ _

/-- The names in a reference have no locations. -/
theorem move_names (d : Dialect) (parts : List Sql.Ident) :
    move f (parts.map fun i => Node.name (fold d i)) = parts.map fun i => Node.name (fold d i) := by
  show relocateAll f _ = _
  rw [relocateAll_eq_map, List.map_map]
  rfl

theorem moves_columnRef (parts : List Sql.Ident) :
    Moves f (columnRef parts) (columnRef parts) :=
  .after unmoved_dialect fun d => .pure (congrArg Node.column (move_names d parts).symm)

theorem moves_starRef (parts : List Sql.Ident) : Moves f (starRef parts) (starRef parts) := by
  refine .after unmoved_dialect fun d => .pure (congrArg Node.column ?_)
  show _ = move f (_ ++ [Node.star])
  rw [move_append, move_names]
  rfl

theorem move_binary (op : Sql.BinaryOp) (left right : Node) :
    move f (binary op left right) = binary op (move f left) (move f right) := by
  cases op <;> rfl

theorem move_unary (op : Sql.UnaryOp) (arg : Node) :
    move f (unary op arg) = unary op (move f arg) := by
  cases op with
  | minus =>
    cases arg with
    | literal value => cases value <;> rfl
    | _ => rfl
  | _ => rfl

theorem move_map_markNullable (ns : List Node) :
    move f (ns.map markNullable) = (move f ns).map markNullable := by
  have hnode (n : Node) : (markNullable n).relocate f = markNullable (n.relocate f) := by
    cases n <;> rfl
  show relocateAll f _ = (relocateAll f _).map _
  rw [relocateAll_eq_map, relocateAll_eq_map, List.map_map, List.map_map]
  exact List.map_congr_left fun n _ => hnode n

theorem move_markJoin (kind : Sql.JoinKind) (n : Nat) (items : List Node) :
    move f (markJoin kind n items) = markJoin kind n (move f items) := by
  have hmove : (move f : List Node → List Node) = List.map (Node.relocate f) :=
    funext relocateAll_eq_map
  have htake : (move f items).take n = move f (items.take n) := by
    rw [hmove, List.map_take]
  have hdrop : (move f items).drop n = move f (items.drop n) := by
    rw [hmove, List.map_drop]
  simp only [markJoin, htake, hdrop, move_append, ← move_map_markNullable]
  split <;> split <;> rfl

/-! ## Expressions and queries -/

theorem move_parts_select (parts : QueryParts) : (move f parts).select = move f parts.select := by
  have hnodes (ns : List Node) : (move f ns).isEmpty = ns.isEmpty := isEmpty_relocateAll ns
  have hnamed (qs : List NamedQuery) : (move f qs).isEmpty = qs.isEmpty := by
    cases qs with
    | nil => rfl
    | cons q qs => cases q; rfl
  obtain ⟨ctes, body, keys, offset, limit, quantity⟩ := parts
  -- a clause around the body replaces that of the body only if it is there, and moving keeps what
  -- is there
  cases body with
  | mk ctes' targets source joinConditions condition distinctOn groupBy having windows orderBy
      limit' offset' rows operation all left right =>
    have hctes : move f (if ctes.isEmpty then ctes' else ctes) =
        if (move f ctes).isEmpty then move f ctes' else move f ctes := by
      rw [hnamed, apply_ite (move f)]
    have hkeys : move f (if keys.isEmpty then orderBy else keys) =
        if (move f keys).isEmpty then move f orderBy else move f keys := by
      rw [hnodes, apply_ite (move f)]
    have hlimit : move f (quantity.or (limit.or limit')) =
        (move f quantity).or ((move f limit).or (move f limit')) := by
      rw [move_or, move_or]
    have hoffset : move f (offset.or offset') = (move f offset).or (move f offset') :=
      move_or _ _
    show _ = Select.mk (move f _) _ _ _ _ _ _ _ _ (move f (if keys.isEmpty then orderBy else keys))
      (move f (quantity.or _)) (move f (offset.or offset')) _ _ _ _ _
    rw [hctes, hkeys, hlimit, hoffset]
    rfl

theorem moves_query_of (q : Sql.Query) (hctes : Moves f (namedQueries q.ctes) (namedQueries q.ctes))
    (hbody : Moves f (setExpr q.body) (setExpr q.body))
    (horderBy : Moves f (orderKeys q.orderBy) (orderKeys q.orderBy))
    (hlimit : Moves f (exprOption q.limit) (exprOption q.limit))
    (hoffset : Moves f (exprOption q.offset) (exprOption q.offset))
    (hquantity : Moves f (exprOption q.fetchQuantity) (exprOption q.fetchQuantity)) :
    Moves f (query q) (query q) := by
  have hparts : Moves f (queryParts q) (queryParts q) :=
    .bind hctes fun ctes => .bind hbody fun body => .bind horderBy fun keys =>
      .bind moves_read fun setting => .bind (.inOrder setting.limitComma hoffset hlimit)
        fun operands => .bind hquantity fun quantity => .pure rfl
  rw [query_eq]
  exact .bind hparts fun parts => .pure (move_parts_select parts)

theorem moves_select_of (s : Sql.Select)
    (hdistinctOn : Moves f (exprs s.distinctOn) (exprs s.distinctOn))
    (hprojection : Moves f (selectItems s.projection) (selectItems s.projection))
    (hsource : Moves f (tables ⟨[], []⟩ s.source) (tables ⟨[], []⟩ s.source))
    (hcondition : Moves f (exprOption s.condition) (exprOption s.condition))
    (hgroupBy : Moves f (exprs s.groupBy) (exprs s.groupBy))
    (hhaving : Moves f (exprOption s.having) (exprOption s.having))
    (hwindows : Moves f (windows s.windows) (windows s.windows)) :
    Moves f (select s) (select s) := by
  obtain ⟨distinct, distinctOn, top, projection, into, source, lateralViews, condition, groupAll,
    groupBy, clustering, having, ws, windowFirst, qualify⟩ := s
  dsimp only at *
  -- each part moves on its own; the skipped texts are put behind the conditions of the joins
  rw [select]
  refine .bind (moves_mapM (moves_skip "TOP") _) fun top => ?_
  refine .bind hdistinctOn fun distinctOn => .bind hprojection fun targets => ?_
  refine .bind hsource fun source => ?_
  refine .bind (moves_mapM (moves_skip "LATERAL VIEW") _) fun views => ?_
  refine .bind hcondition fun condition => .after (unmoved_noteIf _ _) fun _ => ?_
  refine .bind hgroupBy fun groupBy => .bind hhaving fun having => ?_
  refine .bind (.inOrder _ hwindows (moves_mapM (moves_skip "QUALIFY") _)) fun last => .pure ?_
  have hconditions : move f source.conditions ++ move f top ++ move f views ++ move f last.2 =
      move f (source.conditions ++ top ++ views ++ last.2) := by
    simp only [move_append]
  exact congrArg (fun conditions => ({ Select.empty with
    targets := move f targets
    source := move f source.items
    joinConditions := conditions
    condition := move f condition
    distinctOn := move f distinctOn
    groupBy := move f groupBy
    having := move f having
    windows := move f last.1 } : Select)) hconditions

theorem moves_joins_of (acc : Sources) (j : Sql.Join) {js : List Sql.Join}
    (hfactor : Moves f (factor acc j.relation) (factor (move f acc) j.relation))
    (hon : Moves f (exprOption j.on) (exprOption j.on))
    (hjoins : ∀ acc : Sources, Moves f (joins acc js) (joins (move f acc) js)) :
    Moves f (joins acc (j :: js)) (joins (move f acc) (j :: js)) := by
  obtain ⟨everywhere, kind, relation, shared, on⟩ := j
  dsimp only at *
  rw [joins, joins]
  refine .bind hfactor fun added => ?_
  -- as many tables stand on the left of the join
  have hlength : (move f acc).items.length = acc.items.length := length_relocateAll acc.items
  rw [hlength]
  have hmarked : ({ move f added with
      items := markJoin kind acc.items.length (move f added).items } : Sources) =
        move f { added with items := markJoin kind acc.items.length added.items } :=
    congrArg (Sources.mk · (move f added.conditions)) (move_markJoin kind _ added.items).symm
  rw [hmarked]
  split
  · exact .after (unmoved_note _) fun _ => .bind (.pure rfl) hjoins
  · refine .bind hon fun condition => .after (unmoved_noteIf _ _) fun _ => .bind (.pure ?_) hjoins
    rw [← move_toList]
    exact congrArg (Sources.mk _) (move_append _ _).symm

mutual

theorem moves_expr (e : Sql.Expr) : Moves f (expr e) (expr e) := by
  match e with
  | .column first rest => exact moves_columnRef (first :: rest)
  -- a literal has no location, unless it is a placeholder
  | .literal value => exact moves_literal value
  | .nested inner => exact moves_expr inner
  | .binary left op right =>
    exact .bind (moves_expr left) fun l => .bind (moves_expr right) fun r =>
      .pure (move_binary op l r).symm
  | .unary op operand =>
    exact .bind (moves_expr operand) fun n => .pure (move_unary op n).symm
  | .isNull operand negated => exact .bind (moves_expr operand) fun _ => .pure rfl
  | .inList operand items negated =>
    exact .bind (moves_expr operand) fun _ => .bind (moves_exprs items) fun _ => .pure rfl
  | .between operand low high negated =>
    exact .bind (moves_expr operand) fun _ => .bind (moves_expr low) fun _ =>
      .bind (moves_expr high) fun _ => .pure rfl
  | .like op any operand pattern escape negated =>
    exact .bind (moves_expr operand) fun _ => .bind (moves_expr pattern) fun _ => .pure rfl
  | .inQuery operand q negated =>
    exact .bind (moves_expr operand) fun _ => .bind (moves_tested (moves_query q)) fun _ =>
      .pure rfl
  | .exists q negated => exact .bind (moves_tested (moves_query q)) fun _ => .pure rfl
  | .subquery q => exact .bind (moves_query q) fun _ => .pure rfl
  | .cast form operand type =>
    exact .bind (moves_expr operand) fun _ => .after unmoved_dialect fun _ => .pure rfl
  | .case operand bs default =>
    exact .bind (moves_exprOption operand) fun _ => .bind (moves_branches bs) fun _ =>
      .bind (moves_exprOption default) fun _ => .pure rfl
  -- the keys behind a call are put behind its arguments
  | .call name args withinGroup filter nulls w braced =>
    refine .bind (moves_arguments args) fun parts => .bind (moves_orderKeys withinGroup) fun keys =>
      .bind (moves_exprOption filter) fun filter => .bind (moves_windowOption w) fun w => .pure ?_
    exact congrArg (fun keys => Node.call ⟨functionName name, move f parts.args, keys,
      move f filter, move f w, parts.star, parts.distinct⟩) (move_append _ _).symm
  | .keywordCall name words args => exact .bind (moves_exprs args) fun _ => .pure rfl
  | .unmapped kind text => exact moves_skip kind text

theorem moves_exprs (es : List Sql.Expr) : Moves f (exprs es) (exprs es) := by
  match es with
  | [] => exact .pure rfl
  | e :: es => exact .bind (moves_expr e) fun _ => .bind (moves_exprs es) fun _ => .pure rfl

theorem moves_exprOption (e : Option Sql.Expr) : Moves f (exprOption e) (exprOption e) := by
  match e with
  | none => exact .pure rfl
  | some e => exact .bind (moves_expr e) fun _ => .pure rfl

theorem moves_branches (bs : List Sql.Branch) : Moves f (branches bs) (branches bs) := by
  match bs with
  | [] => exact .pure rfl
  | ⟨condition, result⟩ :: bs =>
    exact .bind (moves_expr condition) fun _ => .bind (moves_expr result) fun _ =>
      .bind (moves_branches bs) fun _ => .pure rfl

theorem moves_arguments (args : Sql.Arguments) : Moves f (arguments args) (arguments args) := by
  match args with
  | .none => exact .pure rfl
  | .query q => exact .bind (moves_query q) fun _ => .pure rfl
  | .list treatment items clauses =>
    exact .bind (moves_argumentItems items) fun _ => .bind (moves_argumentClauses clauses) fun _ =>
      .pure rfl

theorem moves_argumentItems (as : List Sql.Argument) :
    Moves f (argumentItems as) (argumentItems as) := by
  match as with
  | [] => exact .pure rfl
  | .value label value :: as =>
    exact .bind (moves_expr value) fun _ => .bind (moves_argumentItems as) fun _ => .pure rfl
  | .star text :: as => exact .bind (moves_argumentItems as) fun _ => .pure rfl
  | .labelled text :: as =>
    exact .bind (moves_skip _ text) fun _ => .bind (moves_argumentItems as) fun _ => .pure rfl

theorem moves_argumentClauses (cs : List Sql.ArgumentClause) :
    Moves f (argumentClauses cs) (argumentClauses cs) := by
  match cs with
  | [] => exact .pure rfl
  | .orderBy items :: cs =>
    exact .bind (moves_orderKeys items) fun _ => .bind (moves_argumentClauses cs) fun _ =>
      .pure (move_append _ _).symm
  | .silent text :: cs => exact moves_argumentClauses cs
  | .unmapped kind text :: cs =>
    exact .bind (moves_skip kind text) fun _ => .bind (moves_argumentClauses cs) fun _ => .pure rfl

theorem moves_orderKeys (os : List Sql.OrderItem) : Moves f (orderKeys os) (orderKeys os) := by
  match os with
  | [] => exact .pure rfl
  | ⟨key, direction⟩ :: os =>
    exact .bind (moves_expr key) fun _ => .bind (moves_orderKeys os) fun _ => .pure rfl

theorem moves_window (w : Sql.WindowSpec) : Moves f (window w) (window w) := by
  match w with
  | ⟨name, _, reference, partitionBy, orderBy, _, startOffset, stopOffset⟩ =>
    exact .bind (moves_exprs partitionBy) fun _ => .bind (moves_orderKeys orderBy) fun _ =>
      .bind (moves_exprOption startOffset) fun _ => .bind (moves_exprOption stopOffset) fun _ =>
      .after unmoved_dialect fun _ => .pure rfl

theorem moves_windowOption (w : Option Sql.WindowSpec) :
    Moves f (windowOption w) (windowOption w) := by
  match w with
  | none => exact .pure rfl
  | some w => exact .bind (moves_window w) fun _ => .pure rfl

theorem moves_windows (ws : List Sql.WindowSpec) : Moves f (windows ws) (windows ws) := by
  match ws with
  | [] => exact .pure rfl
  | w :: ws => exact .bind (moves_window w) fun _ => .bind (moves_windows ws) fun _ => .pure rfl

theorem moves_query (q : Sql.Query) : Moves f (query q) (query q) := by
  match q with
  | ⟨_, ctes, body, orderBy, limit, offset, _, _, quantity, _⟩ =>
    exact moves_query_of _ (moves_namedQueries ctes) (moves_setExpr body) (moves_orderKeys orderBy)
      (moves_exprOption limit) (moves_exprOption offset) (moves_exprOption quantity)

theorem moves_namedQueries (cs : List Sql.Cte) : Moves f (namedQueries cs) (namedQueries cs) := by
  match cs with
  | [] => exact .pure rfl
  | ⟨tableAlias, materialized, q, source⟩ :: cs =>
    exact .after (unmoved_ident _) fun _ => .bind (moves_query q) fun _ =>
      .bind (moves_namedQueries cs) fun _ => .pure rfl

theorem moves_setExpr (b : Sql.SetExpr) : Moves f (setExpr b) (setExpr b) := by
  match b with
  | .select s => exact moves_select s
  | .query q => exact moves_query q
  | .operation op quantifier left right =>
    exact .bind (moves_setExpr left) fun _ => .bind (moves_setExpr right) fun _ => .pure rfl
  | .values explicit items => exact .bind (moves_rows items) fun _ => .pure rfl
  | .unmapped kind text =>
    exact .bind (moves_skip kind text) fun n => .bind (moves_target none n) fun _ => .pure rfl

theorem moves_rows (items : List (List Sql.Expr)) : Moves f (rows items) (rows items) := by
  match items with
  | [] => exact .pure rfl
  | row :: rest => exact .bind (moves_exprs row) fun _ => .bind (moves_rows rest) fun _ => .pure rfl

theorem moves_select (s : Sql.Select) : Moves f (select s) (select s) := by
  match s with
  | ⟨_, distinctOn, _, projection, _, source, _, condition, _, groupBy, _, having, ws, _, _⟩ =>
    exact moves_select_of _ (moves_exprs distinctOn) (moves_selectItems projection)
      (moves_tables ⟨[], []⟩ source) (moves_exprOption condition) (moves_exprs groupBy)
      (moves_exprOption having) (moves_windows ws)

theorem moves_selectItems (is : List Sql.SelectItem) :
    Moves f (selectItems is) (selectItems is) := by
  match is with
  | [] => exact .pure rfl
  | .value value :: is =>
    exact .bind (moves_expr value) fun n => .bind (moves_target none n) fun _ =>
      .bind (moves_selectItems is) fun _ => .pure rfl
  | .aliased value aliasName :: is =>
    exact .bind (moves_expr value) fun n => .after (unmoved_ident aliasName) fun name =>
      .bind (moves_target (some name) n) fun _ => .bind (moves_selectItems is) fun _ => .pure rfl
  | .star :: is =>
    exact .bind (moves_starRef []) fun n => .bind (moves_target none n) fun _ =>
      .bind (moves_selectItems is) fun _ => .pure rfl
  | .qualifiedStar name :: is =>
    exact .bind (moves_starRef name) fun n => .bind (moves_target none n) fun _ =>
      .bind (moves_selectItems is) fun _ => .pure rfl

theorem moves_tables (acc : Sources) (ts : List Sql.TableWithJoins) :
    Moves f (tables acc ts) (tables (move f acc) ts) := by
  match ts with
  | [] => exact .pure rfl
  | t :: ts => exact .bind (moves_table acc t) fun acc => moves_tables acc ts

theorem moves_table (acc : Sources) (t : Sql.TableWithJoins) :
    Moves f (table acc t) (table (move f acc) t) := by
  match t with
  | ⟨relation, js⟩ => exact .bind (moves_factor acc relation) fun acc => moves_joins acc js

theorem moves_joins (acc : Sources) (js : List Sql.Join) :
    Moves f (joins acc js) (joins (move f acc) js) := by
  match js with
  | [] => exact .pure rfl
  | ⟨everywhere, kind, relation, shared, on⟩ :: js =>
    exact moves_joins_of acc _ (moves_factor acc relation) (moves_exprOption on)
      fun acc => moves_joins acc js

theorem moves_factor (acc : Sources) (t : Sql.TableFactor) :
    Moves f (factor acc t) (factor (move f acc) t) := by
  match t with
  | .table name before tableAlias after =>
    exact .after (unmoved_tableRef name _) fun ref =>
      .pure (congrArg (Sources.mk · (move f acc.conditions)) (move_append _ [Node.table ref]).symm)
  | .derived lateral q tableAlias =>
    exact .bind (moves_query q) fun s => .after unmoved_dialect fun d =>
      .pure (congrArg (Sources.mk · (move f acc.conditions)) (move_append _ [Node.derived
        (.select s) (tableAlias.map fun a => fold d a.name) false]).symm)
  | .nestedJoin inner tableAlias => exact moves_table acc inner
  | .unmapped kind text =>
    exact .after (unmoved_note kind) fun _ => .bind (moves_paramsIn text) fun ns =>
      .pure (congrArg (Sources.mk (move f acc.items)) (move_append acc.conditions ns).symm)

end

/-! ## Statements -/

theorem moves_assignments (as : List Sql.Assignment) :
    Moves f (assignments as) (assignments as) := by
  induction as with
  | nil => exact .pure rfl
  | cons a as ih =>
    cases a with
    | column name value =>
      exact .after (unmoved_lastIdent name) fun name => .bind (moves_expr value) fun n =>
        .bind (moves_target (some name) n) fun _ => .bind ih fun _ => .pure rfl
    | tuple text =>
      exact .bind (moves_skip _ text) fun n => .bind (moves_target none n) fun _ =>
        .bind ih fun _ => .pure rfl

theorem moves_onInsert (on : Option Sql.OnInsert) : Moves f (onInsert on) (onInsert on) := by
  match on with
  | some (.duplicateKeyUpdate as) => exact .bind (moves_assignments as) fun _ => .pure rfl
  | some (.conflictUpdate _ as condition) =>
    exact .bind (moves_assignments as) fun _ => .bind (moves_exprOption condition) fun _ =>
      .pure rfl
  | some (.conflictNothing _) | none => exact .pure rfl

theorem moves_insertSource (source : Option Sql.Query) :
    Moves f (insertSource source) (insertSource source) := by
  cases source with
  | none => exact .pure rfl
  | some q => exact moves_query q

theorem moves_insert (i : Sql.Insert) : Moves f (insert i) (insert i) := by
  refine .after (.tryCatch (unmoved_tableRef i.table i.aliasName) fun _ => .throw _) fun ref => ?_
  refine .after unmoved_dialect fun d => .bind moves_read fun setting => ?_
  refine .bind (moves_insertSource i.source) fun source => .bind (moves_onInsert i.onInsert)
    fun conflict => .bind (moves_selectItems i.returning) fun returning => .pure ?_
  -- the columns stand at the fallback
  have hcolumns :
      (i.columns.map fun c => Node.target (some (fold d c)) none (f setting.fallback)) =
        relocateAll f
          (i.columns.map fun c => Node.target (some (fold d c)) none setting.fallback) := by
    rw [relocateAll_eq_map, List.map_map]
    rfl
  exact congrArg (fun columns => Node.insert ⟨ref, columns, move f source, move f conflict.1,
    move f conflict.2, move f returning⟩) hcolumns

theorem moves_tableOption (acc : Sources) (t : Option Sql.TableWithJoins) :
    Moves f (tableOption acc t) (tableOption (move f acc) t) := by
  cases t with
  | none => exact .pure rfl
  | some t => exact moves_table acc t

theorem moves_update (u : Sql.Update) : Moves f (update u) (update u) := by
  refine .bind (moves_table ⟨[], []⟩ u.table) fun source => ?_
  refine .bind (moves_assignments u.assignments) fun targets => ?_
  refine .bind (moves_tableOption source u.source) fun source => ?_
  refine .bind (moves_exprOption u.condition) fun condition => ?_
  refine .bind (moves_selectItems u.returning) fun returning => ?_
  -- a moved table is a table, and no other node becomes one
  obtain ⟨items, conditions⟩ := source
  cases items with
  | nil => exact .throw _
  | cons n ns =>
    cases n with
    | table ref => exact .pure rfl
    | _ => exact .throw _

theorem moves_delete (s : Sql.Delete) : Moves f (delete s) (delete s) := by
  refine .after (unmoved_noteIf _ _) fun _ => ?_
  refine .bind (moves_tables ⟨[], []⟩ s.source) fun source => ?_
  refine .bind (moves_tables source s.others) fun source => ?_
  obtain ⟨items, conditions⟩ := source
  -- only a table can be deleted from, and this does not depend on the locations
  cases items with
  | nil => exact .throw _
  | cons n ns =>
    cases n with
    | table ref =>
      exact .bind (moves_exprOption s.condition) fun _ => .bind (moves_orderKeys s.orderBy) fun _ =>
        .bind (moves_exprOption s.limit) fun _ => .bind (moves_selectItems s.returning) fun _ =>
        .pure rfl
    | _ => exact .throw _

theorem moves_createTable (create : Sql.CreateTable) :
    Moves f (createTable create) (createTable create) := by
  rw [createTable]
  split
  · exact .pure rfl
  · split
    · exact .pure rfl
    · exact .after (unmoved_tableName _) fun _ => .after unmoved_dialect fun _ => .pure rfl

theorem unmoved_alterCommands (change : Sql.TableChange) : Unmoved f (alterCommands change) := by
  refine .after unmoved_dialect fun d => ?_
  cases change with
  | renameTable name => exact .after (unmoved_tableName name) fun _ => .pure rfl
  | _ => exact .pure rfl

theorem moves_statement (t : Sql.Statement) : Moves f (statement t) (statement t) := by
  match t with
  | .query q => exact .bind (moves_query q) fun _ => .pure rfl
  | .insert i => exact moves_insert i
  | .update u => exact moves_update u
  | .delete s => exact moves_delete s
  | .createTable create => exact moves_createTable create
  | .alterTable alter =>
    exact .after (unmoved_tableName _) fun _ =>
      .after (unmoved_mapM (fun action => unmoved_alterCommands _) _) fun _ => .pure rfl
  | .dropTables names ifExists _ =>
    exact .after (unmoved_mapM unmoved_tableName names) fun _ => .pure rfl
  | .createSchema name ifNotExists _ => exact .after (unmoved_lastIdent name) fun _ => .pure rfl
  | .unmapped kind text => exact .bind (moves_paramsIn text) fun _ => .pure rfl

end Conversion

/-- The form of a statement without what tells its place: the tree with all locations at zero, and
the constructs that have no canonical form. -/
def Converted.form (c : Converted) : Node × List String :=
  (c.node.relocate fun _ => 0, c.unsupported)

/-- Statements that differ in their places only are converted to the same form, or to none for the
same reason. -/
theorem map_form_convert_congr (d : Dialect) {s s' : Sql.ScriptStatement} (htree : s.tree = s'.tree)
    (hlimit : s.limitComma = s'.limitComma)
    (hplaceholders : s.placeholders.map Sql.Placeholder.text =
      s'.placeholders.map Sql.Placeholder.text) :
    (convert d s).map Converted.form = (convert d s').map Converted.form := by
  -- the form is what comes of the statement with all locations at zero
  have hform (s : Sql.ScriptStatement) : (convert d s).map Converted.form =
      ((Conversion.statement s.tree).run ⟨d, 0, s.limitComma⟩
        (.start (s.placeholders.map (move fun _ => 0)))).1.map fun n =>
          (n, ((Conversion.statement s.tree).run ⟨d, 0, s.limitComma⟩
            (.start (s.placeholders.map (move fun _ => 0)))).2.unsupported) := by
    have hmoved := Conversion.moves_statement (f := fun _ => 0) s.tree ⟨d, s.start, s.limitComma⟩
      (.start s.placeholders)
    have hzero : (Conversion.statement s.tree).run ⟨d, 0, s.limitComma⟩
        (.start (s.placeholders.map (move fun _ => 0))) = _ := hmoved
    rw [hzero, convert]
    rcases (Conversion.statement s.tree).run ⟨d, s.start, s.limitComma⟩ (.start s.placeholders) with
      ⟨e | n, p⟩ <;> rfl
  have htexts (ps : List Sql.Placeholder) : ps.map (move fun _ => 0) =
      (ps.map Sql.Placeholder.text).map fun text => ⟨text, 0⟩ := by
    rw [List.map_map]
    rfl
  rw [hform, hform, htexts, htexts, htree, hlimit, hplaceholders]

/-! ## Analyses -/

mutual

theorem Node.walk_relocate (n : Node) : (n.relocate f).walk = n.walk.map (Node.relocate f) := by
  match n with
  | .insert i => simp [Node.relocate, i.walk_relocate]
  | .select s => simp [Node.relocate, s.walk_relocate]
  | .update u => simp [Node.relocate, u.walk_relocate]
  | .delete d => simp [Node.relocate, d.walk_relocate]
  | .logic _ args => simp [Node.relocate, walkAll_relocateAll args]
  | .operator _ left right =>
    simp [Node.relocate, walkOption_relocateOption left, walkOption_relocateOption right]
  | .column fields => simp [Node.relocate, walkAll_relocateAll fields]
  | .sublink _ test query _ =>
    simp [Node.relocate, walkOption_relocateOption test, walkOption_relocateOption query]
  | .call c => simp [Node.relocate, c.walk_relocate]
  | .cast arg _ => simp [Node.relocate, arg.walk_relocate]
  | .nullTest arg _ => simp [Node.relocate, arg.walk_relocate]
  | .case operand branches default =>
    simp [Node.relocate, walkOption_relocateOption operand, walkBranches_relocateBranches branches,
      walkOption_relocateOption default]
  | .target _ value _ => simp [Node.relocate, walkOption_relocateOption value]
  | .derived query _ _ => simp [Node.relocate, query.walk_relocate]
  | .list items => simp [Node.relocate, walkAll_relocateAll items]
  | .unsupported _ params => simp [Node.relocate, walkAll_relocateAll params]
  | .schemaChange _ | .param .. | .literal _ | .table _ | .name _ | .star => rfl

theorem walkAll_relocateAll (ns : List Node) :
    walkAll (relocateAll f ns) = (walkAll ns).map (Node.relocate f) := by
  match ns with
  | [] => rfl
  | n :: ns => simp [relocateAll, n.walk_relocate, walkAll_relocateAll ns]

theorem walkOption_relocateOption (n : Option Node) :
    walkOption (relocateOption f n) = (walkOption n).map (Node.relocate f) := by
  match n with
  | none => rfl
  | some n => exact n.walk_relocate

theorem Select.walk_relocate (s : Select) : (s.relocate f).walk = s.walk.map (Node.relocate f) := by
  match s with
  | ⟨ctes, targets, source, joinConditions, condition, distinctOn, groupBy, having, windows,
      orderBy, limit, offset, rows, _, _, left, right⟩ =>
    simp [Select.relocate, walkNamed_relocateNamed ctes, walkSide_relocateSide left,
      walkSide_relocateSide right, walkAll_relocateAll distinctOn, walkAll_relocateAll targets,
      walkAll_relocateAll source, walkAll_relocateAll joinConditions,
      walkOption_relocateOption condition, walkAll_relocateAll groupBy,
      walkOption_relocateOption having, walkWindows_relocateWindows windows,
      walkAll_relocateAll rows, walkAll_relocateAll orderBy, walkOption_relocateOption limit,
      walkOption_relocateOption offset]

theorem walkSide_relocateSide (s : Option Select) :
    walkSide (relocateSide f s) = (walkSide s).map (Node.relocate f) := by
  match s with
  | none => rfl
  | some s => exact s.walk_relocate

theorem walkNamed_relocateNamed (qs : List NamedQuery) :
    walkNamed (relocateNamed f qs) = (walkNamed qs).map (Node.relocate f) := by
  match qs with
  | [] => rfl
  | ⟨_, query⟩ :: qs => simp [relocateNamed, query.walk_relocate, walkNamed_relocateNamed qs]

theorem Insert.walk_relocate (i : Insert) : (i.relocate f).walk = i.walk.map (Node.relocate f) := by
  match i with
  | ⟨_, columns, source, conflictTargets, conflictCondition, returning⟩ =>
    simp [Insert.relocate, walkAll_relocateAll columns, source.walk_relocate,
      walkAll_relocateAll conflictTargets, walkOption_relocateOption conflictCondition,
      walkAll_relocateAll returning]

theorem Update.walk_relocate (u : Update) : (u.relocate f).walk = u.walk.map (Node.relocate f) := by
  match u with
  | ⟨_, targets, source, joinConditions, condition, returning⟩ =>
    simp [Update.relocate, walkAll_relocateAll targets, walkAll_relocateAll source,
      walkAll_relocateAll joinConditions, walkOption_relocateOption condition,
      walkAll_relocateAll returning]

theorem Delete.walk_relocate (d : Delete) : (d.relocate f).walk = d.walk.map (Node.relocate f) := by
  match d with
  | ⟨_, source, joinConditions, condition, orderBy, limit, returning⟩ =>
    simp [Delete.relocate, walkAll_relocateAll source, walkAll_relocateAll joinConditions,
      walkOption_relocateOption condition, walkAll_relocateAll orderBy,
      walkOption_relocateOption limit, walkAll_relocateAll returning]

theorem Call.walk_relocate (c : Call) : (c.relocate f).walk = c.walk.map (Node.relocate f) := by
  match c with
  | ⟨_, args, orderBy, filter, window, _, _⟩ =>
    simp [Call.relocate, walkAll_relocateAll args, walkAll_relocateAll orderBy,
      walkOption_relocateOption filter, walkOver_relocateOver window]

theorem walkOver_relocateOver (w : Option Window) :
    walkOver (relocateOver f w) = (walkOver w).map (Node.relocate f) := by
  match w with
  | none => rfl
  | some w => exact w.walk_relocate

theorem Window.walk_relocate (w : Window) : (w.relocate f).walk = w.walk.map (Node.relocate f) := by
  match w with
  | ⟨_, _, partitionBy, orderBy, startOffset, endOffset⟩ =>
    simp [Window.relocate, walkAll_relocateAll partitionBy, walkAll_relocateAll orderBy,
      walkOption_relocateOption startOffset, walkOption_relocateOption endOffset]

theorem walkWindows_relocateWindows (ws : List Window) :
    walkWindows (relocateWindows f ws) = (walkWindows ws).map (Node.relocate f) := by
  match ws with
  | [] => rfl
  | w :: ws => simp [relocateWindows, w.walk_relocate, walkWindows_relocateWindows ws]

theorem walkBranches_relocateBranches (bs : List Branch) :
    walkBranches (relocateBranches f bs) = (walkBranches bs).map (Node.relocate f) := by
  match bs with
  | [] => rfl
  | ⟨condition, result⟩ :: bs =>
    simp [relocateBranches, condition.walk_relocate, result.walk_relocate,
      walkBranches_relocateBranches bs]

end

/-- The placeholders of a moved tree have the same numbers. -/
theorem Node.numbers_relocate (n : Node) : (n.relocate f).numbers = n.numbers := by
  have hnode (m : Node) : ((m.relocate f).paramRef?).map ParamRef.number =
      m.paramRef?.map ParamRef.number := by
    cases m <;> rfl
  show ((n.relocate f).walk.filterMap Node.paramRef?).map ParamRef.number =
    (n.walk.filterMap Node.paramRef?).map ParamRef.number
  rw [n.walk_relocate, List.filterMap_map, List.map_filterMap, List.map_filterMap]
  exact List.filterMap_congr fun m _ => hnode m

@[simp] theorem Node.isSchemaChange_relocate (n : Node) :
    (n.relocate f).isSchemaChange = n.isSchemaChange := by
  cases n <;> rfl

end TypedSql.Canonical

namespace TypedSql

open Canonical

/-- Locations are of no account to an analysis. -/
theorem analyze_relocate (c : Catalog) (n : Node) (f : Nat → Nat) :
    analyze c (n.relocate f) = analyze c n := by
  have hgreatest : greatestParam (n.relocate f) = greatestParam n :=
    congrArg (List.foldl max 0) n.numbers_relocate
  rw [analyze, analyze, analyzeStatement_relocate, hgreatest]

end TypedSql
