import Mathlib.Data.List.Basic
import TypedSql.Proofs.Analysis.Run
import TypedSql.Proofs.Conversion.Parts

/-!
# Failures of analyses

How the analysis of a converted statement can fail. The checks for misplaced nodes never do; what is
left are names that mean nothing or too much, and numbers of columns and values that differ.

- **Errors**: those that a tree of the right shape can come to
- **Names**: lookups in catalogs and scopes
- **Expressions and queries**: by induction on the tree
- **Statements**: the errors of a converted statement
-/

namespace TypedSql

open Canonical

/-! ## Errors -/

/-- The items of a row of the VALUES that a query is, or that one of its sides is. -/
inductive Canonical.Select.HasRow : Select → List Node → Prop where
  | row {q : Select} {items : List Node} (h : .list items ∈ q.rows) : HasRow q items
  | left {q side : Select} {items : List Node} (hside : q.left = some side)
      (h : HasRow side items) : HasRow q items
  | right {q side : Select} {items : List Node} (hside : q.right = some side)
      (h : HasRow side items) : HasRow q items

/-- The numbers of columns that the two sides of a set operation in a node come to, one after the
other where the operation stands, if they differ. -/
inductive SidesDiffer (c : Catalog) (n : Node) : Nat → Nat → Prop where
  | mk {q : Select} {s : Scope} {hints : List Hint} {bs bs' bs'' : Bindings}
      {left right : List ResultColumn} (hin : n.Contains (.select q))
      (hoperation : q.operation ≠ .none)
      (hleft : (analyzeSide c s hints q.left).run bs = .ok (left, bs'))
      (hright : (analyzeSide c s hints q.right).run bs' = .ok (right, bs''))
      (h : left.length ≠ right.length) : SidesDiffer c n left.length right.length

/-- The errors that the parts of a tree of the right shape can come to, where `counts` are the
numbers of columns and values that may differ. -/
def Allowed (c : Catalog) (root : Node) (counts : Nat → Nat → Prop) : AnalysisError → Prop
  | .malformed (.columnCounts left right) => SidesDiffer c root left right
  | .malformed (.valueCount columns values) => counts columns values
  | .malformed _ | .unsupported _ => False
  | .unknownSchema _ | .unknownTable _ | .unknownRelation _ | .unknownColumn ..
  | .ambiguousColumn .. => True

/-- The numbers that differ where a row of a VALUES has not as many values as there are hints. -/
def RowMismatch (hints : List Hint) (q : Select) (columns values : Nat) : Prop :=
  hints ≠ [] ∧ columns = hints.length ∧ values ≠ columns ∧
    ∃ items, q.HasRow items ∧ items.length = values

/-- A step of an analysis ends in no errors but those. -/
abbrev Fits {α : Type} (c : Catalog) (root : Node) (counts : Nat → Nat → Prop)
    (m : AnalysisM α) : Prop :=
  Meets (Allowed c root counts) (fun _ => True) m

theorem Allowed.imp {c : Catalog} {root : Node} {counts counts' : Nat → Nat → Prop}
    (h : ∀ n m, counts n m → counts' n m) : ∀ e, Allowed c root counts e → Allowed c root counts' e
  | .malformed (.columnCounts _ _), he => he
  | .malformed (.valueCount n m), he => h n m he
  | .unknownSchema _, _ | .unknownTable _, _ | .unknownRelation _, _ | .unknownColumn .., _
  | .ambiguousColumn .., _ => trivial

namespace Fits

variable {α β : Type} {c : Catalog} {root : Node} {counts counts' : Nat → Nat → Prop}
  {m : AnalysisM α} {f : α → AnalysisM β}

theorem imp (h : ∀ n m, counts n m → counts' n m) (hm : Fits c root counts m) :
    Fits c root counts' m :=
  Meets.imp hm (Allowed.imp h) fun _ _ => trivial

theorem pure {a : α} : Fits c root counts (Pure.pure a) := Meets.pure trivial

theorem bind (hm : Fits c root counts m) (hf : ∀ a, Fits c root counts (f a)) :
    Fits c root counts (m >>= f) :=
  Meets.bind hm fun a _ => hf a

theorem discard (hm : Fits c root counts m) : Fits c root counts (Functor.discard m) :=
  hm.bind fun _ => pure

/-- Without hints every number of values will do. -/
theorem of_no_hints {q : Select} (h : Fits c root (RowMismatch [] q) m) : Fits c root counts m :=
  h.imp fun _ _ hcounts => (hcounts.1 rfl).elim

end Fits

/-! ## Names -/

section Names

variable {c : Catalog} {root : Node} {s : Scope} {counts : Nat → Nat → Prop} {e : AnalysisError}

/-- A table is not found because its schema or it is unknown. -/
theorem lookedUp_fits (name : TableName) :
    Fits c root counts (lookedUp (c.lookupTable name)) := by
  rw [Catalog.lookupTable]
  split
  · exact Meets.throw trivial
  · split
    · exact Meets.throw trivial
    · exact Fits.pure

theorem ScopeLevel.allowed_resolve {l : ScopeLevel} {qualifiers : List String} {name : String}
    (hrun : l.resolve qualifiers name = .error e) : Allowed c root counts e := by
  rw [resolve] at hrun
  split at hrun
  · rw [resolveUnqualified] at hrun
    split at hrun
    · cases hrun
    · cases hrun
    · -- several relations have such a column
      cases hrun
      trivial
  · rw [resolveQualified] at hrun
    split at hrun
    · -- no relation is called like that, so the level leaves the name open
      cases hrun
    · split at hrun
      · cases hrun
      · -- the relation that is meant lacks the column
        cases hrun
        rw [Relation.missingColumn]
        split <;> trivial
    · -- several relations are called like that
      cases hrun
      trivial

theorem Scope.allowed_resolveName {qualifiers : List String} {name : String}
    (hrun : resolveName qualifiers name s = .error e) : Allowed c root counts e := by
  induction s with
  | nil =>
    rw [resolveName] at hrun
    split at hrun
    · cases hrun
      trivial
    · cases hrun
      trivial
  | cons l ls ih =>
    rw [resolveName] at hrun
    split at hrun
    · rename_i hlevel
      cases hrun
      exact ScopeLevel.allowed_resolve hlevel
    · cases hrun
    · -- nothing by that name at this level: the error is one of the outer levels
      exact ih hrun

theorem Scope.allowed_expandStar {qualifiers : List String}
    (hrun : s.expandStar qualifiers = .error e) : Allowed c root counts e := by
  rw [expandStar] at hrun
  split at hrun
  · cases hrun
  · split at hrun
    · cases hrun
    · cases hrun
      trivial

end Names

/-! ## Single constructs -/

section Constructs

variable {c : Catalog} {root : Node} {s : Scope} {counts : Nat → Nat → Prop}
  {hint : Option Hint}

theorem bindParam_fits (number : Nat) : Fits c root counts (bindParam number hint) :=
  fun _ => trivial

theorem bindAll_fits (ns : List Node) : Fits c root counts (bindAll ns) := by
  induction ns with
  | nil => exact .pure
  | cons n ns ih =>
    unfold bindAll
    split
    · exact .pure
    · rename_i heq
      cases heq
      exact .bind (.discard (bindParam_fits _)) fun _ => ih
    · rename_i heq
      cases heq
      exact ih

/-- A reference that ends in a name is not taken for a star. -/
theorem inferColumn_fits {fields : List Node}
    (h : endsInStar fields = true ∨ (columnName? fields).isSome = true) :
    Fits c root counts (inferExpr c s hint (.column fields)) := by
  rw [inferExpr]
  split
  · exact .pure
  · rename_i hstar
    -- what does not end in a star has a name, so only the lookup of that name can fail
    obtain ⟨name, hname⟩ := Option.isSome_iff_exists.mp (h.resolve_left hstar)
    match hrun : s.resolve fields with
    | .ok column => exact .pure
    | .error e =>
      refine Meets.throw ?_
      rw [Scope.resolve, hname] at hrun
      exact Scope.allowed_resolveName hrun

/-- The sides of a set operation are combined unless they have different numbers of columns. -/
theorem combinedSides_fits {α : Type} {q : Select} {hints : List Hint}
    {rest : List ResultColumn → AnalysisM α} (hin : root.Contains (.select q))
    (hoperation : q.operation ≠ .none) (hleft : Fits c root counts (analyzeSide c s hints q.left))
    (hright : Fits c root counts (analyzeSide c s hints q.right))
    (hrest : ∀ columns, Fits c root counts (rest columns)) :
    Fits c root counts (do
      let l ← analyzeSide c s hints q.left
      let r ← analyzeSide c s hints q.right
      let columns ← combineColumns l r
      rest columns) := by
  -- the runs of both sides are followed, because the numbers that may differ are theirs
  intro bs
  have hl := hleft bs
  rw [StateT.run_bind]
  cases hrunLeft : (analyzeSide c s hints q.left).run bs with
  | error e =>
    rw [hrunLeft] at hl
    exact hl
  | ok x =>
    have hr := hright x.2
    have hnext (f : List ResultColumn × Bindings → Except AnalysisError (α × Bindings)) :
        (Except.ok x >>= f) = f x := pure_bind x f
    rw [hnext, StateT.run_bind]
    cases hrunRight : (analyzeSide c s hints q.right).run x.2 with
    | error e =>
      rw [hrunRight] at hr
      exact hr
    | ok y =>
      have hcombine : Fits c root counts (combineColumns x.1 y.1) := by
        rw [combineColumns]
        split
        · exact .pure
        · rename_i hne
          exact Meets.throw (.mk hin hoperation hrunLeft hrunRight hne)
      exact hcombine.bind hrest y.2

theorem analyzeTable_fits (t : TableRef) :
    Fits c root counts (analyzeSource c s (.table t)) := by
  rw [analyzeSource]
  split
  · exact .pure
  · exact .bind (lookedUp_fits _) fun found => .pure

end Constructs

/-! ## Expressions and queries -/

variable {c : Catalog} {root : Node}

/-- A row of a VALUES fails for its number of values, or because of one of them. -/
theorem inferRows_fits_of {s : Scope} {hints : List Hint} {counts : Nat → Nat → Prop}
    {items rows : List Node}
    (hcounts : hints ≠ [] → items.length ≠ hints.length → counts hints.length items.length)
    (hrow : Fits c root counts (inferRow c s hints items))
    (hrows : Fits c root counts (inferRows c s hints rows)) :
    Fits c root counts (inferRows c s hints (.list items :: rows)) := by
  rw [inferRows]
  have hrest : Fits c root counts (do
      let row ← inferRow c s hints items
      let rest ← inferRows c s hints rows
      return row :: rest) := .bind hrow fun row => .bind hrows fun rest => .pure
  split
  · -- the number of values is wrong, which ends the analysis before the first value is read
    rename_i hdiffer
    rw [Bool.and_eq_true, Bool.not_eq_true', decide_eq_true_eq] at hdiffer
    have hne : hints ≠ [] := fun heq => by simp [heq] at hdiffer
    exact .bind (Meets.throw (hcounts hne hdiffer.2)) fun _ => hrest
  · exact hrest

mutual

theorem inferExpr_fits (s : Scope) (hint : Option Hint) (n : Node) (h : n.IsExpr)
    (hin : root.Contains n) {counts : Nat → Nat → Prop} :
    Fits c root counts (inferExpr c s hint n) := by
  have hparts := hin.parts
  cases h with
  | column _ h => exact inferColumn_fits h
  | param number _ => exact bindParam_fits number
  | literal value => exact .pure
  | logic _ h => exact .bind (inferAll_fits s none _ h hparts) fun _ => .pure
  | unary _ h =>
    exact .bind (inferExpr_fits s none _ h (hparts _ (.head _))) fun _ => .pure
  | @binary op left right hleft hright =>
    have ihleft (hint : Option Hint) : Fits c root counts (inferExpr c s hint left) :=
      inferExpr_fits s hint left hleft (hparts left (.head _))
    have ihright (hint : Option Hint) : Fits c root counts (inferExpr c s hint right) :=
      inferExpr_fits s hint right hright (hparts right (.tail _ (.head _)))
    rw [inferExpr]
    -- whichever side is inferred first, each of them is an expression
    split
    · exact .bind (ihright none) fun _ => .bind (ihleft _) fun _ => .pure
    · exact .bind (ihleft none) fun _ => .bind (ihright _) fun _ => .pure
  | nullTest _ h =>
    exact .bind (.discard (inferExpr_fits s none _ h (hparts _ (.head _)))) fun _ => .pure
  | cast _ h => exact .bind (inferExpr_fits s _ _ h (hparts _ (.head _))) fun _ => .pure
  | @call call h =>
    obtain ⟨name, args, orderBy, filter, window, star, distinct⟩ := call
    obtain ⟨hargs, horderBy, hfilter, hwindow⟩ := h
    obtain ⟨hinArgs, hinOrderBy, hinFilter, hinWindow⟩ := forall_parts_call.mp hparts
    apply Fits.bind (inferAll_fits s none args hargs hinArgs)
    intro args
    apply Fits.bind (.discard (inferAll_fits s none orderBy horderBy hinOrderBy))
    intro _
    apply Fits.bind (.discard (inferOption_fits s none filter hfilter hinFilter))
    intro _
    apply Fits.bind (analyzeOver_fits s window hwindow hinWindow)
    intro _
    exact .pure
  | case hoperand hbranches hdefault =>
    obtain ⟨hinOperand, hinBranches, hinDefault⟩ := forall_parts_case.mp hparts
    apply Fits.bind (inferOption_fits s none _ hoperand hinOperand)
    intro operand
    apply Fits.bind (inferBranches_fits s _ _ hbranches hinBranches)
    intro results
    apply Fits.bind (inferOption_fits s none _ hdefault hinDefault)
    intro default
    exact .pure
  | sublink kind _ htest hquery =>
    obtain ⟨hinTest, hinQuery⟩ := (forall_parts_sublink ..).mp hparts
    rw [inferExpr]
    apply Fits.bind (analyzeSublink_fits s _ hquery hinQuery)
    intro columns
    match kind with
    | .exists => exact .bind (.discard (inferOption_fits s none _ htest hinTest)) fun _ => .pure
    | .any => exact .bind (inferOption_fits s _ _ htest hinTest) fun _ => .pure
  | select h => exact .bind (.of_no_hints (analyzeSelect_fits s [] _ h hin)) fun _ => .pure
  | list h => exact .bind (inferAll_fits s hint _ h hparts) fun _ => .pure
  | unsupported _ params _ => exact .bind (bindAll_fits params) fun _ => .pure
termination_by structural n

theorem inferAll_fits (s : Scope) (hint : Option Hint) (ns : List Node) (h : ∀ n ∈ ns, n.IsExpr)
    (hin : ∀ n ∈ ns, root.Contains n) {counts : Nat → Nat → Prop} :
    Fits c root counts (inferAll c s hint ns) := by
  match ns with
  | [] => exact .pure
  | n :: ns =>
    obtain ⟨hn, hns⟩ := List.forall_mem_cons.mp h
    obtain ⟨hinHead, hinTail⟩ := List.forall_mem_cons.mp hin
    exact .bind (inferExpr_fits s hint n hn hinHead) fun _ =>
      .bind (inferAll_fits s hint ns hns hinTail) fun _ => .pure
termination_by structural ns

theorem inferOption_fits (s : Scope) (hint : Option Hint) (n : Option Node)
    (h : ∀ m ∈ n, m.IsExpr) (hin : ∀ m ∈ n, root.Contains m) {counts : Nat → Nat → Prop} :
    Fits c root counts (inferOption c s hint n) := by
  match n with
  | none => exact .pure
  | some n => exact .bind (inferExpr_fits s hint n (h n rfl) (hin n rfl)) fun _ => .pure
termination_by structural n

theorem inferBranches_fits (s : Scope) (hint : Option Hint) (bs : List Branch)
    (h : ∀ b ∈ bs, b.WellShaped)
    (hin : ∀ b ∈ bs, root.Contains b.condition ∧ root.Contains b.result)
    {counts : Nat → Nat → Prop} : Fits c root counts (inferBranches c s hint bs) := by
  match bs with
  | [] => exact .pure
  | ⟨condition, result⟩ :: bs =>
    obtain ⟨⟨hcondition, hresult⟩, hbs⟩ := List.forall_mem_cons.mp h
    obtain ⟨⟨hinCondition, hinResult⟩, hinTail⟩ := List.forall_mem_cons.mp hin
    exact .bind (.discard (inferExpr_fits s hint condition hcondition hinCondition)) fun _ =>
      .bind (inferExpr_fits s none result hresult hinResult) fun _ =>
      .bind (inferBranches_fits s hint bs hbs hinTail) fun _ => .pure
termination_by structural bs

theorem analyzeOver_fits (s : Scope) (w : Option Window) (h : ∀ v ∈ w, v.WellShaped)
    (hin : ∀ v ∈ w, ∀ m ∈ v.parts, root.Contains m) {counts : Nat → Nat → Prop} :
    Fits c root counts (analyzeOver c s w) := by
  match w with
  | none => exact .pure
  | some w => exact analyzeWindow_fits s w (h w rfl) (hin w rfl)
termination_by structural w

theorem analyzeWindow_fits (s : Scope) (w : Window) (h : w.WellShaped)
    (hin : ∀ m ∈ w.parts, root.Contains m) {counts : Nat → Nat → Prop} :
    Fits c root counts (analyzeWindow c s w) := by
  match w with
  | ⟨_, _, partitionBy, orderBy, startOffset, endOffset⟩ =>
    obtain ⟨hpartitionBy, horderBy, hstartOffset, hendOffset⟩ := h
    obtain ⟨hinPartitionBy, hinOrderBy, hinStart, hinEnd⟩ := forall_windowParts.mp hin
    apply Fits.bind (.discard (inferAll_fits s none partitionBy hpartitionBy hinPartitionBy))
    intro _
    apply Fits.bind (.discard (inferAll_fits s none orderBy horderBy hinOrderBy))
    intro _
    apply Fits.bind (.discard (inferOption_fits s _ startOffset hstartOffset hinStart))
    intro _
    exact .discard (inferOption_fits s _ endOffset hendOffset hinEnd)
termination_by structural w

theorem analyzeWindows_fits (s : Scope) (ws : List Window) (h : ∀ w ∈ ws, w.WellShaped)
    (hin : ∀ w ∈ ws, ∀ m ∈ w.parts, root.Contains m) {counts : Nat → Nat → Prop} :
    Fits c root counts (analyzeWindows c s ws) := by
  match ws with
  | [] => exact .pure
  | w :: ws =>
    obtain ⟨hw, hws⟩ := List.forall_mem_cons.mp h
    obtain ⟨hinHead, hinTail⟩ := List.forall_mem_cons.mp hin
    exact .bind (analyzeWindow_fits s w hw hinHead) fun _ => analyzeWindows_fits s ws hws hinTail
termination_by structural ws

theorem analyzeSublink_fits (s : Scope) (query : Option Node) (h : ∀ n ∈ query, n.IsExpr)
    (hin : ∀ n ∈ query, root.Contains n) {counts : Nat → Nat → Prop} :
    Fits c root counts (analyzeSublink c s query) := by
  match query with
  | none => exact .pure
  | some n =>
    have hexpr : n.IsExpr := h n rfl
    have hn := hexpr
    cases hn with
    | select hq => exact .of_no_hints (analyzeSelect_fits s [] _ hq (hin _ rfl))
    | _ => exact .bind (.discard (inferExpr_fits s none _ hexpr (hin _ rfl))) fun _ => .pure
termination_by structural query

theorem analyzeSelect_fits (s : Scope) (hints : List Hint) (q : Select) (h : q.WellShaped)
    (hin : root.Contains (.select q)) :
    Fits c root (RowMismatch hints q) (analyzeSelect c s hints q) := by
  match q with
  | ⟨ctes, targets, source, joinConditions, condition, distinctOn, groupBy, having, windows,
      orderBy, limit, offset, rows, operation, all, left, right⟩ =>
    obtain ⟨hctes, htargets, hsource, hjoinConditions, hcondition, hdistinctOn, hgroupBy, hhaving,
      hwindows, horderBy, hlimit, hoffset, hrows, hsides, hleft, hright, -⟩ := h
    obtain ⟨hinClauses, hinOrderBy⟩ := List.forall_mem_append.mp hin.parts
    obtain ⟨hinCtes, hinLeft, hinRight, hinPlain, hinRows, hinLimit, hinOffset⟩ :=
      forall_clauses.mp hinClauses
    obtain ⟨hinTargets, hinSource, hinJoinConditions, hinCondition, hinDistinctOn, hinGroupBy,
      hinHaving, hinWindows⟩ := forall_plainParts.mp hinPlain
    dsimp only at *
    rw [analyzeSelect]
    apply Fits.bind (analyzeCtes_fits s [] ctes hctes hinCtes)
    intro defined
    split
    · -- a set operation has both sides, so the check for them never fires
      rename_i hoperation
      obtain ⟨hleftSome, hrightSome⟩ := hsides hoperation
      have hboth : ¬ (left.isNone || right.isNone) = true := by
        rw [← Option.not_isSome, ← Option.not_isSome, hleftSome, hrightSome]
        decide
      rw [if_neg hboth]
      apply combinedSides_fits hin hoperation
        (analyzeSide_fits _ hints left hleftSome hleft hinLeft fun _ hside _ => .left hside)
        (analyzeSide_fits _ hints right hrightSome hright hinRight fun _ hside _ => .right hside)
      intro columns
      apply Fits.bind (.discard (inferAll_fits _ none orderBy horderBy hinOrderBy))
      intro _
      apply Fits.bind (.discard (inferOption_fits _ _ limit hlimit hinLimit))
      intro _
      apply Fits.bind (.discard (inferOption_fits _ _ offset hoffset hinOffset))
      intro _
      exact .pure
    split
    · -- the rows of a VALUES are rows of the query
      apply Fits.bind (inferRows_fits _ hints rows hrows hinRows fun items hmem => .row hmem)
      intro values
      apply Fits.bind (.discard (inferOption_fits _ _ limit hlimit hinLimit))
      intro _
      apply Fits.bind (.discard (inferOption_fits _ _ offset hoffset hinOffset))
      intro _
      exact .pure
    · apply Fits.bind (analyzeSources_fits _ source hsource hinSource)
      intro relations
      apply Fits.bind
        (.discard (inferAll_fits _ none joinConditions hjoinConditions hinJoinConditions))
      intro _
      apply Fits.bind (.discard (inferOption_fits _ none condition hcondition hinCondition))
      intro _
      apply Fits.bind (analyzeTargets_fits _ hints 0 targets htargets hinTargets)
      intro columns
      apply Fits.bind (.discard (inferAll_fits _ none distinctOn hdistinctOn hinDistinctOn))
      intro _
      apply Fits.bind (.discard (inferAll_fits _ none groupBy hgroupBy hinGroupBy))
      intro _
      apply Fits.bind (.discard (inferOption_fits _ none having hhaving hinHaving))
      intro _
      apply Fits.bind (analyzeWindows_fits _ windows hwindows hinWindows)
      intro _
      apply Fits.bind (.discard (inferAll_fits _ none orderBy horderBy hinOrderBy))
      intro _
      apply Fits.bind (.discard (inferOption_fits _ _ limit hlimit hinLimit))
      intro _
      apply Fits.bind (.discard (inferOption_fits _ _ offset hoffset hinOffset))
      intro _
      exact .pure
termination_by structural q

theorem analyzeSide_fits (s : Scope) (hints : List Hint) (side : Option Select)
    (hsome : side.isSome = true) (h : ∀ q ∈ side, q.WellShaped)
    (hin : ∀ q ∈ side, root.Contains (.select q)) {whole : Select}
    (hrow : ∀ q, side = some q → ∀ items, q.HasRow items → whole.HasRow items) :
    Fits c root (RowMismatch hints whole) (analyzeSide c s hints side) := by
  match side with
  | none => cases hsome
  | some q =>
    -- a row of a side is a row of the whole
    refine .imp (fun n m ⟨hne, hn, hm, items, hitems, hlength⟩ => ?_)
      (analyzeSelect_fits s hints q (h q rfl) (hin q rfl))
    exact ⟨hne, hn, hm, items, hrow q rfl items hitems, hlength⟩
termination_by structural side

theorem analyzeCtes_fits (s : Scope) (defined : List Relation) (qs : List NamedQuery)
    (h : ∀ x ∈ qs, x.WellShaped) (hin : ∀ x ∈ qs, root.Contains x.query)
    {counts : Nat → Nat → Prop} : Fits c root counts (analyzeCtes c s defined qs) := by
  match qs with
  | [] => exact .pure
  | ⟨name, n⟩ :: qs =>
    obtain ⟨hn, hqs⟩ := List.forall_mem_cons.mp h
    obtain ⟨hinHead, hinTail⟩ := List.forall_mem_cons.mp hin
    -- the query is matched itself, so that the recursive call is seen to be on a part of it
    match n with
    | .select q =>
      cases hn with
      | mk _ hq =>
        exact .bind (.of_no_hints (analyzeSelect_fits _ [] q hq hinHead)) fun _ =>
          analyzeCtes_fits s _ qs hqs hinTail
    | .schemaChange _ | .insert _ | .update _ | .delete _ | .logic .. | .operator .. | .column _
    | .param .. | .sublink .. | .call _ | .cast .. | .nullTest .. | .case .. | .literal _
    | .target .. | .table _ | .derived .. | .list _ | .unsupported .. | .name _ | .star => cases hn
termination_by structural qs

theorem inferRows_fits (s : Scope) (hints : List Hint) (rows : List Node) (h : ∀ n ∈ rows, n.IsRow)
    (hin : ∀ n ∈ rows, root.Contains n) {q : Select}
    (hrow : ∀ items, .list items ∈ rows → q.HasRow items) :
    Fits c root (RowMismatch hints q) (inferRows c s hints rows) := by
  match rows with
  | [] => exact .pure
  | n :: rows =>
    obtain ⟨hn, hrows⟩ := List.forall_mem_cons.mp h
    obtain ⟨hinHead, hinTail⟩ := List.forall_mem_cons.mp hin
    cases hn with
    | @mk items hitems =>
      -- the rows that follow are rows of the same query
      have hrest (items : List Node) (hmem : .list items ∈ rows) : q.HasRow items :=
        hrow items (List.mem_cons_of_mem _ hmem)
      exact inferRows_fits_of
        (fun hne hdiffer => ⟨hne, rfl, hdiffer, items, hrow items List.mem_cons_self, rfl⟩)
        (inferRow_fits s hints items hitems hinHead.parts)
        (inferRows_fits s hints rows hrows hinTail hrest)
termination_by structural rows

theorem inferRow_fits (s : Scope) (hints : List Hint) (ns : List Node) (h : ∀ n ∈ ns, n.IsExpr)
    (hin : ∀ n ∈ ns, root.Contains n) {counts : Nat → Nat → Prop} :
    Fits c root counts (inferRow c s hints ns) := by
  match ns with
  | [] => exact .pure
  | n :: ns =>
    obtain ⟨hn, hns⟩ := List.forall_mem_cons.mp h
    obtain ⟨hinHead, hinTail⟩ := List.forall_mem_cons.mp hin
    exact .bind (inferExpr_fits s _ n hn hinHead) fun _ =>
      .bind (inferRow_fits s _ ns hns hinTail) fun _ => .pure
termination_by structural ns

theorem analyzeSource_fits (s : Scope) (n : Node) (h : n.IsSource) (hin : root.Contains n)
    {counts : Nat → Nat → Prop} : Fits c root counts (analyzeSource c s n) := by
  have hparts := hin.parts
  cases h with
  | table t => exact analyzeTable_fits t
  | derived _ _ hq =>
    exact .bind (.of_no_hints (analyzeSelect_fits s [] _ hq (hparts _ (.head _)))) fun _ => .pure
termination_by structural n

theorem analyzeSources_fits (s : Scope) (ns : List Node) (h : ∀ n ∈ ns, n.IsSource)
    (hin : ∀ n ∈ ns, root.Contains n) {counts : Nat → Nat → Prop} :
    Fits c root counts (analyzeSources c s ns) := by
  match ns with
  | [] => exact .pure
  | n :: ns =>
    obtain ⟨hn, hns⟩ := List.forall_mem_cons.mp h
    obtain ⟨hinHead, hinTail⟩ := List.forall_mem_cons.mp hin
    exact .bind (analyzeSource_fits s n hn hinHead) fun _ =>
      .bind (analyzeSources_fits s ns hns hinTail) fun _ => .pure
termination_by structural ns

theorem analyzeTargets_fits (s : Scope) (hints : List Hint) (position : Nat) (ns : List Node)
    (h : ∀ n ∈ ns, n.IsTarget) (hin : ∀ n ∈ ns, root.Contains n) {counts : Nat → Nat → Prop} :
    Fits c root counts (analyzeTargets c s hints position ns) := by
  match ns with
  | [] => exact .pure
  | n :: ns =>
    obtain ⟨hn, hns⟩ := List.forall_mem_cons.mp h
    obtain ⟨hinHead, hinTail⟩ := List.forall_mem_cons.mp hin
    have hparts := hinHead.parts
    cases hn with
    | mk _ _ hvalue =>
      rw [analyzeTargets]
      split
      · -- a star: expanding it can only fail for its qualifier
        split
        · exact .bind (analyzeTargets_fits s hints _ ns hns hinTail) fun _ => .pure
        · rename_i hexpand
          exact Meets.throw (Scope.allowed_expandStar hexpand)
      · exact .bind (inferExpr_fits s _ _ hvalue (hparts _ (.head _))) fun _ =>
          .bind (analyzeTargets_fits s hints _ ns hns hinTail) fun _ => .pure
termination_by structural ns

end

/-! ## Statements -/

/-- The number of columns that an INSERT into a table writes: those that it lists, or else all. -/
def Canonical.Insert.columnCount (i : Insert) (t : Table) : Nat :=
  if i.columns.isEmpty then t.columns.length else i.columns.length

/-- What can be wrong with the numbers of columns and values of a statement. -/
inductive CountMismatch (c : Catalog) (n : Node) : Malformation → Prop where
  /-- The sides of a set operation have different numbers of columns. -/
  | sides {left right : Nat} (h : SidesDiffer c n left right) :
      CountMismatch c n (.columnCounts left right)
  /-- A row of the VALUES of an INSERT has not as many values as there are columns to write. -/
  | row {i : Insert} {t : Table} {items : List Node} (hinsert : n = .insert i)
      (htable : c.lookupTable i.table.tableName = .ok t) (hrow : i.source.HasRow items)
      (h : items.length ≠ i.columnCount t) :
      CountMismatch c n (.valueCount (i.columnCount t) items.length)

section Statements

variable {s : Scope} {counts : Nat → Nat → Prop} {target : Relation}

theorem analyzeAssignment_fits {n : Node} (h : n.IsAssignment) (hin : root.Contains n) :
    Fits c root counts (analyzeAssignment c s target n) := by
  have hparts := hin.parts
  obtain ⟨name, location, hvalue⟩ := h
  have hrest (hint : Option Hint) : Fits c root counts (discard (inferOption c s hint _)) :=
    .discard (inferOption_fits s hint _ hvalue fun m hm => hparts m (Option.mem_toList.mpr hm))
  cases name with
  | none => exact .bind .pure hrest
  | some name =>
    rw [analyzeAssignment]
    dsimp only
    split
    · -- the assigned column is one of the table
      exact .bind .pure hrest
    · exact .bind (Meets.throw trivial) hrest

theorem analyzeAssignments_fits {ns : List Node} (h : ∀ n ∈ ns, n.IsAssignment)
    (hin : ∀ n ∈ ns, root.Contains n) :
    Fits c root counts (ns.forM (analyzeAssignment c s target)) := by
  induction ns with
  | nil => exact .pure
  | cons n ns ih =>
    obtain ⟨hn, hns⟩ := List.forall_mem_cons.mp h
    obtain ⟨hinHead, hinTail⟩ := List.forall_mem_cons.mp hin
    exact .bind (analyzeAssignment_fits hn hinHead) fun _ => ih hns hinTail

/-- Every listed column gives a hint, unless the table does not have it. -/
theorem columnHints_length {ns : List Node} (h : ∀ n ∈ ns, n.IsInsertColumn) :
    Meets (Allowed c root counts) (·.length = ns.length) (columnHints target ns) := by
  induction ns with
  | nil => exact .pure rfl
  | cons n ns ih =>
    obtain ⟨⟨name, location⟩, hns⟩ := List.forall_mem_cons.mp h
    rw [columnHints]
    split
    · -- the column is there, and its hint comes before those of the others
      exact .bind (ih hns) fun hints hlength => .pure (congrArg (· + 1) hlength)
    · exact .throw trivial

theorem insertHints_length {i : Insert} (h : ∀ n ∈ i.columns, n.IsInsertColumn)
    (t : Table) (aliasName : Option String) :
    Meets (Allowed c root counts) (·.length = i.columnCount t)
      (insertHints (.ofTable t aliasName false) i.columns) := by
  rw [insertHints, Insert.columnCount]
  split
  · exact .pure (by simp [Relation.ofTable])
  · exact columnHints_length h

theorem targetRelation_found (t : TableRef) :
    Meets (Allowed c root counts) (fun x => c.lookupTable t.tableName = .ok x.1 ∧
      x.2 = .ofTable x.1 t.aliasName false) (targetRelation c t) := by
  unfold targetRelation
  match hfound : c.lookupTable t.tableName with
  | .ok found => exact .pure ⟨rfl, rfl⟩
  | .error e =>
    have h : Fits c root counts (lookedUp (c.lookupTable t.tableName)) :=
      lookedUp_fits t.tableName
    rw [hfound] at h
    exact Meets.throw (h [])

theorem analyzeConflict_fits {i : Insert} (h : i.WellShaped)
    (htargets : ∀ n ∈ i.conflictTargets, root.Contains n)
    (hcondition : ∀ n ∈ i.conflictCondition, root.Contains n) :
    Fits c root counts (analyzeConflict c target i) := by
  rw [analyzeConflict]
  split
  · exact .pure
  · exact .bind (analyzeAssignments_fits h.conflictTargets htargets) fun _ =>
      .discard (inferOption_fits _ none _ h.conflictCondition hcondition)

theorem analyzeInsert_fits {i : Insert} (h : i.WellShaped) :
    Fits c (.insert i)
      (fun columns values => CountMismatch c (.insert i) (.valueCount columns values))
      (analyzeInsert c i) := by
  obtain ⟨-, hinSource, hinTargets, hinCondition, hinReturning⟩ :=
    forall_parts_insert.mp (Node.Contains.self (.insert i)).parts
  refine Meets.bind (targetRelation_found i.table) fun ⟨t, target⟩ ⟨ht, htarget⟩ => ?_
  dsimp only at ht htarget ⊢
  subst htarget
  refine Meets.bind (insertHints_length h.columns t i.table.aliasName) fun hints hlength => ?_
  -- there are as many hints as columns to write, so a row that does not fit them is one that the
  -- statement is blamed for
  have hsource : Fits c (.insert i)
      (fun columns values => CountMismatch c (.insert i) (.valueCount columns values))
      (analyzeSelect c [] hints i.source) := by
    refine .imp (fun n m ⟨_, hn, hm, items, hitems, hvalues⟩ => ?_)
      (analyzeSelect_fits [] hints i.source h.source hinSource)
    subst hn
    subst hvalues
    rw [hlength] at hm ⊢
    exact .row rfl ht hitems hm
  apply Fits.bind (.discard hsource)
  intro _
  apply Fits.bind (analyzeConflict_fits h hinTargets hinCondition)
  intro _
  apply Fits.bind (analyzeTargets_fits _ [] 0 _ h.returning hinReturning)
  intro columns
  exact .pure

theorem analyzeUpdate_fits {u : Update} (h : u.WellShaped) :
    Fits c (.update u) counts (analyzeUpdate c u) := by
  obtain ⟨hinTargets, hinSource, hinJoinConditions, hinCondition, hinReturning⟩ :=
    forall_parts_update.mp (Node.Contains.self (.update u)).parts
  apply Meets.bind (targetRelation_found u.table)
  intro target _
  apply Fits.bind (analyzeSources_fits [] u.source h.source hinSource)
  intro others
  apply Fits.bind (.discard (inferAll_fits _ none _ h.joinConditions hinJoinConditions))
  intro _
  apply Fits.bind (analyzeAssignments_fits h.targets hinTargets)
  intro _
  apply Fits.bind (.discard (inferOption_fits _ none _ h.condition hinCondition))
  intro _
  exact analyzeTargets_fits _ [] 0 _ h.returning hinReturning

theorem analyzeDelete_fits {d : Delete} (h : d.WellShaped) :
    Fits c (.delete d) counts (analyzeDelete c d) := by
  obtain ⟨hinSource, hinJoinConditions, hinCondition, hinOrderBy, hinLimit, hinReturning⟩ :=
    forall_parts_delete.mp (Node.Contains.self (.delete d)).parts
  apply Meets.bind (targetRelation_found d.table)
  intro target _
  apply Fits.bind (analyzeSources_fits [] d.source h.source hinSource)
  intro others
  apply Fits.bind (.discard (inferAll_fits _ none _ h.joinConditions hinJoinConditions))
  intro _
  apply Fits.bind (.discard (inferOption_fits _ none _ h.condition hinCondition))
  intro _
  apply Fits.bind (.discard (inferAll_fits _ none _ h.orderBy hinOrderBy))
  intro _
  apply Fits.bind (.discard (inferOption_fits _ _ _ h.limit hinLimit))
  intro _
  exact analyzeTargets_fits _ [] 0 _ h.returning hinReturning

theorem analyzeStatement_fits {n : Node} (h : n.IsStatement) (hquery : n.isQuery = true) :
    Fits c n (fun columns values => CountMismatch c n (.valueCount columns values))
      (analyzeStatement c n) := by
  cases h with
  | select h =>
    exact .bind (.of_no_hints (analyzeSelect_fits [] [] _ h (.self _))) fun _ => .pure
  | insert h => exact .bind (analyzeInsert_fits h) fun _ => .pure
  | update h => exact .bind (analyzeUpdate_fits h) fun _ => .pure
  | delete h => exact .bind (analyzeDelete_fits h) fun _ => .pure
  | other h => simp [h] at hquery

end Statements

/-- The analysis of a converted statement that is a query or changes data never finds it
unsupported, and finds it malformed only for its numbers of columns and values. -/
theorem countMismatch_of_analyze_converted {d : Dialect} {s : Sql.ScriptStatement}
    {r : Converted} (hconvert : convert d s = .ok r)
    (hquery : r.node.isQuery = true) (c : Catalog) {e : AnalysisError}
    (hrun : analyze c r.node = .error e) :
    (∀ construct, e ≠ .unsupported construct) ∧
      ∀ cause, e = .malformed cause → CountMismatch c r.node cause := by
  have hfits := analyzeStatement_fits (c := c) (convert_isStatement hconvert) hquery []
  rw [analyze] at hrun
  rcases hstatement : (analyzeStatement c r.node).run [] with e' | x <;>
    rw [hstatement] at hrun hfits
  · -- the error of the analysis is one of those that the shape of the tree allows
    cases hrun
    refine ⟨fun construct heq => ?_, fun cause heq => ?_⟩
    · rw [heq] at hfits
      exact hfits
    · subst heq
      cases cause with
      | columnCounts left right => exact .sides hfits
      | valueCount columns values => exact hfits
      | _ => exact hfits.elim
  · cases hrun

/-- A catalog with one table, which has two columns. -/
def twoColumns : Catalog :=
  ⟨"public", Directory.empty.insert "public" ⟨"public", Directory.empty.insert "t"
    ⟨.qualified "public" "t", [⟨"a", .named "int", true⟩, ⟨"b", .named "int", true⟩]⟩⟩⟩

theorem countMismatch_of_analyze_converted_insert : ∃ s r,
    (Sql.Script.parse .mysql none "INSERT INTO t VALUES (1, 2), (?)").statements = [s] ∧
      convert .mysql s = .ok r ∧
      analyze twoColumns r.node = .error (.malformed (.valueCount 2 1)) ∧
      CountMismatch twoColumns r.node (.valueCount 2 1) := by
  obtain ⟨s, r, hs, hconvert, hcheck⟩ := Conversion.exists_converted .mysql
    "INSERT INTO t VALUES (1, 2), (?)"
    (fun _ r => r.node.isQuery &&
      analyze twoColumns r.node = .error (.malformed (.valueCount 2 1))) (by decide +kernel)
  rw [Bool.and_eq_true, decide_eq_true_eq] at hcheck
  obtain ⟨hquery, hrun⟩ := hcheck
  have h := countMismatch_of_analyze_converted hconvert hquery twoColumns hrun
  exact ⟨s, r, hs, hconvert, hrun, h.2 _ rfl⟩

end TypedSql
