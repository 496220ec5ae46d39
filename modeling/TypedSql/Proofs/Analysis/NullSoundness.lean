import Mathlib.Data.List.Nodup
import TypedSql.Proofs.Analysis.NullSemantics
import TypedSql.Proofs.Analysis.RepeatedPlaceholders

/-!
# Soundness of nullability

An expression that is inferred not to be null is not, in every evaluation in which columns and
placeholders are null only where the scope and the parameters let them be.

- **Known values**: what the rules of the evaluation make of values that are not null
- **Promises**: what the typing rules promise is kept
- **Expressions and queries**: the same, by induction on the tree
- **Statements**: what it takes that the parameters decide about the placeholders
-/

namespace TypedSql

open Canonical

variable {c : Catalog} (E : Evaluation c)

/-! ## Known values -/

theorem anyNull_eq_false {vs : List SqlValue} :
    anyNull vs = false ↔ ∀ v ∈ vs, v.isNull = false := by
  induction vs with
  | nil => simp [anyNull]
  | cons v vs ih => simp [anyNull, ih]

@[simp] theorem SqlValue.anyNull_items (v : SqlValue) : anyNull v.items = v.isNull := by
  cases v <;> simp [SqlValue.items, SqlValue.isNull, anyNull]

theorem SqlValue.firstKnown_known {vs : List SqlValue} (h : ∃ v ∈ vs, v.isNull = false) :
    (SqlValue.firstKnown vs).isNull = false := by
  obtain ⟨v, hv, hknown⟩ := h
  cases hfind : vs.find? fun v => !v.isNull with
  | some w =>
    rw [SqlValue.firstKnown, hfind]
    simpa using List.find?_some hfind
  | none => exact absurd hknown (by simpa using List.find?_eq_none.mp hfind v hv)

namespace Evaluation

theorem negate_known {v : SqlValue} (h : v.isNull = false) : (E.negate v).isNull = false := by
  rw [negate, h]
  rfl

theorem conjoin_known {vs : List SqlValue} (h : anyNull vs = false) :
    (E.conjoin vs).isNull = false := by
  rw [conjoin, h]
  split <;> rfl

theorem disjoin_known {vs : List SqlValue} (h : anyNull vs = false) :
    (E.disjoin vs).isNull = false := by
  rw [disjoin, h]
  split <;> rfl

theorem connect_known (op : Connective) {vs : List SqlValue} (h : anyNull vs = false) :
    (E.connect op vs).isNull = false := by
  cases op with
  | and => exact E.conjoin_known h
  | or => exact E.disjoin_known h
  | not => exact E.negate_known (E.conjoin_known h)

/-- Membership is unknown only if the test or one of the elements is. -/
theorem among_known (negated : Bool) {test : SqlValue} {elements : List SqlValue}
    (htest : test.isNull = false) (helements : anyNull elements = false) :
    (E.among negated test elements).isNull = false := by
  have hfound : anyNull (elements.map fun v => E.operator "=" [test, v]) = false := by
    rw [anyNull_eq_false, List.forall_mem_map]
    intro v hv
    refine E.operator_strict _ _ ?_
    simp [anyNull, htest, anyNull_eq_false.mp helements v hv]
  cases negated with
  | false => exact E.disjoin_known hfound
  | true => exact E.negate_known (E.disjoin_known hfound)

theorem apply_known (name : String) {l r : SqlValue} (hl : l.isNull = false)
    (hr : r.isNull = false) : (E.apply name (some l) (some r)).isNull = false := by
  simp only [apply]
  split
  · exact E.among_known _ hl (by rwa [SqlValue.anyNull_items])
  · exact E.operator_strict _ _ (by simp [anyNull, hl, hr])

theorem apply_known_unary (name : String) {r : SqlValue} (hr : r.isNull = false) :
    (E.apply name none (some r)).isNull = false :=
  E.operator_strict _ _ (by simp [anyNull, hr])

end Evaluation

/-! ## Promises -/

theorem Honours.nullable (v : SqlValue) : Honours v false := Bool.noConfusion

theorem Honours.mono {v : SqlValue} {b b' : Bool} (h : Honours v b) (hb : b' = true → b = true) :
    Honours v b' := fun hnot => h (hb hnot)

/-- Every value honours what is inferred of its expression. -/
abbrev AllHonour (vs : List SqlValue) (is : List Inferred) : Prop :=
  List.Forall₂ (fun v i => Honours v i.notNull) vs is

namespace AllHonour

variable {vs : List SqlValue} {is : List Inferred}

theorem anyNull_eq_false (h : AllHonour vs is) (hall : is.all (·.notNull) = true) :
    anyNull vs = false := by
  induction h with
  | nil => rfl
  | cons hv _ ih =>
    rw [List.all_cons, Bool.and_eq_true] at hall
    simp [anyNull, hv hall.1, ih hall.2]

theorem exists_known (h : AllHonour vs is) (hany : is.any (·.notNull) = true) :
    ∃ v ∈ vs, v.isNull = false := by
  induction h with
  | nil => cases hany
  | cons hv _ ih =>
    rw [List.any_cons, Bool.or_eq_true] at hany
    rcases hany with hnot | hany
    · exact ⟨_, List.mem_cons_self, hv hnot⟩
    · obtain ⟨v, hv, hknown⟩ := ih hany
      exact ⟨v, List.mem_cons_of_mem _ hv, hknown⟩

theorem ofList (h : AllHonour vs is) : Honours (.list vs) (Inferred.ofList is).notNull :=
  fun hnot => h.anyNull_eq_false (notNull_of_ofList hnot)

/-- A function keeps what is promised of it: the fallback functions need one argument that is not
null, and text functions all of them. -/
theorem ofCall (h : AllHonour vs is) (ρ : SqlRow) (f : Call) (star : Bool) :
    Honours (E.callValue ρ f vs) (Inferred.ofCall f.name is star).notNull := by
  intro hnot
  unfold Inferred.ofCall at hnot
  dsimp only at hnot
  unfold Evaluation.callValue
  split at hnot
  · rename_i hcount
    rw [hcount, if_neg (by decide)]
    exact E.count_known ρ f vs hcount
  split at hnot
  · -- an aggregate over no rows is null
    split at hnot
    · split at hnot <;> cases hnot
    · cases hnot
  split at hnot
  · cases hnot
  split at hnot
  · rename_i hfallback
    rw [if_pos hfallback]
    exact SqlValue.firstKnown_known (h.exists_known hnot)
  rename_i hfallback
  rw [if_neg hfallback]
  split at hnot
  · rename_i htext
    exact E.text_strict ρ f vs htext (h.anyNull_eq_false hnot)
  split at hnot
  · cases hnot
  split at hnot
  · rename_i hclock
    exact E.clock_known ρ f vs hclock
  · cases hnot

end AllHonour

/-- A row of a result honours its columns, as far as both go. -/
def RowHonours : List SqlValue → List ResultColumn → Prop
  | v :: vs, column :: columns => Honours v column.notNull ∧ RowHonours vs columns
  | _, _ => True

namespace RowHonours

variable {vs : List SqlValue} {is : List Inferred} {columns : List ResultColumn}

theorem nil (vs : List SqlValue) : RowHonours vs [] := by cases vs <;> exact trivial

theorem of_forall₂ (h : List.Forall₂ (fun v column => Honours v column.notNull) vs columns) :
    RowHonours vs columns := by
  induction h with
  | nil => exact nil []
  | cons hv _ ih => exact ⟨hv, ih⟩

/-- Columns that are made from others and promise no more are honoured as well. -/
theorem zipWith {β : Type} {f : ResultColumn → β → ResultColumn}
    (hf : ∀ column b, (f column b).notNull = true → column.notNull = true)
    (h : RowHonours vs columns) (bs : List β) : RowHonours vs (List.zipWith f columns bs) := by
  induction columns generalizing vs bs with
  | nil => exact nil vs
  | cons column columns ih =>
    cases bs with
    | nil => exact nil vs
    | cons b bs =>
      cases vs with
      | nil => exact trivial
      | cons v vs => exact ⟨h.1.mono (hf column b), ih h.2 bs⟩

/-- The rows of both sides of a set operation honour its columns. -/
theorem combine_left (h : RowHonours vs columns) (right : List ResultColumn) :
    RowHonours vs (List.zipWith .combine columns right) :=
  h.zipWith (fun _ _ hnot => (Bool.and_eq_true_iff.mp hnot).1) right

theorem combine_right (h : RowHonours vs columns) (left : List ResultColumn) :
    RowHonours vs (List.zipWith .combine left columns) := by
  rw [List.zipWith_comm]
  exact h.zipWith (fun _ _ hnot => (Bool.and_eq_true_iff.mp hnot).2) left

theorem rowColumns (h : AllHonour vs is) (position : Nat) :
    RowHonours vs (rowColumns position is) := by
  induction h generalizing position with
  | nil => exact nil []
  | cons hv _ ih => exact ⟨hv, ih (position + 1)⟩

/-- Further rows of a VALUES take promises back. -/
theorem weakenColumns (h : RowHonours vs columns) (is : List Inferred) :
    RowHonours vs (weakenColumns columns is) := by
  induction columns generalizing vs is with
  | nil => cases is <;> exact nil vs
  | cons column columns ih =>
    cases is with
    | nil => exact h
    | cons i is =>
      cases vs with
      | nil => exact trivial
      | cons v vs => exact ⟨h.1.mono fun hnot => (Bool.and_eq_true_iff.mp hnot).1, ih h.2 is⟩

theorem foldl_weakenColumns (h : RowHonours vs columns) (rows : List (List Inferred)) :
    RowHonours vs (rows.foldl TypedSql.weakenColumns columns) := by
  induction rows generalizing columns with
  | nil => exact h
  | cons row rows ih => exact ih (h.weakenColumns row)

end RowHonours

/-- No promise is left that a further row does not keep. -/
theorem AllHonour.weakenColumns {vs : List SqlValue} {is : List Inferred} (h : AllHonour vs is)
    (columns : List ResultColumn) : RowHonours vs (weakenColumns columns is) := by
  induction h generalizing columns with
  | nil => cases columns <;> exact trivial
  | cons hv _ ih =>
    cases columns with
    | nil => exact .nil _
    | cons column columns =>
      exact ⟨hv.mono fun hnot => (Bool.and_eq_true_iff.mp hnot).2, ih columns⟩

/-- Every row of a VALUES honours its columns. -/
theorem rowHonours_valuesColumns {rows : List (List SqlValue)} {inferred : List (List Inferred)}
    (h : List.Forall₂ AllHonour rows inferred) :
    ∀ row ∈ rows, RowHonours row (valuesColumns inferred) := by
  cases h with
  | nil => exact List.forall_mem_nil _
  | @cons row is rows inferred hrow hrows =>
    refine List.forall_mem_cons.mpr ⟨(RowHonours.rowColumns hrow 1).foldl_weakenColumns _, ?_⟩
    show ∀ row ∈ rows, RowHonours row (inferred.foldl weakenColumns (rowColumns 1 is))
    -- the columns are whatever the rows so far have made of them
    generalize rowColumns 1 is = columns
    induction hrows generalizing columns with
    | nil => exact List.forall_mem_nil _
    | cons hrow _ ih =>
      exact List.forall_mem_cons.mpr
        ⟨(hrow.weakenColumns columns).foldl_weakenColumns _, ih _⟩

/-- With an ELSE a CASE has the value of one of its results. -/
theorem case_known {is : List Inferred} {d : Option Inferred} {branch default : Option SqlValue}
    (hnot : (Inferred.ofBranches (is ++ d.toList) d.isSome).notNull = true)
    (hbranch : ∀ v, branch = some v → Honours v (is.all (·.notNull)))
    (hdefault : AllHonour default.toList d.toList) :
    ((branch.or default).getD .null).isNull = false := by
  obtain ⟨hsome, hall⟩ := Bool.and_eq_true_iff.mp hnot
  rw [List.all_append, Bool.and_eq_true] at hall
  -- a branch that is taken decides, or else the ELSE, which is there if the result is not null
  cases branch with
  | some v => exact hbranch v rfl hall.1
  | none =>
    obtain ⟨i, rfl⟩ := Option.isSome_iff_exists.mp hsome
    cases default with
    | none => cases hdefault
    | some v =>
      cases hdefault with
      | cons hv _ => exact hv (by simpa using hall.2)

/-- A test against a query promises something only of two operands that are not null: the test and
the first column of the query. -/
theorem Evaluation.among_honours {test : Option SqlValue} {i : Option Inferred}
    {rows : List (List SqlValue)} {columns : List ResultColumn}
    (htest : AllHonour test.toList i.toList) (hrows : ∀ row ∈ rows, RowHonours row columns)
    (negated : Bool) :
    Honours (E.among negated (test.getD .null) (rows.filterMap List.head?))
      ((i.map (·.notNull)).getD false && (columns.head?.map (·.notNull)).getD false) := by
  intro hnot
  obtain ⟨hi, hcolumn⟩ := Bool.and_eq_true_iff.mp hnot
  cases i with
  | none => cases hi
  | some i =>
  cases columns with
  | nil => cases hcolumn
  | cons column columns =>
  cases test with
  | none => cases htest
  | some v =>
    cases htest with
    | cons hv _ =>
      refine E.among_known negated (hv hi) (anyNull_eq_false.mpr fun w hw => ?_)
      -- a value to compare with is the first one of a row
      obtain ⟨row, hrow, hhead⟩ := List.mem_filterMap.mp hw
      cases row with
      | nil => cases hhead
      | cons w' ws =>
        cases hhead
        exact (hrows _ hrow).1 hcolumn

/-! ## Expressions and queries -/

variable {E}

namespace Evaluation

/-- The values of placeholders honour the parameters. -/
def Admits (E : Evaluation c) (places : List Parameter) : Prop :=
  ∀ p ∈ places, Honours (E.param p.number) p.notNull

theorem Admits.mono {places places' : List Parameter} (h : E.Admits places')
    (hsub : places ⊆ places') : E.Admits places := fun p hp => h p (hsub hp)

/-- What holds in every row of a scope if the placeholders honour their places. -/
def InRows (E : Evaluation c) (s : Scope) (places : List Parameter) (P : SqlRow → Prop) : Prop :=
  E.Admits places → ∀ ρ : SqlRow, ρ.Respects s → P ρ

namespace InRows

variable {s : Scope} {places places' : List Parameter} {P Q : SqlRow → Prop}

theorem mono (h : E.InRows s places P) (hsub : places ⊆ places') : E.InRows s places' P :=
  fun hadmits => h (hadmits.mono hsub)

theorem imp (h : E.InRows s places P) (hPQ : ∀ ρ, P ρ → Q ρ) : E.InRows s places Q :=
  fun hadmits ρ hρ => hPQ ρ (h hadmits ρ hρ)

end InRows

end Evaluation

/-- The level of a WITH clause holds no columns. -/
theorem SqlRow.Respects.bodyScope {ρ : SqlRow} {s : Scope} (h : ρ.Respects s) (q : Select) :
    ρ.Respects (q.bodyScope c s) := by
  intro qualifiers name column hcolumn
  refine h qualifiers name column ?_
  have hpassed (ctes : List Relation) : (ScopeLevel.mk [] ctes []).resolve qualifiers name =
      .ok none := by
    cases qualifiers <;> rfl
  rw [Select.bodyScope, Scope.resolveName, hpassed] at hcolumn
  exact hcolumn

theorem inferColumn_sound (s : Scope) (hint : Option Hint) (fields : List Node) :
    Traced [] (fun i places => E.InRows s places fun ρ =>
        Honours (E.valueOf s ρ (.column fields)) i.notNull)
      fun f => inferExpr c s hint (.column (renumberAll f fields)) := by
  simp only [inferExpr, endsInStar_renumberAll, Scope.resolve_renumberAll]
  split
  · -- nothing is claimed of a star
    exact .pure fun _ ρ _ => .nullable _
  cases hresolve : s.resolve fields with
  | error e => exact .throw
  | ok column =>
    refine .pure fun _ ρ hρ => ?_
    unfold Scope.resolve at hresolve
    split at hresolve
    · rename_i name hname
      simp only [Evaluation.valueOf, hname]
      exact hρ _ _ _ hresolve
    · cases hresolve

theorem bindParam_sound (s : Scope) (number location : Nat) (hint : Option Hint) :
    Traced [number] (fun i places => E.InRows s places fun ρ =>
        Honours (E.valueOf s ρ (.param number location)) i.notNull)
      fun f => bindParam (f number) hint := by
  refine (bindParam_traced number hint).mono (fun k => Nat.le_refl _) ?_
  rintro i places ⟨rfl, rfl⟩ hadmits ρ -
  have hplace := hadmits _ (List.mem_singleton_self _)
  cases hint with
  | none => exact .nullable _
  | some hint => exact hplace

theorem Evaluation.queryRows_eq (s : Scope) (ρ : SqlRow) (q : Select) :
    E.queryRows s ρ q = E.kept s ρ q (
      if q.operation ≠ .none then
        E.sideRows (q.bodyScope c s) ρ q.left ++ E.sideRows (q.bodyScope c s) ρ q.right
      else if !q.rows.isEmpty then E.valuesRows (q.bodyScope c s) ρ q.rows
      else (E.rows s ρ q).map fun ρ' => E.targetValues (q.rowScope c s) ρ' q.targets) := by
  cases q
  rfl

mutual

/-- **Expressions.** What is inferred not to be null is not null in any row of the scope. -/
theorem inferExpr_sound (s : Scope) (hint : Option Hint) (n : Node) :
    Traced (numbersOf n)
      (fun i places => E.InRows s places fun ρ => Honours (E.valueOf s ρ n) i.notNull)
      fun f => inferExpr c s hint (n.renumber f) := by
  match n with
  | .column fields => exact (inferColumn_sound s hint fields).within fun k => Nat.zero_le _
  | .param number location => exact bindParam_sound s number location hint
  | .literal value =>
    refine .pure fun _ ρ _ hnot => ?_
    cases value <;> first | rfl | cases hnot
  | .logic op args =>
    -- connectives may be known of unknown operands too, but that is not inferred
    refine (inferAll_sound s none args).map fun is places h => h.imp fun ρ hargs hnot => ?_
    exact E.connect_known op (hargs.anyNull_eq_false hnot)
  | .operator name left none => cases left <;> exact .throw
  | .operator name none (some right) =>
    refine (inferExpr_sound s none right).map fun r places h => h.imp fun ρ hright hnot => ?_
    exact E.apply_known_unary name (hright (notNull_of_ofOperator hnot).1)
  | .operator name (some left) (some right) =>
    -- the placeholders of both operands honour their places, whichever operand goes first
    apply Traced.within
    · refine inferBinary_traced name (inferExpr_sound s · left) (inferExpr_sound s · right) ?_
      intro l r placesLeft placesRight places hl hr hsubLeft hsubRight hadmits ρ hρ hnot
      obtain ⟨hrnot, hlnot⟩ := notNull_of_ofOperator hnot
      have hleft := hl (hadmits.mono hsubLeft) ρ hρ hlnot
      have hright := hr (hadmits.mono hsubRight) ρ hρ hrnot
      exact E.apply_known name hleft hright
    · exact fun k => by simp [numbersOf, Numbered.walk]
  | .nullTest arg isNull =>
    exact (inferExpr_tracks s none arg).discard.map fun _ _ _ _ _ _ _ => rfl
  | .cast arg type =>
    refine (inferExpr_sound s _ arg).map fun i places h => h.imp fun ρ harg hnot => ?_
    exact E.cast_strict type _ (harg hnot)
  | .call ⟨name, args, orderBy, filter, window, star, distinct⟩ =>
    refine (inferAll_sound s none args).split
      (numbersOf orderBy ++ numbersOf filter ++ numbersOf window) (fun k => ?_) ?_
    · simp [numbersOf, Numbered.walk]
    intro is places h
    -- the sort keys, the filter and the window bind placeholders, but promise nothing
    apply Traced.within
    · apply Traced.keeping (a := Inferred.ofCall name is star)
      · exact (inferAll_tracks s none orderBy).discard.next fun _ =>
          (inferOption_tracks s none filter).discard.next fun _ =>
          (analyzeOver_tracks s window).map fun _ _ _ => rfl
      · exact fun placesTail => (h.mono (List.subset_append_left ..)).imp fun ρ hargs =>
          hargs.ofCall E ρ _ star
    · exact fun k => by simp
  | .case operand branches default =>
    -- the operand only tells which branch is taken
    refine (inferOption_tracks s none operand).split
      (numbersOf branches ++ numbersOf default) (fun k => ?_) fun i places _ => ?_
    · simp [numbersOf, Numbered.walk]
    apply (inferBranches_sound s _ branches).bind
    intro is placesBranches hbranches
    apply (inferOption_sound s none default).map
    intro d placesDefault hdefault hadmits ρ hρ hnot
    have hadmitsBranches : E.Admits placesBranches := hadmits.mono fun p hp => by simp [hp]
    have hadmitsDefault : E.Admits placesDefault := hadmits.mono fun p hp => by simp [hp]
    exact case_known hnot (hbranches hadmitsBranches ρ hρ _) (hdefault hadmitsDefault ρ hρ)
  | .sublink kind test query negated =>
    refine (analyzeSublink_sound s query).split (numbersOf test) (fun k => ?_) ?_
    · simp [numbersOf, Numbered.walk]
      omega
    intro columns places h
    match kind with
    | .exists => exact (inferOption_tracks s none test).discard.map fun _ _ _ _ _ _ _ => rfl
    | .any =>
      apply (inferOption_sound s _ test).map
      intro i placesTest htest hadmits ρ hρ
      have hadmitsQuery : E.Admits places := hadmits.mono (List.subset_append_left ..)
      have hadmitsTest : E.Admits placesTest := hadmits.mono (List.subset_append_right ..)
      exact E.among_honours (htest hadmitsTest ρ hρ) (h hadmitsQuery ρ hρ) negated
  | .select query =>
    -- a query without rows is null, and nothing else is promised
    refine (analyzeSelect_traced s [] query).split [] (fun k => ?_) fun columns _ _ => ?_
    · simp [numbersOf, Numbered.walk]
    · cases columns <;> exact .pure fun _ _ _ => .nullable _
  | .list items =>
    exact (inferAll_sound s hint items).map fun is places h => h.imp fun ρ => AllHonour.ofList
  | .unsupported construct params =>
    exact (bindAll_tracks params).map fun _ _ _ _ _ _ => .nullable _
  | .schemaChange _ | .insert _ | .update _ | .delete _ | .target .. | .table _ | .derived ..
  | .name _ | .star => exact .throw
termination_by structural n

theorem inferAll_sound (s : Scope) (hint : Option Hint) (ns : List Node) :
    Traced (numbersOf ns)
      (fun is places => E.InRows s places fun ρ => AllHonour (E.valuesOf s ρ ns) is)
      fun f => inferAll c s hint (renumberAll f ns) := by
  match ns with
  | [] => exact .pure fun _ _ _ => .nil
  | n :: ns =>
    refine (inferExpr_sound s hint n).split (numbersOf ns)
      (fun k => by simp [numbersOf, Numbered.walk]) fun i places hi => ?_
    apply (inferAll_sound s hint ns).map
    intro is places' his hadmits ρ hρ
    exact .cons (hi (hadmits.mono (List.subset_append_left ..)) ρ hρ)
      (his (hadmits.mono (List.subset_append_right ..)) ρ hρ)
termination_by structural ns

theorem inferOption_sound (s : Scope) (hint : Option Hint) (n : Option Node) :
    Traced (numbersOf n)
      (fun i places => E.InRows s places fun ρ =>
        AllHonour (E.optionValueOf s ρ n).toList i.toList)
      fun f => inferOption c s hint (renumberOption f n) := by
  match n with
  | none => exact .pure fun _ _ _ => .nil
  | some n =>
    exact (inferExpr_sound s hint n).map fun i places h => h.imp fun ρ hvalue => .cons hvalue .nil
termination_by structural n

/-- Whichever branch is taken, its result is what was inferred of it. -/
theorem inferBranches_sound (s : Scope) (hint : Option Hint) (bs : List Branch) :
    Traced (numbersOf bs)
      (fun is places => E.InRows s places fun ρ => ∀ operand v,
        E.branchValueOf s ρ operand bs = some v → Honours v (is.all (·.notNull)))
      fun f => inferBranches c s hint (renumberBranches f bs) := by
  match bs with
  | [] => exact .pure fun _ _ _ _ _ h => by cases h
  | ⟨condition, result⟩ :: bs =>
    refine (inferExpr_tracks s hint condition).discard.split (numbersOf result ++ numbersOf bs)
      (fun k => by simp [numbersOf, Numbered.walk]) fun _ places _ => ?_
    apply (inferExpr_sound s none result).bind
    intro i placesResult hi
    apply (inferBranches_sound s hint bs).map
    intro is placesRest his hadmits ρ hρ operand v hv hnot
    have hadmitsResult : E.Admits placesResult := hadmits.mono fun p hp => by simp [hp]
    have hadmitsRest : E.Admits placesRest := hadmits.mono fun p hp => by simp [hp]
    rw [List.all_cons, Bool.and_eq_true] at hnot
    rw [Evaluation.branchValueOf] at hv
    -- either the condition of this branch holds, or a later branch is asked
    split at hv
    · cases hv
      exact hi hadmitsResult ρ hρ hnot.1
    · exact his hadmitsRest ρ hρ operand v hv hnot.2
termination_by structural bs

theorem analyzeSublink_sound (s : Scope) (n : Option Node) :
    Traced (numbersOf n)
      (fun columns places => E.InRows s places fun ρ =>
        ∀ row ∈ E.sublinkRows s ρ n, RowHonours row columns)
      fun f => analyzeSublink c s (renumberOption f n) := by
  match n with
  | none => exact .pure fun _ _ _ _ _ => .nil _
  | some n =>
    match n with
    | .select query => exact analyzeSelect_sound s [] query
    -- what is no query has no rows
    | .schemaChange _ | .insert _ | .update _ | .delete _ | .logic .. | .operator .. | .column _
    | .param .. | .sublink .. | .call _ | .cast .. | .nullTest .. | .case .. | .literal _
    | .target .. | .table _ | .derived .. | .list _ | .unsupported .. | .name _ | .star =>
      exact (inferExpr_tracks s none _).discard.map fun _ _ _ _ _ _ _ _ => .nil _
termination_by structural n

/-- **Queries.** No row of a query is null in a column that is not. -/
theorem analyzeSelect_sound (s : Scope) (hints : List Hint) (q : Select) :
    Traced (numbersOf q)
      (fun columns places => E.InRows s places fun ρ =>
        ∀ row ∈ E.queryRows s ρ q, RowHonours row columns)
      fun f => analyzeSelect c s hints (q.renumber f) := by
  match q with
  | ⟨ctes, targets, source, joinConditions, condition, distinctOn, groupBy, having, windows,
      orderBy, limit, offset, rows, operation, all, left, right⟩ =>
    refine select_traced_of (Select.partsTrack s _) (analyzeSide_sound _ hints left)
      (analyzeSide_sound _ hints right) (inferRows_sound _ hints rows)
      (analyzeTargets_sound _ hints 0 targets) ?_ ?_ ?_
    · intro hoperation l r placesLeft placesRight places hl hr _ hsubLeft hsubRight
        hadmits ρ hρ row hrow
      rw [Evaluation.queryRows_eq, if_pos hoperation] at hrow
      -- a row of a set operation is a row of one of its sides
      rcases List.mem_append.mp (E.kept_subset _ _ _ _ hrow) with hrow | hrow
      · exact (hl (hadmits.mono hsubLeft) ρ (hρ.bodyScope _) row hrow).combine_left r
      · exact (hr (hadmits.mono hsubRight) ρ (hρ.bodyScope _) row hrow).combine_right l
    · intro hoperation hsome rowsInferred placesRows places hrows hsub
        hadmits ρ hρ row hrow
      rw [Evaluation.queryRows_eq, if_neg (not_not_intro hoperation),
        if_pos (by simpa using hsome)] at hrow
      exact rowHonours_valuesColumns (hrows (hadmits.mono hsub) ρ (hρ.bodyScope _)) row
        (E.kept_subset _ _ _ _ hrow)
    · intro hoperation hempty columns placesTargets places hcolumns hsub
        hadmits ρ hρ row hrow
      rw [Evaluation.queryRows_eq, if_neg (not_not_intro hoperation),
        if_neg (by simpa using hempty)] at hrow
      -- the select list has its values in a row that fills the scope behind the FROM clause
      obtain ⟨ρ', hρ', rfl⟩ := List.mem_map.mp (E.kept_subset _ _ _ _ hrow)
      exact .of_forall₂ (hcolumns (hadmits.mono hsub) ρ' (E.rows_fill s ρ _ hρ ρ' hρ'))
termination_by structural q

theorem analyzeSide_sound (s : Scope) (hints : List Hint) (q : Option Select) :
    Traced (numbersOf q)
      (fun columns places => E.InRows s places fun ρ =>
        ∀ row ∈ E.sideRows s ρ q, RowHonours row columns)
      fun f => analyzeSide c s hints (renumberSide f q) := by
  match q with
  | none => exact .throw
  | some q => exact analyzeSelect_sound s hints q
termination_by structural q

theorem inferRows_sound (s : Scope) (hints : List Hint) (ns : List Node) :
    Traced (numbersOf ns)
      (fun rows places => E.InRows s places fun ρ =>
        List.Forall₂ AllHonour (E.valuesRows s ρ ns) rows)
      fun f => inferRows c s hints (renumberAll f ns) := by
  match ns with
  | [] => exact .pure fun _ _ _ => .nil
  | n :: rows =>
    match n with
    | .list items =>
      simp only [renumberAll, Node.renumber, inferRows, length_renumberAll]
      -- a row of the wrong length ends the analysis
      split
      · exact .throw_bind
      refine (inferRow_sound s hints items).split (numbersOf rows)
        (fun k => by simp [numbersOf, Numbered.walk]) fun is places hrow => ?_
      apply (inferRows_sound s hints rows).map
      intro rest places' hrest hadmits ρ hρ
      exact .cons (hrow (hadmits.mono (List.subset_append_left ..)) ρ hρ)
        (hrest (hadmits.mono (List.subset_append_right ..)) ρ hρ)
    | .schemaChange _ | .insert _ | .update _ | .delete _ | .logic .. | .operator .. | .column _
    | .param .. | .sublink .. | .call _ | .cast .. | .nullTest .. | .case .. | .literal _
    | .target .. | .table _ | .derived .. | .select _ | .unsupported .. | .name _ | .star =>
      exact .throw
termination_by structural ns

theorem inferRow_sound (s : Scope) (hints : List Hint) (ns : List Node) :
    Traced (numbersOf ns)
      (fun is places => E.InRows s places fun ρ => AllHonour (E.valuesOf s ρ ns) is)
      fun f => inferRow c s hints (renumberAll f ns) := by
  match ns with
  | [] => exact .pure fun _ _ _ => .nil
  | n :: ns =>
    refine (inferExpr_sound s hints.head? n).split (numbersOf ns)
      (fun k => by simp [numbersOf, Numbered.walk]) fun i places hi => ?_
    apply (inferRow_sound s hints.tail ns).map
    intro is places' his hadmits ρ hρ
    exact .cons (hi (hadmits.mono (List.subset_append_left ..)) ρ hρ)
      (his (hadmits.mono (List.subset_append_right ..)) ρ hρ)
termination_by structural ns

theorem analyzeTargets_sound (s : Scope) (hints : List Hint) (position : Nat) (ns : List Node) :
    Traced (numbersOf ns)
      (fun columns places => E.Admits places → ∀ ρ : SqlRow, ρ.Fills s →
        List.Forall₂ (fun v column => Honours v column.notNull) (E.targetValues s ρ ns) columns)
      fun f => analyzeTargets c s hints position (renumberAll f ns) := by
  match ns with
  | [] => exact .pure fun _ _ _ => .nil
  | n :: ns =>
    match n with
    | .target name (some value) location =>
      simp only [renumberAll, Node.renumber, renumberOption, analyzeTargets,
        Node.starQualifiers?_renumber, defaultName_renumber, Evaluation.targetValues]
      cases value.starQualifiers? with
      -- the columns of a star are honoured by the values that the row fills the scope with
      | some qualifiers =>
        dsimp only
        cases hstar : s.expandStar qualifiers with
        | error e => exact .throw
        | ok columns =>
          refine ((analyzeTargets_sound s hints _ ns).map ?_).mono (fun k => ?_) fun _ _ => id
          · intro rest places hrest hadmits ρ hρ
            exact List.rel_append (hρ.star qualifiers columns hstar) (hrest hadmits ρ hρ)
          · simp [numbersOf, Numbered.walk]
            omega
      | none =>
        refine (inferExpr_sound s _ value).split (numbersOf ns)
          (fun k => by simp [numbersOf, Numbered.walk]) fun i places hi => ?_
        apply (analyzeTargets_sound s hints _ ns).map
        intro rest places' hrest hadmits ρ hρ
        exact .cons (hi (hadmits.mono (List.subset_append_left ..)) ρ hρ.respects)
          (hrest (hadmits.mono (List.subset_append_right ..)) ρ hρ)
    | .target name none location => exact .throw
    | .schemaChange _ | .insert _ | .select _ | .update _ | .delete _ | .logic .. | .operator ..
    | .column _ | .param .. | .sublink .. | .call _ | .cast .. | .nullTest .. | .case ..
    | .literal _ | .table _ | .derived .. | .list _ | .unsupported .. | .name _ | .star =>
      exact .failed (fun _ => rfl) ⟨_, rfl⟩
termination_by structural ns

end

/-! ## Statements -/

/-- The only place of a number decides about it. -/
theorem deciding?_eq_some {places : List Parameter} {p : Parameter} (hp : p ∈ places)
    (honly : ∀ q ∈ places, q.number = p.number → q = p) :
    deciding? places p.number = some p := by
  -- whichever rule decides, it picks one of the places of the number, and there is only this one
  have hown : ∀ q ∈ places.filter (·.number = p.number), q = p := fun q hq => by
    obtain ⟨hq, hnumber⟩ := List.mem_filter.mp hq
    exact honly q hq (by simpa using hnumber)
  have hmem : p ∈ places.filter (·.number = p.number) := List.mem_filter.mpr ⟨hp, by simp⟩
  unfold deciding?
  dsimp only
  cases htyped : (places.filter (·.number = p.number)).find? (!·.type.isOpaque) with
  | some q => exact congrArg some (hown q (List.mem_of_find?_eq_some htyped))
  | none =>
    cases hall : places.filter (·.number = p.number) with
    | nil => rw [hall] at hmem; cases hmem
    | cons q qs => exact congrArg some (hown q (hall ▸ List.mem_cons_self))

/-- A place whose number stands nowhere else is the parameter of its number in the end. -/
theorem Bindings.find?_recordAll_of_apart {before : Bindings} {places later : List Parameter}
    (hapart : (places.map Parameter.number).Nodup) {p : Parameter} (hp : p ∈ places)
    (hbefore : before.find? p.number = none) (hlater : ∀ q ∈ later, q.number ≠ p.number) :
    ((before.recordAll places).recordAll later).find? p.number = some p := by
  rw [← Bindings.recordAll_append, Bindings.find?_recordAll, hbefore]
  show deciding? (places ++ later) p.number = some p
  refine deciding?_eq_some (List.mem_append_left _ hp) fun q hq hnumber => ?_
  rcases List.mem_append.mp hq with hq | hq
  · exact List.inj_on_of_nodup_map hapart hq hp hnumber
  · exact absurd hnumber (hlater q hq)

variable (E)

/-- **Nullability is sound.** Let an expression be inferred in a statement in which its placeholders
stand nowhere else: they were not bound `before`, and nothing that is bound `later` has their
numbers. In every evaluation in which the placeholders honour the parameters of the statement, and
in every row that respects the scope, the expression is not null if it is inferred not to be. -/
theorem valueOf_known {s : Scope} {hint : Option Hint} {n : Node} {i : Inferred}
    {before bound : Bindings} (hrun : (inferExpr c s hint n).run before = .ok (i, bound))
    (hapart : n.numbers.Nodup) (hbefore : ∀ k ∈ n.numbers, before.find? k = none)
    {later : List Parameter} (hlater : ∀ p ∈ later, p.number ∉ n.numbers)
    (hparams : E.Admits (bound.recordAll later)) {ρ : SqlRow} (hρ : ρ.Respects s)
    (hnot : i.notNull = true) : (E.valueOf s ρ n).isNull = false := by
  obtain ⟨places, hsound, hwithin, rfl⟩ := (inferExpr_sound s hint n).of_run n.renumberable hrun
  refine hsound (fun p hp => hparams p ?_) ρ hρ hnot
  -- nothing else is bound to the number of the place, so the place is the parameter
  have hmem : p.number ∈ n.numbers := hwithin.mem (List.mem_map_of_mem hp)
  have hfound : ((before.recordAll places).recordAll later).find? p.number = some p :=
    Bindings.find?_recordAll_of_apart (nodup_of_within hwithin hapart) hp (hbefore _ hmem)
      fun q hq heq => hlater q hq (heq ▸ hmem)
  exact List.mem_of_find?_eq_some hfound

/-- The relations of `FROM t`, where the column `a` of the table can be null. -/
def nullableScope : Scope :=
  [.ofRelations [.ofTable ⟨.qualified "public" "t", [⟨"a", .named "int", false⟩]⟩ none false]]

/-- The expression `CASE WHEN a IN (1, $1::int) THEN $2::int ELSE coalesce(a, 0) END`. -/
def caseOfNullable : Node :=
  .case none
    [⟨.operator "in" (some (.column [.name "a"]))
        (some (.list [.literal (.integer "1"), .cast (.param 1 17) (.named "int")])),
      .cast (.param 2 34) (.named "int")⟩]
    (some (.call ⟨"coalesce", [.column [.name "a"], .literal (.integer "0")], [], none, none, false,
      false⟩))

theorem valueOf_known_caseOfNullable :
    ∃ i bound, (inferExpr nullableTable nullableScope none caseOfNullable).run [] = .ok (i, bound) ∧
      i.notNull = true ∧
      ((Evaluation.sparse nullableTable fun _ => .datum "7").valueOf nullableScope
        (.sparse nullableScope) caseOfNullable).isNull = false := by
  have hrun : (inferExpr nullableTable nullableScope none caseOfNullable).run [] =
      .ok (.named "int" true,
        [⟨1, none, .named "int", true⟩, ⟨2, none, .named "int", true⟩]) := by rfl
  refine ⟨_, _, hrun, rfl, ?_⟩
  refine valueOf_known _ hrun (by decide) (fun _ _ => rfl) (List.forall_mem_nil _)
    (fun p _ _ => rfl) (SqlRow.sparse_fills _).respects rfl

/-- No row of a query that is a statement is null in a result column that is not. -/
theorem rowHonours_of_analyze {q : Select} {a : Analysis} (hrun : analyze c (.select q) = .ok a)
    (hapart : (Node.select q).numbers.Nodup) (hpos : ∀ k ∈ (Node.select q).numbers, 0 < k)
    (hparams : E.Admits a.params) (ρ : SqlRow) :
    ∀ row ∈ E.queryRows [] ρ q, RowHonours row a.columns := by
  have hstatement : (analyzeStatement c (.select q)).run [] =
      (analyzeSelect c [] [] q).run [] >>= fun x => .ok ((x.1, none), x.2) := rfl
  rw [analyze, hstatement] at hrun
  cases hselect : (analyzeSelect c [] [] q).run [] with
  | error e => rw [hselect] at hrun; cases hrun
  | ok x =>
    obtain ⟨columns, bound⟩ := x
    rw [hselect] at hrun
    cases hrun
    obtain ⟨places, hsound, hwithin, rfl⟩ :=
      (analyzeSelect_sound (E := E) [] [] q).of_run q.renumberable hselect
    rw [← Node.numbers_select] at hwithin
    refine hsound (fun p hp => hparams p ?_) ρ fun _ _ _ h => ?_
    · have hmem : p.number ∈ (Node.select q).numbers := hwithin.mem (List.mem_map_of_mem hp)
      have hfound : ((Bindings.recordAll [] places).recordAll []).find? p.number = some p :=
        Bindings.find?_recordAll_of_apart (nodup_of_within hwithin hapart) hp rfl
          (List.forall_mem_nil _)
      have hbetween : 1 ≤ p.number ∧ p.number < 1 + greatestParam (.select q) :=
        ⟨hpos _ hmem, by have := le_greatestParam hmem; omega⟩
      refine List.mem_map.mpr ⟨p.number, List.mem_range'_1.mpr hbetween, ?_⟩
      exact congrArg (·.getD (.unknown p.number)) hfound
    · -- outside all queries no name means a column
      unfold Scope.resolveName at h
      split at h <;> cases h

end TypedSql
