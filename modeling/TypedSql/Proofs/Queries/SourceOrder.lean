import Mathlib.Data.List.Nodup
import TypedSql.Proofs.Analysis.Resolution
import TypedSql.Proofs.Queries.StarExpansion

/-!
# The order of a FROM clause

No item of a FROM clause sees the others, and a name that several of them could mean is rejected
instead of being taken from the first one. So a query has the same columns whatever the order of the
items is, unless one of its stars tells them in that order.

- **Steps**: analyses that have related answers, or both fail
- **Scopes**: scopes in which the same names are answered alike
- **Constructs**: one statement for each function of the analysis
- **Items**: FROM clauses with the same items
-/

namespace TypedSql

open Canonical

variable {α β γ δ : Type}

/-! ## Steps -/

/-- Results with the same answer, or both without one. -/
theorem ok_or_error {ε : Type} {r r' : Except ε α} (h : r.toOption = r'.toOption) :
    (∃ a, r = .ok a ∧ r' = .ok a) ∨ ∃ e e', r = .error e ∧ r' = .error e' := by
  match r, r' with
  | .ok a, .ok a' => exact .inl ⟨a, rfl, congrArg Except.ok (Option.some.inj h).symm⟩
  | .error e, .error e' => exact .inr ⟨e, e', rfl, rfl⟩
  | .ok _, .error _ | .error _, .ok _ => cases h

/-- Two steps concur: whatever is bound before them, they have related answers, or both fail. The
errors need not be the same. -/
def Concur (R : α → β → Prop) (m : AnalysisM α) (m' : AnalysisM β) : Prop :=
  ∀ bs bs', Option.Rel R (answerFrom bs m).toOption (answerFrom bs' m').toOption

namespace Concur

variable {R : α → β → Prop} {Q : γ → δ → Prop} {m : AnalysisM α} {m' : AnalysisM β}
  {f : α → AnalysisM γ} {f' : β → AnalysisM δ}

theorem pure {a : α} {b : β} (h : R a b) : Concur R (Pure.pure a) (Pure.pure b) :=
  fun _ _ => .some h

theorem throw (e e' : AnalysisError) :
    Concur R (MonadExcept.throw e) (MonadExcept.throw e') := fun _ _ => .none

theorem throw_bind (e e' : AnalysisError) : Concur Q (MonadExcept.throw e >>= f)
    (MonadExcept.throw e' >>= f') := fun _ _ => .none

theorem bind (hm : Concur R m m') (hf : ∀ a a', R a a' → Concur Q (f a) (f' a')) :
    Concur Q (m >>= f) (m' >>= f') := by
  intro bs bs'
  have h := hm bs bs'
  simp only [answerFrom, StateT.run_bind] at h ⊢
  rcases hr : m.run bs with e | ⟨a, cs⟩ <;> rcases hr' : m'.run bs' with e' | ⟨a', cs'⟩ <;>
    rw [hr, hr'] at h
  · exact .none
  · cases h
  · cases h
  · -- both runs go on from their answers
    cases h with
    | some h => exact hf a a' h cs cs'

/-- After steps with the same answer. -/
theorem next {m' : AnalysisM α} {f' : α → AnalysisM δ} (hm : Concur Eq m m')
    (hf : ∀ a, Concur Q (f a) (f' a)) : Concur Q (m >>= f) (m' >>= f') :=
  hm.bind fun a _ h => h ▸ hf a

/-- Steps that are taken for their bindings only. -/
theorem discard (hm : Concur R m m') :
    Concur Eq (Functor.discard m) (Functor.discard m') := hm.bind fun _ _ _ => pure rfl

theorem toOption_eq {m' : AnalysisM α} (h : Concur Eq m m') (bs bs' : Bindings) :
    (answerFrom bs m).toOption = (answerFrom bs' m').toOption := by
  have hrel := h bs bs'
  generalize (answerFrom bs m).toOption = o at hrel ⊢
  generalize (answerFrom bs' m').toOption = o' at hrel ⊢
  cases hrel with
  | some h => exact congrArg some h
  | none => rfl

theorem trans {S : β → γ → Prop} {T : α → γ → Prop} {m'' : AnalysisM γ} (h : Concur R m m')
    (h' : Concur S m' m'') (hT : ∀ a b c, R a b → S b c → T a c) : Concur T m m'' := by
  intro bs bs'
  have hfirst := h bs []
  -- only what both answers come to is left, whatever has been bound before
  have hsecond := h' [] bs'
  generalize (answerFrom bs m).toOption = o at hfirst ⊢
  generalize (answerFrom [] m').toOption = o' at hfirst hsecond
  generalize (answerFrom bs' m'').toOption = o'' at hsecond ⊢
  cases hfirst with
  | none =>
    cases hsecond
    exact .none
  | some hR =>
    cases hsecond with
    | some hS => exact .some (hT _ _ _ hR hS)

/-- A step that settles concurs with itself. -/
theorem refl {numbers : List Nat} (h : Settles numbers m) : Concur Eq m m := by
  obtain ⟨r, hr, -⟩ := h
  intro bs bs'
  rw [hr.answerFrom_eq, hr.answerFrom_eq]
  cases r with
  | ok x => exact .some rfl
  | error e => exact .none

/-- The order of two steps that settle does not matter. -/
theorem swap {numbers numbers' : List Nat} {k : AnalysisM β} {g : α → β → AnalysisM γ}
    {g' : β → α → AnalysisM δ} (hm : Settles numbers m) (hk : Settles numbers' k)
    (hg : ∀ a b, Concur Q (g a b) (g' b a)) :
    Concur Q (m >>= fun a => k >>= fun b => g a b) (k >>= fun b => m >>= fun a => g' b a) := by
  obtain ⟨r, hr, -⟩ := hm
  obtain ⟨r', hr', -⟩ := hk
  -- if either is rejected, both orders are, though perhaps with another error
  intro bs bs'
  cases r with
  | error e =>
    cases r' with
    | error e' =>
      rw [hr.bind_error.answerFrom_eq, hr'.bind_error.answerFrom_eq]
      exact .none
    | ok y =>
      rw [hr.bind_error.answerFrom_eq, hr'.answerFrom_next, hr.bind_error.answerFrom_eq]
      exact .none
  | ok x =>
    cases r' with
    | error e' =>
      rw [hr.answerFrom_next, hr'.bind_error.answerFrom_eq, hr'.bind_error.answerFrom_eq]
      exact .none
    | ok y =>
      -- bindings made on the way do not change what comes after them
      rw [hr.answerFrom_next, hr'.answerFrom_next, hr'.answerFrom_next, hr.answerFrom_next]
      exact hg _ _ _ _

/-- What the first of two steps always answers can be asked of it. -/
theorem and_left {P : α → Prop} (h : Concur R m m') (hm : Meets (fun _ => True) P m) :
    Concur (fun a b => P a ∧ R a b) m m' := by
  intro bs bs'
  have hrel := h bs bs'
  have hanswer := hm bs
  simp only [answerFrom] at hrel ⊢
  rcases hr : m.run bs with e | x <;> rcases hr' : m'.run bs' with e' | x' <;>
    rw [hr, hr'] at hrel <;> rw [hr] at hanswer
  · exact .none
  · cases hrel
  · cases hrel
  · cases hrel with
    | some hrel => exact .some ⟨hanswer, hrel⟩

end Concur

/-! ## Scopes -/

/-- Two scopes are interchangeable: every reference is answered with the same column in both or
rejected in both, and the queries of their WITH clauses are the same. -/
structure Scope.Interchangeable (s s' : Scope) : Prop where
  columns : ∀ qualifiers name,
    (s.resolveName qualifiers name).toOption = (s'.resolveName qualifiers name).toOption
  ctes : ∀ name, s.findCte? name = s'.findCte? name

/-- Levels that have the same relations, in any order, answer a reference alike. -/
theorem ScopeLevel.resolve_perm {l l' : ScopeLevel} (h : l.relations.Perm l'.relations)
    (houtputs : l.outputs = l'.outputs) (qualifiers : List String) (name : String) :
    (l.resolve qualifiers name).toOption = (l'.resolve qualifiers name).toOption := by
  have hcandidates : (l.candidates qualifiers name).Perm (l'.candidates qualifiers name) := by
    rw [candidates, candidates, selected, selected]
    by_cases hqualifiers : qualifiers = []
    · simpa only [if_pos hqualifiers] using h.filter _
    · simpa only [if_neg hqualifiers] using h.filter _
  rw [resolve_eq, resolve_eq, houtputs]
  generalize l.candidates qualifiers name = rs at hcandidates
  generalize l'.candidates qualifiers name = rs' at hcandidates
  -- several candidates are rejected in any order, and one or none has no other order
  rcases rs with _ | ⟨r, _ | ⟨r₂, rs⟩⟩
  · rw [List.nil_perm.mp hcandidates]
  · rw [List.singleton_perm.mp hcandidates]
  · rcases rs' with _ | ⟨r', _ | ⟨r₂', rs'⟩⟩
    · exact absurd hcandidates.length_eq (by simp)
    · exact absurd hcandidates.length_eq (by simp)
    · rfl

namespace Scope.Interchangeable

variable {s s' : Scope}

theorem refl (s : Scope) : s.Interchangeable s := ⟨fun _ _ => rfl, fun _ => rfl⟩

/-- Levels that answer every reference alike, in front of interchangeable scopes. -/
theorem cons {l l' : ScopeLevel} (h : s.Interchangeable s')
    (hl : ∀ qualifiers name,
      (l.resolve qualifiers name).toOption = (l'.resolve qualifiers name).toOption)
    (hctes : l.ctes = l'.ctes) : Interchangeable (l :: s) (l' :: s') where
  columns qualifiers name := by
    rw [resolveName, resolveName]
    obtain ⟨found, hr, hr'⟩ | ⟨e, e', hr, hr'⟩ := ok_or_error (hl qualifiers name) <;> rw [hr, hr']
    · cases found with
      | none => exact h.columns qualifiers name
      | some column => rfl
    · rfl
  ctes name := by rw [findCte?, findCte?, List.findSome?_cons, List.findSome?_cons, hctes,
    ← findCte?, ← findCte?, h.ctes]

theorem push (h : s.Interchangeable s') (l : ScopeLevel) : Interchangeable (l :: s) (l :: s') :=
  h.cons (fun _ _ => rfl) rfl

theorem resolve (h : s.Interchangeable s') (fields : List Node) :
    (s.resolve fields).toOption = (s'.resolve fields).toOption := by
  simp only [Scope.resolve]
  cases columnName? fields with
  | some name => exact h.columns _ name
  | none => rfl

end Scope.Interchangeable

/-! ## Constructs -/

variable {c : Catalog} {s s' : Scope}

/-- Two scopes tell the same for each star of a select list, or both reject it. -/
def StarsAlike (s s' : Scope) (ns : List Node) : Prop :=
  ∀ name value location qualifiers, .target name (some value) location ∈ ns →
    value.starQualifiers? = some qualifiers →
      (s.expandStar qualifiers).toOption = (s'.expandStar qualifiers).toOption

theorem starsAlike_of_relations (h : s.relations = s'.relations) (ns : List Node) :
    StarsAlike s s' ns := fun _ _ _ qualifiers _ _ => by
  rw [expandStar_congr h.symm]

/-- What stands behind a FROM clause concurs if the parts of it do, wherever these stand. -/
theorem analyzeClauses_concur_of {rs rs' : List Relation} {hints : List Hint} {q : Select}
    (h : ∀ outputs, Scope.Interchangeable (⟨rs, [], outputs⟩ :: s) (⟨rs', [], outputs⟩ :: s'))
    (htargets : ∀ {inner inner'}, inner = .ofRelations rs :: s → inner' = .ofRelations rs' :: s' →
      Scope.Interchangeable inner inner' →
        Concur Eq (analyzeTargets c inner hints 0 q.targets)
          (analyzeTargets c inner' hints 0 q.targets))
    (hwindows : ∀ {s s'}, Scope.Interchangeable s s' →
      Concur Eq (analyzeWindows c s q.windows) (analyzeWindows c s' q.windows))
    (hall : ∀ ns ∈ [q.joinConditions, q.distinctOn, q.groupBy, q.orderBy],
      ∀ {s s'}, Scope.Interchangeable s s' →
        Concur Eq (inferAll c s none ns) (inferAll c s' none ns))
    (hoption : ∀ n ∈ [q.condition, q.having, q.limit, q.offset],
      ∀ {s s'}, Scope.Interchangeable s s' → ∀ hint,
        Concur Eq (inferOption c s hint n) (inferOption c s' hint n)) :
    Concur Eq (analyzeClauses c (.ofRelations rs :: s) hints q)
      (analyzeClauses c (.ofRelations rs' :: s') hints q) := by
  simp only [List.mem_cons, List.not_mem_nil, or_false, forall_eq_or_imp, forall_eq] at hall hoption
  obtain ⟨hjoins, hdistinctOn, hgroupBy, horderBy⟩ := hall
  obtain ⟨hcondition, hhaving, hlimit, hoffset⟩ := hoption
  refine (hjoins (h [])).discard.next fun _ => (hcondition (h []) none).discard.next fun _ =>
    (htargets rfl rfl (h [])).next fun columns => ?_
  -- from here on names may also mean columns of the result, which are the same
  have h := h columns
  exact (hdistinctOn h).discard.next fun _ => (hgroupBy h).discard.next fun _ =>
    (hhaving h none).discard.next fun _ => (hwindows h).next fun _ =>
    (horderBy h).discard.next fun _ => (hlimit h _).discard.next fun _ =>
    (hoffset h _).discard.next fun _ => .pure rfl

theorem combineColumns_concur (left right : List ResultColumn) :
    Concur Eq (combineColumns left right) (combineColumns left right) := by
  rw [combineColumns]
  split
  · exact .pure rfl
  · exact .throw _ _

mutual

theorem inferExpr_concur {s s' : Scope} (h : s.Interchangeable s') (hint : Option Hint) (n : Node) :
    Concur Eq (inferExpr c s hint n) (inferExpr c s' hint n) := by
  match n with
  | .column fields =>
    simp only [inferExpr]
    split
    · exact .pure rfl
    · obtain ⟨column, hr, hr'⟩ | ⟨e, e', hr, hr'⟩ := ok_or_error (h.resolve fields) <;> rw [hr, hr']
      · exact .pure rfl
      · exact .throw e e'
  | .param number location =>
    -- what is bound depends on the hint, and not on the scope
    exact .refl ((inferExpr_tracks s hint _).settles (Node.renumberable _))
  | .literal value => exact .pure rfl
  | .logic op args =>
    exact (inferAll_concur h none args).next fun _ => .pure rfl
  | .operator name left none => cases left <;> exact .throw _ _
  | .operator name none (some right) =>
    exact (inferExpr_concur h none right).next fun _ => .pure rfl
  | .operator name (some left) (some right) =>
    simp only [inferExpr]
    split
    · exact (inferExpr_concur h none right).next fun _ =>
        (inferExpr_concur h _ left).next fun _ => .pure rfl
    · exact (inferExpr_concur h none left).next fun _ =>
        (inferExpr_concur h _ right).next fun _ => .pure rfl
  | .nullTest arg isNull =>
    exact (inferExpr_concur h none arg).discard.next fun _ => .pure rfl
  | .cast arg type =>
    exact (inferExpr_concur h _ arg).next fun _ => .pure rfl
  | .call ⟨name, args, orderBy, filter, window, star, distinct⟩ =>
    exact (inferAll_concur h none args).next fun _ =>
      (inferAll_concur h none orderBy).discard.next fun _ =>
      (inferOption_concur h none filter).discard.next fun _ =>
      (analyzeOver_concur h window).next fun _ => .pure rfl
  | .case operand branches default =>
    exact (inferOption_concur h none operand).next fun _ =>
      (inferBranches_concur h _ branches).next fun _ =>
      (inferOption_concur h none default).next fun _ => .pure rfl
  | .sublink kind test query negated =>
    refine (analyzeSublink_concur h query).next fun columns => ?_
    cases kind
    case «exists» => exact (inferOption_concur h none test).discard.next fun _ => .pure rfl
    case any => exact (inferOption_concur h _ test).next fun _ => .pure rfl
  | .select query =>
    exact (analyzeSelect_concur h [] query).next fun _ => .pure rfl
  | .list items => exact (inferAll_concur h hint items).next fun _ => .pure rfl
  | .unsupported construct params =>
    exact .refl ((inferExpr_tracks s hint _).settles (Node.renumberable _))
  | .schemaChange _ | .insert _ | .update _ | .delete _ | .target .. | .table _ | .derived ..
  | .name _ | .star => exact .throw _ _
termination_by structural n

theorem inferAll_concur {s s' : Scope} (h : s.Interchangeable s') (hint : Option Hint)
    (ns : List Node) : Concur Eq (inferAll c s hint ns) (inferAll c s' hint ns) := by
  match ns with
  | [] => exact .pure rfl
  | n :: ns =>
    exact (inferExpr_concur h hint n).next fun _ =>
      (inferAll_concur h hint ns).next fun _ => .pure rfl
termination_by structural ns

theorem inferOption_concur {s s' : Scope} (h : s.Interchangeable s') (hint : Option Hint)
    (n : Option Node) : Concur Eq (inferOption c s hint n) (inferOption c s' hint n) := by
  match n with
  | none => exact .pure rfl
  | some n => exact (inferExpr_concur h hint n).next fun _ => .pure rfl
termination_by structural n

theorem inferBranches_concur {s s' : Scope} (h : s.Interchangeable s') (hint : Option Hint)
    (bs : List Branch) : Concur Eq (inferBranches c s hint bs) (inferBranches c s' hint bs) := by
  match bs with
  | [] => exact .pure rfl
  | ⟨condition, result⟩ :: bs =>
    exact (inferExpr_concur h hint condition).discard.next fun _ =>
      (inferExpr_concur h none result).next fun _ =>
      (inferBranches_concur h hint bs).next fun _ => .pure rfl
termination_by structural bs

theorem analyzeSublink_concur {s s' : Scope} (h : s.Interchangeable s') (n : Option Node) :
    Concur Eq (analyzeSublink c s n) (analyzeSublink c s' n) := by
  match n with
  | none => exact .pure rfl
  | some n =>
    match n with
    | .select query => exact analyzeSelect_concur h [] query
    | .schemaChange _ | .insert _ | .update _ | .delete _ | .logic .. | .operator .. | .column _
    | .param .. | .sublink .. | .call _ | .cast .. | .nullTest .. | .case .. | .literal _
    | .target .. | .table _ | .derived .. | .list _ | .unsupported .. | .name _ | .star =>
      exact (inferExpr_concur h none _).discard.next fun _ => .pure rfl
termination_by structural n

theorem analyzeOver_concur {s s' : Scope} (h : s.Interchangeable s') (w : Option Window) :
    Concur Eq (analyzeOver c s w) (analyzeOver c s' w) := by
  match w with
  | none => exact .pure rfl
  | some w => exact analyzeWindow_concur h w
termination_by structural w

theorem analyzeWindow_concur {s s' : Scope} (h : s.Interchangeable s') (w : Window) :
    Concur Eq (analyzeWindow c s w) (analyzeWindow c s' w) := by
  match w with
  | ⟨name, base, partitionBy, orderBy, startOffset, endOffset⟩ =>
    exact (inferAll_concur h none partitionBy).discard.next fun _ =>
      (inferAll_concur h none orderBy).discard.next fun _ =>
      (inferOption_concur h _ startOffset).discard.next fun _ =>
      (inferOption_concur h _ endOffset).discard
termination_by structural w

theorem analyzeWindows_concur {s s' : Scope} (h : s.Interchangeable s') (ws : List Window) :
    Concur Eq (analyzeWindows c s ws) (analyzeWindows c s' ws) := by
  match ws with
  | [] => exact .pure rfl
  | w :: ws => exact (analyzeWindow_concur h w).next fun _ => analyzeWindows_concur h ws
termination_by structural ws

theorem analyzeSelect_concur {s s' : Scope} (h : s.Interchangeable s') (hints : List Hint)
    (q : Select) : Concur Eq (analyzeSelect c s hints q) (analyzeSelect c s' hints q) := by
  match q with
  | ⟨ctes, targets, source, joinConditions, condition, distinctOn, groupBy, having, windows,
      orderBy, limit, offset, rows, operation, all, left, right⟩ =>
    rw [analyzeSelect_eq, analyzeSelect_eq]
    refine (analyzeCtes_concur h [] ctes).next fun defined => ?_
    have h := h.push ⟨[], defined, []⟩
    simp only [analyzeBody]
    -- one side of a set operation, the rows of a VALUES list, and the clauses of a plain query
    split
    · split
      · exact .throw_bind _ _
      · refine (analyzeSide_concur h hints left).next fun leftColumns =>
          (analyzeSide_concur h hints right).next fun rightColumns =>
          (combineColumns_concur leftColumns rightColumns).next fun columns => ?_
        exact (inferAll_concur (h.push _) none orderBy).discard.next fun _ =>
          (inferOption_concur (h.push _) _ limit).discard.next fun _ =>
          (inferOption_concur (h.push _) _ offset).discard.next fun _ => .pure rfl
    · split
      · exact (inferRows_concur h hints rows).next fun _ =>
          (inferOption_concur h _ limit).discard.next fun _ =>
          (inferOption_concur h _ offset).discard.next fun _ => .pure rfl
      · refine (analyzeSources_concur h source).next fun relations => ?_
        refine analyzeClauses_concur_of (q := ⟨ctes, targets, source, joinConditions, condition,
            distinctOn, groupBy, having, windows, orderBy, limit, offset, rows, operation, all,
            left, right⟩) (fun outputs => h.push _)
          (fun hs hs' h => analyzeTargets_concur h
            (starsAlike_of_relations (by rw [hs, hs']; rfl) targets) hints 0)
          (fun h => analyzeWindows_concur h windows) ?_ ?_
        · simp only [List.mem_cons, List.not_mem_nil, or_false, forall_eq_or_imp, forall_eq]
          exact ⟨fun h => inferAll_concur h none joinConditions,
            fun h => inferAll_concur h none distinctOn, fun h => inferAll_concur h none groupBy,
            fun h => inferAll_concur h none orderBy⟩
        · simp only [List.mem_cons, List.not_mem_nil, or_false, forall_eq_or_imp, forall_eq]
          exact ⟨fun h hint => inferOption_concur h hint condition,
            fun h hint => inferOption_concur h hint having,
            fun h hint => inferOption_concur h hint limit,
            fun h hint => inferOption_concur h hint offset⟩
termination_by structural q

theorem analyzeSide_concur {s s' : Scope} (h : s.Interchangeable s') (hints : List Hint)
    (q : Option Select) : Concur Eq (analyzeSide c s hints q) (analyzeSide c s' hints q) := by
  match q with
  | none => exact .throw _ _
  | some q => exact analyzeSelect_concur h hints q
termination_by structural q

theorem analyzeCtes_concur {s s' : Scope} (h : s.Interchangeable s') (defined : List Relation)
    (qs : List NamedQuery) :
    Concur Eq (analyzeCtes c s defined qs) (analyzeCtes c s' defined qs) := by
  match qs with
  | [] => exact .pure rfl
  | ⟨name, n⟩ :: qs =>
    match n with
    | .select query =>
      exact (analyzeSelect_concur (h.push _) [] query).next fun _ => analyzeCtes_concur h _ qs
    | .schemaChange _ | .insert _ | .update _ | .delete _ | .logic .. | .operator .. | .column _
    | .param .. | .sublink .. | .call _ | .cast .. | .nullTest .. | .case .. | .literal _
    | .target .. | .table _ | .derived .. | .list _ | .unsupported .. | .name _ | .star =>
      exact .throw _ _
termination_by structural qs

theorem inferRows_concur {s s' : Scope} (h : s.Interchangeable s') (hints : List Hint)
    (ns : List Node) : Concur Eq (inferRows c s hints ns) (inferRows c s' hints ns) := by
  match ns with
  | [] => exact .pure rfl
  | n :: rows =>
    match n with
    | .list items =>
      simp only [inferRows]
      split
      · exact .throw_bind _ _
      · exact (inferRow_concur h hints items).next fun _ =>
          (inferRows_concur h hints rows).next fun _ => .pure rfl
    | .schemaChange _ | .insert _ | .update _ | .delete _ | .logic .. | .operator .. | .column _
    | .param .. | .sublink .. | .call _ | .cast .. | .nullTest .. | .case .. | .literal _
    | .target .. | .table _ | .derived .. | .select _ | .unsupported .. | .name _ | .star =>
      exact .throw _ _
termination_by structural ns

theorem inferRow_concur {s s' : Scope} (h : s.Interchangeable s') (hints : List Hint)
    (ns : List Node) : Concur Eq (inferRow c s hints ns) (inferRow c s' hints ns) := by
  match ns with
  | [] => exact .pure rfl
  | n :: ns =>
    exact (inferExpr_concur h _ n).next fun _ => (inferRow_concur h _ ns).next fun _ => .pure rfl
termination_by structural ns

theorem analyzeSource_concur {s s' : Scope} (h : s.Interchangeable s') (n : Node) :
    Concur Eq (analyzeSource c s n) (analyzeSource c s' n) := by
  match n with
  | .table t =>
    -- of a scope, a table only looks at the queries of WITH clauses
    have hsame : analyzeSource c s (.table t) = analyzeSource c s' (.table t) := by
      simp only [analyzeSource, h.ctes]
    rw [hsame]
    exact .refl (analyzeSource_settles c s' (.table t))
  | .derived query aliasName nullable =>
    match query with
    | .select query => exact (analyzeSelect_concur h [] query).next fun _ => .pure rfl
    | .schemaChange _ | .insert _ | .update _ | .delete _ | .logic .. | .operator .. | .column _
    | .param .. | .sublink .. | .call _ | .cast .. | .nullTest .. | .case .. | .literal _
    | .target .. | .table _ | .derived .. | .list _ | .unsupported .. | .name _ | .star =>
      exact .throw _ _
  | .unsupported construct params => exact .refl (analyzeSource_settles c s _)
  | .schemaChange _ | .insert _ | .select _ | .update _ | .delete _ | .logic .. | .operator ..
  | .column _ | .param .. | .sublink .. | .call _ | .cast .. | .nullTest .. | .case .. | .literal _
  | .target .. | .list _ | .name _ | .star => exact .throw _ _
termination_by structural n

theorem analyzeSources_concur {s s' : Scope} (h : s.Interchangeable s') (ns : List Node) :
    Concur Eq (analyzeSources c s ns) (analyzeSources c s' ns) := by
  match ns with
  | [] => exact .pure rfl
  | n :: ns =>
    exact (analyzeSource_concur h n).next fun _ =>
      (analyzeSources_concur h ns).next fun _ => .pure rfl
termination_by structural ns

theorem analyzeTargets_concur {s s' : Scope} (h : s.Interchangeable s') {ns : List Node}
    (hstars : StarsAlike s s' ns) (hints : List Hint) (position : Nat) :
    Concur Eq (analyzeTargets c s hints position ns) (analyzeTargets c s' hints position ns) := by
  match ns with
  | [] => exact .pure rfl
  | n :: ns =>
    match n with
    | .target name (some value) location =>
      have hrest : StarsAlike s s' ns := fun name value location qualifiers hmem =>
        hstars name value location qualifiers (.tail _ hmem)
      simp only [analyzeTargets]
      -- a star lists the columns of the relations, an expression takes one column
      split
      · rename_i qualifiers hqualifiers
        obtain ⟨columns, hr, hr'⟩ | ⟨e, e', hr, hr'⟩ :=
          ok_or_error (hstars name value location qualifiers (.head _) hqualifiers) <;> rw [hr, hr']
        · exact (analyzeTargets_concur h hrest hints _).next fun _ => .pure rfl
        · exact .throw e e'
      · exact (inferExpr_concur h _ value).next fun _ =>
          (analyzeTargets_concur h hrest hints _).next fun _ => .pure rfl
    | .target name none location => exact .throw _ _
    | .schemaChange _ | .insert _ | .select _ | .update _ | .delete _ | .logic .. | .operator ..
    | .column _ | .param .. | .sublink .. | .call _ | .cast .. | .nullTest .. | .case ..
    | .literal _ | .table _ | .derived .. | .list _ | .unsupported .. | .name _ | .star =>
      exact .throw _ _
termination_by structural ns

end

/-! ## Items -/

variable {items items' : List Node}

/-- The items of a FROM clause come to the same relations in any order. -/
theorem analyzeSources_concur_of_perm (c : Catalog) (s : Scope) (h : items.Perm items') :
    Concur List.Perm (analyzeSources c s items) (analyzeSources c s items') := by
  induction h with
  | nil => exact .pure .nil
  | cons item _ ih =>
    exact (Concur.refl (analyzeSource_settles c s item)).next fun found =>
      ih.bind fun rs rs' h => .pure (h.append_left _)
  | swap a b items =>
    -- neither of the two items sees the other, so that they can be analysed in both orders
    simp only [analyzeSources, bind_assoc, pure_bind]
    refine .swap (analyzeSource_settles c s b) (analyzeSource_settles c s a) fun found found' => ?_
    refine Concur.next (.refl ((analyzeSources_tracks s items).settles (renumberableAll items)))
      fun rs => .pure ?_
    rw [← List.append_assoc, ← List.append_assoc]
    exact List.perm_append_comm.append_right rs
  | trans _ _ ih ih' => exact ih.trans ih' fun _ _ _ => List.Perm.trans

/-- The relations of a FROM clause have the names of its items. -/
theorem names_analyzeSources (hc : c.WellFormed) (s : Scope) (items : List Node) :
    Meets (fun _ => True) (fun rs => rs.map Relation.name = items.filterMap Node.visibleName?)
      (analyzeSources c s items) := by
  induction items with
  | nil => exact .pure rfl
  | cons item items ih =>
    refine .bind (analyzeSource_name hc item) fun found hfound => .bind ih fun rs hrs => .pure ?_
    rw [List.map_append, hrs, List.filterMap_cons, ← hfound]
    cases found <;> rfl

/-- Qualifiers name a relation by their last part. -/
theorem Relation.getLast?_of_matches {r : Relation} {qualifiers : List String}
    (h : r.matchesQualifiers qualifiers = true) : qualifiers.getLast? = some r.name := by
  match qualifiers with
  | [] => cases h
  | [table] => rw [of_decide_eq_true h]; rfl
  | [schema, table] =>
    rw [of_decide_eq_true (Bool.and_eq_true_iff.mp h).1]
    rfl
  | _ :: _ :: _ :: _ => cases h

/-- A list without two elements has no other order. -/
theorem eq_of_perm_of_length_le_one {xs ys : List α} (h : xs.Perm ys) (hlength : xs.length ≤ 1) :
    ys = xs := by
  match xs with
  | [] => exact List.nil_perm.mp h
  | [x] => exact (List.singleton_perm.mp h).symm
  | _ :: _ :: _ => simp at hlength

/-- Relations in any order tell the same for a star that is qualified by a name which only one of
them has. -/
theorem expandStar_perm {rs rs' : List Relation} (h : rs.Perm rs') {qualifiers : List String}
    {own : String} (hown : own ∈ qualifiers.getLast?)
    (hcount : (rs.map Relation.name).count own ≤ 1) :
    Scope.expandStar (.ofRelations rs :: s) qualifiers =
      Scope.expandStar (.ofRelations rs' :: s) qualifiers := by
  have hqualifiers : qualifiers ≠ [] := by
    rintro rfl
    cases hown
  -- what the qualifiers match has the name that they end in
  have hle : (rs.filter (·.matchesQualifiers qualifiers)).length ≤ 1 := by
    rw [← List.countP_eq_length_filter]
    rw [List.count, List.countP_map] at hcount
    refine Nat.le_trans (List.countP_mono_left fun r _ hr => ?_) hcount
    rw [Relation.getLast?_of_matches hr] at hown
    simpa using Option.mem_some.mp hown
  rw [Scope.expandStar_of_qualified hqualifiers, Scope.expandStar_of_qualified hqualifiers]
  simp only [Scope.relations, ScopeLevel.ofRelations,
    eq_of_perm_of_length_le_one (h.filter _) hle]

/-- The stars of a select list are qualified, each by a name that at most one item of a FROM clause
has. -/
def SingleStars (targets items : List Node) : Prop :=
  ∀ name value location qualifiers, .target name (some value) location ∈ targets →
    value.starQualifiers? = some qualifiers →
      ∃ own ∈ qualifiers.getLast?, (items.filterMap Node.visibleName?).count own ≤ 1

/-- If the items have different names, it is enough that no star is without qualifiers. -/
theorem singleStars_of_nodup {targets : List Node}
    (hnodup : (items.filterMap Node.visibleName?).Nodup)
    (hstars : ∀ name value location, .target name (some value) location ∈ targets →
      value.starQualifiers? ≠ some []) : SingleStars targets items := by
  intro name value location qualifiers hmem hqualifiers
  have hne : qualifiers ≠ [] := fun h => hstars name value location hmem (h ▸ hqualifiers)
  exact ⟨qualifiers.getLast hne, List.getLast?_eq_some_getLast hne,
    List.nodup_iff_count_le_one.mp hnodup _⟩

/-- **The order of a FROM clause does not matter.** The columns of a plain query, with their types,
nullability and origins, are the same for any order of its items, or the query is rejected in all
orders. This is so in every scope and for all references, those of nested queries included, if no
star of its own select list is open to the order: each is qualified, by a name that at most one item
has. In a well-formed catalog, as every one is that statements have built, an item has the name that
is written for it. -/
theorem source_order_irrelevant {c : Catalog} (hc : c.WellFormed) (s : Scope) (hints : List Hint)
    {q : Select} (hoperation : q.operation = .none) (hrows : q.rows = []) {items : List Node}
    (hitems : q.source.Perm items) (hstars : SingleStars q.targets q.source)
    (bs bs' : Bindings) :
    (answerFrom bs (analyzeSelect c s hints q)).toOption =
      (answerFrom bs' (analyzeSelect c s hints { q with source := items })).toOption := by
  -- the WITH queries come first on both sides, and the FROM is the first thing that differs
  refine Concur.toOption_eq ?_ bs bs'
  rw [analyzeSelect_eq, analyzeSelect_eq]
  refine (Concur.refl (analyzeCtes_settles c s [] q.ctes)).next fun defined => ?_
  rw [analyzeBody_of_plain c _ hints hoperation hrows,
    analyzeBody_of_plain c _ hints (q := { q with source := items }) hoperation hrows]
  refine ((analyzeSources_concur_of_perm c _ hitems).and_left
    (names_analyzeSources hc _ q.source)).bind fun rs rs' ⟨hnames, hperm⟩ => ?_
  -- the names of the targets stand in a level of their own, which is the same on both sides
  refine analyzeClauses_concur_of (q := q) (fun outputs => (Scope.Interchangeable.refl _).cons
      (ScopeLevel.resolve_perm hperm rfl) rfl) (fun hs hs' h => ?_)
    (fun h => analyzeWindows_concur h _) (fun ns _ _ _ h => inferAll_concur h none ns)
    (fun n _ _ _ h hint => inferOption_concur h hint n)
  -- a star with a name has one relation to stand for, so the order does not matter to it
  refine analyzeTargets_concur h (fun name value location qualifiers hmem hqualifiers => ?_) hints 0
  obtain ⟨own, hown, hcount⟩ := hstars name value location qualifiers hmem hqualifiers
  rw [hs, hs', expandStar_perm hperm hown (hnames ▸ hcount)]

/-- The query `SELECT t.a, d.* FROM t, (SELECT a FROM u) AS d`, with a condition that holds if
`EXISTS (SELECT a FROM u WHERE d.a IS NULL)`. -/
def twoItemQuery : Select :=
  { Select.empty with
    targets := [.target none (some (.column [.name "t", .name "a"])) 0,
      .target none (some (.column [.name "d", .star])) 0]
    source := [.table ⟨none, "t", none, false⟩,
      .derived (.select selectFromU) (some "d") false]
    condition := some (.sublink .exists none (some (.select { selectFromU with
      condition := some (.nullTest (.column [.name "d", .name "a"]) true) })) false) }

theorem source_order_irrelevant_twoItems :
    let c := Catalog.twoTables
    let columns := (answerFrom [] (analyzeSelect c [] [] twoItemQuery)).toOption
    columns = some [columnA "t", columnA "u"] ∧
      columns = (answerFrom [] (analyzeSelect c [] []
        { twoItemQuery with source := twoItemQuery.source.reverse })).toOption := by
  intro c columns
  have hc : c.WellFormed := ((Catalog.Reachable.empty "public").afterAll _).wellFormed
  refine ⟨by decide +kernel, ?_⟩
  refine source_order_irrelevant hc [] [] rfl rfl (List.reverse_perm _).symm ?_ [] []
  refine singleStars_of_nodup (by decide +kernel) fun name value location hmem => ?_
  simp only [twoItemQuery, List.mem_cons, List.not_mem_nil, or_false] at hmem
  obtain h | h := hmem <;> injection h with _ hvalue _ <;> cases hvalue <;> decide

end TypedSql
