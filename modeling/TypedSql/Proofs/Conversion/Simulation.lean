import TypedSql.Proofs.Conversion.Similarity
import TypedSql.Proofs.Conversion.Variation

/-!
# Simulation

The conversions of two syntax trees that are the same up to certain parts, step by step: they come
to similar trees, or both to an error, if this is so for the single steps in which they may
differ.

- `Comparison`: what is kept between two runs
- `Sim`: two conversions that keep it
- `Comparison.Fits`: what has to be known of the single steps
- **Single constructs**, **Expressions and queries**, **Statements**: one theorem for each function
  of the conversion
-/

namespace TypedSql.Canonical.Conversion

variable {α α' β β' : Type}

/-! ## Comparisons -/

/-- Two runs, and what their states and their errors have to do with each other. -/
structure Comparison where
  setting : Setting
  setting' : Setting
  progress : Progress → Progress → Prop
  error : ConversionError → ConversionError → Prop

/-- Two runs end in related states, with related answers or with related errors. -/
inductive Agrees (w : Comparison) (R : α → α' → Prop) :
    Except ConversionError α × Progress → Except ConversionError α' × Progress → Prop
  | ok {a : α} {a' : α'} {p p' : Progress} (h : R a a') (hp : w.progress p p') :
    Agrees w R (.ok a, p) (.ok a', p')
  | error {e e' : ConversionError} {p p' : Progress} (h : w.error e e') (hp : w.progress p p') :
    Agrees w R (.error e, p) (.error e', p')

namespace Agrees

variable {w : Comparison} {R S : α → α' → Prop} {r : Except ConversionError α × Progress}
  {r' : Except ConversionError α' × Progress}

theorem progress (h : Agrees w R r r') : w.progress r.2 r'.2 := by
  cases h with
  | ok _ hp => exact hp
  | error _ hp => exact hp

theorem isSome_eq (h : Agrees w R r r') : r.1.toOption.isSome = r'.1.toOption.isSome := by
  cases h <;> rfl

theorem imp (h : Agrees w R r r') (hRS : ∀ a a', R a a' → S a a') : Agrees w S r r' := by
  cases h with
  | ok ha hp => exact .ok (hRS _ _ ha) hp
  | error he hp => exact .error he hp

end Agrees

/-- Two conversions that agree from related states on. -/
def Sim (w : Comparison) (R : α → α' → Prop) (c : Conversion α) (c' : Conversion α') : Prop :=
  ∀ p p', w.progress p p' → Agrees w R (c.run w.setting p) (c'.run w.setting' p')

namespace Sim

variable {w : Comparison} {R : α → α' → Prop} {S : β → β' → Prop} {c : Conversion α}
  {c' : Conversion α'} {f : α → Conversion β} {f' : α' → Conversion β'}

theorem pure {a : α} {a' : α'} (h : R a a') : Sim w R (Pure.pure a) (Pure.pure a') :=
  fun _ _ hp => .ok h hp

theorem throw {e e' : ConversionError} (h : w.error e e') :
    Sim w R (MonadExcept.throw e) (MonadExcept.throw e') := fun _ _ hp => .error h hp

theorem bind (hc : Sim w R c c') (hf : ∀ a a', R a a' → Sim w S (f a) (f' a')) :
    Sim w S (c >>= f) (c' >>= f') := by
  intro p p' hp
  have h := hc p p' hp
  rw [run_bind, run_bind]
  revert h
  rcases c.run w.setting p with ⟨result, q⟩
  rcases c'.run w.setting' p' with ⟨result', q'⟩
  intro h
  cases h with
  | ok ha hq => exact hf _ _ ha q q' hq
  | error he hq => exact .error he hq

/-- A step whose answers are equal. -/
theorem step {c c' : Conversion α} {f f' : α → Conversion β} {S : β → β → Prop} (hc : Sim w Eq c c')
    (hf : ∀ a, Sim w S (f a) (f' a)) : Sim w S (c >>= f) (c' >>= f') :=
  bind hc fun a _ h => h ▸ hf a

theorem map {g : α → β} {g' : α' → β'} (hc : Sim w R c c')
    (hg : ∀ a a', R a a' → S (g a) (g' a')) : Sim w S (g <$> c) (g' <$> c') := by
  rw [map_eq_pure_bind, map_eq_pure_bind]
  exact hc.bind fun a a' h => .pure (hg a a' h)

theorem tryCatch {handler : ConversionError → Conversion α}
    {handler' : ConversionError → Conversion α'} (hc : Sim w R c c')
    (hhandler : ∀ e e', Sim w R (handler e) (handler' e')) :
    Sim w R (MonadExcept.tryCatch c handler) (MonadExcept.tryCatch c' handler') := by
  intro p p' hp
  have h := hc p p' hp
  rw [run_tryCatch, run_tryCatch]
  revert h
  rcases c.run w.setting p with ⟨result, q⟩
  rcases c'.run w.setting' p' with ⟨result', q'⟩
  -- whichever way the first attempt ends, the progress stays related
  intro h
  cases h with
  | ok ha hq => exact .ok ha hq
  | error he hq => exact hhandler _ _ q q' hq

theorem mapM {γ γ' : Type} {P : γ → γ' → Prop} {g : γ → Conversion α} {g' : γ' → Conversion α'}
    (hg : ∀ x x', P x x' → Sim w R (g x) (g' x')) {xs : List γ} {xs' : List γ'}
    (h : List.Forall₂ P xs xs') : Sim w (List.Forall₂ R) (xs.mapM g) (xs'.mapM g') := by
  induction h with
  | nil => exact .pure .nil
  | cons hx _ ih =>
    rw [List.mapM_cons, List.mapM_cons]
    exact (hg _ _ hx).bind fun _ _ ha => ih.bind fun _ _ has => .pure (.cons ha has)

/-- Two steps in opposite orders, if nothing needs to be kept of states and errors. -/
theorem crossed {γ γ' : Type} {T : γ → γ' → Prop} {g : α → β → γ} {g' : α' → β' → γ'}
    {d : Conversion β} {d' : Conversion β'} (hprogress : ∀ p p', w.progress p p')
    (herror : ∀ e e', w.error e e') (hc : Sim w R c c') (hd : Sim w S d d')
    (hg : ∀ a a' b b', R a a' → S b b' → T (g a b) (g' a' b')) :
    Sim w T (c >>= fun a => d >>= fun b => Pure.pure (g a b))
      (d' >>= fun b => c' >>= fun a => Pure.pure (g' a b)) := by
  intro p p' _
  simp only [run_bind, run_pure]
  rcases hcrun : c.run w.setting p with ⟨e | a, q⟩ <;>
    rcases hdrun : d'.run w.setting' p' with ⟨e' | b', q'⟩ <;> dsimp only
  · exact .error (herror _ _) (hprogress _ _)
  · -- the step that fails first on one side fails behind the other step on the other side
    have hfirst := hc p q' (hprogress _ _)
    rw [hcrun] at hfirst
    generalize c'.run w.setting' q' = r at hfirst
    cases hfirst
    exact .error (herror _ _) (hprogress _ _)
  · have hsecond := hd q p' (hprogress _ _)
    rw [hdrun] at hsecond
    generalize d.run w.setting q = r at hsecond
    cases hsecond
    exact .error (herror _ _) (hprogress _ _)
  · have hfirst := hc p q' (hprogress _ _)
    have hsecond := hd q p' (hprogress _ _)
    rw [hcrun] at hfirst
    rw [hdrun] at hsecond
    generalize c'.run w.setting' q' = r at hfirst
    generalize d.run w.setting q = r' at hsecond
    cases hfirst with
    | ok ha _ =>
      cases hsecond with
      | ok hb _ => exact .ok (hg _ _ _ _ ha hb) (hprogress _ _)

/-- Two clauses in one order, or in two orders if nothing needs to be kept of states and errors. -/
theorem inOrder {d : Conversion β} {d' : Conversion β'} {straight straight' : Bool}
    (h : straight = straight' ∨ (∀ p p', w.progress p p') ∧ ∀ e e', w.error e e')
    (hc : Sim w R c c') (hd : Sim w S d d') :
    Sim w (fun x x' => R x.1 x'.1 ∧ S x.2 x'.2) (Conversion.inOrder straight c d)
      (Conversion.inOrder straight' c' d') := by
  -- both run straight or both run backwards, or else the order cannot be told from outside
  have hforth : Sim w (fun x x' => R x.1 x'.1 ∧ S x.2 x'.2) (Conversion.inOrder true c d)
      (Conversion.inOrder true c' d') :=
    hc.bind fun a a' ha => hd.bind fun b b' hb => .pure ⟨ha, hb⟩
  have hback : Sim w (fun x x' => R x.1 x'.1 ∧ S x.2 x'.2) (Conversion.inOrder false c d)
      (Conversion.inOrder false c' d') :=
    hd.bind fun b b' hb => hc.bind fun a a' ha => .pure ⟨ha, hb⟩
  rcases h with rfl | ⟨hprogress, herror⟩
  · cases straight
    · exact hback
    · exact hforth
  · cases straight <;> cases straight'
    · exact hback
    · exact crossed hprogress herror hd hc fun _ _ _ _ hb ha => ⟨ha, hb⟩
    · exact crossed hprogress herror hc hd fun _ _ _ _ ha hb => ⟨ha, hb⟩
    · exact hforth

end Sim

/-- What has to be known of the single steps in which two trees may differ. -/
structure Comparison.Fits (w : Comparison) (V : Sql.Variation) (K : Kinship) : Prop where
  dialect : w.setting.dialect = w.setting'.dialect
  order : w.setting.limitComma = w.setting'.limitComma ∨
    (∀ p p', w.progress p p') ∧ ∀ e e', w.error e e'
  location : K.location w.setting.fallback w.setting'.fallback
  sameError : ∀ e, w.error e e
  tableName : ∀ name name', Sql.ObjectName.Varies V name name' →
    w.error (.tableName name) (.tableName name')
  insertTarget : ∀ name name', Sql.ObjectName.Varies V name name' →
    w.error (.insertTarget name) (.insertTarget name')
  ident : ∀ i i', V.ident i i' → fold w.setting.dialect i = fold w.setting.dialect i' ∧
    Text.lower i.text = Text.lower i'.text
  type : ∀ t t', V.type t t' → typeOf w.setting.dialect t = typeOf w.setting.dialect t'
  sameText : ∀ text, V.text text text
  note : ∀ construct, Sim w Eq (note construct) (note construct)
  param : ∀ text, Sim w (Node.Similar K) (param text) (param text)
  text : ∀ text text', V.text text text' → Sim w K.params (paramsIn text) (paramsIn text')
  noParams : K.params [] []
  tested : ∀ q q', V.tested q q' → Sim w K.tested (tested (query q)) (tested (query q'))

variable {w : Comparison} {V : Sql.Variation} {K : Kinship}

/-! ## Single constructs -/

namespace Comparison.Fits

variable (hw : w.Fits V K)
include hw

theorem fold_eq {i i' : Sql.Ident} (h : V.ident i i') :
    fold w.setting.dialect i = fold w.setting'.dialect i' := hw.dialect ▸ (hw.ident i i' h).1

theorem map_fold_eq {is is' : List Sql.Ident} (h : List.Forall₂ V.ident is is') :
    is.map (fold w.setting.dialect) = is'.map (fold w.setting'.dialect) := by
  induction h with
  | nil => rfl
  | cons h _ ih => rw [List.map_cons, List.map_cons, hw.fold_eq h, ih]

theorem option_fold_eq {i i' : Option Sql.Ident} (h : Option.Rel V.ident i i') :
    i.map (fold w.setting.dialect) = i'.map (fold w.setting'.dialect) := by
  cases h with
  | none => rfl
  | some h => exact congrArg some (hw.fold_eq h)

theorem functionName_eq {name name' : Sql.ObjectName} (h : Sql.ObjectName.Varies V name name') :
    functionName name = functionName name' := by
  have hlower : name.map (fun i => Text.lower i.text) = name'.map fun i => Text.lower i.text := by
    induction h with
    | nil => rfl
    | cons h _ ih => rw [List.map_cons, List.map_cons, (hw.ident _ _ h).2, ih]
  -- the name of a function is not folded as the dialect does, but lower-cased
  rw [functionName, functionName, hlower]

end Comparison.Fits

theorem sim_dialect :
    Sim w (fun d d' => d = w.setting.dialect ∧ d' = w.setting'.dialect) dialect dialect :=
  fun _ _ hp => .ok ⟨rfl, rfl⟩ hp

theorem sim_read : Sim w (fun s s' => s = w.setting ∧ s' = w.setting') read read :=
  fun _ _ hp => .ok ⟨rfl, rfl⟩ hp

variable (hw : w.Fits V K)
include hw

theorem sim_noteIf (present : Bool) (construct : String) :
    Sim w Eq (noteIf present construct) (noteIf present construct) := by
  cases present
  · exact .pure rfl
  · exact hw.note construct

theorem sim_ident {i i' : Sql.Ident} (h : V.ident i i') : Sim w Eq (ident i) (ident i') := by
  refine sim_dialect.bind ?_
  rintro _ _ ⟨rfl, rfl⟩
  exact .pure (hw.fold_eq h)

theorem sim_lastIdent {name name' : Sql.ObjectName} (h : Sql.ObjectName.Varies V name name') :
    Sim w Eq (lastIdent name) (lastIdent name') := by
  refine sim_dialect.bind ?_
  rintro _ _ ⟨rfl, rfl⟩
  have hlast : lastPart? w.setting.dialect name = lastPart? w.setting'.dialect name' := by
    rw [lastPart?, lastPart?, ← List.getLast?_map, ← List.getLast?_map, hw.map_fold_eq h]
  rw [hlast]
  split
  · exact .pure rfl
  · exact .throw (hw.sameError _)

theorem sim_tableName {name name' : Sql.ObjectName} (h : Sql.ObjectName.Varies V name name') :
    Sim w Eq (tableName name) (tableName name') := by
  refine sim_dialect.bind ?_
  rintro _ _ ⟨rfl, rfl⟩
  rw [hw.map_fold_eq h]
  split
  · exact .pure rfl
  · exact .pure rfl
  · exact .pure rfl
  · exact .throw (hw.tableName _ _ h)

theorem sim_tableRef {name name' : Sql.ObjectName} {aliasName aliasName' : Option Sql.Ident}
    (h : Sql.ObjectName.Varies V name name') (halias : Option.Rel V.ident aliasName aliasName') :
    Sim w Eq (tableRef name aliasName) (tableRef name' aliasName') := by
  refine (sim_tableName hw h).step fun table => sim_dialect.bind ?_
  rintro _ _ ⟨rfl, rfl⟩
  exact .pure (by rw [hw.option_fold_eq halias])

theorem sim_skip (construct : String) {text text' : String} (h : V.text text text') :
    Sim w (Node.Similar K) (skip construct text) (skip construct text') :=
  (hw.note construct).step fun _ => (hw.text _ _ h).bind fun _ _ hparams =>
    .pure (.unsupported construct hparams)

theorem sim_skips (construct : String) {texts texts' : List String}
    (h : List.Forall₂ V.text texts texts') :
    Sim w (List.Forall₂ (Node.Similar K)) (texts.mapM (skip construct))
      (texts'.mapM (skip construct)) :=
  Sim.mapM (P := V.text) (fun _ _ h => sim_skip hw construct h) h

theorem sim_literal (value : Sql.Literal) :
    Sim w (Node.Similar K) (literal value) (literal value) := by
  match value with
  | .placeholder text => exact hw.param text
  | .number .. | .boolean _ | .null
  | .string .single _ | .string .double _ | .string .escaped _ | .string .national _ =>
    exact .pure (.literal _)
  | .string .unicode _ | .string .hex _ | .string .byteSingle _ | .string .byteDouble _
  | .string (.dollar _) _ => exact sim_skip hw _ (hw.sameText _)

theorem sim_columnRef {parts parts' : List Sql.Ident} (h : List.Forall₂ V.ident parts parts') :
    Sim w (Node.Similar K) (columnRef parts) (columnRef parts') := by
  have hfields := congrArg (List.map Node.name) (hw.map_fold_eq h)
  rw [List.map_map, List.map_map] at hfields
  refine sim_dialect.bind ?_
  rintro _ _ ⟨rfl, rfl⟩
  exact .pure (hfields ▸ .column _)

theorem sim_starRef {parts parts' : List Sql.Ident} (h : List.Forall₂ V.ident parts parts') :
    Sim w (Node.Similar K) (starRef parts) (starRef parts') := by
  have hfields := congrArg (fun names => names.map Node.name ++ [.star]) (hw.map_fold_eq h)
  simp only [List.map_map] at hfields
  refine sim_dialect.bind ?_
  rintro _ _ ⟨rfl, rfl⟩
  exact .pure (hfields ▸ .column _)

theorem sim_target (name : Option String) {n n' : Node} (h : n.Similar K n') :
    Sim w (Node.Similar K) (target name n) (target name n') := by
  refine sim_read.bind ?_
  rintro _ _ ⟨rfl, rfl⟩
  exact .pure (.target name (.some h) hw.location)

/-- A query that a predicate tests, if the two conversions of it agree. -/
theorem sim_tested {c c' : Conversion Select} (h : Sim w (Select.Similar K) c c') :
    Sim w (Option.Rel (Node.Similar K)) (Conversion.tested c) (Conversion.tested c') := by
  refine .tryCatch (h.bind fun _ _ hs => .pure (.some (.select hs))) fun _ _ => ?_
  -- both queries fail to convert, whatever the errors are
  exact (hw.note "subquery").step fun _ => .pure .none

/-! ## Expressions and queries -/

theorem sim_query_of (q q' : Sql.Query)
    (hctes : Sim w (List.Forall₂ (NamedQuery.Similar K)) (namedQueries q.ctes)
      (namedQueries q'.ctes))
    (hbody : Sim w (Select.Similar K) (setExpr q.body) (setExpr q'.body))
    (horderBy : Sim w (List.Forall₂ (Node.Similar K)) (orderKeys q.orderBy) (orderKeys q'.orderBy))
    (hlimit : Sim w (Option.Rel (Node.Similar K)) (exprOption q.limit) (exprOption q'.limit))
    (hoffset : Sim w (Option.Rel (Node.Similar K)) (exprOption q.offset) (exprOption q'.offset))
    (hquantity : Sim w (Option.Rel (Node.Similar K)) (exprOption q.fetchQuantity)
      (exprOption q'.fetchQuantity)) :
    Sim w (Select.Similar K) (query q) (query q') := by
  have hparts : Sim w (QueryParts.Similar K) (queryParts q) (queryParts q') := by
    refine hctes.bind fun ctes ctes' hctes => hbody.bind fun body body' hbody => ?_
    refine horderBy.bind fun keys keys' hkeys => sim_read.bind ?_
    rintro _ _ ⟨rfl, rfl⟩
    -- the two operands are read in the order of the setting
    refine (Sim.inOrder hw.order hoffset hlimit).bind fun operands operands' hoperands => ?_
    refine hquantity.bind fun quantity quantity' hquantity => .pure ?_
    exact ⟨hctes, hbody, hkeys, hoperands.1, hoperands.2, hquantity⟩
  rw [query_eq, query_eq]
  exact hparts.bind fun parts parts' h => .pure h.select

theorem sim_select_of (s s' : Sql.Select) (h : Sql.Select.Varies V s s')
    (hdistinctOn : Sim w (List.Forall₂ (Node.Similar K)) (exprs s.distinctOn) (exprs s'.distinctOn))
    (hprojection : Sim w (List.Forall₂ (Node.Similar K)) (selectItems s.projection)
      (selectItems s'.projection))
    (hsource : Sim w (Sources.Similar K) (tables ⟨[], []⟩ s.source) (tables ⟨[], []⟩ s'.source))
    (hcondition : Sim w (Option.Rel (Node.Similar K)) (exprOption s.condition)
      (exprOption s'.condition))
    (hgroupBy : Sim w (List.Forall₂ (Node.Similar K)) (exprs s.groupBy) (exprs s'.groupBy))
    (hhaving : Sim w (Option.Rel (Node.Similar K)) (exprOption s.having) (exprOption s'.having))
    (hwindows : Sim w (List.Forall₂ (Window.Similar K)) (windows s.windows) (windows s'.windows)) :
    Sim w (Select.Similar K) (select s) (select s') := by
  obtain ⟨distinct, distinctOn, top, projection, into, source, lateralViews, condition, groupAll,
    groupBy, clustering, having, ws, windowFirst, qualify⟩ := s
  obtain ⟨distinct', distinctOn', top', projection', into', source', lateralViews', condition',
    groupAll', groupBy', clustering', having', ws', windowFirst', qualify'⟩ := s'
  obtain ⟨-, htop, -, -, hlateralViews, -, hgroupAll, -, -, -, hwindowFirst, hqualify⟩ := h
  dsimp only at *
  subst hgroupAll hwindowFirst
  rw [select, select]
  refine (sim_skips hw "TOP" (forall₂_toList htop)).bind fun top top' htop => ?_
  refine hdistinctOn.bind fun distinctOn distinctOn' hdistinctOn => ?_
  refine hprojection.bind fun targets targets' htargets => ?_
  refine hsource.bind fun source source' hsource => ?_
  refine (sim_skips hw "LATERAL VIEW" hlateralViews).bind fun views views' hviews => ?_
  refine hcondition.bind fun condition condition' hcondition => ?_
  refine (sim_noteIf hw groupAll _).step fun _ => ?_
  refine hgroupBy.bind fun groupBy groupBy' hgroupBy => ?_
  refine hhaving.bind fun having having' hhaving => ?_
  -- windows and QUALIFY come in the order in which they are written
  have hlast := Sim.inOrder (.inl (Eq.refl windowFirst)) hwindows
    (sim_skips hw "QUALIFY" (forall₂_toList hqualify))
  refine hlast.bind ?_
  rintro ⟨ws, qualify⟩ ⟨ws', qualify'⟩ ⟨hws, hqualify⟩
  refine .pure ?_
  -- what is skipped is put behind the conditions of the joins
  have hconditions := ((hsource.conditions.append (.of_forall₂ htop)).append
    (.of_forall₂ hviews)).append (.of_forall₂ hqualify)
  exact .mk .nil htargets hsource.items hconditions hcondition hdistinctOn hgroupBy hhaving hws .nil
    .none .none .nil rfl rfl .none .none

theorem sim_joins_of {acc acc' : Sources} (hacc : acc.Similar K acc') (j j' : Sql.Join)
    (h : Sql.Join.Varies V j j') {js js' : List Sql.Join}
    (hfactor : Sim w (Sources.Similar K) (factor acc j.relation) (factor acc' j'.relation))
    (hon : Sim w (Option.Rel (Node.Similar K)) (exprOption j.on) (exprOption j'.on))
    (hjoins : ∀ acc acc' : Sources, acc.Similar K acc' →
      Sim w (Sources.Similar K) (joins acc js) (joins acc' js')) :
    Sim w (Sources.Similar K) (joins acc (j :: js)) (joins acc' (j' :: js')) := by
  obtain ⟨everywhere, kind, relation, shared, on⟩ := j
  obtain ⟨everywhere', kind', relation', shared', on'⟩ := j'
  obtain ⟨hkind, -, hshared, -⟩ := h
  dsimp only at *
  -- all that is read of the kind of a join is the same for both
  have hunmapped : unmappedJoin? kind = unmappedJoin? kind' := by cases hkind <;> rfl
  have hpads : padsLeft kind = padsLeft kind' ∧ padsRight kind = padsRight kind' := by
    cases hkind <;> exact ⟨rfl, rfl⟩
  have hlists : listsColumns shared = listsColumns shared' := by cases hshared <;> rfl
  rw [joins, joins]
  refine hfactor.bind fun added added' hadded => ?_
  -- both runs have as many tables on the left of the join
  have hmarked : Sources.Similar K
      { added with items := markJoin kind acc.items.length added.items }
      { added' with items := markJoin kind' acc'.items.length added'.items } := by
    rw [← hacc.items.length_eq]
    exact ⟨similar_markJoin hpads.1 hpads.2 _ hadded.items, hadded.conditions⟩
  rw [hunmapped, hlists]
  split
  · exact (hw.note _).step fun _ => .bind (.pure hmarked) hjoins
  · refine hon.bind fun condition condition' hcondition => ?_
    refine (sim_noteIf hw _ _).step fun _ => .bind (.pure ?_) hjoins
    exact ⟨hmarked.items, hmarked.conditions.append (.of_forall₂ (forall₂_toList hcondition))⟩

-- The recursion is on the first tree. The relation between the trees has one constructor for each
-- form, so that of the second one follows. The linter cannot see that calls in lists use `hw`.
set_option linter.unusedSectionVars false in
mutual

theorem sim_expr (e e' : Sql.Expr) (h : Sql.Expr.Varies V e e') :
    Sim w (Node.Similar K) (expr e) (expr e') := by
  match e with
  | .column first rest =>
    cases h with
    | column hfirst hrest => exact sim_columnRef hw (.cons hfirst hrest)
  | .literal value =>
    cases h
    exact sim_literal hw value
  | .nested inner =>
    cases h with
    | nested h =>
      -- parentheses leave no trace in the tree
      rw [expr, expr]
      exact sim_expr inner _ h
  | .binary left op right =>
    cases h with
    | binary _ hleft hright =>
      exact (sim_expr left _ hleft).bind fun _ _ hl => (sim_expr right _ hright).bind fun _ _ hr =>
        .pure (similar_binary op hl hr)
  | .unary op operand =>
    cases h with
    | unary _ h => exact (sim_expr operand _ h).bind fun _ _ hn => .pure (similar_unary op hn)
  | .isNull operand negated =>
    cases h with
    | isNull _ h => exact (sim_expr operand _ h).bind fun _ _ hn => .pure (.nullTest _ hn)
  | .inList operand items negated =>
    cases h with
    | inList _ h hitems =>
      exact (sim_expr operand _ h).bind fun _ _ hn => (sim_exprs items _ hitems).bind fun _ _ hns =>
        .pure (.operator _ (.some hn) (.some (.list hns)))
  | .between operand low high negated =>
    cases h with
    | between _ h hlow hhigh =>
      exact (sim_expr operand _ h).bind fun _ _ hn => (sim_expr low _ hlow).bind fun _ _ hl =>
        (sim_expr high _ hhigh).bind fun _ _ hh =>
          .pure (.operator _ (.some hn) (.some (.list (.cons hl (.cons hh .nil)))))
  | .like op any operand pattern escape negated =>
    cases h with
    | like _ _ _ _ _ _ h hpattern =>
      exact (sim_expr operand _ h).bind fun _ _ hn => (sim_expr pattern _ hpattern).bind
        fun _ _ hp => .pure (.operator _ (.some hn) (.some hp))
  | .inQuery operand q negated =>
    cases h with
    | inQuery _ h hq =>
      exact (sim_expr operand _ h).bind fun _ _ hn => (sim_tested hw (sim_query q _ hq)).bind
        fun _ _ hs => .pure (.sublink _ _ (.some hn) hs)
    -- another query is tested on the other side, and the two need not be related at all
    | inTested _ h hq =>
      exact (sim_expr operand _ h).bind fun _ _ hn => (hw.tested _ _ hq).bind
        fun _ _ hs => .pure (.sublinkTested _ _ (.some hn) hs)
  | .exists q negated =>
    cases h with
    | «exists» _ hq =>
      exact (sim_tested hw (sim_query q _ hq)).bind fun _ _ hs => .pure (.sublink _ _ .none hs)
    | existsTested _ hq =>
      exact (hw.tested _ _ hq).bind fun _ _ hs => .pure (.sublinkTested _ _ .none hs)
  | .subquery q =>
    cases h with
    | subquery hq => exact (sim_query q _ hq).bind fun _ _ hs => .pure (.select hs)
  | .cast form operand type =>
    cases h with
    | cast _ _ h htype =>
      refine (sim_expr operand _ h).bind fun _ _ hn => sim_dialect.bind ?_
      rintro _ _ ⟨rfl, rfl⟩
      rw [← hw.dialect, ← hw.type _ _ htype]
      exact .pure (.cast _ hn)
  | .case operand bs default =>
    cases h with
    | case hoperand hbranches hdefault =>
      exact (sim_exprOption operand _ hoperand).bind fun _ _ ho =>
        (sim_branches bs _ hbranches).bind fun _ _ hbs =>
          (sim_exprOption default _ hdefault).bind fun _ _ hd => .pure (.case ho hbs hd)
  | .call name args withinGroup filter nulls window braced =>
    cases h with
    | call _ _ _ _ hname hargs hwithinGroup hfilter hwindow =>
      exact (sim_arguments args _ hargs).bind fun _ _ hparts =>
        (sim_orderKeys withinGroup _ hwithinGroup).bind fun _ _ hkeys =>
          (sim_exprOption filter _ hfilter).bind fun _ _ hf =>
            (sim_windowOption window _ hwindow).bind fun _ _ hwin =>
              .pure (.call (.mk (hw.functionName_eq hname) hparts.args
                (List.rel_append hparts.orderBy hkeys) hf hwin hparts.star hparts.distinct))
  | .keywordCall name words args =>
    cases h with
    | keywordCall _ _ _ h =>
      exact (sim_exprs args _ h).bind fun _ _ hns =>
        .pure (.call (.mk rfl hns .nil .none .none rfl rfl))
  | .unmapped kind text =>
    cases h with
    | unmapped _ h => exact sim_skip hw kind h
termination_by structural e

theorem sim_exprs (es es' : List Sql.Expr) (h : List.Forall₂ (Sql.Expr.Varies V) es es') :
    Sim w (List.Forall₂ (Node.Similar K)) (exprs es) (exprs es') := by
  match es, es', h with
  | [], [], .nil => exact .pure .nil
  | e :: es, e' :: es', .cons h hs =>
    exact (sim_expr e e' h).bind fun _ _ hn => (sim_exprs es es' hs).bind fun _ _ hns =>
      .pure (.cons hn hns)
termination_by structural es

theorem sim_exprOption (e e' : Option Sql.Expr) (h : Option.Rel (Sql.Expr.Varies V) e e') :
    Sim w (Option.Rel (Node.Similar K)) (exprOption e) (exprOption e') := by
  match e, e', h with
  | none, none, .none => exact .pure .none
  | some e, some e', .some h => exact (sim_expr e e' h).bind fun _ _ hn => .pure (.some hn)
termination_by structural e

theorem sim_branches (bs bs' : List Sql.Branch) (h : List.Forall₂ (Sql.Branch.Varies V) bs bs') :
    Sim w (List.Forall₂ (Branch.Similar K)) (branches bs) (branches bs') := by
  match bs, bs', h with
  | [], [], .nil => exact .pure .nil
  | ⟨condition, result⟩ :: bs, ⟨condition', result'⟩ :: bs', .cons (.mk hcondition hresult) hs =>
    exact (sim_expr condition condition' hcondition).bind fun _ _ hc =>
      (sim_expr result result' hresult).bind fun _ _ hr => (sim_branches bs bs' hs).bind
        fun _ _ hbs => .pure (.cons (.mk hc hr) hbs)
termination_by structural bs

theorem sim_arguments (args args' : Sql.Arguments) (h : Sql.Arguments.Varies V args args') :
    Sim w (CallParts.Similar K) (arguments args) (arguments args') := by
  match args with
  | .none =>
    cases h
    exact .pure ⟨.nil, .nil, rfl, rfl⟩
  | .query q =>
    cases h with
    | query h =>
      exact (sim_query q _ h).bind fun _ _ hs => .pure ⟨.cons (.select hs) .nil, .nil, rfl, rfl⟩
  | .list treatment items clauses =>
    cases h with
    | list _ hitems hclauses =>
      exact (sim_argumentItems items _ hitems).bind fun _ _ hns =>
        (sim_argumentClauses clauses _ hclauses).bind fun _ _ hkeys =>
          .pure ⟨hns.1, hkeys, hns.2, rfl⟩
termination_by structural args

theorem sim_argumentItems (as as' : List Sql.Argument)
    (h : List.Forall₂ (Sql.Argument.Varies V) as as') :
    Sim w (fun x x' => List.Forall₂ (Node.Similar K) x.1 x'.1 ∧ x.2 = x'.2) (argumentItems as)
      (argumentItems as') := by
  match as, as', h with
  | [], [], .nil => exact .pure ⟨.nil, rfl⟩
  | .value label value :: as, .value label' value' :: as', .cons (.value _ _ h) hs =>
    exact (sim_expr value value' h).bind fun _ _ hn => (sim_argumentItems as as' hs).bind
      fun _ _ hns => .pure ⟨.cons hn hns.1, hns.2⟩
  | .star text :: as, .star text' :: as', .cons (.star _ _) hs =>
    exact (sim_argumentItems as as' hs).bind fun _ _ hns => .pure ⟨hns.1, rfl⟩
  | .labelled text :: as, .labelled text' :: as', .cons (.labelled h) hs =>
    exact (sim_skip hw _ h).bind fun _ _ hn => (sim_argumentItems as as' hs).bind
      fun _ _ hns => .pure ⟨.cons hn hns.1, hns.2⟩
termination_by structural as

theorem sim_argumentClauses (cs cs' : List Sql.ArgumentClause)
    (h : List.Forall₂ (Sql.ArgumentClause.Varies V) cs cs') :
    Sim w (List.Forall₂ (Node.Similar K)) (argumentClauses cs) (argumentClauses cs') := by
  match cs, cs', h with
  | [], [], .nil => exact .pure .nil
  | .orderBy items :: cs, .orderBy items' :: cs', .cons (.orderBy h) hs =>
    exact (sim_orderKeys items items' h).bind fun _ _ hms => (sim_argumentClauses cs cs' hs).bind
      fun _ _ hns => .pure (List.rel_append hms hns)
  | .silent text :: cs, .silent text' :: cs', .cons (.silent _ _) hs =>
    exact sim_argumentClauses cs cs' hs
  | .unmapped kind text :: cs, .unmapped _ text' :: cs', .cons (.unmapped _ h) hs =>
    exact (sim_skip hw kind h).bind fun _ _ hn => (sim_argumentClauses cs cs' hs).bind
      fun _ _ hns => .pure (.cons hn hns)
termination_by structural cs

theorem sim_orderKeys (os os' : List Sql.OrderItem)
    (h : List.Forall₂ (Sql.OrderItem.Varies V) os os') :
    Sim w (List.Forall₂ (Node.Similar K)) (orderKeys os) (orderKeys os') := by
  match os, os', h with
  | [], [], .nil => exact .pure .nil
  | ⟨key, direction⟩ :: os, ⟨key', direction'⟩ :: os', .cons (.mk h) hs =>
    exact (sim_expr key key' h).bind fun _ _ hn => (sim_orderKeys os os' hs).bind fun _ _ hns =>
      .pure (.cons hn hns)
termination_by structural os

theorem sim_window (ws ws' : Sql.WindowSpec) (h : Sql.WindowSpec.Varies V ws ws') :
    Sim w (Window.Similar K) (window ws) (window ws') := by
  match ws, ws', h with
  | ⟨name, _, reference, partitionBy, orderBy, _, startOffset, stopOffset⟩,
    ⟨name', _, reference', partitionBy', orderBy', _, startOffset', stopOffset'⟩,
    .mk hname hreference hpartitionBy horderBy hstartOffset hstopOffset =>
    refine (sim_exprs partitionBy partitionBy' hpartitionBy).bind fun _ _ hp => ?_
    refine (sim_orderKeys orderBy orderBy' horderBy).bind fun _ _ ho => ?_
    refine (sim_exprOption startOffset startOffset' hstartOffset).bind fun _ _ hstart => ?_
    refine (sim_exprOption stopOffset stopOffset' hstopOffset).bind fun _ _ hstop => ?_
    -- the names are folded by the dialect, and the ways of folding agree
    refine sim_dialect.bind ?_
    rintro _ _ ⟨rfl, rfl⟩
    exact .pure (.mk (hw.option_fold_eq hname) (hw.option_fold_eq hreference) hp ho hstart hstop)
termination_by structural ws

theorem sim_windowOption (ws ws' : Option Sql.WindowSpec)
    (h : Option.Rel (Sql.WindowSpec.Varies V) ws ws') :
    Sim w (Option.Rel (Window.Similar K)) (windowOption ws) (windowOption ws') := by
  match ws, ws', h with
  | none, none, .none => exact .pure .none
  | some ws, some ws', .some h =>
    exact (sim_window ws ws' h).bind fun _ _ hwin => .pure (.some hwin)
termination_by structural ws

theorem sim_windows (ws ws' : List Sql.WindowSpec)
    (h : List.Forall₂ (Sql.WindowSpec.Varies V) ws ws') :
    Sim w (List.Forall₂ (Window.Similar K)) (windows ws) (windows ws') := by
  match ws, ws', h with
  | [], [], .nil => exact .pure .nil
  | x :: ws, x' :: ws', .cons h hs =>
    exact (sim_window x x' h).bind fun _ _ hwin => (sim_windows ws ws' hs).bind fun _ _ hwins =>
      .pure (.cons hwin hwins)
termination_by structural ws

theorem sim_query (q q' : Sql.Query) (h : Sql.Query.Varies V q q') :
    Sim w (Select.Similar K) (query q) (query q') := by
  match q, q', h with
  | ⟨recursive, ctes, body, orderBy, limit, offset, rows, fetch, quantity, tail⟩,
    ⟨recursive', ctes', body', orderBy', limit', offset', rows', fetch', quantity', tail'⟩,
    .mk hctes hbody horderBy hlimit hoffset hquantity =>
    exact sim_query_of hw _ _ (sim_namedQueries ctes ctes' hctes) (sim_setExpr body body' hbody)
      (sim_orderKeys orderBy orderBy' horderBy) (sim_exprOption limit limit' hlimit)
      (sim_exprOption offset offset' hoffset) (sim_exprOption quantity quantity' hquantity)
termination_by structural q

theorem sim_namedQueries (cs cs' : List Sql.Cte) (h : List.Forall₂ (Sql.Cte.Varies V) cs cs') :
    Sim w (List.Forall₂ (NamedQuery.Similar K)) (namedQueries cs) (namedQueries cs') := by
  match cs, cs', h with
  | [], [], .nil => exact .pure .nil
  | ⟨tableAlias, materialized, q, source⟩ :: cs, ⟨tableAlias', materialized', q', source'⟩ :: cs',
    .cons (.mk hname hq) hs =>
    exact (sim_ident hw hname).step fun name => (sim_query q q' hq).bind fun _ _ hquery =>
      (sim_namedQueries cs cs' hs).bind fun _ _ hns => .pure (.cons (.mk rfl (.select hquery)) hns)
termination_by structural cs

theorem sim_setExpr (b b' : Sql.SetExpr) (h : Sql.SetExpr.Varies V b b') :
    Sim w (Select.Similar K) (setExpr b) (setExpr b') := by
  match b with
  | .select s =>
    cases h with
    | select h => exact sim_select s _ h
  | .query q =>
    cases h with
    | query h => exact sim_query q _ h
  | .operation op quantifier left right =>
    cases h with
    | operation _ _ hleft hright =>
      exact (sim_setExpr left _ hleft).bind fun _ _ hl => (sim_setExpr right _ hright).bind
        fun _ _ hr => .pure (.mk .nil .nil .nil .nil .none .nil .nil .none .nil .nil .none .none
          .nil rfl rfl (.some hl) (.some hr))
  | .values explicit items =>
    cases h with
    | values _ _ h =>
      exact (sim_rows items _ h).bind fun _ _ hns => .pure (.mk .nil .nil .nil .nil .none .nil .nil
        .none .nil .nil .none .none hns rfl rfl .none .none)
  | .unmapped kind text =>
    cases h with
    | unmapped _ h =>
      exact (sim_skip hw kind h).bind fun _ _ hn => (sim_target hw none hn).bind fun _ _ ht =>
        .pure (.mk .nil (.cons ht .nil) .nil .nil .none .nil .nil .none .nil .nil .none .none .nil
          rfl rfl .none .none)
termination_by structural b

theorem sim_rows (rs rs' : List (List Sql.Expr))
    (h : List.Forall₂ (List.Forall₂ (Sql.Expr.Varies V)) rs rs') :
    Sim w (List.Forall₂ (Node.Similar K)) (rows rs) (rows rs') := by
  match rs, rs', h with
  | [], [], .nil => exact .pure .nil
  | row :: rs, row' :: rs', .cons h hs =>
    exact (sim_exprs row row' h).bind fun _ _ hes => (sim_rows rs rs' hs).bind fun _ _ hns =>
      .pure (.cons (.list hes) hns)
termination_by structural rs

theorem sim_select (s s' : Sql.Select) (h : Sql.Select.Varies V s s') :
    Sim w (Select.Similar K) (select s) (select s') := by
  have hs := h
  match s, s', h with
  | ⟨_, distinctOn, _, projection, _, source, _, condition, _, groupBy, _, having, ws, _, _⟩,
    ⟨_, distinctOn', _, projection', _, source', _, condition', _, groupBy', _, having', ws', _, _⟩,
    .mk hdistinctOn htop hprojection hsource hlateralViews hcondition hgroupAll hgroupBy hhaving
      hwindows hwindowFirst hqualify =>
    exact sim_select_of hw _ _ hs (sim_exprs distinctOn distinctOn' hdistinctOn)
      (sim_selectItems projection projection' hprojection)
      (sim_tables ⟨.nil, .nil⟩ source source' hsource)
      (sim_exprOption condition condition' hcondition) (sim_exprs groupBy groupBy' hgroupBy)
      (sim_exprOption having having' hhaving) (sim_windows ws ws' hwindows)
termination_by structural s

theorem sim_selectItems (is is' : List Sql.SelectItem)
    (h : List.Forall₂ (Sql.SelectItem.Varies V) is is') :
    Sim w (List.Forall₂ (Node.Similar K)) (selectItems is) (selectItems is') := by
  match is, is', h with
  | [], [], .nil => exact .pure .nil
  | .value value :: is, .value value' :: is', .cons (.value h) hs =>
    exact (sim_expr value value' h).bind fun _ _ hn => (sim_target hw none hn).bind fun _ _ ht =>
      (sim_selectItems is is' hs).bind fun _ _ hns => .pure (.cons ht hns)
  | .aliased value aliasName :: is, .aliased value' aliasName' :: is',
    .cons (.aliased h halias) hs =>
    exact (sim_expr value value' h).bind fun _ _ hn => (sim_ident hw halias).step fun name =>
      (sim_target hw (some name) hn).bind fun _ _ ht => (sim_selectItems is is' hs).bind
        fun _ _ hns => .pure (.cons ht hns)
  | .star :: is, .star :: is', .cons .star hs =>
    exact (sim_starRef hw .nil).bind fun _ _ hn => (sim_target hw none hn).bind fun _ _ ht =>
      (sim_selectItems is is' hs).bind fun _ _ hns => .pure (.cons ht hns)
  | .qualifiedStar name :: is, .qualifiedStar name' :: is', .cons (.qualifiedStar h) hs =>
    exact (sim_starRef hw h).bind fun _ _ hn => (sim_target hw none hn).bind fun _ _ ht =>
      (sim_selectItems is is' hs).bind fun _ _ hns => .pure (.cons ht hns)
termination_by structural is

theorem sim_tables {acc acc' : Sources} (hacc : acc.Similar K acc')
    (ts ts' : List Sql.TableWithJoins) (h : List.Forall₂ (Sql.TableWithJoins.Varies V) ts ts') :
    Sim w (Sources.Similar K) (tables acc ts) (tables acc' ts') := by
  match ts, ts', h with
  | [], [], .nil => exact .pure hacc
  | t :: ts, t' :: ts', .cons h hs =>
    exact (sim_table hacc t t' h).bind fun _ _ hacc => sim_tables hacc ts ts' hs
termination_by structural ts

theorem sim_table {acc acc' : Sources} (hacc : acc.Similar K acc') (t t' : Sql.TableWithJoins)
    (h : Sql.TableWithJoins.Varies V t t') :
    Sim w (Sources.Similar K) (table acc t) (table acc' t') := by
  match t, t', h with
  | ⟨relation, js⟩, ⟨relation', js'⟩, .mk hrelation hjoins =>
    exact (sim_factor hacc relation relation' hrelation).bind fun _ _ hacc =>
      sim_joins hacc js js' hjoins
termination_by structural t

theorem sim_joins {acc acc' : Sources} (hacc : acc.Similar K acc') (js js' : List Sql.Join)
    (h : List.Forall₂ (Sql.Join.Varies V) js js') :
    Sim w (Sources.Similar K) (joins acc js) (joins acc' js') := by
  match js, js', h with
  | [], [], .nil => exact .pure hacc
  | ⟨everywhere, kind, relation, shared, on⟩ :: js,
    ⟨everywhere', kind', relation', shared', on'⟩ :: js',
    .cons (.mk hkind hrelation hshared hon) hs =>
    exact sim_joins_of hw hacc _ _ (.mk hkind hrelation hshared hon)
      (sim_factor hacc relation relation' hrelation) (sim_exprOption on on' hon)
      fun _ _ hacc => sim_joins hacc js js' hs
termination_by structural js

theorem sim_factor {acc acc' : Sources} (hacc : acc.Similar K acc') (f f' : Sql.TableFactor)
    (h : Sql.TableFactor.Varies V f f') :
    Sim w (Sources.Similar K) (factor acc f) (factor acc' f') := by
  match f with
  | .table name before tableAlias after =>
    cases h with
    | table _ _ _ _ hname halias =>
      exact (sim_tableRef hw hname halias).step fun ref =>
        .pure ⟨List.rel_append hacc.items (.cons (.table ref) .nil), hacc.conditions⟩
  | .derived lateral q tableAlias =>
    cases h with
    | derived _ _ hq halias =>
      refine (sim_query q _ hq).bind fun _ _ hs => sim_dialect.bind ?_
      rintro _ _ ⟨rfl, rfl⟩
      have hname := hw.option_fold_eq halias
      rw [Option.map_map, Option.map_map] at hname
      refine .pure ⟨List.rel_append hacc.items (.cons ?_ .nil), hacc.conditions⟩
      exact hname ▸ .derived _ _ (.select hs)
  | .nestedJoin inner tableAlias =>
    cases h with
    | nestedJoin _ _ h => exact sim_table hacc inner _ h
  | .unmapped kind text =>
    cases h with
    | unmapped _ h =>
      -- the source has no item of its own, and its placeholders go to the conditions
      exact (hw.note kind).step fun _ => (hw.text _ _ h).bind fun _ _ hparams => .pure
        ⟨hacc.items, hacc.conditions.append (.single hparams)⟩
termination_by structural f

end

/-! ## Statements -/

theorem sim_assignments {as as' : List Sql.Assignment}
    (h : List.Forall₂ (Sql.Assignment.Varies V) as as') :
    Sim w (List.Forall₂ (Node.Similar K)) (assignments as) (assignments as') := by
  induction h with
  | nil => exact .pure .nil
  | cons h _ ih =>
    cases h with
    | column hname h =>
      exact (sim_lastIdent hw hname).step fun name => (sim_expr hw _ _ h).bind fun _ _ hn =>
        (sim_target hw (some name) hn).bind fun _ _ ht => ih.bind fun _ _ hns =>
          .pure (.cons ht hns)
    | tuple h =>
      exact (sim_skip hw _ h).bind fun _ _ hn => (sim_target hw none hn).bind fun _ _ ht =>
        ih.bind fun _ _ hns => .pure (.cons ht hns)

theorem sim_onInsert {on on' : Option Sql.OnInsert}
    (h : Option.Rel (Sql.OnInsert.Varies V) on on') :
    Sim w (fun x x' => List.Forall₂ (Node.Similar K) x.1 x'.1 ∧
      Option.Rel (Node.Similar K) x.2 x'.2) (onInsert on) (onInsert on') := by
  cases h with
  | none => exact .pure ⟨.nil, .none⟩
  | some h =>
    cases h with
    | duplicateKeyUpdate h =>
      exact (sim_assignments hw h).bind fun _ _ hns => .pure ⟨hns, .none⟩
    | conflictNothing _ _ => exact .pure ⟨.nil, .none⟩
    | conflictUpdate _ _ h hcondition =>
      exact (sim_assignments hw h).bind fun _ _ hns =>
        (sim_exprOption hw _ _ hcondition).bind fun _ _ hc => .pure ⟨hns, hc⟩

theorem sim_insertSource {q q' : Option Sql.Query} (h : Option.Rel (Sql.Query.Varies V) q q') :
    Sim w (Select.Similar K) (insertSource q) (insertSource q') := by
  cases h with
  | none => exact .pure .empty
  | some h => exact sim_query hw _ _ h

theorem sim_insert {i i' : Sql.Insert} (h : Sql.Insert.Varies V i i') :
    Sim w (Node.Similar K) (insert i) (insert i') := by
  have htable : Sim w Eq
      (tryCatch (tableRef i.table i.aliasName) fun _ => throw (.insertTarget i.table))
      (tryCatch (tableRef i'.table i'.aliasName) fun _ => throw (.insertTarget i'.table)) :=
    .tryCatch (sim_tableRef hw h.table h.aliasName) fun _ _ => .throw (hw.insertTarget _ _ h.table)
  -- the columns of an INSERT have no place in the text: all stand at the start of the statement
  have hcolumns : List.Forall₂ (Node.Similar K)
      (i.columns.map fun c => .target (some (fold w.setting.dialect c)) none w.setting.fallback)
      (i'.columns.map fun c =>
        .target (some (fold w.setting'.dialect c)) none w.setting'.fallback) := by
    rw [List.forall₂_map_left_iff, List.forall₂_map_right_iff]
    refine h.columns.imp fun c c' hc => ?_
    rw [hw.fold_eq hc]
    exact .target _ .none hw.location
  refine htable.step fun table => sim_dialect.bind ?_
  rintro _ _ ⟨rfl, rfl⟩
  refine sim_read.bind ?_
  rintro _ _ ⟨rfl, rfl⟩
  refine (sim_insertSource hw h.source).bind fun _ _ hsource => ?_
  refine (sim_onInsert hw h.onInsert).bind fun _ _ hon => ?_
  refine (sim_selectItems hw _ _ h.returning).bind fun _ _ hreturning => ?_
  exact .pure (.insert (.mk rfl hcolumns hsource hon.1 hon.2 hreturning))

theorem sim_tableOption {acc acc' : Sources} (hacc : acc.Similar K acc')
    {t t' : Option Sql.TableWithJoins} (h : Option.Rel (Sql.TableWithJoins.Varies V) t t') :
    Sim w (Sources.Similar K) (tableOption acc t) (tableOption acc' t') := by
  cases h with
  | none => exact .pure hacc
  | some h => exact sim_table hw hacc _ _ h

theorem sim_update {u u' : Sql.Update} (h : Sql.Update.Varies V u u') :
    Sim w (Node.Similar K) (update u) (update u') := by
  refine (sim_table hw ⟨.nil, .nil⟩ _ _ h.table).bind fun source source' hsource => ?_
  refine (sim_assignments hw h.assignments).bind fun targets targets' htargets => ?_
  refine (sim_tableOption hw hsource h.source).bind fun source source' hsource => ?_
  refine (sim_exprOption hw _ _ h.condition).bind fun condition condition' hcondition => ?_
  refine (sim_selectItems hw _ _ h.returning).bind fun returning returning' hreturning => ?_
  obtain ⟨items, conditions⟩ := source
  obtain ⟨items', conditions'⟩ := source'
  obtain ⟨hitems, hconditions⟩ := hsource
  -- the first item is a table on both sides or on neither
  cases hitems with
  | nil => exact .throw (hw.sameError _)
  | cons hitem hitems =>
    cases hitem with
    | table ref =>
      exact .pure (.update (.mk rfl htargets hitems hconditions hcondition hreturning))
    | _ => exact .throw (hw.sameError _)

theorem sim_delete {s s' : Sql.Delete} (h : Sql.Delete.Varies V s s') :
    Sim w (Node.Similar K) (delete s) (delete s') := by
  -- of the targets only their presence counts
  rw [delete, delete, h.targets.length_eq]
  refine (sim_noteIf hw _ _).step fun _ => ?_
  refine (sim_tables hw ⟨.nil, .nil⟩ _ _ h.source).bind fun source source' hsource => ?_
  refine (sim_tables hw hsource _ _ h.others).bind fun source source' hsource => ?_
  obtain ⟨items, conditions⟩ := source
  obtain ⟨items', conditions'⟩ := source'
  obtain ⟨hitems, hconditions⟩ := hsource
  cases hitems with
  | nil => exact .throw (hw.sameError _)
  | cons hitem hitems =>
    cases hitem with
    | table ref =>
      exact (sim_exprOption hw _ _ h.condition).bind fun _ _ hcondition =>
        (sim_orderKeys hw _ _ h.orderBy).bind fun _ _ hkeys =>
          (sim_exprOption hw _ _ h.limit).bind fun _ _ hlimit =>
            (sim_selectItems hw _ _ h.returning).bind fun _ _ hreturning =>
              .pure (.delete (.mk rfl hitems hconditions hcondition hkeys hlimit hreturning))
    | _ => exact .throw (hw.sameError _)

theorem columnDef_eq {c c' : Sql.ColumnDecl} (h : Sql.ColumnDecl.Varies V c c') :
    columnDef w.setting.dialect c = columnDef w.setting'.dialect c' := by
  -- whether a column is NOT NULL depends on the kinds of its options, and these agree
  have hnotNull (start : Bool) : notNullAfter start c.options = notNullAfter start c'.options := by
    have hoptions := h.options
    generalize c.options = os, c'.options = os' at hoptions
    induction os generalizing start os' with
    | nil =>
      cases List.map_eq_nil_iff.1 hoptions.symm
      rfl
    | cons o os ih =>
      cases os' with
      | nil => cases hoptions
      | cons o' os' =>
        obtain ⟨ho, hos⟩ := List.cons.inj hoptions
        rw [notNullAfter, notNullAfter, List.foldl_cons, List.foldl_cons, ho]
        exact ih _ os' hos
  rw [columnDef, columnDef, hw.fold_eq h.name, ← hw.dialect, hw.type _ _ h.type]
  exact congrArg (ColumnDef.mk _ _) (hnotNull _)

theorem map_columnDef_eq {cs cs' : List Sql.ColumnDecl}
    (h : List.Forall₂ (Sql.ColumnDecl.Varies V) cs cs') :
    cs.map (columnDef w.setting.dialect) = cs'.map (columnDef w.setting'.dialect) := by
  induction h with
  | nil => rfl
  | cons h _ ih => rw [List.map_cons, List.map_cons, columnDef_eq hw h, ih]

theorem keyColumns_eq {cs cs' : List Sql.TableConstraint}
    (h : List.Forall₂ (List.Forall₂ V.ident) (cs.map Sql.TableConstraint.key)
      (cs'.map Sql.TableConstraint.key)) :
    keyColumns w.setting.dialect cs = keyColumns w.setting'.dialect cs' := by
  rw [List.forall₂_map_left_iff, List.forall₂_map_right_iff] at h
  rw [keyColumns, keyColumns]
  induction h with
  | nil => rfl
  | cons h _ ih => rw [List.flatMap_cons, List.flatMap_cons, hw.map_fold_eq h, ih]

theorem sim_createTable {t t' : Sql.CreateTable} (h : Sql.CreateTable.Varies V t t') :
    Sim w (Node.Similar K) (createTable t) (createTable t') := by
  -- of another table or a query to copy only its presence counts
  rw [createTable, createTable, isSome_eq h.query, isSome_eq h.like, h.ifNotExists]
  split
  · exact .pure (.unsupported _ hw.noParams)
  · split
    · exact .pure (.unsupported _ hw.noParams)
    · refine (sim_tableName hw h.name).step fun name => sim_dialect.bind ?_
      rintro _ _ ⟨rfl, rfl⟩
      have hcolumns := congrArg (List.map fun column : ColumnDef =>
        { column with notNull := column.notNull ||
          (keyColumns w.setting.dialect t.constraints).contains column.name })
        (map_columnDef_eq hw h.columns)
      rw [List.map_map, List.map_map, keyColumns_eq hw h.keys] at hcolumns
      rw [keyColumns_eq hw h.keys]
      exact .pure (congrArg (fun columns => Node.schemaChange (.createTable name _ columns))
        hcolumns ▸ .schemaChange _)

theorem sim_alterCommands {c c' : Sql.TableChange} (h : Sql.TableChange.Varies V c c') :
    Sim w Eq (alterCommands c) (alterCommands c') := by
  refine sim_dialect.bind ?_
  rintro _ _ ⟨rfl, rfl⟩
  cases h with
  | addColumn _ h => exact .pure (by rw [columnDef_eq hw h])
  | dropColumn _ h => exact .pure (by rw [hw.fold_eq h])
  | changeColumn hname h => exact .pure (by rw [hw.fold_eq hname, columnDef_eq hw h])
  | setNotNull _ h => exact .pure (by rw [hw.fold_eq h])
  | setType hname htype =>
    exact .pure (by rw [hw.fold_eq hname, hw.type _ _ htype, hw.dialect])
  | renameColumn hname hnewName => exact .pure (by rw [hw.fold_eq hname, hw.fold_eq hnewName])
  | renameTable h => exact (sim_tableName hw h).step fun _ => .pure rfl
  | nothing => exact .pure rfl

theorem sim_alterTable {a a' : Sql.AlterTable} (h : Sql.AlterTable.Varies V a a') :
    Sim w (Node.Similar K) (alterTable a) (alterTable a') := by
  have hchanges := h.changes
  rw [List.forall₂_map_left_iff, List.forall₂_map_right_iff] at hchanges
  rw [alterTable, alterTable, h.ifExists]
  refine (sim_tableName hw h.name).step fun table => ?_
  refine (Sim.mapM (fun _ _ h => sim_alterCommands hw h) hchanges).bind fun _ _ hcommands => ?_
  rw [List.forall₂_eq_eq_eq] at hcommands
  exact .pure (hcommands ▸ .schemaChange _)

theorem sim_dropTables (ifExists : Bool) {names names' : List Sql.ObjectName}
    (h : List.Forall₂ (Sql.ObjectName.Varies V) names names') :
    Sim w (Node.Similar K) (dropTables names ifExists) (dropTables names' ifExists) := by
  refine (Sim.mapM (fun _ _ h => sim_tableName hw h) h).bind fun _ _ hnames => ?_
  rw [List.forall₂_eq_eq_eq] at hnames
  exact .pure (hnames ▸ .schemaChange _)

theorem sim_createSchema (ifNotExists : Bool) {name name' : Sql.ObjectName}
    (h : Sql.ObjectName.Varies V name name') :
    Sim w (Node.Similar K) (createSchema name ifNotExists) (createSchema name' ifNotExists) :=
  (sim_lastIdent hw h).step fun _ => .pure (.schemaChange _)

theorem sim_statement {t t' : Sql.Statement} (h : Sql.Statement.Varies V t t') :
    Sim w (Node.Similar K) (statement t) (statement t') := by
  cases h with
  | query h => exact (sim_query hw _ _ h).bind fun _ _ hs => .pure (.select hs)
  | insert h => exact sim_insert hw h
  | update h => exact sim_update hw h
  | delete h => exact sim_delete hw h
  | createTable h => exact sim_createTable hw h
  | alterTable h => exact sim_alterTable hw h
  | dropTables ifExists _ _ h => exact sim_dropTables hw ifExists h
  | createSchema ifNotExists _ _ h => exact sim_createSchema hw ifNotExists h
  | unmapped kind h => exact (hw.text _ _ h).bind fun _ _ hparams => .pure (.unsupported _ hparams)

end TypedSql.Canonical.Conversion
