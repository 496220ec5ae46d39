import TypedSql.Proofs.Conversion.Shape
import TypedSql.Proofs.Conversion.Simulation
import TypedSql.Proofs.Queries.Alike

/-!
# Tested queries

A query that IN or EXISTS tests may fail to convert; its statement then goes on without it. Another
query in its place changes what stands below the test and what is noted of it, and no more: not
whether the statement converts, and not why it does not, as long as the LIMITs of the statement are
read in the same order.

- **Runs**: comparisons that look at the notes only
- **One query**: what a query notes, and whether it converts, does not depend on its place
- **Replaced queries**: statements that are the same but for the queries that they test
-/

namespace TypedSql.Canonical

namespace Conversion

/-! ## Runs -/

/-- Trees with the same names, types and texts. Tested queries may be replaced. -/
def replacing (tested : Sql.Query → Sql.Query → Prop) : Sql.Variation := ⟨Eq, Eq, Eq, tested⟩

theorem replacing_reflexive (tested : Sql.Query → Sql.Query → Prop) :
    (replacing tested).Reflexive := ⟨Eq.refl, Eq.refl, Eq.refl⟩

/-- Trees in which placeholders may have other numbers and locations, and targets other
locations. -/
def renumbered (tested : Option Node → Option Node → Prop) : Kinship where
  param _ _ := True
  location _ _ := True
  params := List.Forall₂ fun n n' => n.isParam = true ∧ n'.isParam = true
  tested := tested

/-- Two runs of which only the notes are compared. -/
def byNotes (s s' : Setting) (notes : List String → List String → Prop)
    (error : ConversionError → ConversionError → Prop) : Comparison :=
  ⟨s, s', fun p p' => notes p.unsupported p'.unsupported, error⟩

/-- Claiming a placeholder notes nothing. -/
theorem exists_run_claim (text : String) (s : Setting) (p : Progress) :
    ∃ offset q, (claim text).run s p = (.ok offset, q) ∧ q.unsupported = p.unsupported := by
  cases htake : takePlaceholder text p.unclaimed with
  | none => exact ⟨_, _, run_claim_of_none htake, rfl⟩
  | some found => exact ⟨_, _, run_claim_of_some htake, rfl⟩

/-- A placeholder that the dialect knows is converted wherever it stands. -/
theorem exists_run_param {text : String} {s : Setting}
    (h : (paramNumber? s.dialect text 1).isSome = true) (p : Progress) :
    ∃ number location q, (param text).run s p = (.ok (.param number location), q) ∧
      q.unsupported = p.unsupported := by
  rw [isSome_paramNumber? s.dialect text 1 (p.seen + 1)] at h
  obtain ⟨number, hnumber⟩ := Option.isSome_iff_exists.mp h
  obtain ⟨location, q, hclaim, hq⟩ := exists_run_claim text s { p with seen := p.seen + 1 }
  exact ⟨number, location, q, run_param_of_some hnumber hclaim, hq⟩

theorem run_param_of_unknown {text : String} {s : Setting}
    (h : (paramNumber? s.dialect text 1).isSome = false) (p : Progress) :
    (param text).run s p = (.error (.placeholder text), p) := by
  rw [isSome_paramNumber? s.dialect text 1 (p.seen + 1), Option.isSome_eq_false_iff,
    Option.isNone_iff_eq_none] at h
  exact run_param_of_none h

section Runs

variable {s s' : Setting} {notes : List String → List String → Prop}
  {error : ConversionError → ConversionError → Prop}

theorem sim_byNotes_note (hnotes : ∀ xs xs' x, notes xs xs' → notes (xs ++ [x]) (xs' ++ [x]))
    (construct : String) :
    Sim (byNotes s s' notes error) Eq (note construct) (note construct) :=
  fun _ _ hp => .ok rfl (hnotes _ _ construct hp)

variable (hdialect : s.dialect = s'.dialect) (herror : ∀ e, error e e)
include hdialect herror

theorem sim_byNotes_param (text : String) :
    Sim (byNotes s s' notes error) (fun n n' => n.isParam = true ∧ n'.isParam = true) (param text)
      (param text) := by
  intro p p' hp
  show Agrees _ _ ((param text).run s p) ((param text).run s' p')
  -- the text is a placeholder in both or in neither, for it is the dialect that decides
  cases h : (paramNumber? s.dialect text 1).isSome with
  | true =>
    obtain ⟨number, location, q, hrun, hq⟩ := exists_run_param h p
    obtain ⟨number', location', q', hrun', hq'⟩ := exists_run_param (hdialect ▸ h) p'
    have hprogress : notes q.unsupported q'.unsupported := by
      rw [hq, hq']
      exact hp
    rw [hrun, hrun']
    exact .ok ⟨rfl, rfl⟩ hprogress
  | false =>
    rw [run_param_of_unknown h, run_param_of_unknown (hdialect ▸ h)]
    exact .error (herror _) hp

theorem sim_byNotes_params (texts : List String) :
    Sim (byNotes s s' notes error) (List.Forall₂ fun n n' => n.isParam = true ∧ n'.isParam = true)
      (params texts) (params texts) := by
  induction texts with
  | nil => exact .pure .nil
  | cons text texts ih =>
    -- a text that is no placeholder is passed over in both
    have hattempt : Sim (byNotes s s' notes error)
        (Option.Rel fun n n' => n.isParam = true ∧ n'.isParam = true)
        (tryCatch (some <$> param text) fun _ => return none)
        (tryCatch (some <$> param text) fun _ => return none) :=
      .tryCatch ((sim_byNotes_param hdialect herror text).map fun _ _ hn => .some hn) fun _ _ =>
        .pure .none
    exact hattempt.bind fun _ _ hn => ih.bind fun _ _ hns =>
      .pure (List.rel_append (forall₂_toList hn) hns)

theorem fits_byNotes (hnotes : ∀ xs xs' x, notes xs xs' → notes (xs ++ [x]) (xs' ++ [x]))
    (horder : s.limitComma = s'.limitComma ∨
      (∀ xs xs', notes xs xs') ∧ ∀ e e', error e e')
    {T : Sql.Query → Sql.Query → Prop} {K : Option Node → Option Node → Prop}
    (htested : ∀ q q', T q q' →
      Sim (byNotes s s' notes error) K (tested (query q)) (tested (query q'))) :
    (byNotes s s' notes error).Fits (replacing T) (renumbered K) where
  dialect := hdialect
  order := horder.imp_right fun h => ⟨fun p p' => h.1 _ _, h.2⟩
  location := trivial
  sameError := herror
  tableName name name' h := by
    rw [Sql.ObjectName.Varies, replacing, List.forall₂_eq_eq_eq] at h
    exact h ▸ herror _
  insertTarget name name' h := by
    rw [Sql.ObjectName.Varies, replacing, List.forall₂_eq_eq_eq] at h
    exact h ▸ herror _
  ident i i' h := by
    cases h
    exact ⟨rfl, rfl⟩
  type t t' h := by
    cases h
    rfl
  sameText _ := rfl
  note := sim_byNotes_note hnotes
  param text := by
    intro p p' hp
    refine (sim_byNotes_param hdialect herror text p p' hp).imp fun n n' hn => ?_
    cases n with
    | param number location =>
      cases n' with
      | param number' location' => exact .param trivial
      | _ => cases hn.2
    | _ => cases hn.1
  text text text' h := by
    cases h
    -- the dialects are equal, so the same placeholders are found in the text
    refine sim_dialect.bind ?_
    rintro _ _ ⟨rfl, rfl⟩
    have hsame : placeholdersOf s'.dialect text = placeholdersOf s.dialect text := by rw [hdialect]
    show Sim _ _ (params (placeholdersOf s.dialect text)) (params (placeholdersOf s'.dialect text))
    rw [hsame]
    exact sim_byNotes_params hdialect herror _
  noParams := .nil
  tested := htested

end Runs

/-! ## One query -/

/-- Whether a query converts. -/
def converts (d : Dialect) (q : Sql.Query) : Bool :=
  ((query q).run ⟨d, 0, false⟩ (.start [])).1.toOption.isSome

/-- What is noted of a query that a predicate tests: the constructs without canonical form that its
conversion comes across, and the query itself if it does not convert. -/
def testNotes (d : Dialect) (comma : Bool) (q : Sql.Query) : List String :=
  ((query q).run ⟨d, 0, comma⟩ (.start [])).2.unsupported ++
    if converts d q then [] else ["subquery"]

/-- Nothing can be replaced. -/
theorem sim_query_self (s s' : Setting) (notes : List String → List String → Prop)
    (error : ConversionError → ConversionError → Prop) (hdialect : s.dialect = s'.dialect)
    (herror : ∀ e, error e e)
    (hnotes : ∀ xs xs' x, notes xs xs' → notes (xs ++ [x]) (xs' ++ [x]))
    (horder : s.limitComma = s'.limitComma ∨ (∀ xs xs', notes xs xs') ∧ ∀ e e', error e e')
    (q : Sql.Query) :
    Sim (byNotes s s' notes error) (Select.Similar (renumbered fun _ _ => False)) (query q)
      (query q) :=
  sim_query (fits_byNotes hdialect herror hnotes horder (T := fun _ _ => False)
    fun _ _ h => h.elim) q q (.refl (replacing_reflexive _) q)

/-- Whether a query converts does not depend on its place, nor on the order in which the operands of
LIMITs are read. -/
theorem isSome_run_query (q : Sql.Query) (s : Setting) (p : Progress) :
    ((query q).run s p).1.toOption.isSome = converts s.dialect q := by
  -- with nothing to keep of notes and errors the operands may be read in any order
  have hagrees := sim_query_self s ⟨s.dialect, 0, false⟩ (fun _ _ => True) (fun _ _ => True) rfl
    (fun _ => trivial) (fun _ _ _ _ => trivial) (.inr ⟨fun _ _ => trivial, fun _ _ => trivial⟩) q p
    (.start []) trivial
  exact hagrees.isSome_eq

/-- A query notes the same wherever it stands. -/
theorem unsupported_run_query (q : Sql.Query) (s : Setting) (p : Progress) :
    ((query q).run s p).2.unsupported = p.unsupported ++
      ((query q).run ⟨s.dialect, 0, s.limitComma⟩ (.start [])).2.unsupported := by
  -- compared with the run that starts without notes
  have hagrees := sim_query_self s ⟨s.dialect, 0, s.limitComma⟩
    (fun xs xs' => xs = p.unsupported ++ xs') Eq rfl (fun _ => rfl)
    (fun xs xs' x h => by rw [h, List.append_assoc]) (.inl rfl) q p (.start [])
    (List.append_nil _).symm
  exact hagrees.progress

/-- What testing a query comes to: a query below the test if it converts, and a note if it does
not. -/
theorem exists_run_tested (q : Sql.Query) (s : Setting) (p : Progress) :
    ∃ sub p', (tested (query q)).run s p = (.ok sub, p') ∧ sub.isSome = converts s.dialect q ∧
      p'.unsupported = p.unsupported ++ testNotes s.dialect s.limitComma q := by
  have hconverts := isSome_run_query q s p
  have hnotes := unsupported_run_query q s p
  rw [tested, run_tryCatch, run_bind]
  -- a query that fails is noted as a subquery, behind what it had noted itself
  rcases hrun : (query q).run s p with ⟨e | a, p₁⟩ <;> rw [hrun] at hconverts hnotes
  · refine ⟨none, { p₁ with unsupported := p₁.unsupported ++ ["subquery"] }, rfl, hconverts, ?_⟩
    have hfails : converts s.dialect q = false := hconverts.symm
    rw [testNotes, hfails, ← List.append_assoc]
    exact congrArg (· ++ ["subquery"]) hnotes
  · refine ⟨some (.select a), p₁, rfl, hconverts, ?_⟩
    have hsucceeds : converts s.dialect q = true := hconverts.symm
    rw [testNotes, hsucceeds, if_pos rfl, List.append_nil]
    exact hnotes

/-! ## Replaced queries -/

/-- A query stands below a test exactly if the query that is written there converts: `q` on one
side, `q'` on the other. -/
def testing (d : Dialect) (q q' : Sql.Query) (sub sub' : Option Node) : Prop :=
  sub.isSome = converts d q ∧ sub'.isSome = converts d q'

/-- The same notes, but for those of a query `q` that is tested on one side and of a query `q'` that
is tested there on the other. -/
def SameNotes (d : Dialect) (comma : Bool) (q q' : Sql.Query) : List String → List String → Prop :=
  Spliced Eq fun xs xs' => xs = testNotes d comma q ∧ xs' = testNotes d comma q'

theorem sim_tested_replaced {s s' : Setting} {notes : List String → List String → Prop}
    {error : ConversionError → ConversionError → Prop} (hdialect : s.dialect = s'.dialect)
    (q q' : Sql.Query)
    (hnotes : ∀ xs xs', notes xs xs' → notes (xs ++ testNotes s.dialect s.limitComma q)
      (xs' ++ testNotes s'.dialect s'.limitComma q')) :
    Sim (byNotes s s' notes error) (testing s.dialect q q') (tested (query q))
      (tested (query q')) := by
  intro p p' hp
  obtain ⟨sub, r, hrun, hsub, hr⟩ := exists_run_tested q s p
  obtain ⟨sub', r', hrun', hsub', hr'⟩ := exists_run_tested q' s' p'
  show Agrees _ _ ((tested (query q)).run s p) ((tested (query q')).run s' p')
  have hprogress : notes r.unsupported r'.unsupported := by
    rw [hr, hr']
    exact hnotes _ _ hp
  rw [hrun, hrun']
  exact .ok ⟨hsub, hdialect ▸ hsub'⟩ hprogress

/-- Tests of `q` are replaced by tests of `q'`. -/
def retested (q q' : Sql.Query) : Sql.Variation := replacing fun x x' => x = q ∧ x' = q'

variable {d : Dialect} {q q' : Sql.Query} {t t' : Sql.Statement}

/-- Both statements convert or none does, and the trees differ below the tests. -/
theorem run_statement_retested (h : t.Varies (retested q q') t') (s s' : Setting)
    (hs : s.dialect = d) (hs' : s'.dialect = d) (p p' : Progress) :
    Agrees (byNotes s s' (fun _ _ => True) fun _ _ => True)
      (Node.Similar (renumbered (testing d q q'))) ((statement t).run s p)
      ((statement t').run s' p') := by
  subst hs
  refine sim_statement (fits_byNotes hs'.symm (fun _ => trivial) (fun _ _ _ _ => trivial)
    (.inr ⟨fun _ _ => trivial, fun _ _ => trivial⟩) ?_) h p p' trivial
  rintro _ _ ⟨rfl, rfl⟩
  exact sim_tested_replaced hs'.symm _ _ fun _ _ _ => trivial

/-- If LIMITs are read in the same order, the errors are the same, and so are the notes but for
those of the tested queries. -/
theorem run_statement_retested_inOrder (h : t.Varies (retested q q') t') (s s' : Setting)
    (hs : s.dialect = d) (hs' : s'.dialect = d) (hlimit : s.limitComma = s'.limitComma)
    (p p' : Progress) (hp : p.unsupported = []) (hp' : p'.unsupported = []) :
    Agrees (byNotes s s' (SameNotes d s.limitComma q q') Eq)
      (Node.Similar (renumbered (testing d q q'))) ((statement t).run s p)
      ((statement t').run s' p') := by
  subst hs
  have hstart : SameNotes s.dialect s.limitComma q q' p.unsupported p'.unsupported := by
    rw [hp, hp']
    exact .nil
  refine sim_statement (fits_byNotes hs'.symm (fun _ => rfl)
    (fun _ _ _ hxs => hxs.append (.cons rfl .nil)) (.inl hlimit) ?_) h p p' hstart
  rintro _ _ ⟨rfl, rfl⟩
  -- the notes of one tested query are put behind those so far
  refine sim_tested_replaced hs'.symm _ _ fun _ _ hxs => hxs.append (.single ⟨rfl, ?_⟩)
  rw [hs', hlimit]

end Conversion

open Conversion

/-- What becomes of the tests of a query: they always convert, to a test with a query below it
exactly if the query converts, and the query is noted exactly if it does not. -/
structure TestedAlone (d : Dialect) (q : Sql.Query) : Prop where
  existsQuery (negated : Bool) {s : Setting} (hs : s.dialect = d) (p : Progress) :
    ∃ sub p', (expr (.exists q negated)).run s p = (.ok (.sublink .exists none sub negated), p') ∧
      sub.isSome = converts d q ∧
      p'.unsupported = p.unsupported ++ testNotes d s.limitComma q
  inQuery (negated : Bool) {s : Setting} (hs : s.dialect = d) {e : Sql.Expr} {p p₁ : Progress}
    {n : Node} (he : (expr e).run s p = (.ok n, p₁)) :
    ∃ sub p', (expr (.inQuery e q negated)).run s p =
        (.ok (.sublink .any (some n) sub negated), p') ∧
      sub.isSome = converts d q ∧
      p'.unsupported = p₁.unsupported ++ testNotes d s.limitComma q

theorem testedAlone (d : Dialect) (q : Sql.Query) : TestedAlone d q where
  existsQuery negated s hs p := by
    subst hs
    obtain ⟨sub, p', hrun, hsub, hp'⟩ := exists_run_tested q s p
    refine ⟨sub, p', ?_, hsub, hp'⟩
    rw [expr, run_bind, hrun]
    rfl
  inQuery negated s hs e p p₁ n he := by
    subst hs
    obtain ⟨sub, p', hrun, hsub, hp'⟩ := exists_run_tested q s p₁
    refine ⟨sub, p', ?_, hsub, hp'⟩
    rw [expr, run_bind, he]
    dsimp only
    rw [run_bind, hrun]
    rfl

/-- A query that a predicate tests may be replaced by any other one. The statement converts as it
did before, with a query below the test exactly if the new one converts. If it does not convert, the
error is the one that the statement had before if its LIMITs had been read in the order in which
those of the new text are. -/
theorem tested_query_replaceable (d : Dialect) {q q' : Sql.Query} {s s' : Sql.ScriptStatement}
    (h : s.tree.Varies (retested q q') s'.tree) :
    (convert d s).toOption.isSome = (convert d s').toOption.isSome ∧
    (∀ e, convert d s' = .error e ↔
      convert d { s with limitComma := s'.limitComma } = .error e) ∧
    (∀ c c', convert d s = .ok c → convert d s' = .ok c' →
      c.node.Similar (renumbered (testing d q q')) c'.node ∧
      (s.limitComma = s'.limitComma →
        SameNotes d s.limitComma q q' c.unsupported c'.unsupported)) ∧
    TestedAlone d q ∧ TestedAlone d q' := by
  have hfree := run_statement_retested (d := d) h ⟨d, s.start, s.limitComma⟩
    ⟨d, s'.start, s'.limitComma⟩ rfl rfl (.start s.placeholders) (.start s'.placeholders)
  have hordered (comma : Bool) := run_statement_retested_inOrder (d := d) h ⟨d, s.start, comma⟩
    ⟨d, s'.start, comma⟩ rfl rfl rfl (.start s.placeholders) (.start s'.placeholders) rfl rfl
  refine ⟨?_, fun e => ?_, fun c c' hc hc' => ⟨?_, fun hlimit => ?_⟩, testedAlone d q,
    testedAlone d q'⟩
  · have hsome := hfree.isSome_eq
    have hmap {α β : Type} (r : Except ConversionError α) (f : α → β) :
        (r.map f).toOption.isSome = r.toOption.isSome := by cases r <;> rfl
    rw [convert, convert, hmap, hmap]
    exact hsome
  · -- the first statement, read in the order of the second one
    have herrors := hordered s'.limitComma
    rw [convert, convert]
    generalize (statement s.tree).run _ _ = r at herrors
    generalize (statement s'.tree).run _ _ = r' at herrors
    cases herrors with
    | ok _ _ => simp [Except.map]
    | error he _ =>
      cases he
      rfl
  · rw [convert] at hc hc'
    generalize (statement s.tree).run _ _ = r at hfree hc
    generalize (statement s'.tree).run _ _ = r' at hfree hc'
    cases hfree with
    | ok hn _ =>
      cases hc
      cases hc'
      exact hn
    | error _ _ => cases hc
  · have hnotes := hordered s.limitComma
    rw [convert] at hc hc'
    rw [← hlimit] at hc'
    generalize (statement s.tree).run _ _ = r at hnotes hc
    generalize (statement s'.tree).run _ _ = r' at hnotes hc'
    cases hnotes with
    | ok _ hp =>
      cases hc
      cases hc'
      exact hp
    | error _ _ => cases hc

/-- What a statement of the simplest form is, apart from the query that it tests: a column of a
table in which EXISTS holds, and the placeholders of a LIMIT. -/
structure Frame where
  column : String
  table : String
  negated : Bool
  groupAll : Bool
  windowFirst : Bool
  limit : Option String
  offset : Option String

namespace Frame

/-- The placeholder of an operand, if there is one. -/
def operand? : Option Sql.Expr → Option (Option String)
  | none => some none
  | some (.literal (.placeholder text)) => some (some text)
  | _ => none

/-- The parts of a statement of the simplest form: what stands around the query that it tests, and
the query. -/
def of? : Sql.Statement → Option (Frame × Sql.Query)
  | .query ⟨_, [], .select ⟨_, [], none, [.value (.column ⟨column, none⟩ [])], _,
      [⟨.table [⟨table, none⟩] _ none _, []⟩], [], some (.exists q negated), groupAll, [], _, none,
      [], windowFirst, none⟩, [], limit, offset, _, _, none, _⟩ =>
    (operand? limit).bind fun limit => (operand? offset).map fun offset =>
      (⟨column, table, negated, groupAll, windowFirst, limit, offset⟩, q)
  | _ => none

/-- Whether two frames are the same. -/
def same (x x' : Frame) : Bool :=
  x.column = x'.column && x.table = x'.table && x.negated = x'.negated &&
    x.groupAll = x'.groupAll && x.windowFirst = x'.windowFirst && x.limit = x'.limit &&
    x.offset = x'.offset

theorem eq_of_same {x x' : Frame} (h : x.same x' = true) : x = x' := by
  obtain ⟨_, _, _, _, _, _, _⟩ := x
  obtain ⟨_, _, _, _, _, _, _⟩ := x'
  simpa [same, and_assoc] using h

theorem rel_of_operand? {e e' : Option Sql.Expr} {m : Option String} (h : operand? e = some m)
    (h' : operand? e' = some m) (V : Sql.Variation) : Option.Rel (Sql.Expr.Varies V) e e' := by
  have hoperand {e : Option Sql.Expr} (h : operand? e = some m) :
      e = m.map fun text => .literal (.placeholder text) := by
    unfold operand? at h
    split at h <;> cases h <;> rfl
  rw [hoperand h, hoperand h']
  cases m with
  | none => exact .none
  | some text => exact .some (.literal _)

/-- In one frame the queries are replaced. -/
theorem varies {t t' : Sql.Statement} {x : Frame} {q q' : Sql.Query} (h : of? t = some (x, q))
    (h' : of? t' = some (x, q')) : t.Varies (retested q q') t' := by
  unfold of? at h h'
  split at h
  · split at h'
    · simp only [Option.bind_eq_some_iff, Option.map_eq_some_iff] at h h'
      obtain ⟨limit, hlimit, offset, hoffset, heq⟩ := h
      obtain ⟨limit', hlimit', offset', hoffset', heq'⟩ := h'
      cases heq
      cases heq'
      -- the frames are the same, so the trees differ in the tested query alone
      exact .query (.mk .nil (.select (.mk .nil .none (.cons (.value (.column rfl .nil)) .nil)
        (.cons (.mk (.table _ _ _ _ (.cons rfl .nil) .none) .nil) .nil) .nil
        (.some (.existsTested _ ⟨rfl, rfl⟩)) rfl .nil .none .nil rfl .none)) .nil
        (rel_of_operand? hlimit hlimit' _) (rel_of_operand? hoffset hoffset' _) .none)
    · cases h'
  · cases h

/-- A text of one statement of the simplest form, checked by a computation. -/
theorem exists_of_text (d : Dialect) (text : String) (x : Frame)
    (check : Sql.ScriptStatement → Sql.Query → Bool)
    (h : ((Sql.Script.parse d none text).statements.map fun s =>
      (of? s.tree).any fun part => part.1.same x && check s part.2) = [true]) :
    ∃ s q, (Sql.Script.parse d none text).statements = [s] ∧ of? s.tree = some (x, q) ∧
      check s q = true := by
  obtain ⟨s, hs, hcheck⟩ := List.map_eq_singleton_iff.mp h
  simp only [Option.any_eq_true, Bool.and_eq_true] at hcheck
  obtain ⟨⟨x', q⟩, hparts, hsame, hcheck⟩ := hcheck
  exact ⟨s, q, hs, eq_of_same hsame ▸ hparts, hcheck⟩

end Frame

/-- A query from a table with four names does not convert. The statement that tests it does. -/
theorem tested_query_replaceable_fourNames :
    ∃ s s' c c' q q', (Sql.Script.parse .mysql none
        "SELECT a FROM t WHERE EXISTS (SELECT 1)").statements = [s] ∧
      (Sql.Script.parse .mysql none
        "SELECT a FROM t WHERE EXISTS (SELECT 1 FROM a.b.c.d)").statements = [s'] ∧
      s.tree.Varies (retested q q') s'.tree ∧ convert .mysql s = .ok c ∧
      convert .mysql s' = .ok c' ∧ converts .mysql q = true ∧ converts .mysql q' = false ∧
      c.node.Similar (renumbered (testing .mysql q q')) c'.node ∧
      SameNotes .mysql s.limitComma q q' c.unsupported c'.unsupported ∧
      c.unsupported = [] ∧ c'.unsupported = ["subquery"] := by
  -- everything around the tested query, once for both statements
  let frame : Frame := ⟨"a", "t", false, false, false, none, none⟩
  obtain ⟨s, q, hs, hframe, hcheck⟩ := Frame.exists_of_text .mysql
    "SELECT a FROM t WHERE EXISTS (SELECT 1)" frame
    (fun s q => !s.limitComma && converts .mysql q &&
      (convert .mysql s).toOption.any fun c => c.unsupported = []) (by decide +kernel)
  obtain ⟨s', q', hs', hframe', hcheck'⟩ := Frame.exists_of_text .mysql
    "SELECT a FROM t WHERE EXISTS (SELECT 1 FROM a.b.c.d)" frame
    (fun s q => !s.limitComma && !converts .mysql q &&
      (convert .mysql s).toOption.any fun c => c.unsupported = ["subquery"]) (by decide +kernel)
  simp only [Bool.and_eq_true, decide_eq_true_eq, Bool.not_eq_true', Option.any_eq_true]
    at hcheck hcheck'
  obtain ⟨⟨hlimit, hq⟩, c, hc, hnotes⟩ := hcheck
  obtain ⟨⟨hlimit', hq'⟩, c', hc', hnotes'⟩ := hcheck'
  have hok {r : Except ConversionError Converted} {c : Converted} (h : r.toOption = some c) :
      r = .ok c := by
    cases r <;> cases h
    rfl
  have hvaries := Frame.varies hframe hframe'
  obtain ⟨-, -, htrees, -⟩ := tested_query_replaceable .mysql hvaries
  obtain ⟨hsimilar, hsame⟩ := htrees c c' (hok hc) (hok hc')
  exact ⟨s, s', c, c', q, q', hs, hs', hvaries, hok hc, hok hc', hq, hq', hsimilar,
    hsame (hlimit.trans hlimit'.symm), hnotes, hnotes'⟩

/-- A LIMIT with a comma in a tested query changes the order in which another LIMIT is read, and so
the placeholder that the error is about. -/
theorem not_tested_query_replaceable_comma :
    ∃ s s' q q', (Sql.Script.parse .mysql none
        "SELECT a FROM t WHERE EXISTS (SELECT 1) LIMIT :a OFFSET :b").statements = [s] ∧
      (Sql.Script.parse .mysql none
        "SELECT a FROM t WHERE EXISTS (SELECT 1 LIMIT 1, 2) LIMIT :a OFFSET :b").statements = [s'] ∧
      s.tree.Varies (retested q q') s'.tree ∧ convert .mysql s = .error (.placeholder ":a") ∧
      convert .mysql s' = .error (.placeholder ":b") := by
  let frame : Frame := ⟨"a", "t", false, false, false, some ":a", some ":b"⟩
  obtain ⟨s, q, hs, hframe, hcheck⟩ := Frame.exists_of_text .mysql
    "SELECT a FROM t WHERE EXISTS (SELECT 1) LIMIT :a OFFSET :b" frame
    (fun s _ => match convert .mysql s with
      | .error e => e = .placeholder ":a"
      | .ok _ => false) (by decide +kernel)
  obtain ⟨s', q', hs', hframe', hcheck'⟩ := Frame.exists_of_text .mysql
    "SELECT a FROM t WHERE EXISTS (SELECT 1 LIMIT 1, 2) LIMIT :a OFFSET :b" frame
    (fun s _ => match convert .mysql s with
      | .error e => e = .placeholder ":b"
      | .ok _ => false) (by decide +kernel)
  -- the check says that the conversion fails, and for which placeholder
  have herror {s : Sql.ScriptStatement} {text : String}
      (h : (match convert .mysql s with
        | .error e => decide (e = .placeholder text)
        | .ok _ => false) = true) : convert .mysql s = .error (.placeholder text) := by
    cases hs : convert .mysql s with
    | error e =>
      rw [hs, decide_eq_true_eq] at h
      rw [h]
    | ok c =>
      rw [hs] at h
      cases h
  exact ⟨s, s', q, q', hs, hs', Frame.varies hframe hframe', herror hcheck, herror hcheck'⟩

end TypedSql.Canonical
