import TypedSql.Proofs.Analysis.Origins
import TypedSql.Proofs.Queries.Agreement

/-!
# Outcomes

What a step of an analysis comes to does not depend on what is bound before it: it ends in an error,
or it has an answer and places to bind. So a part of a statement that is analysed elsewhere, or more
often than once, comes to the same.

- **Outcomes**: what a step comes to, and what steps in a row do
- **Constructs**: the outcomes of queries, of WITH clauses and of FROM clauses
-/

namespace TypedSql

open Canonical

variable {α β : Type}

/-! ## Outcomes -/

/-- What a step of an analysis comes to: an answer and the places that it binds, or an error. -/
abbrev StepResult (α : Type) := Except AnalysisError (α × List Parameter)

namespace StepResult

/-- The answer or the error. -/
def answer (r : StepResult α) : Except AnalysisError α := r.map Prod.fst

/-- What comes after other places. -/
def after (places : List Parameter) (r : StepResult α) : StepResult α :=
  r.map fun x => (x.1, places ++ x.2)

@[simp] theorem answer_ok (x : α × List Parameter) : answer (.ok x) = .ok x.1 := rfl

@[simp] theorem answer_error (e : AnalysisError) :
    answer (.error e : StepResult α) = .error e := rfl

@[simp] theorem answer_after (places : List Parameter) (r : StepResult α) :
    (r.after places).answer = r.answer := by
  cases r <;> rfl

end StepResult

/-- A step comes to an outcome, whatever is bound before it. -/
def ComesTo (m : AnalysisM α) (r : StepResult α) : Prop :=
  ∀ bs, m.run bs = r.map fun x => (x.1, bs.recordAll x.2)

/-- The answer of a step that starts from bindings, or its error. -/
def answerFrom (bs : Bindings) (m : AnalysisM α) : Except AnalysisError α :=
  (m.run bs).map Prod.fst

namespace ComesTo

variable {m : AnalysisM α} {f : α → AnalysisM β} {a : α} {places : List Parameter}
  {r : StepResult α} {e : AnalysisError}

theorem pure (a : α) : ComesTo (Pure.pure a) (.ok (a, [])) := fun _ => rfl

theorem throw (e : AnalysisError) : ComesTo (MonadExcept.throw e : AnalysisM α) (.error e) :=
  fun _ => rfl

/-- A second step adds its places to those of the first one. -/
theorem bind {r : StepResult β} (hm : ComesTo m (.ok (a, places))) (hf : ComesTo (f a) r) :
    ComesTo (m >>= f) (r.after places) := by
  intro bs
  rw [StateT.run_bind, hm]
  refine (hf _).trans ?_
  cases r with
  | ok x => exact congrArg (fun bs => Except.ok (x.1, bs)) (Bindings.recordAll_append ..).symm
  | error e => rfl

theorem bind_ok {b : β} {later : List Parameter} (hm : ComesTo m (.ok (a, places)))
    (hf : ComesTo (f a) (.ok (b, later))) : ComesTo (m >>= f) (.ok (b, places ++ later)) :=
  hm.bind hf

theorem bind_fails (hm : ComesTo m (.ok (a, places))) (hf : ComesTo (f a) (.error e)) :
    ComesTo (m >>= f) (.error e) := hm.bind hf

theorem bind_error (hm : ComesTo m (.error e)) : ComesTo (m >>= f) (.error e) := by
  intro bs
  rw [StateT.run_bind, hm]
  rfl

/-- A last step that binds nothing. -/
theorem map (hm : ComesTo m r) (g : α → β) :
    ComesTo (m >>= fun a => Pure.pure (g a)) (r.map fun x => (g x.1, x.2)) := by
  cases r with
  | error e => exact hm.bind_error
  | ok x =>
    have h := hm.bind (f := fun a => Pure.pure (g a)) (pure (g x.1))
    rwa [StepResult.after, Except.map, List.append_nil] at h

theorem eq_pure (hm : ComesTo m (.ok (a, []))) : m = Pure.pure a := funext hm

theorem answerFrom_eq (hm : ComesTo m r) (bs : Bindings) : answerFrom bs m = r.answer := by
  rw [answerFrom, hm]
  cases r <;> rfl

/-- After a step that has an answer, a second one starts from what is bound then. -/
theorem answerFrom_next (hm : ComesTo m (.ok (a, places))) (bs : Bindings) :
    answerFrom bs (m >>= f) = answerFrom (bs.recordAll places) (f a) := by
  rw [answerFrom, StateT.run_bind, hm]
  rfl

/-- A second step whose outcomes are known goes on from the answer of the first one. -/
theorem answerFrom_bind {r' : α → StepResult β} (hm : ComesTo m r) (hf : ∀ a, ComesTo (f a) (r' a))
    (bs : Bindings) : answerFrom bs (m >>= f) = r.answer >>= fun a => (r' a).answer := by
  cases r with
  | ok x => exact (hm.answerFrom_next bs).trans ((hf x.1).answerFrom_eq _)
  | error e => exact hm.bind_error.answerFrom_eq bs

end ComesTo

/-- A step has an outcome, whose places have their numbers from a list. -/
def Settles (numbers : List Nat) (m : AnalysisM α) : Prop :=
  ∃ r, ComesTo m r ∧ ∀ x, r = .ok x → ∀ p ∈ x.2, p.number ∈ numbers

namespace Settles

variable {numbers numbers' : List Nat} {m : AnalysisM α} {f : α → AnalysisM β}

theorem pure (a : α) : Settles numbers (Pure.pure a) := by
  refine ⟨_, .pure a, ?_⟩
  rintro _ ⟨⟩
  exact List.forall_mem_nil _

theorem mono (h : Settles numbers m) (hsub : numbers ⊆ numbers') : Settles numbers' m := by
  obtain ⟨r, hr, hplaces⟩ := h
  exact ⟨r, hr, fun x hx p hp => hsub (hplaces x hx p hp)⟩

theorem bind (hm : Settles numbers m) (hf : ∀ a, Settles numbers (f a)) :
    Settles numbers (m >>= f) := by
  -- what comes after an error does not matter
  obtain ⟨r, hr, hplaces⟩ := hm
  cases r with
  | error e => exact ⟨_, hr.bind_error, fun _ h => nomatch h⟩
  | ok x =>
    obtain ⟨r', hr', hplaces'⟩ := hf x.1
    refine ⟨_, hr.bind hr', fun y hy p hp => ?_⟩
    cases r' with
    | error e => cases hy
    | ok z =>
      cases hy
      exact (List.mem_append.mp hp).elim (hplaces _ rfl p) (hplaces' _ rfl p)

/-- A step that is taken for its bindings only. -/
theorem discard (hm : Settles numbers m) : Settles numbers (Functor.discard m) :=
  hm.bind fun _ => pure _

/-- A run that has an answer tells the outcome. -/
theorem exists_places (h : Settles numbers m) {bs : Bindings} {x : α × Bindings}
    (hrun : m.run bs = .ok x) :
    ∃ places, ComesTo m (.ok (x.1, places)) ∧ ∀ p ∈ places, p.number ∈ numbers := by
  obtain ⟨r, hr, hplaces⟩ := h
  rw [hr] at hrun
  cases r with
  | ok y =>
    cases hrun
    exact ⟨y.2, hr, hplaces y rfl⟩
  | error e => cases hrun

end Settles

/-- A step that can be traced settles, under the numbers of its tree. -/
theorem Traced.settles {γ : Type} [Numbered γ] {tree : γ} {P : α → List Parameter → Prop}
    {step : γ → AnalysisM α} (htree : Renumberable tree)
    (h : Traced (numbersOf tree) P fun f => step (Numbered.renumber f tree)) :
    Settles (numbersOf tree) (step tree) := by
  rw [← congrArg step htree.renumber_id]
  rcases h with ⟨a, places, -, hwithin, hrun⟩ | ⟨e, hrun⟩
  · refine ⟨.ok (a, places), fun bs => ?_, ?_⟩
    · rw [hrun]
      exact congrArg (fun ps => Except.ok (a, bs.recordAll ps)) (List.map_id' places)
    · rintro _ ⟨⟩ p hp
      exact hwithin.mem (List.mem_map_of_mem hp)
  · exact ⟨.error e, hrun id, fun _ h => nomatch h⟩

/-! ## Constructs -/

section Constructs

variable (c : Catalog) (s : Scope) (hint : Option Hint) (hints : List Hint)

theorem inferAll_settles (ns : List Node) : Settles (numbersOf ns) (inferAll c s hint ns) :=
  (inferAll_tracks s hint ns).settles (renumberableAll ns)

theorem inferOption_settles (n : Option Node) :
    Settles (numbersOf n) (inferOption c s hint n) :=
  (inferOption_tracks s hint n).settles (renumberableOption n)

theorem analyzeWindows_settles (ws : List Window) :
    Settles (numbersOf ws) (analyzeWindows c s ws) :=
  (analyzeWindows_tracks s ws).settles (renumberableWindows ws)

theorem analyzeTargets_settles (position : Nat) (ns : List Node) :
    Settles (numbersOf ns) (analyzeTargets c s hints position ns) :=
  (analyzeTargets_traced s hints position ns).settles (renumberableAll ns)

theorem analyzeSelect_settles (q : Select) :
    Settles (numbersOf q) (analyzeSelect c s hints q) :=
  (analyzeSelect_traced s hints q).settles q.renumberable

theorem analyzeCtes_settles (defined : List Relation) (qs : List NamedQuery) :
    Settles (numbersOf qs) (analyzeCtes c s defined qs) :=
  (analyzeCtes_tracks s defined qs).settles (renumberableNamed qs)

theorem analyzeSource_settles (n : Node) : Settles (numbersOf n) (analyzeSource c s n) :=
  (analyzeSource_tracks s n).settles n.renumberable

variable {c s} in
/-- The relation of the first item comes before those of the others. -/
theorem analyzeSources_cons {n : Node} {ns : List Node} {found : Option Relation}
    {places : List Parameter} {r : StepResult (List Relation)}
    (hitem : ComesTo (analyzeSource c s n) (.ok (found, places)))
    (hitems : ComesTo (analyzeSources c s ns) r) :
    ComesTo (analyzeSources c s (n :: ns))
      (r.map fun x => (found.toList ++ x.1, places ++ x.2)) := by
  have hrest := hitems.map fun rs => found.toList ++ rs
  have h := hitem.bind
    (f := fun found => analyzeSources c s ns >>= fun rs => pure (found.toList ++ rs)) hrest
  cases r <;> exact h

variable {c s} in
theorem analyzeSources_cons_error {n : Node} {ns : List Node} {e : AnalysisError}
    (hitem : ComesTo (analyzeSource c s n) (.error e)) :
    ComesTo (analyzeSources c s (n :: ns)) (.error e) := hitem.bind_error

/-- What stands behind the FROM clause of a plain query. -/
theorem analyzeClauses_settles (q : Select) :
    Settles (numbersOf { q with ctes := [], source := [] }) (analyzeClauses c s hints q) := by
  obtain ⟨ctes, targets, source, joinConditions, condition, distinctOn, groupBy, having, windows,
    orderBy, limit, offset, rows, operation, all, left, right⟩ := q
  -- each clause is a part of the query, so its numbers are among those of the query
  have hsub {numbers : List Nat}
      (h : ∀ k ∈ numbers, k ∈ numbersOf joinConditions ∨ k ∈ numbersOf condition ∨
        k ∈ numbersOf targets ∨ k ∈ numbersOf distinctOn ∨ k ∈ numbersOf groupBy ∨
        k ∈ numbersOf having ∨ k ∈ numbersOf windows ∨ k ∈ numbersOf orderBy ∨
        k ∈ numbersOf limit ∨ k ∈ numbersOf offset) :
      numbers ⊆ numbersOf (⟨[], targets, [], joinConditions, condition, distinctOn, groupBy, having,
        windows, orderBy, limit, offset, rows, operation, all, left, right⟩ : Select) := by
    intro k hk
    have hk := h k hk
    simp only [numbersOf, Numbered.walk, Select.walk, numbersIn_append, List.mem_append] at hk ⊢
    tauto
  exact ((inferAll_settles c s none joinConditions).mono (hsub (by tauto))).discard.bind fun _ =>
    ((inferOption_settles c s none condition).mono (hsub (by tauto))).discard.bind fun _ =>
    ((analyzeTargets_settles c s hints 0 targets).mono (hsub (by tauto))).bind fun columns =>
    ((inferAll_settles c _ none distinctOn).mono (hsub (by tauto))).discard.bind fun _ =>
    ((inferAll_settles c _ none groupBy).mono (hsub (by tauto))).discard.bind fun _ =>
    ((inferOption_settles c _ none having).mono (hsub (by tauto))).discard.bind fun _ =>
    ((analyzeWindows_settles c _ windows).mono (hsub (by tauto))).bind fun _ =>
    ((inferAll_settles c _ none orderBy).mono (hsub (by tauto))).discard.bind fun _ =>
    ((inferOption_settles c _ _ limit).mono (hsub (by tauto))).discard.bind fun _ =>
    ((inferOption_settles c _ _ offset).mono (hsub (by tauto))).discard.bind fun _ =>
    .pure columns

end Constructs

/-- The analysis of a query that is a statement. -/
theorem ComesTo.analyze_eq {c : Catalog} {q : Select} {r : StepResult (List ResultColumn)}
    (h : ComesTo (analyzeSelect c [] [] q) r) :
    analyze c (.select q) = r.map fun x =>
      ⟨(Bindings.recordAll [] x.2).parameters (greatestParam (.select q)), x.1, none⟩ := by
  have hstatement : (analyzeStatement c (.select q)).run [] =
      (analyzeSelect c [] [] q).run [] >>= fun x => .ok ((x.1, none), x.2) := rfl
  rw [analyze, hstatement, h]
  cases r <;> rfl

end TypedSql
