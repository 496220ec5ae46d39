import TypedSql.Canonical.Conversion

/-!
# Runs of conversions

How the steps of a conversion run: what each answers and what it leaves of the progress. With these
equations a conversion is read without looking at the monads that it is built from.

- `run_bind`: a step hands its answer and its progress to the next one, an error ends the conversion
- `run_param_of_some`, `run_param_of_none`: a placeholder is counted and claimed, or changes nothing
- `run_tryCatch`: a handler starts from the progress that the failed attempt has left
- `Ensures`: every answer of a conversion satisfies a predicate
- `exists_run_of_convert`: a converted statement is the answer of such a run
-/

namespace TypedSql.Canonical.Conversion

variable {α β : Type} (s : Setting) (p : Progress)

/-! ## Equations of runs -/

@[simp] theorem run_pure (a : α) : (pure a : Conversion α).run s p = (.ok a, p) := rfl

theorem run_bind (c : Conversion α) (f : α → Conversion β) :
    (c >>= f).run s p =
      match c.run s p with
      | (.ok a, q) => (f a).run s q
      | (.error e, q) => (.error e, q) := by
  simp only [run, ReaderT.run_bind, ExceptT.run_bind, StateT.run_bind]
  rcases StateT.run (ExceptT.run (ReaderT.run c s)) p with ⟨a | a, q⟩ <;> rfl

/-- A conversion in two steps that succeeds has succeeded in both. -/
theorem run_bind_ok {c : Conversion α} {f : α → Conversion β} {s : Setting}
    {p q : Progress} {b : β} (h : (c >>= f).run s p = (.ok b, q)) :
    ∃ a r, c.run s p = (.ok a, r) ∧ (f a).run s r = (.ok b, q) := by
  rw [run_bind] at h
  rcases hc : c.run s p with ⟨e | a, r⟩ <;> rw [hc] at h
  · simp at h
  · exact ⟨a, r, rfl, h⟩

@[simp] theorem run_throw (e : ConversionError) :
    (throw e : Conversion α).run s p = (.error e, p) := rfl

theorem run_tryCatch (c : Conversion α) (handler : ConversionError → Conversion α) :
    (tryCatch c handler).run s p =
      match c.run s p with
      | (.ok a, q) => (.ok a, q)
      | (.error e, q) => (handler e).run s q := by
  -- an error is a value of the state monad, so the progress outlives the failure
  unfold run ExceptT.run StateT.run ReaderT.run
  simp only [tryCatch, tryCatchThe, MonadExceptOf.tryCatch, ExceptT.tryCatch, ExceptT.mk, bind,
    StateT.bind]
  cases c s p with
  | mk result q => cases result <;> rfl

@[simp] theorem run_read : (read : Conversion Setting).run s p = (.ok s, p) := rfl

@[simp] theorem run_dialect : dialect.run s p = (.ok s.dialect, p) := rfl

@[simp] theorem run_get : (get : Conversion Progress).run s p = (.ok p, p) := rfl

@[simp] theorem run_set (q : Progress) : (set q : Conversion PUnit).run s p = (.ok ⟨⟩, q) := rfl

@[simp] theorem run_modify (f : Progress → Progress) :
    (modify f : Conversion PUnit).run s p = (.ok ⟨⟩, f p) := rfl

/-! ## Placeholders -/

section Placeholders

variable {s p} {text : String} {placeholder : Sql.Placeholder} {rest : List Sql.Placeholder}
  {number location : Nat} {q : Progress}

/-- A token that is left is claimed at its offset. -/
theorem run_claim_of_some (h : takePlaceholder text p.unclaimed = some (placeholder, rest)) :
    (claim text).run s p = (.ok placeholder.offset, { p with unclaimed := rest }) := by
  rw [claim, run_bind, run_get]
  dsimp only
  rw [h]
  rfl

/-- Where no token is left, the fallback is answered. -/
theorem run_claim_of_none (h : takePlaceholder text p.unclaimed = none) :
    (claim text).run s p = (.ok s.fallback, p) := by
  rw [claim, run_bind, run_get]
  dsimp only
  rw [h]
  rfl

/-- A placeholder that the dialect has is counted, and then claimed. -/
theorem run_param_of_some (h : paramNumber? s.dialect text (p.seen + 1) = some number)
    (hclaim : (claim text).run s { p with seen := p.seen + 1 } = (.ok location, q)) :
    (param text).run s p = (.ok (.param number location), q) := by
  simp only [param, run_bind, run_dialect, run_get, h, run_modify, hclaim, run_pure]

/-- A placeholder that the dialect has not changes nothing. -/
theorem run_param_of_none (h : paramNumber? s.dialect text (p.seen + 1) = none) :
    (param text).run s p = (.error (.placeholder text), p) := by
  simp only [param, run_bind, run_dialect, run_get, h, run_throw]

end Placeholders

/-! ## Answers -/

/-- Every answer of a conversion satisfies a predicate, whatever the setting and the progress. -/
def Ensures (c : Conversion α) (P : α → Prop) : Prop :=
  ∀ s p a q, c.run s p = (.ok a, q) → P a

namespace Ensures

variable {P Q : α → Prop} {R : β → Prop} {c : Conversion α} {f : α → Conversion β}

theorem pure {a : α} (h : P a) : Ensures (Pure.pure a) P := by
  intro s p b q hrun
  obtain ⟨rfl, -⟩ : a = b ∧ p = q := by simpa using hrun
  exact h

theorem bind (hc : Ensures c P) (hf : ∀ a, P a → Ensures (f a) R) : Ensures (c >>= f) R := by
  intro s p b q hrun
  rw [run_bind] at hrun
  rcases hcr : c.run s p with ⟨e | a, p'⟩ <;> rw [hcr] at hrun
  · simp at hrun
  · exact hf a (hc s p a p' hcr) s p' b q hrun

/-- Of a step whose answer does not matter nothing needs to be known. -/
theorem after (hf : ∀ a, Ensures (f a) R) : Ensures (c >>= f) R :=
  bind (P := fun _ => True) (fun _ _ _ _ _ => trivial) fun a _ => hf a

theorem throw {e : ConversionError} : Ensures (MonadExcept.throw e) P := by
  intro s p a q hrun
  simp at hrun

theorem map {g : α → β} (hc : Ensures c P) (hg : ∀ a, P a → R (g a)) : Ensures (g <$> c) R := by
  rw [map_eq_pure_bind]
  exact bind hc fun a ha => pure (hg a ha)

/-- A handler answers for what fails. -/
theorem tryCatch {handler : ConversionError → Conversion α} (hc : Ensures c P)
    (hhandler : ∀ e, Ensures (handler e) P) : Ensures (MonadExcept.tryCatch c handler) P := by
  intro s p a q hrun
  rw [run_tryCatch] at hrun
  rcases hcr : c.run s p with ⟨e | a', p'⟩ <;> rw [hcr] at hrun
  · exact hhandler e s p' a q hrun
  · cases hrun
    exact hc s p a q hcr

theorem mapM {γ : Type} {g : γ → Conversion α} (hg : ∀ x, Ensures (g x) P) (xs : List γ) :
    Ensures (xs.mapM g) fun as => ∀ a ∈ as, P a := by
  induction xs with
  | nil => exact pure (List.forall_mem_nil _)
  | cons x xs ih =>
    rw [List.mapM_cons]
    exact bind (hg x) fun a ha => bind ih fun as has => pure (List.forall_mem_cons.mpr ⟨ha, has⟩)

theorem inOrder {d : Conversion β} (straight : Bool) (hc : Ensures c P) (hd : Ensures d R) :
    Ensures (Conversion.inOrder straight c d) fun x => P x.1 ∧ R x.2 := by
  unfold Conversion.inOrder
  split
  · -- the first clause stands first
    exact bind hc fun a ha => bind hd fun b hb => pure ⟨ha, hb⟩
  · -- the second clause stands first
    exact bind hd fun b hb => bind hc fun a ha => pure ⟨ha, hb⟩

theorem imp (hc : Ensures c P) (h : ∀ a, P a → Q a) : Ensures c Q :=
  fun s p a q hrun => h a (hc s p a q hrun)

theorem and (hP : Ensures c P) (hQ : Ensures c Q) : Ensures c fun a => P a ∧ Q a :=
  fun s p a q hrun => ⟨hP s p a q hrun, hQ s p a q hrun⟩

end Ensures

/-- A table definition is no query, even where it is made from one. -/
theorem ensures_createTable (create : Sql.CreateTable) :
    Ensures (createTable create) (·.isQuery = false) := by
  rw [createTable]
  split
  · exact .pure rfl
  · split
    · exact .pure rfl
    · exact .after fun name => .after fun d => .pure rfl

/-- Only a query and a statement that changes data are converted to one. -/
theorem statement_of_isQuery {t : Sql.Statement} {s : Setting} {p q : Progress} {n : Node}
    (hrun : (statement t).run s p = (.ok n, q)) (hquery : n.isQuery = true) :
    (∃ x, t = .query x) ∨ (∃ x, t = .insert x) ∨ (∃ x, t = .update x) ∨ ∃ x, t = .delete x := by
  -- the statements that change the schema, and those that are not converted, answer no query
  have hother (h : Ensures (statement t) (·.isQuery = false)) : False := by
    have := h _ _ _ _ hrun
    simp [hquery] at this
  match t with
  | .query x => exact .inl ⟨x, rfl⟩
  | .insert x => exact .inr (.inl ⟨x, rfl⟩)
  | .update x => exact .inr (.inr (.inl ⟨x, rfl⟩))
  | .delete x => exact .inr (.inr (.inr ⟨x, rfl⟩))
  | .unmapped kind text => exact (hother (.after fun ns => .pure rfl)).elim
  | .createTable create => exact (hother (ensures_createTable create)).elim
  | .alterTable alter =>
    exact (hother (.after fun name => .after fun commands => .pure rfl)).elim
  | .dropTables names ifExists tail => exact (hother (.after fun names => .pure rfl)).elim
  | .createSchema name ifNotExists tail => exact (hother (.after fun name => .pure rfl)).elim

/-- A converted statement is what the run of its conversion answers. -/
theorem exists_run_of_convert {d : Dialect} {s : Sql.ScriptStatement} {c : Converted}
    (h : convert d s = .ok c) :
    ∃ q, (statement s.tree).run ⟨d, s.start, s.limitComma⟩ (.start s.placeholders) =
      (.ok c.node, q) := by
  rw [convert] at h
  rcases hrun : (statement s.tree).run ⟨d, s.start, s.limitComma⟩ (.start s.placeholders) with
    ⟨e | n, q⟩ <;> rw [hrun] at h
  · cases h
  · cases h
    exact ⟨q, rfl⟩

/-- A text of one statement that converts, checked by a computation. -/
theorem exists_converted (d : Dialect) (text : String)
    (check : Sql.ScriptStatement → Converted → Bool)
    (h : ((Sql.Script.parse d none text).statements.map fun s =>
      (convert d s).toOption.map (check s)) = [some true]) :
    ∃ s c, (Sql.Script.parse d none text).statements = [s] ∧ convert d s = .ok c ∧
      check s c = true := by
  obtain ⟨s, hs, hcheck⟩ := List.map_eq_singleton_iff.mp h
  cases hc : convert d s with
  | error e => simp [hc, Except.toOption] at hcheck
  | ok c => exact ⟨s, c, hs, hc, by simpa [hc, Except.toOption] using hcheck⟩

end TypedSql.Canonical.Conversion
