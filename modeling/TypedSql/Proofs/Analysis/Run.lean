import TypedSql.Analysis.Basic

/-!
# Runs of analyses

What is shown of the steps of an analysis, so that a step is followed by another one without a look
at the monad behind them.

- `Meets`: the answer of a step has a property, or its error another one
- `Simulates`: two steps run alike from related bindings, to related answers or to the same error
-/

namespace TypedSql

variable {α β γ δ : Type}

/-! ## One run -/

/-- From whatever bindings a step of an analysis starts, its answer satisfies `Q`, or the error in
which it ends satisfies `E`. -/
def Meets (E : AnalysisError → Prop) (Q : α → Prop) (m : AnalysisM α) : Prop :=
  ∀ bs, match m.run bs with
    | .ok x => Q x.1
    | .error e => E e

namespace Meets

variable {E E' : AnalysisError → Prop} {Q Q' : α → Prop} {R : β → Prop} {m : AnalysisM α}
  {f : α → AnalysisM β}

theorem pure {a : α} (h : Q a) : Meets E Q (Pure.pure a) := fun _ => h

theorem throw {e : AnalysisError} (h : E e) : Meets E Q (MonadExcept.throw e) := fun _ => h

theorem bind (hm : Meets E Q m) (hf : ∀ a, Q a → Meets E R (f a)) : Meets E R (m >>= f) := by
  intro bs
  have h := hm bs
  rw [StateT.run_bind]
  match hr : m.run bs with
  | .ok (a, bs') =>
    -- the second step goes on from the bindings of the first
    rw [hr] at h
    exact hf a h bs'
  | .error e =>
    rw [hr] at h
    exact h

/-- Without a demand on errors, of a step whose answer does not matter nothing needs to be known. -/
theorem after (hf : ∀ a, Meets (fun _ => True) R (f a)) : Meets (fun _ => True) R (m >>= f) := by
  refine bind (Q := fun _ => True) (fun bs => ?_) fun a _ => hf a
  cases m.run bs <;> trivial

/-- A step goes on alike from every answer that it can have. -/
theorem bind_congr {f f' : α → AnalysisM β} (hm : Meets E Q m) (h : ∀ a, Q a → f a = f' a) :
    m >>= f = m >>= f' := by
  funext bs
  have hanswer := hm bs
  show (m >>= f).run bs = (m >>= f').run bs
  rw [StateT.run_bind, StateT.run_bind]
  match hr : m.run bs with
  | .ok (a, bs') =>
    rw [hr] at hanswer
    exact congrFun (h a hanswer) bs'
  | .error e => rfl

theorem imp (hm : Meets E Q m) (hE : ∀ e, E e → E' e) (hQ : ∀ a, Q a → Q' a) : Meets E' Q' m := by
  intro bs
  have h := hm bs
  match hr : m.run bs with
  | .ok x =>
    rw [hr] at h
    exact hQ _ h
  | .error e =>
    rw [hr] at h
    exact hE e h

/-- A step whose answer has a property has each weaker one. -/
theorem weaken (hm : Meets E Q m) (hQ : ∀ a, Q a → Q' a) : Meets E Q' m := hm.imp (fun _ h => h) hQ

/-- What does not depend on the answer of a step holds as well if the step is taken for its bindings
only. -/
theorem discard {P : Prop} (hm : Meets E (fun _ => P) m) :
    Meets E (fun _ => P) (Functor.discard m) := hm.bind fun _ h => pure h

/-- What comes after an error does not matter. -/
theorem throw_bind {e : AnalysisError} (h : E e) (f : α → AnalysisM β) :
    Meets E R (MonadExcept.throw e >>= f) :=
  bind (Q := fun _ => False) (throw h) fun _ h => h.elim

end Meets

/-! ## Two runs -/

/-- Two results agree: they are related, or the same error. -/
def Agree {ε : Type} (R : α → β → Prop) : Except ε α → Except ε β → Prop
  | .ok a, .ok b => R a b
  | .error e, .error e' => e = e'
  | _, _ => False

/-- Two steps of an analysis run alike: from bindings related by `B` both come to answers related by
`R`, with bindings still related, or both end in the same error. -/
def Simulates (B : Bindings → Bindings → Prop) (R : α → β → Prop) (m : AnalysisM α)
    (m' : AnalysisM β) : Prop :=
  ∀ bs bs', B bs bs' → Agree (fun x x' => R x.1 x'.1 ∧ B x.2 x'.2) (m.run bs) (m'.run bs')

namespace Simulates

variable {B : Bindings → Bindings → Prop} {R : α → β → Prop} {Q : γ → δ → Prop} {m : AnalysisM α}
  {m' : AnalysisM β} {f : α → AnalysisM γ} {f' : β → AnalysisM δ}

theorem pure {a : α} {a' : β} (h : R a a') : Simulates B R (Pure.pure a) (Pure.pure a') :=
  fun _ _ hb => ⟨h, hb⟩

theorem throw (e : AnalysisError) :
    Simulates B R (MonadExcept.throw e) (MonadExcept.throw e) := fun _ _ _ => rfl

theorem bind (hm : Simulates B R m m') (hf : ∀ a a', R a a' → Simulates B Q (f a) (f' a')) :
    Simulates B Q (m >>= f) (m' >>= f') := by
  intro bs bs' hb
  have h := hm bs bs' hb
  simp only [StateT.run_bind]
  match hr : m.run bs, hr' : m'.run bs' with
  | .ok (a, cs), .ok (a', cs') =>
    -- both runs go on, from bindings that are related again
    rw [hr, hr'] at h
    exact hf a a' h.1 cs cs' h.2
  | .error e, .error e' =>
    rw [hr, hr'] at h
    exact h
  | .ok _, .error _ | .error _, .ok _ =>
    rw [hr, hr'] at h
    exact h.elim

/-- Steps that are taken for their bindings only. -/
theorem discard (hm : Simulates B R m m') :
    Simulates B (fun _ _ => True) (Functor.discard m) (Functor.discard m') :=
  hm.bind fun _ _ _ => pure trivial

theorem modify {g g' : Bindings → Bindings} (h : ∀ bs bs', B bs bs' → B (g bs) (g' bs')) :
    Simulates B (fun _ _ => True) (modify g : AnalysisM PUnit) (modify g') :=
  fun bs bs' hb => ⟨trivial, h bs bs' hb⟩

end Simulates

end TypedSql
