import Mathlib.Data.List.Perm.Subperm
import TypedSql.Proofs.Conversion.Constructs

/-!
# Numbering of placeholders

The placeholders of a MySQL statement are numbered without gaps, in the order of the text, exactly
if its tally loses none.

- **Yields**: what holds of the statements that convert
- **Statements**: an INSERT, an UPDATE and a DELETE hold what their tallies keep
- **Numbering**: the placeholders collected from a canonical tree
-/

namespace TypedSql.Canonical

namespace Conversion

variable {l : Ledger} {α β : Type} {t u : Tally}

/-! ## Yields -/

/-- An answer stands to the placeholders handed out as `R` says. Nothing is said of errors, because
whether an UPDATE or a DELETE has a target shows only after its tables are converted. -/
def Yields (l : Ledger) (c : Conversion α) (t : Tally) (R : α → List ParamRef → Prop) : Prop :=
  ∀ p, l.At p → ∀ a q, c.run l.setting p = (.ok a, q) →
    p.seen ≤ q.seen ∧ q.seen ≤ p.seen + t.written ∧ R a (l.issued p.seen q.seen)

theorem Issues.yields {c : Conversion α} {R : α → List ParamRef → Prop} (hc : Issues l c t R) :
    Yields l c t R := by
  intro p hp a q hrun
  obtain ⟨-, hle, hub, -, hR⟩ := hc p hp _ _ hrun
  exact ⟨hle, hub, hR⟩

namespace Yields

theorem throw {e : ConversionError} {R : α → List ParamRef → Prop} :
    Yields l (MonadExcept.throw e) t R := by
  intro p hp a q hrun
  simp at hrun

/-- A step that fails only if its tally says so, followed by one that may fail otherwise. -/
theorem bind {c : Conversion α} {f : α → Conversion β} {R : α → List ParamRef → Prop}
    {Q : β → List ParamRef → Prop} (hc : Issues l c t R)
    (hf : ∀ a new, R a new → Yields l (f a) u fun b more => Q b (new ++ more)) :
    Yields l (c >>= f) (t + u) Q := by
  intro p hp b q hrun
  rw [run_bind] at hrun
  rcases hcr : c.run l.setting p with ⟨e | a, p'⟩ <;> rw [hcr] at hrun
  · simp at hrun
  · obtain ⟨hat, hle, hub, -, hR⟩ := hc p hp _ _ hcr
    obtain ⟨hle', hub', hQ⟩ := hf a _ hR p' hat b q hrun
    rw [l.issued_append hle hle'] at hQ
    exact ⟨Nat.le_trans hle hle', by rw [Tally.written_add]; omega, hQ⟩

theorem pure {a : α} {R : α → List ParamRef → Prop} (h : R a []) :
    Yields l (Pure.pure a) 0 R := (Issues.pure h).yields

theorem last {c : Conversion α} {f : α → Conversion β} {R : α → List ParamRef → Prop}
    {Q : β → List ParamRef → Prop} (hc : Issues l c t R)
    (hf : ∀ a new, R a new → Yields l (f a) 0 fun b more => Q b (new ++ more)) :
    Yields l (c >>= f) t Q := by
  intro p hp b q hrun
  simpa using bind hc hf p hp b q hrun

/-- Texts that no stage looks into change nothing. -/
theorem silent {c : Conversion α} {before : List ParamRef} {walk : α → List Node}
    (hc : Yields l c t (Extends before walk t.kept)) (texts : List String) :
    Yields l c (t + .silentAll texts)
      (Extends before walk (t + .silentAll texts).kept) := by
  intro p hp a q hrun
  obtain ⟨hle, hub, hR⟩ := hc p hp a q hrun
  exact ⟨hle, by rw [Tally.written_add]; omega, by simpa [Tally.kept_silentAll] using hR⟩

end Yields

/-! ## Statements -/

theorem adds_assignments (as : List Sql.Assignment) :
    Adds l [] walkAll (assignments as) (.assignments as) := by
  induction as with
  | nil => exact .pure (by simp)
  | cons a as ih =>
    cases a with
    | column name value =>
      exact .after (quiet_lastIdent name) (fun s _ => (adds_expr value).bind fun n =>
        .afterRead (quiet_target _ n) fun n' hn => ih.map fun ns => by simp [hn]) rfl
    | tuple text =>
      exact (adds_skip _ text).bind fun n => .afterRead (quiet_target _ n) fun n' hn =>
        ih.map fun ns => by simp [hn]

theorem adds_onInsert (o : Option Sql.OnInsert) :
    Adds l [] (fun x => walkAll x.1 ++ walkOption x.2) (onInsert o) (.onInsert o) := by
  match o with
  | some (.duplicateKeyUpdate as) =>
    exact (adds_assignments as).map fun targets => by simp
  | some (.conflictUpdate target as condition) =>
    refine Adds.silent ?_ [target]
    exact (adds_assignments as).bind fun targets => (adds_exprOption condition).map fun condition =>
      by simp
  | some (.conflictNothing target) =>
    have h : Adds l [] (fun x => walkAll x.1 ++ walkOption x.2)
        (onInsert (some (.conflictNothing target))) 0 := .pure (by simp)
    -- the target that is passed over brings nothing, so the count stays zero
    have hsilent := h.silent [target]
    rwa [Tally.zero_add] at hsilent
  | none => exact .pure (by simp)

theorem quiet_rethrow {P : α → Prop} {c : Conversion α} {e : ConversionError} (hc : Quiet l c t P) :
    Quiet l (tryCatch c fun _ => throw e) t P := by
  intro p hp r q hrun
  rw [run_tryCatch] at hrun
  rcases hcr : c.run l.setting p with ⟨e' | a, p'⟩ <;> rw [hcr] at hrun
  · -- the error is another one, but the count is that of the conversion
    obtain ⟨hat, hle, hub, hconv⟩ := hc p hp _ _ hcr
    obtain ⟨rfl, rfl⟩ := Prod.mk.inj hrun
    exact ⟨hat, hle, hub, hconv⟩
  · obtain ⟨rfl, rfl⟩ := Prod.mk.inj hrun
    exact hc p hp _ _ hcr

@[simp] theorem refs_walkAll_columns (columns : List Sql.Ident) (f : Sql.Ident → String)
    (location : Nat) :
    refs (walkAll (columns.map fun c => .target (some (f c)) none location)) = [] := by
  induction columns with
  | nil => rfl
  | cons c cs ih => simpa using ih

theorem adds_insertSource (o : Option Sql.Query) :
    Adds l [] Select.walk (insertSource o) (.insertSource o) := by
  match o with
  | some q => exact (issues_query q).adds
  | none =>
    exact .pure (by simp [Select.empty])

theorem adds_insert (i : Sql.Insert) :
    Adds l [] Node.walk (insert i) (Tally.statement (.insert i)) := by
  refine Adds.silent ?_ _
  refine .after (quiet_rethrow (quiet_tableRef i.table i.aliasName)) (fun table _ => ?_) rfl
  refine .afterRead quiet_dialect fun d _ => .afterRead quiet_read fun setting _ => ?_
  exact (adds_insertSource i.source).bind fun source =>
    (adds_onInsert i.onInsert).bind fun ⟨targets, condition⟩ =>
      (adds_selectItems i.returning).map fun returning => by simp

theorem adds_tableOption (acc : Sources) (o : Option Sql.TableWithJoins) :
    Adds l (refs acc.walk) Sources.walk (tableOption acc o) (.tableOption o) := by
  match o with
  | some t => exact adds_table acc t
  | none => exact .pure .rfl

/-- The target of a statement holds no placeholder. -/
theorem refs_walk_target {s : Sources} {ref : TableRef} {items : List Node}
    (h : s.items = .table ref :: items) :
    refs s.walk = refs (walkAll items) ++ refs (walkAll s.conditions) := by
  simp [Sources.walk, h]

theorem refs_nil_walk : refs (Sources.walk ⟨[], []⟩) = [] := rfl

theorem yields_update (u : Sql.Update) :
    Yields l (update u) (Tally.statement (.update u))
      (Extends [] Node.walk (Tally.statement (.update u)).kept) := by
  refine Yields.silent ?_ [u.opening]
  apply Yields.bind (adds_table ⟨[], []⟩ u.table)
  intro source₁ new₁ h₁
  apply Yields.bind (adds_assignments u.assignments)
  intro targets new₂ h₂
  apply Yields.bind (adds_tableOption source₁ u.source)
  intro source₂ new₃ h₃
  apply Yields.bind (adds_exprOption u.condition)
  intro condition new₄ h₄
  apply Yields.last (adds_selectItems u.returning)
  intro returning new₅ h₅
  split
  · -- the first item is the target: it has no placeholder, and leaves the list of sources
    rename_i ref items hitems
    have hsource := refs_walk_target hitems
    refine .pure ⟨fun r => ?_, ?_⟩
    · have := h₁.1 r
      have := h₂.1 r
      have := h₃.1 r
      have := h₄.1 r
      have := h₅.1 r
      simp only [hsource, Node.walk, Update.walk, refs_cons, refs_append, List.count_append,
        refs_nil_walk, List.count_nil] at *
      omega
    · have := h₁.2
      have := h₂.2
      have := h₃.2
      have := h₄.2
      have := h₅.2
      simp only [hsource, Node.walk, Update.walk, refs_cons, refs_append, List.length_append,
        refs_nil_walk, List.length_nil, Tally.kept_add] at *
      omega
  · exact .throw

theorem yields_delete (d : Sql.Delete) :
    Yields l (delete d) (Tally.statement (.delete d))
      (Extends [] Node.walk (Tally.statement (.delete d)).kept) := by
  rw [← Tally.zero_add (Tally.statement (.delete d))]
  apply Yields.bind (quiet_noteIf _ _)
  intro _ _ _
  apply Yields.bind (adds_tables ⟨[], []⟩ d.source)
  intro source₁ new₁ h₁
  apply Yields.bind (adds_tables source₁ d.others)
  intro source₂ new₂ h₂
  split
  · -- the target is checked before the remaining clauses are converted
    rename_i ref items hitems
    have hsource := refs_walk_target hitems
    apply Yields.bind (adds_exprOption d.condition)
    intro condition new₃ h₃
    apply Yields.bind (adds_orderKeys d.orderBy)
    intro keys new₄ h₄
    apply Yields.bind (adds_exprOption d.limit)
    intro limit new₅ h₅
    apply Yields.last (adds_selectItems d.returning)
    intro returning new₆ h₆
    refine .pure ⟨fun r => ?_, ?_⟩
    · have := h₁.1 r
      have := h₂.1 r
      have := h₃.1 r
      have := h₄.1 r
      have := h₅.1 r
      have := h₆.1 r
      simp only [hsource, Node.walk, Delete.walk, refs_cons, refs_append, List.count_append,
        refs_nil_walk, List.count_nil] at *
      omega
    · have := h₁.2
      have := h₂.2
      have := h₃.2
      have := h₄.2
      have := h₅.2
      have := h₆.2
      simp only [hsource, Node.walk, Delete.walk, refs_cons, refs_append, List.length_append,
        refs_nil_walk, List.length_nil, Tally.statement, Tally.kept_zero, Tally.kept_add] at *
      omega
  · exact .throw

/-- A statement that is converted to one that reads or changes data holds the placeholders that its
tally keeps. -/
theorem extends_of_run_statement {s : Sql.Statement} {p q : Progress} {n : Node} (hp : l.At p)
    (hrun : (statement s).run l.setting p = (.ok n, q)) (hquery : n.isQuery = true) :
    p.seen ≤ q.seen ∧ q.seen ≤ p.seen + (Tally.statement s).written ∧
      Extends [] Node.walk (Tally.statement s).kept n (l.issued p.seen q.seen) := by
  obtain ⟨q, rfl⟩ | ⟨i, rfl⟩ | ⟨u, rfl⟩ | ⟨d, rfl⟩ := statement_of_isQuery hrun hquery
  · have h : Adds l [] Node.walk (statement (.query q)) (Tally.query q).whole :=
      (issues_query q).adds.map fun s => by simp
    exact h.yields p hp n _ hrun
  · exact (adds_insert i).yields p hp n _ hrun
  · exact yields_update u p hp n _ hrun
  · exact yields_delete d p hp n _ hrun

end Conversion

/-! ## Numbering -/

/-- The placeholders of a text in order, each with its number. -/
def numbered (offsets : List Nat) : List ParamRef :=
  List.zipWith ParamRef.mk (List.range' 1 offsets.length) offsets

/-- What is handed out up to the last mark of a text are the placeholders of the text. -/
theorem Ledger.issued_length (l : Ledger) : l.issued 0 l.offsets.length = numbered l.offsets := by
  apply List.ext_getElem
  · simp [issued, numbered]
  · intro i h h'
    have hi : i < l.offsets.length := by simpa [issued] using h
    simp [issued, numbered, ref, Nat.add_comm 1 i, hi]

/-- The placeholders collected from a converted statement are among those of the text, each at most
once, with the number and the offset that it has there. They are all of them exactly if the tally
of the statement loses none. -/
theorem paramRefs_numbering (s : Sql.ScriptStatement) (c : Converted)
    (hconvert : convert .mysql s = .ok c) (hquery : c.node.isQuery = true)
    (hwritten : (Tally.statement s.tree).written = (offsetsOf "?" s.placeholders).length) :
    c.node.paramRefs.Subperm (numbered (offsetsOf "?" s.placeholders)) ∧
      (c.node.paramRefs.Perm (numbered (offsetsOf "?" s.placeholders)) ↔
        (Tally.statement s.tree).lost = 0) := by
  let l : Ledger := ⟨offsetsOf "?" s.placeholders, s.start, s.limitComma⟩
  obtain ⟨q, hrun⟩ := Conversion.exists_run_of_convert hconvert
  have hstart : l.At (.start s.placeholders) := rfl
  obtain ⟨-, hseen, hextends⟩ := Conversion.extends_of_run_statement hstart hrun hquery
  have hcount (r : ParamRef) : c.node.paramRefs.count r ≤ (l.issued 0 q.seen).count r := by
    have h := hextends.1 r
    rwa [List.count_nil, Nat.zero_add] at h
  have hkept : c.node.paramRefs.length = (Tally.statement s.tree).kept := by
    have h := hextends.2
    rwa [List.length_nil, Nat.zero_add] at h
  -- All that is handed out lies within the marks of the text.
  have hissued : l.issued 0 q.seen ++ l.issued q.seen l.offsets.length = numbered l.offsets := by
    rw [← l.issued_length]
    refine l.issued_append (Nat.zero_le _) ?_
    rw [hwritten] at hseen
    simpa [Progress.start] using hseen
  have hsub : c.node.paramRefs.Subperm (numbered l.offsets) := by
    refine List.subperm_ext_iff.mpr fun r _ => ?_
    rw [← hissued, List.count_append]
    exact Nat.le_add_right_of_le (hcount r)
  -- So it is all of them if and only if it is as long as they are.
  have hall : (numbered l.offsets).length = (Tally.statement s.tree).written := by
    rw [hwritten]
    simp [numbered, l]
  refine ⟨hsub, fun hperm => ?_, fun hlost => hsub.perm_of_length_le ?_⟩
  · have := hperm.length_eq
    rw [hkept, hall, Tally.written] at this
    omega
  · simp [hkept, hall, Tally.written, hlost]

theorem paramRefs_numbering_limit :
    ∃ s c, (Sql.Script.parse .mysql none "SELECT a FROM t WHERE b = ? LIMIT ?").statements = [s] ∧
      convert .mysql s = .ok c ∧ c.node.paramRefs.Perm [⟨1, 26⟩, ⟨2, 34⟩] := by
  obtain ⟨s, c, hs, hc, hcheck⟩ := Conversion.exists_converted .mysql
    "SELECT a FROM t WHERE b = ? LIMIT ?"
    (fun s c => c.node.isQuery && offsetsOf "?" s.placeholders = [26, 34] &&
      (Tally.statement s.tree).written = 2 && (Tally.statement s.tree).lost = 0) (by decide +kernel)
  simp only [Bool.and_eq_true, decide_eq_true_eq] at hcheck
  obtain ⟨⟨⟨hquery, hoffsets⟩, hwritten⟩, hlost⟩ := hcheck
  have h := (paramRefs_numbering s c hc hquery (by rw [hwritten, hoffsets]; rfl)).2.mpr hlost
  rw [hoffsets] at h
  exact ⟨s, c, hs, hc, h⟩

/-- The LIMIT of a query in parentheses is lost to the LIMIT after the parentheses. -/
theorem not_paramRefs_perm_nested_limit :
    ∃ s c, (Sql.Script.parse .mysql none "(SELECT a FROM t LIMIT ?) LIMIT ?").statements = [s] ∧
      convert .mysql s = .ok c ∧ c.node.isQuery = true ∧
      (Tally.statement s.tree).written = (offsetsOf "?" s.placeholders).length ∧
      ¬ c.node.paramRefs.Perm (numbered (offsetsOf "?" s.placeholders)) := by
  -- the statement has two marks, and only the outer LIMIT keeps the one of its own
  obtain ⟨s, c, hs, hc, hcheck⟩ := Conversion.exists_converted .mysql
    "(SELECT a FROM t LIMIT ?) LIMIT ?"
    (fun s c => c.node.isQuery && offsetsOf "?" s.placeholders = [23, 32] &&
      (Tally.statement s.tree).written = 2 && c.node.paramRefs = [⟨2, 32⟩]) (by decide +kernel)
  simp only [Bool.and_eq_true, decide_eq_true_eq] at hcheck
  obtain ⟨⟨⟨hquery, hoffsets⟩, hwritten⟩, hrefs⟩ := hcheck
  refine ⟨s, c, hs, hc, hquery, by rw [hwritten, hoffsets]; rfl, ?_⟩
  rw [hrefs, hoffsets]
  decide

end TypedSql.Canonical
