import TypedSql.Proofs.Analysis.LooseTree

/-!
# Types under loosening

The rules that type expressions, result columns and placeholders never look at a promise not to be
null, except to make another such promise of it.

- **Typing rules**: types do not depend on nullability, and nullability is monotone
- **Bindings**: which candidate binds a placeholder does not depend on nullability
- **Steps**: single steps of two runs
-/

namespace TypedSql

open Canonical (Node Select)

/-! ## Typing rules -/

theorem Loosened.refl {α : Type} [Nullable α] {a : α}
    (h : Nullable.withNotNull (Nullable.notNull a) a = a) : Loosened a a := ⟨_, h.symm, id⟩

theorem loosened_computed {type : SqlType} {b b' : Bool} (h : b' = true → b = true) :
    Loosened (Inferred.computed type b) (Inferred.computed type b') := ⟨b', rfl, h⟩

namespace Inferred

variable {i i' l l' r r' : Inferred} {is is' : List Inferred}

theorem type_eq (h : Loosened i i') : i.type = i'.type := by
  obtain ⟨b, rfl, -⟩ := h
  rfl

theorem isOpaque_eq (h : Loosened i i') : i.isOpaque = i'.isOpaque := by
  rw [isOpaque, isOpaque, type_eq h]

theorem notNull_of_loosened (h : Loosened i i') (hi : i'.notNull = true) : i.notNull = true := by
  obtain ⟨b, rfl, hb⟩ := h
  exact hb hi

theorem loosened_ofColumn {c c' : ResultColumn} (h : Loosened c c') :
    Loosened (ofColumn c) (ofColumn c') := by
  obtain ⟨b, rfl, hb⟩ := h
  exact ⟨b, rfl, hb⟩

theorem loosened_hint? (h : Loosened i i') : Option.Rel Loosened i.hint? i'.hint? := by
  unfold hint?
  rw [isOpaque_eq h]
  split
  · exact .none
  · obtain ⟨b, rfl, hb⟩ := h
    exact .some ⟨b, rfl, hb⟩

theorem loosened_ofHint {h h' : Option Hint} (hh : Option.Rel Loosened h h') :
    Loosened (ofHint h) (ofHint h') := by
  cases hh with
  | none => exact .refl rfl
  | some hh =>
    obtain ⟨b, rfl, hb⟩ := hh
    exact loosened_computed hb

theorem all_notNull (h : List.Forall₂ Loosened is is') (hall : is'.all (·.notNull) = true) :
    is.all (·.notNull) = true := by
  induction h with
  | nil => rfl
  | @cons i i' is is' hi _ ih =>
    rw [List.all_cons, Bool.and_eq_true] at hall ⊢
    exact ⟨notNull_of_loosened hi hall.1, ih hall.2⟩

theorem any_notNull (h : List.Forall₂ Loosened is is') (hany : is'.any (·.notNull) = true) :
    is.any (·.notNull) = true := by
  induction h with
  | nil => exact hany
  | @cons i i' is is' hi _ ih =>
    rw [List.any_cons, Bool.or_eq_true] at hany ⊢
    exact hany.imp (notNull_of_loosened hi) ih

theorem all_isOpaque (h : List.Forall₂ Loosened is is') :
    is.all (·.isOpaque) = is'.all (·.isOpaque) := by
  induction h with
  | nil => rfl
  | cons hi _ ih => rw [List.all_cons, List.all_cons, isOpaque_eq hi, ih]

theorem firstType_eq (h : List.Forall₂ Loosened is is') : firstType is = firstType is' := by
  have hfind : Option.Rel Loosened (is.find? fun i => !i.isOpaque)
      (is'.find? fun i => !i.isOpaque) := rel_find? (fun i i' hi => by rw [isOpaque_eq hi]) h
  unfold firstType
  match is.find? _, is'.find? _, hfind with
  | _, _, .none => rfl
  | _, _, .some hi => exact type_eq hi

theorem operandType_eq {l l' : Option Inferred} (hl : Option.Rel Loosened l l')
    (hr : Loosened r r') : operandType l r = operandType l' r' := by
  cases hl with
  | none => exact type_eq hr
  | some hl =>
    unfold operandType
    dsimp only
    rw [isOpaque_eq hl, type_eq hl, type_eq hr]

/-- An operator promises no more about nulls than before if its operands do not. -/
theorem loosened_ofOperator (name : String) {l l' : Option Inferred} (hl : Option.Rel Loosened l l')
    (hr : Loosened r r') : Loosened (ofOperator name l r) (ofOperator name l' r') := by
  have hnotNull (h : (r'.notNull && (l'.map (·.notNull)).getD true) = true) :
      (r.notNull && (l.map (·.notNull)).getD true) = true := by
    rw [Bool.and_eq_true] at h ⊢
    refine ⟨notNull_of_loosened hr h.1, ?_⟩
    cases hl with
    | none => rfl
    | some hl => exact notNull_of_loosened hl h.2
  unfold ofOperator
  dsimp only
  cases OperatorKind.ofName name with
  | comparison | concat => exact loosened_computed hnotNull
  | arithmetic =>
    dsimp only
    rw [operandType_eq hl hr]
    exact loosened_computed hnotNull
  | other =>
    -- an unknown operator keeps the type of its only operand, and promises nothing of two
    cases hl with
    | none =>
      dsimp only
      rw [type_eq hr]
      exact loosened_computed hnotNull
    | some => exact .refl rfl

/-- A function promises no more about nulls than before if its arguments do not. -/
theorem loosened_ofCall (name : String) (h : List.Forall₂ Loosened is is') (star : Bool) :
    Loosened (ofCall name is star) (ofCall name is' star) := by
  unfold ofCall
  dsimp only
  split
  · exact .refl rfl
  split
  · -- the type is that of the first argument, nullability is not asked for
    cases h with
    | nil => exact .refl rfl
    | cons hi _ =>
      dsimp only
      rw [type_eq hi]
      exact .refl (by split <;> rfl)
  split
  · exact .refl rfl
  split
  · rw [firstType_eq h]
    exact loosened_computed (any_notNull h)
  split
  · exact loosened_computed (all_notNull h)
  split
  · exact .refl rfl
  split <;> exact .refl rfl

theorem loosened_ofBranches (h : List.Forall₂ Loosened is is') (hasDefault : Bool) :
    Loosened (ofBranches is hasDefault) (ofBranches is' hasDefault) := by
  unfold ofBranches
  rw [firstType_eq h]
  refine loosened_computed fun hall => ?_
  rw [Bool.and_eq_true] at hall ⊢
  exact ⟨hall.1, all_notNull h hall.2⟩

theorem loosened_ofList (h : List.Forall₂ Loosened is is') : Loosened (ofList is) (ofList is') := by
  unfold ofList
  rw [all_isOpaque h, firstType_eq h]
  split
  · exact .refl rfl
  · exact loosened_computed (all_notNull h)

end Inferred

namespace ResultColumn

variable {c c' d d' : ResultColumn} {cs cs' ds ds' : List ResultColumn}

theorem loosened_ofInferred (name : String) {i i' : Inferred} (h : Loosened i i') :
    Loosened (ofInferred name i) (ofInferred name i') := by
  obtain ⟨b, rfl, hb⟩ := h
  exact ⟨b, rfl, hb⟩

theorem loosened_hint (h : Loosened c c') : Loosened (Hint.column c) (Hint.column c') := by
  obtain ⟨b, rfl, hb⟩ := h
  exact ⟨b, rfl, hb⟩

/-- The hint for what is compared with a column depends on nullability only in its own. -/
theorem loosened_firstHint {first first' : Option ResultColumn}
    (h : Option.Rel Loosened first first') :
    Option.Rel Loosened ((first.filter fun column => !column.type.isOpaque).map Hint.column)
      ((first'.filter fun column => !column.type.isOpaque).map Hint.column) := by
  cases h with
  | none => exact .none
  | @some column column' h =>
    -- only the nullability of the column is loosened, and not its type
    have hopaque : column'.type.isOpaque = column.type.isOpaque := by
      obtain ⟨b, rfl, -⟩ := h
      rfl
    rw [Option.filter_some, Option.filter_some, hopaque]
    split
    · exact .some (loosened_hint h)
    · exact .none

theorem notNull_of_loosened (h : Loosened c c') (hc : c'.notNull = true) : c.notNull = true := by
  obtain ⟨b, rfl, hb⟩ := h
  exact hb hc

theorem loosened_combine (hc : Loosened c c') (hd : Loosened d d') :
    Loosened (c.combine d) (c'.combine d') := by
  obtain ⟨b, rfl, hb⟩ := hc
  obtain ⟨b', rfl, hb'⟩ := hd
  refine ⟨b && b', rfl, fun h => ?_⟩
  obtain ⟨rfl, rfl⟩ : b = true ∧ b' = true := by simpa using h
  have hc : c.notNull = true := hb rfl
  have hd : d.notNull = true := hb' rfl
  simp [Nullable.notNull, combine, hc, hd]

theorem loosened_zipWith_combine (hc : List.Forall₂ Loosened cs cs')
    (hd : List.Forall₂ Loosened ds ds') :
    List.Forall₂ Loosened (List.zipWith combine cs ds) (List.zipWith combine cs' ds') := by
  induction hc generalizing ds ds' with
  | nil => exact .nil
  | cons hc _ ih =>
    cases hd with
    | nil => exact .nil
    | cons hd hds => exact .cons (loosened_combine hc hd) (ih hds)

theorem loosened_rowColumns (position : Nat) {is is' : List Inferred}
    (h : List.Forall₂ Loosened is is') :
    List.Forall₂ Loosened (rowColumns position is) (rowColumns position is') := by
  induction h generalizing position with
  | nil => exact .nil
  | cons hi _ ih =>
    obtain ⟨b, rfl, hb⟩ := hi
    exact .cons ⟨b, rfl, hb⟩ (ih (position + 1))

theorem loosened_weakenColumns {is is' : List Inferred} (hc : List.Forall₂ Loosened cs cs')
    (hi : List.Forall₂ Loosened is is') :
    List.Forall₂ Loosened (weakenColumns cs is) (weakenColumns cs' is') := by
  induction hc generalizing is is' with
  | nil => cases hi <;> exact .nil
  | cons hc hcs ih =>
    cases hi with
    | nil => exact .cons hc hcs
    | cons hi his =>
      obtain ⟨b, rfl, hb⟩ := hc
      refine .cons ⟨_, rfl, fun h => ?_⟩ (ih his)
      rw [Bool.and_eq_true] at h
      exact Bool.and_eq_true_iff.mpr ⟨hb h.1, Inferred.notNull_of_loosened hi h.2⟩

theorem loosened_valuesColumns {rows rows' : List (List Inferred)}
    (h : List.Forall₂ (List.Forall₂ Loosened) rows rows') :
    List.Forall₂ Loosened (valuesColumns rows) (valuesColumns rows') := by
  cases h with
  | nil => exact .nil
  | cons hrow hrows =>
    exact List.rel_foldl (P := List.Forall₂ Loosened) (R := List.Forall₂ Loosened)
      (fun _ _ hc _ _ hi => loosened_weakenColumns hc hi) (loosened_rowColumns 1 hrow) hrows

end ResultColumn

/-! ## Bindings -/

theorem Parameter.loosened_ofHint (number : Nat) {h h' : Option Hint}
    (hh : Option.Rel Loosened h h') : Loosened (ofHint number h) (ofHint number h') := by
  cases hh with
  | none => exact .refl rfl
  | some hh =>
    obtain ⟨b, rfl, hb⟩ := hh
    exact ⟨b, rfl, hb⟩

namespace Bindings

variable {bs bs' : Bindings}

/-- Whether a candidate takes the place of a binding depends on their types only. -/
theorem loosened_record {p p' : Parameter} (hp : Loosened p p')
    (h : List.Forall₂ Loosened bs bs') : List.Forall₂ Loosened (record p bs) (record p' bs') := by
  induction h with
  | nil => exact .cons hp .nil
  | @cons q q' qs qs' hq hqs ih =>
    -- neither the number nor the type of a parameter is loosened, so both runs decide alike
    have hsame : (if q'.number = p'.number then
        if q'.type.isOpaque && !p'.type.isOpaque then p' :: qs' else q' :: qs'
        else q' :: record p' qs') = if q.number = p.number then
        if q.type.isOpaque && !p.type.isOpaque then p' :: qs' else q' :: qs'
        else q' :: record p' qs' := by
      obtain ⟨b, rfl, -⟩ := hp
      obtain ⟨b', rfl, -⟩ := hq
      rfl
    rw [record, record, hsame]
    split
    · split
      · exact .cons hp hqs
      · exact .cons hq hqs
    · exact .cons hq ih

theorem loosened_parameters (h : List.Forall₂ Loosened bs bs') (greatest : Nat) :
    List.Forall₂ Loosened (bs.parameters greatest) (bs'.parameters greatest) := by
  -- a placeholder is bound in both lists or in neither
  have hfind (n : Nat) :
      Loosened ((bs.find? n).getD (.unknown n)) ((bs'.find? n).getD (.unknown n)) := by
    have hrel : Option.Rel Loosened (bs.find? n) (bs'.find? n) := by
      refine rel_find? (fun p p' hp => ?_) h
      obtain ⟨b, rfl, -⟩ := hp
      rfl
    match bs.find? n, bs'.find? n, hrel with
    | _, _, .none => exact .refl rfl
    | _, _, .some hp => exact hp
  unfold parameters
  induction List.range' 1 greatest with
  | nil => exact .nil
  | cons n ns ih => exact .cons (hfind n) ih

end Bindings

/-! ## Steps -/

/-- Two runs of an analysis that bind placeholders alike, up to promises about nulls. -/
abbrev LooseRuns {α β : Type} (R : α → β → Prop) (m : AnalysisM α) (m' : AnalysisM β) : Prop :=
  Simulates (List.Forall₂ Loosened) R m m'

variable {s s' : Scope} {hint hint' : Option Hint}

theorem bindParam_loosens (number : Nat) (hh : Option.Rel Loosened hint hint') :
    LooseRuns Loosened (bindParam number hint) (bindParam number hint') :=
  .bind (.modify fun _ _ => Bindings.loosened_record (Parameter.loosened_ofHint number hh))
    fun _ _ _ => .pure (Inferred.loosened_ofHint hh)

theorem bindAll_loosens {ns ns' : List Node} (h : List.Forall₂ Node.Loosens ns ns') :
    LooseRuns (fun _ _ => True) (bindAll ns) (bindAll ns') := by
  induction h with
  | nil => exact .pure trivial
  | cons h _ ih =>
    cases h with
    | param number location =>
      exact .bind (.discard (bindParam_loosens number .none)) fun _ _ _ => ih
    | _ => exact ih

/-- What may be absent is not null only if it was before. -/
theorem getD_notNull {α : Type} [Nullable α] {a a' : Option α} (h : Option.Rel Loosened a a')
    (hnot : (a'.map Nullable.notNull).getD false = true)
    (hlaw : ∀ b (x : α), Nullable.notNull (Nullable.withNotNull b x) = b) :
    (a.map Nullable.notNull).getD false = true := by
  cases h with
  | none => exact hnot
  | some h =>
    obtain ⟨b, rfl, hb⟩ := h
    exact hb ((hlaw b _).symm.trans hnot)

theorem lookedUp_loosens {c c' : Catalog} (hc : c.Loosens c') (name : TableName) :
    LooseRuns Table.Loosens (lookedUp (c.lookupTable name)) (lookedUp (c'.lookupTable name)) := by
  match c.lookupTable name, c'.lookupTable name, hc.lookupTable name with
  | .ok t, .ok t', ht => exact .pure ht
  | .error e, .error e', h =>
    cases h
    exact .throw _

theorem resolve_loosens (hs : s.Loosens s') {fields fields' : List Node}
    (h : List.Forall₂ Node.Loosens fields fields') :
    Agree Loosened (s.resolve fields) (s'.resolve fields') := by
  unfold Scope.resolve
  rw [Canonical.Node.Loosens.columnName?_eq h, Canonical.Node.Loosens.qualifiers_eq h]
  cases Canonical.columnName? fields' with
  | none => rfl
  | some name => exact hs.resolveName _ _

end TypedSql
