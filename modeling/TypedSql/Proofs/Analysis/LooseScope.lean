import TypedSql.Proofs.Analysis.Loosening
import TypedSql.Proofs.Analysis.Run

/-!
# Names under loosening

A name means the same under a loosened catalog and a loosened tree: every lookup answers alike, up
to the promise of a column not to be null.

- **Lists**: searching related lists
- **Catalogs**: lookups of tables
- **Scopes**: relations, levels, and what names and stars stand for
-/

namespace TypedSql

variable {α β γ δ : Type}

/-! ## Lists -/

/-- Two conditions that related elements meet alike find related elements. -/
theorem rel_find? {R : α → β → Prop} {p : α → Bool} {q : β → Bool} {xs : List α} {ys : List β}
    (hpq : ∀ a b, R a b → p a = q b) (h : List.Forall₂ R xs ys) :
    Option.Rel R (xs.find? p) (ys.find? q) := by
  induction h with
  | nil => exact .none
  | @cons a b xs ys hab _ ih =>
    rw [List.find?_cons, List.find?_cons, hpq a b hab]
    cases q b with
    | true => exact .some hab
    | false => exact ih

theorem rel_findSome? {R : α → β → Prop} {P : γ → δ → Prop} {f : α → Option γ} {g : β → Option δ}
    {xs : List α} {ys : List β} (hfg : ∀ a b, R a b → Option.Rel P (f a) (g b))
    (h : List.Forall₂ R xs ys) : Option.Rel P (xs.findSome? f) (ys.findSome? g) := by
  induction h with
  | nil => exact .none
  | @cons a b xs ys hab _ ih =>
    rw [List.findSome?_cons, List.findSome?_cons]
    match f a, g b, hfg a b hab with
    | _, _, .some h => exact .some h
    | _, _, .none => exact ih

theorem rel_optionMap {R : α → β → Prop} {P : γ → δ → Prop} {f : α → γ} {g : β → δ}
    (hfg : ∀ a b, R a b → P (f a) (g b)) {a : Option α} {b : Option β} (h : Option.Rel R a b) :
    Option.Rel P (a.map f) (b.map g) := by
  cases h with
  | none => exact .none
  | some hab => exact .some (hfg _ _ hab)

theorem rel_toList {R : α → β → Prop} {a : Option α} {b : Option β} (h : Option.Rel R a b) :
    List.Forall₂ R a.toList b.toList := by
  cases h with
  | none => exact .nil
  | some hab => exact .cons hab .nil

theorem rel_head? {R : α → β → Prop} {xs : List α} {ys : List β} (h : List.Forall₂ R xs ys) :
    Option.Rel R xs.head? ys.head? := by
  cases h with
  | nil => exact .none
  | cons hab _ => exact .some hab

theorem rel_tail {R : α → β → Prop} {xs : List α} {ys : List β} (h : List.Forall₂ R xs ys) :
    List.Forall₂ R xs.tail ys.tail := by
  cases h with
  | nil => exact .nil
  | cons _ h => exact h

theorem rel_getElem? {R : α → β → Prop} {xs : List α} {ys : List β} (h : List.Forall₂ R xs ys)
    (i : Nat) : Option.Rel R xs[i]? ys[i]? := by
  induction h generalizing i with
  | nil => exact .none
  | cons hab _ ih =>
    cases i with
    | zero => exact .some hab
    | succ i => exact ih i

theorem isEmpty_eq_of_forall₂ {R : α → β → Prop} {xs : List α} {ys : List β}
    (h : List.Forall₂ R xs ys) : xs.isEmpty = ys.isEmpty := by
  cases h <;> rfl

theorem isSome_eq_of_rel {R : α → β → Prop} {a : Option α} {b : Option β} (h : Option.Rel R a b) :
    a.isSome = b.isSome := by
  cases h <;> rfl

theorem isNone_eq_of_rel {R : α → β → Prop} {a : Option α} {b : Option β} (h : Option.Rel R a b) :
    a.isNone = b.isNone := by
  cases h <;> rfl

theorem map_eq_of_forall₂ {R : α → β → Prop} {f : α → γ} {g : β → γ} {xs : List α} {ys : List β}
    (hfg : ∀ a b, R a b → f a = g b) (h : List.Forall₂ R xs ys) : xs.map f = ys.map g := by
  induction h with
  | nil => rfl
  | cons hab _ ih => rw [List.map_cons, List.map_cons, hfg _ _ hab, ih]

/-! ## Catalogs -/

theorem Directory.Related.find? {R : α → β → Prop} {d : Directory α} {d' : Directory β}
    (h : d.Related R d') (k : String) : Option.Rel R (d.find? k) (d'.find? k) := by
  unfold Directory.find?
  unfold Directory.Related at h
  -- the entries are paired key by key, so that both lookups stop at the same one
  generalize d.entries = es, d'.entries = es' at h
  induction h with
  | nil => exact .none
  | @cons e e' es es' he _ ih =>
    obtain ⟨key, value⟩ := e
    obtain ⟨key', value'⟩ := e'
    obtain ⟨rfl, hvalue⟩ := he
    rw [List.lookup_cons, List.lookup_cons]
    cases k == key with
    | true => exact .some hvalue
    | false => exact ih

/-- A table that is found in a catalog is found in a loosened one. -/
theorem Catalog.Loosens.lookupTable {c c' : Catalog} (h : c.Loosens c') (name : TableName) :
    Agree Table.Loosens (c.lookupTable name) (c'.lookupTable name) := by
  have hname : c'.schemaName name = c.schemaName name := by
    rw [schemaName, schemaName, h.defaultSchema]
  have hqualify : c'.qualify name = c.qualify name := by rw [qualify, qualify, hname]
  unfold Catalog.lookupTable schema?
  rw [hname, hqualify]
  -- both catalogs have the schema and the table, or both lack the same one
  match c.schemas.find? (c.schemaName name), c'.schemas.find? (c.schemaName name),
    h.schemas.find? (c.schemaName name) with
  | _, _, .none => rfl
  | some s, some s', .some hs =>
    dsimp only
    match s.tables.find? name.name, s'.tables.find? name.name, hs.tables.find? name.name with
    | _, _, .none => rfl
    | some t, some t', .some ht => exact ht

/-! ## Scopes -/

/-- A relation that promises less about nulls. -/
structure Relation.Loosens (r r' : Relation) : Prop where
  name : r'.name = r.name
  schema : r'.schema = r.schema
  table : r'.table = r.table
  columns : List.Forall₂ Loosened r.columns r'.columns
  nullable : r.nullable = true → r'.nullable = true

/-- A level whose relations and columns promise less about nulls. -/
structure ScopeLevel.Loosens (l l' : ScopeLevel) : Prop where
  relations : List.Forall₂ Relation.Loosens l.relations l'.relations
  ctes : List.Forall₂ Relation.Loosens l.ctes l'.ctes
  outputs : List.Forall₂ Loosened l.outputs l'.outputs

/-- A scope whose levels promise less about nulls. -/
def Scope.Loosens (s s' : Scope) : Prop := List.Forall₂ ScopeLevel.Loosens s s'

theorem Loosened.name_eq {c c' : ResultColumn} (h : Loosened c c') : c.name = c'.name := by
  obtain ⟨b, rfl, -⟩ := h
  rfl

namespace Relation.Loosens

variable {r r' : Relation}

theorem ofTable {t t' : Table} (h : t.Loosens t') (aliasName : Option String)
    {nullable nullable' : Bool} (hnullable : nullable = true → nullable' = true) :
    (Relation.ofTable t aliasName nullable).Loosens (Relation.ofTable t' aliasName nullable') where
  name := by simp [Relation.ofTable, h.name]
  schema := by simp [Relation.ofTable, h.name]
  table := by simp [Relation.ofTable, h.name]
  columns := by
    refine List.rel_map (fun c c' hc => ?_) h.columns
    obtain ⟨b, rfl, hb⟩ := hc
    exact ⟨b, by simp [Relation.tableColumn, h.name, Nullable.withNotNull], hb⟩
  nullable := hnullable

theorem adjust (h : r.Loosens r') {c c' : ResultColumn} (hc : Loosened c c') :
    Loosened (r.adjust c) (r'.adjust c') := by
  obtain ⟨b, rfl, hb⟩ := hc
  refine ⟨b && !r'.nullable, rfl, fun hnot => ?_⟩
  -- the looser column is not null, so no outer join replaces the tighter one by nulls either
  obtain ⟨rfl, hr'⟩ : b = true ∧ r'.nullable = false := by simpa using hnot
  have hr : r.nullable = false := by
    cases hn : r.nullable with
    | true => simp [h.nullable hn] at hr'
    | false => rfl
  have hcolumn : c.notNull = true := hb rfl
  simp [Nullable.notNull, Relation.adjust, hr, hcolumn]

theorem column? (h : r.Loosens r') (name : String) :
    Option.Rel Loosened (r.column? name) (r'.column? name) :=
  rel_optionMap (fun _ _ hc => h.adjust hc)
    (rel_find? (fun c c' hc => by rw [hc.name_eq]) h.columns)

theorem allColumns (h : r.Loosens r') : List.Forall₂ Loosened r.allColumns r'.allColumns :=
  List.rel_map (fun _ _ hc => h.adjust hc) h.columns

theorem label (h : r.Loosens r') : r.label = r'.label := by
  rw [Relation.label, Relation.label, h.name]

theorem missingColumn (h : r.Loosens r') (name : String) :
    r.missingColumn name = r'.missingColumn name := by
  rw [Relation.missingColumn, Relation.missingColumn, h.table, h.label]

theorem matchesQualifiers (h : r.Loosens r') (qualifiers : List String) :
    r.matchesQualifiers qualifiers = r'.matchesQualifiers qualifiers := by
  unfold Relation.matchesQualifiers
  rw [h.name, h.schema]

end Relation.Loosens

/-- A name means the same at a loosened level. -/
theorem ScopeLevel.Loosens.resolve {l l' : ScopeLevel} (h : l.Loosens l')
    (qualifiers : List String) (name : String) :
    Agree (Option.Rel Loosened) (l.resolve qualifiers name) (l'.resolve qualifiers name) := by
  unfold ScopeLevel.resolve
  split
  · have hfound : List.Forall₂ Relation.Loosens
        (l.relations.filter fun r => (r.column? name).isSome)
        (l'.relations.filter fun r => (r.column? name).isSome) :=
      List.rel_filter (fun r r' hr => by simp only [isSome_eq_of_rel (hr.column? name)])
        h.relations
    unfold ScopeLevel.resolveUnqualified
    -- as many relations have the column on either side: none, one, or too many
    match l.relations.filter _, l'.relations.filter _, hfound with
    | [], [], _ => exact rel_find? (fun c c' hc => by rw [hc.name_eq]) h.outputs
    | [r], [r'], .cons hr _ => exact hr.column? name
    | r :: q :: rs, r' :: q' :: rs', hrs =>
      exact congrArg _ (map_eq_of_forall₂ (fun r r' hr => hr.label) hrs)
  · have hfound : List.Forall₂ Relation.Loosens
        (l.relations.filter (·.matchesQualifiers qualifiers))
        (l'.relations.filter (·.matchesQualifiers qualifiers)) :=
      List.rel_filter (fun r r' hr => by simp only [hr.matchesQualifiers qualifiers]) h.relations
    unfold ScopeLevel.resolveQualified
    -- the qualifiers choose the same relations on either side
    match l.relations.filter _, l'.relations.filter _, hfound with
    | [], [], _ => exact Option.Rel.none
    | [r], [r'], .cons hr _ =>
      dsimp only
      match r.column? name, r'.column? name, hr.column? name with
      | _, _, .some hc => exact Option.Rel.some hc
      | _, _, .none => exact hr.missingColumn name
    | r :: q :: rs, r' :: q' :: rs', hrs =>
      exact congrArg _ (map_eq_of_forall₂ (fun r r' hr => hr.label) hrs)

namespace Scope.Loosens

variable {s s' : Scope}

theorem resolveName (h : s.Loosens s') (qualifiers : List String) (name : String) :
    Agree Loosened (Scope.resolveName qualifiers name s)
      (Scope.resolveName qualifiers name s') := by
  induction h with
  | nil =>
    unfold Scope.resolveName
    split <;> rfl
  | @cons l l' ls ls' hl _ ih =>
    rw [Scope.resolveName, Scope.resolveName]
    match l.resolve qualifiers name, l'.resolve qualifiers name, hl.resolve qualifiers name with
    | .error _, .error _, he => exact he
    | .ok (some _), .ok (some _), .some hc => exact hc
    | .ok none, .ok none, _ =>
      -- nothing by that name at this level on either side
      exact ih

theorem findCte? (h : s.Loosens s') (name : String) :
    Option.Rel Relation.Loosens (s.findCte? name) (s'.findCte? name) :=
  rel_findSome? (fun _ _ hl => rel_find? (fun r r' hr => by rw [hr.name])
    (List.rel_reverse hl.ctes)) h

theorem relations (h : s.Loosens s') :
    List.Forall₂ Relation.Loosens s.relations s'.relations := by
  cases h with
  | nil => exact .nil
  | cons hl _ => exact hl.relations

theorem expandStar (h : s.Loosens s') (qualifiers : List String) :
    Agree (List.Forall₂ Loosened) (s.expandStar qualifiers) (s'.expandStar qualifiers) := by
  unfold Scope.expandStar
  split
  · exact List.rel_flatMap h.relations fun r r' hr => hr.allColumns
  · have hfound : Option.Rel Relation.Loosens (s.relations.find? (·.matchesQualifiers qualifiers))
        (s'.relations.find? (·.matchesQualifiers qualifiers)) :=
      rel_find? (fun r r' hr => hr.matchesQualifiers qualifiers) h.relations
    match s.relations.find? _, s'.relations.find? _, hfound with
    | _, _, .some hr => exact hr.allColumns
    | _, _, .none => rfl

theorem setOutputs (h : s.Loosens s') {columns columns' : List ResultColumn}
    (hcolumns : List.Forall₂ Loosened columns columns') :
    (s.setOutputs columns).Loosens (s'.setOutputs columns') := by
  cases h with
  | nil => exact .nil
  | cons hl hls => exact .cons ⟨hl.relations, hl.ctes, hcolumns⟩ hls

end Scope.Loosens

end TypedSql
