import TypedSql.Analysis.Scope

/-!
# Resolution of names

Names are scoped lexically. A reference is decided at the innermost level that knows it, and what
that level says of it does not depend on any other level.

- **Candidates**: the relations of a level that a reference may be to
- **Levels**: when a level knows a reference, and what it says of it
- **Scopes**: what a reference means in a scope
- **Single answers**: how many columns and relations an answer is chosen from
-/

namespace TypedSql

open Canonical (Node columnName? qualifiers)

/-! ## Candidates -/

/-- Whether a relation has a column with a name. -/
def Relation.exposes (r : Relation) (name : String) : Bool := r.columns.any (·.name = name)

theorem Relation.isSome_column? (r : Relation) (name : String) :
    (r.column? name).isSome = r.exposes name := by
  rw [column?, Option.isSome_map, exposes, Bool.eq_iff_iff, List.find?_isSome, List.any_eq_true]

namespace ScopeLevel

variable {l : ScopeLevel} {qs : List String} {name : String} {r : Relation}

/-- The relations of a level that qualifiers select: those that they name, or all if there are
none. -/
def selected (l : ScopeLevel) (qs : List String) : List Relation :=
  if qs = [] then l.relations else l.relations.filter (·.matchesQualifiers qs)

/-- The relations of a level that a reference may be to. Qualifiers leave those that they name, and
without qualifiers it is those that have a column of the name. -/
def candidates (l : ScopeLevel) (qs : List String) (name : String) : List Relation :=
  if qs = [] then l.relations.filter (·.exposes name) else l.selected qs

theorem mem_of_candidate (h : r ∈ l.candidates qs name) : r ∈ l.relations := by
  rw [candidates, selected] at h
  by_cases hqs : qs = []
  · rw [if_pos hqs] at h
    exact (List.mem_filter.mp h).1
  · rw [if_neg hqs, if_neg hqs] at h
    exact (List.mem_filter.mp h).1

/-! ## Levels -/

/-- A level knows a reference: it has a relation that the reference may be to, or a column of the
result whose name stands there without qualifiers. -/
def Knows (l : ScopeLevel) (qs : List String) (name : String) : Prop :=
  l.candidates qs name ≠ [] ∨ (qs = [] ∧ ∃ column ∈ l.outputs, column.name = name)

instance (l : ScopeLevel) (qs : List String) (name : String) : Decidable (l.Knows qs name) :=
  inferInstanceAs (Decidable (_ ∨ _))

/-- What a level that knows a reference says of it. -/
inductive Says (l : ScopeLevel) (qs : List String) (name : String) :
    Except AnalysisError ResultColumn → Prop where
  /-- It is the column of the only candidate, and can be null if the relation can be as a whole. -/
  | column {r : Relation} {column : ResultColumn} (hr : l.candidates qs name = [r])
      (hcolumn : r.columns.find? (·.name = name) = some column) :
      Says l qs name (.ok { column with notNull := column.notNull && !r.nullable })
  /-- The only candidate does not have the column. -/
  | missing {r : Relation} (hr : l.candidates qs name = [r]) (hcolumn : r.exposes name = false) :
      Says l qs name (.error (r.missingColumn name))
  /-- There are several candidates; they are listed in the order of the FROM clause. -/
  | ambiguous (h : 1 < (l.candidates qs name).length) :
      Says l qs name (.error (.ambiguousColumn (String.intercalate "." (qs ++ [name]))
        ((l.candidates qs name).map Relation.label)))
  /-- It is a column of the result, if no relation has a column of the name. -/
  | output {column : ResultColumn} (hqs : qs = []) (hr : l.candidates qs name = [])
      (hcolumn : l.outputs.find? (·.name = name) = some column) : Says l qs name (.ok column)

/-- A level says what its candidates do, and what the result does if there are none. -/
theorem resolve_eq (l : ScopeLevel) (qs : List String) (name : String) :
    l.resolve qs name =
      match l.candidates qs name with
      | [] => .ok (if qs = [] then l.outputs.find? (·.name = name) else none)
      | [r] =>
        match r.column? name with
        | some column => .ok (some column)
        | none => .error (r.missingColumn name)
      | rs => .error (.ambiguousColumn (String.intercalate "." (qs ++ [name]))
          (rs.map Relation.label)) := by
  cases qs with
  | nil =>
    have hcandidates : (l.relations.filter fun r => (r.column? name).isSome) =
        l.candidates [] name := by
      simp only [Relation.isSome_column?]
      rfl
    rw [resolve, List.isEmpty_nil, if_pos rfl, resolveUnqualified, hcandidates]
    rcases h : l.candidates [] name with _ | ⟨r, _ | ⟨r', rs⟩⟩
    · rfl
    · -- the relation has the column, for else it would not be a candidate
      have hmem : r ∈ l.candidates [] name := h ▸ List.mem_singleton_self r
      rw [← hcandidates] at hmem
      obtain ⟨column, hcolumn⟩ := Option.isSome_iff_exists.mp (List.mem_filter.mp hmem).2
      simp only [hcolumn]
    · rfl
  | cons q qs =>
    have hcandidates : (l.relations.filter (·.matchesQualifiers (q :: qs))) =
        l.candidates (q :: qs) name := rfl
    rw [resolve, List.isEmpty_cons, if_neg Bool.false_ne_true, resolveQualified, hcandidates]
    rcases l.candidates (q :: qs) name with _ | ⟨r, _ | ⟨r', rs⟩⟩ <;> rfl

/-- The answer of a level that knows a reference is what it says. -/
theorem Says.resolve_eq {answer : Except AnalysisError ResultColumn} (h : l.Says qs name answer) :
    l.resolve qs name = answer.map some := by
  rw [ScopeLevel.resolve_eq]
  cases h with
  | column hr hcolumn =>
    rw [hr]
    simp only [Relation.column?, hcolumn, Option.map_some]
    rfl
  | @missing r hr hcolumn =>
    have hnone : r.column? name = none := by
      rw [← Option.not_isSome_iff_eq_none, r.isSome_column?, hcolumn]
      exact Bool.false_ne_true
    rw [hr]
    simp only [hnone]
    rfl
  | ambiguous h =>
    -- fewer than two candidates are not ambiguous
    rcases hrs : l.candidates qs name with _ | ⟨r, _ | ⟨r', rs⟩⟩
    · simp [hrs] at h
    · simp [hrs] at h
    · rfl
  | output hqs hr hcolumn =>
    rw [hr]
    simp only [hqs, if_true, hcolumn]
    rfl

/-- A level that knows a reference says something of it. -/
theorem Knows.exists_says (h : l.Knows qs name) : ∃ answer, l.Says qs name answer := by
  rcases hrs : l.candidates qs name with _ | ⟨r, _ | ⟨r', rs⟩⟩
  · -- no relation has the name, so the level knows it as a column of its result
    obtain ⟨hqs, column, hmem, hname⟩ := h.resolve_left (· hrs)
    have hfound : (l.outputs.find? (·.name = name)).isSome = true :=
      List.find?_isSome.mpr ⟨column, hmem, decide_eq_true hname⟩
    obtain ⟨found, hfound⟩ := Option.isSome_iff_exists.mp hfound
    exact ⟨_, .output hqs hrs hfound⟩
  · -- one relation, which has the column or, if it is named by the qualifiers, lacks it
    rcases hcolumn : r.columns.find? (·.name = name) with _ | column
    · refine ⟨_, .missing hrs ?_⟩
      rw [← r.isSome_column?, Relation.column?, hcolumn]
      rfl
    · exact ⟨_, .column hrs hcolumn⟩
  · -- several relations
    refine ⟨_, .ambiguous ?_⟩
    rw [hrs]
    exact Nat.succ_lt_succ (Nat.succ_pos _)

/-- A level that does not know a reference has no answer. -/
theorem resolve_of_not_knows (h : ¬ l.Knows qs name) : l.resolve qs name = .ok none := by
  obtain ⟨hcandidates, houtputs⟩ := not_or.mp h
  rw [resolve_eq, Classical.not_not.mp hcandidates]
  dsimp only
  split
  · rename_i hqs
    refine congrArg _ (List.find?_eq_none.mpr fun column hmem hname => houtputs ?_)
    exact ⟨hqs, column, hmem, of_decide_eq_true hname⟩
  · rfl

theorem not_knows_of_empty (hrelations : l.relations = []) (houtputs : l.outputs = []) :
    ¬ l.Knows qs name := by
  simp [Knows, candidates, selected, hrelations, houtputs]

end ScopeLevel

/-! ## Scopes -/

namespace Scope

variable {s : Scope} {qs : List String} {name : String}

/-- What a reference means in a scope. -/
inductive Means (s : Scope) (qs : List String) (name : String) :
    Except AnalysisError ResultColumn → Prop where
  /-- The innermost level that knows the reference decides. -/
  | decided {before after : List ScopeLevel} {l : ScopeLevel}
      {answer : Except AnalysisError ResultColumn} (hs : s = before ++ l :: after)
      (hbefore : ∀ k ∈ before, ¬ k.Knows qs name) (h : l.Says qs name answer) :
      Means s qs name answer
  | unknownColumn (hqs : qs = []) (h : ∀ l ∈ s, ¬ l.Knows qs name) :
      Means s qs name (.error (.unknownColumn name none))
  | unknownRelation (hqs : qs ≠ []) (h : ∀ l ∈ s, ¬ l.Knows qs name) :
      Means s qs name (.error (.unknownRelation (String.intercalate "." qs)))

/-- Levels that do not know a reference are passed over. -/
theorem resolveName_append {before : List ScopeLevel} (h : ∀ k ∈ before, ¬ k.Knows qs name)
    (s : Scope) : resolveName qs name (before ++ s) = resolveName qs name s := by
  induction before with
  | nil => rfl
  | cons k before ih =>
    obtain ⟨hk, hbefore⟩ := List.forall_mem_cons.mp h
    rw [List.cons_append, resolveName, ScopeLevel.resolve_of_not_knows hk]
    exact ih hbefore

/-- A level that knows a reference decides it, whatever the levels around it are. -/
theorem resolveName_cons_of_says {l : ScopeLevel} {answer : Except AnalysisError ResultColumn}
    (h : l.Says qs name answer) (s : Scope) : resolveName qs name (l :: s) = answer := by
  rw [resolveName, h.resolve_eq]
  cases answer <;> rfl

theorem resolveName_of_unknown (h : ∀ l ∈ s, ¬ l.Knows qs name) :
    resolveName qs name s =
      .error (if qs = [] then .unknownColumn name none
        else .unknownRelation (String.intercalate "." qs)) := by
  rw [← List.append_nil s, resolveName_append h, resolveName]
  cases qs <;> rfl

theorem Means.resolveName_eq {answer : Except AnalysisError ResultColumn}
    (h : s.Means qs name answer) : resolveName qs name s = answer := by
  cases h with
  | decided hs hbefore h => rw [hs, resolveName_append hbefore, resolveName_cons_of_says h]
  | unknownColumn hqs h => rw [resolveName_of_unknown h, if_pos hqs]
  | unknownRelation hqs h => rw [resolveName_of_unknown h, if_neg hqs]

/-- The levels of a scope up to the first one that knows a reference. -/
theorem exists_innermost (h : ∃ l ∈ s, l.Knows qs name) :
    ∃ before l after, s = before ++ l :: after ∧ (∀ k ∈ before, ¬ k.Knows qs name) ∧
      l.Knows qs name := by
  induction s with
  | nil => exact absurd h (by simp)
  | cons l s ih =>
    by_cases hl : l.Knows qs name
    · exact ⟨[], l, s, rfl, List.forall_mem_nil _, hl⟩
    · have hs : ∃ k ∈ s, k.Knows qs name := by simpa [hl] using h
      obtain ⟨before, k, after, rfl, hbefore, hk⟩ := ih hs
      exact ⟨l :: before, k, after, rfl, List.forall_mem_cons.mpr ⟨hl, hbefore⟩, hk⟩

theorem exists_means (s : Scope) (qs : List String) (name : String) :
    ∃ answer, s.Means qs name answer := by
  by_cases h : ∃ l ∈ s, l.Knows qs name
  · obtain ⟨before, l, after, hs, hbefore, hl⟩ := exists_innermost h
    obtain ⟨answer, hanswer⟩ := hl.exists_says
    exact ⟨answer, .decided hs hbefore hanswer⟩
  · have hunknown : ∀ l ∈ s, ¬ l.Knows qs name := fun l hl hknows => h ⟨l, hl, hknows⟩
    by_cases hqs : qs = []
    · exact ⟨_, .unknownColumn hqs hunknown⟩
    · exact ⟨_, .unknownRelation hqs hunknown⟩

/-- A reference has exactly one meaning, and that is what it is resolved to. -/
theorem resolveName_eq_iff {answer : Except AnalysisError ResultColumn} :
    resolveName qs name s = answer ↔ s.Means qs name answer := by
  refine ⟨?_, Means.resolveName_eq⟩
  rintro rfl
  obtain ⟨answer, h⟩ := s.exists_means qs name
  rwa [h.resolveName_eq]

/-- **Names are scoped lexically.** A reference that is none to a star is resolved to its meaning:
the innermost level that knows it decides, and without such a level it is unknown. So the levels
around the one that decides are of no account, and neither is a level without relations and without
a result. A reference that ends in no name is malformed. -/
theorem resolve_lexical (s : Scope) (fields : List Node) :
    (∀ answer, s.resolve fields = answer ↔
      match columnName? fields with
      | some name => s.Means (qualifiers fields) name answer
      | none => answer = .error (.malformed .starInExpression)) ∧
    (∀ name before l after, columnName? fields = some name → s = before ++ l :: after →
      (∀ k ∈ before, ¬ k.Knows (qualifiers fields) name) → l.Knows (qualifiers fields) name →
      s.resolve fields = Scope.resolve [l] fields) ∧
    ∀ before l after, s = before ++ l :: after → l.relations = [] → l.outputs = [] →
      s.resolve fields = Scope.resolve (before ++ after) fields := by
  refine ⟨fun answer => ?_, ?_, ?_⟩
  · cases hname : columnName? fields with
    | some name =>
      simp only [resolve, hname]
      exact resolveName_eq_iff
    | none =>
      simp only [resolve, hname]
      exact eq_comm
  · rintro name before l after hname rfl hbefore hl
    obtain ⟨answer, h⟩ := hl.exists_says
    simp only [resolve, hname, resolveName_append hbefore, resolveName_cons_of_says h]
  · rintro before l after rfl hrelations houtputs
    simp only [resolve]
    split
    · -- the level is passed over wherever it stands, so by what stands before it as well
      induction before with
      | nil =>
        rw [List.nil_append, List.nil_append, resolveName, ScopeLevel.resolve_of_not_knows
          (ScopeLevel.not_knows_of_empty hrelations houtputs)]
      | cons k before ih => simp only [List.cons_append, resolveName, ih]
    · rfl

/-- A relation with one column, which cannot be null in its own rows. -/
private def oneColumn (name column : String) (nullable : Bool) : Relation :=
  .derived name [⟨column, .named "integer", true, none, none⟩] nullable

/-- A correlated reference: the inner relation does not know it, and the outer one, which is the
nullable side of a join, decides it. -/
theorem resolve_lexical_correlated :
    let inner := ScopeLevel.ofRelations [oneColumn "t" "a" false]
    let outer := ScopeLevel.ofRelations [oneColumn "u" "b" true]
    Scope.resolve [inner, .empty, outer] [.name "b"] =
        .ok ⟨"b", .named "integer", false, none, none⟩ ∧
      Scope.resolve [inner, .empty, outer] [.name "b"] = Scope.resolve [outer] [.name "b"] ∧
      Scope.resolve [inner, .empty, outer] [.name "b"] =
        Scope.resolve [inner, outer] [.name "b"] := by
  intro inner outer
  obtain ⟨hmeans, hdecides, hempty⟩ := resolve_lexical [inner, .empty, outer] [.name "b"]
  have hsays := @ScopeLevel.Says.column outer [] "b" (oneColumn "u" "b" true)
    ⟨"b", .named "integer", true, none, none⟩ rfl rfl
  refine ⟨(hmeans _).mpr ?_, ?_, hempty [inner] .empty [outer] rfl rfl rfl⟩
  · -- the inner level and the empty one do not know the name, so the outer one answers
    exact @Means.decided _ _ _ [inner, .empty] [] outer _ rfl (by decide) hsays
  · -- and the reference means there what it means from outside
    exact hdecides "b" [inner, .empty] outer [] rfl rfl (by decide) (by decide)

end Scope

/-! ## Single answers -/

/-- Whether an error rejects a reference: what it refers to is ambiguous or unknown. -/
def AnalysisError.RejectsReference : AnalysisError → Prop
  | .ambiguousColumn .. | .unknownColumn .. | .unknownRelation _ => True
  | _ => False

theorem Relation.rejectsReference_missingColumn (r : Relation) (name : String) :
    (r.missingColumn name).RejectsReference := by
  rw [missingColumn]
  split <;> trivial

namespace ScopeLevel

variable {l : ScopeLevel} {qs : List String} {name : String} {r : Relation}

/-- The columns with a name, of all relations that qualifiers select. -/
def namesakes (l : ScopeLevel) (qs : List String) (name : String) : List ResultColumn :=
  ((l.selected qs).flatMap (·.columns)).filter (·.name = name)

/-- The columns with a name are those of the relations that expose it. -/
theorem filter_flatMap_columns (rs : List Relation) (name : String) :
    (rs.flatMap (·.columns)).filter (·.name = name) =
      ((rs.filter (·.exposes name)).flatMap (·.columns)).filter (·.name = name) := by
  induction rs with
  | nil => rfl
  | cons r rs ih =>
    rw [List.flatMap_cons, List.filter_append, ih, List.filter_cons]
    by_cases hr : r.exposes name = true
    · rw [if_pos hr, List.flatMap_cons, List.filter_append]
    · have hnone : r.columns.filter (·.name = name) = [] :=
        List.filter_eq_nil_iff.mpr fun column hmem hname =>
          hr (List.any_eq_true.mpr ⟨column, hmem, hname⟩)
      rw [if_neg hr, hnone, List.nil_append]

theorem namesakes_of_single (h : (l.selected qs).filter (·.exposes name) = [r]) :
    l.namesakes qs name = r.columns.filter (·.name = name) := by
  rw [namesakes, filter_flatMap_columns, h, List.flatMap_singleton]

/-- A level that answers with a column of its relations has a single candidate, which is the only
selected relation with a column of the name. -/
theorem Says.exists_single {column : ResultColumn} (h : l.Says qs name (.ok column))
    (hcandidates : l.candidates qs name ≠ []) :
    ∃ r, (l.selected qs).filter (·.exposes name) = [r] ∧ r.column? name = some column := by
  cases h with
  | @column r column hr hcolumn =>
    have hfound : r.column? name = some (r.adjust column) := by rw [Relation.column?, hcolumn]; rfl
    have hexposes : r.exposes name = true := by rw [← r.isSome_column?, hfound]; rfl
    refine ⟨r, ?_, hfound⟩
    -- without qualifiers the candidates are those that have the column, and with some they may lack
    -- it
    by_cases hqs : qs = []
    · rw [candidates, if_pos hqs] at hr
      rw [selected, if_pos hqs, hr]
    · rw [candidates, if_neg hqs] at hr
      rw [hr, List.filter_cons, if_pos hexposes, List.filter_nil]
  | output _ hr _ => exact absurd hr hcandidates

theorem Says.rejectsReference {e : AnalysisError} (h : l.Says qs name (.error e)) :
    e.RejectsReference := by
  cases h with
  | missing hr hcolumn => exact Relation.rejectsReference_missingColumn _ _
  | ambiguous h => trivial

end ScopeLevel

namespace Scope

variable {s : Scope} {qs : List String} {name : String}

/-- A scope answers a reference with a column from the relations of a level: the levels further in
do not know the reference, and the level has a relation that it may be to. -/
structure AnsweredAt (s : Scope) (fields : List Node) (name : String) (l : ScopeLevel)
    (column : ResultColumn) : Prop where
  name_eq : columnName? fields = some name
  level : ∃ before after,
    s = before ++ l :: after ∧ ∀ k ∈ before, ¬ k.Knows (qualifiers fields) name
  candidates : l.candidates (qualifiers fields) name ≠ []
  answer : s.resolve fields = .ok column

theorem AnsweredAt.says {fields : List Node} {l : ScopeLevel} {column : ResultColumn}
    (h : s.AnsweredAt fields name l column) : l.Says (qualifiers fields) name (.ok column) := by
  obtain ⟨before, after, rfl, hbefore⟩ := h.level
  obtain ⟨answer, hsays⟩ := ScopeLevel.Knows.exists_says (.inl h.candidates)
  have hanswer := h.answer
  simp only [resolve, h.name_eq, resolveName_append hbefore, resolveName_cons_of_says hsays]
    at hanswer
  rwa [← hanswer]

/-- A reference that is not answered is rejected. -/
theorem rejectsReference_of_resolveName {e : AnalysisError}
    (h : resolveName qs name s = .error e) : e.RejectsReference := by
  cases resolveName_eq_iff.mp h with
  | decided _ _ h => exact h.rejectsReference
  | unknownColumn | unknownRelation => trivial

theorem expandStar_of_qualified (hqs : qs ≠ []) (s : Scope) :
    s.expandStar qs =
      match s.relations.filter (·.matchesQualifiers qs) with
      | r :: _ => .ok r.allColumns
      | [] => .error (.unknownRelation (String.intercalate "." qs)) := by
  rw [expandStar, if_neg (by simpa using hqs), ← List.head?_filter]
  cases s.relations.filter (·.matchesQualifiers qs) <;> rfl

/-- **What an answer is chosen from.** A column that a reference is answered with is one of the only
selected relation with a column of the name, namely the first one, so it is the only choice if that
relation has the name once. A qualified star stands for the columns of the first relation that the
qualifiers name, so it is the only choice if they name one. All other references are rejected as
ambiguous or unknown. -/
theorem answered_from_first (s : Scope) :
    (∀ fields name l column, s.AnsweredAt fields name l column →
      ∃ r first others, (l.selected (qualifiers fields)).filter (·.exposes name) = [r] ∧
        r.columns.filter (·.name = name) = first :: others ∧
        l.namesakes (qualifiers fields) name = first :: others ∧ column = r.adjust first) ∧
    (∀ fields name e, columnName? fields = some name → s.resolve fields = .error e →
      e.RejectsReference) ∧
    (∀ qs columns, qs ≠ [] → s.expandStar qs = .ok columns →
      ∃ r others, s.relations.filter (·.matchesQualifiers qs) = r :: others ∧
        columns = r.allColumns) ∧
    ∀ qs e, qs ≠ [] → s.expandStar qs = .error e →
      s.relations.filter (·.matchesQualifiers qs) = [] ∧ e.RejectsReference := by
  refine ⟨fun fields name l column h => ?_, fun fields name e hname h => ?_,
    fun qs columns hqs h => ?_, fun qs e hqs h => ?_⟩
  · -- the level has a single relation with such a column, and the first column of it answers
    obtain ⟨r, hr, hcolumn⟩ := h.says.exists_single h.candidates
    obtain ⟨first, hfirst, rfl⟩ := Option.map_eq_some_iff.mp hcolumn
    rw [← List.head?_filter] at hfirst
    obtain ⟨others, hothers⟩ := List.head?_eq_some_iff.mp hfirst
    exact ⟨r, first, others, hr, hothers, by rw [ScopeLevel.namesakes_of_single hr, hothers], rfl⟩
  · -- a name that is not answered is rejected
    simp only [resolve, hname] at h
    exact rejectsReference_of_resolveName h
  · -- a star of several relations by that name takes the columns of the first one
    rw [expandStar_of_qualified hqs] at h
    split at h
    · rename_i r others hmatching
      exact ⟨r, others, hmatching, (Except.ok.inj h).symm⟩
    · cases h
  · -- no relation by that name
    rw [expandStar_of_qualified hqs] at h
    split at h
    · cases h
    · rename_i hmatching
      cases h
      exact ⟨hmatching, trivial⟩

/-- A reference and a star that have one choice each, and a reference that is rejected. -/
theorem answered_from_first_twoRelations :
    let l := ScopeLevel.ofRelations [oneColumn "x" "a" false, oneColumn "y" "b" true]
    (∃ r first others, (l.selected []).filter (·.exposes "b") = [r] ∧
      r.columns.filter (·.name = "b") = first :: others ∧
      l.namesakes [] "b" = first :: others ∧
      ⟨"b", .named "integer", false, none, none⟩ = r.adjust first) ∧
    (AnalysisError.unknownColumn "c" none).RejectsReference ∧
    (∃ r others, [oneColumn "x" "a" false, oneColumn "y" "b" true].filter
        (·.matchesQualifiers ["x"]) = r :: others ∧
      [⟨"a", .named "integer", true, none, none⟩] = r.allColumns) ∧
    [oneColumn "x" "a" false, oneColumn "y" "b" true].filter (·.matchesQualifiers ["z"]) = [] ∧
      (AnalysisError.unknownRelation "z").RejectsReference := by
  intro l
  obtain ⟨hanswer, herror, hstar, hunknown⟩ := answered_from_first [l]
  refine ⟨hanswer [.name "b"] "b" l _ ⟨rfl, ⟨[], [], rfl, List.forall_mem_nil _⟩, ?_, rfl⟩,
    herror [.name "c"] "c" _ rfl rfl, hstar ["x"] _ (List.cons_ne_nil _ _) rfl,
    hunknown ["z"] _ (List.cons_ne_nil _ _) rfl⟩
  decide

/-- The choice is not always the only one: a query in a FROM clause can have two columns of one
name, and two relations can have one name. -/
theorem not_answered_from_only :
    (¬ ∀ (s : Scope) fields name l column, s.AnsweredAt fields name l column →
      (l.namesakes (qualifiers fields) name).length = 1) ∧
    ¬ ∀ (s : Scope) qs columns, qs ≠ [] → s.expandStar qs = .ok columns →
      (s.relations.filter (·.matchesQualifiers qs)).length = 1 := by
  constructor
  · -- one relation with two columns of one name
    intro h
    let column : ResultColumn := ⟨"a", .named "integer", true, none, none⟩
    let l := ScopeLevel.ofRelations [.derived "y" [column, column] false]
    have hlength := h [l] [.name "a"] "a" l column
      ⟨rfl, ⟨[], [], rfl, List.forall_mem_nil _⟩, by decide, rfl⟩
    exact absurd hlength (by decide)
  · -- two relations of one name
    intro h
    have hlength := h [.ofRelations [oneColumn "x" "a" false, oneColumn "x" "b" false]] ["x"] _
      (List.cons_ne_nil _ _) rfl
    exact absurd hlength (by decide)

end Scope

end TypedSql
