import TypedSql.Proofs.Analysis.Outcomes
import TypedSql.Proofs.Analysis.ParameterList

/-!
# Inlining

A query of a WITH clause that is read from in the FROM clause only can as well stand there itself,
in the place of every reference to it. The query is then analysed later, in another scope and once
for every reference; the analysis of the whole does not show it.

- **Queries**: a query with a further one in its WITH clause, and with that one inlined
- **Scopes**: what the further relation is seen by
- **Copies**: places that are bound once, and once for every reference
- **Items**: the FROM clauses of both queries
- **Results**: both analyses
-/

namespace TypedSql

open Canonical

/-! ## Queries -/

namespace Canonical

/-- Whether an item of a FROM clause may be a reference to a query of a WITH clause. -/
def Node.refersTo (name : String) : Node → Bool
  | .table t => t.mayName name
  | _ => false

/-- An item of a FROM clause with a query in the place of a reference to it. It keeps its name. -/
def Node.inlined (name : String) (q : Select) : Node → Node
  | .table t =>
    if t.mayName name then .derived (.select q) (some t.visibleName) t.nullable else .table t
  | n => n

/-- A query with a further one at the end of its WITH clause. -/
def Select.withQuery (s : Select) (name : String) (q : Select) : Select :=
  { s with ctes := s.ctes ++ [⟨name, .select q⟩] }

/-- A query with another one in the place of the references to it in the FROM clause. -/
def Select.inlined (s : Select) (name : String) (q : Select) : Select :=
  { s with source := s.source.map (Node.inlined name q) }

/-- Outside the items that refer to it, a query does not leave a name open. -/
def Select.SparesElsewhere (s : Select) (name : String) : Prop :=
  ∀ t ∈ Select.bodyTables { s with source := s.source.filter fun n => !n.refersTo name },
    t.mayName name = false

end Canonical

variable {c : Catalog} {s : Scope} {name : String} {q : Select}

/-! ## Scopes -/

theorem analyzeCtes_append (c : Catalog) (s : Scope) (defined : List Relation)
    (qs qs' : List NamedQuery) :
    analyzeCtes c s defined (qs ++ qs') =
      analyzeCtes c s defined qs >>= fun defined => analyzeCtes c s defined qs' := by
  induction qs generalizing defined with
  | nil => rfl
  | cons x qs ih =>
    obtain ⟨name, n⟩ := x
    cases n with
    | select query => simp only [List.cons_append, analyzeCtes, ih, bind_assoc]
    | _ => rfl

/-- A further relation of a WITH clause is seen by the references to it only. -/
theorem AgreeOn.further (c : Catalog) (s : Scope) (defined : List Relation) (r : Relation) :
    AgreeOn (fun t => t.mayName r.name = false) c (⟨[], defined, []⟩ :: s)
      c (⟨[], defined ++ [r], []⟩ :: s) where
  names qualifiers name := by cases qualifiers <;> rfl
  tables t ht := by
    rw [analyzeTable_cons, analyzeTable_cons, List.reverse_append, List.reverse_singleton,
      List.singleton_append, List.find?_cons_of_neg (by simp [ht])]

/-- It hides the others with its name from them. -/
theorem analyzeTable_further (defined : List Relation) (columns : List ResultColumn)
    {t : TableRef} (ht : t.mayName name = true) :
    analyzeSource c (⟨[], defined ++ [.derived name columns false], []⟩ :: s) (.table t) =
      pure (some (.derived t.visibleName columns t.nullable)) := by
  have hfind : (defined ++ [Relation.derived name columns false]).reverse.find?
      (fun r => t.mayName r.name) = some (.derived name columns false) := by
    rw [List.reverse_append, List.reverse_singleton, List.singleton_append]
    exact List.find?_cons_of_pos ht
  rw [analyzeTable_cons, hfind]
  rfl

/-! ## Copies -/

/-- The places of a number. -/
def placesOf (k : Nat) (places : List Parameter) : List Parameter :=
  places.filter (·.number = k)

@[simp] theorem placesOf_append (k : Nat) (places places' : List Parameter) :
    placesOf k (places ++ places') = placesOf k places ++ placesOf k places' :=
  List.filter_append ..

theorem placesOf_eq_nil {k : Nat} {places : List Parameter} :
    placesOf k places = [] ↔ ∀ p ∈ places, p.number ≠ k := by
  simp [placesOf, List.filter_eq_nil_iff]

/-- Only the places of a number decide about it. -/
theorem deciding?_congr {k : Nat} {places places' : List Parameter}
    (h : placesOf k places = placesOf k places') : deciding? places k = deciding? places' k := by
  unfold placesOf at h
  simp only [deciding?, h]

/-- The first element with a property is the same in several copies of a list. -/
theorem find?_flatten_replicate {α : Type} (p : α → Bool) (l : List α) (n : Nat) :
    (List.replicate (n + 1) l).flatten.find? p = l.find? p := by
  induction n with
  | zero => simp
  | succ n ih =>
    rw [List.replicate_succ, List.flatten_cons, List.find?_append, ih, Option.or_self]

/-- The same places once more decide nothing. -/
theorem deciding?_replicate {k n : Nat} {own places : List Parameter}
    (h : placesOf k places = (List.replicate (n + 1) (placesOf k own)).flatten) :
    deciding? places k = deciding? own k := by
  unfold placesOf at h
  simp only [deciding?, h, find?_flatten_replicate]
  cases own.filter (·.number = k) <;> simp [List.replicate_succ]

/-- Places with copies of others among them: a number that does not occur in these keeps its places,
and one that occurs nowhere else has theirs, as often as there are copies. -/
structure Copied (own : List Parameter) (n : Nat) (places places' : List Parameter) : Prop where
  other : ∀ k, placesOf k own = [] → placesOf k places' = placesOf k places
  copies : ∀ k, placesOf k places = [] →
    placesOf k places' = (List.replicate n (placesOf k own)).flatten

namespace Copied

variable {own places places' later later' : List Parameter} {n m : Nat}

/-- Places without a copy among them. -/
theorem none (own places : List Parameter) : Copied own 0 places places where
  other _ _ := rfl
  copies _ h := h

/-- A copy. -/
theorem one (own : List Parameter) : Copied own 1 [] own where
  other _ h := h
  copies k _ := by simp

theorem append (h : Copied own n places places') (hlater : Copied own m later later') :
    Copied own (n + m) (places ++ later) (places' ++ later') where
  other k hk := by
    rw [placesOf_append, placesOf_append, h.other k hk, hlater.other k hk]
  copies k hk := by
    rw [placesOf_append, List.append_eq_nil_iff] at hk
    rw [placesOf_append, h.copies k hk.1, hlater.copies k hk.2, List.replicate_add,
      List.flatten_append]

/-- Whether a number has its places once or several times, the same one decides about it, as long as
no number has places of both kinds. -/
theorem deciding?_eq {before after : List Parameter}
    (h : Copied own n (before ++ after) places') (hpos : 0 < n)
    (hapart : ∀ p ∈ own, ∀ p' ∈ before ++ after, p'.number ≠ p.number) (k : Nat) :
    deciding? (before ++ (own ++ after)) k = deciding? places' k := by
  by_cases hk : placesOf k own = []
  · apply deciding?_congr
    simp only [h.other k hk, placesOf_append, hk, List.nil_append]
  · -- the number has its places in what is copied
    have hnone : placesOf k (before ++ after) = [] := by
      rw [placesOf_eq_nil] at hk ⊢
      push Not at hk
      obtain ⟨p, hp, rfl⟩ := hk
      exact fun p' hp' => hapart p hp p' hp'
    obtain ⟨n, rfl⟩ := Nat.exists_eq_add_one.mpr hpos
    rw [deciding?_replicate (h.copies k hnone)]
    rw [placesOf_append, List.append_eq_nil_iff] at hnone
    apply deciding?_congr
    simp only [placesOf_append, hnone.1, hnone.2, List.nil_append, List.append_nil]

end Copied

/-! ## Items -/

section Items

variable {defined : List Relation} {items : List Node}

/-- An item that does not refer to the query stays as it is. -/
theorem inlined_of_not_refersTo {n : Node} (h : n.refersTo name = false) :
    n.inlined name q = n := by
  cases n with
  | table t => exact if_neg (by simpa [Node.refersTo] using h)
  | _ => rfl

/-- An item that refers to the query becomes the query. -/
theorem exists_of_refersTo {n : Node} (h : n.refersTo name = true) :
    ∃ t : TableRef, n = .table t ∧ t.mayName name = true ∧
      n.inlined name q = .derived (.select q) (some t.visibleName) t.nullable := by
  cases n with
  | table t => exact ⟨t, rfl, h, if_pos h⟩
  | _ => cases h

theorem numbersOf_cons (n : Node) (ns : List Node) :
    numbersOf (n :: ns) = numbersOf n ++ numbersOf ns := numbersIn_append ..

/-- A query that cannot be analysed can no more be analysed in the place of a reference. -/
theorem analyzeSources_inlined_error {e : AnalysisError}
    (hq : ComesTo (analyzeSelect c s [] q) (.error e))
    (href : ∃ n ∈ items, n.refersTo name = true) :
    ∃ e', ComesTo (analyzeSources c s (items.map (Node.inlined name q))) (.error e') := by
  induction items with
  | nil =>
    obtain ⟨n, hn, -⟩ := href
    cases hn
  | cons n items ih =>
    by_cases hn : n.refersTo name = true
    · obtain ⟨t, -, -, ht⟩ := exists_of_refersTo (q := q) hn
      rw [List.map_cons, ht]
      exact ⟨e, analyzeSources_cons_error hq.bind_error⟩
    · -- the first item stays, so a later one is the reference
      have hrest : ∃ n ∈ items, n.refersTo name = true := by
        obtain ⟨m, hm, href⟩ := href
        rcases List.mem_cons.mp hm with rfl | hm
        · exact absurd href hn
        · exact ⟨m, hm, href⟩
      obtain ⟨e', hrest⟩ := ih hrest
      obtain ⟨r, hitem, -⟩ := analyzeSource_settles c s (n.inlined name q)
      cases r with
      | error e => exact ⟨e, analyzeSources_cons_error hitem⟩
      | ok x => exact ⟨e', analyzeSources_cons hitem hrest⟩

/-- Two steps end in the same error, or they have the same answer; of the places that the second one
binds, some are copies of others. Those of the first one have their numbers from a list. -/
def EqualButCopies {α : Type} (own : List Parameter) (n : Nat) (numbers : List Nat)
    (m m' : AnalysisM α) : Prop :=
  (∃ e, ComesTo m (.error e) ∧ ComesTo m' (.error e)) ∨
    ∃ a places places', ComesTo m (.ok (a, places)) ∧ ComesTo m' (.ok (a, places')) ∧
      Copied own n places places' ∧ ∀ p ∈ places, p.number ∈ numbers

variable {own : List Parameter} {columns : List ResultColumn}

theorem EqualButCopies.cons {s' : Scope} {item item' : Node} {items' : List Node} {n m : Nat}
    (hitem : EqualButCopies own n (numbersOf item) (analyzeSource c s item)
      (analyzeSource c s' item'))
    (hitems : EqualButCopies own m (numbersOf items) (analyzeSources c s items)
      (analyzeSources c s' items')) :
    EqualButCopies own (n + m) (numbersOf (item :: items)) (analyzeSources c s (item :: items))
      (analyzeSources c s' (item' :: items')) := by
  -- the first item that is rejected decides, and it stands at the same place on both sides
  rcases hitem with ⟨e, hleft, hright⟩ | ⟨found, places, places', hleft, hright, hcopied, hnumbers⟩
  · exact .inl ⟨e, analyzeSources_cons_error hleft, analyzeSources_cons_error hright⟩
  rcases hitems with
    ⟨e, hlefts, hrights⟩ | ⟨relations, later, later', hlefts, hrights, hcopies, hothers⟩
  · exact .inl ⟨e, analyzeSources_cons hleft hlefts, analyzeSources_cons hright hrights⟩
  -- the copies of the items stand behind one another, each read where its reference stands
  refine .inr ⟨_, _, _, analyzeSources_cons hleft hlefts, analyzeSources_cons hright hrights,
    hcopied.append hcopies, ?_⟩
  rw [numbersOf_cons]
  exact fun p hp => List.mem_append.mpr ((List.mem_append.mp hp).imp (hnumbers p) (hothers p))

/-- In the place of a reference stands a copy of the query, and before there was nothing more than a
relation with its columns. -/
theorem analyzeSource_reference {n : Node}
    (hq : ComesTo (analyzeSelect c (⟨[], defined, []⟩ :: s) [] q) (.ok (columns, own)))
    (hn : n.refersTo name = true) :
    EqualButCopies own 1 (numbersOf n)
      (analyzeSource c (⟨[], defined ++ [.derived name columns false], []⟩ :: s) n)
      (analyzeSource c (⟨[], defined, []⟩ :: s) (n.inlined name q)) := by
  obtain ⟨t, rfl, ht, hinlined⟩ := exists_of_refersTo (q := q) hn
  refine .inr ⟨some (.derived t.visibleName columns t.nullable), [], own, ?_, ?_, .one own,
    List.forall_mem_nil _⟩
  · rw [analyzeTable_further defined columns ht]
    exact .pure _
  · rw [hinlined]
    exact hq.map _

/-- An item without the name is the same in both scopes. -/
theorem analyzeSource_other {n : Node} (own : List Parameter) (hn : n.refersTo name = false)
    (hopen : ∀ t ∈ n.openTables, t.mayName name = false) :
    EqualButCopies own 0 (numbersOf n)
      (analyzeSource c (⟨[], defined ++ [.derived name columns false], []⟩ :: s) n)
      (analyzeSource c (⟨[], defined, []⟩ :: s) (n.inlined name q)) := by
  have hagree := analyzeSource_congr
    (AgreeOn.further c s defined (.derived name columns false)) n hopen
  rw [inlined_of_not_refersTo hn, hagree]
  obtain ⟨r, hitem, hnumbers⟩ := analyzeSource_settles c (⟨[], defined, []⟩ :: s) n
  cases r with
  | error e => exact .inl ⟨e, hitem, hitem⟩
  | ok x => exact .inr ⟨x.1, x.2, x.2, hitem, hitem, .none own x.2, hnumbers x rfl⟩

/-- With a query that can be analysed in its WITH clause, and with that one inlined, a FROM clause
has the same relations or ends in the same error. -/
theorem analyzeSources_inlined
    (hq : ComesTo (analyzeSelect c (⟨[], defined, []⟩ :: s) [] q) (.ok (columns, own)))
    (hitems : ∀ n ∈ items, n.refersTo name = false → ∀ t ∈ n.openTables, t.mayName name = false) :
    EqualButCopies own (items.countP (Node.refersTo name)) (numbersOf items)
      (analyzeSources c (⟨[], defined ++ [.derived name columns false], []⟩ :: s) items)
      (analyzeSources c (⟨[], defined, []⟩ :: s) (items.map (Node.inlined name q))) := by
  induction items with
  | nil => exact .inr ⟨[], [], [], .pure _, .pure _, .none _ _, List.forall_mem_nil _⟩
  | cons n items ih =>
    obtain ⟨hn, hrest⟩ := List.forall_mem_cons.mp hitems
    rw [List.map_cons, List.countP_cons, Nat.add_comm]
    refine .cons ?_ (ih hrest)
    -- a reference stands for the query itself, and every other item cannot tell the scopes apart
    cases href : n.refersTo name with
    | true => exact analyzeSource_reference hq href
    | false => exact analyzeSource_other own href (hn href)

end Items

/-! ## Results -/

theorem mem_openAll {ns : List Node} {t : TableRef} :
    t ∈ openAll ns ↔ ∃ n ∈ ns, t ∈ n.openTables := by
  induction ns with
  | nil => simp
  | cons n ns ih => simp [ih]

namespace Canonical.Select.SparesElsewhere

variable {p : Select}

theorem clauses (h : p.SparesElsewhere name) :
    ∀ t ∈ Select.bodyTables { p with source := [] }, t.mayName name = false := by
  intro t ht
  refine h t ?_
  simp only [Select.bodyTables, Select.openTables, openNamed, openAll, List.append_nil,
    List.mem_append] at ht ⊢
  tauto

theorem items (h : p.SparesElsewhere name) :
    ∀ n ∈ p.source, n.refersTo name = false → ∀ t ∈ n.openTables, t.mayName name = false := by
  intro n hn href t ht
  refine h t ?_
  have hmem : t ∈ openAll (p.source.filter fun n => !n.refersTo name) :=
    mem_openAll.mpr ⟨n, List.mem_filter.mpr ⟨hn, by simp [href]⟩, ht⟩
  simp only [Select.bodyTables, Select.openTables, openNamed, List.mem_append]
  tauto

end Canonical.Select.SparesElsewhere

section Queries

variable {p : Select}

/-- The numbers of a plain query stand in its WITH clause, in its FROM clause and behind it. -/
theorem numbersOf_perm (p : Select) :
    (numbersOf p).Perm (numbersOf p.ctes ++ numbersOf p.source ++
      numbersOf { p with ctes := [], source := [] }) := by
  rw [List.perm_iff_count]
  intro k
  have hnil : numbersIn [] = [] := rfl
  cases p
  simp only [numbersOf, Numbered.walk, Select.walk, numbersIn_append, walkAll, walkNamed, hnil,
    List.nil_append, List.count_append, List.count_nil]
  omega

theorem mem_numbersOf {k : Nat} : k ∈ numbersOf p ↔
    k ∈ numbersOf p.ctes ∨ k ∈ numbersOf p.source ∨
      k ∈ numbersOf { p with ctes := [], source := [] } := by
  rw [(numbersOf_perm p).mem_iff, List.mem_append, List.mem_append, or_assoc]

/-- The further query is analysed before the FROM clause, and its relation stays in scope. -/
theorem analyzeSelect_withQuery (hoperation : p.operation = .none) (hrows : p.rows = [])
    (hints : List Hint) :
    analyzeSelect c s hints (p.withQuery name q) =
      analyzeCtes c s [] p.ctes >>= fun defined =>
        analyzeSelect c (⟨[], defined, []⟩ :: s) [] q >>= fun columns =>
          analyzeSources c (⟨[], defined ++ [.derived name columns false], []⟩ :: s) p.source >>=
            fun relations => analyzeClauses c (.ofRelations relations ::
              ⟨[], defined ++ [.derived name columns false], []⟩ :: s) hints p := by
  have hbody (s : Scope) : analyzeBody c s hints (p.withQuery name q) =
      analyzeSources c s p.source >>= fun relations =>
        analyzeClauses c (.ofRelations relations :: s) hints p :=
    analyzeBody_of_plain c s hints hoperation hrows
  have hctes : (p.withQuery name q).ctes = p.ctes ++ [⟨name, .select q⟩] := rfl
  simp only [analyzeSelect_eq, hctes, analyzeCtes_append, hbody, analyzeCtes, bind_assoc, pure_bind]

theorem analyzeSelect_inlined (hoperation : p.operation = .none) (hrows : p.rows = [])
    (hints : List Hint) :
    analyzeSelect c s hints (p.inlined name q) =
      analyzeCtes c s [] p.ctes >>= fun defined =>
        analyzeSources c (⟨[], defined, []⟩ :: s) (p.source.map (Node.inlined name q)) >>=
          fun relations => analyzeClauses c (.ofRelations relations ::
            ⟨[], defined, []⟩ :: s) hints p := by
  rw [analyzeSelect_eq]
  exact congrArg _ (funext fun defined => analyzeBody_of_plain c _ hints hoperation hrows)

/-- A plain query with a further one in its WITH clause, and with that one inlined: the analyses of
both fail, or they have the same columns, and the places of the further query once and once for
every reference. -/
theorem exists_results (hoperation : p.operation = .none) (hrows : p.rows = [])
    (href : ∃ n ∈ p.source, n.refersTo name = true) (hspares : p.SparesElsewhere name)
    (hints : List Hint) :
    (∃ e e', ComesTo (analyzeSelect c s hints (p.withQuery name q)) (.error e) ∧
        ComesTo (analyzeSelect c s hints (p.inlined name q)) (.error e')) ∨
      ∃ columns before own after places' n,
        ComesTo (analyzeSelect c s hints (p.withQuery name q))
            (.ok (columns, before ++ (own ++ after))) ∧
          ComesTo (analyzeSelect c s hints (p.inlined name q)) (.ok (columns, places')) ∧
          0 < n ∧ Copied own n (before ++ after) places' ∧
          (∀ p ∈ own, p.number ∈ numbersOf q) ∧
          ∀ p' ∈ before ++ after, p'.number ∈ numbersOf p := by
  rw [analyzeSelect_withQuery hoperation hrows, analyzeSelect_inlined hoperation hrows]
  -- both queries have the rest of the WITH clause
  obtain ⟨r, hdefined, hbefore⟩ := analyzeCtes_settles c s [] p.ctes
  obtain e | ⟨defined, before⟩ := r
  · exact .inl ⟨e, e, hdefined.bind_error, hdefined.bind_error⟩
  obtain ⟨r, hq, hown⟩ := analyzeSelect_settles c (⟨[], defined, []⟩ :: s) [] q
  obtain e | ⟨columns, own⟩ := r
  · obtain ⟨e', hsources⟩ := analyzeSources_inlined_error hq href
    exact .inl ⟨e, e', hdefined.bind_fails hq.bind_error, hdefined.bind_fails hsources.bind_error⟩
  rcases analyzeSources_inlined hq hspares.items with
    ⟨e, hleft, hright⟩ | ⟨relations, places, places', hleft, hright, hcopied, hplaces⟩
  · exact .inl ⟨e, e, hdefined.bind_fails (hq.bind_fails hleft.bind_error),
      hdefined.bind_fails hright.bind_error⟩
  -- the further relation is not seen behind the FROM clause
  have hagree := analyzeClauses_congr
    (AgreeOn.further c s defined (.derived name columns false)) hints p (.ofRelations relations)
    hspares.clauses
  obtain ⟨r, hclauses, hlast⟩ :=
    analyzeClauses_settles c (.ofRelations relations :: ⟨[], defined, []⟩ :: s) hints p
  have hclauses' := hclauses
  rw [← hagree] at hclauses'
  obtain e | ⟨result, last⟩ := r
  · exact .inl ⟨e, e, hdefined.bind_fails (hq.bind_fails (hleft.bind_fails hclauses')),
      hdefined.bind_fails (hright.bind_fails hclauses)⟩
  · refine .inr ⟨result, before, own, places ++ last, before ++ (places' ++ last), _,
      hdefined.bind_ok (hq.bind_ok (hleft.bind_ok hclauses')),
      hdefined.bind_ok (hright.bind_ok hclauses),
      List.countP_pos_iff.mpr href, ?_, hown _ rfl, ?_⟩
    · have h := (Copied.none own before).append (hcopied.append (.none own last))
      rwa [Nat.zero_add, Nat.add_zero] at h
    · simp only [List.forall_mem_append]
      exact ⟨fun p' hp => mem_numbersOf.mpr (.inl (hbefore _ rfl p' hp)),
        fun p' hp => mem_numbersOf.mpr (.inr (.inl (hplaces p' hp))),
        fun p' hp => mem_numbersOf.mpr (.inr (.inr (hlast _ rfl p' hp)))⟩

theorem mem_numbersOf_withQuery {k : Nat} :
    k ∈ numbersOf (p.withQuery name q) ↔ k ∈ numbersOf p ∨ k ∈ numbersOf q := by
  -- the query added last is read after those before it
  have hctes (qs : List NamedQuery) : k ∈ numbersOf (qs ++ [⟨name, .select q⟩]) ↔
      k ∈ numbersOf qs ∨ k ∈ numbersOf q := by
    induction qs with
    | nil => simp [numbersOf, Numbered.walk, Node.paramRef?, numbersIn]
    | cons x qs ih =>
      obtain ⟨name, query⟩ := x
      simp only [numbersOf, Numbered.walk, List.cons_append, walkNamed, numbersIn_append,
        List.mem_append] at ih ⊢
      tauto
  have hparts : k ∈ numbersOf (p.withQuery name q) ↔
      k ∈ numbersOf (p.ctes ++ [⟨name, .select q⟩]) ∨ k ∈ numbersOf p.source ∨
        k ∈ numbersOf { p with ctes := [], source := [] } := mem_numbersOf
  rw [hparts, hctes, mem_numbersOf (p := p), or_right_comm]

theorem mem_numbersOf_inlined (href : ∃ n ∈ p.source, n.refersTo name = true) {k : Nat} :
    k ∈ numbersOf (p.inlined name q) ↔ k ∈ numbersOf p ∨ k ∈ numbersOf q := by
  have hsource (items : List Node) : k ∈ numbersOf (items.map (Node.inlined name q)) ↔
      k ∈ numbersOf items ∨ (∃ n ∈ items, n.refersTo name = true) ∧ k ∈ numbersOf q := by
    -- only the items that refer to the query are replaced, and each of them brings its numbers
    induction items with
    | nil => simp
    | cons n items ih =>
      rw [List.map_cons, numbersOf_cons, numbersOf_cons, List.mem_append, List.mem_append, ih]
      by_cases hn : n.refersTo name = true
      · obtain ⟨t, rfl, -, ht⟩ := exists_of_refersTo (q := q) hn
        have hitem : k ∈ numbersOf (Node.derived (.select q) (some t.visibleName) t.nullable) ↔
            k ∈ numbersOf q := by
          simp [numbersOf, Numbered.walk, Node.paramRef?]
        have htable : k ∉ numbersOf (Node.table t) := by
          simp [numbersOf, Numbered.walk, Node.paramRef?, numbersIn]
        rw [ht, hitem]
        simp [hn]
        tauto
      · rw [inlined_of_not_refersTo (Bool.eq_false_iff.mpr hn)]
        simp [hn]
        tauto
  have hparts : k ∈ numbersOf (p.inlined name q) ↔
      k ∈ numbersOf p.ctes ∨ k ∈ numbersOf (p.source.map (Node.inlined name q)) ∨
        k ∈ numbersOf { p with ctes := [], source := [] } := mem_numbersOf
  rw [hparts, hsource, mem_numbersOf (p := p), and_iff_right href, or_right_comm, ← or_assoc]

/-- The greatest number depends on which numbers there are only. -/
theorem greatestParam_congr {n n' : Node} (h : ∀ k, k ∈ n.numbers ↔ k ∈ n'.numbers) :
    greatestParam n = greatestParam n' := by
  rw [greatestParam_eq_max?, greatestParam_eq_max?]
  refine congrArg (Option.getD · 0) ?_
  cases hmax : n'.numbers.max? with
  | none =>
    rw [List.max?_eq_none_iff] at hmax ⊢
    rw [hmax] at h
    exact List.eq_nil_iff_forall_not_mem.mpr fun k hk => List.not_mem_nil ((h k).mp hk)
  | some m =>
    rw [List.max?_eq_some_iff] at hmax ⊢
    exact ⟨(h m).mpr hmax.1, fun k hk => hmax.2 k ((h k).mp hk)⟩

/-- **A query of a WITH clause and the same query in the FROM clause.** Let a plain query read from
a further query at the end of its WITH clause, in items of its FROM clause and nowhere else. With
the further query in the place of every such item, under the name of the item, it can be analysed if
and only if it can be analysed as it is. Then the result columns are the same, and so are the
parameters if no number stands both in the further query and outside it. -/
theorem analyze_inlined (c : Catalog) (hoperation : p.operation = .none) (hrows : p.rows = [])
    (href : ∃ n ∈ p.source, n.refersTo name = true) (hspares : p.SparesElsewhere name) :
    ((∃ a, analyze c (.select (p.withQuery name q)) = .ok a) ↔
      ∃ a', analyze c (.select (p.inlined name q)) = .ok a') ∧
    ∀ a a', analyze c (.select (p.withQuery name q)) = .ok a →
      analyze c (.select (p.inlined name q)) = .ok a' →
        a.columns = a'.columns ∧
          ((∀ k ∈ numbersOf q, k ∉ numbersOf p) → a.params = a'.params) := by
  rcases exists_results (c := c) (s := []) (q := q) hoperation hrows href hspares [] with
    ⟨e, e', hwith, hinlined⟩ | ⟨columns, before, own, after, places', n, hwith, hinlined, hpos,
      hcopied, hown, hrest⟩
  · rw [hwith.analyze_eq, hinlined.analyze_eq]
    refine ⟨iff_of_false ?_ ?_, fun a a' ha => nomatch ha⟩ <;> rintro ⟨_, ⟨⟩⟩
  · rw [hwith.analyze_eq, hinlined.analyze_eq]
    refine ⟨iff_of_true ⟨_, rfl⟩ ⟨_, rfl⟩, ?_⟩
    intro a a' ha ha'
    obtain rfl := Except.ok.inj ha
    obtain rfl := Except.ok.inj ha'
    refine ⟨rfl, fun hapart => ?_⟩
    have hgreatest : greatestParam (.select (p.withQuery name q)) =
        greatestParam (.select (p.inlined name q)) :=
      greatestParam_congr fun k => by
        rw [Node.numbers_select, Node.numbers_select, mem_numbersOf_withQuery,
          mem_numbersOf_inlined href]
    -- the same place decides about every number
    have hfind (k : Nat) : (Bindings.recordAll [] (before ++ (own ++ after))).find? k =
        (Bindings.recordAll [] places').find? k := by
      rw [Bindings.find?_recordAll, Bindings.find?_recordAll]
      refine hcopied.deciding?_eq hpos (fun p hp p' hp' heq => ?_) k
      exact hapart _ (hown p hp) (heq ▸ hrest p' hp')
    simp only [Bindings.parameters, hgreatest, hfind]

end Queries

section Example

/-- The query `SELECT a, $1::int AS x FROM t`. -/
def castBesideA : Select :=
  { Select.empty with
    targets := [.target none (some (.column [.name "a"])) 0,
      .target (some "x") (some (.cast (.param 1 10) (.named "int"))) 10]
    source := [.table ⟨none, "t", none, false⟩] }

/-- The query `SELECT * FROM w AS v LEFT JOIN w ON v.a = w.a WHERE v.x = $2`. -/
def readsTwice : Select :=
  { Select.empty with
    targets := [.target none (some (.column [.star])) 0]
    source := [.table ⟨none, "w", some "v", false⟩, .table ⟨none, "w", none, true⟩]
    joinConditions := [.operator "=" (some (.column [.name "v", .name "a"]))
      (some (.column [.name "w", .name "a"]))]
    condition := some (.operator "=" (some (.column [.name "v", .name "x"])) (some (.param 2 60))) }

theorem analyze_inlined_readsTwice :
    ∃ a a', analyze nullableTable (.select (readsTwice.withQuery "w" castBesideA)) = .ok a ∧
      analyze nullableTable (.select (readsTwice.inlined "w" castBesideA)) = .ok a' ∧
      a.columns = a'.columns ∧ a.params = a'.params ∧
      a'.params.map (·.notNull) = [true, true] ∧
      a'.columns.map (·.notNull) = [false, true, false, false] := by
  have hspares : readsTwice.SparesElsewhere "w" := by
    intro t ht
    cases ht
  obtain ⟨hiff, hsame⟩ := analyze_inlined (p := readsTwice) (q := castBesideA) nullableTable rfl rfl
    ⟨_, .head _, rfl⟩ hspares
  obtain ⟨a', ha', hparams, hcolumns⟩ : ∃ a',
      analyze nullableTable (.select (readsTwice.inlined "w" castBesideA)) = .ok a' ∧
      a'.params.map (·.notNull) = [true, true] ∧
      a'.columns.map (·.notNull) = [false, true, false, false] := ⟨_, rfl, by decide +kernel⟩
  obtain ⟨a, ha⟩ := hiff.mpr ⟨a', ha'⟩
  obtain ⟨hsameColumns, hsameParams⟩ := hsame a a' ha ha'
  exact ⟨a, a', ha, ha', hsameColumns, hsameParams (by decide), hparams, hcolumns⟩

end Example

end TypedSql
