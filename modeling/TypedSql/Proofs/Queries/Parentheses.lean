import TypedSql.Proofs.Queries.Agreement
import TypedSql.Proofs.Analysis.Origins
import TypedSql.Proofs.Analysis.Run
import TypedSql.Proofs.Queries.Alike

/-!
# Queries in parentheses

A query whose body is a query in parentheses converts to the body, with its own clauses in place of
those of the body. So it keeps the tree of the body exactly if no clause is written on both levels.

- **Clauses**: which clauses a query writes and which ones its tree has
- **Trees**: what is left of the body
- **Columns**: a WITH clause around a query that does not use its names
- **Results**: when the body is kept, and when the columns are
-/

namespace TypedSql.Canonical

/-! ## Clauses -/

/-- Whether a clause is written on the level of a query itself. A FETCH is a limit. -/
def writes (q : Sql.Query) : Clause → Bool
  | .ctes => !q.ctes.isEmpty
  | .orderBy => !q.orderBy.isEmpty
  | .limit => q.fetchQuantity.isSome || q.limit.isSome
  | .offset => q.offset.isSome

mutual

/-- Whether a clause is written on the level of a query, or on one in parentheses that is its
body. -/
def carries (k : Clause) : Sql.Query → Bool
  | ⟨recursive, ctes, body, orderBy, limit, offset, rows, fetch, quantity, tail⟩ =>
    writes ⟨recursive, ctes, body, orderBy, limit, offset, rows, fetch, quantity, tail⟩ k ||
      bodyCarries k body

/-- Whether a clause is written in a body. -/
def bodyCarries (k : Clause) : Sql.SetExpr → Bool
  | .query q => carries k q
  | _ => false

end

/-- Whether a tree has a clause. -/
def Select.has (s : Select) : Clause → Bool
  | .ctes => !s.ctes.isEmpty
  | .orderBy => !s.orderBy.isEmpty
  | .limit => s.limit.isSome
  | .offset => s.offset.isSome

namespace Conversion

theorem has_eq_false_of_core {s : Select} (h : core s = s) (k : Clause) : s.has k = false := by
  rw [← h]
  cases k <;> rfl

variable {q : Sql.Query} {parts : QueryParts}

/-- A query has the clauses that it writes, and those of its body. -/
theorem has_select (h : parts.Shaped q) (k : Clause) :
    parts.select.has k = (writes q k || parts.body.has k) := by
  -- each clause of the body stays unless the query writes one around it
  cases k with
  | ctes =>
    simp only [QueryParts.select, Select.has, writes, ← h.ctes]
    cases hctes : parts.ctes.isEmpty <;> simp [hctes]
  | orderBy =>
    simp only [QueryParts.select, Select.has, writes, ← h.keys]
    cases hkeys : parts.keys.isEmpty <;> simp [hkeys]
  | limit =>
    simp only [QueryParts.select, Select.has, writes, ← h.quantity, ← h.limit]
    cases parts.quantity <;> cases parts.limit <;> rfl
  | offset =>
    simp only [QueryParts.select, Select.has, writes, ← h.offset]
    cases parts.offset <;> rfl

theorem ensures_has_of (q : Sql.Query)
    (hbody : Ensures (setExpr q.body) fun s => ∀ k, s.has k = bodyCarries k q.body) :
    Ensures (query q) fun s => ∀ k, s.has k = carries k q := by
  have hparts : Ensures (queryParts q) fun parts => ∀ k, parts.body.has k = bodyCarries k q.body :=
    .after fun _ => .bind hbody fun _ hbody => .after fun _ => .after fun _ => .after fun _ =>
      .after fun _ => .pure hbody
  -- the shape of the parts tells the clauses of the query, and the body has its own
  rw [query_eq]
  refine .bind (.and (ensures_queryParts q) hparts) fun parts ⟨hshaped, hbody⟩ => .pure fun k => ?_
  rw [has_select hshaped, hbody]
  cases q
  rfl

mutual

/-- The tree of a query has the clauses that are written in it. -/
theorem ensures_has (q : Sql.Query) : Ensures (query q) fun s => ∀ k, s.has k = carries k q := by
  match q with
  | ⟨_, _, body, _, _, _, _, _, _, _⟩ => exact ensures_has_of _ (ensures_bodyHas body)

theorem ensures_bodyHas (b : Sql.SetExpr) :
    Ensures (setExpr b) fun s => ∀ k, s.has k = bodyCarries k b := by
  match b with
  | .query q => exact ensures_has q
  | .select s => exact (ensures_select_core s).imp fun _ h => has_eq_false_of_core h
  | .operation op quantifier left right =>
    exact .after fun _ => .after fun _ => .pure (has_eq_false_of_core rfl)
  | .values explicit items => exact .after fun _ => .pure (has_eq_false_of_core rfl)
  | .unmapped kind text =>
    exact .after fun _ => .after fun _ => .pure (has_eq_false_of_core rfl)

end

/-! ## Trees -/

theorem walk_ne_nil (n : Node) : n.walk ≠ [] := by
  cases n <;> simp [Node.walk]

/-- A clause that is there has nodes. -/
theorem clauseWalk_eq_nil_iff (s : Select) (k : Clause) :
    clauseWalk s k = [] ↔ s.has k = false := by
  cases k with
  | ctes =>
    rcases hctes : s.ctes with _ | ⟨⟨name, n⟩, qs⟩ <;>
      simp [clauseWalk, Select.has, hctes, walkNamed, walk_ne_nil]
  | orderBy =>
    rcases hkeys : s.orderBy with _ | ⟨n, ns⟩ <;>
      simp [clauseWalk, Select.has, hkeys, walkAll, walk_ne_nil]
  | limit =>
    rcases hlimit : s.limit with _ | n <;>
      simp [clauseWalk, Select.has, hlimit, walkOption, walk_ne_nil]
  | offset =>
    rcases hoffset : s.offset with _ | n <;>
      simp [clauseWalk, Select.has, hoffset, walkOption, walk_ne_nil]

/-- The nodes of a clause of the query itself; a FETCH is its limit. -/
def QueryParts.own (parts : QueryParts) : Clause → List Node
  | .ctes => walkNamed parts.ctes
  | .orderBy => walkAll parts.keys
  | .limit => walkOption (parts.quantity.or parts.limit)
  | .offset => walkOption parts.offset

/-- The nodes of all clauses of the query itself. -/
def QueryParts.ownWalk (parts : QueryParts) : List Node :=
  parts.own .ctes ++ (parts.own .orderBy ++ (parts.own .limit ++ parts.own .offset))

/-- A clause of a query is its own one if it writes one, and else that of its body. -/
theorem clauseWalk_select (h : parts.Shaped q) (k : Clause) :
    clauseWalk parts.select k = if writes q k then parts.own k else clauseWalk parts.body k := by
  -- the clause around the body takes the place of its own, and is the only one read then
  cases k with
  | ctes =>
    simp only [QueryParts.select, clauseWalk, QueryParts.own, writes, ← h.ctes]
    cases parts.ctes.isEmpty <;> simp
  | orderBy =>
    simp only [QueryParts.select, clauseWalk, QueryParts.own, writes, ← h.keys]
    cases parts.keys.isEmpty <;> simp
  | limit =>
    simp only [QueryParts.select, clauseWalk, QueryParts.own, writes, ← h.quantity, ← h.limit]
    cases parts.quantity <;> cases parts.limit <;> rfl
  | offset =>
    simp only [QueryParts.select, clauseWalk, QueryParts.own, writes, ← h.offset]
    cases parts.offset <;> rfl

theorem own_eq_nil (h : parts.Shaped q) {k : Clause} (hk : writes q k = false) :
    parts.own k = [] := by
  cases k with
  | ctes =>
    have hempty : parts.ctes = [] := by simpa [writes, ← h.ctes] using hk
    rw [QueryParts.own, hempty, walkNamed]
  | orderBy =>
    have hempty : parts.keys = [] := by simpa [writes, ← h.keys] using hk
    rw [QueryParts.own, hempty, walkAll]
  | limit =>
    obtain ⟨hquantity, hlimit⟩ : parts.quantity = none ∧ parts.limit = none := by
      simpa [writes, ← h.quantity, ← h.limit] using hk
    rw [QueryParts.own, hquantity, hlimit]
    rfl
  | offset =>
    have hnone : parts.offset = none := by simpa [writes, ← h.offset] using hk
    rw [QueryParts.own, hnone]
    rfl

/-- A query keeps a clause of its body exactly if it does not write one in its place. -/
theorem clauseWalk_select_perm_iff (h : parts.Shaped q) (k : Clause) :
    (clauseWalk parts.select k).Perm (clauseWalk parts.body k ++ parts.own k) ↔
      (writes q k = true → parts.body.has k = false) := by
  rw [clauseWalk_select h, ← clauseWalk_eq_nil_iff]
  -- a replaced clause loses what is in it, so nothing may have been there
  cases hk : writes q k with
  | true =>
    rw [if_pos rfl]
    constructor
    · intro hperm _
      have hlength := hperm.length_eq
      rw [List.length_append] at hlength
      exact List.length_eq_zero_iff.mp (by omega)
    · intro hnil
      rw [hnil rfl, List.nil_append]
  | false =>
    rw [if_neg Bool.false_ne_true, own_eq_nil h hk, List.append_nil]
    exact iff_of_true .rfl fun h => nomatch h

/-- A query keeps the nodes of its body exactly if it keeps those of every clause. -/
theorem walk_select_perm_iff (h : parts.Shaped q) :
    parts.select.walk.Perm (parts.body.walk ++ parts.ownWalk) ↔
      ∀ k, writes q k = true → parts.body.has k = false := by
  have houter := walk_select_perm parts.select
  have hinner := walk_select_perm parts.body
  have hcore : core parts.select = core parts.body := rfl
  rw [hcore] at houter
  constructor
  · intro hperm k hk
    -- what is replaced is missing in the count of the nodes
    have hmissing (k : Clause) : (clauseWalk parts.select k).length +
        (if writes q k then (clauseWalk parts.body k).length else 0) =
          (clauseWalk parts.body k).length + (parts.own k).length := by
      rw [clauseWalk_select h]
      cases hk : writes q k with
      | true => simp [Nat.add_comm]
      | false => simp [own_eq_nil h hk]
    have hlength := hperm.length_eq
    have houterLength := houter.length_eq
    have hinnerLength := hinner.length_eq
    simp only [List.length_append, QueryParts.ownWalk] at hlength houterLength hinnerLength
    have hall := And.intro (hmissing .ctes) (And.intro (hmissing .orderBy)
      (And.intro (hmissing .limit) (hmissing .offset)))
    have hnone : (if writes q k then (clauseWalk parts.body k).length else 0) = 0 := by
      cases k <;> omega
    rw [if_pos hk, List.length_eq_zero_iff] at hnone
    exact (clauseWalk_eq_nil_iff parts.body k).mp hnone
  · intro hdisjoint
    -- every clause is kept, so every node is counted as often on both sides
    have hclause (k : Clause) := (clauseWalk_select_perm_iff h k).mpr (hdisjoint k)
    classical
    refine List.perm_iff_count.mpr fun n => ?_
    have houterCount := houter.count_eq n
    have hinnerCount := hinner.count_eq n
    have hclauseCount := And.intro ((hclause .ctes).count_eq n) (And.intro
      ((hclause .orderBy).count_eq n) (And.intro ((hclause .limit).count_eq n)
        ((hclause .offset).count_eq n)))
    simp only [List.count_append, QueryParts.ownWalk] at houterCount hinnerCount hclauseCount ⊢
    omega

end Conversion

/-! ## Columns -/

/-- The result columns of a query that is a statement. -/
def columnsOf (c : Catalog) (s : Select) : Except AnalysisError (List ResultColumn) :=
  (analyze c (.select s)).map Analysis.columns

theorem columnsOf_eq (c : Catalog) (s : Select) :
    columnsOf c s = ((analyzeSelect c [] [] s).run []).map Prod.fst := by
  have hstatement : (analyzeStatement c (.select s)).run [] =
      (analyzeSelect c [] [] s).run [] >>= fun x => pure ((x.1, none), x.2) := rfl
  rw [columnsOf, analyze, hstatement]
  cases (analyzeSelect c [] [] s).run [] <;> rfl

/-- What is analysed are the names and the forms of a tree, whatever is bound before. -/
theorem columns_bare (c : Catalog) (s : Scope) (hints : List Hint) (q : Select)
    (bs bs' : Bindings) :
    ((analyzeSelect c s hints (bare q)).run bs).map Prod.fst =
      ((analyzeSelect c s hints q).run bs').map Prod.fst := by
  have hlocations : analyzeSelect c s hints (bare q) =
      analyzeSelect c s hints (q.renumber toZero) :=
    analyzeSelect_agree (.refl (fun _ => True) c s) hints _ fun _ _ => trivial
  have hnumbers : q.renumber id = q := q.renumberable.renumber_id
  -- under every numbering and from whatever bindings the answer is the same
  have hanswer : ∃ x, ∀ f bs,
      ((analyzeSelect c s hints (q.renumber f)).run bs).map Prod.fst = x := by
    rcases analyzeSelect_traced s hints q with ⟨columns, places, -, -, hrun⟩ | ⟨e, hrun⟩
    · exact ⟨.ok columns, fun f bs => congrArg (Except.map Prod.fst) (hrun f bs)⟩
    · exact ⟨.error e, fun f bs => congrArg (Except.map Prod.fst) (hrun f bs)⟩
  obtain ⟨x, hx⟩ := hanswer
  have hown := hx id bs'
  rw [hnumbers] at hown
  rw [hlocations, hx, hown]

theorem SameBare.columnsOf_eq {s s' : Select} (h : SameBare s s') (c : Catalog) :
    columnsOf c s = columnsOf c s' := by
  have hbare : bare s = bare s' := h
  rw [Canonical.columnsOf_eq, Canonical.columnsOf_eq, ← columns_bare c [] [] s [] [],
    ← columns_bare c [] [] s' [] [], hbare]

/-- Whether a query reads from what an unqualified name means. -/
def Select.reads (s : Select) (name : String) : Prop :=
  ∃ t, Node.table t ∈ s.walk ∧ t.schema = none ∧ t.name = name

/-- A query in the scope of definitions that it does not read from. -/
theorem analyzeBody_of_not_reads (c : Catalog) (hints : List Hint) {q : Select}
    {defined : List Relation} (h : ∀ r ∈ defined, ¬ q.reads r.name) :
    analyzeBody c [⟨[], defined, []⟩] hints q = analyzeBody c [⟨[], [], []⟩] hints q := by
  have htables : ∀ t ∈ q.bodyTables, ∀ r ∈ defined, t.mayName r.name = false := by
    -- a table of the body can only be one defined around it if the body reads that name
    refine fun t ht r hr => Bool.eq_false_iff.mpr fun hname => h r hr ⟨t, ?_, ?_⟩
    · exact q.mem_walk_of_bodyTables ht
    · simpa [TableRef.mayName, @eq_comm _ r.name] using hname
  have hagree : AgreeOn (fun t => ∀ r ∈ defined, t.mayName r.name = false)
      c [⟨[], [], []⟩] c [⟨[], defined, []⟩] := by
    refine ⟨fun _ _ => rfl, fun t ht => ?_⟩
    have hnone : (defined.reverse.find? fun r => t.mayName r.name) = none :=
      List.find?_eq_none.mpr fun r hr => by simp [ht r (List.mem_reverse.mp hr)]
    rw [analyzeTable_cons, analyzeTable_cons, hnone]
    rfl
  exact analyzeBody_congr hagree hints q htables

/-- A WITH clause that can be analysed changes no column of a query that does not read from it. -/
theorem columnsOf_with {c : Catalog} {s : Select} {qs : List NamedQuery}
    (hqs : ∃ x, (analyzeCtes c [] [] qs).run [] = .ok x)
    (hreads : ∀ x ∈ qs, ¬ Select.reads { s with ctes := [] } x.name) :
    columnsOf c { s with ctes := qs } = columnsOf c { s with ctes := [] } := by
  obtain ⟨⟨defined, bs⟩, hrun⟩ := hqs
  have hunread : ∀ r ∈ defined, ¬ Select.reads { s with ctes := [] } r.name := by
    intro r hr
    obtain ⟨x, hx, hxname⟩ := exists_named_of_run hrun hr
    exact hxname ▸ hreads x hx
  have hbody : analyzeBody c [⟨[], defined, []⟩] [] { s with ctes := qs } =
      analyzeSelect c [] [] { s with ctes := [] } := by
    -- a body is analysed without a look at the WITH clause before it
    have hctes : analyzeBody c [⟨[], defined, []⟩] [] { s with ctes := qs } =
        analyzeBody c [⟨[], defined, []⟩] [] { s with ctes := [] } := rfl
    rw [hctes, analyzeSelect_eq]
    exact analyzeBody_of_not_reads c [] hunread
  rw [columnsOf_eq, columnsOf_eq, analyzeSelect_eq, StateT.run_bind, hrun]
  show ((analyzeBody c [⟨[], defined, []⟩] [] { s with ctes := qs }).run bs).map _ = _
  rw [hbody, ← columns_bare c [] [] _ [] bs, columns_bare c [] [] _ [] []]

/-! ## Results -/

namespace Conversion

section Runs

variable {q p : Sql.Query} {s : Setting} {r r' : Progress} {tree : Select}

/-- A converted query is put together from parts, one of which is what its body converts to. -/
theorem exists_parts_of_run (hbody : q.body = .query p)
    (hrun : (query q).run s r = (.ok tree, r')) :
    ∃ parts : QueryParts, (queryParts q).run s r = (.ok parts, r') ∧ parts.select = tree ∧
      ∃ r₁ r₂, (query p).run s r₁ = (.ok parts.body, r₂) := by
  obtain ⟨parts, r₀, hparts, hselect⟩ := run_bind_ok (query_eq q ▸ hrun)
  obtain ⟨rfl, rfl⟩ : parts.select = tree ∧ r₀ = r' := by simpa using hselect
  -- the WITH clause comes before the body, the other clauses behind it
  refine ⟨parts, hparts, rfl, ?_⟩
  obtain ⟨ctes, r₁, -, hrest⟩ := run_bind_ok hparts
  obtain ⟨body, r₂, hinner, hrest⟩ := run_bind_ok hrest
  rw [hbody, setExpr] at hinner
  -- what comes behind the body does not change it
  have hpartsBody : Ensures (do
      let keys ← orderKeys q.orderBy
      let setting ← read
      let operands ← inOrder setting.limitComma (exprOption q.offset) (exprOption q.limit)
      let quantity ← exprOption q.fetchQuantity
      return (⟨ctes, body, keys, operands.1, operands.2, quantity⟩ : QueryParts))
      fun parts => parts.body = body :=
    .after fun _ => .after fun _ => .after fun _ => .after fun _ => .pure rfl
  exact ⟨r₁, r₂, hpartsBody _ _ _ _ hrest ▸ hinner⟩

/-- With a WITH clause around it, a query in parentheses keeps everything but its own one. -/
theorem sameBare_with {inner : Select} {parts : QueryParts} (hshaped : parts.Shaped q)
    (hwrites : ∀ k, writes q k = decide (k = .ctes)) (h : SameBare parts.body inner) :
    SameBare parts.select { inner with ctes := parts.select.ctes } := by
  have hkeys : parts.keys.isEmpty = true := by
    simpa [writes, hshaped.keys] using hwrites .orderBy
  obtain ⟨hquantity, hlimit⟩ : parts.quantity = none ∧ parts.limit = none := by
    simpa [writes, ← hshaped.quantity, ← hshaped.limit] using hwrites .limit
  have hoffset : parts.offset = none := by
    simpa [writes, ← hshaped.offset] using hwrites .offset
  have hselect : parts.select = { parts.body with ctes := parts.select.ctes } := by
    simp only [QueryParts.select, hkeys, hquantity, hlimit, hoffset, if_true, Option.none_or]
  -- only the WITH clause is put in, and this can be done to the bare trees as well
  have hreplaced := (h.prod (.refl parts.select.ctes)).map
    (fun x => { x.1 with ctes := x.2 }) fun x => by
      obtain ⟨body, ctes⟩ := x
      cases body
      rfl
  rw [hselect]
  exact hreplaced

end Runs

end Conversion

open Conversion in
/-- A query with a query in parentheses as its body keeps a clause of it exactly if it does not
write the clause itself. If it only puts a WITH clause around the body, from which the body does not
read, its columns are those of the body without the WITH clause that it loses. -/
theorem parenthesised_kept_iff {q p : Sql.Query} (hbody : q.body = .query p) {s : Setting}
    {r r' : Progress} {tree : Select} (hrun : (query q).run s r = (.ok tree, r')) :
    (∃ parts : QueryParts, (queryParts q).run s r = (.ok parts, r') ∧
      (∃ r₁ r₂, (query p).run s r₁ = (.ok parts.body, r₂)) ∧
      (∀ k, (clauseWalk tree k).Perm (clauseWalk parts.body k ++ parts.own k) ↔
        (writes q k = true → carries k p = false)) ∧
      (tree.walk.Perm (parts.body.walk ++ parts.ownWalk) ↔
        ∀ k, writes q k = true → carries k p = false)) ∧
    ∀ (c : Catalog) (s' : Setting) (r₁ r₂ : Progress) (inner : Select), s'.dialect = s.dialect →
      (query p).run s' r₁ = (.ok inner, r₂) → (∀ k, writes q k = decide (k = .ctes)) →
      (∃ x, (analyzeCtes c [] [] tree.ctes).run [] = .ok x) →
      (∀ x ∈ tree.ctes, ¬ Select.reads { inner with ctes := [] } x.name) →
        columnsOf c tree = columnsOf c { inner with ctes := [] } ∧
          (carries .ctes p = false → columnsOf c tree = columnsOf c inner) := by
  obtain ⟨parts, hparts, rfl, r₁, r₂, hinner⟩ := exists_parts_of_run hbody hrun
  have hshaped := ensures_queryParts q _ _ _ _ hparts
  have hhas := ensures_has p _ _ _ _ hinner
  constructor
  · refine ⟨parts, hparts, ⟨r₁, r₂, hinner⟩, fun k => ?_, ?_⟩
    · rw [← hhas k]
      exact clauseWalk_select_perm_iff hshaped k
    · simp only [← hhas]
      exact walk_select_perm_iff hshaped
  · intro c s' r₁' r₂' inner hdialect hrun' hwrites hctes hreads
    have hsame : SameBare parts.body inner := (alike_query p).sameBare hdialect.symm hinner hrun'
    have hcolumns : columnsOf c parts.select = columnsOf c { inner with ctes := [] } := by
      rw [(sameBare_with hshaped hwrites hsame).columnsOf_eq c]
      exact columnsOf_with hctes hreads
    refine ⟨hcolumns, fun hcarries => ?_⟩
    -- without a WITH clause of its own nothing of the query in parentheses is lost
    have hnone : inner.ctes = [] := by
      have h := ensures_has p _ _ _ _ hrun' .ctes
      simpa [Select.has, hcarries] using h
    rw [hcolumns]
    cases inner
    exact congrArg (columnsOf c) (by rw [← hnone])

section Around

/-- The query `SELECT a FROM table` after a WITH clause. -/
def selectA (ctes : List Sql.Cte) (table : String) : Sql.Query :=
  ⟨false, ctes, .select ⟨.no, [], none, [.value (.column ⟨"a", none⟩ [])], "",
    [⟨.table [⟨table, none⟩] "" none "", []⟩], [], none, false, [], "", none, [], false, none⟩,
    [], none, none, "", none, none, ""⟩

/-- The entry `name AS (SELECT a FROM t)` of a WITH clause. -/
def namedA (name : String) : Sql.Cte := ⟨⟨⟨name, none⟩, ""⟩, "", selectA [] "t", ""⟩

/-- A query in parentheses after `WITH w AS (SELECT a FROM t)`. -/
def withAround (p : Sql.Query) : Sql.Query :=
  ⟨false, [namedA "w"], .query p, [], none, none, "", none, none, ""⟩

/-- The catalog after `CREATE TABLE t (a int)`. -/
def catalogOfT : Catalog :=
  ⟨"public", Directory.empty.insert "public" ⟨"public", Directory.empty.insert "t"
    ⟨.qualified "public" "t", [⟨"a", .named "integer", false⟩]⟩⟩⟩

/-- The canonical tree of `SELECT a FROM table`. -/
def treeA (ctes : List NamedQuery) (table : String) : Select :=
  { Select.empty with
    ctes := ctes
    targets := [.target none (some (.column [.name "a"])) 0]
    source := [.table ⟨none, table, none, false⟩] }

theorem parenthesised_kept_iff_withAround :
    ∃ tree parts,
      (Conversion.query (withAround (selectA [] "t"))).run ⟨.postgres, 0, false⟩ (.start []) =
        (.ok tree, .start []) ∧
      tree.walk.Perm (parts.body.walk ++ Conversion.QueryParts.ownWalk parts) ∧
      columnsOf catalogOfT tree = columnsOf catalogOfT (treeA [] "t") ∧
      columnsOf catalogOfT (treeA [] "t") =
        .ok [⟨"a", .named "integer", false, some (.qualified "public" "t"), some "a"⟩] := by
  have hrun : (Conversion.query (withAround (selectA [] "t"))).run ⟨.postgres, 0, false⟩
      (.start []) = (.ok (treeA [⟨"w", .select (treeA [] "t")⟩] "t"), .start []) := rfl
  have hinner : (Conversion.query (selectA [] "t")).run ⟨.postgres, 0, false⟩ (.start []) =
      (.ok (treeA [] "t"), .start []) := rfl
  obtain ⟨⟨parts, -, -, -, hkept⟩, hcolumns⟩ := parenthesised_kept_iff rfl hrun
  have hctes : ∃ x, (analyzeCtes catalogOfT [] []
      (treeA [⟨"w", .select (treeA [] "t")⟩] "t").ctes).run [] = .ok x := ⟨_, rfl⟩
  have hreads : ∀ x ∈ (treeA [⟨"w", .select (treeA [] "t")⟩] "t").ctes,
      ¬ Select.reads { treeA [] "t" with ctes := [] } x.name := by
    simp [treeA, Select.empty, Select.reads]
  refine ⟨_, parts, hrun, hkept.mpr fun k _ => ?_, ?_, by decide +kernel⟩
  · cases k <;> rfl
  · exact (hcolumns catalogOfT _ _ _ _ rfl hinner (fun k => by cases k <;> rfl) hctes hreads).2 rfl

/-- The WITH clause of a query in parentheses is lost to the one before the parentheses, and with it
what the query reads from. -/
theorem not_parenthesised_kept_with :
    ∃ q p tree inner, q.body = .query p ∧
      (Conversion.query q).run ⟨.postgres, 0, false⟩ (.start []) = (.ok tree, .start []) ∧
      (Conversion.query p).run ⟨.postgres, 0, false⟩ (.start []) = (.ok inner, .start []) ∧
      (∃ x, (analyzeCtes catalogOfT [] [] tree.ctes).run [] = .ok x) ∧
      (∀ x ∈ tree.ctes, ¬ inner.reads x.name) ∧
      inner.ctes.map NamedQuery.name = ["v"] ∧ tree.ctes.map NamedQuery.name = ["w"] ∧
      columnsOf catalogOfT inner =
        .ok [⟨"a", .named "integer", false, some (.qualified "public" "t"), some "a"⟩] ∧
      columnsOf catalogOfT tree = .error (.unknownTable (.qualified "public" "v")) := by
  refine ⟨withAround (selectA [namedA "v"] "v"), selectA [namedA "v"] "v",
    treeA [⟨"w", .select (treeA [] "t")⟩] "v", treeA [⟨"v", .select (treeA [] "t")⟩] "v", ?_⟩
  refine ⟨rfl, rfl, rfl, ⟨_, rfl⟩, ?_, rfl, rfl, by decide +kernel, by decide +kernel⟩
  simp [treeA, Select.empty, Select.reads]

end Around

end TypedSql.Canonical
