import Mathlib.Data.List.Perm.Subperm
import TypedSql.Proofs.Conversion.Constructs
import TypedSql.Proofs.Conversion.Levels

/-!
# Levels in the course of a conversion

What the conversion of a single query does with the operands of its LIMIT, and what it takes over
from its body.

- **Levels**: when a query of a tree is the one of a level, and when it keeps its operands
- **Positions**: a step that loses no placeholder converts all that are written
- **Parts**: a query converts to its parts, which are then put together
- **Marks**: the operands of a LIMIT take numbers in the order that the flag of the statement tells
-/

namespace TypedSql.Canonical

/-! ## Levels -/

/-- A query of a tree is what a level converts to. It can differ from that in what parentheses
around the level add: the named queries and the sort keys. -/
def Level.Gives (l : Ledger) (level : Level) (s : Select) : Prop :=
  ∃ s' p q, l.At p ∧ p.seen = level.start ∧
    (Conversion.query level.query).run l.setting p = (.ok s', q) ∧
      Conversion.core s = Conversion.core s' ∧ s.limit = s'.limit ∧ s.offset = s'.offset

/-- A query has the placeholders that a level has as operands of its LIMIT in their places, if the
LIMIT of the level is written with a comma, or without one. -/
structure Level.Keeps (l : Ledger) (level : Level) (comma : Bool) (s : Select) : Prop where
  limit : s.limit = some (l.mark (level.countNumber comma))
  offset : level.query.offset.isSome → s.offset = some (l.mark (level.offsetNumber comma))

namespace Level

variable {l : Ledger} {level : Level} {s : Select}

/-- A level with marks in its LIMIT keeps them exactly in the form that the flag tells. -/
theorem Keeps.iff_form (h : level.Keeps l l.limitComma s) (comma : Bool) :
    level.Keeps l comma s ↔ level.query.offset = none ∨ comma = l.limitComma := by
  constructor
  · intro hcomma
    rcases hoffset : level.query.offset with _ | e
    · exact .inl rfl
    · -- the other form exchanges the two numbers
      have hsame := l.mark_inj (Option.some.inj (hcomma.limit.symm.trans h.limit))
      simp only [Level.countNumber, hoffset, Option.isSome_some, Bool.and_true] at hsame
      refine .inr ?_
      revert hsame
      cases comma <;> cases l.limitComma <;> simp
  · rintro (hoffset | rfl)
    · refine ⟨?_, by simp [hoffset]⟩
      rw [h.limit]
      simp [Level.countNumber, hoffset]
    · exact h

end Level

namespace Conversion

variable {l : Ledger} {α : Type} {t : Tally}

/-! ## Positions -/

/-- A step that loses no placeholder converts all that are written. -/
theorem Adds.seen_eq {before : List ParamRef} {walk : α → List Node} {c : Conversion α}
    (hc : Adds l before walk c t) (hlost : t.lost = 0) {p q : Progress} (hp : l.At p) {a : α}
    (hrun : c.run l.setting p = (.ok a, q)) : l.At q ∧ q.seen = p.seen + t.written := by
  obtain ⟨hat, hle, hub, -, hcount, hlength⟩ := hc p hp _ _ hrun
  refine ⟨hat, ?_⟩
  -- what the answer has gained was handed out in the meantime
  have hsub : (refs (walk a)).length ≤ before.length + (l.issued p.seen q.seen).length := by
    rw [← List.length_append]
    refine (List.subperm_ext_iff.mpr fun r _ => ?_ : (refs (walk a)).Subperm _).length_le
    simpa using hcount r
  have hissued : (l.issued p.seen q.seen).length = q.seen - p.seen := by simp [Ledger.issued]
  rw [Tally.written] at hub ⊢
  omega

/-! ## Parts -/

/-- What the conversion of a query puts together. -/
structure QueryParts where
  ctes : List NamedQuery
  body : Select
  keys : List Node
  offset : Option Node
  limit : Option Node
  quantity : Option Node

namespace QueryParts

/-- The query: the clauses around the body replace those of the body. -/
def select (parts : QueryParts) : Select :=
  { parts.body with
    ctes := if parts.ctes.isEmpty then parts.body.ctes else parts.ctes
    orderBy := if parts.keys.isEmpty then parts.body.orderBy else parts.keys
    limit := parts.quantity.or (parts.limit.or parts.body.limit)
    offset := parts.offset.or parts.body.offset }

/-- The nodes of the parts. -/
def walk (parts : QueryParts) : List Node :=
  walkNamed parts.ctes ++ ((Node.select parts.body).walk ++ (walkAll parts.keys ++
    ((walkOption parts.offset ++ walkOption parts.limit) ++ walkOption parts.quantity)))

/-- The tally of the parts of a query, in the order in which they are converted. -/
def tally (q : Sql.Query) : Tally :=
  .namedQueries q.ctes + ((Tally.setExpr q.body).whole + (.orderKeys q.orderBy +
    ((.exprOption q.offset + .exprOption q.limit) + .exprOption q.fetchQuantity)))

end QueryParts

/-- Converts the parts of a query. -/
def queryParts (q : Sql.Query) : Conversion QueryParts := do
  let ctes ← namedQueries q.ctes
  let body ← setExpr q.body
  let keys ← orderKeys q.orderBy
  let setting ← read
  let operands ← inOrder setting.limitComma (exprOption q.offset) (exprOption q.limit)
  let quantity ← exprOption q.fetchQuantity
  return ⟨ctes, body, keys, operands.1, operands.2, quantity⟩

theorem query_eq (q : Sql.Query) :
    query q = queryParts q >>= fun parts => return parts.select := by
  obtain ⟨recursive, ctes, body, orderBy, limit, offset, rows, fetch, quantity, tail⟩ := q
  rw [query]
  simp only [queryParts, bind_assoc, pure_bind]
  rfl

/-- A clause is there in the parts of a query exactly if it is written. -/
structure QueryParts.Shaped (q : Sql.Query) (parts : QueryParts) : Prop where
  ctes : parts.ctes.isEmpty = q.ctes.isEmpty
  keys : parts.keys.isEmpty = q.orderBy.isEmpty
  limit : parts.limit.isSome = q.limit.isSome
  offset : parts.offset.isSome = q.offset.isSome
  quantity : parts.quantity.isSome = q.fetchQuantity.isSome

theorem ensures_queryParts (q : Sql.Query) : Ensures (queryParts q) (QueryParts.Shaped q) := by
  refine .bind (ensures_namedQueries_isEmpty q.ctes) fun ctes hctes => .after fun body => ?_
  refine .bind (ensures_orderKeys_isEmpty q.orderBy) fun keys hkeys => .after fun setting => ?_
  refine .bind ((ensures_exprOption_isSome q.offset).inOrder _ (ensures_exprOption_isSome q.limit))
    fun operands ⟨hoffset, hlimit⟩ => ?_
  exact .bind (ensures_exprOption_isSome q.fetchQuantity) fun quantity hquantity =>
    .pure ⟨by simpa using hctes, by simpa using hkeys, hlimit, hoffset, hquantity⟩

/-- The body and the LIMIT of a query hold the placeholders that their tallies keep. -/
theorem length_refs_queryParts {q : Sql.Query} {p r : Progress} (hp : l.At p) {parts : QueryParts}
    (hrun : (queryParts q).run l.setting p = (.ok parts, r)) :
    (∀ k, (refs (clauseWalk parts.body k)).length = (Tally.setExpr q.body).kept k) ∧
      (refs (walkOption parts.limit)).length = (Tally.exprOption q.limit).kept := by
  have h : Issues l (queryParts q) (QueryParts.tally q) fun parts _ =>
      (∀ k, (refs (clauseWalk parts.body k)).length = (Tally.setExpr q.body).kept k) ∧
        (refs (walkOption parts.limit)).length = (Tally.exprOption q.limit).kept := by
    apply Issues.bind (adds_namedQueries q.ctes)
    intro ctes _ _
    apply Issues.bind (issues_setExpr q.body)
    intro body _ hbody
    apply Issues.bind (adds_orderKeys q.orderBy)
    intro keys _ _
    -- reading the setting counts nothing
    rw [← Tally.zero_add (_ + _)]
    apply Issues.bind quiet_read
    rintro setting _ ⟨rfl, -⟩
    -- which operand comes first depends on the dialect, and their counts do not
    apply Issues.bind (Issues.inOrder (adds_exprOption q.offset) (adds_exprOption q.limit))
    rintro operands _ ⟨_, _, -, -, hlimit⟩
    exact Issues.map (adds_exprOption q.fetchQuantity) fun quantity _ _ =>
      ⟨hbody.clause, by simpa using hlimit.2⟩
  exact (h p hp _ _ hrun).2.2.2.2

/-- What the clauses of a query take the place of holds no placeholder. -/
structure QueryParts.Kept (parts : QueryParts) : Prop where
  ctes : parts.ctes.isEmpty = false → refs (clauseWalk parts.body .ctes) = []
  orderBy : parts.keys.isEmpty = false → refs (clauseWalk parts.body .orderBy) = []
  limit : parts.limit.isSome → refs (clauseWalk parts.body .limit) = []
  offset : parts.offset.isSome → refs (clauseWalk parts.body .offset) = []
  /-- A FETCH takes the place of two limits. -/
  quantity : parts.quantity.isSome →
    refs (walkOption parts.limit) = [] ∧ refs (clauseWalk parts.body .limit) = []

/-- A query that loses no placeholder takes the place of none. -/
theorem kept_of_run_queryParts {q : Sql.Query} (hlost : (Tally.query q).whole.lost = 0)
    {p r : Progress} (hp : l.At p) {parts : QueryParts}
    (hrun : (queryParts q).run l.setting p = (.ok parts, r)) : parts.Kept := by
  obtain ⟨hbody, hlimit⟩ := length_refs_queryParts hp hrun
  have hshaped := ensures_queryParts q _ _ _ _ hrun
  -- every term of the sum of what is lost is zero
  have hterms := Tally.lost_query q
  rw [hlost] at hterms
  have hctes : (if !q.ctes.isEmpty then (Tally.setExpr q.body).kept .ctes else 0) = 0 := by omega
  have horderBy : (if !q.orderBy.isEmpty then (Tally.setExpr q.body).kept .orderBy else 0) = 0 := by
    omega
  have hlimitTerm : (if q.limit.isSome then (Tally.setExpr q.body).kept .limit else 0) = 0 := by
    omega
  have hoffset : (if q.offset.isSome then (Tally.setExpr q.body).kept .offset else 0) = 0 := by
    omega
  have hquantity : (if q.fetchQuantity.isSome then if q.limit.isSome then
      (Tally.exprOption q.limit).kept else (Tally.setExpr q.body).kept .limit else 0) = 0 := by
    omega
  rw [← hshaped.ctes] at hctes
  rw [← hshaped.keys] at horderBy
  rw [← hshaped.limit] at hlimitTerm hquantity
  rw [← hshaped.offset] at hoffset
  rw [← hshaped.quantity] at hquantity
  refine ⟨fun h => ?_, fun h => ?_, fun h => ?_, fun h => ?_, fun h => ?_⟩
  · simpa [h, ← hbody] using hctes
  · simpa [h, ← hbody] using horderBy
  · simpa [h, ← hbody] using hlimitTerm
  · simpa [h, ← hbody] using hoffset
  · rw [if_pos h] at hquantity
    cases hsome : parts.limit with
    | none => exact ⟨rfl, by simpa [hsome, ← hbody] using hquantity⟩
    | some n =>
      rw [hsome] at hquantity hlimitTerm hlimit
      exact ⟨by simpa [← hlimit] using hquantity, by simpa [← hbody] using hlimitTerm⟩

/-! ## Marks -/

theorem refs_walkOption_mark (i : Nat) : refs (walkOption (some (l.mark i))) = [l.ref i] := rfl

theorem run_exprOption_mark {p : Progress} (hp : l.At p) :
    ∃ q, (exprOption (some markExpr)).run l.setting p = (.ok (some (l.mark (p.seen + 1))), q) ∧
      l.At q ∧ q.seen = p.seen + 1 := by
  obtain ⟨q, hrun, hq⟩ := run_param_mark hp
  refine ⟨q, ?_, hq⟩
  have hexpr : expr markExpr = param "?" := rfl
  rw [exprOption, hexpr, run_bind, hrun]
  rfl

/-- Two marks take the next two numbers, in the order in which they are converted. -/
theorem run_inOrder_marks {p : Progress} (hp : l.At p) (straight : Bool) :
    ∃ q, (inOrder straight (exprOption (some markExpr)) (exprOption (some markExpr))).run
        l.setting p = (.ok (some (l.mark (p.seen + if straight then 1 else 2)),
          some (l.mark (p.seen + if straight then 2 else 1))), q) := by
  obtain ⟨r, hfirst, hr, hseen⟩ := run_exprOption_mark hp
  obtain ⟨q, hsecond, -⟩ := run_exprOption_mark hr
  rw [hseen] at hsecond
  refine ⟨q, ?_⟩
  cases straight <;>
    simp only [inOrder, run_bind, hfirst, hsecond, run_pure, if_true, Bool.false_eq_true, if_false]

theorem run_inOrder_mark {p : Progress} (hp : l.At p) (straight : Bool) :
    ∃ q, (inOrder straight (exprOption none) (exprOption (some markExpr))).run l.setting p =
      (.ok (none, some (l.mark (p.seen + 1))), q) := by
  obtain ⟨q, hrun, -⟩ := run_exprOption_mark hp
  have hnone : exprOption none = pure none := rfl
  refine ⟨q, ?_⟩
  cases straight <;>
    simp only [inOrder, run_bind, hnone, hrun, run_pure, if_true, Bool.false_eq_true, if_false]

/-- The operands of a LIMIT with marks take the next numbers, in the order that the flag tells. -/
theorem operands_of_run {level : Level} (hmarked : level.isMarked) {p q : Progress} (hp : l.At p)
    (hseen : p.seen = level.beforeLimit) {operands : Option Node × Option Node}
    (hrun : (inOrder l.limitComma (exprOption level.query.offset)
      (exprOption level.query.limit)).run l.setting p = (.ok operands, q)) :
    operands.2 = some (l.mark (level.countNumber l.limitComma)) ∧
      (level.query.offset.isSome →
        operands.1 = some (l.mark (level.offsetNumber l.limitComma))) := by
  rw [level.limit_of_isMarked hmarked] at hrun
  -- the offset is missing or marked as well
  rcases level.offset_of_isMarked hmarked with hoffset | hoffset <;> rw [hoffset] at hrun
  · obtain ⟨r, hmark⟩ := run_inOrder_mark hp l.limitComma
    obtain rfl : (none, some (l.mark (p.seen + 1))) = operands :=
      Except.ok.inj (Prod.mk.inj (hmark.symm.trans hrun)).1
    simp [Level.countNumber, hoffset, hseen]
  · obtain ⟨r, hmarks⟩ := run_inOrder_marks hp l.limitComma
    obtain rfl := Except.ok.inj (Prod.mk.inj (hmarks.symm.trans hrun)).1
    simp [Level.countNumber, Level.offsetNumber, hoffset, hseen]

/-- The parts of a query with marks in its LIMIT hold them where the flag puts them. -/
theorem parts_of_marked {level : Level} (hmarked : level.isMarked)
    (hlost : (Tally.query level.query).whole.lost = 0) {p q : Progress} (hp : l.At p)
    (hstart : p.seen = level.start) {parts : QueryParts}
    (hrun : (queryParts level.query).run l.setting p = (.ok parts, q)) :
    parts.limit = some (l.mark (level.countNumber l.limitComma)) ∧
      (level.query.offset.isSome →
        parts.offset = some (l.mark (level.offsetNumber l.limitComma))) ∧
      parts.quantity = none := by
  -- what stands before the LIMIT converts all of its placeholders
  have hle := Tally.lost_le_query level.query
  obtain ⟨ctes, p₁, hctes, hrun⟩ := run_bind_ok hrun
  obtain ⟨hp₁, hseen₁⟩ := (adds_namedQueries _).seen_eq (by omega) hp hctes
  obtain ⟨body, p₂, hbody, hrun⟩ := run_bind_ok hrun
  obtain ⟨hp₂, hseen₂⟩ := (issues_setExpr _).adds.seen_eq (by omega) hp₁ hbody
  obtain ⟨keys, p₃, hkeys, hrun⟩ := run_bind_ok hrun
  obtain ⟨hp₃, hseen₃⟩ := (adds_orderKeys _).seen_eq (by omega) hp₂ hkeys
  obtain ⟨setting, p₃', hread, hrun⟩ := run_bind_ok hrun
  obtain ⟨rfl, rfl⟩ : l.setting = setting ∧ p₃ = p₃' := by simpa using hread
  have hbefore : p₃.seen = level.beforeLimit := by
    rw [hseen₃, hseen₂, hseen₁, hstart, Level.beforeLimit]
  obtain ⟨operands, p₄, hoperands, hrun⟩ := run_bind_ok hrun
  obtain ⟨hlimit, hoffset⟩ := operands_of_run hmarked hp₃ hbefore hoperands
  -- there is no FETCH that takes the place of the LIMIT
  obtain ⟨quantity, p₅, hquantity, hrun⟩ := run_bind_ok hrun
  rw [level.fetchQuantity_of_isMarked hmarked] at hquantity
  obtain rfl : none = quantity := Except.ok.inj (Prod.mk.inj hquantity).1
  obtain rfl := Except.ok.inj (Prod.mk.inj hrun).1
  exact ⟨hlimit, hoffset, rfl⟩

/-- The query of a level with marks in its LIMIT has them where the flag puts them. -/
theorem keeps_of_gives {level : Level} {s : Select} (hgives : level.Gives l s)
    (hmarked : level.isMarked) (hlost : (Tally.query level.query).whole.lost = 0) :
    level.Keeps l l.limitComma s := by
  obtain ⟨s', p, q, hp, hstart, hrun, -, hlimit, hoffset⟩ := hgives
  obtain ⟨parts, r, hparts, hselect⟩ := run_bind_ok (query_eq level.query ▸ hrun)
  obtain rfl : parts.select = s' := Except.ok.inj (Prod.mk.inj hselect).1
  obtain ⟨hcount, hshift, hquantity⟩ := parts_of_marked hmarked hlost hp hstart hparts
  constructor
  · rw [hlimit, QueryParts.select, hcount, hquantity]
    rfl
  · intro hsome
    rw [hoffset, QueryParts.select, hshift hsome]
    rfl

end Conversion

end TypedSql.Canonical
