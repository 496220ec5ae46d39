import TypedSql.Proofs.Conversion.LevelMarks
import TypedSql.Proofs.Conversion.TreeQueries

/-!
# Queries of a tree and their levels

If no placeholder of a statement is lost, the queries of its tree and its levels belong together:
every query with a LIMIT or an OFFSET is given by a level, and every level whose LIMIT has
placeholders as operands has its query in the tree.

- **Accounts**: what the queries among nodes and some levels have to do with each other
- **Levelled**: steps whose answers account for their levels, with a rule for every way to put steps
  together
- **Single nodes**: the steps whose answers hold no query of their own
- **Queries**: the step from a level to the query around it
- **Constructs**: one statement for each function of the conversion
-/

namespace TypedSql.Canonical

namespace Conversion

variable {l : Ledger} {α β : Type} {t u : Tally}

/-- Texts that no stage looks into hold no placeholders, if none is lost. -/
theorem written_silentAll (texts : List String) (hlost : (Tally.silentAll texts).lost = 0) :
    (Tally.silentAll texts).written = 0 := by
  rw [Tally.written, Tally.kept_silentAll, hlost]

/-! ## Accounts -/

/-- A query is given by one of some levels, which has a LIMIT and loses no placeholder. -/
def FromLevel (l : Ledger) (levels : List Level) (s : Select) : Prop :=
  ∃ level ∈ levels, level.hasLimit ∧ (Tally.query level.query).whole.lost = 0 ∧ level.Gives l s

theorem FromLevel.mono {levels more : List Level} {s : Select} (h : FromLevel l levels s)
    (hsub : levels ⊆ more) : FromLevel l more s := by
  obtain ⟨level, hmem, hlevel⟩ := h
  exact ⟨level, hsub hmem, hlevel⟩

/-- Parentheses around a query add nothing that its level does not give. -/
theorem FromLevel.of_core {levels : List Level} {s a : Select} (h : FromLevel l levels s)
    (hcore : core a = core s) (hlimit : a.limit = s.limit) (hoffset : a.offset = s.offset) :
    FromLevel l levels a := by
  obtain ⟨level, hmem, hhas, hlost, s', p, q, hp, hstart, hrun, hcore', hlimit', hoffset'⟩ := h
  exact ⟨level, hmem, hhas, hlost, s', p, q, hp, hstart, hrun, hcore.trans hcore',
    hlimit.trans hlimit', hoffset.trans hoffset'⟩

/-- What nodes hold beyond the nodes `before` are the queries of some levels: every query with a
LIMIT among them is given by a level, and every level with marks has its query among them. -/
structure Accounts (l : Ledger) (before : List Node) (levels : List Level) (after : List Node) :
    Prop where
  kept : limitedIn before ⊆ limitedIn after
  given : ∀ s ∈ limitedIn after, s ∈ limitedIn before ∨ FromLevel l levels s
  found : ∀ level ∈ levels, level.isMarked →
    ∃ s ∈ limitedIn after, level.Keeps l l.limitComma s

namespace Accounts

variable {before middle after : List Node} {levels more : List Level}

theorem of_iff (h : ∀ s, s ∈ limitedIn after ↔ s ∈ limitedIn before) :
    Accounts l before [] after where
  kept s hs := (h s).mpr hs
  given s hs := .inl ((h s).mp hs)
  found _ hlevel := nomatch hlevel

theorem trans (h : Accounts l before levels middle) (h' : Accounts l middle more after) :
    Accounts l before (levels ++ more) after where
  kept := List.Subset.trans h.kept h'.kept
  given s hs := by
    rcases h'.given s hs with hmiddle | hlevel
    · exact (h.given s hmiddle).imp_right fun h => h.mono (List.subset_append_left _ _)
    · exact .inr (hlevel.mono (List.subset_append_right _ _))
  found level hlevel hmarked := by
    rcases List.mem_append.mp hlevel with hlevel | hlevel
    · obtain ⟨s, hs, hkeeps⟩ := h.found level hlevel hmarked
      exact ⟨s, h'.kept hs, hkeeps⟩
    · exact h'.found level hlevel hmarked

/-- Further nodes may stand on both sides. -/
theorem frame {others : List Node} (h : Accounts l before levels after) :
    Accounts l (others ++ before) levels (others ++ after) where
  kept s hs := by
    rw [limitedIn_append, List.mem_append] at hs ⊢
    exact hs.imp_right fun hs => h.kept hs
  given s hs := by
    rw [limitedIn_append, List.mem_append] at hs ⊢
    rcases hs with hs | hs
    · exact .inl (.inl hs)
    · exact (h.given s hs).imp_left .inr
  found level hlevel hmarked := by
    obtain ⟨s, hs, hkeeps⟩ := h.found level hlevel hmarked
    exact ⟨s, by simp [hs], hkeeps⟩

end Accounts

/-! ## Levelled -/

/-- A step that loses no placeholder converts all that are written, and what its answer holds beyond
what was there `before` are the queries of its levels. -/
def Levelled (l : Ledger) (before : List Node) (walk : α → List Node) (c : Conversion α) (t : Tally)
    (levels : Levels) : Prop :=
  t.lost = 0 → ∀ p, l.At p → ∀ a q, c.run l.setting p = (.ok a, q) →
    l.At q ∧ q.seen = p.seen + t.written ∧ Accounts l before (levels p.seen) (walk a)

namespace Levelled

variable {before : List Node} {walk : α → List Node} {walk' : β → List Node} {c : Conversion α}
  {first second : Levels}

theorem pure {a : α} (h : ∀ s, s ∈ limitedIn (walk a) ↔ s ∈ limitedIn before) :
    Levelled l before walk (Pure.pure a) 0 .none := by
  intro _ p hp b q hrun
  obtain ⟨rfl, rfl⟩ : a = b ∧ p = q := by simpa using hrun
  exact ⟨hp, rfl, .of_iff h⟩

theorem throw {e : ConversionError} : Levelled l before walk (MonadExcept.throw e) t first := by
  intro _ p _ a q hrun
  simp at hrun

/-- One step after the other, of which the second adds to what the first has answered. -/
theorem chain {f : α → Conversion β} {middle : α → List Node}
    (hc : Levelled l before middle c t first)
    (hf : ∀ a, Levelled l (middle a) walk' (f a) u second) :
    Levelled l before walk' (c >>= f) (t + u) (first.andThen t second) := by
  intro hlost p hp b q hrun
  obtain ⟨ht, hu⟩ : t.lost = 0 ∧ u.lost = 0 := by simpa using hlost
  obtain ⟨a, r, hcrun, hfrun⟩ := run_bind_ok hrun
  obtain ⟨hr, hseen, haccounts⟩ := hc ht p hp a r hcrun
  obtain ⟨hq, hseen', haccounts'⟩ := hf a hu r hr b q hfrun
  rw [hseen] at haccounts'
  exact ⟨hq, by rw [hseen', hseen, Tally.written_add, Nat.add_assoc], haccounts.trans haccounts'⟩

/-- What was there before may be kept along. -/
theorem frame {others : List Node} (hc : Levelled l before walk c t first) :
    Levelled l (others ++ before) (fun a => others ++ walk a) c t first := by
  intro hlost p hp a q hrun
  obtain ⟨hq, hseen, haccounts⟩ := hc hlost p hp a q hrun
  exact ⟨hq, hseen, haccounts.frame⟩

/-- A step with an answer of its own, followed by one that adds to that. -/
theorem bind {f : α → Conversion β} (hc : Levelled l [] walk c t first)
    (hf : ∀ a, Levelled l (before ++ walk a) walk' (f a) u second) :
    Levelled l before walk' (c >>= f) (t + u) (first.andThen t second) := by
  have hframe : Levelled l (before ++ []) (fun a => before ++ walk a) c t first := hc.frame
  rw [List.append_nil] at hframe
  exact hframe.chain hf

/-- A last step that hands out nothing. -/
theorem last {f : α → Conversion β} (hc : Levelled l [] walk c t first)
    (hf : ∀ a, Levelled l (before ++ walk a) walk' (f a) 0 .none) :
    Levelled l before walk' (c >>= f) t first := by
  simpa using hc.bind hf

/-- A last step that puts the answer together. -/
theorem map {f : α → β} (hc : Levelled l [] walk c t first)
    (hf : ∀ a s, s ∈ limitedIn (walk' (f a)) ↔ s ∈ limitedIn (before ++ walk a)) :
    Levelled l before walk' (c >>= fun a => Pure.pure (f a)) t first :=
  hc.last fun a => pure (hf a)

/-- A step that hands out nothing, followed by one that adds something. -/
theorem after {P : α → Prop} {f : α → Conversion β} (hc : Quiet l c t P)
    (hf : ∀ a, P a → Levelled l before walk' (f a) u second) (ht : t.written = 0) :
    Levelled l before walk' (c >>= f) (t + u) second := by
  intro hlost p hp b q hrun
  obtain ⟨-, hu⟩ : t.lost = 0 ∧ u.lost = 0 := by simpa using hlost
  obtain ⟨a, r, hcrun, hfrun⟩ := run_bind_ok hrun
  obtain ⟨hr, hle, hub, -, hP, -⟩ := hc p hp _ _ hcrun
  have hseen : r.seen = p.seen := by omega
  simpa [hseen, ht] using hf a hP hu r hr b q hfrun

/-- A step that only looks something up, followed by one that adds something. -/
theorem afterRead {P : α → Prop} {f : α → Conversion β} (hc : Quiet l c 0 P)
    (hf : ∀ a, P a → Levelled l before walk' (f a) u second) :
    Levelled l before walk' (c >>= f) u second :=
  Tally.zero_add u ▸ after hc hf rfl

/-- Texts that no stage looks into change nothing. -/
theorem silent (hc : Levelled l before walk c t first) (texts : List String) :
    Levelled l before walk c (t + .silentAll texts) first := by
  intro hlost p hp a q hrun
  obtain ⟨ht, htexts⟩ : t.lost = 0 ∧ (Tally.silentAll texts).lost = 0 := by simpa using hlost
  simpa [written_silentAll texts htexts] using hc ht p hp a q hrun

/-- Two clauses in the order of the text. -/
theorem inOrder {straight : Bool} {d : Conversion β} (hc : Levelled l [] walk c t first)
    (hd : Levelled l [] walk' d u second) :
    Levelled l [] (fun x => walk x.1 ++ walk' x.2) (Conversion.inOrder straight c d) (t + u)
      (first.inOrder straight t second u) := by
  cases straight with
  | true => exact hc.bind fun a => hd.map fun b s => Iff.rfl
  | false =>
    -- the same is converted, with the two parts exchanged
    have h : Levelled l [] (fun x => walk x.1 ++ walk' x.2) (Conversion.inOrder false c d) (u + t)
        (second.andThen u first) :=
      hd.bind fun b => hc.map fun a s => by simp [or_comm]
    intro hlost p hp x q hrun
    have hlost' : (u + t).lost = 0 := by simpa [Nat.add_comm] using hlost
    obtain ⟨hq, hseen, haccounts⟩ := h hlost' p hp x q hrun
    exact ⟨hq, by simpa [Nat.add_comm] using hseen, haccounts⟩

/-- A construct that is left out holds no placeholders, if none is lost. -/
theorem dropped (hc : Levelled l before walk c u first) :
    Levelled l before walk c (t.dropped + u) first := by
  intro hlost p hp a q hrun
  obtain ⟨ht, hu⟩ : t.written = 0 ∧ u.lost = 0 := by simpa [Tally.dropped] using hlost
  have hdropped : t.dropped.written = 0 := by simpa [Tally.dropped, Tally.written] using ht
  simpa [hdropped] using hc hu p hp a q hrun

/-- What was there before matters only for its queries. -/
theorem congr {before' : List Node} (hc : Levelled l before walk c t first)
    (h : ∀ s, s ∈ limitedIn before ↔ s ∈ limitedIn before') :
    Levelled l before' walk c t first := by
  intro hlost p hp a q hrun
  obtain ⟨hq, hseen, haccounts⟩ := hc hlost p hp a q hrun
  exact ⟨hq, hseen, Accounts.trans (.of_iff h) haccounts⟩

/-- A step whose answers hold no query with a LIMIT. -/
theorem of_adds {refs : List ParamRef} (hc : Adds l refs walk c t)
    (h : Ensures c fun a => limitedIn (walk a) = []) : Levelled l [] walk c t .none := by
  intro hlost p hp a q hrun
  obtain ⟨hq, hseen⟩ := hc.seen_eq hlost hp hrun
  exact ⟨hq, hseen, .of_iff fun s => by rw [h _ _ _ _ hrun]; rfl⟩

end Levelled

/-! ## Single nodes -/

theorem ensures_params_limited (texts : List String) :
    Ensures (params texts) fun ns => limitedIn (walkAll ns) = [] := by
  induction texts with
  | nil => exact .pure rfl
  | cons text texts ih =>
    have hparam : Ensures (some <$> param text) fun o => limitedIn (walkOption o) = [] := by
      refine .map (P := fun n => limitedIn n.walk = []) ?_ fun n hn => hn
      refine .after fun d => .after fun p => ?_
      split
      · exact .after fun _ => .after fun offset => .pure rfl
      · exact .throw
    refine .bind (.tryCatch hparam fun _ => .pure rfl) fun n hn => .bind ih fun ns hns => .pure ?_
    cases n <;> simp_all

theorem ensures_skip_limited (construct text : String) :
    Ensures (skip construct text) fun n => limitedIn n.walk = [] :=
  .after fun _ => .bind (P := fun ns => limitedIn (walkAll ns) = [])
    (.after fun d => ensures_params_limited _) fun ns hns => .pure (by simpa using hns)

theorem levelled_skip (construct text : String) :
    Levelled l [] Node.walk (skip construct text) (.skipped text) .none :=
  .of_adds (adds_skip construct text) (ensures_skip_limited construct text)

theorem levelled_mapM_skip (construct : String) (texts : List String) :
    Levelled l [] walkAll (texts.mapM (skip construct)) (.skippedAll texts) .none := by
  refine .of_adds (adds_mapM_skip construct texts) ?_
  refine (Ensures.mapM (ensures_skip_limited construct) texts).imp fun ns hns => ?_
  induction ns with
  | nil => rfl
  | cons n ns ih => simp_all

theorem levelled_literal (value : Sql.Literal) :
    Levelled l [] Node.walk (literal value) (.literal value) .none := by
  refine .of_adds (adds_literal value) ?_
  match value with
  | .placeholder text =>
    refine .after fun d => .after fun p => ?_
    split
    · exact .after fun _ => .after fun offset => .pure rfl
    · exact .throw
  | .number .. | .boolean _ | .null
  | .string .single _ | .string .double _ | .string .escaped _ | .string .national _ =>
    exact .pure (by simp)
  | .string .unicode _ | .string .hex _ | .string .byteSingle _ | .string .byteDouble _
  | .string (.dollar _) _ => exact ensures_skip_limited _ _

@[simp] theorem limitedIn_walkAll_names (parts : List Sql.Ident) (f : Sql.Ident → String) :
    limitedIn (walkAll (parts.map fun i => .name (f i))) = [] := by
  induction parts with
  | nil => rfl
  | cons i is ih => simpa using ih

theorem levelled_columnRef (parts : List Sql.Ident) :
    Levelled l [] Node.walk (columnRef parts) 0 .none :=
  .afterRead quiet_dialect fun d _ => .pure (by simp)

@[simp] theorem limitedIn_walk_binary (op : Sql.BinaryOp) (left right : Node) :
    limitedIn (binary op left right).walk = limitedIn left.walk ++ limitedIn right.walk := by
  cases op <;> simp [binary]

@[simp] theorem limitedIn_walk_unary (op : Sql.UnaryOp) (arg : Node) :
    limitedIn (unary op arg).walk = limitedIn arg.walk := by
  match op with
  | .not | .plus | .before _ | .after _ => simp [unary]
  | .minus =>
    unfold unary
    dsimp only
    split <;> simp

@[simp] theorem limitedIn_walk_markNullable (n : Node) :
    limitedIn (markNullable n).walk = limitedIn n.walk := by
  cases n <;> simp [markNullable]

theorem limitedIn_walkAll_markNullable (ns : List Node) :
    limitedIn (walkAll (ns.map markNullable)) = limitedIn (walkAll ns) := by
  induction ns with
  | nil => rfl
  | cons n ns ih => simp [ih]

@[simp] theorem limitedIn_walkAll_markJoin (kind : Sql.JoinKind) (n : Nat) (items : List Node) :
    limitedIn (walkAll (markJoin kind n items)) = limitedIn (walkAll items) := by
  -- as for the placeholders, the items are taken apart where the sides of the join meet
  have h : limitedIn (walkAll items) =
      limitedIn (walkAll (items.take n)) ++ limitedIn (walkAll (items.drop n)) := by
    rw [← limitedIn_append, ← walkAll_append, List.take_append_drop]
  rw [h]
  unfold markJoin
  simp only [walkAll_append, limitedIn_append]
  split <;> split <;> simp only [limitedIn_walkAll_markNullable]

/-- A query that a predicate tests is left out if it does not convert. -/
theorem levelled_tested {c : Conversion Select} {first : Levels}
    (hadds : Adds l [] Select.walk c t)
    (hc : Levelled l [] (fun s => (Node.select s).walk) c t first) :
    Levelled l [] walkOption (tested c) t.tested (first.tested t) := by
  intro hlost p hp o q hrun
  obtain ⟨hq, hseen⟩ := (adds_tested hadds).seen_eq hlost hp hrun
  refine ⟨hq, hseen, ?_⟩
  rw [tested, run_tryCatch, run_bind] at hrun
  -- a query that cannot be converted leaves no levels, and one that can has all of its own
  rcases hcr : c.run l.setting p with ⟨e | a, p'⟩ <;> rw [hcr] at hrun
  · obtain rfl : none = o := Except.ok.inj (Prod.mk.inj hrun).1
    have hconverts : t.converts = false := (hadds p hp _ _ hcr).2.2.2
    have hlevels : first.tested t p.seen = [] := by
      rw [Levels.tested, hconverts]
      rfl
    rw [hlevels]
    exact .of_iff fun s => Iff.rfl
  · obtain rfl : some (.select a) = o := Except.ok.inj (Prod.mk.inj hrun).1
    have hconverts : t.converts = true := (hadds p hp _ _ hcr).2.2.2.1
    rw [Tally.tested, if_pos hconverts] at hlost
    simpa [Levels.tested, hconverts] using (hc hlost p hp a p' hcr).2.2

/-! ## Queries -/

/-- A query stands outside of the core of another one only in a clause that a query around that one
can take over. -/
theorem mem_limitedIn_walk {s a : Select} :
    s ∈ limitedIn a.walk ↔
      s ∈ limitedIn (core a).walk ∨ ∃ k, s ∈ limitedIn (clauseWalk a k) := by
  have h : s ∈ limitedIn a.walk ↔ s ∈ limitedIn _ :=
    ((walk_select_perm a).flatMap_right Node.ownLimited).mem_iff
  rw [h]
  simp only [limitedIn_append, List.mem_append]
  refine or_congr_right ⟨fun h => ?_, ?_⟩
  · rcases h with h | h | h | h <;> exact ⟨_, h⟩
  · rintro ⟨k, hk⟩
    cases k <;> simp [hk]

theorem mem_limitedIn_select {s a : Select} :
    s ∈ limitedIn (Node.select a).walk ↔
      (s = a ∧ (a.limit.isSome ∨ a.offset.isSome)) ∨
        s ∈ limitedIn (Node.select (core a)).walk ∨ ∃ k, s ∈ limitedIn (clauseWalk a k) := by
  have hown : s ∈ a.limited ↔
      (s = a ∧ (a.limit.isSome ∨ a.offset.isSome)) ∨ s ∈ (core a).limited := by
    cases a
    simp only [Select.limited, core]
    split <;> simp_all
  simp only [Node.walk, limitedIn_cons, Node.ownLimited, List.mem_append]
  rw [hown, mem_limitedIn_walk, or_assoc, or_assoc]

theorem clauseWalk_closed (s : Select) (k : Clause) : Closed (clauseWalk s k) := by
  cases k with
  | ctes => exact walkNamed_closed s.ctes
  | orderBy => exact walkAll_closed s.orderBy
  | limit => exact walkOption_closed s.limit
  | offset => exact walkOption_closed s.offset

/-- Where a query with a mark as count stands, there is a placeholder. -/
theorem refs_ne_nil {ns : List Node} (hns : Closed ns) {s : Select} (hs : s ∈ limitedIn ns)
    {i : Nat} (hlimit : s.limit = some (l.mark i)) : refs ns ≠ [] := by
  have hwalk : l.mark i ∈ s.walk := by
    cases s
    simp_all [Ledger.mark]
  have href : l.ref i ∈ refs ns := List.mem_filterMap.mpr ⟨_, hns.walk_subset hs hwalk, rfl⟩
  exact List.ne_nil_of_mem href

theorem mem_levels_query_iff {q : Sql.Query} {n : Nat} {level : Level} :
    level ∈ Levels.query l.limitComma q n ↔
      level = ⟨q, n⟩ ∨ level ∈ (Levels.query l.limitComma q n).tail := by
  cases q
  exact List.mem_cons

theorem gives_of_run_queryParts {q : Sql.Query} {p r : Progress} (hp : l.At p) {parts : QueryParts}
    (hrun : (queryParts q).run l.setting p = (.ok parts, r)) :
    Level.Gives l ⟨q, p.seen⟩ parts.select := by
  refine ⟨parts.select, p, r, hp, rfl, ?_, rfl, rfl, rfl⟩
  rw [query_eq, run_bind, hrun]
  rfl

namespace QueryParts

variable {parts : QueryParts} {s : Select}

theorem mem_limitedIn_body (h : s ∈ limitedIn (Node.select parts.body).walk) :
    s ∈ limitedIn parts.walk := by
  simp only [walk, limitedIn_append, List.mem_append, h, true_or, or_true]

/-- What stands in the clauses of a query stands in one of its parts. -/
theorem mem_limitedIn_clause {k : Clause} (h : s ∈ limitedIn (clauseWalk parts.select k)) :
    s ∈ limitedIn parts.walk := by
  have hbody (h : s ∈ limitedIn (clauseWalk parts.body k)) : s ∈ limitedIn parts.walk :=
    mem_limitedIn_body (mem_limitedIn_select.mpr (.inr (.inr ⟨k, h⟩)))
  obtain ⟨ctes, body, keys, offset, limit, quantity⟩ := parts
  -- each clause comes from the parts around the body or, if they leave it out, from the body itself
  cases k with
  | ctes =>
    simp only [clauseWalk, select] at h
    split at h
    · exact hbody h
    · simp [walk, h]
  | orderBy =>
    simp only [clauseWalk, select] at h
    split at h
    · exact hbody h
    · simp [walk, h]
  | limit =>
    simp only [clauseWalk, select, walkOption_or] at h
    split at h
    · simp [walk, h]
    · split at h
      · simp [walk, h]
      · exact hbody h
  | offset =>
    simp only [clauseWalk, select, walkOption_or] at h
    split at h
    · simp [walk, h]
    · exact hbody h

/-- A limit of the body that holds placeholders does not lose its place. -/
theorem Kept.limit_eq (hkept : parts.Kept) (hrefs : refs (clauseWalk parts.body .limit) ≠ []) :
    parts.select.limit = parts.body.limit := by
  have hlimit : parts.limit = none := Option.not_isSome_iff_eq_none.mp fun h =>
    hrefs (hkept.limit h)
  have hquantity : parts.quantity = none := Option.not_isSome_iff_eq_none.mp fun h =>
    hrefs (hkept.quantity h).2
  simp [select, hlimit, hquantity]

/-- An offset of the body that holds placeholders does not lose its place. -/
theorem Kept.offset_eq (hkept : parts.Kept) (hrefs : refs (clauseWalk parts.body .offset) ≠ []) :
    parts.select.offset = parts.body.offset := by
  have hoffset : parts.offset = none := Option.not_isSome_iff_eq_none.mp fun h =>
    hrefs (hkept.offset h)
  simp [select, hoffset]

/-- Clauses of the body that hold placeholders do not lose their place. -/
theorem Kept.clauseWalk_eq {k : Clause} (hkept : parts.Kept)
    (hrefs : refs (clauseWalk parts.body k) ≠ []) :
    clauseWalk parts.select k = clauseWalk parts.body k := by
  -- what the body brings is replaced only by what stands around it
  cases k with
  | ctes =>
    cases h : parts.ctes.isEmpty with
    | true => simp [clauseWalk, select, h]
    | false => exact absurd (hkept.ctes h) hrefs
  | orderBy =>
    cases h : parts.keys.isEmpty with
    | true => simp [clauseWalk, select, h]
    | false => exact absurd (hkept.orderBy h) hrefs
  | limit => exact congrArg walkOption (hkept.limit_eq hrefs)
  | offset => exact congrArg walkOption (hkept.offset_eq hrefs)

/-- A query with a mark as count in one of the parts is in the query too, apart from the body. -/
theorem Kept.mem_select (hkept : parts.Kept) (hs : s ∈ limitedIn parts.walk) {i : Nat}
    (hlimit : s.limit = some (l.mark i)) :
    s = parts.body ∨ s ∈ limitedIn (Node.select parts.select).walk := by
  have hclause (k : Clause) (hk : s ∈ limitedIn (clauseWalk parts.select k)) :
      s ∈ limitedIn (Node.select parts.select).walk :=
    mem_limitedIn_select.mpr (.inr (.inr ⟨k, hk⟩))
  -- the level stands in one of the parts of the query
  simp only [walk, limitedIn_append, List.mem_append] at hs
  rcases hs with hs | hs | hs | (hs | hs) | hs
  · have h : parts.ctes.isEmpty = false := by
      rw [Bool.eq_false_iff]
      intro h
      simp [List.isEmpty_iff.mp h, walkNamed] at hs
    exact .inr (hclause .ctes (by simpa [clauseWalk, select, h] using hs))
  · -- in the body: it is the body itself, or stands in its core or in one of its clauses
    rcases mem_limitedIn_select.mp hs with ⟨rfl, -⟩ | hcore | ⟨k, hk⟩
    · exact .inl rfl
    · exact .inr (mem_limitedIn_select.mpr (.inr (.inl hcore)))
    · have hrefs := refs_ne_nil (clauseWalk_closed parts.body k) hk hlimit
      exact .inr (hclause k (hkept.clauseWalk_eq hrefs ▸ hk))
  · have h : parts.keys.isEmpty = false := by
      rw [Bool.eq_false_iff]
      intro h
      simp [List.isEmpty_iff.mp h] at hs
    exact .inr (hclause .orderBy (by simpa [clauseWalk, select, h] using hs))
  · cases hoffset : parts.offset with
    | none => simp [hoffset] at hs
    | some n => exact .inr (hclause .offset (by simpa [clauseWalk, select, hoffset] using hs))
  · -- as a count behind LIMIT, which a quantity behind FETCH would have replaced
    have hrefs := refs_ne_nil (walkOption_closed parts.limit) hs hlimit
    have hquantity : parts.quantity = none := Option.not_isSome_iff_eq_none.mp fun h =>
      hrefs (hkept.quantity h).1
    cases hcount : parts.limit with
    | none => simp [hcount] at hs
    | some n =>
      exact .inr (hclause .limit (by simpa [clauseWalk, select, hquantity, hcount] using hs))
  · -- as a quantity behind FETCH, which is the limit then
    cases hquantity : parts.quantity with
    | none => simp [hquantity] at hs
    | some n => exact .inr (hclause .limit (by simpa [clauseWalk, select, hquantity] using hs))

/-- The operands of the body with marks stay where they are. -/
theorem Kept.keeps_select {level : Level} (hkept : parts.Kept)
    (hkeeps : level.Keeps l l.limitComma parts.body) :
    level.Keeps l l.limitComma parts.select := by
  constructor
  · have hrefs : refs (clauseWalk parts.body .limit) ≠ [] := by
      rw [clauseWalk, hkeeps.limit, refs_walkOption_mark]
      exact List.cons_ne_nil _ _
    rw [hkept.limit_eq hrefs, hkeeps.limit]
  · intro hsome
    have hrefs : refs (clauseWalk parts.body .offset) ≠ [] := by
      rw [clauseWalk, hkeeps.offset hsome, refs_walkOption_mark]
      exact List.cons_ne_nil _ _
    rw [hkept.offset_eq hrefs, hkeeps.offset hsome]

end QueryParts

/-- A query without a LIMIT of its own has the operands of its body. -/
theorem operands_of_not_hasLimit {q : Sql.Query} {n : Nat} (hhas : ¬ Level.hasLimit ⟨q, n⟩)
    {p r : Progress} {parts : QueryParts} (hrun : (queryParts q).run l.setting p = (.ok parts, r)) :
    parts.select.limit = parts.body.limit ∧ parts.select.offset = parts.body.offset := by
  obtain ⟨-, -, hlimit, hoffset, hquantity⟩ := ensures_queryParts q _ _ _ _ hrun
  simp only [Level.hasLimit, Bool.or_eq_true, not_or] at hhas
  constructor <;> simp_all [QueryParts.select]

theorem levelled_queryParts_of (q : Sql.Query)
    (hctes : Levelled l [] walkNamed (namedQueries q.ctes) (.namedQueries q.ctes)
      (Levels.namedQueries l.limitComma q.ctes))
    (hbody : Levelled l [] (fun s => (Node.select s).walk) (setExpr q.body)
      (Tally.setExpr q.body).whole (Levels.setExpr l.limitComma q.body))
    (horderBy : Levelled l [] walkAll (orderKeys q.orderBy) (.orderKeys q.orderBy)
      (Levels.orderKeys l.limitComma q.orderBy))
    (hlimit : Levelled l [] walkOption (exprOption q.limit) (.exprOption q.limit)
      (Levels.exprOption l.limitComma q.limit))
    (hoffset : Levelled l [] walkOption (exprOption q.offset) (.exprOption q.offset)
      (Levels.exprOption l.limitComma q.offset))
    (hquantity : Levelled l [] walkOption (exprOption q.fetchQuantity)
      (.exprOption q.fetchQuantity) (Levels.exprOption l.limitComma q.fetchQuantity)) :
    Levelled l [] QueryParts.walk (queryParts q) (QueryParts.tally q)
      (fun n => (Levels.query l.limitComma q n).tail) := by
  obtain ⟨recursive, ctes, body, orderBy, limit, offset, rows, fetch, quantity, tail⟩ := q
  refine .bind hctes fun ctes => .bind hbody fun body => .bind horderBy fun keys => ?_
  refine .afterRead quiet_read fun setting hsetting => ?_
  -- the setting that is read is the one of the run
  subst hsetting
  refine .bind (hoffset.inOrder hlimit) fun operands => hquantity.map fun quantity => ?_
  simp [QueryParts.walk]

/-- The queries in a query are its own and those of its parts. -/
theorem given_query {q : Sql.Query} {p r : Progress} (hp : l.At p) {parts : QueryParts}
    (hlost : (Tally.query q).whole.lost = 0)
    (hrun : (queryParts q).run l.setting p = (.ok parts, r))
    (hparts : Accounts l [] (Levels.query l.limitComma q p.seen).tail parts.walk) :
    ∀ s ∈ limitedIn (Node.select parts.select).walk,
      FromLevel l (Levels.query l.limitComma q p.seen) s := by
  have hlevels {s : Select} (h : s ∈ limitedIn parts.walk) :
      FromLevel l (Levels.query l.limitComma q p.seen) s :=
    ((hparts.given s h).resolve_left List.not_mem_nil).mono fun _ => List.mem_of_mem_tail
  intro s hs
  rcases mem_limitedIn_select.mp hs with ⟨rfl, hlimited⟩ | hcore | ⟨k, hk⟩
  · by_cases hhas : Level.hasLimit ⟨q, p.seen⟩
    · -- the LIMIT is the one of the query
      exact ⟨_, mem_levels_query_iff.mpr (.inl rfl), hhas, hlost, gives_of_run_queryParts hp hrun⟩
    · -- the query takes over the LIMIT of its body
      obtain ⟨hlimit, hoffset⟩ := operands_of_not_hasLimit hhas hrun
      rw [hlimit, hoffset] at hlimited
      have hbody := mem_limitedIn_select.mpr (.inl ⟨rfl, hlimited⟩)
      exact (hlevels (QueryParts.mem_limitedIn_body hbody)).of_core rfl hlimit hoffset
  · have hbody : s ∈ limitedIn (Node.select parts.body).walk :=
      mem_limitedIn_select.mpr (.inr (.inl hcore))
    exact hlevels (QueryParts.mem_limitedIn_body hbody)
  · exact hlevels (QueryParts.mem_limitedIn_clause hk)

/-- Every level of a query with marks in its LIMIT has its query in the tree. -/
theorem found_query {q : Sql.Query} {p r : Progress} (hp : l.At p) {parts : QueryParts}
    (hlost : (Tally.query q).whole.lost = 0)
    (hrun : (queryParts q).run l.setting p = (.ok parts, r))
    (hparts : Accounts l [] (Levels.query l.limitComma q p.seen).tail parts.walk) :
    ∀ level ∈ Levels.query l.limitComma q p.seen, level.isMarked →
      ∃ s ∈ limitedIn (Node.select parts.select).walk, level.Keeps l l.limitComma s := by
  have hown {level : Level} (hkeeps : level.Keeps l l.limitComma parts.select) :
      ∃ s ∈ limitedIn (Node.select parts.select).walk, level.Keeps l l.limitComma s :=
    ⟨parts.select, mem_limitedIn_select.mpr (.inl ⟨rfl, .inl (by simp [hkeeps.limit])⟩), hkeeps⟩
  intro level hlevel hmarked
  rcases mem_levels_query_iff.mp hlevel with rfl | hlevel
  · exact hown (keeps_of_gives (gives_of_run_queryParts hp hrun) hmarked hlost)
  · -- the query is in one of the parts, and the clauses around the body do not take its place
    obtain ⟨s, hs, hkeeps⟩ := hparts.found level hlevel hmarked
    have hkept := kept_of_run_queryParts hlost hp hrun
    rcases hkept.mem_select hs hkeeps.limit with rfl | hselect
    · exact hown (hkept.keeps_select hkeeps)
    · exact ⟨s, hselect, hkeeps⟩

/-- The levels of a query are the query itself and those of its parts. -/
theorem levelled_query_of {q : Sql.Query}
    (hparts : Levelled l [] QueryParts.walk (queryParts q) (QueryParts.tally q)
      (fun n => (Levels.query l.limitComma q n).tail)) :
    Levelled l [] (fun s => (Node.select s).walk) (query q) (Tally.query q).whole
      (Levels.query l.limitComma q) := by
  intro hlost p hp a r hrun
  obtain ⟨parts, r', hpartsRun, ha⟩ := run_bind_ok (query_eq q ▸ hrun)
  obtain ⟨rfl, rfl⟩ : parts.select = a ∧ r' = r := by simpa using ha
  -- nothing is lost in the parts, and the texts between them hold no placeholder
  have hle := Tally.lost_le_query q
  have hpartsLost : (QueryParts.tally q).lost = 0 := by
    simp only [QueryParts.tally, Tally.lost_add]
    omega
  have hsilent := written_silentAll (q.rows :: q.tail :: q.fetch.toList) (by omega)
  obtain ⟨hat, hseen, haccounts⟩ := hparts hpartsLost p hp _ _ hpartsRun
  refine ⟨hat, ?_, ?_⟩
  · rw [hseen, Tally.written_query, hsilent]
    simp only [QueryParts.tally, Tally.written_add]
    omega
  · exact ⟨List.nil_subset _, fun s hs => .inr (given_query hp hlost hpartsRun haccounts s hs),
      found_query hp hlost hpartsRun haccounts⟩

/-! ## Constructs -/

mutual

theorem levelled_expr (e : Sql.Expr) :
    Levelled l [] Node.walk (expr e) (.expr e) (Levels.expr l.limitComma e) := by
  match e with
  | .column first rest => exact levelled_columnRef _
  | .literal value => exact levelled_literal value
  | .nested inner => exact levelled_expr inner
  | .binary left op right =>
    exact (levelled_expr left).bind fun left => (levelled_expr right).map fun right => by simp
  | .unary op operand => exact (levelled_expr operand).map fun arg => by simp
  | .isNull operand negated => exact (levelled_expr operand).map fun arg => by simp
  | .inList operand items negated =>
    exact (levelled_expr operand).bind fun left => (levelled_exprs items).map fun items => by
      simp
  | .between operand low high negated =>
    exact (levelled_expr operand).bind fun left => (levelled_expr low).bind fun low =>
      (levelled_expr high).map fun high => by simp
  | .like op any operand pattern escape negated =>
    exact (levelled_expr operand).bind fun left => (levelled_expr pattern).map fun pattern => by
      simp
  | .inQuery operand q negated =>
    exact (levelled_expr operand).bind fun test =>
      (levelled_tested (issues_query q).adds (levelled_query q)).map fun found => by simp
  | .exists q negated =>
    exact (levelled_tested (issues_query q).adds (levelled_query q)).map fun found => by simp
  | .subquery q => exact (levelled_query q).map fun s => by simp
  | .cast form operand type =>
    have h : Levelled l [] Node.walk (expr (.cast form operand type)) (.expr operand)
        (Levels.expr l.limitComma operand) :=
      (levelled_expr operand).last fun arg => .afterRead quiet_dialect fun d _ =>
        .pure (by simp)
    cases form with
    | operator => exact h.silent []
    | call keyword format => exact h.silent [format]
  | .case operand bs default =>
    exact (levelled_exprOption operand).bind fun operand => (levelled_branches bs).bind fun bs =>
      (levelled_exprOption default).map fun default => by simp
  | .call name args withinGroup filter nulls w treatment =>
    exact ((levelled_arguments args).bind fun parts => (levelled_orderKeys withinGroup).bind
      fun keys => (levelled_exprOption filter).bind fun filter => (levelled_windowOption w).map
        fun w => by simp [CallParts.walk]).silent _
  | .keywordCall name words args =>
    exact ((levelled_exprs args).map fun args => by
      simp [plainCall]).silent _
  | .unmapped kind text => exact levelled_skip kind text

theorem levelled_exprs (es : List Sql.Expr) :
    Levelled l [] walkAll (exprs es) (.exprs es) (Levels.exprs l.limitComma es) := by
  match es with
  | [] => exact .pure (by simp)
  | e :: es =>
    exact (levelled_expr e).bind fun n => (levelled_exprs es).map fun ns => by simp

theorem levelled_exprOption (e : Option Sql.Expr) :
    Levelled l [] walkOption (exprOption e) (.exprOption e) (Levels.exprOption l.limitComma e) := by
  match e with
  | none => exact .pure (by simp)
  | some e => exact (levelled_expr e).map fun n => by simp

theorem levelled_branches (bs : List Sql.Branch) :
    Levelled l [] walkBranches (branches bs) (.branches bs) (Levels.branches l.limitComma bs) := by
  match bs with
  | [] => exact .pure (by simp)
  | ⟨condition, result⟩ :: bs =>
    exact (levelled_expr condition).bind fun condition => (levelled_expr result).bind fun result =>
      (levelled_branches bs).map fun bs => by simp

theorem levelled_arguments (args : Sql.Arguments) :
    Levelled l [] CallParts.walk (arguments args) (.arguments args)
      (Levels.arguments l.limitComma args) := by
  match args with
  | .none => exact .pure (by simp [CallParts.walk])
  | .query q => exact (levelled_query q).map fun s => by simp [CallParts.walk]
  | .list treatment items clauses =>
    exact (levelled_argumentItems items).bind fun ⟨args, star⟩ =>
      (levelled_argumentClauses clauses).map fun keys => by simp [CallParts.walk]

theorem levelled_argumentItems (as : List Sql.Argument) :
    Levelled l [] (fun x => walkAll x.1) (argumentItems as) (.argumentItems as)
      (Levels.argumentItems l.limitComma as) := by
  match as with
  | [] => exact .pure (by simp)
  | .value label value :: as =>
    refine Levelled.silent ?_ [label]
    exact (levelled_expr value).bind fun n => (levelled_argumentItems as).last fun ⟨ns, star⟩ =>
      .pure (by simp)
  | .star text :: as =>
    refine Levelled.silent ?_ [text]
    exact (levelled_argumentItems as).last fun ⟨ns, star⟩ => .pure (by simp)
  | .labelled text :: as =>
    exact (levelled_skip _ text).bind fun n => (levelled_argumentItems as).last fun ⟨ns, star⟩ =>
      .pure (by simp)

theorem levelled_argumentClauses (cs : List Sql.ArgumentClause) :
    Levelled l [] walkAll (argumentClauses cs) (.argumentClauses cs)
      (Levels.argumentClauses l.limitComma cs) := by
  match cs with
  | [] => exact .pure (by simp)
  | .orderBy items :: cs =>
    exact (levelled_orderKeys items).bind fun keys => (levelled_argumentClauses cs).map fun ns => by
      simp
  | .silent text :: cs => exact (levelled_argumentClauses cs).silent [text]
  | .unmapped kind text :: cs =>
    exact (levelled_skip kind text).bind fun n => (levelled_argumentClauses cs).map fun ns => by
      simp

theorem levelled_orderKeys (os : List Sql.OrderItem) :
    Levelled l [] walkAll (orderKeys os) (.orderKeys os) (Levels.orderKeys l.limitComma os) := by
  match os with
  | [] => exact .pure (by simp)
  | ⟨key, direction⟩ :: os =>
    exact ((levelled_expr key).bind fun n => (levelled_orderKeys os).map fun ns => by
      simp).silent [direction]

theorem levelled_window (w : Sql.WindowSpec) :
    Levelled l [] Window.walk (window w) (.window w) (Levels.window l.limitComma w) := by
  match w with
  | ⟨name, before, reference, partitionBy, orderBy, frame, startOffset, stopOffset⟩ =>
    refine .bind (levelled_exprs partitionBy) fun partitionBy => ?_
    refine .bind (levelled_orderKeys orderBy) fun orderBy => ?_
    refine .bind (levelled_exprOption startOffset) fun startOffset => ?_
    refine .last (levelled_exprOption stopOffset) fun stopOffset => ?_
    exact .afterRead quiet_dialect fun d _ => .pure (by simp)

theorem levelled_windowOption (w : Option Sql.WindowSpec) :
    Levelled l [] walkOver (windowOption w) (.windowOption w)
      (Levels.windowOption l.limitComma w) := by
  match w with
  | none => exact .pure (by simp)
  | some w => exact (levelled_window w).map fun w => by simp

theorem levelled_windows (ws : List Sql.WindowSpec) :
    Levelled l [] walkWindows (windows ws) (.windows ws) (Levels.windows l.limitComma ws) := by
  match ws with
  | [] => exact .pure (by simp)
  | w :: ws =>
    exact (levelled_window w).bind fun w => (levelled_windows ws).map fun ws => by simp

theorem levelled_query (q : Sql.Query) :
    Levelled l [] (fun s => (Node.select s).walk) (query q) (Tally.query q).whole
      (Levels.query l.limitComma q) := by
  match q with
  | ⟨_, ctes, body, orderBy, limit, offset, _, _, quantity, _⟩ =>
    exact levelled_query_of (levelled_queryParts_of _ (levelled_namedQueries ctes)
      (levelled_setExpr body) (levelled_orderKeys orderBy) (levelled_exprOption limit)
      (levelled_exprOption offset) (levelled_exprOption quantity))

theorem levelled_namedQueries (cs : List Sql.Cte) :
    Levelled l [] walkNamed (namedQueries cs) (.namedQueries cs)
      (Levels.namedQueries l.limitComma cs) := by
  match cs with
  | [] => exact .pure (by simp)
  | ⟨tableAlias, materialized, q, source⟩ :: cs =>
    refine Levelled.silent ?_ [tableAlias.columns, materialized, source]
    exact .afterRead (quiet_ident _) fun name _ => (levelled_query q).bind fun s =>
      (levelled_namedQueries cs).map fun ns => by simp

theorem levelled_setExpr (b : Sql.SetExpr) :
    Levelled l [] (fun s => (Node.select s).walk) (setExpr b) (Tally.setExpr b).whole
      (Levels.setExpr l.limitComma b) := by
  match b with
  | .select s => exact levelled_select s
  | .query q => exact levelled_query q
  | .operation op quantifier left right =>
    refine .bind (levelled_setExpr left) fun left => .map (levelled_setExpr right) fun right => ?_
    -- the sides stand before what is inside of them
    intro s
    simp [Select.empty, Select.limited, limitedSide]
    grind
  | .values explicit items =>
    exact (levelled_rows items).map fun rows => by
      simp [Select.empty, Select.limited, limitedSide]
  | .unmapped kind text =>
    exact (levelled_skip kind text).last fun node => .afterRead (quiet_target_eq none node)
      fun n hn => .pure (by simp [Select.empty, Select.limited, limitedSide, hn])

theorem levelled_rows (items : List (List Sql.Expr)) :
    Levelled l [] walkAll (rows items) (.rows items) (Levels.rows l.limitComma items) := by
  match items with
  | [] => exact .pure (by simp)
  | row :: rest =>
    exact (levelled_exprs row).bind fun items => (levelled_rows rest).map fun ns => by
      simp

theorem levelled_select (s : Sql.Select) :
    Levelled l [] (fun s => (Node.select s).walk) (select s) (.select s)
      (Levels.select l.limitComma s) := by
  match s with
  | ⟨_, distinctOn, top, projection, into, source, views, condition, _, groupBy, clustering, having,
      ws, _, qualify⟩ =>
    refine Levelled.silent ?_ [into, clustering]
    refine .bind (levelled_mapM_skip _ top.toList) fun top => ?_
    refine .bind (levelled_exprs distinctOn) fun distinctOn => ?_
    refine .bind (levelled_selectItems projection) fun targets => ?_
    refine .bind (levelled_tables ⟨[], []⟩ source) fun source => ?_
    refine .bind (levelled_mapM_skip _ views) fun views => ?_
    refine .bind (levelled_exprOption condition) fun condition => ?_
    refine .afterRead (quiet_noteIf _ _) fun _ _ => ?_
    refine .bind (levelled_exprs groupBy) fun groupBy => ?_
    refine .bind (levelled_exprOption having) fun having => ?_
    refine .last ((levelled_windows ws).inOrder (levelled_mapM_skip _ qualify.toList)) ?_
    rintro ⟨ws, qualify⟩
    refine .pure ?_
    -- the skipped clauses join the conditions of the FROM clause: only the order differs
    intro s
    simp only [Select.walk, Select.limited, Select.empty, Sources.walk, walkNamed, walkSide,
      walkAll, walkOption, walkAll_append, limitedSide, Node.walk, limitedIn_cons,
      Node.ownLimited, limitedIn_append, limitedIn_nil, List.mem_append, List.nil_append]
    grind

theorem levelled_selectItems (is : List Sql.SelectItem) :
    Levelled l [] walkAll (selectItems is) (.selectItems is)
      (Levels.selectItems l.limitComma is) := by
  match is with
  | [] => exact .pure (by simp)
  | .value value :: is =>
    exact (levelled_expr value).bind fun n => .afterRead (quiet_target_eq _ n) fun n hn =>
      (levelled_selectItems is).map fun ns => by simp [hn]
  | .aliased value aliasName :: is =>
    exact (levelled_expr value).bind fun n => .afterRead (quiet_ident _) fun _ _ =>
      .afterRead (quiet_target_eq _ n) fun n hn =>
        (levelled_selectItems is).map fun ns => by simp [hn]
  | .star :: is =>
    exact .afterRead (quiet_starRef_eq []) fun n hn => .afterRead (quiet_target_eq _ n)
      fun n hn' => (levelled_selectItems is).map fun ns => by simp [hn, hn']
  | .qualifiedStar name :: is =>
    exact .afterRead (quiet_starRef_eq name) fun n hn => .afterRead (quiet_target_eq _ n)
      fun n hn' => (levelled_selectItems is).map fun ns => by simp [hn, hn']

theorem levelled_tables (acc : Sources) (ts : List Sql.TableWithJoins) :
    Levelled l acc.walk Sources.walk (tables acc ts) (.tables ts)
      (Levels.tables l.limitComma ts) := by
  match ts with
  | [] => exact .pure fun s => Iff.rfl
  | t :: ts => exact (levelled_table acc t).chain fun acc => levelled_tables acc ts

theorem levelled_table (acc : Sources) (t : Sql.TableWithJoins) :
    Levelled l acc.walk Sources.walk (table acc t) (.table t) (Levels.table l.limitComma t) := by
  match t with
  | ⟨relation, js⟩ => exact (levelled_factor acc relation).chain fun acc => levelled_joins acc js

theorem levelled_joins (acc : Sources) (js : List Sql.Join) :
    Levelled l acc.walk Sources.walk (joins acc js) (.joins js) (Levels.joins l.limitComma js) := by
  match js with
  | [] => exact .pure fun s => Iff.rfl
  | ⟨everywhere, kind, relation, shared, on⟩ :: js =>
    rw [joins, Tally.joins, Levels.joins]
    refine Levelled.silent ?_ (Tally.joins.matchCondition kind).toList
    refine (levelled_factor acc relation).chain fun acc' => ?_
    have hmark : limitedIn (Sources.walk ⟨markJoin kind acc.items.length acc'.items,
        acc'.conditions⟩) = limitedIn acc'.walk := by simp [Sources.walk]
    dsimp only
    cases unmappedJoin? kind with
    | some construct =>
      -- the condition is not converted at all
      refine .dropped (.afterRead (quiet_note construct) fun _ _ => ?_)
      exact (levelled_joins _ js).congr fun s => by rw [hmark]
    | none =>
      refine .bind (levelled_exprOption on) fun condition => .afterRead (quiet_noteIf _ _)
        fun _ _ => (levelled_joins _ js).congr ?_
      intro s
      cases condition <;> simp [Sources.walk]

theorem levelled_factor (acc : Sources) (f : Sql.TableFactor) :
    Levelled l acc.walk Sources.walk (factor acc f) (.factor f) (Levels.factor l.limitComma f) := by
  match f with
  | .table name before tableAlias after =>
    refine Levelled.silent (.after (u := 0) (quiet_tableRef name _) (fun ref _ => ?_) rfl) _
    exact .pure (by simp [Sources.walk])
  | .derived lateral q tableAlias =>
    refine Levelled.silent ?_ _
    refine (levelled_query q).last fun s => .afterRead quiet_dialect fun d _ => .pure ?_
    intro a
    simp [Sources.walk]
    grind
  | .nestedJoin inner tableAlias => exact (levelled_table acc inner).silent _
  | .unmapped kind text =>
    have h : Levelled l [] walkAll (paramsIn text) (.skipped text) .none :=
      .of_adds (adds_paramsIn text) (.after fun d => ensures_params_limited _)
    exact .afterRead (quiet_note kind) fun _ _ => h.map fun params => by
      simp [Sources.walk]

end

end Conversion

end TypedSql.Canonical
