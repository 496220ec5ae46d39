import TypedSql.Proofs.Conversion.LevelRuns
import TypedSql.Proofs.Conversion.Numbering

/-!
# Operands of a LIMIT

Whether the queries of a converted MySQL statement keep the placeholders of their LIMIT apart. The
form of a LIMIT is one flag for the whole statement, so a level keeps its own placeholders exactly
if it has a single one or its form is the one that the flag tells.

- **Statements**: the queries of an INSERT, an UPDATE and a DELETE
- **Operands**: which levels keep their placeholders
-/

namespace TypedSql.Canonical

namespace Ledger

/-- The ledger of a statement of a script. -/
def ofStatement (s : Sql.ScriptStatement) : Ledger :=
  ⟨offsetsOf "?" s.placeholders, s.start, s.limitComma⟩

end Ledger

namespace Conversion

variable {l : Ledger}

/-! ## Statements -/

theorem levelled_assignments (as : List Sql.Assignment) :
    Levelled l [] walkAll (assignments as) (.assignments as)
      (Levels.assignments l.limitComma as) := by
  induction as with
  | nil => exact .pure (by simp)
  | cons a as ih =>
    cases a with
    | column name value =>
      exact .after (quiet_lastIdent name) (fun s _ => (levelled_expr value).bind fun n =>
        .afterRead (quiet_target_eq _ n) fun n' hn => ih.map fun ns => by simp [hn]) rfl
    | tuple text =>
      exact (levelled_skip _ text).bind fun n => .afterRead (quiet_target_eq _ n) fun n' hn =>
        ih.map fun ns => by simp [hn]

theorem levelled_onInsert (o : Option Sql.OnInsert) :
    Levelled l [] (fun x => walkAll x.1 ++ walkOption x.2) (onInsert o) (.onInsert o)
      (Levels.onInsert l.limitComma o) := by
  match o with
  | some (.duplicateKeyUpdate as) => exact (levelled_assignments as).map fun targets => by simp
  | some (.conflictUpdate target as condition) =>
    refine Levelled.silent ?_ [target]
    exact (levelled_assignments as).bind fun targets => (levelled_exprOption condition).map
      fun condition => by simp
  | some (.conflictNothing target) =>
    have h : Levelled l [] (fun x => walkAll x.1 ++ walkOption x.2)
        (onInsert (some (.conflictNothing target))) 0 .none := .pure (by simp)
    -- the target that is passed over brings nothing, so the count stays zero
    have hsilent := h.silent [target]
    rwa [Tally.zero_add] at hsilent
  | none => exact .pure (by simp)

theorem levelled_insertSource (o : Option Sql.Query) :
    Levelled l [] (fun s => (Node.select s).walk) (insertSource o) (.insertSource o)
      (Levels.insertSource l.limitComma o) := by
  match o with
  | some q => exact levelled_query q
  | none => exact .pure (by simp [Select.empty, Select.limited, limitedSide])

@[simp] theorem limitedIn_walkAll_columns (columns : List Sql.Ident) (f : Sql.Ident → String)
    (location : Nat) :
    limitedIn (walkAll (columns.map fun c => .target (some (f c)) none location)) = [] := by
  induction columns with
  | nil => rfl
  | cons c cs ih => simpa using ih

theorem levelled_insert (i : Sql.Insert) :
    Levelled l [] Node.walk (insert i) (Tally.statement (.insert i))
      (Levels.statement l.limitComma (.insert i)) := by
  refine Levelled.silent ?_ _
  refine .after (quiet_rethrow (quiet_tableRef i.table i.aliasName)) (fun table _ => ?_) rfl
  refine .afterRead quiet_dialect fun d _ => .afterRead quiet_read fun setting _ => ?_
  exact (levelled_insertSource i.source).bind fun source =>
    (levelled_onInsert i.onInsert).bind fun ⟨targets, condition⟩ =>
      (levelled_selectItems i.returning).map fun returning => by simp

theorem levelled_tableOption (acc : Sources) (o : Option Sql.TableWithJoins) :
    Levelled l acc.walk Sources.walk (tableOption acc o) (.tableOption o)
      (Levels.tableOption l.limitComma o) := by
  match o with
  | some t => exact levelled_table acc t
  | none => exact .pure fun s => Iff.rfl

/-- The target of a statement holds no query. -/
theorem limitedIn_walk_target {s : Sources} {ref : TableRef} {items : List Node}
    (h : s.items = .table ref :: items) :
    limitedIn s.walk = limitedIn (walkAll items) ++ limitedIn (walkAll s.conditions) := by
  simp [Sources.walk, h]

theorem levelled_update (u : Sql.Update) :
    Levelled l [] Node.walk (update u) (Tally.statement (.update u))
      (Levels.statement l.limitComma (.update u)) := by
  refine Levelled.silent ?_ [u.opening]
  refine .bind (levelled_table ⟨[], []⟩ u.table) fun source₁ => ?_
  refine .bind (levelled_assignments u.assignments) fun targets => ?_
  -- the tables of the FROM clause are added to the first ones, which the assignments stand after
  have hsource : Levelled l ([] ++ source₁.walk ++ walkAll targets)
      (fun source₂ => walkAll targets ++ Sources.walk source₂) (tableOption source₁ u.source)
      (.tableOption u.source) (Levels.tableOption l.limitComma u.source) :=
    (levelled_tableOption source₁ u.source).frame.congr fun s => by simp [or_comm]
  refine .chain hsource fun source₂ => ?_
  refine .bind (levelled_exprOption u.condition) fun condition => ?_
  refine .last (levelled_selectItems u.returning) fun returning => ?_
  split
  · rename_i ref items hitems
    refine .pure fun s => ?_
    simp only [Node.walk, Update.walk, limitedIn_cons, Node.ownLimited, limitedIn_append,
      limitedIn_walk_target hitems, List.mem_append, List.nil_append]
    grind
  · exact .throw

theorem levelled_delete (d : Sql.Delete) :
    Levelled l [] Node.walk (delete d) (Tally.statement (.delete d))
      (Levels.statement l.limitComma (.delete d)) := by
  refine .afterRead (quiet_noteIf _ _) fun _ _ => ?_
  refine .chain (levelled_tables ⟨[], []⟩ d.source) fun source₁ => ?_
  refine .chain (levelled_tables source₁ d.others) fun source₂ => ?_
  split
  · -- the target is checked before the remaining clauses are converted
    rename_i ref items hitems
    refine .bind (levelled_exprOption d.condition) fun condition => ?_
    refine .bind (levelled_orderKeys d.orderBy) fun keys => ?_
    refine .bind (levelled_exprOption d.limit) fun limit => ?_
    refine .map (levelled_selectItems d.returning) fun returning => ?_
    intro s
    simp only [Node.walk, Delete.walk, limitedIn_cons, Node.ownLimited, limitedIn_append,
      limitedIn_walk_target hitems, List.mem_append, List.nil_append]
  · exact .throw

/-- The queries of a converted statement are those of its levels. -/
theorem accounts_of_run_statement {s : Sql.Statement} {p q : Progress} {n : Node} (hp : l.At p)
    (hlost : (Tally.statement s).lost = 0)
    (hrun : (statement s).run l.setting p = (.ok n, q)) (hquery : n.isQuery = true) :
    Accounts l [] (Levels.statement l.limitComma s p.seen) n.walk := by
  have hresolve (h : Levelled l [] Node.walk (statement s) (Tally.statement s)
      (Levels.statement l.limitComma s)) :
      Accounts l [] (Levels.statement l.limitComma s p.seen) n.walk :=
    (h hlost p hp n q hrun).2.2
  obtain ⟨x, rfl⟩ | ⟨x, rfl⟩ | ⟨x, rfl⟩ | ⟨x, rfl⟩ := statement_of_isQuery hrun hquery
  · exact hresolve ((levelled_query x).map fun _ _ => Iff.rfl)
  · exact hresolve (levelled_insert x)
  · exact hresolve (levelled_update x)
  · exact hresolve (levelled_delete x)

/-- The conversion of a statement starts with all marks of its text. -/
theorem accounts_of_convert {s : Sql.ScriptStatement} {c : Converted}
    (hconvert : convert .mysql s = .ok c) (hquery : c.node.isQuery = true)
    (hlost : (Tally.statement s.tree).lost = 0) :
    Accounts (.ofStatement s) [] (Levels.statement s.limitComma s.tree 0) c.node.walk := by
  obtain ⟨q, hrun⟩ := exists_run_of_convert hconvert
  have hstart : (Ledger.ofStatement s).At (.start s.placeholders) := rfl
  exact accounts_of_run_statement hstart hlost hrun hquery

end Conversion

/-! ## Operands -/

/-- In a statement that loses no placeholder, every level whose LIMIT has placeholders as operands
has its query in the tree. There they are the count and the offset that the form of the LIMIT tells,
exactly if there is no offset, or that form is the one of the flag of the statement. The tree has no
other queries with a LIMIT than those of the levels. -/
theorem limit_operands_kept_iff (s : Sql.ScriptStatement) (c : Converted)
    (hconvert : convert .mysql s = .ok c) (hquery : c.node.isQuery = true)
    (hlost : (Tally.statement s.tree).lost = 0) :
    (∀ level ∈ Levels.statement s.limitComma s.tree 0, level.isMarked →
      ∃ a ∈ c.node.limited, ∀ comma : Bool, level.Keeps (.ofStatement s) comma a ↔
        level.query.offset = none ∨ comma = s.limitComma) ∧
    ∀ a ∈ c.node.limited, ∃ level ∈ Levels.statement s.limitComma s.tree 0,
      level.hasLimit ∧ level.Gives (.ofStatement s) a ∧
        (level.isMarked → level.Keeps (.ofStatement s) s.limitComma a) := by
  have haccounts := Conversion.accounts_of_convert hconvert hquery hlost
  constructor
  · intro level hlevel hmarked
    obtain ⟨a, ha, hkeeps⟩ := haccounts.found level hlevel hmarked
    exact ⟨a, ha, hkeeps.iff_form⟩
  · intro a ha
    obtain ⟨level, hlevel, hhas, hkept, hgives⟩ :=
      -- a level is one of the statement itself, since nothing stands around it
      (haccounts.given a ha).resolve_left List.not_mem_nil
    exact ⟨level, hlevel, hhas, hgives, fun hmarked =>
      Conversion.keeps_of_gives hgives hmarked hkept⟩

theorem limit_operands_kept_comma :
    ∃ s c, (Sql.Script.parse .mysql none
        "SELECT a FROM (SELECT a FROM t LIMIT ?, ?) AS x LIMIT ?").statements = [s] ∧
      convert .mysql s = .ok c ∧ (Levels.statement s.limitComma s.tree 0).length = 2 ∧
      (∀ level ∈ Levels.statement s.limitComma s.tree 0,
        ∃ a ∈ c.node.limited, level.Keeps (.ofStatement s) true a) ∧
      ∀ a ∈ c.node.limited, ∃ level ∈ Levels.statement s.limitComma s.tree 0,
        level.Gives (.ofStatement s) a ∧ level.Keeps (.ofStatement s) true a := by
  -- the form of the LIMIT and the levels are read off the parsed statement once
  obtain ⟨s, c, hs, hc, hcheck⟩ := Conversion.exists_converted .mysql
    "SELECT a FROM (SELECT a FROM t LIMIT ?, ?) AS x LIMIT ?"
    (fun s c => c.node.isQuery && (Tally.statement s.tree).lost = 0 && s.limitComma &&
      (Levels.statement s.limitComma s.tree 0).length = 2 &&
        (Levels.statement s.limitComma s.tree 0).all Level.isMarked) (by decide +kernel)
  simp only [Bool.and_eq_true, decide_eq_true_eq, List.all_eq_true] at hcheck
  obtain ⟨⟨⟨⟨hquery, hlost⟩, hcomma⟩, hlength⟩, hmarked⟩ := hcheck
  obtain ⟨hfound, hgiven⟩ := limit_operands_kept_iff s c hc hquery hlost
  refine ⟨s, c, hs, hc, hlength, fun level hlevel => ?_, fun a ha => ?_⟩
  · obtain ⟨a, ha, hiff⟩ := hfound level hlevel (hmarked level hlevel)
    exact ⟨a, ha, (hiff true).mpr (.inr hcomma.symm)⟩
  · obtain ⟨level, hlevel, -, hgives, hkeeps⟩ := hgiven a ha
    exact ⟨level, hlevel, hgives, hcomma ▸ hkeeps (hmarked level hlevel)⟩

/-- A comma in the LIMIT of an outer query exchanges the operands of an inner one: no query of the
tree has the operands of the inner LIMIT as they are written. -/
theorem not_limit_operands_kept_inner :
    ∃ s c, (Sql.Script.parse .mysql none
        "SELECT a FROM (SELECT a FROM t LIMIT ? OFFSET ?) AS x LIMIT ?, ?").statements = [s] ∧
      convert .mysql s = .ok c ∧
      ∃ level ∈ Levels.statement s.limitComma s.tree 0, level.isMarked ∧ level.beforeLimit = 0 ∧
        (∃ a ∈ c.node.limited, level.Keeps (.ofStatement s) true a) ∧
          ∀ a ∈ c.node.limited, ¬ level.Keeps (.ofStatement s) false a := by
  obtain ⟨s, c, hs, hc, hcheck⟩ := Conversion.exists_converted .mysql
    "SELECT a FROM (SELECT a FROM t LIMIT ? OFFSET ?) AS x LIMIT ?, ?"
    (fun s c => c.node.isQuery && (Tally.statement s.tree).lost = 0 && s.limitComma &&
      (Levels.statement s.limitComma s.tree 0).any (fun level => level.isMarked &&
        level.beforeLimit = 0) &&
      c.node.limited.all fun a => !(Conversion.refs (walkOption a.limit)).any (·.number = 1))
    (by decide +kernel)
  simp only [Bool.and_eq_true, decide_eq_true_eq, List.any_eq_true, List.all_eq_true,
    Bool.not_eq_true', List.any_eq_false] at hcheck
  obtain ⟨⟨⟨⟨hquery, hlost⟩, hcomma⟩, level, hlevel, hmarked, hbefore⟩, hcounts⟩ := hcheck
  have haccounts := Conversion.accounts_of_convert hc hquery hlost
  obtain ⟨a, ha, hkeeps⟩ := haccounts.found level hlevel hmarked
  have hflag : (Ledger.ofStatement s).limitComma = true := hcomma
  rw [hflag] at hkeeps
  refine ⟨s, c, hs, hc, level, hlevel, hmarked, hbefore, ⟨a, ha, hkeeps⟩, fun b hb hwritten => ?_⟩
  -- the first placeholder of the text would be the count of a query
  have hcount := hcounts b hb
  rw [hwritten.limit, Conversion.refs_walkOption_mark] at hcount
  exact hcount _ (List.mem_singleton_self _) (by simp [Level.countNumber, hbefore, Ledger.ref])

end TypedSql.Canonical
