import TypedSql.Proofs.Analysis.InsertPositions
import TypedSql.Proofs.Conversion.Run

/-!
# Joined updates

An UPDATE of several joined tables may qualify the columns that it assigns to. The conversion keeps
the last part of the name only, and the analysis looks the column up in the first table. So a
qualified assignment is one to the first table, and whether it is one to the table that the
qualifier names depends on the columns that the two tables have.

- **Assignments**: what is left of the assignments of a SET clause
- **Progress**: an UPDATE up to one of its assignments, and what the analysis says of it
- **Placeholders**: what the placeholders that are assigned are taken for
- **Tables**: the table that an assignment is to
-/

namespace TypedSql

open Canonical

/-! ## Assignments -/

/-- An assignment and its canonical form. Only the last part of the name is left. -/
inductive Canonical.Assigns (d : Dialect) : Sql.Assignment → Node → Prop where
  | column {name : Sql.ObjectName} {column : String} {value : Sql.Expr} {n : Node} {location : Nat}
      (h : lastPart? d name = some column) :
      Assigns d (.column name value) (.target (some column) (some n) location)
  | tuple {text : String} {n : Node} {location : Nat} :
      Assigns d (.tuple text) (.target none (some n) location)

namespace Canonical.Conversion

variable {s : Setting} {p q : Progress}

theorem lastPart?_of_run {name : Sql.ObjectName} {part : String}
    (hrun : (lastIdent name).run s p = (.ok part, q)) : lastPart? s.dialect name = some part := by
  rw [lastIdent, run_bind, run_dialect] at hrun
  cases hpart : lastPart? s.dialect name with
  | none => simp [hpart] at hrun
  | some found =>
    simp only [hpart, run_pure, Prod.mk.injEq, Except.ok.injEq] at hrun
    rw [hrun.1]

theorem target_of_run {name : Option String} {value n : Node}
    (hrun : (target name value).run s p = (.ok n, q)) :
    n = .target name (some value) s.fallback := by
  simp only [target, run_bind, run_read, run_pure, Prod.mk.injEq, Except.ok.injEq] at hrun
  exact hrun.1.symm

/-- The assignments of a SET clause are converted one by one. -/
theorem forall₂_assignments (as : List Sql.Assignment) {ns : List Node}
    (hrun : (assignments as).run s p = (.ok ns, q)) : List.Forall₂ (Assigns s.dialect) as ns := by
  induction as generalizing p q ns with
  | nil =>
    simp only [assignments, run_pure, Prod.mk.injEq, Except.ok.injEq] at hrun
    rw [← hrun.1]
    exact .nil
  | cons a as ih =>
    -- whatever an assignment is, the others are converted after it
    have hcons {n : Node} {p : Progress}
        (hrun : (do return n :: (← assignments as) : Conversion (List Node)).run s p = (.ok ns, q))
        (hn : Assigns s.dialect a n) : List.Forall₂ (Assigns s.dialect) (a :: as) ns := by
      obtain ⟨rest, _, hrest, hrun⟩ := run_bind_ok hrun
      simp only [run_pure, Prod.mk.injEq, Except.ok.injEq] at hrun
      rw [← hrun.1]
      exact .cons hn (ih hrest)
    cases a with
    | column name value =>
      obtain ⟨column, _, hname, hrun⟩ := run_bind_ok hrun
      obtain ⟨node, _, -, hrun⟩ := run_bind_ok hrun
      obtain ⟨n, _, hn, hrun⟩ := run_bind_ok hrun
      exact hcons hrun (target_of_run hn ▸ .column (lastPart?_of_run hname))
    | tuple text =>
      obtain ⟨node, _, -, hrun⟩ := run_bind_ok hrun
      obtain ⟨n, _, hn, hrun⟩ := run_bind_ok hrun
      exact hcons hrun (target_of_run hn ▸ .tuple)

/-- A converted UPDATE has the assignments of its statement, in order. -/
theorem exists_update {u : Sql.Update} {n : Node} (hrun : (update u).run s p = (.ok n, q)) :
    ∃ v : Update, n = .update v ∧ List.Forall₂ (Assigns s.dialect) u.assignments v.targets := by
  rw [update] at hrun
  obtain ⟨_, _, -, hrun⟩ := run_bind_ok hrun
  obtain ⟨targets, _, htargets, hrun⟩ := run_bind_ok hrun
  obtain ⟨source, _, -, hrun⟩ := run_bind_ok hrun
  obtain ⟨_, _, -, hrun⟩ := run_bind_ok hrun
  obtain ⟨_, _, -, hrun⟩ := run_bind_ok hrun
  split at hrun
  · simp only [run_pure, Prod.mk.injEq, Except.ok.injEq] at hrun
    exact ⟨_, hrun.1.symm, forall₂_assignments u.assignments htargets⟩
  · simp at hrun

end Canonical.Conversion

/-! ## Progress -/

variable {c : Catalog}

/-- The UPDATE with other assignments and nothing behind them. -/
def Canonical.Update.upTo (v : Update) (targets : List Node) : Update :=
  { v with targets := targets, condition := none, returning := [] }

/-- The analysis of an UPDATE comes to an assignment: there is no error before it. -/
def Canonical.Update.Reaches (c : Catalog) (v : Update) (m : Nat) : Prop :=
  ∃ a, analyze c (.update (v.upTo (v.targets.take m))) = .ok a

/-- The analysis of an UPDATE comes to an assignment and reports its column as unknown, which has
nothing to do with what is assigned. -/
def Canonical.Update.ReportsUnknown (c : Catalog) (v : Update) (m : Nat) (column : String) : Prop :=
  v.Reaches c m ∧ ∃ table,
    analyze c (.update (v.upTo (v.targets.take m ++ [.target (some column) none 0]))) =
        .error (.unknownColumn column table) ∧
      analyze c (.update v) = .error (.unknownColumn column table)

/-- What an UPDATE does up to the end of its assignments. They see all of its tables. -/
def assignInScope (c : Catalog) (first : Table) (v : Update) (targets : List Node) :
    AnalysisM Scope := do
  let others ← analyzeSources c [] v.source
  let s : Scope := [.ofRelations (.ofTable first v.table.aliasName false :: others)]
  discard (inferAll c s none v.joinConditions)
  targets.forM (analyzeAssignment c s (.ofTable first v.table.aliasName false))
  return s

theorem analyze_update_eq (c : Catalog) (v : Update) :
    analyze c (.update v) = ((analyzeUpdate c v).run []).map fun x =>
      ⟨x.2.parameters (greatestParam (.update v)), x.1, none⟩ := by
  have hstatement : (analyzeStatement c (.update v)).run [] =
      (analyzeUpdate c v).run [] >>= fun x => .ok ((x.1, none), x.2) := rfl
  rw [analyze, hstatement]
  cases (analyzeUpdate c v).run [] <;> rfl

section Progress

variable {v : Update} {first : Table} {targets : List Node}

theorem analyzeUpdate_eq (hfirst : c.lookupTable v.table.tableName = .ok first) :
    analyzeUpdate c v =
      assignInScope c first v v.targets >>= fun s =>
        discard (inferOption c s none v.condition) >>= fun _ =>
          analyzeTargets c s [] 0 v.returning := by
  simp only [analyzeUpdate, targetRelation, lookedUp, hfirst, assignInScope, pure_bind, bind_assoc]

/-- Further assignments are analysed in the scope of those before them. -/
theorem assignInScope_append {s : Scope} {bs : Bindings} (later : List Node)
    (hrun : (assignInScope c first v targets).run [] = .ok (s, bs)) :
    (assignInScope c first v (targets ++ later)).run [] =
      (later.forM (analyzeAssignment c s (.ofTable first v.table.aliasName false)) >>=
        fun _ => pure s).run bs := by
  have happend (f : Node → AnalysisM Unit) :
      (targets ++ later).forM f = targets.forM f >>= fun _ => later.forM f := List.forM_append
  -- the assignments before this one bind first, those after it run with what is bound by then
  have hsplit : assignInScope c first v (targets ++ later) =
      assignInScope c first v targets >>= fun s =>
        later.forM (analyzeAssignment c s (.ofTable first v.table.aliasName false)) >>=
          fun _ => pure s := by
    simp only [assignInScope, happend, pure_bind, bind_assoc]
  rw [hsplit, StateT.run_bind, hrun]
  rfl

/-- An UPDATE that ends with its assignments has an analysis if they get through. -/
theorem analyze_upTo_ok_iff (hfirst : c.lookupTable v.table.tableName = .ok first) :
    (∃ a, analyze c (.update (v.upTo targets)) = .ok a) ↔
      ∃ x, (assignInScope c first v targets).run [] = .ok x := by
  have hrun : analyzeUpdate c (v.upTo targets) =
      assignInScope c first v targets >>= fun _ => pure [] := analyzeUpdate_eq hfirst
  rw [analyze_update_eq, hrun, StateT.run_bind]
  cases (assignInScope c first v targets).run [] with
  | ok x => exact ⟨fun _ => ⟨x, rfl⟩, fun _ => ⟨_, rfl⟩⟩
  | error e => exact ⟨fun ⟨_, h⟩ => (nomatch h), fun ⟨_, h⟩ => (nomatch h)⟩

end Progress

section Columns

variable {v : Update} {first : Table} {targets : List Node} {s : Scope} {bs : Bindings}
  {name : String}

/-- An assignment to a column that the first table does not have ends the analysis. -/
theorem analyze_of_lacks (hfirst : c.lookupTable v.table.tableName = .ok first)
    (hrun : (assignInScope c first v targets).run [] = .ok (s, bs))
    (hcolumn : first.column? name = none) {value : Option Node} {location : Nat}
    {later : List Node}
    (htargets : v.targets = targets ++ .target (some name) value location :: later) :
    analyze c (.update v) = .error (.unknownColumn name (some first.name)) := by
  -- the column is looked up before the value is analysed
  have hassign : analyzeAssignment c s (.ofTable first v.table.aliasName false)
      (.target (some name) value location) = throw (.unknownColumn name (some first.name)) := by
    simp only [analyzeAssignment, column?_ofTable, hcolumn]
    rfl
  have hrejected : (assignInScope c first v v.targets).run [] =
      .error (.unknownColumn name (some first.name)) := by
    rw [htargets, assignInScope_append _ hrun, List.forM, hassign]
    rfl
  rw [analyze_update_eq, analyzeUpdate_eq hfirst, StateT.run_bind, hrejected]
  rfl

/-- An assignment to a column of the first table is no reason for an error, but for its value. -/
theorem analyze_of_hasColumn (hfirst : c.lookupTable v.table.tableName = .ok first)
    (hrun : (assignInScope c first v targets).run [] = .ok (s, bs)) {column : Column}
    (hcolumn : first.column? name = some column) (location : Nat) :
    ∃ a, analyze c (.update (v.upTo (targets ++ [.target (some name) none location]))) = .ok a := by
  have hassign : analyzeAssignment c s (.ofTable first v.table.aliasName false)
      (.target (some name) none location) = pure () := by
    simp only [analyzeAssignment, column?_ofTable, hcolumn]
    rfl
  refine (analyze_upTo_ok_iff hfirst).mpr ⟨(s, bs), ?_⟩
  rw [assignInScope_append _ hrun, List.forM, hassign]
  rfl

/-- **Which columns are unknown.** Where the analysis comes to an assignment, it reports the column
as unknown exactly if the first table lacks it. -/
theorem reportsUnknown_iff (hfirst : c.lookupTable v.table.tableName = .ok first) {m : Nat}
    {value : Option Node} {location : Nat}
    (htarget : v.targets[m]? = some (.target (some name) value location)) :
    v.ReportsUnknown c m name ↔ v.Reaches c m ∧ first.column? name = none := by
  have hsplit : v.targets =
      v.targets.take m ++ .target (some name) value location :: v.targets.drop (m + 1) := by
    obtain ⟨hm, htarget⟩ := List.getElem?_eq_some_iff.mp htarget
    rw [← htarget, ← List.drop_eq_getElem_cons hm, List.take_append_drop]
  refine and_congr_right fun hreaches => ?_
  -- the run that reaches the assignment, up to and without it
  obtain ⟨⟨s, bs⟩, hrun⟩ := (analyze_upTo_ok_iff hfirst).mp hreaches
  cases hcolumn : first.column? name with
  | none =>
    refine ⟨fun _ => rfl, fun _ => ⟨some first.name, ?_, ?_⟩⟩
    · exact analyze_of_lacks (v := v.upTo _) hfirst hrun hcolumn rfl
    · exact analyze_of_lacks hfirst hrun hcolumn hsplit
  | some column =>
    refine ⟨fun ⟨table, hrejected, _⟩ => ?_, fun h => nomatch h⟩
    obtain ⟨a, haccepted⟩ := analyze_of_hasColumn hfirst hrun hcolumn 0
    rw [haccepted] at hrejected
    cases hrejected

end Columns

/-! ## Placeholders -/

/-- An assignment is one to a column of a table, and a placeholder that is assigned is bound as a
value of the column. -/
def AssignedFrom (t : Table) (n : Node) (places : List Parameter) : Prop :=
  ∀ name value location, n = .target (some name) value location →
    ∃ column, t.column? name = some column ∧ ∀ number spot, value = some (.param number spot) →
      ⟨number, some column.name, column.type, column.notNull⟩ ∈ places

theorem AssignedFrom.mono {t : Table} {n : Node} {places places' : List Parameter}
    (h : AssignedFrom t n places) (hsub : places ⊆ places') : AssignedFrom t n places' := by
  intro name value location hn
  obtain ⟨column, hcolumn, hplaces⟩ := h name value location hn
  exact ⟨column, hcolumn, fun number spot hvalue => hsub (hplaces number spot hvalue)⟩

section Placeholders

variable {s : Scope} (t : Table) (aliasName : Option String)

theorem inferOption_takes (s : Scope) (hint : Option Hint) (n : Option Node) :
    Traced (numbersOf n)
      (fun _ places => ∀ number spot, n = some (.param number spot) →
        .ofHint number hint ∈ places)
      fun f => inferOption c s hint (renumberOption f n) := by
  cases n with
  | none => exact .pure fun _ _ h => nomatch h
  | some n =>
    refine (inferExpr_takes s hint n).map fun _ places h number spot hn => ?_
    exact h number spot (Option.some.inj hn)

theorem analyzeAssignment_takes (n : Node) :
    Traced (numbersOf n) (fun _ => AssignedFrom t n)
      fun f => analyzeAssignment c s (.ofTable t aliasName false) (n.renumber f) := by
  match n with
  | .target none value location =>
    -- an assignment to what is no name binds like any expression and takes from no column
    refine (analyzeAssignment_tracks _).mono (.of_perm (.refl _)) ?_
    rintro _ _ - _ _ _ ⟨⟩
  | .target (some name) value location =>
    simp only [Node.renumber, analyzeAssignment, column?_ofTable]
    cases hcolumn : t.column? name with
    | none => exact .throw
    | some column =>
      refine (inferOption_takes s (some column.hint) value).map fun _ places hplaces => ?_
      rintro _ _ _ ⟨⟩
      exact ⟨column, hcolumn, hplaces⟩
  | .schemaChange _ | .insert _ | .select _ | .update _ | .delete _ | .logic .. | .operator ..
  | .column _ | .param .. | .sublink .. | .call _ | .cast .. | .nullTest .. | .case .. | .literal _
  | .table _ | .derived .. | .list _ | .unsupported .. | .name _ | .star =>
    exact .failed (fun _ => rfl) ⟨_, rfl⟩

theorem analyzeAssignments_takes (ns : List Node) :
    Traced (numbersOf ns) (fun _ places => ∀ n ∈ ns, AssignedFrom t n places)
      fun f => (renumberAll f ns).forM (analyzeAssignment c s (.ofTable t aliasName false)) := by
  induction ns with
  | nil => exact .pure (List.forall_mem_nil _)
  | cons n ns ih =>
    refine (analyzeAssignment_takes t aliasName n).split (numbersOf ns)
      (fun k => by simp [numbersOf, Numbered.walk]) fun _ places hn => ?_
    refine ih.mono (.of_perm (.refl _)) fun _ places' hns => List.forall_mem_cons.mpr ⟨?_, ?_⟩
    · exact hn.mono (List.subset_append_left ..)
    · exact fun n' hn' => (hns n' hn').mono (List.subset_append_right ..)

end Placeholders

/-- All assignments of an UPDATE are to columns of its first table. -/
theorem analyzeUpdate_takes (v : Update) :
    Traced (numbersOf v)
      (fun _ places => ∃ first, c.lookupTable v.table.tableName = .ok first ∧
        ∀ n ∈ v.targets, AssignedFrom first n places)
      fun f => analyzeUpdate c (v.renumber f) := by
  obtain ⟨table, targets, source, joinConditions, condition, returning⟩ := v
  apply Traced.within
  · apply (targetRelation_traced table).bind
    rintro _ placesTarget ⟨first, hfirst, rfl⟩
    apply (analyzeSources_tracks [] source).bind
    -- the tables in the scope do not matter here, the column comes from the updated table alone
    intro others placesSource _
    generalize [ScopeLevel.ofRelations (.ofTable first table.aliasName false :: others)] = s
    apply (inferAll_tracks s none joinConditions).discard.bind
    intro _ placesJoins _
    apply (analyzeAssignments_takes first table.aliasName targets).bind
    intro _ placesTargets htargets
    apply (inferOption_tracks s none condition).discard.bind
    intro _ placesCondition _
    refine (analyzeTargets_traced s [] 0 returning).mono (.of_perm (.refl _)) ?_
    intro _ placesReturning _
    refine ⟨first, hfirst, fun n hn => (htargets n hn).mono fun p hp => ?_⟩
    simp [hp]
  · intro k
    simp [numbersOf, Numbered.walk]
    omega

/-! ## Tables -/

/-- The tables of an UPDATE, the first of which is the one that it changes. -/
def Canonical.Update.tables (v : Update) : List TableRef :=
  v.table :: v.source.filterMap fun
    | .table t => some t
    | _ => none

/-- In an analysis that succeeds an assignment gives a column the value of a placeholder that stands
nowhere else in the statement. -/
structure Canonical.Update.AssignsParam (c : Catalog) (v : Update) (m : Nat) (name : String)
    (a : Analysis) (number : Nat) : Prop where
  run : analyze c (.update v) = .ok a
  target : ∃ spot location,
    v.targets[m]? = some (.target (some name) (some (.param number spot)) location)
  positive : 0 < number
  single : (Node.update v).numbers.count number = 1

/-- An assignment is to a column of a table: the column is reported as unknown only if the table
lacks it, and a placeholder that is assigned is a value of the column. -/
structure Canonical.Update.AssignsTo (c : Catalog) (v : Update) (m : Nat) (name : String)
    (t : Table) : Prop where
  reported : v.ReportsUnknown c m name → t.column? name = none
  typed : ∀ a number, v.AssignsParam c m name a number → ∃ column, t.column? name = some column ∧
    a.params[number - 1]? = some ⟨number, some column.name, column.type, column.notNull⟩

section Tables

variable {v : Update} {first : Table} {m : Nat} {name : String} {value : Option Node}
  {location : Nat}

/-- Every assignment is to a column of the first table. -/
theorem assignsTo_first (hfirst : c.lookupTable v.table.tableName = .ok first)
    (htarget : v.targets[m]? = some (.target (some name) value location)) :
    v.AssignsTo c m name first where
  reported h := ((reportsUnknown_iff hfirst htarget).mp h).2
  typed := by
    rintro a number ⟨hrun, ⟨spot, location, hparam⟩, hpos, hsingle⟩
    -- what is asked of an assignment holds of the run of the whole statement
    have htraced : Traced (Node.update v).numbers
        (fun _ places => ∃ first, c.lookupTable v.table.tableName = .ok first ∧
          ∀ n ∈ v.targets, AssignedFrom first n places)
        fun f => analyzeStatement c ((Node.update v).renumber f) :=
      (analyzeUpdate_takes v).map fun _ _ => id
    obtain ⟨_, places, ⟨found, hfound, hassigned⟩, hwithin, rfl⟩ := htraced.of_analyze hrun
    -- the table that the run found is the one that the name finds
    obtain rfl := Except.ok.inj (hfirst.symm.trans hfound)
    obtain ⟨column, hcolumn, hplaces⟩ :=
      hassigned _ (List.mem_of_getElem? hparam) name _ location rfl
    refine ⟨column, hcolumn, ?_⟩
    exact getElem?_params_of_single hwithin (hplaces number spot rfl) hpos hsingle

/-- An assignment is to a column of another table exactly if that table lacks the column where the
first one does, and has the same column where a placeholder is assigned. -/
theorem assignsTo_iff (hfirst : c.lookupTable v.table.tableName = .ok first)
    (htarget : v.targets[m]? = some (.target (some name) value location)) (own : Table) :
    v.AssignsTo c m name own ↔
      (v.Reaches c m → first.column? name = none → own.column? name = none) ∧
        ∀ a number, v.AssignsParam c m name a number → own.column? name = first.column? name := by
  constructor
  · intro h
    refine ⟨fun hreaches hlacks => ?_, fun a number hparam => ?_⟩
    · exact h.reported ((reportsUnknown_iff hfirst htarget).mpr ⟨hreaches, hlacks⟩)
    · obtain ⟨column, hcolumn, hplace⟩ := h.typed a number hparam
      obtain ⟨column', hcolumn', hplace'⟩ := (assignsTo_first hfirst htarget).typed a number hparam
      -- the parameter tells the column
      rw [hplace, Option.some.injEq, Parameter.mk.injEq, Option.some.injEq] at hplace'
      obtain ⟨-, hname, htype, hnotNull⟩ := hplace'
      rw [hcolumn, hcolumn', Option.some.injEq]
      cases column
      cases column'
      simp_all
  · rintro ⟨hreported, htyped⟩
    refine ⟨fun h => ?_, fun a number hparam => ?_⟩
    · obtain ⟨hreaches, hlacks⟩ := (reportsUnknown_iff hfirst htarget).mp h
      exact hreported hreaches hlacks
    · rw [htyped a number hparam]
      exact (assignsTo_first hfirst htarget).typed a number hparam

end Tables

/-- **A qualified assignment is one to the first table.** The qualifier of a column that an UPDATE
assigns to is lost in the conversion, and the assignment is to a column of the first table, whatever
the qualifier is. So it is to a column of the table that the qualifier names exactly if that table
lacks the column where the first one does, and has the same column where a placeholder is
assigned. -/
theorem assignsTo_of_qualified {d : Dialect} {s : Sql.ScriptStatement} {u : Sql.Update}
    {k : Converted} (hconvert : convert d s = .ok k) (htree : s.tree = .update u) :
    ∃ v, k.node = .update v ∧
      ∀ m qualifier name value, u.assignments[m]? = some (.column [qualifier, name] value) →
        ∃ n location, v.targets[m]? = some (.target (some (fold d name)) (some n) location) ∧
          ∀ (c : Catalog) first, c.lookupTable v.table.tableName = .ok first →
            v.AssignsTo c m (fold d name) first ∧
              ∀ r ∈ v.tables, r.visibleName = fold d qualifier →
                ∀ own, c.lookupTable r.tableName = .ok own →
                  (v.AssignsTo c m (fold d name) own ↔
                    (v.Reaches c m → first.column? (fold d name) = none →
                      own.column? (fold d name) = none) ∧
                    ∀ a number, v.AssignsParam c m (fold d name) a number →
                      own.column? (fold d name) = first.column? (fold d name)) := by
  obtain ⟨q, hrun⟩ := Conversion.exists_run_of_convert hconvert
  rw [htree] at hrun
  obtain ⟨v, hv, hassigns⟩ := Conversion.exists_update hrun
  refine ⟨v, hv, fun m qualifier name value hassignment => ?_⟩
  obtain ⟨n, location, htarget⟩ : ∃ n location,
      v.targets[m]? = some (.target (some (fold d name)) (some n) location) := by
    obtain ⟨hm, heq⟩ := List.getElem?_eq_some_iff.mp hassignment
    have hm' : m < v.targets.length := hassigns.length_eq ▸ hm
    have htarget := hassigns.get hm hm'
    rw [List.get_eq_getElem, List.get_eq_getElem, heq] at htarget
    generalize hn : v.targets[m] = n at htarget
    -- of the two parts of the name only the last one comes through the conversion
    obtain ⟨hpart⟩ := htarget
    obtain rfl := Option.some.inj hpart
    exact ⟨_, _, List.getElem?_eq_some_iff.mpr ⟨hm', hn⟩⟩
  refine ⟨n, location, htarget, fun c first hfirst => ?_⟩
  refine ⟨assignsTo_first hfirst htarget, fun r _ _ own _ => assignsTo_iff hfirst htarget own⟩

/-- A MySQL text is an UPDATE of tables that have different names in it. Its first assignment is to
a column that is qualified with the name of one of them, which is the table `own`. -/
def AssignsQualified (c : Catalog) (text : String) (v : Update) (name : String) (own : Table) :
    Prop :=
  ∃ s u k qualifier column value, (Sql.Script.parse .mysql none text).statements = [s] ∧
    s.tree = .update u ∧ convert .mysql s = .ok k ∧ k.node = .update v ∧
    u.assignments[0]? = some (.column [qualifier, column] value) ∧ fold .mysql column = name ∧
    (v.tables.map (·.visibleName)).Nodup ∧
    ∃ r ∈ v.tables, r.visibleName = fold .mysql qualifier ∧ c.lookupTable r.tableName = .ok own

/-- The table of `CREATE TABLE a (id int NOT NULL)`. -/
def tableA : Table := ⟨.qualified "public" "a", [⟨"id", .named "int", true⟩]⟩

/-- The table of `CREATE TABLE b (id bigint, c text)`. -/
def tableB : Table :=
  ⟨.qualified "public" "b", [⟨"id", .named "bigint", false⟩, ⟨"c", .named "text", false⟩]⟩

/-- The catalog of these tables. -/
def joinedTables : Catalog :=
  ⟨"public", Directory.empty.insert "public"
    ⟨"public", (Directory.empty.insert "a" tableA).insert "b" tableB⟩⟩

/-- Whether a statement joins the tables `a` and `b`, assigns its only placeholder to a column of
`b`, and has an analysis that passes a check. -/
def assignsToB (name : String) (check : Except AnalysisError Analysis → Bool)
    (s : Sql.ScriptStatement) (k : Converted) : Bool :=
  match s.tree, k.node with
  | .update ⟨_, _, [.column [qualifier, column] _], _, _, _⟩,
    .update ⟨table, [.target (some assigned) (some (.param 1 spot)) location], source,
      joinConditions, condition, returning⟩ =>
    let v : Update := ⟨table, [.target (some assigned) (some (.param 1 spot)) location], source,
      joinConditions, condition, returning⟩
    fold .mysql qualifier = "b" && fold .mysql column = name && assigned = name &&
      v.tables = [⟨none, "a", none, false⟩, ⟨none, "b", none, false⟩] &&
      (Node.update v).numbers = [1] &&
      analyze joinedTables (.update (v.upTo [])) = .ok ⟨[], [], none⟩ &&
      check (analyze joinedTables (.update v))
  | _, _ => false

theorem exists_assignsQualified (text name : String)
    (check : Except AnalysisError Analysis → Bool)
    (h : ((Sql.Script.parse .mysql none text).statements.map fun s =>
      (convert .mysql s).toOption.map (assignsToB name check s)) = [some true]) :
    ∃ v spot location, AssignsQualified joinedTables text v name tableB ∧
      joinedTables.lookupTable v.table.tableName = .ok tableA ∧
      v.targets = [.target (some name) (some (.param 1 spot)) location] ∧
      (Node.update v).numbers = [1] ∧ v.Reaches joinedTables 0 ∧
      check (analyze joinedTables (.update v)) = true := by
  obtain ⟨s, k, hs, hconvert, hcheck⟩ := Conversion.exists_converted .mysql text _ h
  rw [assignsToB] at hcheck
  -- the check fixes the shape of the tree and of the node, so each part is read off it
  split at hcheck
  · rename_i qualifier column value _ _ _ table assigned spot location source joinConditions
      condition returning htree hnode
    simp only [Bool.and_eq_true, decide_eq_true_eq] at hcheck
    obtain ⟨⟨⟨⟨⟨⟨hqualifier, hcolumn⟩, rfl⟩, htables⟩, hnumbers⟩, hreaches⟩, hcheck⟩ := hcheck
    have hown : joinedTables.lookupTable (TableRef.tableName ⟨none, "b", none, false⟩) =
        .ok tableB := by
      decide +kernel
    have hfirst : joinedTables.lookupTable (TableRef.tableName ⟨none, "a", none, false⟩) =
        .ok tableA := by
      decide +kernel
    obtain rfl : table = ⟨none, "a", none, false⟩ := (List.cons.inj htables).1
    refine ⟨_, spot, location, ⟨s, _, k, qualifier, column, value, hs, htree, hconvert, hnode, rfl,
      hcolumn, ?_, ⟨none, "b", none, false⟩, ?_, hqualifier.symm, hown⟩, hfirst, rfl, hnumbers,
      ⟨_, hreaches⟩, hcheck⟩ <;> rw [htables] <;> decide
  · cases hcheck

/-- In `UPDATE a JOIN b ON a.id = b.id SET b.id = ?` the placeholder has the type of `a.id`. -/
theorem exists_assignsParam_joined :
    ∃ v, AssignsQualified joinedTables "UPDATE a JOIN b ON a.id = b.id SET b.id = ?" v "id" tableB ∧
      joinedTables.lookupTable v.table.tableName = .ok tableA ∧
      v.AssignsParam joinedTables 0 "id" ⟨[⟨1, some "id", .named "int", true⟩], [], none⟩ 1 := by
  obtain ⟨v, spot, location, hassigns, hfirst, htargets, hnumbers, -, hcheck⟩ :=
    exists_assignsQualified "UPDATE a JOIN b ON a.id = b.id SET b.id = ?" "id"
      (fun r => r = .ok ⟨[⟨1, some "id", .named "int", true⟩], [], none⟩) (by decide +kernel)
  refine ⟨v, hassigns, hfirst, of_decide_eq_true hcheck, ⟨spot, location, ?_⟩, Nat.one_pos, ?_⟩
  · rw [htargets]
    rfl
  · rw [hnumbers]
    rfl

theorem assignsTo_of_qualified_joined :
    ∃ v, AssignsQualified joinedTables "UPDATE a JOIN b ON a.id = b.id SET b.id = ?" v "id" tableB ∧
      v.AssignsTo joinedTables 0 "id" tableA ∧ ¬ v.AssignsTo joinedTables 0 "id" tableB := by
  -- the qualifier names the other table, while the columns come from the first
  obtain ⟨v, hassigns, hfirst, hparam⟩ := exists_assignsParam_joined
  have hqualified := hassigns
  obtain ⟨s, u, k, qualifier, column, value, -, htree, hconvert, hnode, hassignment, hcolumn, -,
    r, hr, hname, hown⟩ := hqualified
  obtain ⟨v', hnode', h⟩ := assignsTo_of_qualified hconvert htree
  obtain rfl := Node.update.inj (hnode.symm.trans hnode')
  obtain ⟨_, _, -, h⟩ := h 0 qualifier column value hassignment
  obtain ⟨hassignsFirst, hiff⟩ := h joinedTables tableA hfirst
  rw [hcolumn] at hassignsFirst hiff
  refine ⟨v, hassigns, hassignsFirst, fun h => ?_⟩
  obtain ⟨-, hsame⟩ := (hiff r hr hname tableB hown).mp h
  exact absurd (hsame _ 1 hparam) (by decide)

/-- The column `c` of the joined table `b` is reported as unknown, and a placeholder for its column
`id` is taken for a value of the column of `a`. -/
theorem not_assignsTo_qualified :
    (∃ v, AssignsQualified joinedTables "UPDATE a JOIN b ON a.id = b.id SET b.c = ?" v "c" tableB ∧
      v.ReportsUnknown joinedTables 0 "c" ∧ tableB.column? "c" ≠ none) ∧
    ∃ v a column, AssignsQualified joinedTables "UPDATE a JOIN b ON a.id = b.id SET b.id = ?" v "id"
        tableB ∧
      v.AssignsParam joinedTables 0 "id" a 1 ∧ tableB.column? "id" = some column ∧
      a.params[0]? ≠ some ⟨1, some column.name, column.type, column.notNull⟩ := by
  constructor
  · obtain ⟨v, spot, location, hassigns, hfirst, htargets, -, hreaches, -⟩ :=
      exists_assignsQualified "UPDATE a JOIN b ON a.id = b.id SET b.c = ?" "c"
        (fun _ => true) (by decide +kernel)
    refine ⟨v, hassigns, ?_, by decide⟩
    exact (reportsUnknown_iff hfirst (by rw [htargets]; rfl)).mpr ⟨hreaches, by decide⟩
  · obtain ⟨v, hassigns, -, hparam⟩ := exists_assignsParam_joined
    exact ⟨v, _, _, hassigns, hparam, rfl, by decide⟩

end TypedSql
