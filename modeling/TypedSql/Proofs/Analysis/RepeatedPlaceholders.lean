import TypedSql.Proofs.Analysis.Origins

/-!
# Repeated placeholders

A result column that is not null vouches for the places of the placeholders that it is made from.
The parameter of a number, however, is what the first place with a type makes of it, and this may be
a place that has nothing to do with the column. This module says when the two agree.

- **Statements**: every statement has a trace, and its result columns vouch for their placeholders
- **Reports**: the parameter of a number is not null if and only if the deciding place is not
-/

namespace TypedSql

open Canonical

variable {c : Catalog}

/-! ## Statements -/

/-- What a RETURNING can refer to: the target of the statement and the tables next to it. -/
def returningScope (c : Catalog) (t : TableRef) (source : List Node) : Scope :=
  match c.lookupTable t.tableName with
  | .ok found =>
    [.ofRelations (.ofTable found t.aliasName false :: answered (analyzeSources c [] source))]
  | .error _ => []

/-- The expressions that the result columns of a statement are made from. -/
def Canonical.Node.origins (c : Catalog) : Node → List (List Node)
  | .select q => q.origins c []
  | .insert i => targetOrigins (returningScope c i.table []) i.returning
  | .update u => targetOrigins (returningScope c u.table u.source) u.returning
  | .delete d => targetOrigins (returningScope c d.table d.source) d.returning
  | _ => []

section Assignments

variable {s : Scope} {target : Relation}

theorem analyzeAssignment_tracks (n : Node) :
    Tracks (numbersOf n) fun f => analyzeAssignment c s target (n.renumber f) := by
  match n with
  | .target name value location =>
    simp only [Node.renumber, analyzeAssignment]
    cases name with
    | none => exact (inferOption_tracks s none value).discard
    | some name =>
      dsimp only
      -- an assignment to an unknown column ends the analysis before its value is read
      cases target.column? name with
      | none => exact .throw
      | some column => exact (inferOption_tracks s _ value).discard
  | .schemaChange _ | .insert _ | .select _ | .update _ | .delete _ | .logic .. | .operator ..
  | .column _ | .param .. | .sublink .. | .call _ | .cast .. | .nullTest .. | .case .. | .literal _
  | .table _ | .derived .. | .list _ | .unsupported .. | .name _ | .star =>
    exact .failed (fun _ => rfl) ⟨_, rfl⟩

theorem analyzeAssignments_tracks (ns : List Node) :
    Tracks (numbersOf ns) fun f => (renumberAll f ns).forM (analyzeAssignment c s target) := by
  induction ns with
  | nil => exact .pure trivial
  | cons n ns ih =>
    exact ((analyzeAssignment_tracks n).next fun _ => ih).within
      fun k => by simp [numbersOf, Numbered.walk]

theorem columnHints_tracks (ns : List Node) :
    Tracks [] fun f => columnHints target (renumberAll f ns) := by
  induction ns with
  | nil => exact .pure trivial
  | cons n ns ih =>
    match n with
    | .target (some name) value location =>
      simp only [renumberAll, Node.renumber, columnHints]
      -- what a column hints at does not matter here, only that nothing is read for it
      cases target.column? name with
      | none => exact .throw
      | some column => exact ih.last
    | .target none value location => exact .throw
    | .schemaChange _ | .insert _ | .select _ | .update _ | .delete _ | .logic .. | .operator ..
    | .column _ | .param .. | .sublink .. | .call _ | .cast .. | .nullTest .. | .case ..
    | .literal _ | .table _ | .derived .. | .list _ | .unsupported .. | .name _ | .star =>
      exact .throw

theorem insertHints_tracks (columns : List Node) :
    Tracks [] fun f => insertHints target (renumberAll f columns) := by
  simp only [insertHints, isEmpty_renumberAll]
  split
  · exact .pure trivial
  · exact columnHints_tracks columns

theorem analyzeConflict_tracks (i : Canonical.Insert) :
    Tracks (numbersOf i.conflictTargets ++ numbersOf i.conflictCondition)
      fun f => analyzeConflict c target (i.renumber f) := by
  obtain ⟨table, columns, source, conflictTargets, conflictCondition, returning⟩ := i
  simp only [Insert.renumber, analyzeConflict, isEmpty_renumberAll, isNone_renumberOption]
  split
  · exact .pure trivial
  · exact (analyzeAssignments_tracks conflictTargets).next fun _ =>
      (inferOption_tracks _ none conflictCondition).discard

end Assignments

/-- The target of a statement is found without a look at its placeholders. -/
theorem targetRelation_traced (t : TableRef) :
    Traced [] (fun x _ => ∃ found, c.lookupTable t.tableName = .ok found ∧
        x = (found, .ofTable found t.aliasName false))
      fun _ => targetRelation c t := by
  simp only [targetRelation, lookedUp]
  cases c.lookupTable t.tableName with
  | ok found => exact .pure ⟨found, rfl, rfl⟩
  | error e => exact .throw

theorem returningScope_eq {t : TableRef} {found : Table}
    (h : c.lookupTable t.tableName = .ok found) (source : List Node) :
    returningScope c t source = [.ofRelations
      (.ofTable found t.aliasName false :: answered (analyzeSources c [] source))] := by
  rw [returningScope, h]

/-- An INSERT can be traced if its source can. What counts of the source are the hints that it takes
and the places that it binds; the columns are those of the RETURNING clause. -/
theorem insert_traced_of {i : Canonical.Insert} {H : Table → List Hint → Prop}
    {S : List Hint → List ResultColumn → List Parameter → Prop}
    {Q : TableName × List ResultColumn → List Parameter → Prop}
    (hhints : ∀ t, Traced [] (fun hints _ => H t hints)
      fun f => insertHints (.ofTable t i.table.aliasName false) (renumberAll f i.columns))
    (hsource : ∀ hints, Traced (numbersOf i.source) (S hints)
      fun f => analyzeSelect c [] hints (i.source.renumber f))
    (hinsert : ∀ t hints columns placesSource returned placesReturning places,
      c.lookupTable i.table.tableName = .ok t → H t hints → S hints columns placesSource →
        AllMadeFrom placesReturning returned
          (targetOrigins (returningScope c i.table []) i.returning) →
        placesSource ⊆ places → placesReturning ⊆ places → Q (t.name, returned) places) :
    Traced (numbersOf i) Q fun f => analyzeInsert c (i.renumber f) := by
  obtain ⟨table, columns, source, conflictTargets, conflictCondition, returning⟩ := i
  apply Traced.within
  · apply (targetRelation_traced table).bind
    rintro _ placesTarget ⟨found, hfound, rfl⟩
    apply (hhints found).bind
    intro hints placesHints hlist
    -- the source is taken for its bindings only, but these may be what counts
    have hbindings : Traced (numbersOf source) (fun _ places => ∃ columns, S hints columns places)
        fun f => Functor.discard (analyzeSelect c [] hints (source.renumber f)) :=
      (hsource hints).map fun columns _ h => ⟨columns, h⟩
    apply hbindings.bind
    rintro _ placesSource ⟨columns, hcolumns⟩
    apply (analyzeConflict_tracks
      ⟨table, _, source, conflictTargets, conflictCondition, returning⟩).bind
    intro _ placesConflict _
    apply (analyzeTargets_traced [.ofRelations [_]] [] 0 returning).map
    intro returned placesReturning hreturned
    refine hinsert found hints columns placesSource returned placesReturning _ hfound hlist hcolumns
      ?_ ?_ ?_
    · rw [returningScope_eq hfound]
      exact hreturned
    · exact fun p hp => by simp [hp]
    · exact fun p hp => by simp [hp]
  · intro k
    simp [numbersOf, Numbered.walk]

theorem analyzeInsert_traced (i : Canonical.Insert) :
    Traced (numbersOf i)
      (fun x places => AllMadeFrom places x.2
        (targetOrigins (returningScope c i.table []) i.returning))
      fun f => analyzeInsert c (i.renumber f) := by
  refine insert_traced_of (fun _ => insertHints_tracks i.columns)
    (analyzeSelect_traced [] · i.source) ?_
  exact fun _ _ _ _ _ _ _ _ _ _ hreturned _ hsub => hreturned.mono hsub

theorem analyzeUpdate_traced (u : Canonical.Update) :
    Traced (numbersOf u)
      (fun columns places => AllMadeFrom places columns
        (targetOrigins (returningScope c u.table u.source) u.returning))
      fun f => analyzeUpdate c (u.renumber f) := by
  obtain ⟨table, targets, source, joinConditions, condition, returning⟩ := u
  apply Traced.within
  · apply (targetRelation_traced table).bind
    rintro _ placesTarget ⟨found, hfound, rfl⟩
    apply ((analyzeSources_tracks [] source).answer
      (congrArg (analyzeSources c []) (renumberableAll source).renumber_id)).bind
    rintro _ placesSource ⟨-, rfl⟩
    -- the returned columns see the table and the other sources, whatever these are
    rw [returningScope_eq hfound]
    generalize [ScopeLevel.ofRelations (.ofTable found table.aliasName false ::
      answered (analyzeSources c [] source))] = s
    apply (inferAll_tracks s none joinConditions).discard.bind
    intro _ placesJoins _
    apply (analyzeAssignments_tracks targets).bind
    intro _ placesTargets _
    apply (inferOption_tracks s none condition).discard.bind
    intro _ placesCondition _
    refine (analyzeTargets_traced s [] 0 returning).mono (.of_perm (.refl _)) ?_
    exact fun columns placesReturning hcolumns => hcolumns.mono fun p hp => by simp [hp]
  · intro k
    simp [numbersOf, Numbered.walk]
    omega

theorem analyzeDelete_traced (d : Canonical.Delete) :
    Traced (numbersOf d)
      (fun columns places => AllMadeFrom places columns
        (targetOrigins (returningScope c d.table d.source) d.returning))
      fun f => analyzeDelete c (d.renumber f) := by
  obtain ⟨table, source, joinConditions, condition, orderBy, limit, returning⟩ := d
  apply Traced.within
  · apply (targetRelation_traced table).bind
    rintro _ placesTarget ⟨found, hfound, rfl⟩
    apply ((analyzeSources_tracks [] source).answer
      (congrArg (analyzeSources c []) (renumberableAll source).renumber_id)).bind
    rintro _ placesSource ⟨-, rfl⟩
    -- the returned columns see the table and the other sources, whatever these are
    rw [returningScope_eq hfound]
    generalize [ScopeLevel.ofRelations (.ofTable found table.aliasName false ::
      answered (analyzeSources c [] source))] = s
    apply (inferAll_tracks s none joinConditions).discard.bind
    intro _ placesJoins _
    apply (inferOption_tracks s none condition).discard.bind
    intro _ placesCondition _
    apply (inferAll_tracks s none orderBy).discard.bind
    intro _ placesOrder _
    apply (inferOption_tracks s _ limit).discard.bind
    intro _ placesLimit _
    refine (analyzeTargets_traced s [] 0 returning).mono (.of_perm (.refl _)) ?_
    exact fun columns placesReturning hcolumns => hcolumns.mono fun p hp => by simp [hp]
  · intro k
    simp [numbersOf, Numbered.walk]

/-- Every statement binds places that do not depend on its numbers, and its result columns vouch for
those that they are made from. -/
theorem analyzeStatement_traced (n : Node) :
    Traced (numbersOf n) (fun x places => AllMadeFrom places x.1 (n.origins c))
      fun f => analyzeStatement c (n.renumber f) := by
  match n with
  | .select q => exact (analyzeSelect_traced [] [] q).map fun _ _ => id
  | .insert i => exact (analyzeInsert_traced i).map fun _ _ => id
  | .update u => exact (analyzeUpdate_traced u).map fun _ _ => id
  | .delete d => exact (analyzeDelete_traced d).map fun _ _ => id
  | .schemaChange _ | .logic .. | .operator .. | .column _ | .param .. | .sublink .. | .call _
  | .cast .. | .nullTest .. | .case .. | .literal _ | .target .. | .table _ | .derived .. | .list _
  | .unsupported .. | .name _ | .star => exact .failed (fun _ => rfl) ⟨_, rfl⟩

/-! ## Reports -/

/-- The parameter of a number is reported as not null. -/
def Analysis.ReportsNotNull (a : Analysis) (number : Nat) : Prop :=
  ∃ p ∈ a.params, p.number = number ∧ p.notNull = true

theorem le_foldl_max (ks : List Nat) (start : Nat) :
    start ≤ ks.foldl max start ∧ ∀ k ∈ ks, k ≤ ks.foldl max start := by
  induction ks generalizing start with
  | nil => exact ⟨Nat.le_refl _, List.forall_mem_nil _⟩
  | cons k ks ih =>
    obtain ⟨hstart, hks⟩ := ih (max start k)
    refine ⟨Nat.le_trans (Nat.le_max_left ..) hstart, List.forall_mem_cons.mpr ⟨?_, hks⟩⟩
    exact Nat.le_trans (Nat.le_max_right ..) hstart

theorem le_greatestParam {n : Node} {k : Nat} (h : k ∈ n.numbers) : k ≤ greatestParam n :=
  (le_foldl_max n.numbers 0).2 k h

/-- Within the range of the parameters the report is what is bound. -/
theorem reportsNotNull_iff_find? {bs : Bindings} {greatest number : Nat}
    {columns : List ResultColumn} {table : Option TableName} (hpos : 0 < number)
    (hle : number ≤ greatest) :
    (Analysis.mk (bs.parameters greatest) columns table).ReportsNotNull number ↔
      ∃ p, bs.find? number = some p ∧ p.notNull = true := by
  constructor
  · rintro ⟨p, hp, hpk, hnot⟩
    obtain ⟨k, hk, rfl⟩ := List.mem_map.mp hp
    obtain rfl : k = number := (bs.number_getD k).symm.trans hpk
    -- a number that stands nowhere is reported as unknown, and so never as NOT NULL
    cases hfound : bs.find? k with
    | none => rw [hfound] at hnot; cases hnot
    | some p => exact ⟨p, rfl, by rwa [hfound] at hnot⟩
  · rintro ⟨p, hfound, hnot⟩
    refine ⟨p, List.mem_map.mpr ⟨number, ?_, by rw [hfound]; rfl⟩, Bindings.find?_number hfound,
      hnot⟩
    exact List.mem_range'_1.mpr ⟨hpos, by omega⟩

theorem nodup_of_within {numbers numbers' : List Nat} (h : Within numbers numbers')
    (hnodup : numbers'.Nodup) : numbers.Nodup :=
  List.nodup_iff_count.mpr fun k => Nat.le_trans (h k) (List.nodup_iff_count.mp hnodup k)

theorem recordAll_renumber_id {places : List Parameter}
    (h : (places.map Parameter.number).Nodup) :
    Bindings.recordAll [] (places.map (·.renumber id)) = places := by
  have hid : places.map (·.renumber id) = places := List.map_id' places
  rw [hid]
  exact Bindings.recordAll_of_nodup h

/-- **When a repeated placeholder is reported as its column says.** Let every place of a statement
have a number of its own; every other statement is a renumbering of such a one. An analysis of the
renumbered statement has the same result columns, and those that are not null vouch for the places
of the placeholders in their strict expressions. The parameter of such a number is reported as not
null if and only if the deciding place of the number is not null: among all places that got the
number, in the order in which they are bound, the first one with a type, or else the first one. -/
theorem reportsNotNull_iff_deciding {n : Node} (hapart : n.numbers.Nodup) {f : Nat → Nat}
    {a : Analysis} (hrun : analyze c (n.renumber f) = .ok a) :
    ∃ table places, (analyzeStatement c n).run [] = .ok ((a.columns, table), places) ∧
      List.Forall₂ (fun column es => column.notNull = true → ∀ e ∈ es, e.isStrict = true →
        ∀ k ∈ e.numbers, (∃ p ∈ places, p.number = k ∧ p.notNull = true) ∧
          (0 < f k → (a.ReportsNotNull (f k) ↔
            ∃ p, deciding? (places.map (·.renumber f)) (f k) = some p ∧ p.notNull = true)))
        a.columns (n.origins c) := by
  rcases analyzeStatement_traced (c := c) n with
    ⟨⟨columns, table⟩, places, hmade, hwithin, htrace⟩ | ⟨e, herror⟩
  · -- the parameters of the renumbered statement are what its trace leaves bound
    have hbound : (analyzeStatement c (n.renumber f)).run [] =
        .ok ((columns, table), Bindings.recordAll [] (places.map (·.renumber f))) := htrace f []
    rw [analyze, hbound] at hrun
    cases hrun
    refine ⟨table, places, ?_, hmade.imp ?_⟩
    · rw [← Node.renumber_id n]
      refine (htrace id []).trans ?_
      rw [recordAll_renumber_id (nodup_of_within hwithin hapart)]
    · intro column es hcolumn hnot e he hstrict k hk
      have hfirm := hcolumn e he hstrict hnot k hk
      refine ⟨hfirm, fun hpos => ?_⟩
      obtain ⟨p, hp, rfl, -⟩ := hfirm
      have hmem : f p.number ∈ (n.renumber f).numbers := by
        rw [Node.numbers_renumber]
        exact List.mem_map_of_mem (hwithin.mem (List.mem_map_of_mem hp))
      rw [reportsNotNull_iff_find? hpos (le_greatestParam hmem), Bindings.find?_recordAll]
      rfl
  · rw [analyze, herror f []] at hrun
    cases hrun

/-- The catalog of `CREATE TABLE t (a int)`. -/
def nullableTable : Catalog :=
  ⟨"public", Directory.empty.insert "public" ⟨"public", Directory.empty.insert "t"
    ⟨.qualified "public" "t", [⟨"a", .named "int", false⟩]⟩⟩⟩

/-- The query `SELECT $i::int AS x FROM t WHERE a = $j`. -/
def castAndCompare (i j : Nat) : Node :=
  .select { Select.empty with
    targets := [.target (some "x") (some (.cast (.param i 7) (.named "int"))) 0]
    source := [.table ⟨none, "t", none, false⟩]
    condition := some (.operator "=" (some (.column [.name "a"])) (some (.param j 40))) }

theorem reportsNotNull_iff_deciding_castAndCompare :
    ∃ a table places, analyze nullableTable (castAndCompare 1 1) = .ok a ∧
      (analyzeStatement nullableTable (castAndCompare 1 2)).run [] =
        .ok ((a.columns, table), places) ∧
      (a.ReportsNotNull 1 ↔
        ∃ p, deciding? (places.map (·.renumber fun _ => 1)) 1 = some p ∧ p.notNull = true) := by
  have hrun : analyze nullableTable ((castAndCompare 1 2).renumber fun _ => 1) =
      .ok ⟨[⟨1, some "a", .named "int", false⟩], [.computed "x" (.named "int") true], none⟩ := by
    decide +kernel
  obtain ⟨table, places, hplaces, hcolumns⟩ := reportsNotNull_iff_deciding (by decide) hrun
  have horigins : (castAndCompare 1 2).origins nullableTable =
      [[.cast (.param 1 7) (.named "int")]] := rfl
  -- the only column is made from the placeholder alone
  rw [horigins] at hcolumns
  cases hcolumns with
  | cons hx _ =>
    exact ⟨_, table, places, hrun, hplaces,
      (hx rfl _ (List.mem_singleton_self _) rfl 1 (List.mem_singleton_self _)).2 Nat.one_pos⟩

/-- In `SELECT $1::int AS x FROM t WHERE a = $1` the column `x` is not null, but `$1` is taken for a
value of the column `a`, which can be null. -/
theorem not_reportsNotNull_castAndCompare :
    ∃ a column es e k, analyze nullableTable (castAndCompare 1 1) = .ok a ∧
      (column, es) ∈ a.columns.zip ((castAndCompare 1 1).origins nullableTable) ∧
      column.notNull = true ∧ e ∈ es ∧ e.isStrict = true ∧ k ∈ e.numbers ∧
      ¬ a.ReportsNotNull k := by
  have hrun : analyze nullableTable (castAndCompare 1 1) =
      .ok ⟨[⟨1, some "a", .named "int", false⟩], [.computed "x" (.named "int") true], none⟩ := by
    decide +kernel
  refine ⟨_, _, _, _, 1, hrun, List.mem_singleton_self _, rfl, List.mem_singleton_self _, rfl,
    List.mem_singleton_self _, ?_⟩
  rintro ⟨p, hp, -, hnot⟩
  obtain rfl := List.mem_singleton.mp hp
  cases hnot

end TypedSql
