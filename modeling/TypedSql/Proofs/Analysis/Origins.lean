import TypedSql.Proofs.Analysis.Strictness

/-!
# Origins of result columns

A column of a result is made from expressions of the query: one for each side of the set operations
and each row of the VALUES around it. Where the column is not null, the places of all placeholders
in its strict expressions are not null.

- **Origins**: the expressions that the columns of a query are made from
- **Columns**: what a column vouches for, and how the columns of the parts of a query make others
- **Expressions and queries**: by induction on the tree every construct has a trace, and the columns
  of a query vouch for the placeholders that they are made from
-/

namespace TypedSql

open Canonical

/-! ## Origins -/

/-- The expressions of a select list, one for each column. A column that a star stands for has
none. -/
def targetOrigins (s : Scope) : List Node → List (List Node)
  | [] => []
  | .target _ (some value) _ :: ns =>
    match value.starQualifiers? with
    | some qualifiers =>
      ((s.expandStar qualifiers).toOption.getD []).map (fun _ => []) ++ targetOrigins s ns
    | none => [value] :: targetOrigins s ns
  | _ :: ns => targetOrigins s ns

/-- The expressions of columns, with those of a further row. -/
def addValues : List (List Node) → List Node → List (List Node)
  | es :: origins, n :: ns => (es ++ [n]) :: addValues origins ns
  | origins, [] => origins
  | [], _ => []

/-- The values of a row. -/
def rowItems : Node → List Node
  | .list items => items
  | _ => []

/-- The expressions in the rows of a VALUES, one of each row for each column. -/
def valuesOrigins : List Node → List (List Node)
  | [] => []
  | row :: rows => rows.foldl (fun origins row => addValues origins (rowItems row))
      ((rowItems row).map fun n => [n])

mutual

/-- The expressions that the columns of a query are made from. -/
def Canonical.Select.origins (c : Catalog) (s : Scope) : Select → List (List Node)
  | ⟨ctes, targets, source, _, _, _, _, _, _, _, _, _, rows, operation, _, left, right⟩ =>
    let s : Scope := ⟨[], answered (analyzeCtes c s [] ctes), []⟩ :: s
    if operation ≠ .none then
      List.zipWith (· ++ ·) (sideOrigins c s left) (sideOrigins c s right)
    else if !rows.isEmpty then valuesOrigins rows
    else targetOrigins (.ofRelations (answered (analyzeSources c s source)) :: s) targets

/-- The expressions that the columns of a side of a set operation are made from. -/
def Canonical.sideOrigins (c : Catalog) (s : Scope) : Option Select → List (List Node)
  | none => []
  | some q => q.origins c s

end

/-! ## Columns -/

/-- If something made from an expression is not null, then neither are the places of the expression,
provided that it is strict. -/
def Vouches (places : List Parameter) (notNull : Bool) (e : Node) : Prop :=
  e.isStrict = true → Guarantees places (numbersOf e) notNull

/-- A column vouches for all expressions that it is made from. -/
def MadeFrom (places : List Parameter) (column : ResultColumn) (es : List Node) : Prop :=
  ∀ e ∈ es, Vouches places column.notNull e

/-- Every column vouches for the expressions that it is made from. -/
abbrev AllMadeFrom (places : List Parameter) (columns : List ResultColumn)
    (origins : List (List Node)) : Prop := List.Forall₂ (MadeFrom places) columns origins

section Columns

variable {places places' : List Parameter}

theorem Vouches.mono {b b' : Bool} {e : Node} (h : Vouches places b e) (hsub : places ⊆ places')
    (hb : b' = true → b = true) : Vouches places' b' e :=
  fun hstrict hnot => (h hstrict (hb hnot)).mono hsub

theorem AllMadeFrom.mono {columns : List ResultColumn} {origins : List (List Node)}
    (h : AllMadeFrom places columns origins) (hsub : places ⊆ places') :
    AllMadeFrom places' columns origins :=
  h.imp fun _ _ hmade e he => (hmade e he).mono hsub id

theorem AllMadeFrom.zipWith_combine {l r : List ResultColumn} {ls rs : List (List Node)}
    (hl : AllMadeFrom places l ls) (hr : AllMadeFrom places r rs) :
    AllMadeFrom places (List.zipWith .combine l r) (List.zipWith (· ++ ·) ls rs) := by
  induction hl generalizing r rs with
  | nil => exact .nil
  | cons hleft _ ih =>
    cases hr with
    | nil => exact .nil
    | cons hright hr =>
      refine .cons (List.forall_mem_append.mpr ⟨fun e he => ?_, fun e he => ?_⟩) (ih hr)
      · exact (hleft e he).mono (List.Subset.refl _) fun h => (Bool.and_eq_true_iff.mp h).1
      · exact (hright e he).mono (List.Subset.refl _) fun h => (Bool.and_eq_true_iff.mp h).2

/-- Every value of a row vouches for itself. -/
abbrev RowVouches (places : List Parameter) (is : List Inferred) (ns : List Node) : Prop :=
  List.Forall₂ (fun i n => Vouches places i.notNull n) is ns

theorem rowColumns_madeFrom (position : Nat) {is : List Inferred} {ns : List Node}
    (h : RowVouches places is ns) :
    AllMadeFrom places (rowColumns position is) (ns.map fun n => [n]) := by
  induction h generalizing position with
  | nil => exact .nil
  | cons hi _ ih => exact .cons (List.forall_mem_singleton.mpr hi) (ih (position + 1))

theorem AllMadeFrom.weakenColumns {columns : List ResultColumn} {origins : List (List Node)}
    (h : AllMadeFrom places columns origins) {is : List Inferred} {ns : List Node}
    (hrow : RowVouches places is ns) :
    AllMadeFrom places (weakenColumns columns is) (addValues origins ns) := by
  -- a row that is too short leaves the columns behind it as they are
  induction h generalizing is ns with
  | nil => cases hrow <;> exact .nil
  | cons hcolumn hcolumns ih =>
    cases hrow with
    | nil => exact .cons hcolumn hcolumns
    | cons hi hrow =>
      refine .cons (List.forall_mem_append.mpr ⟨fun e he => ?_, ?_⟩) (ih hrow)
      · -- what the column was made from so far still vouches for it
        exact (hcolumn e he).mono (List.Subset.refl _) fun h => (Bool.and_eq_true_iff.mp h).1
      · -- so does the value of this row, since the column is NOT NULL only if the value is
        refine List.forall_mem_singleton.mpr (hi.mono (List.Subset.refl _) fun h => ?_)
        exact (Bool.and_eq_true_iff.mp h).2

theorem valuesColumns_madeFrom {rows : List (List Inferred)} {ns : List Node}
    (h : List.Forall₂ (fun row n => RowVouches places row (rowItems n)) rows ns) :
    AllMadeFrom places (valuesColumns rows) (valuesOrigins ns) := by
  cases h with
  | nil => exact .nil
  | @cons row n rows ns hrow hrows =>
    have hfirst := rowColumns_madeFrom 1 hrow
    show AllMadeFrom places (rows.foldl TypedSql.weakenColumns (rowColumns 1 row))
      (ns.foldl (fun origins row => addValues origins (rowItems row)) _)
    generalize rowColumns 1 row = columns, (rowItems n).map (fun n => [n]) = origins at hfirst
    -- every further row takes part in every column
    induction hrows generalizing columns origins with
    | nil => exact hfirst
    | cons hrow _ ih => exact ih _ _ (hfirst.weakenColumns hrow)

theorem starColumns_madeFrom (columns : List ResultColumn) :
    AllMadeFrom places columns (columns.map fun _ => []) := by
  induction columns with
  | nil => exact .nil
  | cons column columns ih => exact .cons (List.forall_mem_nil _) ih

theorem RowVouches.mono {is : List Inferred} {ns : List Node} (h : RowVouches places is ns)
    (hsub : places ⊆ places') : RowVouches places' is ns :=
  h.imp fun _ _ hvouches => hvouches.mono hsub id

/-- An expression that is not strict has nothing to vouch for. -/
theorem inferExpr_vouches {c : Catalog} {s : Scope} {hint : Option Hint} {n : Node}
    (htracks : Tracks (numbersOf n) fun f => inferExpr c s hint (n.renumber f)) :
    Traced (numbersOf n) (fun i places => Vouches places i.notNull n)
      fun f => inferExpr c s hint (n.renumber f) := by
  by_cases hstrict : n.isStrict = true
  · exact (inferExpr_firm hint n hstrict).mono (.of_perm (.refl _)) fun _ _ h _ => h
  · exact htracks.mono (.of_perm (.refl _)) fun _ _ _ h => absurd h hstrict

end Columns

/-! ## Expressions and queries -/

variable {c : Catalog}

/-- The scope in which the parts of a query stand: it knows the queries of the WITH clause. -/
def Canonical.Select.bodyScope (c : Catalog) (s : Scope) (q : Select) : Scope :=
  ⟨[], answered (analyzeCtes c s [] q.ctes), []⟩ :: s

/-- The scope of the select list of a plain query: it knows the relations of the FROM clause. -/
def Canonical.Select.rowScope (c : Catalog) (s : Scope) (q : Select) : Scope :=
  .ofRelations (answered (analyzeSources c (q.bodyScope c s) q.source)) :: q.bodyScope c s

/-- The parts of a query that its columns are not made from can be traced. -/
structure Canonical.Select.PartsTrack (c : Catalog) (s : Scope) (q : Select) : Prop where
  ctes : Tracks (numbersOf q.ctes) fun f => analyzeCtes c s [] (renumberNamed f q.ctes)
  source : ∀ s, Tracks (numbersOf q.source) fun f => analyzeSources c s (renumberAll f q.source)
  all : ∀ ns ∈ [q.joinConditions, q.distinctOn, q.groupBy, q.orderBy], ∀ s,
    Tracks (numbersOf ns) fun f => inferAll c s none (renumberAll f ns)
  option : ∀ n ∈ [q.condition, q.having, q.limit, q.offset], ∀ s hint,
    Tracks (numbersOf n) fun f => inferOption c s hint (renumberOption f n)
  windows : ∀ s, Tracks (numbersOf q.windows)
    fun f => analyzeWindows c s (renumberWindows f q.windows)

/-- A query can be traced if its parts can. Its columns are those of its sides, of its rows or of
its select list; all else is taken for its bindings. -/
theorem select_traced_of {s : Scope} {hints : List Hint} {q : Select}
    {L R T Q : List ResultColumn → List Parameter → Prop}
    {V : List (List Inferred) → List Parameter → Prop} (hparts : q.PartsTrack c s)
    (hleft : Traced (numbersOf q.left) L
      fun f => analyzeSide c (q.bodyScope c s) hints (renumberSide f q.left))
    (hright : Traced (numbersOf q.right) R
      fun f => analyzeSide c (q.bodyScope c s) hints (renumberSide f q.right))
    (hrows : Traced (numbersOf q.rows) V
      fun f => inferRows c (q.bodyScope c s) hints (renumberAll f q.rows))
    (htargets : Traced (numbersOf q.targets) T
      fun f => analyzeTargets c (q.rowScope c s) hints 0 (renumberAll f q.targets))
    (hcombined : q.operation ≠ .none → ∀ l r placesLeft placesRight places, L l placesLeft →
      R r placesRight → l.length = r.length → placesLeft ⊆ places → placesRight ⊆ places →
        Q (List.zipWith .combine l r) places)
    (hvalues : q.operation = .none → q.rows.isEmpty = false → ∀ rows placesRows places,
      V rows placesRows → placesRows ⊆ places → Q (valuesColumns rows) places)
    (hplain : q.operation = .none → q.rows.isEmpty = true → ∀ columns placesTargets places,
      T columns placesTargets → placesTargets ⊆ places → Q columns places) :
    Traced (numbersOf q) Q fun f => analyzeSelect c s hints (q.renumber f) := by
  obtain ⟨ctes, targets, source, joinConditions, condition, distinctOn, groupBy, having, windows,
    orderBy, limit, offset, rows, operation, all, left, right⟩ := q
  obtain ⟨hctes, hsource, hall, hoption, hwindows⟩ := hparts
  simp only [List.mem_cons, List.not_mem_nil, or_false, forall_eq_or_imp, forall_eq] at hall hoption
  obtain ⟨hjoins, hdistinctOn, hgroupBy, horderBy⟩ := hall
  obtain ⟨hcondition, hhaving, hlimit, hoffset⟩ := hoption
  simp only [Select.renumber, analyzeSelect, isNone_renumberSide, isEmpty_renumberAll]
  refine (hctes.answer (congrArg (analyzeCtes c s []) (renumberableNamed ctes).renumber_id)).split
    (numbersOf left ++ numbersOf right ++ numbersOf distinctOn ++ numbersOf targets ++
      numbersOf source ++ numbersOf joinConditions ++ numbersOf condition ++ numbersOf groupBy ++
      numbersOf having ++ numbersOf windows ++ numbersOf rows ++ numbersOf orderBy ++
      numbersOf limit ++ numbersOf offset) (fun k => ?_) ?_
  · simp [numbersOf, Numbered.walk]
  rintro _ before ⟨-, rfl⟩
  dsimp only [Select.rowScope, Select.bodyScope] at hleft hright hrows htargets
  generalize (⟨[], answered (analyzeCtes c s [] ctes), []⟩ :: s : Scope) = s at *
  split
  · -- a set operation: its columns are made from what both sides are made from
    rename_i hoperation
    split
    · exact .throw_bind
    apply Traced.within
    · apply hleft.bind
      intro l placesLeft hl
      apply hright.bind
      intro r placesRight hr
      apply (combineColumns_traced l r).bind
      rintro columns placesColumns ⟨rfl, hwidth⟩
      apply Traced.keeping (a := List.zipWith .combine l r)
      · exact (horderBy _).discard.next fun _ => (hlimit _ _).discard.next fun _ =>
          (hoffset _ _).discard.map fun _ _ _ => rfl
      · intro placesTail
        refine hcombined hoperation l r placesLeft placesRight _ hl hr hwidth ?_ ?_ <;>
          intro p hp <;> simp [hp]
    · intro k
      simp only [List.count_append, List.count_nil]
      omega
  rename_i hoperation
  have hoperation : operation = .none := not_not.mp hoperation
  split
  · rename_i hsome
    apply Traced.within
    · apply hrows.bind
      intro rowsInferred placesRows hrow
      apply Traced.keeping (a := valuesColumns rowsInferred)
      · exact (hlimit _ _).discard.next fun _ => (hoffset _ _).discard.map fun _ _ _ => rfl
      · intro placesTail
        refine hvalues hoperation (by simpa using hsome) _ placesRows _ hrow ?_
        exact fun p hp => by simp [hp]
    · intro k
      simp only [List.count_append]
      omega
  · -- a plain query: its columns are made from its select list
    rename_i hempty
    apply Traced.within
    · apply ((hsource s).answer
        (congrArg (analyzeSources c s) (renumberableAll source).renumber_id)).bind
      rintro _ placesSource ⟨-, rfl⟩
      apply (hjoins _).discard.bind
      intro _ placesJoins _
      apply (hcondition _ none).discard.bind
      intro _ placesCondition _
      apply htargets.bind
      intro columns placesTargets hcolumns
      apply Traced.keeping (a := columns)
      · exact (hdistinctOn _).discard.next fun _ => (hgroupBy _).discard.next fun _ =>
          (hhaving _ none).discard.next fun _ => (hwindows _).next fun _ =>
          (horderBy _).discard.next fun _ => (hlimit _ _).discard.next fun _ =>
          (hoffset _ _).discard.map fun _ _ _ => rfl
      · intro placesTail
        refine hplain hoperation (by simpa using hempty) columns placesTargets _ hcolumns ?_
        exact fun p hp => by simp [hp]
    · intro k
      simp only [List.count_append]
      omega

mutual

theorem inferExpr_tracks (s : Scope) (hint : Option Hint) (n : Node) :
    Tracks (numbersOf n) fun f => inferExpr c s hint (n.renumber f) := by
  match n with
  | .column fields =>
    exact (inferColumn_tracks fields).within fun k => Nat.zero_le _
  | .param number location =>
    exact (bindParam_traced number hint).mono (fun k => Nat.le_refl _) fun _ _ _ => trivial
  | .literal value => exact .pure trivial
  | .logic op args => exact (inferAll_tracks s none args).last
  -- without a right operand nothing is read
  | .operator name left none => cases left <;> exact .throw
  | .operator name none (some right) => exact (inferExpr_tracks s none right).last
  | .operator name (some left) (some right) =>
    -- the operands may be read in either order, so their places are only counted
    apply Traced.within
    · exact inferBinary_traced name (inferExpr_tracks s · left) (inferExpr_tracks s · right)
        fun _ _ _ _ _ _ _ _ _ => trivial
    · exact fun k => by simp [numbersOf, Numbered.walk]
  | .nullTest arg isNull => exact (inferExpr_tracks s none arg).discard.last
  | .cast arg type => exact (inferExpr_tracks s _ arg).last
  | .call ⟨name, args, orderBy, filter, window, star, distinct⟩ =>
    refine ((inferAll_tracks s none args).next fun is =>
      (inferAll_tracks s none orderBy).discard.next fun _ =>
      (inferOption_tracks s none filter).discard.next fun _ =>
      (analyzeOver_tracks s window).last).within fun k => ?_
    simp [numbersOf, Numbered.walk]
  | .case operand branches default =>
    refine ((inferOption_tracks s none operand).next fun i =>
      (inferBranches_tracks s _ branches).next fun is =>
      (inferOption_tracks s none default).last).within fun k => ?_
    simp [numbersOf, Numbered.walk]
  | .sublink kind test query negated =>
    refine (inferSublink_tracks kind negated (inferOption_tracks s · test)
      (analyzeSublink_tracks s query)).within fun k => ?_
    simp [numbersOf, Numbered.walk]
    omega
  | .select query =>
    -- the first column of the subquery is all that is kept of it
    refine (analyzeSelect_traced s [] query).split [] (fun k => ?_) fun columns _ _ => ?_
    · simp [numbersOf, Numbered.walk]
    · cases columns <;> exact .pure trivial
  | .list items => exact (inferAll_tracks s hint items).last
  | .unsupported construct params => exact (bindAll_tracks params).last
  | .schemaChange _ | .insert _ | .update _ | .delete _ | .target .. | .table _ | .derived ..
  | .name _ | .star => exact .throw
termination_by structural n

theorem inferAll_tracks (s : Scope) (hint : Option Hint) (ns : List Node) :
    Tracks (numbersOf ns) fun f => inferAll c s hint (renumberAll f ns) := by
  match ns with
  | [] => exact .pure trivial
  | n :: ns =>
    exact ((inferExpr_tracks s hint n).next fun i => (inferAll_tracks s hint ns).last).within
      fun k => by simp [numbersOf, Numbered.walk]
termination_by structural ns

theorem inferOption_tracks (s : Scope) (hint : Option Hint) (n : Option Node) :
    Tracks (numbersOf n) fun f => inferOption c s hint (renumberOption f n) := by
  match n with
  | none => exact .pure trivial
  | some n => exact (inferExpr_tracks s hint n).last
termination_by structural n

theorem inferBranches_tracks (s : Scope) (hint : Option Hint) (bs : List Branch) :
    Tracks (numbersOf bs) fun f => inferBranches c s hint (renumberBranches f bs) := by
  match bs with
  | [] => exact .pure trivial
  | ⟨condition, result⟩ :: bs =>
    exact ((inferExpr_tracks s hint condition).discard.next fun _ =>
      (inferExpr_tracks s none result).next fun i => (inferBranches_tracks s hint bs).last).within
      fun k => by simp [numbersOf, Numbered.walk]
termination_by structural bs

theorem analyzeSublink_tracks (s : Scope) (n : Option Node) :
    Tracks (numbersOf n) fun f => analyzeSublink c s (renumberOption f n) := by
  match n with
  | none => exact .pure trivial
  | some n =>
    match n with
    | .select query => exact (analyzeSelect_traced s [] query).forget
    | .schemaChange _ | .insert _ | .update _ | .delete _ | .logic .. | .operator .. | .column _
    | .param .. | .sublink .. | .call _ | .cast .. | .nullTest .. | .case .. | .literal _
    | .target .. | .table _ | .derived .. | .list _ | .unsupported .. | .name _ | .star =>
      exact (inferExpr_tracks s none _).discard.last
termination_by structural n

theorem analyzeOver_tracks (s : Scope) (w : Option Window) :
    Tracks (numbersOf w) fun f => analyzeOver c s (renumberOver f w) := by
  match w with
  | none => exact .pure trivial
  | some w => exact analyzeWindow_tracks s w
termination_by structural w

theorem analyzeWindow_tracks (s : Scope) (w : Window) :
    Tracks (numbersOf w) fun f => analyzeWindow c s (w.renumber f) := by
  match w with
  | ⟨name, base, partitionBy, orderBy, startOffset, endOffset⟩ =>
    exact ((inferAll_tracks s none partitionBy).discard.next fun _ =>
      (inferAll_tracks s none orderBy).discard.next fun _ =>
      (inferOption_tracks s _ startOffset).discard.next fun _ =>
      (inferOption_tracks s _ endOffset).discard).within
      fun k => by simp [numbersOf, Numbered.walk]
termination_by structural w

theorem analyzeWindows_tracks (s : Scope) (ws : List Window) :
    Tracks (numbersOf ws) fun f => analyzeWindows c s (renumberWindows f ws) := by
  match ws with
  | [] => exact .pure trivial
  | w :: ws =>
    exact ((analyzeWindow_tracks s w).next fun _ => analyzeWindows_tracks s ws).within
      fun k => by simp [numbersOf, Numbered.walk]
termination_by structural ws

theorem analyzeSelect_traced (s : Scope) (hints : List Hint) (q : Select) :
    Traced (numbersOf q) (fun columns places => AllMadeFrom places columns (q.origins c s))
      fun f => analyzeSelect c s hints (q.renumber f) := by
  match q with
  | ⟨ctes, targets, source, joinConditions, condition, distinctOn, groupBy, having, windows,
      orderBy, limit, offset, rows, operation, all, left, right⟩ =>
    refine select_traced_of ⟨analyzeCtes_tracks s [] ctes, (analyzeSources_tracks · source), ?_, ?_,
        (analyzeWindows_tracks · windows)⟩ (analyzeSide_traced _ hints left)
      (analyzeSide_traced _ hints right) (inferRows_traced _ hints rows)
      (analyzeTargets_traced _ hints 0 targets) ?_ ?_ ?_
    · simp only [List.mem_cons, List.not_mem_nil, or_false, forall_eq_or_imp, forall_eq]
      exact ⟨(inferAll_tracks · none joinConditions), (inferAll_tracks · none distinctOn),
        (inferAll_tracks · none groupBy), (inferAll_tracks · none orderBy)⟩
    · simp only [List.mem_cons, List.not_mem_nil, or_false, forall_eq_or_imp, forall_eq]
      exact ⟨(inferOption_tracks · · condition), (inferOption_tracks · · having),
        (inferOption_tracks · · limit), (inferOption_tracks · · offset)⟩
    · -- a column of a set operation is made from what the columns of both sides are made from
      intro hoperation l r placesLeft placesRight places hl hr _ hsubLeft hsubRight
      rw [Select.origins, if_pos hoperation]
      exact (hl.mono hsubLeft).zipWith_combine (hr.mono hsubRight)
    · -- a VALUES: column by column, from the values of all its rows
      intro hoperation hsome rowsInferred placesRows places hrows hsub
      rw [Select.origins, if_neg (not_not_intro hoperation), if_pos (by simpa using hsome)]
      exact (valuesColumns_madeFrom hrows).mono hsub
    · -- a plain SELECT: from its targets
      intro hoperation hempty columns placesTargets places hcolumns hsub
      rw [Select.origins, if_neg (not_not_intro hoperation), if_neg (by simpa using hempty)]
      exact hcolumns.mono hsub
termination_by structural q

theorem analyzeSide_traced (s : Scope) (hints : List Hint) (q : Option Select) :
    Traced (numbersOf q) (fun columns places => AllMadeFrom places columns (sideOrigins c s q))
      fun f => analyzeSide c s hints (renumberSide f q) := by
  match q with
  | none => exact .throw
  | some q => exact analyzeSelect_traced s hints q
termination_by structural q

theorem analyzeCtes_tracks (s : Scope) (defined : List Relation) (qs : List NamedQuery) :
    Tracks (numbersOf qs) fun f => analyzeCtes c s defined (renumberNamed f qs) := by
  match qs with
  | [] => exact .pure trivial
  | ⟨name, n⟩ :: qs =>
    match n with
    | .select query =>
      exact ((analyzeSelect_traced _ [] query).next fun columns =>
        analyzeCtes_tracks s _ qs).within fun k => by simp [numbersOf, Numbered.walk]
    | .schemaChange _ | .insert _ | .update _ | .delete _ | .logic .. | .operator .. | .column _
    | .param .. | .sublink .. | .call _ | .cast .. | .nullTest .. | .case .. | .literal _
    | .target .. | .table _ | .derived .. | .list _ | .unsupported .. | .name _ | .star =>
      exact .failed (fun _ => rfl) ⟨_, rfl⟩
termination_by structural qs

theorem inferRows_traced (s : Scope) (hints : List Hint) (ns : List Node) :
    Traced (numbersOf ns)
      (fun rows places => List.Forall₂ (fun row n => RowVouches places row (rowItems n)) rows ns)
      fun f => inferRows c s hints (renumberAll f ns) := by
  match ns with
  | [] => exact .pure .nil
  | n :: rows =>
    match n with
    | .list items =>
      simp only [renumberAll, Node.renumber, inferRows, length_renumberAll]
      -- a row of the wrong length ends the analysis
      split
      · exact .throw_bind
      refine (inferRow_traced s hints items).split (numbersOf rows)
        (fun k => by simp [numbersOf, Numbered.walk]) ?_
      intro row places hrow
      apply (inferRows_traced s hints rows).map
      intro rest places' hrest
      refine .cons (hrow.mono (List.subset_append_left ..)) (hrest.imp fun _ _ h => ?_)
      exact h.mono (List.subset_append_right ..)
    | .schemaChange _ | .insert _ | .update _ | .delete _ | .logic .. | .operator .. | .column _
    | .param .. | .sublink .. | .call _ | .cast .. | .nullTest .. | .case .. | .literal _
    | .target .. | .table _ | .derived .. | .select _ | .unsupported .. | .name _ | .star =>
      exact .throw
termination_by structural ns

theorem inferRow_traced (s : Scope) (hints : List Hint) (ns : List Node) :
    Traced (numbersOf ns) (fun is places => RowVouches places is ns)
      fun f => inferRow c s hints (renumberAll f ns) := by
  match ns with
  | [] => exact .pure .nil
  | n :: ns =>
    refine (inferExpr_vouches (inferExpr_tracks s hints.head? n)).split (numbersOf ns)
      (fun k => by simp [numbersOf, Numbered.walk]) ?_
    intro i places hi
    apply (inferRow_traced s hints.tail ns).map
    intro is places' his
    exact .cons (hi.mono (List.subset_append_left ..) id) (his.mono (List.subset_append_right ..))
termination_by structural ns

theorem analyzeSource_tracks (s : Scope) (n : Node) :
    Tracks (numbersOf n) fun f => analyzeSource c s (n.renumber f) := by
  match n with
  | .table t => exact analyzeTable_tracks t
  | .derived query aliasName nullable =>
    match query with
    | .select query => exact (analyzeSelect_traced s [] query).last
    | .schemaChange _ | .insert _ | .update _ | .delete _ | .logic .. | .operator .. | .column _
    | .param .. | .sublink .. | .call _ | .cast .. | .nullTest .. | .case .. | .literal _
    | .target .. | .table _ | .derived .. | .list _ | .unsupported .. | .name _ | .star =>
      exact .throw
  | .unsupported construct params => exact (bindAll_tracks params).last
  | .schemaChange _ | .insert _ | .select _ | .update _ | .delete _ | .logic .. | .operator ..
  | .column _ | .param .. | .sublink .. | .call _ | .cast .. | .nullTest .. | .case .. | .literal _
  | .target .. | .list _ | .name _ | .star => exact .failed (fun _ => rfl) ⟨_, rfl⟩
termination_by structural n

theorem analyzeSources_tracks (s : Scope) (ns : List Node) :
    Tracks (numbersOf ns) fun f => analyzeSources c s (renumberAll f ns) := by
  match ns with
  | [] => exact .pure trivial
  | n :: ns =>
    exact ((analyzeSource_tracks s n).next fun r => (analyzeSources_tracks s ns).last).within
      fun k => by simp [numbersOf, Numbered.walk]
termination_by structural ns

theorem analyzeTargets_traced (s : Scope) (hints : List Hint) (position : Nat) (ns : List Node) :
    Traced (numbersOf ns) (fun columns places => AllMadeFrom places columns (targetOrigins s ns))
      fun f => analyzeTargets c s hints position (renumberAll f ns) := by
  match ns with
  | [] => exact .pure .nil
  | n :: ns =>
    match n with
    | .target name (some value) location =>
      simp only [renumberAll, Node.renumber, renumberOption, analyzeTargets,
        Node.starQualifiers?_renumber, defaultName_renumber, targetOrigins]
      cases value.starQualifiers? with
      -- the columns of a star are made from no node of the tree
      | some qualifiers =>
        dsimp only
        cases s.expandStar qualifiers with
        | error e => exact .throw
        | ok columns =>
          refine ((analyzeTargets_traced s hints _ ns).map ?_).mono (fun k => ?_) fun _ _ => id
          · exact fun rest places hrest => List.rel_append (starColumns_madeFrom columns) hrest
          · simp [numbersOf, Numbered.walk]
            omega
      | none =>
        refine (inferExpr_vouches (inferExpr_tracks s _ value)).split (numbersOf ns)
          (fun k => by simp [numbersOf, Numbered.walk]) ?_
        intro i places hi
        apply (analyzeTargets_traced s hints _ ns).map
        intro rest places' hrest
        refine .cons (List.forall_mem_singleton.mpr ?_) (hrest.mono (List.subset_append_right ..))
        exact hi.mono (List.subset_append_left ..) id
    | .target name none location => exact .throw
    | .schemaChange _ | .insert _ | .select _ | .update _ | .delete _ | .logic .. | .operator ..
    | .column _ | .param .. | .sublink .. | .call _ | .cast .. | .nullTest .. | .case ..
    | .literal _ | .table _ | .derived .. | .list _ | .unsupported .. | .name _ | .star =>
      exact .failed (fun _ => rfl) ⟨_, rfl⟩
termination_by structural ns

end

theorem Canonical.Select.partsTrack (s : Scope) (q : Select) : q.PartsTrack c s where
  ctes := analyzeCtes_tracks s [] q.ctes
  source := (analyzeSources_tracks · q.source)
  all ns _ := (inferAll_tracks · none ns)
  option n _ := (inferOption_tracks · · n)
  windows := (analyzeWindows_tracks · q.windows)

end TypedSql
