import TypedSql.Canonical.Walk

/-!
# Open tables

The tables that a tree reads from and leaves to its surroundings to define. A name without a schema
that a WITH clause inside the tree defines is not among them where the clause is in force: in the
queries of the clause that come later, and in the query that the clause belongs to.

- `openTables`: the open tables of every class of syntax
- `Select.bodyTables`: those of a query, before its own WITH clause is taken into account
- **Walks**: every open table is a node of the tree
-/

namespace TypedSql.Canonical

/-- Whether a query of a WITH clause with a name is what a reference to a table can mean. -/
def TableRef.mayName (t : TableRef) (name : String) : Bool := t.schema.isNone && name = t.name

/-- The tables among others that a query of a WITH clause with a name leaves open. -/
def leaveOpen (name : String) (ts : List TableRef) : List TableRef :=
  ts.filter fun t => !t.mayName name

mutual

/-- The tables that a node leaves open. Names, and what has no canonical form, read from none. -/
def Node.openTables : Node → List TableRef
  | .select s => s.openTables
  | .logic _ args => openAll args
  | .operator _ left right => openOption left ++ openOption right
  | .sublink _ test query _ => openOption test ++ openOption query
  | .call c => c.openTables
  | .cast arg _ => arg.openTables
  | .nullTest arg _ => arg.openTables
  | .case operand branches default =>
    openOption operand ++ openBranches branches ++ openOption default
  | .target _ value _ => openOption value
  | .table ref => [ref]
  | .derived query _ _ => query.openTables
  | .list items => openAll items
  | _ => []

/-- The tables that the nodes of a list leave open. -/
def openAll : List Node → List TableRef
  | [] => []
  | n :: ns => n.openTables ++ openAll ns

/-- The tables that are left open by what may be absent. -/
def openOption : Option Node → List TableRef
  | none => []
  | some n => n.openTables

/-- The tables that a query leaves open. -/
def Select.openTables : Select → List TableRef
  | ⟨ctes, targets, source, joinConditions, condition, distinctOn, groupBy, having, windows,
      orderBy, limit, offset, rows, _, _, left, right⟩ =>
    openNamed ctes (openSide left ++ openSide right ++ openAll targets ++ openAll source ++
      openAll joinConditions ++ openOption condition ++ openAll distinctOn ++ openAll groupBy ++
      openOption having ++ openWindows windows ++ openAll rows ++ openAll orderBy ++
      openOption limit ++ openOption offset)

/-- The tables that a side of a set operation leaves open. -/
def openSide : Option Select → List TableRef
  | none => []
  | some s => s.openTables

/-- The tables that a WITH clause leaves open, together with those of the query behind it. -/
def openNamed : List NamedQuery → List TableRef → List TableRef
  | [], body => body
  | ⟨name, query⟩ :: qs, body => query.openTables ++ leaveOpen name (openNamed qs body)

/-- The tables that a function call leaves open. -/
def Call.openTables : Call → List TableRef
  | ⟨_, args, orderBy, filter, window, _, _⟩ =>
    openAll args ++ openAll orderBy ++ openOption filter ++ openOver window

/-- The tables that the window of a call leaves open. -/
def openOver : Option Window → List TableRef
  | none => []
  | some w => w.openTables

/-- The tables that a window leaves open. -/
def Window.openTables : Window → List TableRef
  | ⟨_, _, partitionBy, orderBy, startOffset, endOffset⟩ =>
    openAll partitionBy ++ openAll orderBy ++ openOption startOffset ++ openOption endOffset

/-- The tables that the windows of a WINDOW clause leave open. -/
def openWindows : List Window → List TableRef
  | [] => []
  | w :: ws => w.openTables ++ openWindows ws

/-- The tables that the branches of a CASE expression leave open. -/
def openBranches : List Branch → List TableRef
  | [] => []
  | ⟨condition, result⟩ :: bs => condition.openTables ++ result.openTables ++ openBranches bs

end

attribute [simp] Node.openTables openAll openOption openSide Call.openTables openOver
  Window.openTables openWindows openBranches

/-- The tables that the clauses of a query leave open, without a look at its WITH clause. -/
def Select.bodyTables (q : Select) : List TableRef := Select.openTables { q with ctes := [] }

theorem Select.openTables_eq (q : Select) : q.openTables = openNamed q.ctes q.bodyTables := by
  cases q
  rfl

theorem mem_leaveOpen_or (name : String) {ts : List TableRef} {t : TableRef} (h : t ∈ ts) :
    t ∈ leaveOpen name ts ∨ t.mayName name = true := by
  cases hname : t.mayName name with
  | true => exact .inr rfl
  | false => exact .inl (List.mem_filter.mpr ⟨h, by rw [hname]; rfl⟩)

/-- What the query behind a WITH clause leaves open is left open by both together, or else it has
the name of a query of the clause. -/
theorem mem_openNamed_of_mem {body : List TableRef} (qs : List NamedQuery) {t : TableRef}
    (h : t ∈ body) : t ∈ openNamed qs body ∨ ∃ q ∈ qs, t.mayName q.name = true := by
  induction qs with
  | nil => exact .inl h
  | cons q qs ih =>
    obtain ⟨name, query⟩ := q
    rcases ih with h | ⟨q, hq, hname⟩
    · rcases mem_leaveOpen_or name h with h | hname
      · exact .inl (List.mem_append_right _ h)
      · exact .inr ⟨_, List.mem_cons_self, hname⟩
    · exact .inr ⟨q, List.mem_cons_of_mem _ hq, hname⟩

/-! ## Walks -/

theorem mem_of_mem_leaveOpen {name : String} {ts : List TableRef} {t : TableRef}
    (h : t ∈ leaveOpen name ts) : t ∈ ts := (List.mem_filter.mp h).1

mutual

/-- An open table is a node of the tree. -/
theorem Node.mem_walk_of_open (n : Node) {t : TableRef} (h : t ∈ n.openTables) :
    .table t ∈ n.walk := by
  match n with
  | .select s => exact List.mem_cons_of_mem _ (s.mem_walk_of_open h)
  | .logic op args => exact List.mem_cons_of_mem _ (mem_walkAll_of_open args h)
  | .operator name left right =>
    refine List.mem_cons_of_mem _ (List.mem_append.mpr ((List.mem_append.mp h).imp ?_ ?_))
    · exact fun h => mem_walkOption_of_open left h
    · exact fun h => mem_walkOption_of_open right h
  | .sublink kind test query negated =>
    refine List.mem_cons_of_mem _ (List.mem_append.mpr ((List.mem_append.mp h).imp ?_ ?_))
    · exact fun h => mem_walkOption_of_open test h
    · exact fun h => mem_walkOption_of_open query h
  | .call c => exact List.mem_cons_of_mem _ (c.mem_walk_of_open h)
  | .cast arg type => exact List.mem_cons_of_mem _ (arg.mem_walk_of_open h)
  | .nullTest arg isNull => exact List.mem_cons_of_mem _ (arg.mem_walk_of_open h)
  | .case operand branches default =>
    refine List.mem_cons_of_mem _ ?_
    simp only [Node.openTables, List.mem_append] at h ⊢
    rcases h with (h | h) | h
    · exact .inl (.inl (mem_walkOption_of_open operand h))
    · exact .inl (.inr (mem_walkBranches_of_open branches h))
    · exact .inr (mem_walkOption_of_open default h)
  | .target name value location => exact List.mem_cons_of_mem _ (mem_walkOption_of_open value h)
  | .table ref =>
    cases List.mem_singleton.mp h
    exact List.mem_singleton_self _
  | .derived query aliasName nullable => exact List.mem_cons_of_mem _ (query.mem_walk_of_open h)
  | .list items => exact List.mem_cons_of_mem _ (mem_walkAll_of_open items h)
termination_by structural n

theorem mem_walkAll_of_open (ns : List Node) {t : TableRef} (h : t ∈ openAll ns) :
    .table t ∈ walkAll ns := by
  match ns with
  | n :: ns =>
    refine List.mem_append.mpr ((List.mem_append.mp h).imp ?_ ?_)
    · exact fun h => n.mem_walk_of_open h
    · exact fun h => mem_walkAll_of_open ns h
termination_by structural ns

theorem mem_walkOption_of_open (n : Option Node) {t : TableRef} (h : t ∈ openOption n) :
    .table t ∈ walkOption n := by
  match n with
  | some n => exact n.mem_walk_of_open h
termination_by structural n

theorem Select.mem_walk_of_open (s : Select) {t : TableRef} (h : t ∈ s.openTables) :
    .table t ∈ s.walk := by
  match s with
  | ⟨ctes, targets, source, joinConditions, condition, distinctOn, groupBy, having, windows,
      orderBy, limit, offset, rows, operation, all, left, right⟩ =>
    -- each open table stands in one clause, and the walk passes through every clause
    simp only [Select.walk, List.mem_append]
    rcases mem_openNamed ctes h with h | h
    · simp only [h, true_or]
    · simp only [List.mem_append] at h
      rcases h with ((((((((((((h | h) | h) | h) | h) | h) | h) | h) | h) | h) | h) | h) | h) | h
      · simp only [mem_walkSide_of_open left h, true_or, or_true]
      · simp only [mem_walkSide_of_open right h, true_or, or_true]
      · simp only [mem_walkAll_of_open targets h, true_or, or_true]
      · simp only [mem_walkAll_of_open source h, true_or, or_true]
      · simp only [mem_walkAll_of_open joinConditions h, true_or, or_true]
      · simp only [mem_walkOption_of_open condition h, true_or, or_true]
      · simp only [mem_walkAll_of_open distinctOn h, true_or, or_true]
      · simp only [mem_walkAll_of_open groupBy h, true_or, or_true]
      · simp only [mem_walkOption_of_open having h, true_or, or_true]
      · simp only [mem_walkWindows_of_open windows h, true_or, or_true]
      · simp only [mem_walkAll_of_open rows h, true_or, or_true]
      · simp only [mem_walkAll_of_open orderBy h, true_or, or_true]
      · simp only [mem_walkOption_of_open limit h, true_or, or_true]
      · simp only [mem_walkOption_of_open offset h, or_true]
termination_by structural s

theorem mem_walkSide_of_open (s : Option Select) {t : TableRef} (h : t ∈ openSide s) :
    .table t ∈ walkSide s := by
  match s with
  | some s => exact s.mem_walk_of_open h
termination_by structural s

theorem mem_openNamed (qs : List NamedQuery) {body : List TableRef} {t : TableRef}
    (h : t ∈ openNamed qs body) : .table t ∈ walkNamed qs ∨ t ∈ body := by
  match qs with
  | [] => exact .inr h
  | ⟨name, query⟩ :: qs =>
    rcases List.mem_append.mp h with h | h
    · exact .inl (List.mem_append_left _ (query.mem_walk_of_open h))
    · exact (mem_openNamed qs (mem_of_mem_leaveOpen h)).imp_left (List.mem_append_right _)
termination_by structural qs

theorem Call.mem_walk_of_open (c : Call) {t : TableRef} (h : t ∈ c.openTables) :
    .table t ∈ c.walk := by
  match c with
  | ⟨name, args, orderBy, filter, window, star, distinct⟩ =>
    simp only [Call.openTables, Call.walk, List.mem_append] at h ⊢
    rcases h with ((h | h) | h) | h
    · exact .inl (.inl (.inl (mem_walkAll_of_open args h)))
    · exact .inl (.inl (.inr (mem_walkAll_of_open orderBy h)))
    · exact .inl (.inr (mem_walkOption_of_open filter h))
    · exact .inr (mem_walkOver_of_open window h)
termination_by structural c

theorem mem_walkOver_of_open (w : Option Window) {t : TableRef} (h : t ∈ openOver w) :
    .table t ∈ walkOver w := by
  match w with
  | some w => exact w.mem_walk_of_open h
termination_by structural w

theorem Window.mem_walk_of_open (w : Window) {t : TableRef} (h : t ∈ w.openTables) :
    .table t ∈ w.walk := by
  match w with
  | ⟨name, base, partitionBy, orderBy, startOffset, endOffset⟩ =>
    simp only [Window.openTables, Window.walk, List.mem_append] at h ⊢
    rcases h with ((h | h) | h) | h
    · exact .inl (.inl (.inl (mem_walkAll_of_open partitionBy h)))
    · exact .inl (.inl (.inr (mem_walkAll_of_open orderBy h)))
    · exact .inl (.inr (mem_walkOption_of_open startOffset h))
    · exact .inr (mem_walkOption_of_open endOffset h)
termination_by structural w

theorem mem_walkWindows_of_open (ws : List Window) {t : TableRef} (h : t ∈ openWindows ws) :
    .table t ∈ walkWindows ws := by
  match ws with
  | w :: ws =>
    refine List.mem_append.mpr ((List.mem_append.mp h).imp ?_ ?_)
    · exact fun h => w.mem_walk_of_open h
    · exact fun h => mem_walkWindows_of_open ws h
termination_by structural ws

theorem mem_walkBranches_of_open (bs : List Branch) {t : TableRef} (h : t ∈ openBranches bs) :
    .table t ∈ walkBranches bs := by
  match bs with
  | ⟨condition, result⟩ :: bs =>
    simp only [openBranches, walkBranches, List.mem_append] at h ⊢
    rcases h with (h | h) | h
    · exact .inl (.inl (condition.mem_walk_of_open h))
    · exact .inl (.inr (result.mem_walk_of_open h))
    · exact .inr (mem_walkBranches_of_open bs h)
termination_by structural bs

end

theorem Select.mem_walk_of_bodyTables {q : Select} {t : TableRef} (h : t ∈ q.bodyTables) :
    .table t ∈ q.walk := by
  have hwalk := Select.mem_walk_of_open { q with ctes := [] } h
  cases q
  simp only [Select.walk, walkNamed, List.nil_append, List.append_assoc] at hwalk ⊢
  exact List.mem_append_right _ hwalk

end TypedSql.Canonical
