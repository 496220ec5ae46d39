import TypedSql.Proofs.Conversion.LevelMarks

/-!
# Similar trees

When two canonical trees are the same up to certain parts. What may differ is a parameter: the
numbers and locations of placeholders, the locations of targets, the placeholders of constructs
without canonical form, and the queries below the tests of IN and EXISTS.

- `Kinship`: what may differ
- `Node.Similar`, `Select.Similar` and the like: one relation for each kind of tree, with one
  constructor for each form
- **Operations**: what a conversion makes of similar trees is similar
- **Identity**: similar trees are equal if nothing may differ
-/

namespace TypedSql.Canonical

/-- What may differ between two trees. -/
structure Kinship where
  /-- The number and the location of a placeholder. -/
  param : Nat × Nat → Nat × Nat → Prop
  /-- The location of a target. -/
  location : Nat → Nat → Prop
  /-- The placeholders of a construct without canonical form. -/
  params : List Node → List Node → Prop
  /-- The queries below a test. -/
  tested : Option Node → Option Node → Prop

/-- Lists with related entries, between which related parts of any lengths may stand. -/
inductive Spliced {α : Type} (R : α → α → Prop) (P : List α → List α → Prop) :
    List α → List α → Prop
  | nil : Spliced R P [] []
  | cons {a a' : α} {as as' : List α} (h : R a a') (hs : Spliced R P as as') :
    Spliced R P (a :: as) (a' :: as')
  | part {ps ps' as as' : List α} (h : P ps ps') (hs : Spliced R P as as') :
    Spliced R P (ps ++ as) (ps' ++ as')

namespace Spliced

variable {α : Type} {R : α → α → Prop} {P : List α → List α → Prop}

theorem of_forall₂ {as as' : List α} (h : List.Forall₂ R as as') : Spliced R P as as' := by
  induction h with
  | nil => exact .nil
  | cons h _ ih => exact .cons h ih

theorem single {ps ps' : List α} (h : P ps ps') : Spliced R P ps ps' := by
  simpa using Spliced.part (R := R) h .nil

theorem append {as as' bs bs' : List α} (h : Spliced R P as as') (h' : Spliced R P bs bs') :
    Spliced R P (as ++ bs) (as' ++ bs') := by
  induction h with
  | nil => exact h'
  | cons h _ ih => exact .cons h ih
  | part h _ ih =>
    rw [List.append_assoc, List.append_assoc]
    exact .part h ih

end Spliced

/-! ## Trees -/

variable (K : Kinship)

mutual

inductive Node.Similar : Node → Node → Prop
  | schemaChange (change : SchemaChange) :
    Node.Similar (.schemaChange change) (.schemaChange change)
  | insert {i i' : Insert} (h : Insert.Similar i i') : Node.Similar (.insert i) (.insert i')
  | select {s s' : Select} (h : Select.Similar s s') : Node.Similar (.select s) (.select s')
  | update {u u' : Update} (h : Update.Similar u u') : Node.Similar (.update u) (.update u')
  | delete {d d' : Delete} (h : Delete.Similar d d') : Node.Similar (.delete d) (.delete d')
  | logic (op : Connective) {args args' : List Node} (h : List.Forall₂ Node.Similar args args') :
    Node.Similar (.logic op args) (.logic op args')
  | operator (name : String) {left left' right right' : Option Node}
    (hleft : Option.Rel Node.Similar left left') (hright : Option.Rel Node.Similar right right') :
    Node.Similar (.operator name left right) (.operator name left' right')
  | column (fields : List Node) : Node.Similar (.column fields) (.column fields)
  | param {number number' location location' : Nat}
    (h : K.param (number, location) (number', location')) :
    Node.Similar (.param number location) (.param number' location')
  | sublink (kind : SublinkKind) (negated : Bool) {test test' query query' : Option Node}
    (htest : Option.Rel Node.Similar test test') (hquery : Option.Rel Node.Similar query query') :
    Node.Similar (.sublink kind test query negated) (.sublink kind test' query' negated)
  /-- A test of another query. -/
  | sublinkTested (kind : SublinkKind) (negated : Bool) {test test' query query' : Option Node}
    (htest : Option.Rel Node.Similar test test') (hquery : K.tested query query') :
    Node.Similar (.sublink kind test query negated) (.sublink kind test' query' negated)
  | call {c c' : Call} (h : Call.Similar c c') : Node.Similar (.call c) (.call c')
  | cast (type : SqlType) {arg arg' : Node} (h : Node.Similar arg arg') :
    Node.Similar (.cast arg type) (.cast arg' type)
  | nullTest (isNull : Bool) {arg arg' : Node} (h : Node.Similar arg arg') :
    Node.Similar (.nullTest arg isNull) (.nullTest arg' isNull)
  | case {operand operand' default default' : Option Node} {branches branches' : List Branch}
    (hoperand : Option.Rel Node.Similar operand operand')
    (hbranches : List.Forall₂ Branch.Similar branches branches')
    (hdefault : Option.Rel Node.Similar default default') :
    Node.Similar (.case operand branches default) (.case operand' branches' default')
  | literal (value : Literal) : Node.Similar (.literal value) (.literal value)
  | target (name : Option String) {location location' : Nat} {value value' : Option Node}
    (hvalue : Option.Rel Node.Similar value value') (hlocation : K.location location location') :
    Node.Similar (.target name value location) (.target name value' location')
  | table (ref : TableRef) : Node.Similar (.table ref) (.table ref)
  | derived (aliasName : Option String) (nullable : Bool) {query query' : Node}
    (h : Node.Similar query query') :
    Node.Similar (.derived query aliasName nullable) (.derived query' aliasName nullable)
  | list {items items' : List Node} (h : List.Forall₂ Node.Similar items items') :
    Node.Similar (.list items) (.list items')
  | unsupported (construct : String) {params params' : List Node} (h : K.params params params') :
    Node.Similar (.unsupported construct params) (.unsupported construct params')

inductive Select.Similar : Select → Select → Prop
  | mk {s s' : Select} (ctes : List.Forall₂ NamedQuery.Similar s.ctes s'.ctes)
    (targets : List.Forall₂ Node.Similar s.targets s'.targets)
    (source : List.Forall₂ Node.Similar s.source s'.source)
    (joinConditions : Spliced Node.Similar K.params s.joinConditions s'.joinConditions)
    (condition : Option.Rel Node.Similar s.condition s'.condition)
    (distinctOn : List.Forall₂ Node.Similar s.distinctOn s'.distinctOn)
    (groupBy : List.Forall₂ Node.Similar s.groupBy s'.groupBy)
    (having : Option.Rel Node.Similar s.having s'.having)
    (windows : List.Forall₂ Window.Similar s.windows s'.windows)
    (orderBy : List.Forall₂ Node.Similar s.orderBy s'.orderBy)
    (limit : Option.Rel Node.Similar s.limit s'.limit)
    (offset : Option.Rel Node.Similar s.offset s'.offset)
    (rows : List.Forall₂ Node.Similar s.rows s'.rows) (operation : s.operation = s'.operation)
    (all : s.all = s'.all) (left : Option.Rel Select.Similar s.left s'.left)
    (right : Option.Rel Select.Similar s.right s'.right) : Select.Similar s s'

inductive NamedQuery.Similar : NamedQuery → NamedQuery → Prop
  | mk {q q' : NamedQuery} (name : q.name = q'.name) (query : Node.Similar q.query q'.query) :
    NamedQuery.Similar q q'

inductive Insert.Similar : Insert → Insert → Prop
  | mk {i i' : Insert} (table : i.table = i'.table)
    (columns : List.Forall₂ Node.Similar i.columns i'.columns)
    (source : Select.Similar i.source i'.source)
    (conflictTargets : List.Forall₂ Node.Similar i.conflictTargets i'.conflictTargets)
    (conflictCondition : Option.Rel Node.Similar i.conflictCondition i'.conflictCondition)
    (returning : List.Forall₂ Node.Similar i.returning i'.returning) : Insert.Similar i i'

inductive Update.Similar : Update → Update → Prop
  | mk {u u' : Update} (table : u.table = u'.table)
    (targets : List.Forall₂ Node.Similar u.targets u'.targets)
    (source : List.Forall₂ Node.Similar u.source u'.source)
    (joinConditions : Spliced Node.Similar K.params u.joinConditions u'.joinConditions)
    (condition : Option.Rel Node.Similar u.condition u'.condition)
    (returning : List.Forall₂ Node.Similar u.returning u'.returning) : Update.Similar u u'

inductive Delete.Similar : Delete → Delete → Prop
  | mk {d d' : Delete} (table : d.table = d'.table)
    (source : List.Forall₂ Node.Similar d.source d'.source)
    (joinConditions : Spliced Node.Similar K.params d.joinConditions d'.joinConditions)
    (condition : Option.Rel Node.Similar d.condition d'.condition)
    (orderBy : List.Forall₂ Node.Similar d.orderBy d'.orderBy)
    (limit : Option.Rel Node.Similar d.limit d'.limit)
    (returning : List.Forall₂ Node.Similar d.returning d'.returning) : Delete.Similar d d'

inductive Call.Similar : Call → Call → Prop
  | mk {c c' : Call} (name : c.name = c'.name) (args : List.Forall₂ Node.Similar c.args c'.args)
    (orderBy : List.Forall₂ Node.Similar c.orderBy c'.orderBy)
    (filter : Option.Rel Node.Similar c.filter c'.filter)
    (window : Option.Rel Window.Similar c.window c'.window) (star : c.star = c'.star)
    (distinct : c.distinct = c'.distinct) : Call.Similar c c'

inductive Window.Similar : Window → Window → Prop
  | mk {w w' : Window} (name : w.name = w'.name) (base : w.base = w'.base)
    (partitionBy : List.Forall₂ Node.Similar w.partitionBy w'.partitionBy)
    (orderBy : List.Forall₂ Node.Similar w.orderBy w'.orderBy)
    (startOffset : Option.Rel Node.Similar w.startOffset w'.startOffset)
    (endOffset : Option.Rel Node.Similar w.endOffset w'.endOffset) : Window.Similar w w'

inductive Branch.Similar : Branch → Branch → Prop
  | mk {b b' : Branch} (condition : Node.Similar b.condition b'.condition)
    (result : Node.Similar b.result b'.result) : Branch.Similar b b'

end

variable {K}

/-- Queries that select nothing from nowhere. -/
theorem Select.Similar.empty : Select.Similar K .empty .empty :=
  .mk .nil .nil .nil .nil .none .nil .nil .none .nil .nil .none .none .nil rfl rfl .none .none

/-! ## Operations -/

section Lists

variable {α : Type} {R : α → α → Prop} {as as' bs bs' : List α} {a a' b b' : Option α}

theorem forall₂_toList (h : Option.Rel R a a') : List.Forall₂ R a.toList a'.toList := by
  cases h with
  | none => exact .nil
  | some h => exact .cons h .nil

theorem rel_or (h : Option.Rel R a a') (h' : Option.Rel R b b') :
    Option.Rel R (a.or b) (a'.or b') := by
  cases h with
  | none => exact h'
  | some h => exact .some h

theorem isEmpty_eq (h : List.Forall₂ R as as') : as.isEmpty = as'.isEmpty := by
  cases h <;> rfl

theorem isSome_eq (h : Option.Rel R a a') : a.isSome = a'.isSome := by
  cases h <;> rfl

/-- A clause replaces another one on both sides, or on neither. -/
theorem forall₂_ifEmpty {β : Type} {S : β → β → Prop} {xs xs' : List α} {ys ys' : List β}
    (h : List.Forall₂ R xs xs') (hys : List.Forall₂ S ys ys') {zs zs' : List β}
    (hzs : List.Forall₂ S zs zs') :
    List.Forall₂ S (if xs.isEmpty then ys else zs) (if xs'.isEmpty then ys' else zs') := by
  rw [isEmpty_eq h]
  split
  · exact hys
  · exact hzs

end Lists

namespace Conversion

variable {n n' left left' right right' : Node}

theorem similar_binary (op : Sql.BinaryOp) (hleft : left.Similar K left')
    (hright : right.Similar K right') :
    Node.Similar K (binary op left right) (binary op left' right') := by
  cases op with
  | and => exact .logic _ (.cons hleft (.cons hright .nil))
  | or => exact .logic _ (.cons hleft (.cons hright .nil))
  | other spelling => exact .operator _ (.some hleft) (.some hright)

theorem similar_unary (op : Sql.UnaryOp) (h : n.Similar K n') :
    Node.Similar K (unary op n) (unary op n') := by
  cases op with
  | not => exact .logic _ (.cons h .nil)
  | plus => exact h
  | before spelling => exact .operator _ .none (.some h)
  | after spelling => exact .operator _ .none (.some h)
  | minus =>
    have hsign := h
    cases h with
    | literal value =>
      -- the sign becomes part of a number
      cases value with
      | integer text => exact .literal _
      | decimal text => exact .literal _
      | string text => exact .operator _ .none (.some hsign)
      | boolean value => exact .operator _ .none (.some hsign)
      | null => exact .operator _ .none (.some hsign)
    | _ => exact .operator _ .none (.some hsign)

theorem similar_markNullable (h : n.Similar K n') :
    Node.Similar K (markNullable n) (markNullable n') := by
  have hmark := h
  cases h with
  | table ref => exact .table _
  | derived aliasName nullable h => exact .derived _ _ h
  | _ => exact hmark

theorem similar_markJoin {kind kind' : Sql.JoinKind} (hleft : padsLeft kind = padsLeft kind')
    (hright : padsRight kind = padsRight kind') (count : Nat) {items items' : List Node}
    (h : List.Forall₂ (Node.Similar K) items items') :
    List.Forall₂ (Node.Similar K) (markJoin kind count items) (markJoin kind' count items') := by
  have hmark {ns ns' : List Node} (h : List.Forall₂ (Node.Similar K) ns ns') :
      List.Forall₂ (Node.Similar K) (ns.map markNullable) (ns'.map markNullable) := by
    rw [List.forall₂_map_left_iff, List.forall₂_map_right_iff]
    exact h.imp fun _ _ => similar_markNullable
  have htake := List.forall₂_take count h
  have hdrop := List.forall₂_drop count h
  -- the same sides are padded, and as many items stand on the left
  simp only [markJoin, ← hleft, ← hright]
  refine List.rel_append ?_ ?_
  · split
    · exact hmark htake
    · exact htake
  · split
    · exact hmark hdrop
    · exact hdrop

/-- Two parts of FROM clauses. -/
structure Sources.Similar (K : Kinship) (s s' : Sources) : Prop where
  items : List.Forall₂ (Node.Similar K) s.items s'.items
  conditions : Spliced (Node.Similar K) K.params s.conditions s'.conditions

/-- Two contents of the parentheses of calls. -/
structure CallParts.Similar (K : Kinship) (p p' : CallParts) : Prop where
  args : List.Forall₂ (Node.Similar K) p.args p'.args
  orderBy : List.Forall₂ (Node.Similar K) p.orderBy p'.orderBy
  star : p.star = p'.star
  distinct : p.distinct = p'.distinct

/-- What two queries are put together from. -/
structure QueryParts.Similar (K : Kinship) (p p' : QueryParts) : Prop where
  ctes : List.Forall₂ (NamedQuery.Similar K) p.ctes p'.ctes
  body : p.body.Similar K p'.body
  keys : List.Forall₂ (Node.Similar K) p.keys p'.keys
  offset : Option.Rel (Node.Similar K) p.offset p'.offset
  limit : Option.Rel (Node.Similar K) p.limit p'.limit
  quantity : Option.Rel (Node.Similar K) p.quantity p'.quantity

theorem QueryParts.Similar.select {p p' : QueryParts} (h : p.Similar K p') :
    p.select.Similar K p'.select := by
  obtain ⟨hctes, ⟨hctes', htargets, hsource, hjoinConditions, hcondition, hdistinctOn, hgroupBy,
    hhaving, hwindows, horderBy, hlimit', hoffset', hrows, hoperation, hall, hleft, hright⟩, hkeys,
    hoffset, hlimit, hquantity⟩ := h
  exact .mk (forall₂_ifEmpty hctes hctes' hctes) htargets hsource hjoinConditions hcondition
    hdistinctOn hgroupBy hhaving hwindows (forall₂_ifEmpty hkeys horderBy hkeys)
    (rel_or hquantity (rel_or hlimit hlimit')) (rel_or hoffset hoffset') hrows hoperation hall hleft
    hright

end Conversion

/-! ## Identity -/

/-- Nothing may differ. -/
def Kinship.identity : Kinship := ⟨Eq, Eq, Eq, fun _ _ => False⟩

/-- Each two entries of two lists are similar or equal, if nothing may differ. -/
abbrev IdenticalAll (ns ns' : List Node) : Prop :=
  List.Forall₂ (fun n n' => Node.Similar .identity n n' ∨ n = n') ns ns'

theorem identicalAll_of_forall₂ {ns ns' : List Node}
    (h : List.Forall₂ (Node.Similar .identity) ns ns') : IdenticalAll ns ns' :=
  h.imp fun _ _ => .inl

theorem identicalAll_of_spliced {ns ns' : List Node}
    (h : Spliced (Node.Similar .identity) Eq ns ns') : IdenticalAll ns ns' := by
  induction h with
  | nil => exact .nil
  | cons h _ ih => exact .cons (.inl h) ih
  | @part ps ps' as as' h _ ih =>
    subst h
    exact List.rel_append (List.forall₂_same.2 fun _ _ => .inr rfl) ih

mutual

theorem Node.eq_of_similar (n n' : Node) (h : n.Similar .identity n') : n = n' := by
  match n with
  | .schemaChange change =>
    cases h
    rfl
  | .insert i =>
    cases h with
    | insert h => rw [Insert.eq_of_similar i _ h]
  | .select s =>
    cases h with
    | select h => rw [Select.eq_of_similar s _ h]
  | .update u =>
    cases h with
    | update h => rw [Update.eq_of_similar u _ h]
  | .delete d =>
    cases h with
    | delete h => rw [Delete.eq_of_similar d _ h]
  | .logic op args =>
    cases h with
    | logic _ h => rw [eq_of_similarAll args _ (identicalAll_of_forall₂ h)]
  | .operator name left right =>
    cases h with
    | operator _ hleft hright =>
      rw [eq_of_similarOption left _ hleft, eq_of_similarOption right _ hright]
  | .column fields =>
    cases h
    rfl
  | .param number location =>
    cases h with
    | param h =>
      cases h
      rfl
  | .sublink kind test query negated =>
    cases h with
    | sublink _ _ htest hquery =>
      rw [eq_of_similarOption test _ htest, eq_of_similarOption query _ hquery]
    -- no query may be replaced by another one
    | sublinkTested _ _ _ hquery => exact hquery.elim
  | .call c =>
    cases h with
    | call h => rw [Call.eq_of_similar c _ h]
  | .cast arg type =>
    cases h with
    | cast _ h => rw [Node.eq_of_similar arg _ h]
  | .nullTest arg isNull =>
    cases h with
    | nullTest _ h => rw [Node.eq_of_similar arg _ h]
  | .case operand branches default =>
    cases h with
    | case hoperand hbranches hdefault =>
      rw [eq_of_similarOption operand _ hoperand, eq_of_similarBranches branches _ hbranches,
        eq_of_similarOption default _ hdefault]
  | .literal value =>
    cases h
    rfl
  | .target name value location =>
    cases h with
    | target _ hvalue hlocation => rw [eq_of_similarOption value _ hvalue, hlocation]
  | .table ref =>
    cases h
    rfl
  | .derived query aliasName nullable =>
    cases h with
    | derived _ _ h => rw [Node.eq_of_similar query _ h]
  | .list items =>
    cases h with
    | list h => rw [eq_of_similarAll items _ (identicalAll_of_forall₂ h)]
  | .name value => cases h
  | .star => cases h
  | .unsupported construct params =>
    cases h with
    | unsupported _ h => rw [h]
termination_by structural n

theorem eq_of_similarAll (ns ns' : List Node) (h : IdenticalAll ns ns') : ns = ns' := by
  match ns, ns', h with
  | [], [], .nil => rfl
  | n :: ns, n' :: ns', .cons (.inl h) hs =>
    rw [Node.eq_of_similar n n' h, eq_of_similarAll ns ns' hs]
  | n :: ns, n' :: ns', .cons (.inr h) hs => rw [h, eq_of_similarAll ns ns' hs]
termination_by structural ns

theorem eq_of_similarOption (n n' : Option Node) (h : Option.Rel (Node.Similar .identity) n n') :
    n = n' := by
  match n, n', h with
  | none, none, .none => rfl
  | some n, some n', .some h => rw [Node.eq_of_similar n n' h]
termination_by structural n

theorem Select.eq_of_similar (s s' : Select) (h : s.Similar .identity s') : s = s' := by
  match s, s', h with
  | ⟨ctes, targets, source, joinConditions, condition, distinctOn, groupBy, having, windows,
      orderBy, limit, offset, rows, _, _, left, right⟩,
    ⟨ctes', targets', source', joinConditions', condition', distinctOn', groupBy', having',
      windows', orderBy', limit', offset', rows', _, _, left', right'⟩,
    .mk hctes htargets hsource hjoinConditions hcondition hdistinctOn hgroupBy hhaving hwindows
      horderBy hlimit hoffset hrows hoperation hall hleft hright =>
    -- similar without any replacement means equal, clause by clause
    dsimp only at hoperation hall
    rw [eq_of_similarNamed ctes ctes' hctes,
      eq_of_similarAll targets targets' (identicalAll_of_forall₂ htargets),
      eq_of_similarAll source source' (identicalAll_of_forall₂ hsource),
      eq_of_similarAll joinConditions joinConditions' (identicalAll_of_spliced hjoinConditions),
      eq_of_similarOption condition condition' hcondition,
      eq_of_similarAll distinctOn distinctOn' (identicalAll_of_forall₂ hdistinctOn),
      eq_of_similarAll groupBy groupBy' (identicalAll_of_forall₂ hgroupBy),
      eq_of_similarOption having having' hhaving, eq_of_similarWindows windows windows' hwindows,
      eq_of_similarAll orderBy orderBy' (identicalAll_of_forall₂ horderBy),
      eq_of_similarOption limit limit' hlimit, eq_of_similarOption offset offset' hoffset,
      eq_of_similarAll rows rows' (identicalAll_of_forall₂ hrows), hoperation, hall,
      eq_of_similarSide left left' hleft, eq_of_similarSide right right' hright]
termination_by structural s

theorem eq_of_similarSide (s s' : Option Select) (h : Option.Rel (Select.Similar .identity) s s') :
    s = s' := by
  match s, s', h with
  | none, none, .none => rfl
  | some s, some s', .some h => rw [Select.eq_of_similar s s' h]
termination_by structural s

theorem eq_of_similarNamed (qs qs' : List NamedQuery)
    (h : List.Forall₂ (NamedQuery.Similar .identity) qs qs') : qs = qs' := by
  match qs, qs', h with
  | [], [], .nil => rfl
  | ⟨name, query⟩ :: qs, ⟨name', query'⟩ :: qs', .cons (.mk hname hquery) hs =>
    dsimp only at hname
    rw [hname, Node.eq_of_similar query query' hquery, eq_of_similarNamed qs qs' hs]
termination_by structural qs

theorem Insert.eq_of_similar (i i' : Insert) (h : i.Similar .identity i') : i = i' := by
  match i, i', h with
  | ⟨_, columns, source, conflictTargets, conflictCondition, returning⟩,
    ⟨_, columns', source', conflictTargets', conflictCondition', returning'⟩,
    .mk htable hcolumns hsource hconflictTargets hconflictCondition hreturning =>
    dsimp only at htable
    rw [htable, eq_of_similarAll columns columns' (identicalAll_of_forall₂ hcolumns),
      Select.eq_of_similar source source' hsource,
      eq_of_similarAll conflictTargets conflictTargets' (identicalAll_of_forall₂ hconflictTargets),
      eq_of_similarOption conflictCondition conflictCondition' hconflictCondition,
      eq_of_similarAll returning returning' (identicalAll_of_forall₂ hreturning)]
termination_by structural i

theorem Update.eq_of_similar (u u' : Update) (h : u.Similar .identity u') : u = u' := by
  match u, u', h with
  | ⟨_, targets, source, joinConditions, condition, returning⟩,
    ⟨_, targets', source', joinConditions', condition', returning'⟩,
    .mk htable htargets hsource hjoinConditions hcondition hreturning =>
    dsimp only at htable
    rw [htable, eq_of_similarAll targets targets' (identicalAll_of_forall₂ htargets),
      eq_of_similarAll source source' (identicalAll_of_forall₂ hsource),
      eq_of_similarAll joinConditions joinConditions' (identicalAll_of_spliced hjoinConditions),
      eq_of_similarOption condition condition' hcondition,
      eq_of_similarAll returning returning' (identicalAll_of_forall₂ hreturning)]
termination_by structural u

theorem Delete.eq_of_similar (d d' : Delete) (h : d.Similar .identity d') : d = d' := by
  match d, d', h with
  | ⟨_, source, joinConditions, condition, orderBy, limit, returning⟩,
    ⟨_, source', joinConditions', condition', orderBy', limit', returning'⟩,
    .mk htable hsource hjoinConditions hcondition horderBy hlimit hreturning =>
    dsimp only at htable
    rw [htable, eq_of_similarAll source source' (identicalAll_of_forall₂ hsource),
      eq_of_similarAll joinConditions joinConditions' (identicalAll_of_spliced hjoinConditions),
      eq_of_similarOption condition condition' hcondition,
      eq_of_similarAll orderBy orderBy' (identicalAll_of_forall₂ horderBy),
      eq_of_similarOption limit limit' hlimit,
      eq_of_similarAll returning returning' (identicalAll_of_forall₂ hreturning)]
termination_by structural d

theorem Call.eq_of_similar (c c' : Call) (h : c.Similar .identity c') : c = c' := by
  match c, c', h with
  | ⟨_, args, orderBy, filter, window, _, _⟩, ⟨_, args', orderBy', filter', window', _, _⟩,
    .mk hname hargs horderBy hfilter hwindow hstar hdistinct =>
    dsimp only at hname hstar hdistinct
    rw [hname, eq_of_similarAll args args' (identicalAll_of_forall₂ hargs),
      eq_of_similarAll orderBy orderBy' (identicalAll_of_forall₂ horderBy),
      eq_of_similarOption filter filter' hfilter, eq_of_similarOver window window' hwindow, hstar,
      hdistinct]
termination_by structural c

theorem eq_of_similarOver (w w' : Option Window) (h : Option.Rel (Window.Similar .identity) w w') :
    w = w' := by
  match w, w', h with
  | none, none, .none => rfl
  | some w, some w', .some h => rw [Window.eq_of_similar w w' h]
termination_by structural w

theorem Window.eq_of_similar (w w' : Window) (h : w.Similar .identity w') : w = w' := by
  match w, w', h with
  | ⟨_, _, partitionBy, orderBy, startOffset, endOffset⟩,
    ⟨_, _, partitionBy', orderBy', startOffset', endOffset'⟩,
    .mk hname hbase hpartitionBy horderBy hstartOffset hendOffset =>
    dsimp only at hname hbase
    rw [hname, hbase,
      eq_of_similarAll partitionBy partitionBy' (identicalAll_of_forall₂ hpartitionBy),
      eq_of_similarAll orderBy orderBy' (identicalAll_of_forall₂ horderBy),
      eq_of_similarOption startOffset startOffset' hstartOffset,
      eq_of_similarOption endOffset endOffset' hendOffset]
termination_by structural w

theorem eq_of_similarWindows (ws ws' : List Window)
    (h : List.Forall₂ (Window.Similar .identity) ws ws') : ws = ws' := by
  match ws, ws', h with
  | [], [], .nil => rfl
  | w :: ws, w' :: ws', .cons h hs =>
    rw [Window.eq_of_similar w w' h, eq_of_similarWindows ws ws' hs]
termination_by structural ws

theorem eq_of_similarBranches (bs bs' : List Branch)
    (h : List.Forall₂ (Branch.Similar .identity) bs bs') : bs = bs' := by
  match bs, bs', h with
  | [], [], .nil => rfl
  | ⟨condition, result⟩ :: bs, ⟨condition', result'⟩ :: bs', .cons (.mk hcondition hresult) hs =>
    rw [Node.eq_of_similar condition condition' hcondition,
      Node.eq_of_similar result result' hresult, eq_of_similarBranches bs bs' hs]
termination_by structural bs

end

end TypedSql.Canonical
