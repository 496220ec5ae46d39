import TypedSql.Analysis.Basic

/-!
# Renumbering

Trees that differ in the numbers of their placeholders only. A statement in which one number stands
in several places is a renumbering of a statement in which every place has a number of its own, so
what repetitions do to an analysis shows when the two are compared.

- `Node.renumber`: the tree with other numbers
- `Node.numbers`: the numbers that stand in a tree
- `Node.exists_apart`: every tree is a renumbering of one without repetitions
-/

namespace TypedSql.Canonical

/-! ## Renumbered trees -/

mutual

/-- The node with other numbers at its placeholders. -/
def Node.renumber (f : Nat → Nat) : Node → Node
  | .schemaChange change => .schemaChange change
  | .insert i => .insert (i.renumber f)
  | .select s => .select (s.renumber f)
  | .update u => .update (u.renumber f)
  | .delete d => .delete (d.renumber f)
  | .logic op args => .logic op (renumberAll f args)
  | .operator name left right => .operator name (renumberOption f left) (renumberOption f right)
  | .column fields => .column (renumberAll f fields)
  | .param number location => .param (f number) location
  | .sublink kind test query negated =>
    .sublink kind (renumberOption f test) (renumberOption f query) negated
  | .call c => .call (c.renumber f)
  | .cast arg type => .cast (arg.renumber f) type
  | .nullTest arg isNull => .nullTest (arg.renumber f) isNull
  | .case operand branches default =>
    .case (renumberOption f operand) (renumberBranches f branches) (renumberOption f default)
  | .literal value => .literal value
  | .target name value location => .target name (renumberOption f value) location
  | .table ref => .table ref
  | .derived query aliasName nullable => .derived (query.renumber f) aliasName nullable
  | .list items => .list (renumberAll f items)
  | .name value => .name value
  | .star => .star
  | .unsupported construct params => .unsupported construct (renumberAll f params)

/-- The nodes of a list with other numbers. -/
def renumberAll (f : Nat → Nat) : List Node → List Node
  | [] => []
  | n :: ns => n.renumber f :: renumberAll f ns

/-- A node that may be absent, with other numbers. -/
def renumberOption (f : Nat → Nat) : Option Node → Option Node
  | none => none
  | some n => some (n.renumber f)

/-- The query with other numbers. -/
def Select.renumber (f : Nat → Nat) : Select → Select
  | ⟨ctes, targets, source, joinConditions, condition, distinctOn, groupBy, having, windows,
      orderBy, limit, offset, rows, operation, all, left, right⟩ =>
    ⟨renumberNamed f ctes, renumberAll f targets, renumberAll f source,
      renumberAll f joinConditions, renumberOption f condition, renumberAll f distinctOn,
      renumberAll f groupBy, renumberOption f having, renumberWindows f windows,
      renumberAll f orderBy, renumberOption f limit, renumberOption f offset, renumberAll f rows,
      operation, all, renumberSide f left, renumberSide f right⟩

/-- A side of a set operation with other numbers. -/
def renumberSide (f : Nat → Nat) : Option Select → Option Select
  | none => none
  | some s => some (s.renumber f)

/-- The queries of a WITH clause with other numbers. -/
def renumberNamed (f : Nat → Nat) : List NamedQuery → List NamedQuery
  | [] => []
  | ⟨name, query⟩ :: qs => ⟨name, query.renumber f⟩ :: renumberNamed f qs

/-- The INSERT with other numbers. -/
def Insert.renumber (f : Nat → Nat) : Insert → Insert
  | ⟨table, columns, source, conflictTargets, conflictCondition, returning⟩ =>
    ⟨table, renumberAll f columns, source.renumber f, renumberAll f conflictTargets,
      renumberOption f conflictCondition, renumberAll f returning⟩

/-- The UPDATE with other numbers. -/
def Update.renumber (f : Nat → Nat) : Update → Update
  | ⟨table, targets, source, joinConditions, condition, returning⟩ =>
    ⟨table, renumberAll f targets, renumberAll f source, renumberAll f joinConditions,
      renumberOption f condition, renumberAll f returning⟩

/-- The DELETE with other numbers. -/
def Delete.renumber (f : Nat → Nat) : Delete → Delete
  | ⟨table, source, joinConditions, condition, orderBy, limit, returning⟩ =>
    ⟨table, renumberAll f source, renumberAll f joinConditions, renumberOption f condition,
      renumberAll f orderBy, renumberOption f limit, renumberAll f returning⟩

/-- The function call with other numbers. -/
def Call.renumber (f : Nat → Nat) : Call → Call
  | ⟨name, args, orderBy, filter, window, star, distinct⟩ =>
    ⟨name, renumberAll f args, renumberAll f orderBy, renumberOption f filter,
      renumberOver f window, star, distinct⟩

/-- The window of a call with other numbers. -/
def renumberOver (f : Nat → Nat) : Option Window → Option Window
  | none => none
  | some w => some (w.renumber f)

/-- The window with other numbers. -/
def Window.renumber (f : Nat → Nat) : Window → Window
  | ⟨name, base, partitionBy, orderBy, startOffset, endOffset⟩ =>
    ⟨name, base, renumberAll f partitionBy, renumberAll f orderBy, renumberOption f startOffset,
      renumberOption f endOffset⟩

/-- The windows of a WINDOW clause with other numbers. -/
def renumberWindows (f : Nat → Nat) : List Window → List Window
  | [] => []
  | w :: ws => w.renumber f :: renumberWindows f ws

/-- The branches of a CASE expression with other numbers. -/
def renumberBranches (f : Nat → Nat) : List Branch → List Branch
  | [] => []
  | ⟨condition, result⟩ :: bs => ⟨condition.renumber f, result.renumber f⟩ :: renumberBranches f bs

end

variable {f : Nat → Nat}

theorem renumberAll_eq_map (ns : List Node) : renumberAll f ns = ns.map (·.renumber f) := by
  induction ns with
  | nil => rfl
  | cons n ns ih => exact congrArg (n.renumber f :: ·) ih

@[simp] theorem length_renumberAll (ns : List Node) : (renumberAll f ns).length = ns.length := by
  rw [renumberAll_eq_map, List.length_map]

@[simp] theorem isNone_renumberSide (s : Option Select) :
    (renumberSide f s).isNone = s.isNone := by
  cases s <;> rfl

@[simp] theorem isEmpty_renumberAll (ns : List Node) :
    (renumberAll f ns).isEmpty = ns.isEmpty := by
  cases ns <;> rfl

@[simp] theorem isNone_renumberOption (n : Option Node) :
    (renumberOption f n).isNone = n.isNone := by
  cases n <;> rfl

/-! ## What numbers do not change -/

namespace Node

@[simp] theorem isParam_renumber (n : Node) : (n.renumber f).isParam = n.isParam := by
  cases n <;> rfl

@[simp] theorem nameText?_renumber (n : Node) : (n.renumber f).nameText? = n.nameText? := by
  cases n <;> rfl

@[simp] theorem isStar_renumber (n : Node) : (n.renumber f).isStar = n.isStar := by
  cases n <;> rfl

end Node

section Fields

variable {g : Node → Node}

/-- What a reference to a column says depends only on what its fields are. -/
theorem endsInStar_map (hstar : ∀ n, (g n).isStar = n.isStar) (fields : List Node) :
    endsInStar (fields.map g) = endsInStar fields := by
  rw [endsInStar, endsInStar, List.getLast?_map]
  cases fields.getLast? with
  | none => rfl
  | some n => exact congrArg (Option.getD · false) (congrArg some (hstar n))

theorem columnName?_map (hname : ∀ n, (g n).nameText? = n.nameText?) (fields : List Node) :
    columnName? (fields.map g) = columnName? fields := by
  rw [columnName?, columnName?, List.getLast?_map]
  cases fields.getLast? with
  | none => rfl
  | some n => exact hname n

theorem qualifiers_map (hname : ∀ n, (g n).nameText? = n.nameText?) (fields : List Node) :
    qualifiers (fields.map g) = qualifiers fields := by
  rw [qualifiers, qualifiers, ← List.map_dropLast, List.filterMap_map]
  exact congrArg (List.filterMap · _) (funext hname)

end Fields

@[simp] theorem endsInStar_renumberAll (fields : List Node) :
    endsInStar (renumberAll f fields) = endsInStar fields := by
  rw [renumberAll_eq_map, endsInStar_map Node.isStar_renumber]

@[simp] theorem columnName?_renumberAll (fields : List Node) :
    columnName? (renumberAll f fields) = columnName? fields := by
  rw [renumberAll_eq_map, columnName?_map Node.nameText?_renumber]

@[simp] theorem qualifiers_renumberAll (fields : List Node) :
    qualifiers (renumberAll f fields) = qualifiers fields := by
  rw [renumberAll_eq_map, qualifiers_map Node.nameText?_renumber]

@[simp] theorem Node.starQualifiers?_renumber (n : Node) :
    (n.renumber f).starQualifiers? = n.starQualifiers? := by
  cases n <;> try rfl
  simp [Node.renumber, Node.starQualifiers?]

/-! ## Numbers -/

/-- The numbers of the placeholders among nodes. -/
def numbersIn (ns : List Node) : List Nat := (ns.filterMap Node.paramRef?).map ParamRef.number

/-- The numbers in a tree, in the order of the walk. -/
def Node.numbers (n : Node) : List Nat := numbersIn n.walk

@[simp] theorem numbersIn_append (ns ns' : List Node) :
    numbersIn (ns ++ ns') = numbersIn ns ++ numbersIn ns' := by
  rw [numbersIn, List.filterMap_append, List.map_append]
  rfl

/-- Something that placeholders stand in. -/
class Numbered (α : Type) where
  walk : α → List Node
  renumber : (Nat → Nat) → α → α

open Numbered (renumber)

/-- The numbers that stand in something. -/
def numbersOf {α : Type} [Numbered α] (a : α) : List Nat := numbersIn (Numbered.walk a)

instance : Numbered Node := ⟨Node.walk, Node.renumber⟩

instance : Numbered (List Node) := ⟨walkAll, renumberAll⟩

instance : Numbered (Option Node) := ⟨walkOption, renumberOption⟩

instance : Numbered Select := ⟨Select.walk, Select.renumber⟩

instance : Numbered (Option Select) := ⟨walkSide, renumberSide⟩

instance : Numbered (List NamedQuery) := ⟨walkNamed, renumberNamed⟩

instance : Numbered Insert := ⟨Insert.walk, Insert.renumber⟩

instance : Numbered Update := ⟨Update.walk, Update.renumber⟩

instance : Numbered Delete := ⟨Delete.walk, Delete.renumber⟩

instance : Numbered Call := ⟨Call.walk, Call.renumber⟩

instance : Numbered (Option Window) := ⟨walkOver, renumberOver⟩

instance : Numbered Window := ⟨Window.walk, Window.renumber⟩

instance : Numbered (List Window) := ⟨walkWindows, renumberWindows⟩

instance : Numbered (List Branch) := ⟨walkBranches, renumberBranches⟩

instance {α β : Type} [Numbered α] [Numbered β] : Numbered (α × β) where
  walk x := Numbered.walk x.1 ++ Numbered.walk x.2
  renumber f x := (renumber f x.1, renumber f x.2)

/-- What renumbering does: it changes nothing but the numbers, each on its own, and it leads to
everything from something with consecutive numbers. -/
structure Renumberable {α : Type} [Numbered α] (a : α) : Prop where
  renumber_id : renumber id a = a
  numbers_renumber : ∀ f, numbersOf (renumber f a) = (numbersOf a).map f
  exists_apart : ∀ start, ∃ a' : α, numbersOf a' = List.range' start (numbersOf a).length ∧
    ∀ f, (numbersOf a').map f = numbersOf a → renumber f a' = a

namespace Renumberable

variable {α β : Type} [Numbered α] [Numbered β] {a : α} {b : β}

/-- Something without placeholders. -/
theorem leaf (hnumbers : numbersOf a = []) (hrenumber : ∀ f, renumber f a = a) :
    Renumberable a where
  renumber_id := hrenumber id
  numbers_renumber f := by rw [hrenumber, hnumbers]; rfl
  exists_apart start := ⟨a, by rw [hnumbers]; rfl, fun f _ => hrenumber f⟩

theorem param (number location : Nat) : Renumberable (Node.param number location) where
  renumber_id := rfl
  numbers_renumber _ := rfl
  exists_apart start := by
    refine ⟨.param start location, rfl, fun f hf => ?_⟩
    have hstart : f start = number := List.singleton_inj.mp hf
    exact congrArg (Node.param · location) hstart

/-- Two things side by side: the second one is numbered after the first one. -/
theorem prod (ha : Renumberable a) (hb : Renumberable b) : Renumberable (a, b) where
  renumber_id := Prod.ext ha.renumber_id hb.renumber_id
  numbers_renumber f := by
    show numbersIn (_ ++ _) = (numbersIn (_ ++ _)).map f
    rw [numbersIn_append, numbersIn_append, List.map_append]
    exact congr (congrArg _ (ha.numbers_renumber f)) (hb.numbers_renumber f)
  exists_apart start := by
    -- the second part is numbered from where the first one ends
    obtain ⟨a', ha', hfa⟩ := ha.exists_apart start
    obtain ⟨b', hb', hfb⟩ := hb.exists_apart (start + (numbersOf a).length)
    have hpair (a : α) (b : β) : numbersOf (a, b) = numbersOf a ++ numbersOf b :=
      numbersIn_append _ _
    refine ⟨(a', b'), ?_, fun f hf => ?_⟩
    · rw [hpair, hpair, ha', hb', List.length_append, List.range'_append_1]
    · rw [hpair, hpair, List.map_append] at hf
      -- which numbers belong to which part is known from how many the first one has
      have hlength : ((numbersOf a').map f).length = (numbersOf a).length := by
        rw [List.length_map, ha', List.length_range']
      obtain ⟨hf₁, hf₂⟩ := List.append_inj hf hlength
      exact Prod.ext (hfa f hf₁) (hfb f hf₂)

/-- A construct with the placeholders of its parts. -/
theorem map (ha : Renumberable a) (g : α → β)
    (hwalk : ∀ a, numbersOf (g a) = numbersOf a)
    (hrenumber : ∀ f a, renumber f (g a) = g (renumber f a)) : Renumberable (g a) where
  renumber_id := by rw [hrenumber, ha.renumber_id]
  numbers_renumber f := by rw [hrenumber, hwalk, hwalk, ha.numbers_renumber]
  exists_apart start := by
    obtain ⟨a', ha', hfa⟩ := ha.exists_apart start
    refine ⟨g a', ?_, fun f hf => ?_⟩
    · rw [hwalk, hwalk, ha']
    · rw [hwalk, hwalk] at hf
      rw [hrenumber, hfa f hf]

end Renumberable

open Renumberable (leaf)

mutual

theorem Node.renumberable (n : Node) : Renumberable n := by
  match n with
  | .param number location => exact .param number location
  | .insert i => exact i.renumberable.map Node.insert (fun _ => rfl) fun _ _ => rfl
  | .select s => exact s.renumberable.map Node.select (fun _ => rfl) fun _ _ => rfl
  | .update u => exact u.renumberable.map Node.update (fun _ => rfl) fun _ _ => rfl
  | .delete d => exact d.renumberable.map Node.delete (fun _ => rfl) fun _ _ => rfl
  | .call c => exact c.renumberable.map Node.call (fun _ => rfl) fun _ _ => rfl
  | .logic op args =>
    exact (renumberableAll args).map (Node.logic op) (fun _ => rfl) fun _ _ => rfl
  | .column fields =>
    exact (renumberableAll fields).map Node.column (fun _ => rfl) fun _ _ => rfl
  | .list items => exact (renumberableAll items).map Node.list (fun _ => rfl) fun _ _ => rfl
  | .unsupported construct params =>
    exact (renumberableAll params).map (Node.unsupported construct) (fun _ => rfl) fun _ _ => rfl
  | .operator name left right =>
    exact ((renumberableOption left).prod (renumberableOption right)).map
      (fun x => Node.operator name x.1 x.2) (fun _ => rfl) fun _ _ => rfl
  | .sublink kind test query negated =>
    exact ((renumberableOption test).prod (renumberableOption query)).map
      (fun x => Node.sublink kind x.1 x.2 negated) (fun _ => rfl) fun _ _ => rfl
  | .cast arg type =>
    exact arg.renumberable.map (Node.cast · type) (fun _ => rfl) fun _ _ => rfl
  | .nullTest arg isNull =>
    exact arg.renumberable.map (Node.nullTest · isNull) (fun _ => rfl) fun _ _ => rfl
  | .case operand branches default =>
    exact (((renumberableOption operand).prod (renumberableBranches branches)).prod
      (renumberableOption default)).map (fun x => Node.case x.1.1 x.1.2 x.2) (fun _ => rfl)
      fun _ _ => rfl
  | .target name value location =>
    exact (renumberableOption value).map (Node.target name · location) (fun _ => rfl) fun _ _ => rfl
  | .derived query aliasName nullable =>
    exact query.renumberable.map (Node.derived · aliasName nullable) (fun _ => rfl) fun _ _ => rfl
  | .schemaChange _ | .literal _ | .table _ | .name _ | .star => exact leaf rfl fun _ => rfl

theorem renumberableAll (ns : List Node) : Renumberable ns := by
  match ns with
  | [] => exact leaf rfl fun _ => rfl
  | n :: ns =>
    exact (n.renumberable.prod (renumberableAll ns)).map (fun x => x.1 :: x.2) (fun _ => rfl)
      fun _ _ => rfl

theorem renumberableOption (n : Option Node) : Renumberable n := by
  match n with
  | none => exact leaf rfl fun _ => rfl
  | some n => exact n.renumberable.map some (fun _ => rfl) fun _ _ => rfl

theorem Select.renumberable (s : Select) : Renumberable s := by
  match s with
  | ⟨ctes, targets, source, joinConditions, condition, distinctOn, groupBy, having, windows,
      orderBy, limit, offset, rows, operation, all, left, right⟩ =>
    -- the clauses in the order of the walk
    exact ((renumberableNamed ctes).prod <| (renumberableSide left).prod <|
      (renumberableSide right).prod <| (renumberableAll distinctOn).prod <|
      (renumberableAll targets).prod <| (renumberableAll source).prod <|
      (renumberableAll joinConditions).prod <| (renumberableOption condition).prod <|
      (renumberableAll groupBy).prod <| (renumberableOption having).prod <|
      (renumberableWindows windows).prod <| (renumberableAll rows).prod <|
      (renumberableAll orderBy).prod <| (renumberableOption limit).prod <|
      renumberableOption offset).map
        (fun ⟨ctes, left, right, distinctOn, targets, source, joinConditions, condition, groupBy,
          having, windows, rows, orderBy, limit, offset⟩ =>
          (⟨ctes, targets, source, joinConditions, condition, distinctOn, groupBy, having, windows,
            orderBy, limit, offset, rows, operation, all, left, right⟩ : Select))
        (fun _ => congrArg numbersIn (by simp [Numbered.walk])) fun _ _ => rfl

theorem renumberableSide (s : Option Select) : Renumberable s := by
  match s with
  | none => exact leaf rfl fun _ => rfl
  | some s => exact s.renumberable.map some (fun _ => rfl) fun _ _ => rfl

theorem renumberableNamed (qs : List NamedQuery) : Renumberable qs := by
  match qs with
  | [] => exact leaf rfl fun _ => rfl
  | ⟨name, query⟩ :: qs =>
    exact (query.renumberable.prod (renumberableNamed qs)).map (fun x => ⟨name, x.1⟩ :: x.2)
      (fun _ => rfl) fun _ _ => rfl

theorem Insert.renumberable (i : Insert) : Renumberable i := by
  match i with
  | ⟨table, columns, source, conflictTargets, conflictCondition, returning⟩ =>
    exact ((renumberableAll columns).prod <| source.renumberable.prod <|
      (renumberableAll conflictTargets).prod <| (renumberableOption conflictCondition).prod <|
      renumberableAll returning).map
        (fun ⟨columns, source, conflictTargets, conflictCondition, returning⟩ =>
          (⟨table, columns, source, conflictTargets, conflictCondition, returning⟩ : Insert))
        (fun _ => congrArg numbersIn (by simp [Numbered.walk])) fun _ _ => rfl

theorem Update.renumberable (u : Update) : Renumberable u := by
  match u with
  | ⟨table, targets, source, joinConditions, condition, returning⟩ =>
    exact ((renumberableAll targets).prod <| (renumberableAll source).prod <|
      (renumberableAll joinConditions).prod <| (renumberableOption condition).prod <|
      renumberableAll returning).map
        (fun ⟨targets, source, joinConditions, condition, returning⟩ =>
          (⟨table, targets, source, joinConditions, condition, returning⟩ : Update))
        (fun _ => congrArg numbersIn (by simp [Numbered.walk])) fun _ _ => rfl

theorem Delete.renumberable (d : Delete) : Renumberable d := by
  match d with
  | ⟨table, source, joinConditions, condition, orderBy, limit, returning⟩ =>
    exact ((renumberableAll source).prod <| (renumberableAll joinConditions).prod <|
      (renumberableOption condition).prod <| (renumberableAll orderBy).prod <|
      (renumberableOption limit).prod <| renumberableAll returning).map
        (fun ⟨source, joinConditions, condition, orderBy, limit, returning⟩ =>
          (⟨table, source, joinConditions, condition, orderBy, limit, returning⟩ : Delete))
        (fun _ => congrArg numbersIn (by simp [Numbered.walk])) fun _ _ => rfl

theorem Call.renumberable (c : Call) : Renumberable c := by
  match c with
  | ⟨name, args, orderBy, filter, window, star, distinct⟩ =>
    exact ((renumberableAll args).prod <| (renumberableAll orderBy).prod <|
      (renumberableOption filter).prod <| renumberableOver window).map
        (fun ⟨args, orderBy, filter, window⟩ =>
          (⟨name, args, orderBy, filter, window, star, distinct⟩ : Call))
        (fun _ => congrArg numbersIn (by simp [Numbered.walk])) fun _ _ => rfl

theorem renumberableOver (w : Option Window) : Renumberable w := by
  match w with
  | none => exact leaf rfl fun _ => rfl
  | some w => exact w.renumberable.map some (fun _ => rfl) fun _ _ => rfl

theorem Window.renumberable (w : Window) : Renumberable w := by
  match w with
  | ⟨name, base, partitionBy, orderBy, startOffset, endOffset⟩ =>
    exact ((renumberableAll partitionBy).prod <| (renumberableAll orderBy).prod <|
      (renumberableOption startOffset).prod <| renumberableOption endOffset).map
        (fun ⟨partitionBy, orderBy, startOffset, endOffset⟩ =>
          (⟨name, base, partitionBy, orderBy, startOffset, endOffset⟩ : Window))
        (fun _ => congrArg numbersIn (by simp [Numbered.walk])) fun _ _ => rfl

theorem renumberableWindows (ws : List Window) : Renumberable ws := by
  match ws with
  | [] => exact leaf rfl fun _ => rfl
  | w :: ws =>
    exact (w.renumberable.prod (renumberableWindows ws)).map (fun x => x.1 :: x.2) (fun _ => rfl)
      fun _ _ => rfl

theorem renumberableBranches (bs : List Branch) : Renumberable bs := by
  match bs with
  | [] => exact leaf rfl fun _ => rfl
  | ⟨condition, result⟩ :: bs =>
    exact ((condition.renumberable.prod result.renumberable).prod (renumberableBranches bs)).map
      (fun x => ⟨x.1.1, x.1.2⟩ :: x.2) (fun _ => rfl) fun _ _ => rfl

end

namespace Node

/-- Numbers that stay leave the tree as it is. -/
theorem renumber_id (n : Node) : n.renumber id = n := n.renumberable.renumber_id

theorem numbers_renumber (n : Node) : (n.renumber f).numbers = n.numbers.map f :=
  n.renumberable.numbers_renumber f

/-- Every tree is a renumbering of one in which every place has a number of its own. -/
theorem exists_apart (n : Node) : ∃ n' : Node, ∃ f, n'.numbers.Nodup ∧ n'.renumber f = n := by
  obtain ⟨n', hnumbers, hrenumber⟩ := n.renumberable.exists_apart 0
  have hapart : n'.numbers = List.range n.numbers.length := by
    rw [List.range_eq_range']
    exact hnumbers
  refine ⟨n', fun k => n.numbers.getD k 0, hapart ▸ List.nodup_range, hrenumber _ ?_⟩
  -- the place with number `k` gets the number that stands there
  show n'.numbers.map _ = n.numbers
  rw [hapart]
  refine List.ext_getElem (by simp) fun k _ hk => ?_
  rw [List.getElem_map, List.getElem_range, List.getD_eq_getElem?_getD, List.getElem?_eq_getElem hk,
    Option.getD_some]

end Node

end TypedSql.Canonical
