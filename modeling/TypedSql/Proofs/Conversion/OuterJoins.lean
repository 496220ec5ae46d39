import Mathlib.Data.List.Forall2
import TypedSql.Proofs.Conversion.Run

/-!
# Outer joins

A FROM clause loses the structure of its joins: what is left is a list of tables, some of them
marked. This module gives the joins their meaning, with nulls in the place of the rows that an outer
join does not find, and shows that the marks tell which tables can be replaced by nulls.

- **Join trees**: the tables of a FROM clause in the order of the text, and the kinds of its joins
- **Rows**: what a FROM clause produces from the contents of its tables
- **Segments**: the part of the flat list that stands for a part of the join tree
- **Flattening**: every step of the conversion turns a part of the join tree into such a segment
- **Joins that fill up nothing**: without outer joins there are no marks
- **FROM clauses**: `tables_guard_rows` puts the parts together
-/

namespace TypedSql.Sql

/-! ## Join trees -/

mutual

/-- The tables and queries of a table reference, in the order of the text. A reference without
canonical form is none. -/
def TableFactor.leaves : TableFactor → List TableFactor
  | .table name before tableAlias after => [.table name before tableAlias after]
  | .derived lateral query tableAlias => [.derived lateral query tableAlias]
  | .nestedJoin inner _ => inner.leaves
  | .unmapped _ _ => []

/-- The tables and queries of a table reference with joins. -/
def TableWithJoins.leaves : TableWithJoins → List TableFactor
  | ⟨relation, js⟩ => relation.leaves ++ joinedLeaves js

/-- The tables and queries on the right of joins. -/
def joinedLeaves : List Join → List TableFactor
  | [] => []
  | ⟨_, _, relation, _, _⟩ :: js => relation.leaves ++ joinedLeaves js

end

mutual

/-- The kinds of the joins in a table reference. -/
def TableFactor.joinKinds : TableFactor → List JoinKind
  | .nestedJoin inner _ => inner.joinKinds
  | .table .. | .derived .. | .unmapped .. => []

/-- The kinds of the joins of a table reference with joins. -/
def TableWithJoins.joinKinds : TableWithJoins → List JoinKind
  | ⟨relation, js⟩ => relation.joinKinds ++ kindsOfJoins js

/-- The kinds of joins and of the joins nested in them. -/
def kindsOfJoins : List Join → List JoinKind
  | [] => []
  | ⟨_, kind, relation, _, _⟩ :: js => kind :: (relation.joinKinds ++ kindsOfJoins js)

end

/-- Whether a join pairs rows and does nothing else but fill up with nulls. -/
def JoinKind.isStandard : JoinKind → Bool
  | .inner | .left | .right | .full | .cross => true
  | _ => false

/-- Whether a join fills up with nulls. -/
def JoinKind.isOuter : JoinKind → Bool
  | .left | .right | .full => true
  | _ => false

/-! ## Rows -/

/-- A row of a FROM clause: for each of its tables a row of that table, or nothing where an outer
join has put nulls. -/
abbrev JoinedRow (ρ : Type) := List (Option ρ)

/-- What a FROM clause is joined from. -/
structure Contents (ρ : Type) where
  /-- The rows of a table or a query. Those of a LATERAL query depend on the row to its left. -/
  rows : TableFactor → JoinedRow ρ → List ρ
  /-- Whether a join, after the tables on its left, takes a row of them together with one on its
  right. -/
  holds : List TableFactor → Join → JoinedRow ρ → JoinedRow ρ → Bool

/-- The rows of a part of a FROM clause, from its contents and the row to its left. -/
abbrev RowsOf : Type 1 := ∀ ρ : Type, Contents ρ → JoinedRow ρ → List (JoinedRow ρ)

/-- Nulls in the place of the rows of some tables. -/
def nulls (ρ : Type) (tables : Nat) : JoinedRow ρ := List.replicate tables none

section Joined

variable {ρ : Type} (on : JoinedRow ρ → JoinedRow ρ → Bool) (left : List (JoinedRow ρ))
  (right : JoinedRow ρ → List (JoinedRow ρ))

/-- The pairs of rows that a join matches. -/
def matchedRows : List (JoinedRow ρ) :=
  left.flatMap fun l => ((right l).filter (on l)).map (l ++ ·)

/-- The rows on the left that a join matches with none, before nulls for the tables on the right. -/
def paddedOnRight (m : Nat) : List (JoinedRow ρ) :=
  (left.filter fun l => (right l).all fun r => !on l r).map (· ++ nulls ρ m)

/-- The rows on the right that a join matches with none, after nulls for the tables on the left. A
query on the right does not refer to the row on the left then. -/
def paddedOnLeft (n : Nat) : List (JoinedRow ρ) :=
  ((right []).filter fun r => left.all fun l => !on l r).map (nulls ρ n ++ ·)

/-- The rows of a join of `n` tables with `m` tables. -/
def joinedRows (kind : JoinKind) (n m : Nat) : List (JoinedRow ρ) :=
  match kind with
  | .inner | .cross => matchedRows on left right
  | .left => matchedRows on left right ++ paddedOnRight on left right m
  | .right => matchedRows on left right ++ paddedOnLeft on left right n
  | .full =>
    matchedRows on left right ++ paddedOnRight on left right m ++ paddedOnLeft on left right n
  | _ => []

end Joined

mutual

/-- The rows of a table reference; `outer` is the row to its left. -/
def TableFactor.rows {ρ : Type} (c : Contents ρ) (outer : JoinedRow ρ) :
    TableFactor → List (JoinedRow ρ)
  | .table name before tableAlias after =>
    (c.rows (.table name before tableAlias after) outer).map fun r => [some r]
  | .derived lateral query tableAlias =>
    (c.rows (.derived lateral query tableAlias) outer).map fun r => [some r]
  | .nestedJoin inner _ => inner.rows c outer
  | .unmapped kind text => (c.rows (.unmapped kind text) outer).map fun _ => []

/-- The rows of a table reference with joins. -/
def TableWithJoins.rows {ρ : Type} (c : Contents ρ) (outer : JoinedRow ρ) :
    TableWithJoins → List (JoinedRow ρ)
  | ⟨relation, js⟩ => rowsOfJoins c outer relation.leaves (relation.rows c outer) js

/-- The rows of joins, from the tables on their left and their rows. -/
def rowsOfJoins {ρ : Type} (c : Contents ρ) (outer : JoinedRow ρ) (leaves : List TableFactor)
    (left : List (JoinedRow ρ)) : List Join → List (JoinedRow ρ)
  | [] => left
  | ⟨everywhere, kind, relation, shared, on⟩ :: js =>
    rowsOfJoins c outer (leaves ++ relation.leaves)
      (joinedRows (c.holds leaves ⟨everywhere, kind, relation, shared, on⟩) left
        (fun l => relation.rows c (outer ++ l)) kind leaves.length relation.leaves.length) js

end

/-- The tables of a FROM clause, in the order of the text. -/
def sourceLeaves (source : List TableWithJoins) : List TableFactor :=
  source.flatMap TableWithJoins.leaves

/-- The kinds of all joins of a FROM clause. -/
def sourceKinds (source : List TableWithJoins) : List JoinKind :=
  source.flatMap TableWithJoins.joinKinds

/-- The rows of a FROM clause: every row of an entry together with every row of the next ones. -/
def sourceRows {ρ : Type} (c : Contents ρ) (outer : JoinedRow ρ) :
    List TableWithJoins → List (JoinedRow ρ)
  | [] => [[]]
  | t :: ts => (t.rows c outer).flatMap fun l => (sourceRows c (outer ++ l) ts).map (l ++ ·)

end TypedSql.Sql

namespace TypedSql.Canonical

open Sql (Contents JoinedRow RowsOf TableFactor TableWithJoins Join JoinKind)

/-- Whether an item of a FROM clause is marked as one that can be replaced by nulls. -/
def Node.isNullable : Node → Bool
  | .table ref => ref.nullable
  | .derived _ _ nullable => nullable
  | _ => false

/-- An item of a FROM clause stands for a table or a query: it has its name and its alias, and the
query is the converted one. -/
def Node.StandsFor (s : Setting) : Node → TableFactor → Prop
  | .table ref, .table written _ tableAlias _ =>
    ∃ p q, (Conversion.tableRef written (tableAlias.map Sql.TableAlias.name)).run s p =
      (.ok { ref with nullable := false }, q)
  | .derived (.select found) aliasName _, .derived _ written tableAlias =>
    aliasName = tableAlias.map (fun a => fold s.dialect a.name) ∧
      ∃ p q, (Conversion.query written).run s p = (.ok found, q)
  | _, _ => False

/-- A row has an entry for every item, and a row of the table for every item without a mark. -/
def Guards {ρ : Type} (items : List Node) (row : JoinedRow ρ) : Prop :=
  List.Forall₂ (fun item entry => item.isNullable = false → entry.isSome) items row

/-- Items that have got marks. -/
def Marks (items items' : List Node) : Prop :=
  List.Forall₂ (fun item item' => item' = item ∨ item' = Conversion.markNullable item) items items'

/-! ## Segments -/

namespace Conversion

variable {s : Setting} {ρ : Type} {item : Node} {leaf : TableFactor}

theorem standsFor_markNullable (h : item.StandsFor s leaf) :
    (markNullable item).StandsFor s leaf := by
  unfold Node.StandsFor at h
  split at h
  · exact h
  · exact h
  · exact h.elim

theorem isNullable_markNullable (h : item.StandsFor s leaf) :
    (markNullable item).isNullable = true := by
  unfold Node.StandsFor at h
  split at h
  · rfl
  · rfl
  · exact h.elim

/-- An item without a mark has got none. -/
theorem isNullable_of_marked {item' : Node} (h : item' = item ∨ item' = markNullable item)
    (hitem : item'.isNullable = false) : item.isNullable = false := by
  rcases h with rfl | rfl
  · exact hitem
  · cases item <;> first | rfl | exact absurd hitem (by simp [markNullable, Node.isNullable])

end Conversion

open Conversion

theorem Marks.refl (items : List Node) : Marks items items := by
  induction items with
  | nil => exact .nil
  | cons item items ih => exact .cons (.inl rfl) ih

theorem Marks.all (items : List Node) : Marks items (items.map markNullable) := by
  induction items with
  | nil => exact .nil
  | cons item items ih => exact .cons (.inr rfl) ih

theorem markNullable_idem (item : Node) : markNullable (markNullable item) = markNullable item := by
  cases item <;> rfl

theorem Marks.trans {a b c : List Node} (hab : Marks a b) (hbc : Marks b c) : Marks a c := by
  induction hab generalizing c with
  | nil => exact hbc
  | cons h _ ih =>
    cases hbc with
    | cons h' hbc =>
      refine .cons ?_ (ih hbc)
      rcases h with rfl | rfl <;> rcases h' with rfl | rfl
      · exact .inl rfl
      · exact .inr rfl
      · exact .inr rfl
      · exact .inr (markNullable_idem _)

theorem Marks.of_append {left right items : List Node} (h : Marks (left ++ right) items) :
    ∃ left' right', items = left' ++ right' ∧ Marks left left' ∧ Marks right right' := by
  unfold Marks at *
  refine ⟨items.take left.length, items.drop left.length, (List.take_append_drop ..).symm, ?_, ?_⟩
  · simpa using List.forall₂_take left.length h
  · simpa using List.forall₂_drop left.length h

/-- More marks leave less to guard. -/
theorem Guards.marks {ρ : Type} {items items' : List Node} {row : JoinedRow ρ}
    (h : Guards items row) (hmarks : Marks items items') : Guards items' row := by
  unfold Guards at h
  induction hmarks generalizing row with
  | nil =>
    cases h
    exact .nil
  | cons hitem _ ih =>
    cases h with
    | cons hentry hrest =>
      exact .cons (fun hnot => hentry (isNullable_of_marked hitem hnot)) (ih hrest)

theorem Guards.append {ρ : Type} {left right : List Node} {l r : JoinedRow ρ} (hl : Guards left l)
    (hr : Guards right r) : Guards (left ++ right) (l ++ r) := List.rel_append hl hr

/-- A part of the flat list that stands for a part of the join tree, with its tables and rows. -/
structure Segment (s : Setting) (leaves : List TableFactor)
    (rows : RowsOf) (items : List Node) : Prop where
  leaves : List.Forall₂ (Node.StandsFor s) items leaves
  guards : ∀ ρ (c : Contents ρ) (outer : JoinedRow ρ), ∀ row ∈ rows ρ c outer, Guards items row

namespace Segment

variable {s : Setting} {leaves : List TableFactor} {rows : RowsOf} {items items' : List Node}

theorem marks (h : Segment s leaves rows items) (hmarks : Marks items items') :
    Segment s leaves rows items' := by
  refine ⟨?_, fun ρ c outer row hrow => (h.guards ρ c outer row hrow).marks hmarks⟩
  -- marking changes no leaf, so leaf by leaf the items stand for what they stood for
  have hleaves := h.leaves
  clear h
  induction hmarks generalizing leaves with
  | nil => exact hleaves
  | cons hitem _ ih =>
    cases hleaves with
    | cons hleaf hrest =>
      refine .cons ?_ (ih hrest)
      rcases hitem with rfl | rfl
      · exact hleaf
      · exact standsFor_markNullable hleaf

/-- Nulls may stand where every item is marked. -/
theorem guards_nulls {ρ : Type} (h : List.Forall₂ (Node.StandsFor s) items leaves) :
    Guards (items.map markNullable) (Sql.nulls ρ leaves.length) := by
  induction h with
  | nil => exact .nil
  | cons hleaf _ ih =>
    exact .cons (fun hnot => absurd (isNullable_markNullable hleaf) (by simp [hnot])) ih

end Segment

/-! ## Flattening -/

namespace Conversion

/-- The conversion of a part of a FROM clause marks what was found before, and adds a segment. -/
def Adding (s : Setting) (leaves : List TableFactor)
    (rows : RowsOf) (before after : List Node) : Prop :=
  ∃ before' items, after = before' ++ items ∧ Marks before before' ∧ Segment s leaves rows items

/-- The marks that a join sets, on the side to the left of it and on the side to the right. -/
theorem markJoin_append (kind : JoinKind) (left right : List Node) :
    markJoin kind left.length (left ++ right) =
      (if padsLeft kind then left.map markNullable else left) ++
        if padsRight kind then right.map markNullable else right := by
  rw [markJoin, List.take_left, List.drop_left]

theorem marks_ite (pads : Bool) (items : List Node) :
    Marks items (if pads then items.map markNullable else items) := by
  split
  · exact .all items
  · exact .refl items

section Step

variable {s : Setting} {leftLeaves rightLeaves : List TableFactor} {left right : List Node}
  {leftRows rightRows : RowsOf}

/-- A join of two segments: the sides that it fills up are marked as a whole. -/
theorem segment_join (kind : JoinKind) (on : ∀ ρ, Contents ρ → JoinedRow ρ → JoinedRow ρ → Bool)
    (hleft : Segment s leftLeaves leftRows left)
    (hright : Segment s rightLeaves rightRows right) :
    Segment s (leftLeaves ++ rightLeaves)
      (fun ρ c outer => Sql.joinedRows (on ρ c) (leftRows ρ c outer)
        (fun l => rightRows ρ c (outer ++ l)) kind leftLeaves.length rightLeaves.length)
      ((if padsLeft kind then left.map markNullable else left) ++
        if padsRight kind then right.map markNullable else right) := by
  have hleft' := hleft.marks (marks_ite (padsLeft kind) left)
  have hright' := hright.marks (marks_ite (padsRight kind) right)
  refine ⟨List.rel_append hleft'.leaves hright'.leaves, fun ρ c outer row hrow => ?_⟩
  -- a matched pair has rows on both sides
  have hmatched (h : row ∈ Sql.matchedRows (on ρ c) (leftRows ρ c outer)
      (fun l => rightRows ρ c (outer ++ l))) :
      Guards ((if padsLeft kind then left.map markNullable else left) ++
        if padsRight kind then right.map markNullable else right) row := by
    obtain ⟨l, hl, hrow⟩ := List.mem_flatMap.mp h
    obtain ⟨r, hr, rfl⟩ := List.mem_map.mp hrow
    exact (hleft'.guards ρ c outer l hl).append
      (hright'.guards ρ c (outer ++ l) r (List.mem_filter.mp hr).1)
  -- a row without a partner has nulls on the side that the join fills up
  have honRight (hpads : padsRight kind = true)
      (h : row ∈ Sql.paddedOnRight (on ρ c) (leftRows ρ c outer)
        (fun l => rightRows ρ c (outer ++ l)) rightLeaves.length) :
      Guards ((if padsLeft kind then left.map markNullable else left) ++
        if padsRight kind then right.map markNullable else right) row := by
    obtain ⟨l, hl, rfl⟩ := List.mem_map.mp h
    rw [if_pos hpads]
    exact (hleft'.guards ρ c outer l (List.mem_filter.mp hl).1).append
      (Segment.guards_nulls hright.leaves)
  have honLeft (hpads : padsLeft kind = true)
      (h : row ∈ Sql.paddedOnLeft (on ρ c) (leftRows ρ c outer)
        (fun l => rightRows ρ c (outer ++ l)) leftLeaves.length) :
      Guards ((if padsLeft kind then left.map markNullable else left) ++
        if padsRight kind then right.map markNullable else right) row := by
    obtain ⟨r, hr, rfl⟩ := List.mem_map.mp h
    rw [if_pos hpads]
    exact (Segment.guards_nulls hleft.leaves).append
      (hright'.guards ρ c (outer ++ []) r (List.mem_filter.mp hr).1)
  cases kind with
  | inner | cross => exact hmatched hrow
  | left =>
    rcases List.mem_append.mp hrow with h | h
    · exact hmatched h
    · exact honRight rfl h
  | right =>
    rcases List.mem_append.mp hrow with h | h
    · exact hmatched h
    · exact honLeft rfl h
  | full =>
    rcases List.mem_append.mp hrow with h | h
    · rcases List.mem_append.mp h with h | h
      · exact hmatched h
      · exact honRight rfl h
    · exact honLeft rfl h
  | _ => cases hrow

end Step

theorem unmappedJoin?_of_isStandard {kind : JoinKind} (h : kind.isStandard = true) :
    unmappedJoin? kind = none := by
  cases kind <;> first | rfl | cases h

theorem ensures_tableRef (name : Sql.ObjectName) (aliasName : Option Sql.Ident) :
    Ensures (tableRef name aliasName) (·.nullable = false) := by
  rw [tableRef]
  exact .after fun _ => .after fun _ => .pure rfl

theorem segment_singleton {s : Setting} {item : Node} {leaf : TableFactor}
    {rows : ∀ ρ, Contents ρ → JoinedRow ρ → List ρ} (h : item.StandsFor s leaf) :
    Segment s [leaf] (fun ρ c outer => (rows ρ c outer).map fun r => [some r]) [item] := by
  refine ⟨.cons h .nil, fun ρ c outer row hrow => ?_⟩
  obtain ⟨r, -, rfl⟩ := List.mem_map.mp hrow
  exact .cons (fun _ => rfl) .nil

/-- What is added after marks have been set is added. -/
theorem Adding.of_marks {s : Setting} {leaves : List TableFactor} {rows : RowsOf}
    {before before' after : List Node}
    (hmarks : Marks before before') (h : Adding s leaves rows before' after) :
    Adding s leaves rows before after := by
  obtain ⟨before'', items, hafter, hmarks', hseg⟩ := h
  exact ⟨before'', items, hafter, hmarks.trans hmarks', hseg⟩

mutual

theorem adding_factor {s : Setting} {p q : Progress} {acc found : Sources} (f : TableFactor)
    (hkinds : ∀ k ∈ f.joinKinds, k.isStandard = true)
    (hrun : (factor acc f).run s p = (.ok found, q)) :
    Adding s f.leaves (fun _ c outer => f.rows c outer) acc.items found.items := by
  match f with
  | .table name before tableAlias after =>
    rw [factor] at hrun
    obtain ⟨ref, r, href, hrun⟩ := run_bind_ok hrun
    rw [run_pure] at hrun
    cases hrun
    -- a table that is read stands unmarked until a join around it marks it
    have hnot : ref.nullable = false := ensures_tableRef _ _ s p ref _ href
    refine ⟨acc.items, [.table ref], rfl, .refl _, segment_singleton ⟨p, q, ?_⟩⟩
    rw [href, ← hnot]
  | .derived lateral query tableAlias =>
    rw [factor] at hrun
    obtain ⟨select, r, hselect, hrun⟩ := run_bind_ok hrun
    obtain ⟨d, r', hd, hrun⟩ := run_bind_ok hrun
    rw [run_dialect] at hd
    cases hd
    rw [run_pure] at hrun
    cases hrun
    exact ⟨acc.items, _, rfl, .refl _, segment_singleton ⟨rfl, p, _, hselect⟩⟩
  | .nestedJoin inner tableAlias =>
    rw [factor] at hrun
    exact adding_table inner hkinds hrun
  -- what is not mapped stands for no leaf, and its rows are those of no table
  | .unmapped kind text =>
    rw [factor] at hrun
    obtain ⟨-, r, -, hrun⟩ := run_bind_ok hrun
    obtain ⟨params, r', -, hrun⟩ := run_bind_ok hrun
    rw [run_pure] at hrun
    cases hrun
    refine ⟨acc.items, [], (List.append_nil _).symm, .refl _, .nil, fun ρ c outer row hrow => ?_⟩
    obtain ⟨_, -, rfl⟩ := List.mem_map.mp hrow
    exact .nil

theorem adding_table {s : Setting} {p q : Progress} {acc found : Sources} (t : TableWithJoins)
    (hkinds : ∀ k ∈ t.joinKinds, k.isStandard = true)
    (hrun : (table acc t).run s p = (.ok found, q)) :
    Adding s t.leaves (fun _ c outer => t.rows c outer) acc.items found.items := by
  match t with
  | ⟨relation, js⟩ =>
    obtain ⟨hrelation, hjs⟩ := List.forall_mem_append.mp hkinds
    rw [table] at hrun
    obtain ⟨acc', r, hfactor, hrun⟩ := run_bind_ok hrun
    obtain ⟨before, left, hitems, hmarks, hleft⟩ := adding_factor relation hrelation hfactor
    exact (adding_joins js hjs hrun hitems hleft).of_marks hmarks

/-- The joins after a segment extend it. -/
theorem adding_joins {s : Setting} {p q : Progress} {acc found : Sources} (js : List Join)
    (hkinds : ∀ k ∈ Sql.kindsOfJoins js, k.isStandard = true)
    (hrun : (joins acc js).run s p = (.ok found, q)) {before left : List Node}
    {leaves : List TableFactor} {rows : RowsOf}
    (hitems : acc.items = before ++ left) (hleft : Segment s leaves rows left) :
    Adding s (leaves ++ Sql.joinedLeaves js)
      (fun ρ c outer => Sql.rowsOfJoins c outer leaves (rows ρ c outer) js)
      before found.items := by
  match js with
  | [] =>
    rw [joins, run_pure] at hrun
    cases hrun
    rw [Sql.joinedLeaves, List.append_nil]
    exact ⟨before, left, hitems, .refl _, hleft⟩
  | ⟨everywhere, kind, relation, shared, on⟩ :: js =>
    obtain ⟨hkind, hkinds⟩ := List.forall_mem_cons.mp hkinds
    obtain ⟨hrelation, hjs⟩ := List.forall_mem_append.mp hkinds
    rw [joins] at hrun
    obtain ⟨acc', r, hfactor, hrun⟩ := run_bind_ok hrun
    obtain ⟨soFar, right, hacc', hmarks, hright⟩ := adding_factor relation hrelation hfactor
    have hlength : acc.items.length = soFar.length := hmarks.length_eq
    -- joins nested on the right may have marked what stands on the left
    rw [hitems] at hmarks
    obtain ⟨before', left', rfl, hbefore, hmarksLeft⟩ := hmarks.of_append
    -- the join marks the whole of its sides, and everything further left with the left one
    have hjoined : markJoin kind acc.items.length acc'.items =
        (if padsLeft kind then before'.map markNullable else before') ++
        ((if padsLeft kind then left'.map markNullable else left') ++
          if padsRight kind then right.map markNullable else right) := by
      rw [hacc', hlength, markJoin_append, ← List.append_assoc]
      split <;> simp
    simp only [unmappedJoin?_of_isStandard hkind] at hrun
    obtain ⟨condition, r₁, -, hrun⟩ := run_bind_ok hrun
    obtain ⟨-, r₂, -, hrun⟩ := run_bind_ok hrun
    rw [pure_bind] at hrun
    have hrest := adding_joins js hjs hrun hjoined
      (segment_join kind (fun _ c => c.holds leaves ⟨everywhere, kind, relation, shared, on⟩)
        (hleft.marks hmarksLeft) hright)
    rw [List.append_assoc] at hrest
    exact hrest.of_marks (hbefore.trans (marks_ite (padsLeft kind) before'))

end

/-- The entries of a FROM clause stand side by side. -/
theorem segment_pair {s : Setting} {leftLeaves rightLeaves : List TableFactor}
    {left right : List Node}
    {leftRows rightRows : RowsOf}
    (hleft : Segment s leftLeaves leftRows left) (hright : Segment s rightLeaves rightRows right) :
    Segment s (leftLeaves ++ rightLeaves)
      (fun ρ c outer => (leftRows ρ c outer).flatMap fun l =>
        (rightRows ρ c (outer ++ l)).map (l ++ ·)) (left ++ right) := by
  refine ⟨List.rel_append hleft.leaves hright.leaves, fun ρ c outer row hrow => ?_⟩
  obtain ⟨l, hl, hrow⟩ := List.mem_flatMap.mp hrow
  obtain ⟨r, hr, rfl⟩ := List.mem_map.mp hrow
  exact (hleft.guards ρ c outer l hl).append (hright.guards ρ c (outer ++ l) r hr)

theorem adding_tables {s : Setting} {p q : Progress} {acc found : Sources}
    (source : List TableWithJoins) (hkinds : ∀ k ∈ Sql.sourceKinds source, k.isStandard = true)
    (hrun : (tables acc source).run s p = (.ok found, q)) :
    Adding s (Sql.sourceLeaves source) (fun _ c outer => Sql.sourceRows c outer source)
      acc.items found.items := by
  induction source generalizing acc p with
  | nil =>
    rw [tables, run_pure] at hrun
    cases hrun
    refine ⟨found.items, [], (List.append_nil _).symm, .refl _, .nil, fun ρ c outer row hrow => ?_⟩
    rw [List.mem_singleton.mp hrow]
    exact .nil
  | cons t ts ih =>
    obtain ⟨ht, hts⟩ := List.forall_mem_append.mp hkinds
    rw [tables] at hrun
    obtain ⟨acc', r, htable, hrun⟩ := run_bind_ok hrun
    obtain ⟨before, left, hacc', hmarks, hleft⟩ := adding_table t ht htable
    obtain ⟨soFar, right, hfound, hmarks', hright⟩ := ih hts hrun
    -- a later entry may mark what earlier ones have added
    rw [hacc'] at hmarks'
    obtain ⟨before', left', rfl, hbefore, hleft'⟩ := hmarks'.of_append
    rw [List.append_assoc] at hfound
    exact ⟨before', left' ++ right, hfound, hmarks.trans hbefore,
      segment_pair (hleft.marks hleft') hright⟩

/-! ## Joins that fill up nothing -/

/-- No item has a mark. -/
def Unmarked (items : List Node) : Prop := ∀ item ∈ items, item.isNullable = false

theorem markJoin_of_not_isOuter {kind : JoinKind} (h : kind.isOuter = false) (n : Nat)
    (items : List Node) : markJoin kind n items = items := by
  cases kind <;> first | exact List.take_append_drop n items | cases h

mutual

theorem unmarked_factor (f : TableFactor) (hkinds : ∀ k ∈ f.joinKinds, k.isOuter = false)
    {acc : Sources} (hacc : Unmarked acc.items) :
    Ensures (factor acc f) (Unmarked ·.items) := by
  match f with
  | .table name before tableAlias after =>
    rw [factor]
    refine .bind (ensures_tableRef _ _) fun ref href => .pure ?_
    exact List.forall_mem_append.mpr ⟨hacc, List.forall_mem_singleton.mpr href⟩
  | .derived lateral query tableAlias =>
    rw [factor]
    refine .after fun select => .after fun d => .pure ?_
    exact List.forall_mem_append.mpr ⟨hacc, List.forall_mem_singleton.mpr rfl⟩
  | .nestedJoin inner tableAlias =>
    rw [factor]
    exact unmarked_table inner hkinds hacc
  | .unmapped kind text =>
    rw [factor]
    exact .after fun _ => .after fun params => .pure hacc

theorem unmarked_table (t : TableWithJoins) (hkinds : ∀ k ∈ t.joinKinds, k.isOuter = false)
    {acc : Sources} (hacc : Unmarked acc.items) : Ensures (table acc t) (Unmarked ·.items) := by
  match t with
  | ⟨relation, js⟩ =>
    obtain ⟨hrelation, hjs⟩ := List.forall_mem_append.mp hkinds
    rw [table]
    exact .bind (unmarked_factor relation hrelation hacc) fun acc hacc => unmarked_joins js hjs hacc

theorem unmarked_joins (js : List Join) (hkinds : ∀ k ∈ Sql.kindsOfJoins js, k.isOuter = false)
    {acc : Sources} (hacc : Unmarked acc.items) : Ensures (joins acc js) (Unmarked ·.items) := by
  match js with
  | [] =>
    rw [joins]
    exact .pure hacc
  -- a join that is not outer marks neither side
  | ⟨_, kind, relation, shared, on⟩ :: js =>
    obtain ⟨hkind, hkinds⟩ := List.forall_mem_cons.mp hkinds
    obtain ⟨hrelation, hjs⟩ := List.forall_mem_append.mp hkinds
    rw [joins]
    refine .bind (unmarked_factor relation hrelation hacc) fun acc hacc => ?_
    simp only [markJoin_of_not_isOuter hkind]
    split
    · exact .after fun _ => unmarked_joins js hjs hacc
    · exact .after fun condition => .after fun _ => unmarked_joins js hjs hacc

end

theorem unmarked_tables (source : List TableWithJoins)
    (hkinds : ∀ k ∈ Sql.sourceKinds source, k.isOuter = false) {acc : Sources}
    (hacc : Unmarked acc.items) : Ensures (tables acc source) (Unmarked ·.items) := by
  induction source generalizing acc with
  | nil =>
    rw [tables]
    exact .pure hacc
  | cons t ts ih =>
    obtain ⟨ht, hts⟩ := List.forall_mem_append.mp hkinds
    rw [tables]
    exact .bind (unmarked_table t ht hacc) fun acc hacc => ih hts hacc

/-! ## FROM clauses -/

/-- **Flattening the joins of a FROM clause is sound.** The flat list has the tables of the clause
in the order of the text. Whatever they hold and the joins compare, every row that the joins produce
has a row of each table without a mark. Without an outer join there are no marks. -/
theorem tables_guard_rows {s : Setting} {p q : Progress} {source : List TableWithJoins}
    {found : Sources} (hkinds : ∀ k ∈ Sql.sourceKinds source, k.isStandard = true)
    (hrun : (tables ⟨[], []⟩ source).run s p = (.ok found, q)) :
    List.Forall₂ (Node.StandsFor s) found.items (Sql.sourceLeaves source) ∧
      (∀ (ρ : Type) (c : Contents ρ) (outer : JoinedRow ρ), ∀ row ∈ Sql.sourceRows c outer source,
        Guards found.items row) ∧
      ((∀ k ∈ Sql.sourceKinds source, k.isOuter = false) →
        ∀ item ∈ found.items, item.isNullable = false) := by
  obtain ⟨before, items, hfound, hmarks, hseg⟩ := adding_tables source hkinds hrun
  -- nothing stands before the first table, so all items are those of the FROM
  obtain rfl : before = [] := List.forall₂_nil_left_iff.mp hmarks
  have hitems : found.items = items := hfound
  rw [hitems]
  refine ⟨hseg.leaves, hseg.guards, fun houter => ?_⟩
  -- without an outer join nothing marks an item
  have hnone : Ensures (tables ⟨[], []⟩ source) (Unmarked ·.items) :=
    unmarked_tables source houter (List.forall_mem_nil _)
  exact hitems ▸ hnone s p found q hrun

/-- `a JOIN (b LEFT JOIN c ON TRUE) ON TRUE, d`. -/
def joinInParentheses : List TableWithJoins :=
  let named (name : String) : TableFactor := .table [⟨name, none⟩] "" none ""
  let always : Option Sql.Expr := some (.literal (.boolean true))
  let inner : TableWithJoins := ⟨named "b", [⟨false, .left, named "c", .none, always⟩]⟩
  [⟨named "a", [⟨false, .inner, .nestedJoin inner none, .none, always⟩]⟩, ⟨named "d", []⟩]

/-- In every row of `a JOIN (b LEFT JOIN c ON TRUE) ON TRUE, d` only the row of `c` can be
missing. -/
theorem tables_guard_rows_joinInParentheses :
    ∃ found q, (tables ⟨[], []⟩ joinInParentheses).run ⟨.postgres, 0, false⟩ (.start []) =
        (.ok found, q) ∧
      found.items.map Node.isNullable = [false, false, true, false] ∧
      ∀ (ρ : Type) (c : Contents ρ), ∀ row ∈ Sql.sourceRows c [] joinInParentheses,
        Guards found.items row := by
  have hrun : (tables ⟨[], []⟩ joinInParentheses).run ⟨.postgres, 0, false⟩ (.start []) =
      (.ok ⟨[.table ⟨none, "a", none, false⟩, .table ⟨none, "b", none, false⟩,
        .table ⟨none, "c", none, true⟩, .table ⟨none, "d", none, false⟩],
        [.literal (.boolean true), .literal (.boolean true)]⟩, .start []) := rfl
  refine ⟨_, _, hrun, rfl, fun ρ c => ?_⟩
  exact (tables_guard_rows (by decide) hrun).2.1 ρ c []

end Conversion

end TypedSql.Canonical
