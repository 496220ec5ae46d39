import TypedSql.Proofs.Catalog.Frame

/-!
# Commands of an ALTER TABLE one by one

An ALTER TABLE works on a copy of its table and looks names up in the catalog as it was before. The
same commands may also be given one by one, each in a statement of its own that sees what the ones
before have done. Both ways come to the same catalog or to the same error, except that within one
statement the name that the table has had at first stays taken.

- **Extensionality**: well-formed catalogs that answer all lookups alike are equal
- **Moves**: a table that moves twice has moved once
- **Single commands**: a command means the same before the statement and in its course, unless it
  gives the table back its first name
- **Runs**: the commands of a statement all together and one by one
-/

namespace TypedSql

open Canonical (AlterCommand Node)

/-! ## Extensionality -/

section Entries

variable {α : Type} {k : String} {v : α} {es es' : List (String × α)}

/-- Among sorted entries, those that are there are those that a lookup finds. -/
theorem mem_iff_lookup_eq_some (h : SortedEntries es) : (k, v) ∈ es ↔ es.lookup k = some v := by
  induction es with
  | nil => simp
  | cons e es ih =>
    obtain ⟨hhead, htail⟩ := List.pairwise_cons.mp h
    obtain ⟨k', v'⟩ := e
    rw [lookup_entry_cons, List.mem_cons, ih htail, Prod.mk.injEq]
    by_cases hk : k = k'
    · -- the entries after it have greater names
      subst hk
      simp [lookup_eq_none_of_lt hhead, eq_comm]
    · simp [hk]

theorem SortedEntries.nodup (h : SortedEntries es) : es.Nodup := by
  refine List.Pairwise.imp ?_ h
  rintro e _ hlt rfl
  exact String.lt_irrefl _ hlt

theorem SortedEntries.eq_of_lookup_eq (h : SortedEntries es) (h' : SortedEntries es')
    (heq : ∀ k, es.lookup k = es'.lookup k) : es = es' := by
  have hperm : es.Perm es' := by
    refine (List.perm_ext_iff_of_nodup h.nodup h'.nodup).mpr fun (k, v) => ?_
    rw [mem_iff_lookup_eq_some h, mem_iff_lookup_eq_some h', heq]
  refine hperm.eq_of_pairwise ?_ h h'
  exact fun a b _ _ hab hba => absurd (String.lt_trans hab hba) (String.lt_irrefl _)

end Entries

/-- Directories that answer every lookup alike are equal. -/
theorem Directory.ext_find? {α : Type} {d d' : Directory α}
    (h : ∀ k, d.find? k = d'.find? k) : d = d' := by
  obtain ⟨es, hes⟩ := d
  obtain ⟨es', hes'⟩ := d'
  obtain rfl : es = es' := hes.eq_of_lookup_eq hes' h
  rfl

theorem Schema.StoredAs.ext {s s' : Schema} {name : String} (h : s.StoredAs name)
    (h' : s'.StoredAs name) (htables : ∀ n, s.tables.find? n = s'.tables.find? n) : s = s' := by
  obtain ⟨sname, tables⟩ := s
  obtain ⟨sname', tables'⟩ := s'
  obtain rfl : sname = name := h.name_eq
  obtain rfl : sname' = sname := h'.name_eq
  exact congrArg (Schema.mk _) (Directory.ext_find? htables)

namespace Catalog

variable {c c' : Catalog} {name : TableName} {old t t' : Table}

/-- Well-formed catalogs with the same schemas in which the same tables are found are equal. -/
theorem WellFormed.ext (h : c.WellFormed) (h' : c'.WellFormed)
    (hdefault : c.defaultSchema = c'.defaultSchema)
    (hschemas : ∀ k, (c.schema? k).isSome = (c'.schema? k).isSome)
    (htables : ∀ name, c.table? name = c'.table? name) : c = c' := by
  have hschema (k : String) : c.schema? k = c'.schema? k := by
    have hthere := hschemas k
    cases hs : c.schema? k with
    | none =>
      rw [hs] at hthere
      exact (Option.not_isSome_iff_eq_none.mp (by rw [← hthere]; simp)).symm
    | some s =>
      rw [hs] at hthere
      obtain ⟨s', hs'⟩ := Option.isSome_iff_exists.mp hthere.symm
      rw [hs']
      refine congrArg some ((h.schemas k s hs).ext (h'.schemas k s' hs') fun n => ?_)
      -- a name in the schema is looked up there by both catalogs
      have htable := htables (.qualified k n)
      simp only [table?_eq_bind] at htable
      have hplace (c : Catalog) : c.schemaName (.qualified k n) = k := rfl
      rw [hplace, hplace, hs, hs'] at htable
      exact htable
  obtain ⟨defaultSchema, schemas⟩ := c
  obtain ⟨defaultSchema', schemas'⟩ := c'
  obtain rfl : defaultSchema = defaultSchema' := hdefault
  exact congrArg (Catalog.mk _) (Directory.ext_find? hschema)

/-! ## Moves -/

/-- The catalog in which a table has left its place and taken that of its new name. -/
def moved (c : Catalog) (old t : Table) : Catalog :=
  (c.removeTable old.name).insertTable (t.name.schema.getD "") t

/-- A table of a catalog on the way from its first form to another one: it still has its first name,
or one that no table of the catalog has. -/
structure Movable (c : Catalog) (old t : Table) : Prop where
  found : c.table? old.name = some old
  wellFormed : t.WellFormed
  placed : c.Placed t.name
  free : t.name = old.name ∨ c.table? t.name = none

theorem WellFormed.movable (h : c.WellFormed) (hfound : c.table? name = some old) :
    c.Movable old old where
  found := by rw [h.name_eq hfound, table?_qualify, hfound]
  wellFormed := by
    obtain ⟨hname, hnodup⟩ := h.lookupTable (table?_eq_some_iff.mp hfound)
    exact ⟨by rw [hname]; rfl, hnodup⟩
  placed := h.placed hfound
  free := .inl rfl

theorem Movable.placed_old (h : c.WellFormed) (ht : c.Movable old t) : c.Placed old.name :=
  h.placed ht.found

section Moved

variable (h : c.WellFormed) (ht : c.Movable old t)

theorem moved_defaultSchema (c : Catalog) (old t : Table) :
    (c.moved old t).defaultSchema = c.defaultSchema := by
  rw [moved, insertTable_defaultSchema, removeTable_defaultSchema]

theorem qualify_moved (c : Catalog) (old t : Table) (name : TableName) :
    (c.moved old t).qualify name = c.qualify name := qualify_congr (moved_defaultSchema ..) name

theorem schemaName_moved (c : Catalog) (old t : Table) (name : TableName) :
    (c.moved old t).schemaName name = c.schemaName name :=
  schemaName_congr (moved_defaultSchema ..) name

theorem isSome_schema?_moved (c : Catalog) (old t : Table) (k : String) :
    ((c.moved old t).schema? k).isSome = (c.schema? k).isSome := by
  rw [moved, isSome_schema?_insertTable, isSome_schema?_removeTable]

include h ht

theorem moved_wellFormed : (c.moved old t).WellFormed :=
  insertTable_keeps (removeTable_keeps h old.name) ht.wellFormed

theorem find?_moved (name : TableName) :
    (c.moved old t).table? name =
      if c.qualify name = t.name then some t
      else if c.qualify name = old.name then none else c.table? name :=
  table?_moved (ht.placed_old h) ht.placed name

/-- A table that has moved is found under its name. -/
theorem find?_moved_self : (c.moved old t).table? t.name = some t := by
  rw [find?_moved h ht, if_pos ht.placed.qualify_eq]

/-- A table that has moved can move on to wherever it could have moved at first. -/
theorem movable_moved (ht' : c.Movable old t') : (c.moved old t).Movable t t' where
  found := find?_moved_self h ht
  wellFormed := ht'.wellFormed
  placed := by
    refine ⟨?_, ?_⟩
    · rw [schemaName_moved, isSome_schema?_moved]
      exact ht'.placed.schema_isSome
    · rw [qualify_moved]
      exact ht'.placed.qualify_eq
  free := by
    -- the name was free in the catalog, and the table itself has moved away from its own
    by_cases hnow : t'.name = t.name
    · exact .inl hnow
    · right
      rw [find?_moved h ht, ht'.placed.qualify_eq, if_neg hnow]
      split
      · rfl
      · rename_i hnew
        exact ht'.free.resolve_left hnew

/-- A table that moves twice has moved once: nothing is left in the place between. -/
theorem moved_moved (ht' : c.Movable old t') : (c.moved old t).moved t t' = c.moved old t' := by
  have h₁ := moved_wellFormed h ht
  have ht₁ := movable_moved h ht ht'
  refine (moved_wellFormed h₁ ht₁).ext (moved_wellFormed h ht') ?_ (fun k => ?_) fun name => ?_
  · rw [moved_defaultSchema, moved_defaultSchema, moved_defaultSchema]
  · rw [isSome_schema?_moved, isSome_schema?_moved, isSome_schema?_moved]
  · rw [find?_moved h₁ ht₁, find?_moved h ht, find?_moved h ht', qualify_moved]
    by_cases hnow : c.qualify name = t'.name
    · rw [if_pos hnow, if_pos hnow]
    · rw [if_neg hnow, if_neg hnow]
      by_cases hbetween : c.qualify name = t.name
      · -- the place between is the first one, or one that was free
        rw [if_pos hbetween]
        split
        · rfl
        · rename_i hfirst
          have hfree := ht.free.resolve_left fun heq => hfirst (hbetween.trans heq)
          rw [← table?_qualify, hbetween, hfree]
      · rw [if_neg hbetween, if_neg hbetween]

end Moved

/-- A table that stays as it is stays where it is. -/
theorem moved_self (h : c.WellFormed) (hold : c.Movable old old) : c.moved old old = c := by
  refine (moved_wellFormed h hold).ext h (moved_defaultSchema ..) (isSome_schema?_moved c old old)
    fun name => ?_
  rw [find?_moved h hold]
  split
  · rename_i heq
    rw [← table?_qualify, heq, hold.found]
  · rfl

/-! ## Single commands -/

/-- A command gives a table its first name, after the table has had another one. -/
def Returns (c : Catalog) (first now : TableName) (a : AlterCommand) : Prop :=
  now ≠ first ∧ ∃ new, a = .renameTable new ∧ c.renameTarget now new = first

/-- Whether a table may take a name is settled by the schemas and by what is found under it. -/
theorem checkTarget_eq (c : Catalog) {now new : TableName} (hfull : new.schema.isSome) :
    c.checkTarget now new =
      if (c.schema? (c.schemaName new)).isSome then
        if new ≠ now ∧ (c.table? new).isSome then .error (.duplicateTable new) else .ok ()
      else .error (.unknownSchema (c.schemaName new)) := by
  obtain ⟨schema, hschema⟩ := Option.isSome_iff_exists.mp hfull
  have hplace : c.schemaName new = schema := by rw [schemaName, hschema]; rfl
  rw [checkTarget, hschema, Option.getD_some, table?_eq_bind, hplace]
  cases c.schema? schema with
  | none => rfl
  | some s => rfl

theorem qualify_of_isSome (c : Catalog) (hfull : name.schema.isSome) : c.qualify name = name := by
  obtain ⟨schema, hschema⟩ := Option.isSome_iff_exists.mp hfull
  rw [qualify, schemaName, hschema, Option.getD_some, TableName.qualified, ← hschema]

theorem renameTarget_moved (c : Catalog) (old t : Table) (now new : TableName) :
    (c.moved old t).renameTarget now new = c.renameTarget now new :=
  renameTarget_congr (moved_defaultSchema ..) now new

/-- Only a RENAME looks at the catalog. -/
theorem alter_congr {a : AlterCommand} (ha : ∀ new, a = .renameTable new →
      c'.renameTarget t.name new = c.renameTarget t.name new ∧
      c'.checkTarget t.name (c.renameTarget t.name new) =
        c.checkTarget t.name (c.renameTarget t.name new)) :
    c'.alter t a = c.alter t a := by
  cases a with
  | renameTable new =>
    obtain ⟨htarget, hcheck⟩ := ha new rfl
    rw [alter, alter, htarget, hcheck]
  | _ => rfl

section Single

variable (h : c.WellFormed) (ht : c.Movable old t) {a : AlterCommand}
include h ht

/-- A command means the same before the statement and in its course, unless it gives the table back
its first name. -/
theorem alter_moved (ha : ¬ c.Returns old.name t.name a) :
    (c.moved old t).alter t a = c.alter t a := by
  refine alter_congr fun new hnew => ⟨renameTarget_moved .., ?_⟩
  have hfull := renameTarget_isSome c new ht.placed.name_schema_isSome
  rw [checkTarget_eq _ hfull, checkTarget_eq _ hfull, schemaName_moved, isSome_schema?_moved,
    find?_moved h ht, qualify_of_isSome c hfull]
  by_cases hnow : c.renameTarget t.name new = t.name
  · simp [hnow]
  · -- the name is not the first one, so both catalogs find the same under it
    have hfirst : c.renameTarget t.name new ≠ old.name := by
      intro heq
      exact ha ⟨fun hsame => hnow (heq.trans hsame.symm), new, hnew, heq⟩
    rw [if_neg hnow, if_neg hfirst]

/-- Within one statement the first name of the table stays taken. -/
theorem alter_of_returns (ha : c.Returns old.name t.name a) :
    c.alter t a = .error (.duplicateTable old.name) := by
  obtain ⟨hne, new, rfl, htarget⟩ := ha
  have hfull : old.name.schema.isSome := (ht.placed_old h).name_schema_isSome
  have htaken : old.name ≠ t.name ∧ (c.table? old.name).isSome :=
    ⟨hne.symm, by rw [ht.found]; rfl⟩
  rw [alter, htarget, checkTarget_eq c hfull, if_pos (ht.placed_old h).schema_isSome,
    if_pos htaken]
  rfl

omit h in
theorem movable_alter (hrun : c.alter t a = .ok t') : c.Movable old t' := by
  obtain ⟨hplaced, hfree⟩ := alter_placed a ht.placed hrun
  refine ⟨ht.found, alter_keeps a hrun ht.wellFormed, hplaced, ?_⟩
  rcases hfree with heq | hfree
  · rw [heq]
    exact ht.free
  · exact .inr hfree

end Single

/-- A statement whose table is found does what its commands do. -/
theorem apply_alterTable (hold : c.table? name = some old) (ifExists : Bool)
    (commands : List AlterCommand) :
    c.apply (.alterTable name ifExists commands) =
      (c.alterAll old commands).map (c.moved old) := by
  rw [apply, alterTable, table?_eq_some_iff.mp hold]
  dsimp only
  cases c.alterAll old commands <;> rfl

theorem alterAll_singleton (c : Catalog) (t : Table) (a : AlterCommand) :
    c.alterAll t [a] = c.alter t a := by
  rw [alterAll]
  cases c.alter t a <;> rfl

/-! ## Runs -/

/-- The catalog after commands that are given one by one, each in a statement of its own that calls
the table by the name that it then has. -/
def alterInTurn (ifExists : Bool) (c : Catalog) (name : TableName) :
    List AlterCommand → Except CatalogError Catalog
  | [] => .ok c
  | a :: as =>
    match c.apply (.alterTable name ifExists [a]) with
    | .ok next => next.alterInTurn ifExists (c.nameAfter name a) as
    | .error e => .error e

/-- Some RENAME gives a table its first name, after another one has given it a different name. -/
def RenamesBack (c : Catalog) (first : TableName) (commands : List AlterCommand) : Prop :=
  ∃ before new after, commands = before ++ .renameTable new :: after ∧
    (∃ name ∈ c.namesDuring first before, name ≠ first) ∧
    c.renameTarget (before.foldl c.nameAfter first) new = first

theorem RenamesBack.append {first : TableName} {commands : List AlterCommand}
    (h : c.RenamesBack first commands) (more : List AlterCommand) :
    c.RenamesBack first (commands ++ more) := by
  obtain ⟨before, new, after, rfl, hnames⟩ := h
  exact ⟨before, new, after ++ more, by simp, hnames⟩

section Together

variable {commands : List AlterCommand}

theorem alterAll_name (hrun : c.alterAll t commands = .ok t') :
    t'.name = commands.foldl c.nameAfter t.name := by
  induction commands generalizing t with
  | nil =>
    cases hrun
    rfl
  | cons a as ih =>
    rw [alterAll] at hrun
    split at hrun
    · rename_i next halter
      rw [ih hrun, alter_name a halter, List.foldl_cons]
    · cases hrun

theorem alterAll_append (c : Catalog) (t : Table) (as bs : List AlterCommand) :
    c.alterAll t (as ++ bs) = c.alterAll t as >>= fun t' => c.alterAll t' bs := by
  induction as generalizing t with
  | nil => rfl
  | cons a as ih =>
    rw [List.cons_append, alterAll, alterAll]
    cases c.alter t a with
    | ok next => exact ih next
    | error e => rfl

/-- A statement that fails has a first command that fails. -/
theorem exists_failing {e : CatalogError} (hrun : c.alterAll t commands = .error e) :
    ∃ before a after t', commands = before ++ a :: after ∧ c.alterAll t before = .ok t' ∧
      c.alter t' a = .error e := by
  -- the command that fails is the first one whose result is an error
  induction commands generalizing t with
  | nil => cases hrun
  | cons a as ih =>
    rw [alterAll] at hrun
    cases halter : c.alter t a with
    | error e' =>
      rw [halter] at hrun
      cases hrun
      exact ⟨[], a, as, t, rfl, rfl, halter⟩
    | ok next =>
      rw [halter] at hrun
      obtain ⟨before, b, after, t', rfl, hbefore, hfails⟩ := ih hrun
      refine ⟨a :: before, b, after, t', rfl, ?_, hfails⟩
      rw [alterAll, halter]
      exact hbefore

variable (h : c.WellFormed)

theorem movable_alterAll (ht : c.Movable old t) (hrun : c.alterAll t commands = .ok t') :
    c.Movable old t' := by
  -- every command leaves the table in a state that it can be put back in
  induction commands generalizing t with
  | nil =>
    cases hrun
    exact ht
  | cons a as ih =>
    rw [alterAll] at hrun
    split at hrun
    · rename_i next halter
      exact ih (movable_alter ht halter) hrun
    · cases hrun

include h

/-- A table that has had another name in the course of a statement does not get its first one
again. -/
theorem name_ne_of_mem_namesDuring (ht : c.Movable old t)
    (hrun : c.alterAll t commands = .ok t') {between : TableName}
    (hbetween : between ∈ c.namesDuring t.name commands) (hne : between ≠ old.name) :
    t'.name ≠ old.name := by
  induction commands generalizing t between with
  | nil =>
    cases hrun
    rwa [← List.mem_singleton.mp hbetween]
  | cons a as ih =>
    rw [alterAll] at hrun
    split at hrun
    · rename_i next halter
      have hname := alter_name a halter
      rw [namesDuring, ← hname] at hbetween
      rcases List.mem_cons.mp hbetween with rfl | hlater
      · -- the next name is not the first one either, or else the command would have failed
        refine ih (movable_alter ht halter) hrun (head_mem_namesDuring ..) fun heq => ?_
        rw [hname] at heq
        cases a with
        | renameTable new =>
          have hreturns : c.Returns old.name t.name (.renameTable new) := ⟨hne, new, rfl, heq⟩
          rw [alter_of_returns h ht hreturns] at halter
          cases halter
        | _ => exact hne heq
      · exact ih (movable_alter ht halter) hrun hlater hne
    · cases hrun

/-- Commands that succeed within one statement do not give the table its first name again. -/
theorem not_renamesBack (hold : c.Movable old old) (hrun : c.alterAll old commands = .ok t) :
    ¬ c.RenamesBack old.name commands := by
  rintro ⟨before, new, after, rfl, ⟨between, hbetween, hne⟩, htarget⟩
  rw [alterAll_append] at hrun
  obtain ⟨t', hbefore, hrest⟩ := exists_of_bind_eq_ok hrun
  rw [← alterAll_name hbefore] at htarget
  have hreturns : c.Returns old.name t'.name (.renameTable new) :=
    ⟨name_ne_of_mem_namesDuring h hold hbefore hbetween hne, new, rfl, htarget⟩
  rw [alterAll, alter_of_returns h (movable_alterAll hold hbefore) hreturns] at hrest
  cases hrest

/-- Commands that succeed within one statement succeed one by one, and all that follow go on from
the catalog that the statement leads to. -/
theorem alterInTurn_append (ifExists : Bool) (ht : c.Movable old t)
    (hrun : c.alterAll t commands = .ok t') (rest : List AlterCommand) :
    (c.moved old t).alterInTurn ifExists t.name (commands ++ rest) =
      (c.moved old t').alterInTurn ifExists t'.name rest := by
  induction commands generalizing t with
  | nil =>
    cases hrun
    rfl
  | cons a as ih =>
    rw [alterAll] at hrun
    split at hrun
    · rename_i next halter
      have hnext := movable_alter ht halter
      -- a command that succeeds does not move the table back to where it came from
      have hreturns : ¬ c.Returns old.name t.name a := by
        intro hreturns
        rw [alter_of_returns h ht hreturns] at halter
        cases halter
      -- the table is called the same by the catalog in between, where its name is the one so far
      have hname : (c.moved old t).nameAfter t.name a = next.name := by
        rw [alter_name a halter]
        exact nameAfter_congr (moved_defaultSchema ..) t.name a
      rw [List.cons_append, alterInTurn, apply_alterTable (find?_moved_self h ht),
        alterAll_singleton, alter_moved h ht hreturns, halter]
      dsimp only [Except.map]
      rw [moved_moved h ht hnext, hname]
      exact ih hnext hrun
    · cases hrun

end Together

/-- What follows a command that fails is not reached. -/
theorem alterInTurn_append_error {ifExists : Bool} {commands : List AlterCommand} {e : CatalogError}
    (hrun : c.alterInTurn ifExists name commands = .error e) (more : List AlterCommand) :
    c.alterInTurn ifExists name (commands ++ more) = .error e := by
  -- what comes behind the command that fails is not reached
  induction commands generalizing c name with
  | nil => cases hrun
  | cons a as ih =>
    rw [alterInTurn] at hrun
    rw [List.cons_append, alterInTurn]
    cases hstep : c.apply (.alterTable name ifExists [a]) with
    | ok next =>
      rw [hstep] at hrun
      exact ih hrun
    | error e' =>
      rw [hstep] at hrun
      exact hrun

/-- An error of a statement is that of the first command that fails when the commands are given one
by one, or it says that the first name of the table is taken. -/
theorem error_of_alterAll (h : c.WellFormed) (hold : c.Movable old old) (ifExists : Bool)
    {commands : List AlterCommand} {e : CatalogError} (hrun : c.alterAll old commands = .error e) :
    ∃ before a after, commands = before ++ a :: after ∧
      (∃ c', c.alterInTurn ifExists old.name before = .ok c') ∧ ¬ c.RenamesBack old.name before ∧
      ((c.RenamesBack old.name (before ++ [a]) ∧ e = .duplicateTable old.name) ∨
        c.alterInTurn ifExists old.name (before ++ [a]) = .error e) := by
  obtain ⟨before, a, after, t, rfl, hbefore, hfails⟩ := exists_failing hrun
  have ht := movable_alterAll hold hbefore
  have hinTurn (rest : List AlterCommand) :
      c.alterInTurn ifExists old.name (before ++ rest) =
        (c.moved old t).alterInTurn ifExists t.name rest := by
    rw [← alterInTurn_append h ifExists hold hbefore rest, moved_self h hold]
  refine ⟨before, a, after, rfl, ⟨c.moved old t, ?_⟩, not_renamesBack h hold hbefore, ?_⟩
  · rw [← List.append_nil before, hinTurn]
    rfl
  · by_cases hreturns : c.Returns old.name t.name a
    · -- the first name is still taken, so the statement fails where a command of its own does not
      left
      rw [alter_of_returns h ht hreturns] at hfails
      cases hfails
      obtain ⟨hne, new, rfl, htarget⟩ := hreturns
      have hname := alterAll_name hbefore
      refine ⟨⟨before, new, [], rfl, ⟨t.name, ?_, hne⟩, hname ▸ htarget⟩, rfl⟩
      exact (alterAll_placed before hold.placed hbefore).2.1
    · right
      rw [hinTurn, alterInTurn, apply_alterTable (find?_moved_self h ht), alterAll_singleton,
        alter_moved h ht hreturns, hfails]
      rfl

/-- An ALTER TABLE succeeds exactly if its commands do when they are given one by one, and no RENAME
gives the table back its first name after another one; then both lead to the same catalog. If it
fails it leaves the catalog as it was. Its error is that of the first command that fails on its own,
or, if such a RENAME comes before, that a table with the first name is there already. -/
theorem alterTable_eq_alterInTurn (hc : c.Reachable) (hold : c.lookupTable name = .ok old)
    (ifExists : Bool) (commands : List AlterCommand) :
    let whole := c.apply (.alterTable name ifExists commands)
    let inTurn := c.alterInTurn ifExists (c.qualify name)
    ((∃ c', whole = .ok c') ↔
      (∃ c', inTurn commands = .ok c') ∧ ¬ c.RenamesBack (c.qualify name) commands) ∧
    (∀ c', whole = .ok c' → inTurn commands = .ok c') ∧
    ∀ e, whole = .error e → c.after (.schemaChange (.alterTable name ifExists commands)) = c ∧
      ∃ before a after, commands = before ++ a :: after ∧ (∃ c', inTurn before = .ok c') ∧
        ¬ c.RenamesBack (c.qualify name) before ∧
        ((c.RenamesBack (c.qualify name) (before ++ [a]) ∧
            e = .duplicateTable (c.qualify name)) ∨
          inTurn (before ++ [a]) = .error e) := by
  intro whole inTurn
  have h := hc.wellFormed
  have hfound : c.table? name = some old := table?_eq_some_iff.mpr hold
  have hmovable := h.movable hfound
  have hwhole : whole = (c.alterAll old commands).map (c.moved old) :=
    apply_alterTable hfound ifExists commands
  have hname : c.qualify name = old.name := (h.name_eq hfound).symm
  simp only [inTurn, hname]
  clear_value whole
  subst hwhole
  cases hrun : c.alterAll old commands with
  | ok t =>
    have hinTurn : c.alterInTurn ifExists old.name commands = .ok (c.moved old t) := by
      have happend := alterInTurn_append h ifExists hmovable hrun []
      rwa [List.append_nil, moved_self h hmovable] at happend
    refine ⟨?_, ?_, ?_⟩
    · exact iff_of_true ⟨_, rfl⟩ ⟨⟨_, hinTurn⟩, not_renamesBack h hmovable hrun⟩
    · rintro c' ⟨⟩
      exact hinTurn
    · rintro e ⟨⟩
  | error e =>
    have herror := error_of_alterAll h hmovable ifExists hrun
    refine ⟨iff_of_false ?_ ?_, ?_, ?_⟩
    · rintro ⟨c', ⟨⟩⟩
    · -- an error of the statement comes from one of the two causes
      rintro ⟨⟨c', hinTurn⟩, hback⟩
      obtain ⟨before, a, after, rfl, -, -, hcause⟩ := herror
      rw [List.append_cons] at hinTurn hback
      rcases hcause with ⟨hrenames, -⟩ | hfails
      · exact hback (hrenames.append after)
      · rw [alterInTurn_append_error hfails] at hinTurn
        cases hinTurn
    · rintro c' ⟨⟩
    · rintro e' ⟨⟩
      refine ⟨after_of_error (e := e) ?_, herror⟩
      rw [replay, apply_alterTable hfound, hrun]
      rfl

/-- The commands `RENAME TO archive.u, RENAME COLUMN a TO b, RENAME TO v`. -/
def renameOnwards : List AlterCommand :=
  [.renameTable (.qualified "archive" "u"), .renameColumn "a" "b", .renameTable (.unqualified "v")]

/-- The commands `RENAME TO v, ADD COLUMN b int, RENAME TO public.t`. -/
def renameThereAndBack : List AlterCommand :=
  [.renameTable (.unqualified "v"), .addColumn ⟨"b", .named "int", false⟩ false,
    .renameTable (.qualified "public" "t")]

theorem alterTable_eq_alterInTurn_renames :
    (∃ c', twoTables.apply (.alterTable (.unqualified "t") false renameOnwards) = .ok c' ∧
      twoTables.alterInTurn false (.qualified "public" "t") renameOnwards = .ok c' ∧
      c'.table? (.qualified "archive" "v") =
        some ⟨.qualified "archive" "v", [⟨"b", .named "int", false⟩]⟩) ∧
    (∃ c', twoTables.alterInTurn false (.qualified "public" "t") renameThereAndBack = .ok c') ∧
    twoTables.RenamesBack (.qualified "public" "t") renameThereAndBack ∧
    ¬ ∃ c', twoTables.apply (.alterTable (.unqualified "t") false renameThereAndBack) = .ok c' := by
  have hreachable : twoTables.Reachable := (Reachable.empty "public").afterAll _
  obtain ⟨old, hold⟩ : ∃ old, twoTables.lookupTable (.unqualified "t") = .ok old := ⟨_, rfl⟩
  obtain ⟨-, hsame, -⟩ := alterTable_eq_alterInTurn hreachable hold false renameOnwards
  obtain ⟨hiff, -⟩ := alterTable_eq_alterInTurn hreachable hold false renameThereAndBack
  obtain ⟨c', hrun, htable⟩ : ∃ c',
      twoTables.apply (.alterTable (.unqualified "t") false renameOnwards) = .ok c' ∧
      c'.table? (.qualified "archive" "v") =
        some ⟨.qualified "archive" "v", [⟨"b", .named "int", false⟩]⟩ := ⟨_, rfl, by decide +kernel⟩
  have hback : twoTables.RenamesBack (.qualified "public" "t") renameThereAndBack :=
    ⟨renameThereAndBack.take 2, _, [], rfl, ⟨.qualified "public" "v", by decide, by decide⟩, rfl⟩
  exact ⟨⟨c', hrun, hsame c' hrun, htable⟩, ⟨_, rfl⟩, hback, fun hok => (hiff.mp hok).2 hback⟩

end Catalog

end TypedSql
