import TypedSql.Proofs.Catalog.Sequencing

/-!
# IF EXISTS and IF NOT EXISTS

A schema change with IF EXISTS or IF NOT EXISTS does not fail for want of what it changes, nor
because what it makes is there: it leaves the catalog as it is. With one gap: a DROP TABLE forgives
a schema that is missing, and an ALTER TABLE does not.

- **Commands**: a command that leaves its table as it is may as well be absent
- **Statements**: what the two phrases make of every kind of statement
-/

namespace TypedSql

open Canonical (AlterCommand ColumnDef)

namespace Catalog

variable {c : Catalog} {t : Table}

/-! ## Commands -/

theorem alter_addColumn_idle (c : Catalog) {d : ColumnDef} (h : t.hasColumn d.name = true) :
    c.alter t (.addColumn d true) = .ok t := by
  rw [alter, if_pos h, if_pos rfl]

theorem alter_dropColumn_idle (c : Catalog) {column : String}
    (h : ¬ t.hasColumn column = true) : c.alter t (.dropColumn column true) = .ok t := by
  rw [alter, if_neg h, if_pos rfl]

section Idle

variable {before : List AlterCommand} {a : AlterCommand}

/-- A command among others that leaves the table as it then is may as well be absent. -/
theorem alterAll_of_idle (h : ∀ t', c.alterAll t before = .ok t' → c.alter t' a = .ok t')
    (after : List AlterCommand) :
    c.alterAll t (before ++ a :: after) = c.alterAll t (before ++ after) := by
  rw [alterAll_append, alterAll_append]
  cases hbefore : c.alterAll t before with
  | error e =>
    -- the statement has failed before the turn of the command comes
    rfl
  | ok t' =>
    show c.alterAll t' (a :: after) = c.alterAll t' after
    rw [alterAll, h t' hbefore]

theorem apply_alterTable_of_idle {name : TableName}
    (h : ∀ old t, c.table? name = some old → c.alterAll old before = .ok t → c.alter t a = .ok t)
    (ifExists : Bool) (after : List AlterCommand) :
    c.apply (.alterTable name ifExists (before ++ a :: after)) =
      c.apply (.alterTable name ifExists (before ++ after)) := by
  cases hfound : c.table? name with
  | none => rw [apply_alterTable_missing hfound, apply_alterTable_missing hfound]
  | some old =>
    rw [apply_alterTable hfound, apply_alterTable hfound,
      alterAll_of_idle fun t => h old t hfound]

end Idle

/-! ## Statements -/

/-- Those of the names under which a table is found. -/
def present (c : Catalog) (names : List TableName) : List TableName :=
  names.filter fun name => (c.table? name).isSome

/-- With IF EXISTS the tables go that are there, and it does not matter how the names of the others
are missing. -/
theorem exists_doomed (c : Catalog) (names : List TableName) :
    ∃ gone, c.doomed true names = .ok gone ∧ c.doomed false (c.present names) = .ok gone := by
  induction names with
  | nil => exact ⟨[], rfl, rfl⟩
  | cons name names ih =>
    obtain ⟨gone, htolerant, hstrict⟩ := ih
    -- a table that is missing is passed over by both, since it is not among those that are present
    cases hfound : c.table? name with
    | none =>
      have hpresent : c.present (name :: names) = c.present names := by
        rw [present, List.filter_cons_of_neg (by simp [hfound]), present]
      rw [doomed_cons_missing hfound, hpresent]
      exact ⟨gone, htolerant, hstrict⟩
    | some t =>
      have hpresent : c.present (name :: names) = name :: c.present names := by
        rw [present, List.filter_cons_of_pos (by simp [hfound]), present]
      rw [doomed_cons_found hfound, hpresent, doomed_cons_found hfound, htolerant, hstrict]
      exact ⟨t.name :: gone, rfl, rfl⟩

/-- **IF EXISTS and IF NOT EXISTS suppress the errors that they are about.** A DROP TABLE IF EXISTS
never fails: it does what a DROP TABLE of those of its tables does that are there, whether a schema
or only a table is missing. A CREATE TABLE or CREATE SCHEMA IF NOT EXISTS of what is there changes
nothing, and otherwise the phrase is of no account. The same goes for an ALTER TABLE IF EXISTS,
provided that the schema of the missing table is there; if it is not, the statement fails. Within an
ALTER TABLE, an ADD COLUMN IF NOT EXISTS that finds its column and a DROP COLUMN IF EXISTS that does
not may as well be absent, wherever they stand. -/
theorem suppressed_errors (c : Catalog) :
    (∀ names, ∃ c', c.apply (.dropTables names true) = .ok c' ∧
      c.apply (.dropTables (c.present names) false) = .ok c') ∧
    (∀ name commands, c.apply (.alterTable name true commands) =
      if (c.table? name).isSome then c.apply (.alterTable name false commands)
      else if (c.schema? (c.schemaName name)).isSome then .ok c
      else .error (.unknownSchema (c.schemaName name))) ∧
    (∀ name columns, c.apply (.createTable name true columns) =
      if (c.table? name).isSome then .ok c else c.apply (.createTable name false columns)) ∧
    (∀ k, c.apply (.createSchema k true) =
      if (c.schema? k).isSome then .ok c else c.apply (.createSchema k false)) ∧
    (∀ name ifExists before d after,
      (∀ old t, c.table? name = some old → c.alterAll old before = .ok t →
        t.hasColumn d.name = true) →
      c.apply (.alterTable name ifExists (before ++ .addColumn d true :: after)) =
        c.apply (.alterTable name ifExists (before ++ after))) ∧
    ∀ name ifExists before column after,
      (∀ old t, c.table? name = some old → c.alterAll old before = .ok t →
        ¬ t.hasColumn column = true) →
      c.apply (.alterTable name ifExists (before ++ .dropColumn column true :: after)) =
        c.apply (.alterTable name ifExists (before ++ after)) := by
  refine ⟨fun names => ?drop, fun name commands => ?alter, fun name columns => ?table,
    fun k => ?schema, fun name ifExists before d after h => ?add,
    fun name ifExists before column after h => ?dropColumn⟩
  case drop =>
    obtain ⟨gone, htolerant, hstrict⟩ := c.exists_doomed names
    exact ⟨_, apply_dropTables htolerant, apply_dropTables hstrict⟩
  case alter =>
    cases hfound : c.table? name with
    | none => exact apply_alterTable_missing hfound true commands
    | some old =>
      -- IF EXISTS has nothing to forgive, since the commands know nothing of it
      rw [if_pos Option.isSome_some, apply_alterTable hfound, apply_alterTable hfound]
  case table =>
    rw [apply_createTable, apply_createTable]
    cases hfound : (c.table? name).isSome with
    | true =>
      -- a table that is found is in a schema that is there
      rw [if_pos (isSome_schema?_of_table?_isSome hfound)]
      rfl
    | false => rfl
  case schema =>
    rw [apply_createSchema, apply_createSchema]
    cases (c.schema? k).isSome <;> rfl
  case add =>
    exact apply_alterTable_of_idle (fun old t hold ht => alter_addColumn_idle c (h old t hold ht))
      ifExists after
  case dropColumn =>
    exact apply_alterTable_of_idle (fun old t hold ht => alter_dropColumn_idle c (h old t hold ht))
      ifExists after

/-- The second column of `ALTER TABLE t RENAME COLUMN a TO b, ADD COLUMN IF NOT EXISTS b text` is
there because of the first command, and a DROP of the first one finds it gone. -/
theorem suppressed_errors_renamed :
    (∃ c', twoTables.apply (.dropTables
        [.unqualified "u", .qualified "nosuch" "t", .unqualified "u"] true) = .ok c' ∧
      c'.table? (.unqualified "u") = none ∧ c'.tableCount = 1) ∧
    twoTables.apply (.alterTable (.qualified "archive" "t") true [.dropColumn "a" false]) =
      .ok twoTables ∧
    twoTables.apply (.alterTable (.unqualified "t") false
        [.renameColumn "a" "b", .addColumn ⟨"b", .named "text", true⟩ true]) =
      twoTables.apply (.alterTable (.unqualified "t") false [.renameColumn "a" "b"]) ∧
    twoTables.apply (.alterTable (.unqualified "t") false
        [.renameColumn "a" "b", .dropColumn "a" true]) =
      twoTables.apply (.alterTable (.unqualified "t") false [.renameColumn "a" "b"]) := by
  obtain ⟨hdrop, halter, -, -, hadd, hdropColumn⟩ := suppressed_errors twoTables
  -- before the last command the column is called by its new name
  have hrenamed : ∀ old t, twoTables.table? (.unqualified "t") = some old →
      twoTables.alterAll old [.renameColumn "a" "b"] = .ok t →
        t = ⟨.qualified "public" "t", [⟨"b", .named "int", false⟩]⟩ := by
    rintro old t hold ht
    cases hold
    cases ht
    rfl
  refine ⟨?_, ?_, ?_, ?_⟩
  · -- one table named twice, and one in a schema that there is not
    obtain ⟨c', hrun, -⟩ := hdrop [.unqualified "u", .qualified "nosuch" "t", .unqualified "u"]
    refine ⟨c', hrun, ?_⟩
    cases hrun
    decide +kernel
  · -- a missing table in a schema that there is
    rw [halter, if_neg (by decide +kernel), if_pos (by decide +kernel)]
  · -- a column that is there already
    refine hadd (.unqualified "t") false [.renameColumn "a" "b"] _ [] fun old t hold ht => ?_
    rw [hrenamed old t hold ht]
    decide
  · -- a column that is there no longer
    refine hdropColumn (.unqualified "t") false [.renameColumn "a" "b"] _ [] fun old t hold ht => ?_
    rw [hrenamed old t hold ht]
    decide

/-- An ALTER TABLE IF EXISTS is not forgiven a schema that is missing, where a DROP TABLE IF EXISTS
of the same table is. -/
theorem not_suppressed_missing_schema :
    (empty "public").Reachable ∧ (empty "public").table? (.qualified "archive" "t") = none ∧
      (empty "public").apply (.alterTable (.qualified "archive" "t") true
        [.addColumn ⟨"a", .named "int", false⟩ false]) = .error (.unknownSchema "archive") ∧
      (empty "public").apply (.dropTables [.qualified "archive" "t"] true) =
        .ok (empty "public") :=
  ⟨.empty "public", rfl, rfl, rfl⟩

end Catalog

end TypedSql
