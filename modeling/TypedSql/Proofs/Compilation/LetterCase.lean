import TypedSql.Proofs.Compilation.Isolation
import TypedSql.Proofs.Conversion.LetterCase

/-!
# Letter case of scripts

The letter case of the names in the files of a MySQL project is of no account to the catalog, and
shows in the descriptors of the queries in their texts and places only.

- **Files**: files that are the same but for letter case
- **Catalogs**: schema files in another letter case leave the same catalog
- **Descriptors**: query files in another letter case are described alike
- **Projects**: all of this together
-/

namespace TypedSql

open Canonical (Converted Corresponding letterCase)
open Sql (Placeholder Rejection ScriptStatement)

/-! ## Files -/

/-- The same statement but for the letter case of its names. -/
structure Sql.ScriptStatement.SameLetters (s s' : ScriptStatement) : Prop where
  tree : s.tree.Varies letterCase s'.tree
  limitComma : s.limitComma = s'.limitComma
  placeholders : s.placeholders.map Placeholder.text = s'.placeholders.map Placeholder.text
  comments : s.comments = s'.comments

/-- Entries of scripts that are the same but for letter case, or both rejected. -/
inductive Entry.SameLetters : Entry → Entry → Prop
  | rejected (script script' : Sql.Script) (r r' : Rejection) :
    Entry.SameLetters ⟨script, .error r⟩ ⟨script', .error r'⟩
  | statement {script script' : Sql.Script} (hpath : script.path = script'.path)
    {s s' : ScriptStatement} (h : s.SameLetters s') :
    Entry.SameLetters ⟨script, .ok s⟩ ⟨script', .ok s'⟩

/-- Files that are the same but for letter case. -/
def SameLetters (files files' : List SourceFile) : Prop :=
  List.Forall₂ Entry.SameLetters (entriesOf .mysql files) (entriesOf .mysql files')

/-- The same descriptor but for the text and the place of the query. -/
def QueryDescriptor.SameButText (q q' : QueryDescriptor) : Prop :=
  { q with sql := q'.sql, location := q'.location } = q'

/-! ## Catalogs -/

/-- The effect of a converted statement on a catalog, if it has one. -/
def effect? (catalog : Catalog) (n : Canonical.Node) : Option Catalog :=
  match n with
  | .unsupported _ _ => none
  | n => (catalog.replay n).toOption

theorem effect?_relocate (catalog : Catalog) (n : Canonical.Node) (f : Nat → Nat) :
    effect? catalog (n.relocate f) = effect? catalog n := by
  cases n <;> rfl

theorem toOption_replayStatement (config : Config) (catalog : Catalog) (s : ScriptStatement) :
    (replayStatement config catalog s).toOption =
      (Canonical.convert config.dialect s).toOption.bind fun c => effect? catalog c.node := by
  rw [replayStatement]
  cases Canonical.convert config.dialect s with
  | error e => rfl
  | ok c =>
    obtain ⟨n, _, _, _⟩ := c
    cases n with
    | schemaChange change =>
      simp only [effect?, Catalog.replay, Except.toOption, Option.bind_some]
      cases catalog.apply change <;> rfl
    | _ => rfl

section Compilation

variable {config : Config} (hconfig : config.dialect = .mysql)
include hconfig

theorem replayStatement_sameLetters {s s' : ScriptStatement}
    (h : s.SameLetters s') (catalog : Catalog) :
    (replayStatement config catalog s).toOption = (replayStatement config catalog s').toOption := by
  have hconvert := Canonical.form_convert_letterCase h.tree h.limitComma h.placeholders
  rw [toOption_replayStatement, toOption_replayStatement, hconfig]
  generalize Canonical.convert .mysql s = r at hconvert
  generalize Canonical.convert .mysql s' = r' at hconvert
  cases hconvert with
  | error _ => rfl
  | @ok c c' hform =>
    -- no location counts for a change of the schema
    have hnode := congrArg Prod.fst hform
    show effect? catalog c.node = effect? catalog c'.node
    rw [← effect?_relocate catalog c.node fun _ => 0, ← effect?_relocate catalog c'.node fun _ => 0]
    exact congrArg (effect? catalog) hnode

theorem replayAll_sameLetters {es es' : List Entry} (h : List.Forall₂ Entry.SameLetters es es')
    (catalog : Catalog) : replayAll config catalog es = replayAll config catalog es' := by
  induction h generalizing catalog with
  | nil => rfl
  | @cons e e' es es' h _ ih =>
    have hreplay : (e.replay config catalog).toOption = (e'.replay config catalog).toOption := by
      cases h with
      | rejected => rfl
      | @statement script script' _ s s' h =>
        have hoption {r : Except Diagnostic Catalog} (f : Diagnostic → Diagnostic) :
            (r.mapError f).toOption = r.toOption := by cases r <;> rfl
        simp only [Entry.replay, hoption, replayStatement_sameLetters hconfig h catalog]
    rw [replayAll, replayAll, hreplay, ih]

/-- Schema files that are the same but for letter case leave the same catalog. -/
theorem catalog_buildCatalog_sameLetters {schema schema' : List SourceFile}
    (h : SameLetters schema schema') :
    (buildCatalog config schema).catalog = (buildCatalog config schema').catalog := by
  rw [buildCatalog_eq, buildCatalog_eq, hconfig]
  exact replayAll_sameLetters hconfig h _

/-! ## Descriptors -/

theorem descriptor_compileEntry_sameLetters {e e' : Entry} (h : e.SameLetters e')
    (catalog : Catalog) :
    Option.Rel QueryDescriptor.SameButText
      (compileEntry config catalog e.script e.content).descriptor
      (compileEntry config catalog e'.script e'.content).descriptor := by
  cases h with
  | rejected => exact .none
  | @statement script script' hpath s s' h =>
    show Option.Rel _ (compileStatement config catalog script s).descriptor
      (compileStatement config catalog script' s').descriptor
    have hconvert := Canonical.form_convert_letterCase h.tree h.limitComma h.placeholders
    unfold compileStatement
    rw [hconfig, h.comments]
    generalize Canonical.convert .mysql s = r at hconvert
    generalize Canonical.convert .mysql s' = r' at hconvert
    cases Sql.Header.parse s'.comments with
    | error e => exact .none
    | ok header =>
      cases hconvert with
      | error _ => exact .none
      | @ok c c' hform =>
        obtain ⟨hnode, -⟩ := Prod.mk.inj hform
        have hchange : c.node.isSchemaChange = c'.node.isSchemaChange := by
          rw [← Canonical.Node.isSchemaChange_relocate, hnode,
            Canonical.Node.isSchemaChange_relocate]
        -- the analysis does not look at locations
        dsimp only
        rw [hchange, analyze_congr_relocate hnode catalog]
        split
        · exact .none
        · cases analyze catalog c'.node with
          | error e => exact .none
          | ok a =>
            refine .some ?_
            simp only [QueryDescriptor.SameButText, describe, hpath]

/-- Query files that are the same but for letter case have the same descriptors but for texts and
places. -/
theorem queries_compile_sameLetters {schema schema' queries queries' : List SourceFile}
    (hschema : SameLetters schema schema') (hqueries : SameLetters queries queries') :
    List.Forall₂ QueryDescriptor.SameButText (compile config schema queries).queries
      (compile config schema' queries').queries := by
  rw [queries_compile, queries_compile, catalog_buildCatalog_sameLetters hconfig hschema,
    compileQueries_eq_map, compileQueries_eq_map, hconfig, List.filterMap_map, List.filterMap_map]
  -- both are compiled against the same catalog, whichever that is
  generalize (buildCatalog config schema').catalog = catalog
  unfold SameLetters at hqueries
  generalize entriesOf .mysql queries = es, entriesOf .mysql queries' = es' at hqueries
  induction hqueries with
  | nil => exact .nil
  | @cons e e' es es' h _ ih =>
    have hhead := descriptor_compileEntry_sameLetters hconfig h catalog
    -- the first statement adds a descriptor in both lists or in neither
    rw [List.filterMap_cons, List.filterMap_cons]
    simp only [Function.comp_apply]
    generalize (compileEntry config catalog e.script e.content).descriptor = q at hhead
    generalize (compileEntry config catalog e'.script e'.content).descriptor = q' at hhead
    cases hhead with
    | none => exact ih
    | some hq => exact .cons hq ih

end Compilation

/-! ## Projects -/

/-- The letter case of names is of no account in MySQL: of two statements that differ in it, both
come to errors of one kind, or both come to the same tree, up to the locations if they stand in
different places of their texts. The catalog of schema files that differ in it is the same, and so
are the descriptors of queries, up to texts and places. -/
theorem letter_case_irrelevant {config : Config} (hconfig : config.dialect = .mysql)
    {schema schema' queries queries' : List SourceFile} (hschema : SameLetters schema schema')
    (hqueries : SameLetters queries queries') {s s' : ScriptStatement} (h : s.SameLetters s') :
    (s.start = s'.start → s.placeholders = s'.placeholders →
      Corresponding (fun c c' => c.node = c'.node ∧ c.unsupported = c'.unsupported)
        (Canonical.convert .mysql s) (Canonical.convert .mysql s')) ∧
    (∀ f : Nat → Nat, f s.start = s'.start →
      s.placeholders.map (Canonical.move f) = s'.placeholders →
      Corresponding (fun c c' => c.node.relocate f = c'.node ∧ c.unsupported = c'.unsupported)
        (Canonical.convert .mysql s) (Canonical.convert .mysql s')) ∧
    (buildCatalog config schema).catalog = (buildCatalog config schema').catalog ∧
    List.Forall₂ QueryDescriptor.SameButText (compile config schema queries).queries
      (compile config schema' queries').queries :=
  ⟨Canonical.convert_letterCase h.tree h.limitComma,
    fun _ hstart hplaceholders =>
      Canonical.convert_letterCase_moved h.tree h.limitComma hstart hplaceholders,
    catalog_buildCatalog_sameLetters hconfig hschema,
    queries_compile_sameLetters hconfig hschema hqueries⟩

/-- Whether two statements of the simplest forms are the same but for letter case: an UPDATE that
sets a column of a table to a placeholder, and a CREATE TABLE with one column. -/
def sameSimple : Sql.Statement → Sql.Statement → Bool
  | .update ⟨_, ⟨.table [i] _ none _, []⟩, [.column [j] (.literal (.placeholder m))], none, none,
      []⟩,
    .update ⟨_, ⟨.table [i'] _ none _, []⟩, [.column [j'] (.literal (.placeholder m'))], none,
      none, []⟩ =>
    Text.lower i.text = Text.lower i'.text && Text.lower j.text = Text.lower j'.text && m = m'
  | .createTable ⟨_, [i], ifNotExists, _, [⟨j, type, _, []⟩], [], none, _, _, none⟩,
    .createTable ⟨_, [i'], ifNotExists', _, [⟨j', type', _, []⟩], [], none, _, _, none⟩ =>
    Text.lower i.text = Text.lower i'.text && Text.lower j.text = Text.lower j'.text &&
      ifNotExists = ifNotExists' && type = type'
  | _, _ => false

theorem varies_of_sameSimple {t t' : Sql.Statement} (h : sameSimple t t' = true) :
    t.Varies letterCase t' := by
  unfold sameSimple at h
  split at h
  · simp only [Bool.and_eq_true, decide_eq_true_eq] at h
    obtain ⟨⟨htable, hcolumn⟩, rfl⟩ := h
    exact .update ⟨.mk (.table _ _ _ _ (.cons htable .nil) .none) .nil,
      .cons (.column (.cons hcolumn .nil) (.literal _)) .nil, .none, .none, .nil⟩
  · simp only [Bool.and_eq_true, decide_eq_true_eq] at h
    obtain ⟨⟨⟨htable, hcolumn⟩, rfl⟩, rfl⟩ := h
    exact .createTable ⟨.cons htable .nil, rfl, .cons ⟨hcolumn, .keywords _, rfl⟩ .nil, .nil, .none,
      .none⟩
  · cases h

namespace Sql.ScriptStatement

/-- Whether two statements of scripts are simple, and the same but for letter case. -/
def sameSimple (s s' : ScriptStatement) : Bool :=
  TypedSql.sameSimple s.tree s'.tree && s.limitComma = s'.limitComma &&
    s.placeholders.map Placeholder.text = s'.placeholders.map Placeholder.text &&
    s.comments = s'.comments

theorem sameLetters_of_sameSimple {s s' : ScriptStatement} (h : s.sameSimple s' = true) :
    s.SameLetters s' := by
  simp only [sameSimple, Bool.and_eq_true, decide_eq_true_eq] at h
  obtain ⟨⟨⟨htree, hlimit⟩, hplaceholders⟩, hcomments⟩ := h
  exact ⟨varies_of_sameSimple htree, hlimit, hplaceholders, hcomments⟩

/-- Two texts of one simple statement each, checked by a computation. -/
theorem exists_sameSimple (text text' : String) (check : ScriptStatement → ScriptStatement → Bool)
    (h : ((Script.parse .mysql none text).statements.map fun s =>
      (Script.parse .mysql none text').statements.map fun s' =>
        s.sameSimple s' && check s s') = [[true]]) :
    ∃ s s', (Script.parse .mysql none text).statements = [s] ∧
      (Script.parse .mysql none text').statements = [s'] ∧ s.SameLetters s' ∧
      check s s' = true := by
  obtain ⟨s, hs, hrest⟩ := List.map_eq_singleton_iff.mp h
  obtain ⟨s', hs', hcheck⟩ := List.map_eq_singleton_iff.mp hrest
  rw [Bool.and_eq_true] at hcheck
  exact ⟨s, s', hs, hs', sameLetters_of_sameSimple hcheck.1, hcheck.2⟩

end Sql.ScriptStatement

/-- Two files of one simple statement each, checked by a computation. -/
theorem sameLetters_of_sameSimple {f f' : SourceFile} (hpath : f.path = f'.path)
    (h : ((f.parse .mysql).entries.map fun entry => (f'.parse .mysql).entries.map fun entry' =>
      (entry.toOption.bind fun s => entry'.toOption.map s.sameSimple)) = [[some true]]) :
    SameLetters [f] [f'] := by
  obtain ⟨entry, hentry, hrest⟩ := List.map_eq_singleton_iff.mp h
  obtain ⟨entry', hentry', hcheck⟩ := List.map_eq_singleton_iff.mp hrest
  have hpaths : (f.parse .mysql).path = (f'.parse .mysql).path := by
    rw [f.path_parse, f'.path_parse, hpath]
  unfold SameLetters entriesOf SourceFile.entries
  simp only [List.flatMap_cons, List.flatMap_nil, List.append_nil, hentry, hentry', List.map_cons,
    List.map_nil]
  -- the check runs to its end only if both files are parsed
  cases entry with
  | error r => cases hcheck
  | ok s =>
    cases entry' with
    | error r' => cases hcheck
    | ok s' =>
      have hsame : s.sameSimple s' = true := Option.some.inj hcheck
      exact .cons (.statement hpaths (Sql.ScriptStatement.sameLetters_of_sameSimple hsame)) .nil

/-- A table in capitals, and an UPDATE of it. -/
theorem letter_case_irrelevant_capitals :
    ∃ s s', (Sql.Script.parse .mysql none "UPDATE T SET A = ?").statements = [s] ∧
      (Sql.Script.parse .mysql none "UPDATE t SET a = ?").statements = [s'] ∧
      SameLetters [⟨"schema.sql", "CREATE TABLE T (A INT)"⟩]
        [⟨"schema.sql", "CREATE TABLE t (a INT)"⟩] ∧
      SameLetters [⟨"query.sql", "UPDATE T SET A = ?"⟩] [⟨"query.sql", "UPDATE t SET a = ?"⟩] ∧
      Corresponding (fun c c' => c.node = c'.node ∧ c.unsupported = c'.unsupported)
        (Canonical.convert .mysql s) (Canonical.convert .mysql s') ∧
      (Canonical.convert .mysql s).toOption.isSome = true ∧
      (buildCatalog (.default "") [⟨"schema.sql", "CREATE TABLE T (A INT)"⟩]).catalog =
        (buildCatalog (.default "") [⟨"schema.sql", "CREATE TABLE t (a INT)"⟩]).catalog ∧
      List.Forall₂ QueryDescriptor.SameButText
        (compile (.default "") [⟨"schema.sql", "CREATE TABLE T (A INT)"⟩]
          [⟨"query.sql", "UPDATE T SET A = ?"⟩]).queries
        (compile (.default "") [⟨"schema.sql", "CREATE TABLE t (a INT)"⟩]
          [⟨"query.sql", "UPDATE t SET a = ?"⟩]).queries ∧
      (compile (.default "") [⟨"schema.sql", "CREATE TABLE T (A INT)"⟩]
        [⟨"query.sql", "UPDATE T SET A = ?"⟩]).queries.length = 1 := by
  have hschema : SameLetters [⟨"schema.sql", "CREATE TABLE T (A INT)"⟩]
      [⟨"schema.sql", "CREATE TABLE t (a INT)"⟩] :=
    sameLetters_of_sameSimple rfl (by decide +kernel)
  have hqueries : SameLetters [⟨"query.sql", "UPDATE T SET A = ?"⟩]
      [⟨"query.sql", "UPDATE t SET a = ?"⟩] := sameLetters_of_sameSimple rfl (by decide +kernel)
  -- both statements are parsed, and compared once by evaluation
  obtain ⟨s, s', hs, hs', hsame, hcheck⟩ := Sql.ScriptStatement.exists_sameSimple
    "UPDATE T SET A = ?" "UPDATE t SET a = ?"
    (fun s s' => s.start = s'.start && s.placeholders = s'.placeholders &&
      (Canonical.convert .mysql s).toOption.isSome) (by decide +kernel)
  simp only [Bool.and_eq_true, decide_eq_true_eq] at hcheck
  obtain ⟨⟨hstart, hplaceholders⟩, hconverts⟩ := hcheck
  have hconfig : (Config.default "").dialect = .mysql := rfl
  obtain ⟨hconvert, -, hcatalog, hdescriptors⟩ :=
    letter_case_irrelevant hconfig hschema hqueries hsame
  exact ⟨s, s', hs, hs', hschema, hqueries, hconvert hstart hplaceholders, hconverts, hcatalog,
    hdescriptors, by decide +kernel⟩

/-- The sign of the Kelvin is a capital K that takes more bytes than the small letter: behind a name
in another letter case a placeholder may be at another offset. -/
theorem not_letter_case_irrelevant_kelvin :
    ∃ s s' c c', (Sql.Script.parse .mysql none "UPDATE \u212a SET a = ?").statements = [s] ∧
      (Sql.Script.parse .mysql none "UPDATE k SET a = ?").statements = [s'] ∧ s.SameLetters s' ∧
      Canonical.convert .mysql s = .ok c ∧ Canonical.convert .mysql s' = .ok c' ∧
      c.node ≠ c'.node := by
  obtain ⟨s, s', hs, hs', hsame, hcheck⟩ := Sql.ScriptStatement.exists_sameSimple
    "UPDATE \u212a SET a = ?" "UPDATE k SET a = ?"
    (fun s s' => (Canonical.convert .mysql s).toOption.any fun c =>
      (Canonical.convert .mysql s').toOption.any fun c' =>
        Canonical.Conversion.refs c.node.walk ≠ Canonical.Conversion.refs c'.node.walk)
    (by decide +kernel)
  -- both statements are converted, as the check has found
  cases hc : Canonical.convert .mysql s with
  | error e => simp [hc, Except.toOption] at hcheck
  | ok c =>
    cases hc' : Canonical.convert .mysql s' with
    | error e => simp [hc, hc', Except.toOption] at hcheck
    | ok c' =>
      simp only [hc, hc', Except.toOption, Option.any_some, decide_eq_true_eq] at hcheck
      exact ⟨s, s', c, c', hs, hs', hsame, hc, hc', fun h => hcheck (by rw [h])⟩

end TypedSql
