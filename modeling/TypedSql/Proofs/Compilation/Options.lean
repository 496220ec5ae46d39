import TypedSql.Proofs.Analysis.ParameterList
import TypedSql.Proofs.Compilation.Accounting

/-!
# Options

The settings about reporting decide how serious findings are and whether types that are not known
are among them. They decide nothing else: what is compiled and what is said about it is the same
under all of them.

- **Bodies**: a diagnostic without its severity
- **Codes**: only the notices about types that are not known have their code
- **Schemas**: two compilations replay the same changes
- **Queries**: two compilations come to the same descriptors
- **Compilations**: whole reports under different settings
-/

namespace TypedSql

open Sql

/-! ## Bodies -/

namespace Diagnostic

/-- All of a diagnostic but its severity. -/
def body (d : Diagnostic) : DiagnosticCode × String × Option Location × Option String :=
  (d.code, d.message, d.location, d.statement)

/-- Whether the diagnostic is a notice about a type that is not known. -/
def isOpaqueNotice (d : Diagnostic) : Bool := d.code = .opaqueType

/-- The bodies of diagnostics, apart from the notices about types that are not known. -/
def bodies (ds : List Diagnostic) :
    List (DiagnosticCode × String × Option Location × Option String) :=
  (ds.filter (!·.isOpaqueNotice)).map body

theorem bodies_append (ds ds' : List Diagnostic) :
    bodies (ds ++ ds') = bodies ds ++ bodies ds' := by
  rw [bodies, List.filter_append, List.map_append]
  rfl

/-- Whether a diagnostic is such a notice is seen from its body. -/
theorem bodies_congr {ds ds' : List Diagnostic} (h : ds.map body = ds'.map body) :
    bodies ds = bodies ds' := by
  have hfilter (ds : List Diagnostic) :
      bodies ds = (ds.map body).filter fun c => !decide (c.1 = .opaqueType) := by
    rw [List.filter_map]
    rfl
  rw [hfilter, hfilter, h]

end Diagnostic

open Diagnostic

/-! ## Codes -/

theorem Config.isOpaqueNotice_locate (c : Config) (script : Script) (s : ScriptStatement)
    (d : Diagnostic) : (c.locate script s d).isOpaqueNotice = d.isOpaqueNotice := rfl

theorem isOpaqueNotice_of_replayStatement {config : Config} {catalog : Catalog}
    {s : ScriptStatement} {d : Diagnostic} (h : replayStatement config catalog s = .error d) :
    d.isOpaqueNotice = false := by
  unfold replayStatement at h
  split at h
  · cases h
    rfl
  · split at h
    · cases h
      rfl
    · split at h <;> cases h
      rename_i e _
      cases e <;> rfl

theorem isOpaqueNotice_of_mem_findings {config : Config} {catalog : Catalog} {es : List Entry}
    {d : Diagnostic} (h : some d ∈ findings config catalog es) : d.isOpaqueNotice = false := by
  obtain ⟨e, c, hreplay⟩ := exists_of_mem_findings h
  obtain ⟨r, -, rfl⟩ | ⟨s, found, -, hstatement, rfl⟩ := e.cases_of_replay_error hreplay
  · rfl
  · rw [config.isOpaqueNotice_locate]
    exact isOpaqueNotice_of_replayStatement hstatement

theorem isOpaqueNotice_analysisFailure (e : AnalysisError) :
    (analysisFailure e).isOpaqueNotice = false := by
  cases e <;> rfl

theorem isOpaqueNotice_of_mem_ignored {constructs : List String} {d : Diagnostic}
    (h : d ∈ constructs.map ignoredConstruct) : d.isOpaqueNotice = false := by
  obtain ⟨construct, -, rfl⟩ := List.mem_map.1 h
  rfl

theorem isOpaqueNotice_of_mem_noColumns {header : Option Header} {d : Diagnostic}
    (h : d ∈ (header.map noColumns).toList) : d.isOpaqueNotice = false := by
  obtain ⟨header, -, rfl⟩ := Option.map_eq_some_iff.1 (Option.mem_toList.1 h)
  rfl

theorem isOpaqueNotice_of_mem_opaqueTypes {q : QueryDescriptor} {d : Diagnostic}
    (h : d ∈ opaqueTypes q) : d.isOpaqueNotice = true := by
  obtain ⟨what, -, rfl⟩ := List.mem_map.1 h
  rfl

theorem filter_eq_nil_of_forall {ds : List Diagnostic} (h : ∀ d ∈ ds, d.isOpaqueNotice = false) :
    ds.filter isOpaqueNotice = [] :=
  List.filter_eq_nil_iff.2 fun d hd => Bool.not_eq_true _ ▸ h d hd

/-- The notices about types that are not known, among all that is said about a query. -/
theorem Compiles.filter_isOpaqueNotice {config : Config} {catalog : Catalog} {script : Script}
    {s : ScriptStatement} {o : Outcome} (h : Compiles config catalog script s o) :
    o.diagnostics.filter isOpaqueNotice =
      if config.reportOpaqueTypes then o.descriptor.toList.flatMap opaqueTypes else [] := by
  -- a note about types is written for a statement that is described, and for no other one
  cases h with
  | badHeader | notConverted | schemaChange => exact (ite_self []).symm
  | notAnalyzed =>
    rw [List.filter_append, filter_eq_nil_of_forall fun d => isOpaqueNotice_of_mem_ignored,
      List.filter_cons_of_neg (by simp [isOpaqueNotice_analysisFailure])]
    exact (ite_self []).symm
  | described =>
    rw [List.filter_append, List.filter_append,
      filter_eq_nil_of_forall fun d => isOpaqueNotice_of_mem_ignored,
      filter_eq_nil_of_forall fun d => isOpaqueNotice_of_mem_noColumns]
    -- the notes are those of the option, or none at all
    split
    · simpa using fun d => isOpaqueNotice_of_mem_opaqueTypes
    · rfl

/-! ## Schemas -/

section Settings

variable {config config' : Config} (hdialect : config.dialect = config'.dialect)
include hdialect

theorem replayStatement_congr (catalog : Catalog) (s : ScriptStatement) :
    replayStatement config catalog s = replayStatement config' catalog s := by
  rw [replayStatement, replayStatement, hdialect]

/-- An entry of a schema file has the same effect, or there is the same to say about it. -/
theorem Entry.mapError_replay_congr (catalog : Catalog) (e : Entry) :
    (e.replay config catalog).mapError body = (e.replay config' catalog).mapError body := by
  obtain ⟨script, entry⟩ := e
  cases entry with
  | error r => rfl
  | ok s =>
    simp only [Entry.replay, replayStatement_congr hdialect]
    cases replayStatement config' catalog s <;> rfl

theorem replayAll_congr (catalog : Catalog) (es : List Entry) :
    replayAll config catalog es = replayAll config' catalog es := by
  induction es generalizing catalog with
  | nil => rfl
  | cons e es ih =>
    have hentry := e.mapError_replay_congr hdialect catalog
    rw [replayAll, replayAll, ih]
    -- both runs fail and keep the catalog, or both go on with the same one
    cases hrun : e.replay config catalog <;> cases hrun' : e.replay config' catalog <;>
      simp_all [Except.mapError, Except.toOption]

theorem findings_congr (catalog : Catalog) (es : List Entry) :
    (findings config catalog es).reduceOption.map body =
      (findings config' catalog es).reduceOption.map body := by
  induction es generalizing catalog with
  | nil => rfl
  | cons e es ih =>
    have hentry := e.mapError_replay_congr hdialect catalog
    rw [findings, findings]
    -- where one run finds something the other finds the same, up to the severity
    cases hrun : e.replay config catalog <;> cases hrun' : e.replay config' catalog <;>
      simp_all [Except.mapError]

/-! ## Queries -/

/-- A statement comes to the same descriptor, and what is said about it differs only in the notices
about types that are not known. -/
theorem compileStatement_congr (catalog : Catalog) (script : Script) (s : ScriptStatement) :
    let o := compileStatement config catalog script s
    let o' := compileStatement config' catalog script s
    o.descriptor = o'.descriptor ∧
      o.diagnostics.filter (!·.isOpaqueNotice) = o'.diagnostics.filter (!·.isOpaqueNotice) := by
  have hnotices (config : Config) (q : QueryDescriptor) :
      (if config.reportOpaqueTypes then opaqueTypes q else []).filter (!·.isOpaqueNotice) = [] := by
    split
    · simpa using fun d => isOpaqueNotice_of_mem_opaqueTypes
    · rfl
  simp only [compileStatement, hdialect]
  cases Header.parse s.comments with
  | error e => exact ⟨rfl, rfl⟩
  | ok header =>
    cases Canonical.convert config'.dialect s with
    | error e => exact ⟨rfl, rfl⟩
    | ok converted =>
      dsimp only
      split
      · exact ⟨rfl, rfl⟩
      · cases analyze catalog converted.node with
        | error e => exact ⟨rfl, rfl⟩
        -- only here a setting is looked at, to add notices that do not count
        | ok a => exact ⟨rfl, by simp only [List.filter_append, hnotices]⟩

theorem compileEntry_congr (catalog : Catalog) (script : Script)
    (entry : Except Rejection ScriptStatement) :
    let o := compileEntry config catalog script entry
    let o' := compileEntry config' catalog script entry
    o.descriptor = o'.descriptor ∧ bodies o.diagnostics = bodies o'.diagnostics := by
  cases entry with
  | error r => exact ⟨rfl, rfl⟩
  | ok s =>
    obtain ⟨hdescriptor, hdiagnostics⟩ := compileStatement_congr hdialect catalog script s
    refine ⟨hdescriptor, ?_⟩
    -- a body leaves out the severity, and nothing else of a diagnostic depends on the options
    have hbodies (config : Config) (ds : List Diagnostic) :
        bodies (ds.map (config.locate script s)) = (ds.filter (!·.isOpaqueNotice)).map fun d =>
          (d.code, d.message, some (.ofOffset script.displayPath script.source s.start),
            some (Text.trim s.text)) := by
      rw [bodies, List.filter_map, List.map_map]
      rfl
    simp only [compileEntry, hbodies, hdiagnostics]

theorem compileQueries_congr (catalog : Catalog) (files : List SourceFile) :
    (compileQueries config catalog files).filterMap Outcome.descriptor =
        (compileQueries config' catalog files).filterMap Outcome.descriptor ∧
      bodies ((compileQueries config catalog files).flatMap Outcome.diagnostics) =
        bodies ((compileQueries config' catalog files).flatMap Outcome.diagnostics) := by
  rw [compileQueries_eq_map, compileQueries_eq_map, hdialect]
  induction entriesOf config'.dialect files with
  | nil => exact ⟨rfl, rfl⟩
  | cons e es ih =>
    obtain ⟨hdescriptor, hdiagnostics⟩ := compileEntry_congr hdialect catalog e.script e.content
    simp only [List.map_cons, List.filterMap_cons, List.flatMap_cons, bodies_append, hdescriptor,
      hdiagnostics, ih.1, ih.2, and_self]

end Settings

/-! ## Compilations -/

/-- What the notices about types that are not known speak of: the parameters in the order of their
numbers, and then the columns in their order. -/
def QueryDescriptor.opaqueParts (q : QueryDescriptor) : List String :=
  (q.params.filter (·.type.isOpaque)).map (fun p => "parameter $" ++ toString p.number) ++
    (q.columns.filter (·.type.isOpaque)).map fun c => "column '" ++ c.name ++ "'"

/-- The outcome of an entry has a notice for each part of its descriptor whose type is not known,
and no other such notices. -/
structure Entry.NotesOpaque (e : Entry) (o : Outcome) : Prop where
  /-- The parameters are in the order of their numbers. -/
  numbered : ∀ q ∈ o.descriptor,
    q.params.map Parameter.number = List.range' 1 q.params.length
  noted : (o.diagnostics.filter isOpaqueNotice).map body =
    (o.descriptor.toList.flatMap QueryDescriptor.opaqueParts).map fun what =>
      (.opaqueType, "Could not infer a type for " ++ what, e.location, e.text)

/-- A report gives the severities and the notices that the settings ask for. -/
structure Config.Followed (config : Config) (queries : List SourceFile) (r : Report) : Prop where
  /-- A code with a severity of its own has it throughout. -/
  overridden : ∀ d ∈ r.diagnostics, ∀ severity,
    config.overrides.find? d.code.name = some severity → d.severity = severity
  /-- If the settings ask for them, there are notices about all types that are not known. -/
  noted : config.reportOpaqueTypes = true → ∃ outcomes,
    List.Forall₂ Entry.NotesOpaque (entriesOf config.dialect queries) outcomes ∧
      r.queries = outcomes.filterMap Outcome.descriptor ∧
      r.diagnostics.filter isOpaqueNotice =
        outcomes.flatMap fun o => o.diagnostics.filter isOpaqueNotice

theorem number_params_of_analyze {c : Catalog} {n : Canonical.Node} {a : Analysis}
    (h : analyze c n = .ok a) : a.params.map Parameter.number = List.range' 1 a.params.length := by
  rw [analyze] at h
  cases hstatement : (analyzeStatement c n).run [] with
  | error e =>
    rw [hstatement] at h
    cases h
  | ok result =>
    obtain ⟨⟨columns, table⟩, bs⟩ := result
    rw [hstatement] at h
    cases h
    have hnumbers := number_parameters bs (greatestParam n)
    -- there are as many parameters as numbers up to the greatest one
    have hlength := congrArg List.length hnumbers
    rw [List.length_map, List.length_range'] at hlength
    rw [hnumbers, hlength]

theorem Compiles.number_params {config : Config} {catalog : Catalog} {script : Script}
    {s : ScriptStatement} {o : Outcome} (h : Compiles config catalog script s o)
    {q : QueryDescriptor} (hq : q ∈ o.descriptor) :
    q.params.map Parameter.number = List.range' 1 q.params.length := by
  cases h with
  | badHeader | notConverted | schemaChange | notAnalyzed => cases hq
  | described _ _ _ hanalyze =>
    cases hq
    exact number_params_of_analyze hanalyze

theorem notesOpaque_compileEntry {config : Config} (hreport : config.reportOpaqueTypes = true)
    (catalog : Catalog) (script : Script) (entry : Except Rejection ScriptStatement) :
    (Entry.mk script entry).NotesOpaque (compileEntry config catalog script entry) := by
  cases entry with
  | error r =>
    rw [compileEntry_error]
    exact ⟨by simp, rfl⟩
  | ok s =>
    have hcompiles := compiles_compileStatement config catalog script s
    refine ⟨fun q hq => hcompiles.number_params hq, ?_⟩
    -- the place that is added to a note does not change what it is about
    have hfilter (ds : List Diagnostic) :
        (ds.map (config.locate script s)).filter isOpaqueNotice =
          (ds.filter isOpaqueNotice).map (config.locate script s) := List.filter_map
    have hparts (q : QueryDescriptor) :
        (opaqueTypes q).map (body ∘ config.locate script s) = q.opaqueParts.map fun what =>
          (.opaqueType, "Could not infer a type for " ++ what,
            some (.ofOffset script.displayPath script.source s.start), some (Text.trim s.text)) :=
      List.map_map
    simp only [compileEntry, hfilter, hcompiles.filter_isOpaqueNotice, hreport, if_true,
      List.map_map, List.map_flatMap, hparts]
    rfl

theorem followed_compile (config : Config) (schema queries : List SourceFile) :
    config.Followed queries (compile config schema queries) := by
  constructor
  case overridden =>
    intro d hd severity hseverity
    have hfinal := congrArg Diagnostic.severity (adjust_of_mem_compile hd)
    rw [← hfinal, Config.adjust, Config.severityOf, hseverity]
    rfl
  case noted =>
    intro hreport
    refine ⟨compileQueries config (buildCatalog config schema).catalog queries, ?_,
      queries_compile config schema queries, ?_⟩
    · rw [compileQueries_eq_map, List.forall₂_map_right_iff]
      exact List.forall₂_same.2 fun e _ =>
        notesOpaque_compileEntry hreport _ e.script e.content
    · -- no note about types comes from the schema files
      have hschema : ∀ d ∈ (findings config (.empty config.schemaName)
          (entriesOf config.dialect schema)).reduceOption, d.isOpaqueNotice = false :=
        fun d hd => isOpaqueNotice_of_mem_findings (List.reduceOption_mem_iff.1 hd)
      rw [diagnostics_compile, List.filter_append, filter_eq_nil_of_forall hschema,
        List.nil_append, List.filter_flatMap]

/-- Settings that agree on the dialect and on the schema of unqualified names give the same report,
up to the severities and the notices about types that are not known; these are as each asks. -/
theorem compile_eq_up_to_options {config config' : Config}
    (hdialect : config.dialect = config'.dialect) (hschema : config.schemaName = config'.schemaName)
    (schema queries : List SourceFile) :
    let r := compile config schema queries
    let r' := compile config' schema queries
    r.queries = r'.queries ∧ r.summary.statements = r'.summary.statements ∧
      bodies r.diagnostics = bodies r'.diagnostics ∧
      config.Followed queries r ∧ config'.Followed queries r' := by
  -- the options change nothing of what is replayed
  have hcatalog : (buildCatalog config schema).catalog = (buildCatalog config' schema).catalog := by
    rw [buildCatalog_eq, buildCatalog_eq, hdialect, hschema]
    exact replayAll_congr hdialect _ _
  obtain ⟨hdescriptors, hbodies⟩ :=
    compileQueries_congr hdialect (buildCatalog config' schema).catalog queries
  refine ⟨?_, ?_, ?_, followed_compile config schema queries,
    followed_compile config' schema queries⟩
  · rw [queries_compile, queries_compile, hcatalog, hdescriptors]
  · rw [statements_compile, statements_compile, hdialect]
  · rw [diagnostics_compile, diagnostics_compile, bodies_append, bodies_append, hcatalog,
      hbodies, hdialect, hschema, bodies_congr (findings_congr hdialect _ _)]

/-- Settings that ask for all notices and take parse failures lightly. -/
def noisyConfig : Config :=
  { Config.default "/" with
    reportOpaqueTypes := true
    parallel := false
    overrides := (Directory.empty.insert "OPAQUE_TYPE" .error).insert "SQL_PARSE_ERROR" .warn }

/-- A query whose parameter and column have no type, and a text that is no statement. -/
def opaqueQueries : List SourceFile := [⟨"q.sql", "SELECT ?;SELEC"⟩]

theorem compile_eq_up_to_options_noisy :
    let r := compile (.default "/") [] opaqueQueries
    let r' := compile noisyConfig [] opaqueQueries
    r.queries = r'.queries ∧ bodies r.diagnostics = bodies r'.diagnostics ∧
      r.diagnostics.map (fun d => (d.code, d.severity)) = [(.sqlParseError, .error)] ∧
      r'.diagnostics.map (fun d => (d.code, d.severity)) =
        [(.opaqueType, .error), (.opaqueType, .error), (.sqlParseError, .warn)] := by
  obtain ⟨hqueries, -, hbodies, -, -⟩ :=
    @compile_eq_up_to_options (.default "/") noisyConfig rfl rfl [] opaqueQueries
  exact ⟨hqueries, hbodies, by decide +kernel, by decide +kernel⟩

end TypedSql
