import Mathlib.Data.List.Forall2
import Mathlib.Data.List.ReduceOption
import TypedSql.Compilation
import TypedSql.Proofs.Script.Splitting

/-!
# Accounting

What a report counts and lists is what the statements of the files came to, each of them once.

- **Counters**: the counts of a report are those of its lists, kept along as the lists grow
- **Entries**: the statements of files, and how many of them a file has
- **Replay**: a statement of a schema file has an effect or one finding
- **Outcomes**: a statement of a query file is passed over in silence only if it changes the schema
- **Compilations**: the whole report
-/

namespace TypedSql

open Sql Text

/-! ## Counters -/

namespace Report

/-- The counts of a report are those of its lists. -/
structure Balanced (r : Report) : Prop where
  total_eq : r.summary.total = r.diagnostics.length
  errors_eq : r.summary.errors = r.diagnostics.countP (·.severity = .error)
  warnings_eq : r.summary.warnings = r.diagnostics.countP (·.severity = .warn)
  info_eq : r.summary.info = r.diagnostics.countP (·.severity = .info)
  compiled_eq : r.summary.queriesCompiled = r.queries.length

theorem balanced_empty (statements : Nat) : (empty statements).Balanced :=
  ⟨rfl, rfl, rfl, rfl, rfl⟩

theorem Balanced.addQuery {r : Report} (h : r.Balanced) (q : QueryDescriptor) :
    (r.addQuery q).Balanced where
  total_eq := h.total_eq
  errors_eq := h.errors_eq
  warnings_eq := h.warnings_eq
  info_eq := h.info_eq
  compiled_eq := by simp [Report.addQuery, h.compiled_eq]

theorem Balanced.addDiagnostic {r : Report} (h : r.Balanced) (d : Diagnostic) :
    (r.addDiagnostic d).Balanced := by
  obtain ⟨htotal, herrors, hwarnings, hinfo, hcompiled⟩ := h
  cases hd : d.severity <;> constructor <;>
    simp [Report.addDiagnostic, hd, htotal, herrors, hwarnings, hinfo, hcompiled]

theorem Balanced.foldl_addQuery (qs : List QueryDescriptor) {r : Report} (h : r.Balanced) :
    (qs.foldl Report.addQuery r).Balanced := by
  induction qs generalizing r with
  | nil => exact h
  | cons q qs ih => exact ih (h.addQuery q)

theorem Balanced.foldl_addDiagnostic (ds : List Diagnostic) {r : Report} (h : r.Balanced) :
    (ds.foldl Report.addDiagnostic r).Balanced := by
  induction ds generalizing r with
  | nil => exact h
  | cons d ds ih => exact ih (h.addDiagnostic d)

theorem balanced_ofParts (qs : List QueryDescriptor) (ds : List Diagnostic) (n : Nat) :
    (ofParts qs ds n).Balanced :=
  ((balanced_empty n).foldl_addQuery qs).foldl_addDiagnostic ds

theorem foldl_addQuery_lists (qs : List QueryDescriptor) (r : Report) :
    (qs.foldl addQuery r).queries = r.queries ++ qs ∧
      (qs.foldl addQuery r).diagnostics = r.diagnostics ∧
      (qs.foldl addQuery r).summary.statements = r.summary.statements := by
  induction qs generalizing r with
  | nil => simp
  | cons q qs ih =>
    obtain ⟨hqueries, hdiagnostics, hstatements⟩ := ih (r.addQuery q)
    rw [List.foldl_cons]
    exact ⟨by rw [hqueries]; simp [addQuery], hdiagnostics, hstatements⟩

theorem statements_addDiagnostic (r : Report) (d : Diagnostic) :
    (r.addDiagnostic d).summary.statements = r.summary.statements := by
  cases hd : d.severity <;> simp [addDiagnostic, hd]

theorem foldl_addDiagnostic_lists (ds : List Diagnostic) (r : Report) :
    (ds.foldl addDiagnostic r).queries = r.queries ∧
      (ds.foldl addDiagnostic r).diagnostics = r.diagnostics ++ ds ∧
      (ds.foldl addDiagnostic r).summary.statements = r.summary.statements := by
  induction ds generalizing r with
  | nil => simp
  | cons d ds ih =>
    obtain ⟨hqueries, hdiagnostics, hstatements⟩ := ih (r.addDiagnostic d)
    rw [List.foldl_cons]
    exact ⟨hqueries, by rw [hdiagnostics]; simp [addDiagnostic],
      hstatements.trans (statements_addDiagnostic r d)⟩

@[simp] theorem queries_ofParts (qs : List QueryDescriptor) (ds : List Diagnostic) (n : Nat) :
    (ofParts qs ds n).queries = qs := by
  rw [ofParts, (foldl_addDiagnostic_lists _ _).1, (foldl_addQuery_lists _ _).1]
  rfl

@[simp] theorem diagnostics_ofParts (qs : List QueryDescriptor) (ds : List Diagnostic) (n : Nat) :
    (ofParts qs ds n).diagnostics = ds := by
  rw [ofParts, (foldl_addDiagnostic_lists _ _).2.1, (foldl_addQuery_lists _ _).2.1]
  rfl

@[simp] theorem statements_ofParts (qs : List QueryDescriptor) (ds : List Diagnostic) (n : Nat) :
    (ofParts qs ds n).summary.statements = n := by
  rw [ofParts, (foldl_addDiagnostic_lists _ _).2.2, (foldl_addQuery_lists _ _).2.2]
  rfl

/-- Every diagnostic has one of the three severities. -/
theorem countP_severities (ds : List Diagnostic) :
    ds.length = ds.countP (·.severity = .error) + ds.countP (·.severity = .warn) +
      ds.countP (·.severity = .info) := by
  induction ds with
  | nil => rfl
  | cons d ds ih =>
    cases hd : d.severity <;> simp [hd, ih] <;> omega

theorem Balanced.total_eq_add {r : Report} (h : r.Balanced) :
    r.summary.total = r.summary.errors + r.summary.warnings + r.summary.info := by
  rw [h.total_eq, h.errors_eq, h.warnings_eq, h.info_eq]
  exact countP_severities r.diagnostics

theorem Balanced.hasErrors_iff {r : Report} (h : r.Balanced) :
    r.hasErrors = true ↔ ∃ d ∈ r.diagnostics, d.severity = .error := by
  simp [hasErrors, h.errors_eq, List.countP_pos_iff]

end Report

/-! ## Entries -/

/-- A statement of a script, or a text of it that is none. -/
structure Entry where
  script : Script
  content : Except Rejection ScriptStatement

namespace Entry

/-- The offset in bytes where the entry starts. -/
def start (e : Entry) : Nat :=
  match e.content with
  | .error r => r.start
  | .ok s => s.start

/-- The place that diagnostics about the entry give. -/
def location (e : Entry) : Option Location :=
  match e.content with
  | .error r => r.toDiagnostic.location
  | .ok s => some (.ofOffset e.script.displayPath e.script.source s.start)

/-- The text that diagnostics about the entry give. -/
def text (e : Entry) : Option String :=
  match e.content with
  | .error r => r.toDiagnostic.statement
  | .ok s => some (Text.trim s.text)

/-- The diagnostic points to the entry. -/
structure IsAbout (e : Entry) (d : Diagnostic) : Prop where
  location_eq : d.location = e.location
  statement_eq : d.statement = e.text

end Entry

/-- The entries of the script of a file, in the order of its text. -/
def SourceFile.entries (d : Dialect) (f : SourceFile) : List Entry :=
  (f.parse d).entries.map (Entry.mk (f.parse d))

/-- The entries of files, in the order of the files. -/
def entriesOf (d : Dialect) (files : List SourceFile) : List Entry :=
  files.flatMap (SourceFile.entries d)

/-- The number of statements of a file: the runs between semicolons that are not all gaps. A file
without tokens counts as one statement. -/
def SourceFile.statementCount (d : Dialect) (f : SourceFile) : Nat :=
  match lexemes d f.contents with
  | .error _ => 1
  | .ok ls =>
    ((ls.map Lexeme.token).splitOnP (· = .symbol ";")).countP (·.any (!·.isGap))

/-- The number of statements of files. -/
def statementCount (d : Dialect) (files : List SourceFile) : Nat :=
  files.foldr (fun f n => f.statementCount d + n) 0

theorem map_token_pieces (source : List Char) (ls : List Lexeme) :
    (pieces source ls).map Piece.token = ls.map Lexeme.token := by
  induction ls with
  | nil => rfl
  | cons x ls ih =>
    cases ls with
    | nil => rfl
    | cons y ls => rw [pieces, List.map_cons, ih]; rfl

theorem map_token_runs (ps : List Piece) :
    (runs ps).map (List.map Piece.token) = (ps.map Piece.token).splitOnP (· = .symbol ";") := by
  induction ps with
  | nil => rfl
  | cons p ps ih =>
    rw [List.map_cons, List.splitOnP_cons_eq_if_modifyHead, runs, ← ih]
    by_cases hp : p.token = .symbol ";"
    · simp [hp]
    · obtain ⟨r, rs, hrs⟩ : ∃ r rs, runs ps = r :: rs :=
        List.exists_cons_of_ne_nil fun hnil =>
          List.splitOnP_ne_nil _ _ (ih.symm.trans (congrArg _ hnil))
      simp [hp, hrs]

/-- A run holds a statement unless it is all gaps. -/
theorem isSome_ofRun? (source : List Char) (run : List Piece) :
    (Chunk.ofRun? source run).isSome = (run.map Piece.token).any (!·.isGap) := by
  have hseen : (run.map Piece.token).any (!·.isGap) = run.any Piece.isSignificant := by
    rw [List.any_map]
    rfl
  rw [hseen, Chunk.ofRun?]
  cases hfilter : run.filter Piece.isSignificant with
  | nil => simpa using hfilter
  | cons p ps =>
    have hp : p ∈ run ∧ p.isSignificant = true := List.mem_filter.1 (by simp [hfilter])
    rw [List.any_eq_true.2 ⟨p, hp⟩, List.getLast?_cons]
    rfl

theorem length_chunks (source : List Char) (ls : List Lexeme) :
    (chunks source ls).length =
      ((ls.map Lexeme.token).splitOnP (· = .symbol ";")).countP (·.any (!·.isGap)) := by
  rw [chunks, List.length_filterMap_eq_countP, ← map_token_pieces source, ← map_token_runs,
    List.countP_map]
  exact List.countP_congr fun run _ => by rw [isSome_ofRun?]; rfl

theorem SourceFile.length_entries (d : Dialect) (f : SourceFile) :
    (f.entries d).length = f.statementCount d := by
  rw [entries, List.length_map, SourceFile.parse, Script.parse, statementCount]
  cases lexemes d f.contents with
  | error _ => rfl
  | ok ls => exact (List.length_map _).trans (length_chunks _ _)

theorem length_entriesOf (d : Dialect) (files : List SourceFile) :
    (entriesOf d files).length = statementCount d files := by
  induction files with
  | nil => rfl
  | cons f files ih =>
    rw [entriesOf, List.flatMap_cons, List.length_append, f.length_entries]
    exact congrArg (f.statementCount d + ·) ih

theorem statementCount_append (d : Dialect) (files files' : List SourceFile) :
    statementCount d (files ++ files') = statementCount d files + statementCount d files' := by
  simp only [← length_entriesOf, entriesOf, List.flatMap_append, List.length_append]

/-! ### The order of a text -/

theorem pairwise_locate (start : Nat) (fs : List Fragment) :
    (Fragment.locate start fs).Pairwise (·.start ≤ ·.start) := by
  induction fs generalizing start with
  | nil => exact .nil
  | cons f fs ih =>
    refine .cons (fun x hx => ?_) (ih _)
    have hfrom := (Fragment.within_of_mem_locate hx).2.1
    exact Nat.le_trans (Nat.le_add_right _ _) hfrom

/-- Elements picked from the parts of a list, at most one from each, are in its order. -/
theorem filterMap_sublist_flatten {α : Type} {pick : List α → Option α}
    (hpick : ∀ l, ∀ x ∈ pick l, x ∈ l) (ls : List (List α)) :
    ls.filterMap pick |>.Sublist ls.flatten := by
  induction ls with
  | nil => exact .slnil
  | cons l ls ih =>
    rw [List.flatten_cons]
    -- of every list at most one element is picked, so the order is that of the lists
    cases hl : pick l with
    | none =>
      rw [List.filterMap_cons_none hl]
      exact ih.trans (List.sublist_append_right l _)
    | some x =>
      rw [List.filterMap_cons_some hl]
      exact (List.singleton_sublist.2 (hpick l x hl)).append ih

theorem flatten_splitOnP_sublist {α : Type} (p : α → Bool) (xs : List α) :
    (xs.splitOnP p).flatten.Sublist xs := by
  induction xs with
  | nil => exact .slnil
  | cons x xs ih =>
    rw [List.splitOnP_cons_eq_if_modifyHead]
    obtain ⟨r, rs, hrs⟩ := List.exists_cons_of_ne_nil (List.splitOnP_ne_nil p xs)
    rw [hrs] at ih ⊢
    split
    · exact ih.cons x
    · exact ih.cons_cons x

/-- The statements of a text start one after the other. -/
theorem pairwise_chunks {source : List Char} {ls : List Lexeme} {fs : List Fragment}
    (h : Tiles source ls fs) : (chunks source ls).Pairwise (·.start ≤ ·.start) := by
  -- each statement starts at a token of its run, and the runs lie one after the other
  have hstarts : (chunks source ls).map Chunk.start =
      (((Fragment.locate 0 fs).splitOnP Located.isSemicolon).filterMap
        fun run => (run.filter Located.isSignificant).head?).map Located.start := by
    rw [chunks, h.pieces_eq, runs_map_piece, List.filterMap_map, List.map_filterMap,
      List.map_filterMap]
    refine List.filterMap_congr fun run _ => ?_
    rw [Function.comp_apply, ofRun?_map_piece]
    cases run.filter Located.isSignificant with
    | nil => rfl
    | cons x xs => simp [List.getLast?_cons]
  rw [← List.pairwise_map (f := Chunk.start) (R := (· ≤ ·)), hstarts, List.pairwise_map]
  refine (pairwise_locate 0 fs).sublist (.trans (filterMap_sublist_flatten ?_ _)
    (flatten_splitOnP_sublist _ _))
  exact fun run x hx => (List.mem_filter.1 (List.mem_of_mem_head? hx)).1

theorem Entry.start_parse (d : Dialect) (script : Script) (path : Option String) (c : Chunk) :
    (Entry.mk script (c.parse d path)).start = c.start := by
  rw [Chunk.parse]
  cases parseStatement d c.text <;> rfl

/-- The entries of a file come in the order of their places. -/
theorem SourceFile.pairwise_entries (d : Dialect) (f : SourceFile) :
    (f.entries d).Pairwise (·.start ≤ ·.start) := by
  rw [entries, List.pairwise_map, SourceFile.parse, Script.parse]
  cases hlexemes : lexemes d f.contents with
  | error _ => exact List.pairwise_singleton ..
  | ok ls =>
    obtain ⟨fs, htiles⟩ := exists_tiles_of_lexemes hlexemes
    simp only [List.pairwise_map, Entry.start_parse]
    exact pairwise_chunks htiles

/-! ## Replay -/

/-- The effect of an entry of a schema file on a catalog, or what is to be said about it. -/
def Entry.replay (config : Config) (catalog : Catalog) (e : Entry) : Except Diagnostic Catalog :=
  match e.content with
  | .error r => .error (config.rejected r)
  | .ok s => (replayStatement config catalog s).mapError (config.locate e.script s)

/-- What is to be said about the entries of schema files, each of them replayed into the catalog
that those before it leave. -/
def findings (config : Config) : Catalog → List Entry → List (Option Diagnostic)
  | _, [] => []
  | catalog, e :: es =>
    match e.replay config catalog with
    | .error d => some d :: findings config catalog es
    | .ok catalog => none :: findings config catalog es

/-- The catalog that the entries of schema files leave. -/
def replayAll (config : Config) : Catalog → List Entry → Catalog
  | catalog, [] => catalog
  | catalog, e :: es => replayAll config ((e.replay config catalog).toOption.getD catalog) es

/-- A catalog build with what came of one more statement. -/
def CatalogBuild.record (build : CatalogBuild) : Except Diagnostic Catalog → CatalogBuild
  | .error d => ⟨build.catalog, build.diagnostics ++ [d], build.statements + 1⟩
  | .ok catalog => ⟨catalog, build.diagnostics, build.statements + 1⟩

theorem replayEntries_cons (config : Config) (script : Script) (build : CatalogBuild)
    (content : Except Rejection ScriptStatement)
    (contents : List (Except Rejection ScriptStatement)) :
    replayEntries config script build (content :: contents) =
      replayEntries config script
        (build.record ((Entry.mk script content).replay config build.catalog)) contents := by
  cases content with
  | error r => rw [replayEntries]; rfl
  | ok s =>
    have hreplay : (Entry.mk script (.ok s)).replay config build.catalog =
      (replayStatement config build.catalog s).mapError (config.locate script s) := rfl
    rw [replayEntries, hreplay]
    cases (replayStatement config build.catalog s).mapError (config.locate script s) <;> rfl

theorem replayEntries_eq_foldl (config : Config) (script : Script)
    (contents : List (Except Rejection ScriptStatement)) (build : CatalogBuild) :
    replayEntries config script build contents = (contents.map (Entry.mk script)).foldl
      (fun build e => build.record (e.replay config build.catalog)) build := by
  induction contents generalizing build with
  | nil => rfl
  | cons content contents ih => rw [replayEntries_cons, ih, List.map_cons, List.foldl_cons]

/-- The files of a schema are replayed as one list of entries. -/
theorem buildCatalog_eq_foldl (config : Config) (files : List SourceFile) :
    buildCatalog config files = (entriesOf config.dialect files).foldl
      (fun build e => build.record (e.replay config build.catalog))
      ⟨.empty config.schemaName, [], 0⟩ := by
  rw [entriesOf, List.foldl_flatMap]
  exact congrArg (fun step => files.foldl step _)
    (funext₂ fun build f => replayEntries_eq_foldl config _ _ build)

theorem foldl_record (config : Config) (es : List Entry) (build : CatalogBuild) :
    (es.foldl (fun build e => build.record (e.replay config build.catalog)) build) =
      ⟨replayAll config build.catalog es,
        build.diagnostics ++ (findings config build.catalog es).reduceOption,
        build.statements + es.length⟩ := by
  induction es generalizing build with
  | nil => simp [replayAll, findings]
  | cons e es ih =>
    rw [List.foldl_cons, ih, replayAll, findings]
    cases e.replay config build.catalog <;>
      simp [CatalogBuild.record, Except.toOption, Nat.add_assoc, Nat.add_comm 1]

theorem buildCatalog_eq (config : Config) (files : List SourceFile) :
    buildCatalog config files =
      ⟨replayAll config (.empty config.schemaName) (entriesOf config.dialect files),
        (findings config (.empty config.schemaName)
          (entriesOf config.dialect files)).reduceOption,
        statementCount config.dialect files⟩ := by
  rw [buildCatalog_eq_foldl, foldl_record, length_entriesOf, List.nil_append, Nat.zero_add]

theorem Entry.isAbout_rejected (config : Config) (script : Script) (r : Rejection) :
    (Entry.mk script (.error r)).IsAbout (config.rejected r) := ⟨rfl, rfl⟩

theorem Entry.isAbout_locate (config : Config) (script : Script) (s : ScriptStatement)
    (d : Diagnostic) : (Entry.mk script (.ok s)).IsAbout (config.locate script s d) := ⟨rfl, rfl⟩

theorem Config.severityOf_severityOf (c : Config) (code : DiagnosticCode) (usual : Severity) :
    c.severityOf code (c.severityOf code usual) = c.severityOf code usual := by
  rw [severityOf, severityOf]
  cases c.overrides.find? code.name <;> rfl

/-- The severity that the settings give to a diagnostic is final. -/
theorem Config.adjust_adjust (c : Config) (d : Diagnostic) :
    c.adjust (c.adjust d) = c.adjust d := by
  simp only [adjust, severityOf_severityOf]

theorem Config.adjust_rejected (c : Config) (r : Rejection) :
    c.adjust (c.rejected r) = c.rejected r := c.adjust_adjust _

theorem Config.adjust_locate (c : Config) (script : Script) (s : ScriptStatement)
    (d : Diagnostic) : c.adjust (c.locate script s d) = c.locate script s d := c.adjust_adjust _

/-- What is said about an entry of a schema file is that it is no statement, or why the statement
has no effect. -/
theorem Entry.cases_of_replay_error {config : Config} {catalog : Catalog} {e : Entry}
    {d : Diagnostic} (h : e.replay config catalog = .error d) :
    (∃ r, e.content = .error r ∧ d = config.rejected r) ∨
      ∃ s found, e.content = .ok s ∧ replayStatement config catalog s = .error found ∧
        d = config.locate e.script s found := by
  obtain ⟨script, content⟩ := e
  cases content with
  | error r =>
    cases h
    exact .inl ⟨r, rfl, rfl⟩
  | ok s =>
    -- the replay of an entry fails as that of its statement does, with a place added
    cases hstatement : replayStatement config catalog s with
    | ok next => simp [replay, hstatement, Except.mapError] at h
    | error found =>
      simp only [replay, hstatement, Except.mapError, Except.error.injEq] at h
      exact .inr ⟨s, found, rfl, hstatement, h.symm⟩

theorem Entry.isAbout_of_replay_error {config : Config} {catalog : Catalog} {e : Entry}
    {d : Diagnostic} (h : e.replay config catalog = .error d) : e.IsAbout d := by
  obtain ⟨script, content⟩ := e
  obtain ⟨r, rfl, rfl⟩ | ⟨s, found, rfl, -, rfl⟩ := cases_of_replay_error h
  · exact isAbout_rejected config script r
  · exact isAbout_locate config script s found

/-- Every entry of a schema file has at most one finding, which points to it. -/
theorem forall₂_findings (config : Config) (catalog : Catalog) (es : List Entry) :
    List.Forall₂ (fun e found => ∀ d ∈ found, e.IsAbout d) es (findings config catalog es) := by
  induction es generalizing catalog with
  | nil => exact .nil
  | cons e es ih =>
    rw [findings]
    -- an entry that fails leaves the catalog to the next one as it was
    cases hreplay : e.replay config catalog with
    | error d =>
      dsimp only
      refine .cons ?_ (ih catalog)
      simpa using e.isAbout_of_replay_error hreplay
    | ok next =>
      dsimp only
      exact .cons (by simp) (ih next)

/-- A finding is what the replay of one of the entries says. -/
theorem exists_of_mem_findings {config : Config} {catalog : Catalog} {es : List Entry}
    {d : Diagnostic} (h : some d ∈ findings config catalog es) :
    ∃ (e : Entry) (c : Catalog), e.replay config c = .error d := by
  induction es generalizing catalog with
  | nil => cases h
  | cons e es ih =>
    rw [findings] at h
    cases hreplay : e.replay config catalog with
    | ok next => exact ih (by simpa [hreplay] using h)
    | error found =>
      rw [hreplay, List.mem_cons] at h
      obtain h | h := h
      · cases h
        exact ⟨e, catalog, hreplay⟩
      · exact ih h

theorem adjust_of_mem_findings {config : Config} {catalog : Catalog} {es : List Entry}
    {d : Diagnostic} (h : some d ∈ findings config catalog es) : config.adjust d = d := by
  obtain ⟨e, c, hreplay⟩ := exists_of_mem_findings h
  obtain ⟨r, -, rfl⟩ | ⟨s, found, -, -, rfl⟩ := e.cases_of_replay_error hreplay
  · exact config.adjust_rejected r
  · exact config.adjust_locate e.script s found

/-! ## Outcomes -/

/-- What becomes of a statement, by how far it gets. -/
inductive Compiles (config : Config) (catalog : Catalog) (script : Script) (s : ScriptStatement) :
    Outcome → Prop where
  | badHeader {e} (hheader : Header.parse s.comments = .error e) :
    Compiles config catalog script s ⟨none, [e.toDiagnostic]⟩
  | notConverted {header e} (hheader : Header.parse s.comments = .ok header)
    (hconvert : Canonical.convert config.dialect s = .error e) :
    Compiles config catalog script s ⟨none, [e.toDiagnostic]⟩
  | schemaChange {header converted} (hheader : Header.parse s.comments = .ok header)
    (hconvert : Canonical.convert config.dialect s = .ok converted)
    (hchange : converted.node.isSchemaChange = true) :
    Compiles config catalog script s ⟨none, []⟩
  | notAnalyzed {header converted e} (hheader : Header.parse s.comments = .ok header)
    (hconvert : Canonical.convert config.dialect s = .ok converted)
    (hchange : converted.node.isSchemaChange = false)
    (hanalyze : analyze catalog converted.node = .error e) :
    Compiles config catalog script s
      ⟨none, converted.unsupported.map ignoredConstruct ++ [analysisFailure e]⟩
  | described {header converted a} (hheader : Header.parse s.comments = .ok header)
    (hconvert : Canonical.convert config.dialect s = .ok converted)
    (hchange : converted.node.isSchemaChange = false)
    (hanalyze : analyze catalog converted.node = .ok a) :
    Compiles config catalog script s
      ⟨some (describe script s header a), converted.unsupported.map ignoredConstruct ++
        ((header.filter fun header =>
          header.command.returnsRows && a.columns.isEmpty).map noColumns).toList ++
        if config.reportOpaqueTypes then opaqueTypes (describe script s header a) else []⟩

theorem compiles_compileStatement (config : Config) (catalog : Catalog) (script : Script)
    (s : ScriptStatement) :
    Compiles config catalog script s (compileStatement config catalog script s) := by
  unfold compileStatement
  -- the cases are those of the function: the header, the conversion, the kind of node, the analysis
  split
  case h_1 hheader => exact .badHeader hheader
  case h_2 hheader hconvert => exact .notConverted hheader hconvert
  case h_3 hheader hconvert =>
    split
    · rename_i hchange
      exact .schemaChange hheader hconvert hchange
    · rename_i hchange
      rw [Bool.not_eq_true] at hchange
      dsimp only
      split
      · rename_i hanalyze
        exact .notAnalyzed hheader hconvert hchange hanalyze
      · rename_i hanalyze
        exact .described hheader hconvert hchange hanalyze

/-- What may come of an entry of a query file. -/
structure Entry.Yields (config : Config) (e : Entry) (o : Outcome) : Prop where
  /-- The diagnostics point to the entry. -/
  about : ∀ d ∈ o.diagnostics, e.IsAbout d
  /-- The descriptor is one of the statement. -/
  described : ∀ q ∈ o.descriptor, ∃ s, e.content = .ok s ∧ q.file = e.script.path ∧
    q.location = s.start ∧ q.sql = Text.trim s.text
  /-- Nothing comes of the entry only if it changes the schema. -/
  silent : o.descriptor = none → o.diagnostics = [] → ∃ s converted, e.content = .ok s ∧
    Canonical.convert config.dialect s = .ok converted ∧ converted.node.isSchemaChange = true

theorem Compiles.exists_describe {config : Config} {catalog : Catalog} {script : Script}
    {s : ScriptStatement} {o : Outcome} {q : QueryDescriptor}
    (h : Compiles config catalog script s o) (hq : q ∈ o.descriptor) :
    ∃ header a, q = describe script s header a := by
  cases h with
  | badHeader | notConverted | schemaChange | notAnalyzed => cases hq
  | described =>
    cases hq
    exact ⟨_, _, rfl⟩

theorem Compiles.isSchemaChange_of_silent {config : Config} {catalog : Catalog} {script : Script}
    {s : ScriptStatement} {o : Outcome} (h : Compiles config catalog script s o)
    (hnone : o.descriptor = none) (hnil : o.diagnostics = []) :
    ∃ converted, Canonical.convert config.dialect s = .ok converted ∧
      converted.node.isSchemaChange = true := by
  cases h with
  | badHeader | notConverted => cases hnil
  | schemaChange _ hconvert hchange => exact ⟨_, hconvert, hchange⟩
  | notAnalyzed => simp at hnil
  | described => cases hnone

theorem compileEntry_error (config : Config) (catalog : Catalog) (script : Script)
    (r : Rejection) : compileEntry config catalog script (.error r) =
      ⟨none, [config.rejected r]⟩ := rfl

theorem yields_compileEntry (config : Config) (catalog : Catalog) (script : Script)
    (content : Except Rejection ScriptStatement) :
    (Entry.mk script content).Yields config (compileEntry config catalog script content) := by
  cases content with
  | error r =>
    rw [compileEntry_error]
    -- what was not parsed is the one thing that is reported
    refine ⟨fun d hd => ?_, fun q hq => ?_, fun _ hnil => ?_⟩
    · obtain rfl := List.mem_singleton.1 hd
      exact Entry.isAbout_rejected config script r
    · simp at hq
    · simp at hnil
  | ok s =>
    -- everything that is reported of a statement is located at it
    refine ⟨fun d hd => ?_, fun q hq => ?_, fun hnone hnil => ?_⟩
    · obtain ⟨d, -, rfl⟩ := List.mem_map.1 hd
      exact Entry.isAbout_locate config script s d
    · -- a query is described as it was written
      obtain ⟨header, a, rfl⟩ :=
        (compiles_compileStatement config catalog script s).exists_describe hq
      exact ⟨s, rfl, rfl, rfl, rfl⟩
    · -- with neither a query nor a report, the statement changes the schema
      obtain ⟨converted, hconvert, hchange⟩ :=
        (compiles_compileStatement config catalog script s).isSchemaChange_of_silent hnone
          (List.map_eq_nil_iff.1 hnil)
      exact ⟨s, converted, rfl, hconvert, hchange⟩

theorem adjust_compileEntry {config : Config} {catalog : Catalog} {script : Script}
    {content : Except Rejection ScriptStatement} {d : Diagnostic}
    (h : d ∈ (compileEntry config catalog script content).diagnostics) : config.adjust d = d := by
  cases content with
  | error r =>
    obtain rfl := List.mem_singleton.1 h
    exact config.adjust_rejected r
  | ok s =>
    obtain ⟨d, -, rfl⟩ := List.mem_map.1 h
    exact config.adjust_locate script s d

theorem compileQueries_eq_map (config : Config) (catalog : Catalog) (files : List SourceFile) :
    compileQueries config catalog files = (entriesOf config.dialect files).map
      fun e => compileEntry config catalog e.script e.content := by
  rw [entriesOf, List.map_flatMap]
  refine congrArg (List.flatMap · files) (funext fun f => ?_)
  rw [SourceFile.entries, List.map_map]
  rfl

/-! ## Compilations -/

theorem diagnostics_compile (config : Config) (schema queries : List SourceFile) :
    (compile config schema queries).diagnostics =
      (findings config (.empty config.schemaName)
        (entriesOf config.dialect schema)).reduceOption ++
      (compileQueries config (buildCatalog config schema).catalog queries).flatMap
        Outcome.diagnostics := by
  rw [compile, Report.diagnostics_ofParts]
  exact congrArg (· ++ _) (congrArg CatalogBuild.diagnostics (buildCatalog_eq config schema))

theorem queries_compile (config : Config) (schema queries : List SourceFile) :
    (compile config schema queries).queries =
      (compileQueries config (buildCatalog config schema).catalog queries).filterMap
        Outcome.descriptor := by
  rw [compile, Report.queries_ofParts]

theorem statements_compile (config : Config) (schema queries : List SourceFile) :
    (compile config schema queries).summary.statements =
      statementCount config.dialect (schema ++ queries) := by
  have hqueries (catalog : Catalog) : (compileQueries config catalog queries).length =
      statementCount config.dialect queries := by
    rw [compileQueries_eq_map, List.length_map, length_entriesOf]
  rw [statementCount_append, compile, Report.statements_ofParts, hqueries]
  exact congrArg (· + _) (congrArg CatalogBuild.statements (buildCatalog_eq config schema))

/-- The severities in a report are those that the settings give. -/
theorem adjust_of_mem_compile {config : Config} {schema queries : List SourceFile}
    {d : Diagnostic} (h : d ∈ (compile config schema queries).diagnostics) :
    config.adjust d = d := by
  rw [diagnostics_compile, List.mem_append] at h
  obtain h | h := h
  · exact adjust_of_mem_findings (List.reduceOption_mem_iff.1 h)
  · obtain ⟨o, ho, hd⟩ := List.mem_flatMap.1 h
    rw [compileQueries_eq_map] at ho
    obtain ⟨e, -, rfl⟩ := List.mem_map.1 ho
    exact adjust_compileEntry hd

/-- A report accounts for the statements of schema files and query files: `found` is what is said
about those of the schema, and `outcomes` are those of the queries. -/
structure Accounting (config : Config) (schema queries : List SourceFile)
    (found : List (Option Diagnostic)) (outcomes : List Outcome) (r : Report) : Prop
    extends r.Balanced where
  statements_eq : r.summary.statements = statementCount config.dialect (schema ++ queries)
  total_eq_add : r.summary.total = r.summary.errors + r.summary.warnings + r.summary.info
  /-- The severities are those that the settings give. -/
  final : ∀ d ∈ r.diagnostics, config.adjust d = d
  /-- A statement of the schema has at most one finding. -/
  replayed : List.Forall₂ (fun e found => ∀ d ∈ found, e.IsAbout d)
    (entriesOf config.dialect schema) found
  analysed : List.Forall₂ (Entry.Yields config) (entriesOf config.dialect queries) outcomes
  /-- The findings about the schema stand first, and both parts follow their statements. -/
  diagnostics_eq : r.diagnostics = found.reduceOption ++ outcomes.flatMap Outcome.diagnostics
  queries_eq : r.queries = outcomes.filterMap Outcome.descriptor
  /-- The statements of a file are taken in the order of its text. -/
  ordered : ∀ f ∈ schema ++ queries, (f.entries config.dialect).Pairwise (·.start ≤ ·.start)
  hasErrors_iff : r.hasErrors = true ↔ ∃ d ∈ r.diagnostics, d.severity = .error

/-- A compilation reports what came of every statement, once, and counts it. -/
theorem compile_accounting (config : Config) (schema queries : List SourceFile) :
    ∃ found outcomes,
      Accounting config schema queries found outcomes (compile config schema queries) := by
  have hbalanced : (compile config schema queries).Balanced := Report.balanced_ofParts _ _ _
  refine ⟨findings config (.empty config.schemaName) (entriesOf config.dialect schema),
    compileQueries config (buildCatalog config schema).catalog queries, ?_⟩
  constructor
  case toBalanced => exact hbalanced
  case statements_eq => exact statements_compile config schema queries
  case total_eq_add => exact hbalanced.total_eq_add
  case final => exact fun d hd => adjust_of_mem_compile hd
  case replayed => exact forall₂_findings config _ _
  -- each entry of the query files is compiled for itself
  case analysed =>
    rw [compileQueries_eq_map, List.forall₂_map_right_iff]
    exact List.forall₂_same.2 fun e _ => yields_compileEntry config _ e.script e.content
  case diagnostics_eq => exact diagnostics_compile config schema queries
  case queries_eq => exact queries_compile config schema queries
  case ordered => exact fun f _ => f.pairwise_entries config.dialect
  case hasErrors_iff => exact hbalanced.hasErrors_iff

end TypedSql
