import TypedSql.Proofs.Compilation.Accounting
import TypedSql.Proofs.Queries.Locations
import TypedSql.Proofs.Script.Excerpts

/-!
# Isolation

What comes of a statement of a query file is settled by the statement and the comments above it. The
other statements of the files decide its place only.

- **Places**: outcomes that differ in their place
- **Statements**: statements with the same wording come to the same
- **Files**: the outcomes of files are those of their excerpts
-/

namespace TypedSql

open Sql Text

/-! ## Places -/

/-- A place in a file. -/
structure Place where
  file : String
  line : Nat
  column : Nat
  /-- The offset in bytes. -/
  offset : Nat
  deriving DecidableEq

/-- The place at an offset into the text of a file. -/
def Place.ofOffset (path source : String) (offset : Nat) : Place :=
  let p := Position.ofOffset source.toList offset
  ⟨path, p.line, p.column, offset⟩

/-- Another place, as exactly as this one is known. -/
def Location.movedTo (l : Location) (place : Place) : Location :=
  ⟨place.file, l.line.map fun _ => place.line, l.column.map fun _ => place.column,
    l.offset.map fun _ => place.offset⟩

/-- The diagnostic for a statement at another place. -/
def Diagnostic.movedTo (d : Diagnostic) (place : Place) : Diagnostic :=
  { d with location := d.location.map (·.movedTo place) }

/-- The descriptor of a statement at another place. -/
def QueryDescriptor.movedTo (q : QueryDescriptor) (place : Place) : QueryDescriptor :=
  { q with file := some place.file, location := place.offset }

/-- The outcome of a statement at another place. -/
def Outcome.movedTo (o : Outcome) (place : Place) : Outcome :=
  ⟨o.descriptor.map (·.movedTo place), o.diagnostics.map (·.movedTo place)⟩

theorem Location.movedTo_ofOffset {path source : String} {offset : Nat}
    (h : offset ≤ byteSize source.toList) (path' source' : String) (offset' : Nat) :
    (Location.ofOffset path' source' offset').movedTo (.ofOffset path source offset) =
      .ofOffset path source offset := by
  simp [movedTo, ofOffset, Place.ofOffset, Nat.min_eq_left h]

/-! ## Statements -/

/-- Trees that differ in their locations only are analysed to the same. -/
theorem analyze_congr_relocate {f : Nat → Nat} {n n' : Canonical.Node}
    (h : n.relocate f = n'.relocate f) (c : Catalog) : analyze c n = analyze c n' := by
  rw [← analyze_relocate c n f, h, analyze_relocate]

variable {config : Config} {catalog : Catalog}

/-- What is said about a statement does not depend on its place, and its descriptor only tells the
place. -/
theorem compileStatement_congr_wording {s s' : ScriptStatement}
    (hwording : s.toChunk.wording = s'.toChunk.wording) (htree : s.tree = s'.tree)
    (script script' : Script) :
    (compileStatement config catalog script s).diagnostics =
        (compileStatement config catalog script' s').diagnostics ∧
      ∀ place, (compileStatement config catalog script s).descriptor.map (·.movedTo place) =
        (compileStatement config catalog script' s').descriptor.map (·.movedTo place) := by
  obtain ⟨htext, hcomments, hplaceholders, hlimit⟩ :
      s.text = s'.text ∧ s.comments = s'.comments ∧ s.placeholders.map Placeholder.text =
        s'.placeholders.map Placeholder.text ∧ s.limitComma = s'.limitComma := by
    simpa [Chunk.wording] using hwording
  have hform :=
    Canonical.map_form_convert_congr config.dialect htree hlimit hplaceholders
  unfold compileStatement
  rw [hcomments]
  cases Header.parse s'.comments with
  | error e => exact ⟨rfl, fun _ => rfl⟩
  | ok header =>
    -- both statements are converted, or none is and for the same reason
    cases hconvert : Canonical.convert config.dialect s with
    | error e =>
      cases hconvert' : Canonical.convert config.dialect s' with
      | error e' =>
        rw [hconvert, hconvert'] at hform
        cases hform
        exact ⟨rfl, fun _ => rfl⟩
      | ok converted' =>
        rw [hconvert, hconvert'] at hform
        cases hform
    | ok converted =>
      cases hconvert' : Canonical.convert config.dialect s' with
      | error e' =>
        rw [hconvert, hconvert'] at hform
        cases hform
      | ok converted' =>
        rw [hconvert, hconvert'] at hform
        obtain ⟨hnode, hunsupported⟩ := Prod.mk.inj (Except.ok.inj hform)
        have hchange : converted.node.isSchemaChange = converted'.node.isSchemaChange := by
          rw [← Canonical.Node.isSchemaChange_relocate, hnode,
            Canonical.Node.isSchemaChange_relocate]
        dsimp only
        rw [hchange, hunsupported, analyze_congr_relocate hnode catalog]
        split
        · exact ⟨rfl, fun _ => rfl⟩
        · cases analyze catalog converted'.node with
          | error e => exact ⟨rfl, fun _ => rfl⟩
          | ok a =>
            -- the descriptors are made of the same parts, except for file and offset
            refine ⟨rfl, fun place => ?_⟩
            simp only [Option.map_some, describe, QueryDescriptor.movedTo, htext]

theorem SourceFile.path_parse (f : SourceFile) (d : Dialect) : (f.parse d).path = some f.path := by
  rw [parse, Script.parse]
  cases lexemes d f.contents <;> rfl

theorem SourceFile.source_parse (f : SourceFile) (d : Dialect) :
    (f.parse d).source = f.contents := by
  rw [parse, Script.parse]
  cases lexemes d f.contents <;> rfl

theorem SourceFile.displayPath_parse (f : SourceFile) (d : Dialect) :
    (f.parse d).displayPath = f.path := by
  rw [Script.displayPath, f.path_parse, Option.getD_some]

/-- The descriptor of a statement tells the place of the statement. -/
theorem map_movedTo_descriptor (f : SourceFile) (d : Dialect) (s : ScriptStatement) :
    (compileStatement config catalog (f.parse d) s).descriptor.map
        (·.movedTo (.ofOffset f.path f.contents s.start)) =
      (compileStatement config catalog (f.parse d) s).descriptor := by
  have hplace : ∀ q ∈ (compileStatement config catalog (f.parse d) s).descriptor,
      q.movedTo (.ofOffset f.path f.contents s.start) = q := by
    intro q hq
    obtain ⟨header, a, rfl⟩ := (compiles_compileStatement config catalog _ s).exists_describe hq
    simp only [QueryDescriptor.movedTo, describe, f.path_parse, Place.ofOffset]
  exact (Option.map_congr hplace).trans Option.map_id'

theorem movedTo_locate (f f' : SourceFile) (d d' : Dialect) {s s' : ScriptStatement}
    (htext : s.text = s'.text) (hle : s.start ≤ byteSize f.contents.toList) (found : Diagnostic) :
    (config.locate (f'.parse d') s' found).movedTo (.ofOffset f.path f.contents s.start) =
      config.locate (f.parse d) s found := by
  have hmoved := @Location.movedTo_ofOffset f.path f.contents s.start hle f'.path f'.contents
    s'.start
  simp only [Config.locate, Config.adjust, Diagnostic.movedTo, Option.map_some, htext,
    f.displayPath_parse, f.source_parse, f'.displayPath_parse, f'.source_parse, hmoved]

/-- Statements with the same wording come to the same but for their places, in whichever files they
stand. -/
theorem compileEntry_parse_congr {f f' : SourceFile} {c c' : Chunk}
    (hwording : c.wording = c'.wording)
    (hline : c.line = (Position.ofOffset f.contents.toList c.start).line)
    (hle : c.start ≤ byteSize f.contents.toList) :
    compileEntry config catalog (f.parse config.dialect)
        (c.parse config.dialect (some f.path)) =
      (compileEntry config catalog (f'.parse config.dialect)
        (c'.parse config.dialect (some f'.path))).movedTo
          (.ofOffset f.path f.contents c.start) := by
  -- equal wordings have the same text, so both chunks are parsed to the same tree or to the same
  -- error
  have htext : c.text = c'.text := congrArg Wording.text hwording
  rw [Chunk.parse, Chunk.parse, htext]
  cases parseStatement config.dialect c'.text with
  | error cause =>
    simp only [compileEntry, Outcome.movedTo, Config.rejected, Config.adjust,
      Rejection.toDiagnostic, Diagnostic.movedTo, Location.movedTo, Place.ofOffset,
      Option.map_some, Option.map_none, List.map_cons, List.map_nil, hline]
  | ok tree =>
    obtain ⟨hdiagnostics, hdescriptor⟩ :=
      @compileStatement_congr_wording config catalog ⟨c, tree⟩ ⟨c', tree⟩ hwording rfl
        (f.parse config.dialect) (f'.parse config.dialect)
    simp only [compileEntry, Outcome.movedTo]
    congr 1
    · rw [← hdescriptor]
      exact (map_movedTo_descriptor f config.dialect ⟨c, tree⟩).symm
    · rw [hdiagnostics, List.map_map]
      exact List.map_congr_left fun found _ =>
        (@movedTo_locate config f f' _ _ ⟨c, tree⟩ ⟨c', tree⟩ htext hle found).symm

/-! ## Files -/

/-- The excerpts of a file. -/
def SourceFile.excerpts (d : Dialect) (f : SourceFile) : List Excerpt :=
  Sql.excerpts d f.path f.contents

/-- Whether the file has tokens. -/
def SourceFile.Tokenizes (d : Dialect) (f : SourceFile) : Prop :=
  ∃ ls, lexemes d f.contents = .ok ls

/-- The place of the statement of an excerpt. -/
def Sql.Excerpt.place (e : Excerpt) : Place := .ofOffset e.path e.source e.start

/-- The outcome is that of the statement of the excerpt. -/
def Sql.Excerpt.ComesTo (config : Config) (catalog : Catalog) (e : Excerpt) (o : Outcome) : Prop :=
  ∃ c, e.Holds e.path e.source c ∧
    o = compileEntry config catalog (SourceFile.parse config.dialect ⟨e.path, e.source⟩)
      (c.parse config.dialect (some e.path))

/-- Excerpts with the same fragments come to the same but for their places. -/
theorem Sql.Excerpt.ComesTo.congr {e e' : Excerpt} {o o' : Outcome} (h : e.ComesTo config catalog o)
    (h' : e'.ComesTo config catalog o') (hfragments : e'.fragments = e.fragments) :
    o = o'.movedTo e.place := by
  obtain ⟨c, hc, rfl⟩ := h
  obtain ⟨c', hc', rfl⟩ := h'
  have hwording : c.wording = c'.wording := by
    rw [hc.wording_eq, hc'.wording_eq, hfragments]
  rw [Excerpt.place, hc.start_eq]
  exact @compileEntry_parse_congr config catalog ⟨e.path, e.source⟩ ⟨e'.path, e'.source⟩ c c'
    hwording hc.line_eq hc.start_le

theorem comesTo_of_holds {f : SourceFile} {e : Excerpt} {c : Chunk}
    (h : e.Holds f.path f.contents c) :
    e.ComesTo config catalog (compileEntry config catalog (f.parse config.dialect)
      (c.parse config.dialect (some f.path))) := by
  obtain ⟨path, source, fragments, start⟩ := e
  obtain rfl : path = f.path := h.path_eq
  obtain rfl : source = f.contents := h.source_eq
  exact ⟨c, h, rfl⟩

/-- The outcomes of a file are those of its excerpts, in the order of the text. -/
theorem forall₂_comesTo_file {f : SourceFile} (hf : f.Tokenizes config.dialect) :
    List.Forall₂ (Excerpt.ComesTo config catalog) (f.excerpts config.dialect)
      ((f.parse config.dialect).entries.map
        (compileEntry config catalog (f.parse config.dialect))) := by
  obtain ⟨ls, hls⟩ := hf
  have hentries : (f.parse config.dialect).entries = (chunks f.contents.toList ls).map
      (Chunk.parse config.dialect (some f.path)) := by
    rw [SourceFile.parse, Script.parse, hls]
  rw [hentries, List.map_map, List.forall₂_map_right_iff]
  exact (forall₂_holds hls).imp fun e c h => comesTo_of_holds h

/-- The outcomes of files are those of their excerpts, in the order of the files. -/
theorem forall₂_comesTo {files : List SourceFile}
    (hfiles : ∀ f ∈ files, f.Tokenizes config.dialect) :
    List.Forall₂ (Excerpt.ComesTo config catalog)
      (files.flatMap (SourceFile.excerpts config.dialect))
      (compileQueries config catalog files) := by
  induction files with
  | nil => exact .nil
  | cons f files ih =>
    obtain ⟨hf, hrest⟩ := List.forall_mem_cons.1 hfiles
    exact List.rel_append (forall₂_comesTo_file hf) (ih hrest)

/-- What comes of a statement of query files is what comes of it alone, with the comments above it,
but for its place, if it is read alone as in its file. And it is what comes of it in all other files
that it stands in, so no other statement can change it. The outcomes are in the order of the files
and of their texts. -/
theorem compileQueries_isolated (config : Config) (catalog : Catalog) (files : List SourceFile)
    (hfiles : ∀ f ∈ files, f.Tokenizes config.dialect) :
    List.Forall₂ (fun e o =>
        (fragments? config.dialect e.text = some e.fragments → ∀ path, ∃ alone,
          compileQueries config catalog [⟨path, e.text⟩] = [alone] ∧ o = alone.movedTo e.place) ∧
        ∀ files', (∀ f ∈ files', f.Tokenizes config.dialect) →
          List.Forall₂ (fun e' o' => e'.fragments = e.fragments → o = o'.movedTo e.place)
            (files'.flatMap (SourceFile.excerpts config.dialect))
            (compileQueries config catalog files'))
      (files.flatMap (SourceFile.excerpts config.dialect))
      (compileQueries config catalog files) := by
  have hsource : ∀ e ∈ files.flatMap (SourceFile.excerpts config.dialect),
      ∃ f : SourceFile, e ∈ f.excerpts config.dialect := fun e he => by
    obtain ⟨f, -, hf⟩ := List.mem_flatMap.1 he
    exact ⟨f, hf⟩
  have houtcomes := (List.forall₂_and_left _ _).2
    ⟨hsource, @forall₂_comesTo config catalog files hfiles⟩
  refine houtcomes.imp fun e o ⟨⟨f, he⟩, ho⟩ => ⟨fun halone path => ?_, fun files' hfiles' => ?_⟩
  · -- the text alone is a file with one excerpt, which has the same fragments
    obtain ⟨e', hexcerpts, hfragments⟩ := exists_excerpts_text he halone path
    obtain ⟨ls, hls, -⟩ := tiles_of_fragments? halone
    have hsingle : ∀ f ∈ [SourceFile.mk path e.text], f.Tokenizes config.dialect := by
      simpa using ⟨ls, hls⟩
    have hall := @forall₂_comesTo config catalog _ hsingle
    have hflat :
        [SourceFile.mk path e.text].flatMap (SourceFile.excerpts config.dialect) = [e'] := by
      rw [List.flatMap_cons, List.flatMap_nil, List.append_nil]
      exact hexcerpts
    rw [hflat] at hall
    cases houtcome : compileQueries config catalog [⟨path, e.text⟩] with
    | nil =>
      rw [houtcome] at hall
      cases hall
    | cons alone rest =>
      rw [houtcome] at hall
      cases hall with
      | cons halone' hnil =>
        cases hnil
        exact ⟨alone, rfl, ho.congr halone' hfragments⟩
  · exact (forall₂_comesTo hfiles').imp fun e' o' ho' hfragments => ho.congr ho' hfragments

/-- A file with two queries and a text between them that is no statement. -/
def neighbours : SourceFile := ⟨"q.sql", "SELECT 1;\nSELEC;\n -- name: B :one\nSELECT ? AS b;"⟩

theorem compileQueries_isolated_neighbours :
    neighbours.Tokenizes .mysql ∧
      (neighbours.excerpts .mysql).map Excerpt.text =
        ["SELECT 1", "SELEC", "-- name: B :one\nSELECT ? AS b"] ∧
      ∃ alone, compileQueries (.default "/") (.empty "db")
          [⟨"b.sql", "-- name: B :one\nSELECT ? AS b"⟩] = [alone] ∧
        (compileQueries (.default "/") (.empty "db") [neighbours])[2]? =
          some (alone.movedTo ⟨"q.sql", 4, 1, 34⟩) := by
  have htokenizes : neighbours.Tokenizes .mysql := by
    have hsome : (lexemes .mysql neighbours.contents).toOption.isSome = true := by decide +kernel
    -- the file is cut into tokens, or nothing of it would be compiled one by one
    cases hls : lexemes .mysql neighbours.contents with
    | error e => simp [hls, Except.toOption] at hsome
    | ok ls => exact ⟨ls, hls⟩
  -- the third excerpt is run for its text, for what it is alone, and for its place
  have hthird : (([neighbours].flatMap (SourceFile.excerpts .mysql))[2]?.any fun e =>
      e.text = "-- name: B :one\nSELECT ? AS b" && fragments? .mysql e.text = some e.fragments &&
        e.place = ⟨"q.sql", 4, 1, 34⟩) = true := by decide +kernel
  obtain ⟨e, he, hfacts⟩ := (Option.any_eq_true ..).1 hthird
  simp only [Bool.and_eq_true, decide_eq_true_eq] at hfacts
  obtain ⟨⟨htext, halone⟩, hplace⟩ := hfacts
  have hisolated := compileQueries_isolated (.default "/") (.empty "db") [neighbours]
    fun f hf => List.mem_singleton.1 hf ▸ htokenizes
  -- what holds of every excerpt is taken at the third one
  obtain ⟨hlt, rfl⟩ := List.getElem?_eq_some_iff.1 he
  obtain ⟨hsingle, -⟩ :=
    (List.forall₂_iff_get.1 hisolated).2 2 hlt (hisolated.length_eq ▸ hlt)
  obtain ⟨alone, hcompiled, ho⟩ := hsingle halone "b.sql"
  refine ⟨htokenizes, by decide +kernel, alone, ?_, ?_⟩
  · rw [← htext]
    exact hcompiled
  · rw [List.getElem?_eq_getElem (hisolated.length_eq ▸ hlt), ← hplace]
    exact congrArg some ho

end TypedSql
