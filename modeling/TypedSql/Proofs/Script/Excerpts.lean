import Mathlib.Data.List.DropRight
import TypedSql.Proofs.Script.Splitting

/-!
# Excerpts

A statement with the comments above it, cut out of its file. What the splitter tells about a
statement, apart from its place, is told by the excerpt.

- **Fragments of a text**: what the tokens of a text were read from
- **Frames**: a run as a statement between gaps
- **Wordings**: what a statement says, wherever it stands
- **Statements of a run**: the statement of a run has the wording of the run
- **Excerpts**: the statements of a text one by one, and an excerpt as a text of its own
-/

namespace TypedSql.Sql

open TypedSql.Text Fragment

deriving instance DecidableEq for Fragment

/-! ## Fragments of a text -/

/-- The parts of a text that its tokens were read from. -/
def fragmentsOf (source : List Char) (ls : List Lexeme) : List Fragment :=
  (pieces source ls).map fun p => ⟨p.token, slice p.start p.stop source⟩

/-- The fragments of a text, if it has tokens. -/
def fragments? (d : Dialect) (text : String) : Option (List Fragment) :=
  match lexemes d text with
  | .error _ => none
  | .ok ls => some (fragmentsOf text.toList ls)

theorem map_slice_locate (before : List Char) (fs : List Fragment) :
    (locate (byteSize before) fs).map
      (fun x => Fragment.mk x.token (slice x.start x.stop (before ++ join fs))) = fs := by
  induction fs generalizing before with
  | nil => rfl
  | cons f fs ih =>
    have hrest := ih (before ++ f.text)
    rw [byteSize_append, List.append_assoc] at hrest
    have hslice := slice_append before f.text (join fs)
    rw [List.append_assoc] at hslice
    rw [locate, List.map_cons, join_cons]
    exact congrArg₂ List.cons (congrArg (Fragment.mk f.token) hslice) hrest

theorem Tiles.fragmentsOf_eq {source : List Char} {ls : List Lexeme} {fs : List Fragment}
    (h : Tiles source ls fs) : fragmentsOf source ls = fs := by
  rw [fragmentsOf, h.pieces_eq, List.map_map, h.source_eq]
  exact map_slice_locate [] fs

/-- The fragments of a text make it up. -/
theorem tiles_of_fragments? {d : Dialect} {text : String} {fs : List Fragment}
    (h : fragments? d text = some fs) :
    ∃ ls, lexemes d text = .ok ls ∧ Tiles text.toList ls fs := by
  unfold fragments? at h
  split at h
  · cases h
  · rename_i ls hls
    obtain ⟨fs', htiles⟩ := exists_tiles_of_lexemes hls
    rw [htiles.fragmentsOf_eq] at h
    cases h
    exact ⟨ls, hls, htiles⟩

/-! ## Frames -/

namespace Fragment

/-- Whether the grammar does not see the fragment. -/
def isGap (f : Fragment) : Bool := f.token.isGap

/-- Whether the fragment is a comment. -/
def isComment (f : Fragment) : Bool := f.token.commentText?.isSome

/-- The gaps above the statement of a run, from the first comment on. -/
def leading (run : List Fragment) : List Fragment := (run.takeWhile isGap).dropWhile (!·.isComment)

/-- The statement of a run, from its first significant token to its last one. -/
def body (run : List Fragment) : List Fragment := (run.dropWhile isGap).rdropWhile isGap

/-- The statement of a run with the comments above it. -/
def excerpt (run : List Fragment) : List Fragment := leading run ++ body run

end Fragment

/-- A statement from its first significant token to its last one, between gaps. -/
structure Framed (before body after : List Fragment) : Prop where
  before_gaps : ∀ f ∈ before, f.isGap = true
  after_gaps : ∀ f ∈ after, f.isGap = true
  first : ∃ f rest, body = f :: rest ∧ f.isGap = false
  last : ∃ rest f, body = rest ++ [f] ∧ f.isGap = false

theorem Cut.framed {run before body after : List Located} (h : Cut run before body after) :
    Framed (before.map Located.toFragment) (body.map Located.toFragment)
      (after.map Located.toFragment) := by
  have hgap {x : Located} (hx : x.isSignificant = false) : x.toFragment.isGap = true := by
    simpa [Located.isSignificant, isGap] using hx
  have hsolid {x : Located} (hx : x.isSignificant = true) : x.toFragment.isGap = false := by
    simpa [Located.isSignificant, isGap] using hx
  refine ⟨List.forall_mem_map.2 fun x hx => hgap (h.before_gaps x hx),
    List.forall_mem_map.2 fun x hx => hgap (h.after_gaps x hx), ?_, ?_⟩
  · obtain ⟨x, rest, rfl, hx⟩ := h.first
    exact ⟨_, _, List.map_cons, hsolid hx⟩
  · obtain ⟨rest, x, rfl, hx⟩ := h.last
    exact ⟨_, _, List.map_append, hsolid hx⟩

namespace Framed

variable {before body after : List Fragment}

theorem takeWhile_eq (h : Framed before body after) :
    (before ++ body ++ after).takeWhile isGap = before := by
  obtain ⟨f, rest, rfl, hf⟩ := h.first
  rw [List.append_assoc, List.takeWhile_append_of_pos h.before_gaps]
  simp [hf]

theorem dropWhile_eq (h : Framed before body after) :
    (before ++ body ++ after).dropWhile isGap = body ++ after := by
  obtain ⟨f, rest, rfl, hf⟩ := h.first
  rw [List.append_assoc, List.dropWhile_append_of_pos h.before_gaps]
  simp [hf]

theorem body_eq (h : Framed before body after) :
    Fragment.body (before ++ body ++ after) = body := by
  -- seen from the end, the gaps after the statement come first
  obtain ⟨rest, f, hbody, hf⟩ := h.last
  have hafter : ∀ g ∈ after.reverse, g.isGap = true :=
    fun g hg => h.after_gaps g (List.mem_reverse.1 hg)
  rw [Fragment.body, h.dropWhile_eq, List.rdropWhile, List.reverse_append,
    List.dropWhile_append_of_pos hafter, hbody]
  simp [hf]

theorem leading_eq (h : Framed before body after) :
    leading (before ++ body ++ after) = before.dropWhile (!·.isComment) := by
  rw [leading, h.takeWhile_eq]

theorem excerpt_eq (h : Framed before body after) :
    excerpt (before ++ body ++ after) = before.dropWhile (!·.isComment) ++ body := by
  rw [excerpt, h.leading_eq, h.body_eq]

/-- An excerpt is framed by the comments above the statement. -/
theorem excerpted (h : Framed before body after) :
    Framed (before.dropWhile (!·.isComment)) body [] where
  before_gaps f hf := h.before_gaps f ((List.dropWhile_sublist _).mem hf)
  after_gaps := List.forall_mem_nil _
  first := h.first
  last := h.last

/-- To cut out an excerpt once more changes nothing. -/
theorem excerpt_excerpt (h : Framed before body after) :
    excerpt (excerpt (before ++ body ++ after)) = excerpt (before ++ body ++ after) := by
  rw [h.excerpt_eq]
  have hagain := h.excerpted.excerpt_eq
  rwa [List.append_nil, List.dropWhile_idempotent] at hagain

end Framed

/-! ## Wordings -/

/-- What a statement says, wherever it stands. -/
structure Wording where
  text : String
  comments : List String
  placeholders : List String
  limitComma : Bool

/-- The wording of a statement. -/
def Chunk.wording (c : Chunk) : Wording :=
  ⟨c.text, c.comments, c.placeholders.map Placeholder.text, c.limitComma⟩

/-- The placeholder that a fragment is. -/
def Fragment.placeholderText? (f : Fragment) : Option String :=
  match f.token with
  | .placeholder text => some text
  | _ => none

/-- The wording of the statement of a run. -/
def Fragment.wording (run : List Fragment) : Wording where
  text := String.ofList (trimEnd (join (body run)))
  comments := (leading run).filterMap (·.token.commentText?)
  placeholders := run.filterMap placeholderText?
  limitComma := hasLimitComma ((run.filter (!·.isGap)).map Fragment.token)

theorem filterMap_commentText?_dropWhile (fs : List Fragment) :
    (fs.dropWhile (!·.isComment)).filterMap (·.token.commentText?) =
      fs.filterMap (·.token.commentText?) := by
  induction fs with
  | nil => rfl
  | cons f fs ih =>
    cases hf : f.token.commentText? with
    | none =>
      rw [List.dropWhile_cons_of_pos (by simp [isComment, hf]), ih,
        List.filterMap_cons_none (by exact hf)]
    | some text => rw [List.dropWhile_cons_of_neg (by simp [isComment, hf])]

namespace Framed

variable {before body after : List Fragment}

theorem filter_eq (h : Framed before body after) :
    (before ++ body ++ after).filter (!·.isGap) = body.filter (!·.isGap) := by
  have hnone (fs : List Fragment) (hfs : ∀ f ∈ fs, f.isGap = true) : fs.filter (!·.isGap) = [] :=
    List.filter_eq_nil_iff.2 fun f hf => by simp [hfs f hf]
  rw [List.filter_append, List.filter_append, hnone before h.before_gaps,
    hnone after h.after_gaps, List.nil_append, List.append_nil]

/-- No gap is a placeholder. -/
theorem filterMap_placeholderText? (h : Framed before body after) :
    (before ++ body ++ after).filterMap placeholderText? = body.filterMap placeholderText? := by
  have hnone (fs : List Fragment) (hfs : ∀ f ∈ fs, f.isGap = true) :
      fs.filterMap placeholderText? = [] := by
    refine List.filterMap_eq_nil_iff.2 fun f hf => ?_
    have hgap : f.token.isGap = true := hfs f hf
    rw [placeholderText?]
    cases htoken : f.token <;> simp_all [Token.isGap]
  rw [List.filterMap_append, List.filterMap_append, hnone before h.before_gaps,
    hnone after h.after_gaps, List.nil_append, List.append_nil]

theorem wording_eq (h : Framed before body after) :
    wording (before ++ body ++ after) =
      ⟨String.ofList (trimEnd (join body)), before.filterMap (·.token.commentText?),
        body.filterMap placeholderText?,
        hasLimitComma ((body.filter (!·.isGap)).map Fragment.token)⟩ := by
  rw [wording, h.body_eq, h.leading_eq, filterMap_commentText?_dropWhile,
    h.filterMap_placeholderText?, h.filter_eq]

/-- The wording of a statement is that of its excerpt. -/
theorem wording_excerpt (h : Framed before body after) :
    wording (excerpt (before ++ body ++ after)) = wording (before ++ body ++ after) := by
  have hexcerpt := h.excerpted.wording_eq
  rw [List.append_nil, filterMap_commentText?_dropWhile] at hexcerpt
  rw [h.excerpt_eq, h.wording_eq, hexcerpt]

end Framed

/-! ## Statements of a run -/

theorem lineAt_eq (source : List Char) (offset : Nat) :
    lineAt source offset = (Position.ofOffset source offset).line := by
  rw [lineAt, Position.ofOffset, Position.line_afterText, Nat.add_comm]
  rfl

theorem map_text_filterMap_placeholder? (xs : List Located) :
    (xs.filterMap Located.placeholder?).map Placeholder.text =
      (xs.map Located.toFragment).filterMap placeholderText? := by
  rw [List.map_filterMap, List.filterMap_map]
  refine List.filterMap_congr fun x _ => ?_
  simp only [Located.placeholder?, Function.comp_apply, placeholderText?]
  cases x.token <;> rfl

/-- The chunk is the statement of a run: it has the wording of the run and starts at its first
significant token. -/
structure Chunk.Tells (c : Chunk) (source : List Char) (run : List Located) : Prop where
  start_eq : (run.find? Located.isSignificant).map Located.start = some c.start
  line_eq : c.line = (Position.ofOffset source c.start).line
  start_le : c.start ≤ byteSize source
  wording_eq : c.wording = Fragment.wording (run.map Located.toFragment)

/-- The text from the first of some fragments to the last one. -/
theorem slice_locate {upTo rest : List Char} {bs : List Fragment} {first last : Located}
    {front more : List Located} (hfirst : locate (byteSize upTo) bs = first :: more)
    (hlast : locate (byteSize upTo) bs = front ++ [last]) :
    first.start = byteSize upTo ∧
      slice first.start last.stop (upTo ++ join bs ++ rest) = join bs := by
  cases bs with
  | nil => cases hfirst
  | cons f fs =>
    have hstart : first.start = byteSize upTo := by
      rw [locate] at hfirst
      rw [← (List.cons.inj hfirst).1]
    -- the last fragment stops where all of them together stop
    have hstop : last.stop = byteSize upTo + byteSize (join (f :: fs)) := by
      have hend := getLast?_locate (List.cons_ne_nil f fs) |>.symm.trans
        (congrArg (·.getLast?.map Located.stop) hlast)
      simpa using hend.symm
    exact ⟨hstart, by rw [hstart, hstop, slice_append]⟩

/-- A run with a significant token holds one statement. -/
theorem exists_tells {text₁ text₂ : List Char} {fs : List Fragment}
    (hany : (locate (byteSize text₁) fs).any Located.isSignificant = true) :
    ∃ c, Chunk.ofRun? (text₁ ++ join fs ++ text₂)
        ((locate (byteSize text₁) fs).map Located.piece) = some c ∧
      c.Tells (text₁ ++ join fs ++ text₂) (locate (byteSize text₁) fs) := by
  obtain ⟨before, body, after, hcut⟩ := exists_cut hany
  obtain ⟨first, more, hfirst, -⟩ := hcut.first
  obtain ⟨front, last, hlast, -⟩ := hcut.last
  -- the body is a part of the text, after `upTo` and before `rest`
  obtain ⟨upTo, rest, bs, hsource, hbody, -⟩ := exists_place hcut.run_eq text₂
  obtain ⟨hstart, hslice⟩ :=
    @slice_locate upTo rest bs first last front more (hbody ▸ hfirst) (hbody ▸ hlast)
  rw [← hsource] at hslice
  have hbs : body.map Located.toFragment = bs := by rw [hbody, map_toFragment_locate]
  have hhead? : body.head? = some first := by rw [hfirst]; rfl
  have hlast? : body.getLast? = some last := by rw [hlast]; simp
  rw [ofRun?_map_piece, hcut.head?_filter, hcut.getLast?_filter, hhead?, hlast?]
  refine ⟨_, rfl, ?_⟩
  constructor
  case start_eq => rw [← List.head?_filter, hcut.head?_filter, hhead?]; rfl
  case line_eq => exact lineAt_eq _ _
  case start_le =>
    show first.start ≤ _
    rw [hstart, hsource, byteSize_append, byteSize_append]
    omega
  case wording_eq =>
    have hrun : (locate (byteSize text₁) fs).map Located.toFragment =
        before.map Located.toFragment ++ body.map Located.toFragment ++
          after.map Located.toFragment := by
      rw [hcut.run_eq, List.map_append, List.map_append]
    have hsignificant (run : List Located) : (run.filter Located.isSignificant).map (·.token) =
        ((run.map Located.toFragment).filter (!·.isGap)).map Fragment.token := by
      rw [List.filter_map, List.map_map]
      rfl
    have hcomments : before.filterMap (·.token.commentText?) =
        (before.map Located.toFragment).filterMap (·.token.commentText?) := by
      rw [List.filterMap_map]
      rfl
    rw [Chunk.wording, hslice, hcut.takeWhile_eq, hcomments, hsignificant,
      map_text_filterMap_placeholder?, ← hbs,
      hrun, hcut.framed.wording_eq, hcut.framed.filterMap_placeholderText?, hcut.framed.filter_eq]

/-! ## Excerpts -/

/-- A statement with the comments above it, in a file. -/
structure Excerpt where
  path : String
  /-- The text of the file. -/
  source : String
  fragments : List Fragment
  /-- The offset in bytes where the statement starts, after the comments. -/
  start : Nat

namespace Excerpt

/-- The text of the excerpt alone. -/
def text (e : Excerpt) : String := String.ofList (join e.fragments)

/-- The excerpt of a run of tokens between semicolons. A run of gaps has none. -/
def ofRun? (path source : String) (run : List Located) : Option Excerpt :=
  (run.find? Located.isSignificant).map fun first =>
    ⟨path, source, excerpt (run.map Located.toFragment), first.start⟩

end Excerpt

/-- The excerpts of a text, in the order of the text. A text without tokens has none. -/
def excerpts (d : Dialect) (path source : String) : List Excerpt :=
  match fragments? d source with
  | none => []
  | some fs => ((locate 0 fs).splitOnP Located.isSemicolon).filterMap (Excerpt.ofRun? path source)

/-- The chunk is the statement of the excerpt. -/
structure Excerpt.Holds (e : Excerpt) (path source : String) (c : Chunk) : Prop where
  path_eq : e.path = path
  source_eq : e.source = source
  start_eq : e.start = c.start
  line_eq : c.line = (Position.ofOffset source.toList c.start).line
  start_le : c.start ≤ byteSize source.toList
  wording_eq : c.wording = Fragment.wording e.fragments

/-- The wording of a run is that of its excerpt. -/
theorem wording_excerpt_run {run : List Located} (h : run.any Located.isSignificant = true) :
    wording (excerpt (run.map Located.toFragment)) = wording (run.map Located.toFragment) := by
  obtain ⟨before, body, after, hcut⟩ := exists_cut h
  rw [hcut.run_eq, List.map_append, List.map_append]
  exact hcut.framed.wording_excerpt

variable {d : Dialect} {path source : String} {ls : List Lexeme} {fs : List Fragment}

theorem exists_tells_of_infix {source : List Char} (h : Tiles source ls fs) {run : List Located}
    (hrun : run <:+: locate 0 fs) (hany : run.any Located.isSignificant = true) :
    ∃ c, Chunk.ofRun? source (run.map Located.piece) = some c ∧ c.Tells source run := by
  obtain ⟨xs, ys, hxs⟩ := hrun
  have hlocate : locate (byteSize []) fs = xs ++ run ++ ys := hxs.symm
  obtain ⟨upTo, rest, gs, hsource, rfl, -⟩ := exists_place hlocate []
  have htext : source = upTo ++ join gs ++ rest := by
    rw [← hsource, List.append_nil, List.nil_append]
    exact h.source_eq
  rw [htext]
  exact exists_tells hany

/-- A run has both an excerpt and a statement, or neither. -/
theorem holds_ofRun? (h : Tiles source.toList ls fs) {run : List Located}
    (hrun : run <:+: locate 0 fs) :
    (Excerpt.ofRun? path source run = none ∧
        Chunk.ofRun? source.toList (run.map Located.piece) = none) ∨
      ∃ e c, Excerpt.ofRun? path source run = some e ∧
        Chunk.ofRun? source.toList (run.map Located.piece) = some c ∧ e.Holds path source c := by
  by_cases hany : run.any Located.isSignificant = true
  · obtain ⟨c, hc, htells⟩ := exists_tells_of_infix h hrun hany
    obtain ⟨first, hfirst⟩ :=
      Option.isSome_iff_exists.1 (List.find?_isSome.2 (List.any_eq_true.1 hany))
    have hstart : first.start = c.start := by
      have hmap := htells.start_eq
      rwa [hfirst, Option.map_some, Option.some.injEq] at hmap
    refine .inr ⟨⟨path, source, excerpt (run.map Located.toFragment), first.start⟩, c, ?_, hc, ?_⟩
    · rw [Excerpt.ofRun?, hfirst]
      rfl
    · refine ⟨rfl, rfl, hstart, htells.line_eq, htells.start_le, ?_⟩
      rw [htells.wording_eq, wording_excerpt_run hany]
  · -- a run of gaps holds neither
    have hfind : run.find? Located.isSignificant = none := by simpa using hany
    have hfilter : run.filter Located.isSignificant = [] := by simpa using hany
    refine .inl ⟨?_, ?_⟩
    · rw [Excerpt.ofRun?, hfind]
      rfl
    · rw [ofRun?_map_piece, hfilter]
      rfl

/-- Two selections from one list that pick from the same elements. -/
theorem forall₂_filterMap {α β γ : Type} {R : β → γ → Prop} {f : α → Option β} {g : α → Option γ}
    {xs : List α} (h : ∀ x ∈ xs, (f x = none ∧ g x = none) ∨
      ∃ b c, f x = some b ∧ g x = some c ∧ R b c) :
    List.Forall₂ R (xs.filterMap f) (xs.filterMap g) := by
  induction xs with
  | nil => exact .nil
  | cons x xs ih =>
    obtain ⟨hx, hxs⟩ := List.forall_mem_cons.1 h
    obtain ⟨hf, hg⟩ | ⟨b, c, hf, hg, hR⟩ := hx
    · rw [List.filterMap_cons_none hf, List.filterMap_cons_none hg]
      exact ih hxs
    · rw [List.filterMap_cons_some hf, List.filterMap_cons_some hg]
      exact .cons hR (ih hxs)

/-- A text has an excerpt for each of its statements, in the same order. -/
theorem forall₂_holds (hls : lexemes d source = .ok ls) :
    List.Forall₂ (fun e c => Excerpt.Holds e path source c) (excerpts d path source)
      (chunks source.toList ls) := by
  obtain ⟨fs, htiles⟩ := exists_tiles_of_lexemes hls
  have hfs : fragments? d source = some fs := by
    rw [fragments?, hls, ← htiles.fragmentsOf_eq]
  rw [excerpts, hfs, chunks, htiles.pieces_eq, runs_map_piece, List.filterMap_map]
  exact forall₂_filterMap fun run hrun => holds_ofRun? htiles (infix_of_mem_splitOnP hrun)

/-- No part of a list that is cut at some elements has any of these. -/
theorem eq_false_of_mem_splitOnP {α : Type} {p : α → Bool} {xs : List α} :
    ∀ r ∈ xs.splitOnP p, ∀ x ∈ r, p x = false := by
  induction xs with
  | nil => simp [List.splitOnP_nil]
  | cons y xs ih =>
    obtain ⟨r, rs, hrs⟩ := List.exists_cons_of_ne_nil (List.splitOnP_ne_nil p xs)
    rw [List.splitOnP_cons_eq_if_modifyHead]
    rw [hrs] at ih ⊢
    split
    · exact List.forall_mem_cons.2 ⟨List.forall_mem_nil _, ih⟩
    · rename_i hy
      obtain ⟨hr, hrest⟩ := List.forall_mem_cons.1 ih
      exact List.forall_mem_cons.2 ⟨List.forall_mem_cons.2 ⟨by simpa using hy, hr⟩, hrest⟩

/-- A text without semicolons has one excerpt, unless it is all gaps. -/
theorem exists_excerpts_eq_singleton (hfs : fragments? d source = some fs)
    (hsemicolon : ∀ f ∈ fs, f.token ≠ .symbol ";") (hsignificant : ∃ f ∈ fs, f.isGap = false) :
    ∃ start, excerpts d path source = [⟨path, source, excerpt fs, start⟩] := by
  have htoken {x : Located} (hx : x ∈ locate 0 fs) : x.toFragment ∈ fs :=
    (within_of_mem_locate hx).1
  have hwhole : (locate 0 fs).splitOnP Located.isSemicolon = [locate 0 fs] :=
    List.splitOnP_eq_singleton fun x hx => by
      -- there is no semicolon to split at, so all fragments form one run
      simpa [Located.isSemicolon] using hsemicolon _ (htoken hx)
  have hfound : ((locate 0 fs).find? Located.isSignificant).isSome := by
    obtain ⟨f, hf, hgap⟩ := hsignificant
    rw [← map_toFragment_locate 0 fs] at hf
    obtain ⟨x, hx, rfl⟩ := List.mem_map.1 hf
    exact List.find?_isSome.2 ⟨x, hx, by simpa [Located.isSignificant, isGap] using hgap⟩
  obtain ⟨first, hfirst⟩ := Option.isSome_iff_exists.1 hfound
  have hof : Excerpt.ofRun? path source (locate 0 fs) =
      some ⟨path, source, excerpt fs, first.start⟩ := by
    rw [Excerpt.ofRun?, hfirst, map_toFragment_locate]
    rfl
  refine ⟨first.start, ?_⟩
  rw [excerpts, hfs]
  dsimp only
  rw [hwhole, List.filterMap_cons_some hof]
  rfl

/-- An excerpt that is read alone as in its file has one excerpt, itself. -/
theorem exists_excerpts_text {e : Excerpt} (he : e ∈ excerpts d path source)
    (halone : fragments? d e.text = some e.fragments) (path' : String) :
    ∃ e', excerpts d path' e.text = [e'] ∧ e'.fragments = e.fragments := by
  unfold excerpts at he
  split at he
  · cases he
  · obtain ⟨run, hrun, hof⟩ := List.mem_filterMap.1 he
    obtain ⟨first, hfirst, rfl⟩ := Option.map_eq_some_iff.1 hof
    dsimp only at halone ⊢
    obtain ⟨before, body, after, hcut⟩ :=
      exists_cut (List.any_eq_true.2 ⟨first, List.mem_of_find?_eq_some hfirst,
        List.find?_some hfirst⟩)
    have hmap : run.map Located.toFragment = before.map Located.toFragment ++
        body.map Located.toFragment ++ after.map Located.toFragment := by
      rw [hcut.run_eq, List.map_append, List.map_append]
    have hexcerpt := hcut.framed.excerpt_eq
    have hagain := hcut.framed.excerpt_excerpt
    rw [← hmap] at hexcerpt hagain
    -- no fragment of the excerpt is a semicolon, since none of the run is
    have hsub : ∀ f ∈ excerpt (run.map Located.toFragment), f ∈ run.map Located.toFragment := by
      intro f hf
      rw [hexcerpt, List.mem_append] at hf
      rw [hmap, List.mem_append, List.mem_append]
      exact .inl (hf.imp_left (List.dropWhile_sublist _).mem)
    obtain ⟨start, hstart⟩ := @exists_excerpts_eq_singleton d path' _ _ halone
      (fun f hf => by
        obtain ⟨x, hx, rfl⟩ := List.mem_map.1 (hsub f hf)
        simpa [Located.isSemicolon] using eq_false_of_mem_splitOnP run hrun x hx)
      (by
        obtain ⟨f, rest, hbody, hf⟩ := hcut.framed.first
        exact ⟨f, by simp [hexcerpt, hbody], hf⟩)
    exact ⟨_, hstart, hagain⟩

end TypedSql.Sql
