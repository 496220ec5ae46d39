import Mathlib.Data.List.Forall2
import TypedSql.Proofs.Text.Offsets
import TypedSql.Sql.Script

/-!
# Splitting

The statements of a file are the runs of tokens between its semicolons, one statement for each run
that has a significant token. A statement tells about its own run only.

- **Fragments**: a text as the sequence of the parts that its tokens were read from
- **Tokens of a text**: the lexer reads the whole text
- **Located fragments**: the fragments with their offsets in bytes
- **Runs**: the fragments between semicolons
- **Statements**: what a statement tells about its run
- **Files**: the statements of a whole text
-/

namespace TypedSql.Sql

open TypedSql.Text

/-! ## Fragments -/

/-- A token with the part of a text that it was read from. -/
structure Fragment where
  token : Token
  text : List Char

namespace Fragment

/-- The text that fragments make up. -/
def join (fs : List Fragment) : List Char := fs.flatMap text

@[simp] theorem join_nil : join [] = [] := rfl

@[simp] theorem join_cons (f : Fragment) (fs : List Fragment) :
    join (f :: fs) = f.text ++ join fs := rfl

@[simp] theorem join_append (fs gs : List Fragment) : join (fs ++ gs) = join fs ++ join gs :=
  List.flatMap_append

/-- The tokens of fragments that follow the position `p`, each with the position of its first
character. -/
def lexemesFrom (p : Position) : List Fragment → List Lexeme
  | [] => []
  | f :: fs => ⟨f.token, p⟩ :: lexemesFrom (p.afterText f.text) fs

/-- A significant token ends with a character that is not blank. -/
def isSolid (f : Fragment) : Bool := f.token.isGap || f.text.getLast?.any (!isBlank ·)

theorem exists_getLast?_of_isSolid {f : Fragment} (h : f.isSolid) (hgap : f.token.isGap = false) :
    ∃ c, f.text.getLast? = some c ∧ isBlank c = false := by
  simpa [isSolid, hgap, Option.any_eq_true] using h

end Fragment

/-- The fragments make up the text, and its tokens are those of the fragments. -/
structure Tiles (source : List Char) (lexemes : List Lexeme) (fs : List Fragment) : Prop where
  source_eq : source = Fragment.join fs
  lexemes_eq : lexemes = Fragment.lexemesFrom .first fs

/-! ## Tokens of a text -/

/-- What is left to skip belongs to a token already read; the fragments make up the rest. -/
theorem exists_fragments_of_scan {d : Dialect} {p : Position} {skip : Nat} {cs : List Char}
    {ls : List Lexeme} (hscan : scan d p skip cs = .ok ls) :
    ∃ skipped fs, skipped.length ≤ skip ∧ cs = skipped ++ Fragment.join fs ∧
      ls = Fragment.lexemesFrom (p.afterText skipped) fs := by
  induction cs generalizing p skip ls with
  | nil =>
    cases hscan
    exact ⟨[], [], Nat.zero_le _, rfl, rfl⟩
  | cons c cs ih =>
    cases skip with
    | succ n =>
      obtain ⟨skipped, fs, hlength, rfl, rfl⟩ := ih hscan
      exact ⟨c :: skipped, fs, Nat.succ_le_succ hlength, rfl, rfl⟩
    | zero =>
      simp only [scan] at hscan
      split at hscan
      · cases hscan
      · -- a token is read here, and what the scan skips next is the rest of its text
        rename_i t n _
        cases hrest : scan d (p.after c) (n - 1) cs with
        | error e => simp [hrest, Except.map] at hscan
        | ok rest =>
          simp only [hrest, Except.map, Except.ok.injEq] at hscan
          obtain ⟨read, fs, -, rfl, rfl⟩ := ih hrest
          exact ⟨[], ⟨t, c :: read⟩ :: fs, Nat.le_refl 0, rfl, hscan.symm⟩

/-- The tokens of a text are those of fragments that make up the whole of it. -/
theorem exists_tiles_of_lexemes {d : Dialect} {text : String} {ls : List Lexeme}
    (hlexemes : lexemes d text = .ok ls) : ∃ fs, Tiles text.toList ls fs := by
  obtain ⟨skipped, fs, hlength, hsource, hls⟩ := exists_fragments_of_scan hlexemes
  obtain rfl : skipped = [] := List.length_eq_zero_iff.1 (Nat.le_zero.1 hlength)
  exact ⟨fs, hsource, hls⟩

/-! ## Located fragments -/

/-- A fragment with the offset in bytes where it starts. -/
structure Located extends Fragment where
  start : Nat

namespace Located

/-- The offset where the fragment ends. -/
def stop (x : Located) : Nat := x.start + byteSize x.text

/-- Whether the grammar sees the token. -/
def isSignificant (x : Located) : Bool := !x.token.isGap

/-- Whether the token ends a statement. -/
def isSemicolon (x : Located) : Bool := x.token = .symbol ";"

/-- The placeholder that the token is. -/
def placeholder? (x : Located) : Option Placeholder :=
  match x.token with
  | .placeholder text => some ⟨text, x.start⟩
  | _ => none

/-- The token with its offsets. -/
def piece (x : Located) : Piece := ⟨x.token, x.start, x.stop⟩

end Located

namespace Fragment

/-- The fragments with their offsets, in a text where they follow `start` bytes. -/
def locate (start : Nat) : List Fragment → List Located
  | [] => []
  | f :: fs => ⟨f, start⟩ :: locate (start + byteSize f.text) fs

theorem locate_append (start : Nat) (fs gs : List Fragment) :
    locate start (fs ++ gs) = locate start fs ++ locate (start + byteSize (join fs)) gs := by
  induction fs generalizing start with
  | nil => rfl
  | cons f fs ih => simp [locate, ih, Nat.add_assoc]

@[simp] theorem map_toFragment_locate (start : Nat) (fs : List Fragment) :
    (locate start fs).map Located.toFragment = fs := by
  induction fs generalizing start with
  | nil => rfl
  | cons f fs ih => simp [locate, ih]

/-- A part of the located fragments holds some of the fragments, located after those before it. -/
theorem eq_locate_of_append {start : Nat} {fs : List Fragment} {xs ys : List Located}
    (h : locate start fs = xs ++ ys) :
    xs = locate start (xs.map Located.toFragment) ∧
      ys = locate (start + byteSize (join (xs.map Located.toFragment)))
        (ys.map Located.toFragment) := by
  have hfs : fs = xs.map Located.toFragment ++ ys.map Located.toFragment := by
    rw [← List.map_append, ← h, map_toFragment_locate]
  -- the first part is as long as what it is located from, so the two lists are cut at one place
  have hlength : (locate start (xs.map Located.toFragment)).length = xs.length := by
    have hmap := congrArg List.length
      (map_toFragment_locate start (xs.map Located.toFragment))
    rwa [List.length_map, List.length_map] at hmap
  rw [hfs, locate_append] at h
  obtain ⟨hxs, hys⟩ := List.append_inj h hlength
  exact ⟨hxs.symm, hys.symm⟩

theorem getLast?_locate {start : Nat} {fs : List Fragment} (h : fs ≠ []) :
    (locate start fs).getLast?.map Located.stop = some (start + byteSize (join fs)) := by
  obtain ⟨init, f, rfl⟩ := List.eq_nil_or_concat fs |>.resolve_left h
  simp [locate_append, locate, Located.stop, Nat.add_assoc]

/-- A located fragment lies in the range of the fragments that it is one of. -/
theorem within_of_mem_locate {start : Nat} {fs : List Fragment} {x : Located}
    (hx : x ∈ locate start fs) :
    x.toFragment ∈ fs ∧ start ≤ x.start ∧ x.stop ≤ start + byteSize (join fs) := by
  obtain ⟨xs, ys, hsplit⟩ := List.append_of_mem hx
  have hmem : x.toFragment ∈ (locate start fs).map Located.toFragment :=
    List.mem_map_of_mem hx
  -- what follows the fragments before it starts where they end
  obtain ⟨-, hback⟩ := eq_locate_of_append hsplit
  have hstart : x.start = start + byteSize (join (xs.map Located.toFragment)) :=
    congrArg Located.start (List.cons.inj hback).1
  have hfs : fs = xs.map Located.toFragment ++ x.toFragment :: ys.map Located.toFragment := by
    rw [← map_toFragment_locate start fs, hsplit, List.map_append, List.map_cons]
  have hsize := congrArg (byteSize ∘ join) hfs
  simp only [Function.comp_apply, join_append, join_cons, byteSize_append] at hsize
  refine ⟨by simpa using hmem, by omega, ?_⟩
  rw [Located.stop]
  omega

end Fragment

open Fragment

/-- A part of the located fragments of a text, with the text on either side of it. -/
theorem exists_place {text₁ : List Char} {fs : List Fragment} {xs part ys : List Located}
    (h : locate (byteSize text₁) fs = xs ++ part ++ ys) (text₂ : List Char) :
    ∃ upTo rest gs, text₁ ++ join fs ++ text₂ = upTo ++ join gs ++ rest ∧
      part = locate (byteSize upTo) gs ∧ ∀ g ∈ gs, g ∈ fs := by
  have hfs : fs = xs.map Located.toFragment ++ part.map Located.toFragment ++
      ys.map Located.toFragment := by
    rw [← List.map_append, ← List.map_append, ← h, map_toFragment_locate]
  -- the part starts behind the text before it, and behind the fragments before it
  have hpart : part = locate (byteSize (text₁ ++ join (xs.map Located.toFragment)))
      (part.map Located.toFragment) := by
    rw [List.append_assoc] at h
    obtain ⟨-, hrest⟩ := eq_locate_of_append h
    rw [List.map_append, ← byteSize_append] at hrest
    exact (eq_locate_of_append hrest.symm).1
  refine ⟨text₁ ++ join (xs.map Located.toFragment), join (ys.map Located.toFragment) ++ text₂,
    part.map Located.toFragment, ?_, hpart, fun g hg => ?_⟩
  · conv_lhs => rw [hfs]
    simp [List.append_assoc]
  · rw [hfs]
    simp [hg]

/-- The offsets that the positions of the tokens stand for are those of the fragments. -/
theorem pieces_lexemesFrom (before : List Char) (fs : List Fragment) :
    pieces (before ++ join fs) (lexemesFrom (Position.first.afterText before) fs) =
      (locate (byteSize before) fs).map Located.piece := by
  induction fs generalizing before with
  | nil => rfl
  | cons f fs ih =>
    -- a piece ends where the next one starts, and the last one at the end of the text
    have hstart := Position.offset_afterText before (join (f :: fs))
    cases fs with
    | nil => simpa [lexemesFrom, locate, pieces, Located.piece, Located.stop] using hstart
    | cons g gs =>
      have hrest := ih (before ++ f.text)
      have hnext := Position.offset_afterText (before ++ f.text) (join (g :: gs))
      simp only [join_cons, List.append_assoc, Position.afterText_append, byteSize_append,
        lexemesFrom, locate] at hstart hnext hrest ⊢
      simp only [pieces, List.map_cons, hstart, hnext, hrest, Located.piece, Located.stop]

/-- The tokens of a tiled text with their offsets. -/
theorem Tiles.pieces_eq {source : List Char} {lexemes : List Lexeme} {fs : List Fragment}
    (h : Tiles source lexemes fs) : pieces source lexemes = (locate 0 fs).map Located.piece := by
  rw [h.source_eq, h.lexemes_eq]
  exact pieces_lexemesFrom [] fs

/-! ## Runs -/

theorem runs_map_piece (xs : List Located) :
    runs (xs.map Located.piece) =
      (xs.splitOnP Located.isSemicolon).map (List.map Located.piece) := by
  induction xs with
  | nil => rfl
  | cons x xs ih =>
    rw [List.splitOnP_cons_eq_if_modifyHead, List.map_cons, runs, ih]
    by_cases hx : x.token = .symbol ";"
    · simp [Located.isSemicolon, Located.piece, hx]
    · obtain ⟨r, rs, hrs⟩ := List.exists_cons_of_ne_nil
        (List.splitOnP_ne_nil Located.isSemicolon xs)
      simp [Located.isSemicolon, Located.piece, hx, hrs]

/-- The runs of a list lie in the list, and the first one is at its front. -/
theorem infix_of_splitOnP_eq {p : Located → Bool} {xs r : List Located} {rs : List (List Located)}
    (h : xs.splitOnP p = r :: rs) : r <+: xs ∧ ∀ r' ∈ rs, r' <:+: xs := by
  induction xs generalizing r rs with
  | nil =>
    obtain ⟨rfl, rfl⟩ := List.cons.inj h
    exact ⟨List.nil_prefix, by simp⟩
  | cons x xs ih =>
    obtain ⟨s, ss, hss⟩ := List.exists_cons_of_ne_nil (List.splitOnP_ne_nil p xs)
    obtain ⟨hs, hrest⟩ := ih hss
    rw [List.splitOnP_cons_eq_if_modifyHead, hss] at h
    split at h
    · -- the run ends at the separator and the next one begins behind it
      obtain ⟨rfl, rfl⟩ := List.cons.inj h
      refine ⟨List.nil_prefix, fun r' hr' => List.infix_cons ?_⟩
      obtain rfl | hr' := List.mem_cons.1 hr'
      · exact hs.isInfix
      · exact hrest r' hr'
    · -- what is no separator is put before the first run
      obtain ⟨rfl, rfl⟩ := List.cons.inj h
      exact ⟨List.cons_prefix_cons.2 ⟨rfl, hs⟩, fun r' hr' => List.infix_cons (hrest r' hr')⟩

theorem infix_of_mem_splitOnP {p : Located → Bool} {xs r : List Located}
    (h : r ∈ xs.splitOnP p) : r <:+: xs := by
  obtain ⟨s, ss, hss⟩ := List.exists_cons_of_ne_nil (List.splitOnP_ne_nil p xs)
  obtain ⟨hs, hrest⟩ := infix_of_splitOnP_eq hss
  rw [hss] at h
  obtain rfl | h := List.mem_cons.1 h
  · exact hs.isInfix
  · exact hrest r h

/-! ## Statements -/

/-- A run of tokens cut into the gaps before its statement, the statement from its first to its last
significant token, and the gaps after it. -/
structure Cut (run before body after : List Located) : Prop where
  run_eq : run = before ++ body ++ after
  before_gaps : ∀ x ∈ before, x.isSignificant = false
  after_gaps : ∀ x ∈ after, x.isSignificant = false
  first : ∃ x rest, body = x :: rest ∧ x.isSignificant = true
  last : ∃ rest x, body = rest ++ [x] ∧ x.isSignificant = true

theorem exists_cut {run : List Located} (h : run.any Located.isSignificant = true) :
    ∃ before body after, Cut run before body after := by
  obtain ⟨x, hfind⟩ := Option.isSome_iff_exists.1 (List.find?_isSome.2 (List.any_eq_true.1 h))
  obtain ⟨hx, before, rest, rfl, hbefore⟩ := List.find?_eq_some_iff_append.1 hfind
  -- the last significant token is the first one from the other end
  have hrest : ((x :: rest).reverse.find? Located.isSignificant).isSome :=
    List.find?_isSome.2 ⟨x, by simp, hx⟩
  obtain ⟨y, hfind⟩ := Option.isSome_iff_exists.1 hrest
  obtain ⟨hy, after, front, hreverse, hafter⟩ := List.find?_eq_some_iff_append.1 hfind
  have hsplit : x :: rest = front.reverse ++ [y] ++ after.reverse := by
    have hback := congrArg List.reverse hreverse
    simpa using hback
  refine ⟨before, front.reverse ++ [y], after.reverse, ?_, ?_, ?_, ?_, ⟨_, y, rfl, hy⟩⟩
  · rw [hsplit, List.append_assoc before]
  · exact fun z hz => by simpa using hbefore z hz
  · exact fun z hz => by simpa using hafter z (List.mem_reverse.1 hz)
  · cases hfront : front.reverse with
    | nil => exact ⟨y, [], rfl, hy⟩
    | cons z zs =>
      rw [hfront] at hsplit
      obtain ⟨rfl, -⟩ := List.cons.inj hsplit
      exact ⟨x, zs ++ [y], rfl, hx⟩

namespace Cut

variable {run before body after : List Located}

theorem filter_eq (h : Cut run before body after) :
    run.filter Located.isSignificant = body.filter Located.isSignificant := by
  have hnone (xs : List Located) (hxs : ∀ x ∈ xs, x.isSignificant = false) :
      xs.filter Located.isSignificant = [] :=
    List.filter_eq_nil_iff.2 fun x hx => by simp [hxs x hx]
  rw [h.run_eq, List.filter_append, List.filter_append, hnone before h.before_gaps,
    hnone after h.after_gaps, List.nil_append, List.append_nil]

theorem head?_filter (h : Cut run before body after) :
    (run.filter Located.isSignificant).head? = body.head? := by
  obtain ⟨x, rest, hbody, hx⟩ := h.first
  rw [h.filter_eq, hbody, List.filter_cons_of_pos hx]
  rfl

theorem getLast?_filter (h : Cut run before body after) :
    (run.filter Located.isSignificant).getLast? = body.getLast? := by
  obtain ⟨rest, x, hbody, hx⟩ := h.last
  simp [h.filter_eq, hbody, List.filter_append, hx]

theorem takeWhile_eq (h : Cut run before body after) :
    run.takeWhile (!·.isSignificant) = before := by
  obtain ⟨x, rest, hbody, hx⟩ := h.first
  rw [h.run_eq, List.append_assoc, List.takeWhile_append_of_pos (by simpa using h.before_gaps),
    hbody]
  simp [hx]

end Cut

/-- What a statement tells about its run, which is cut into `before`, `body` and `after`. -/
structure Reports (source : List Char) (run before body : List Located) (c : Chunk) : Prop where
  /-- The statement starts where its first significant token does. -/
  start_eq : body.head?.map Located.start = some c.start
  /-- It ends where its last significant token does. -/
  stop_eq : body.getLast?.map Located.stop = some (c.start + byteSize c.text.toList)
  /-- It has the text and the line that lie at its start. -/
  place : ∃ upTo rest, source = upTo ++ c.text.toList ++ rest ∧ byteSize upTo = c.start ∧
    c.line = upTo.count '\n' + 1
  comments_eq : c.comments = before.filterMap (·.token.commentText?)
  placeholders_eq : c.placeholders = run.filterMap Located.placeholder?
  /-- The placeholders lie in the range of the statement. -/
  placeholders_within : ∀ p ∈ c.placeholders,
    c.start ≤ p.offset ∧ p.offset < c.start + byteSize c.text.toList
  /-- A LIMIT with a comma after its first operand is one of the run's own. -/
  limitComma_iff : c.limitComma = true ↔ ∃ front limit first back,
    (run.filter Located.isSignificant).map (·.token) =
        front ++ limit :: first :: .symbol "," :: back ∧
      limit.keyword = "LIMIT" ∧ first.keyword ≠ "LIMIT"

/-- The chunk is the statement of the run and tells nothing about any other run. -/
def StatementOf (source : List Char) (run : List Located) (c : Chunk) : Prop :=
  ∃ before body after, Cut run before body after ∧ Reports source run before body c

theorem trimEnd_eq_self {cs : List Char} {c : Char} (hlast : cs.getLast? = some c)
    (hc : isBlank c = false) : trimEnd cs = cs := by
  obtain ⟨init, rfl⟩ := List.getLast?_eq_some_iff.1 hlast
  simp [trimEnd, hc]

/-- The flag of a statement is set by any LIMIT in it, on whichever level: a comma stands after the
token that follows the LIMIT. -/
theorem hasLimitComma_iff (ts : List Token) :
    hasLimitComma ts = true ↔ ∃ before limit first after,
      ts = before ++ limit :: first :: .symbol "," :: after ∧ limit.keyword = "LIMIT" ∧
        first.keyword ≠ "LIMIT" := by
  fun_induction hasLimitComma ts with
  -- the three tokens in front are the ones asked for, or they are to be found further on
  | case1 a b c ts ih =>
    rw [Bool.or_eq_true, ih]
    constructor
    · rintro (h | ⟨before, limit, first, after, hts, h⟩)
      · simp only [Bool.and_eq_true, decide_eq_true_eq] at h
        obtain ⟨⟨hlimit, hfirst⟩, rfl⟩ := h
        exact ⟨[], a, b, ts, rfl, hlimit, hfirst⟩
      · exact ⟨a :: before, limit, first, after, by rw [hts]; rfl, h⟩
    · rintro ⟨before, limit, first, after, hts, hlimit, hfirst⟩
      cases before with
      | nil =>
        obtain ⟨rfl, rfl, rfl, rfl⟩ : a = limit ∧ b = first ∧ c = .symbol "," ∧ ts = after := by
          simpa using hts
        exact .inl (by simp [hlimit, hfirst])
      | cons x before =>
        exact .inr ⟨before, limit, first, after, (List.cons.inj hts).2, hlimit, hfirst⟩
  | case2 ts h =>
    simp only [Bool.false_eq_true, false_iff]
    rintro ⟨before, limit, first, after, rfl, -⟩
    rcases before with _ | ⟨x, _ | ⟨y, _ | ⟨z, before⟩⟩⟩ <;> exact h _ _ _ _ rfl

theorem isSignificant_of_placeholder? {x : Located} {p : Placeholder}
    (h : x.placeholder? = some p) : x.isSignificant = true ∧ p.offset = x.start := by
  unfold Located.placeholder? at h
  split at h
  · rename_i text htoken
    cases h
    exact ⟨by simp [Located.isSignificant, htoken, Token.isGap], rfl⟩
  · cases h

/-- Only significant tokens are placeholders. -/
theorem filterMap_placeholder?_filter (run : List Located) :
    (run.filter Located.isSignificant).filterMap Located.placeholder? =
      run.filterMap Located.placeholder? := by
  rw [List.filterMap_filter]
  refine List.filterMap_congr fun x _ => ?_
  cases hx : x.placeholder? with
  | none => simp
  | some p => simp [(isSignificant_of_placeholder? hx).1]

/-- What the statement of a run is made from. -/
theorem ofRun?_map_piece (source : List Char) (run : List Located) :
    Chunk.ofRun? source (run.map Located.piece) =
      match (run.filter Located.isSignificant).head?,
        (run.filter Located.isSignificant).getLast? with
      | some first, some last => some {
          text := String.ofList (trimEnd (slice first.start last.stop source))
          start := first.start
          line := lineAt source first.start
          comments := (run.takeWhile (!·.isSignificant)).filterMap (·.token.commentText?)
          placeholders := run.filterMap Located.placeholder?
          limitComma := hasLimitComma ((run.filter Located.isSignificant).map (·.token)) }
      | _, _ => none := by
  -- a piece is significant if its fragment is, so filtering and placing the pieces commute
  have hseen : (run.map Located.piece).filter Piece.isSignificant =
      (run.filter Located.isSignificant).map Located.piece := List.filter_map
  have hlead : (run.map Located.piece).takeWhile (!·.isSignificant) =
      (run.takeWhile (!·.isSignificant)).map Located.piece := List.takeWhile_map ..
  have hplaceholders : ((run.filter Located.isSignificant).map Located.piece).filterMap
      Piece.placeholder? = run.filterMap Located.placeholder? := by
    rw [List.filterMap_map]
    exact filterMap_placeholder?_filter run
  simp only [Chunk.ofRun?, hseen, hlead, hplaceholders, List.head?_map, List.getLast?_map,
    List.filterMap_map, List.map_map]
  cases (run.filter Located.isSignificant).head? <;>
    cases (run.filter Located.isSignificant).getLast? <;> rfl

/-- The text from the first significant token of a run to the last one is the body of the run:
nothing is trimmed off. -/
theorem trimEnd_join {bs : List Fragment} {front : List Fragment} {f : Fragment}
    (hbs : bs = front ++ [f]) (hsolid : f.isSolid) (hgap : f.token.isGap = false) :
    trimEnd (join bs) = join bs := by
  obtain ⟨c, hlast, hc⟩ := exists_getLast?_of_isSolid hsolid hgap
  refine trimEnd_eq_self (c := c) ?_ hc
  simp [hbs, List.getLast?_append, hlast]

/-- Every placeholder of a run is one of a token in its body. -/
theorem Cut.exists_of_mem_placeholders {run before body after : List Located}
    (h : Cut run before body after) {p : Placeholder}
    (hp : p ∈ run.filterMap Located.placeholder?) :
    ∃ x ∈ body, x.isSignificant = true ∧ p.offset = x.start := by
  rw [← filterMap_placeholder?_filter, h.filter_eq] at hp
  obtain ⟨x, hx, hplaceholder⟩ := List.mem_filterMap.1 hp
  obtain ⟨hmem, hsig⟩ := List.mem_filter.1 hx
  exact ⟨x, hmem, hsig, (isSignificant_of_placeholder? hplaceholder).2⟩

/-- A run with a significant token holds one statement, which tells about that run. -/
theorem exists_statementOf {text₁ text₂ : List Char} {fs : List Fragment}
    (hany : (locate (byteSize text₁) fs).any Located.isSignificant = true)
    (hsolid : ∀ f ∈ fs, f.isSolid) :
    ∃ c, Chunk.ofRun? (text₁ ++ join fs ++ text₂)
        ((locate (byteSize text₁) fs).map Located.piece) = some c ∧
      StatementOf (text₁ ++ join fs ++ text₂) (locate (byteSize text₁) fs) c := by
  obtain ⟨before, body, after, hcut⟩ := exists_cut hany
  obtain ⟨first, more, hfirst, -⟩ := hcut.first
  obtain ⟨front, last, hlast, hsig⟩ := hcut.last
  -- the body is a part of the text again, after `upTo` and before `rest`
  obtain ⟨upTo, rest, bs, hsource, hbody, hbs⟩ := exists_place hcut.run_eq text₂
  have hfragments : bs = front.map Located.toFragment ++ [last.toFragment] := by
    rw [← map_toFragment_locate (byteSize upTo) bs, ← hbody, hlast, List.map_append]
    rfl
  have hhead : body.head?.map Located.start = some (byteSize upTo) := by
    cases bs with
    | nil => simp at hfragments
    | cons f fs => rw [hbody]; rfl
  have hend : body.getLast?.map Located.stop = some (byteSize upTo + byteSize (join bs)) := by
    rw [hbody]
    exact getLast?_locate (by simp [hfragments])
  have htext : trimEnd (join bs) = join bs :=
    trimEnd_join hfragments (hsolid _ (hbs _ (by simp [hfragments])))
      (by simpa [Located.isSignificant] using hsig)
  have hstart : first.start = byteSize upTo := by simpa [hfirst] using hhead
  have hstop : last.stop = byteSize upTo + byteSize (join bs) := by simpa [hlast] using hend
  have hslice : trimEnd (slice first.start last.stop (upTo ++ join bs ++ rest)) = join bs := by
    rw [hstart, hstop, slice_append, htext]
  have hhead? : body.head? = some first := by rw [hfirst]; rfl
  have hlast? : body.getLast? = some last := by simp [hlast]
  rw [hsource, ofRun?_map_piece, hcut.head?_filter, hcut.getLast?_filter, hhead?, hlast?]
  simp only [hslice]
  refine ⟨_, rfl, before, body, after, hcut, ?_⟩
  constructor
  case start_eq => rw [hhead, hstart]
  case stop_eq => rw [hend, hstart, String.toList_ofList]
  case place =>
    refine ⟨upTo, rest, by rw [String.toList_ofList], hstart.symm, ?_⟩
    simp only [lineAt, hstart]
    rw [List.append_assoc, takeBytes?_append]
    rfl
  case comments_eq => rw [hcut.takeWhile_eq]
  case placeholders_eq => rfl
  case placeholders_within =>
    intro p hp
    obtain ⟨x, hx, hxsig, hoffset⟩ := hcut.exists_of_mem_placeholders hp
    rw [hbody] at hx
    obtain ⟨hmem, hfrom, hupTo⟩ := within_of_mem_locate hx
    -- a placeholder is significant, so it has a text and starts before the body ends
    obtain ⟨c, hc, -⟩ := exists_getLast?_of_isSolid (hsolid _ (hbs _ hmem))
      (by simpa [Located.isSignificant] using hxsig)
    have hpos : 0 < byteSize x.text := byteSize_pos fun hnil => by simp [hnil] at hc
    rw [Located.stop] at hupTo
    simp only [String.toList_ofList, hoffset, hstart]
    omega
  case limitComma_iff => exact hasLimitComma_iff _

/-! ## Files -/

variable {source : List Char} {ls : List Lexeme} {fs : List Fragment}

theorem exists_statementOf_of_infix (h : Tiles source ls fs) (hsolid : ∀ f ∈ fs, f.isSolid)
    {run : List Located} (hrun : run <:+: locate 0 fs)
    (hany : run.any Located.isSignificant = true) :
    ∃ c, Chunk.ofRun? source (run.map Located.piece) = some c ∧ StatementOf source run c := by
  obtain ⟨xs, ys, hxs⟩ := hrun
  have hlocate : locate (byteSize []) fs = xs ++ run ++ ys := hxs.symm
  obtain ⟨upTo, rest, gs, hsource, rfl, hgs⟩ := exists_place hlocate []
  have htext : source = upTo ++ join gs ++ rest := by
    rw [← hsource, List.append_nil, List.nil_append]
    exact h.source_eq
  rw [htext]
  exact exists_statementOf hany fun g hg => hsolid g (hgs g hg)

/-- Two statements with comments, a LIMIT with a comma, and a run of comments between them. -/
def notedScript : List Fragment :=
  [⟨.lineComment "--" " é\n", "-- é\n".toList⟩, ⟨.word "SELECT" "SELECT" none, "SELECT".toList⟩,
    ⟨.blank, [' ']⟩, ⟨.string .single "ä", "'ä'".toList⟩, ⟨.symbol ",", [',']⟩,
    ⟨.placeholder "?", ['?']⟩, ⟨.blank, [' ']⟩, ⟨.word "LIMIT" "LIMIT" none, "LIMIT".toList⟩,
    ⟨.blank, [' ']⟩, ⟨.placeholder "?", ['?']⟩, ⟨.symbol ",", [',']⟩, ⟨.number "1" false, ['1']⟩,
    ⟨.symbol ";", [';']⟩, ⟨.blockComment "-", "/*-*/".toList⟩, ⟨.symbol ";", [';']⟩,
    ⟨.blank, ['\n']⟩, ⟨.lineComment "#" "ü\n", "#ü\n".toList⟩,
    ⟨.word "SELECT" "SELECT" none, "SELECT".toList⟩, ⟨.blank, [' ']⟩, ⟨.placeholder "?", ['?']⟩,
    ⟨.blank, [' ']⟩, ⟨.blockComment "x", "/*x*/".toList⟩]

example :
    (chunks (join notedScript) (lexemesFrom .first notedScript)).map Chunk.start = [6, 41] := by
  decide

end TypedSql.Sql
