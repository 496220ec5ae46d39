import TypedSql.Proofs.Text.Offsets
import TypedSql.Sql.Script

/-!
# Places in a text

An offset between two characters and a line with a column are two names for one place: each leads
to the other and back. The line that a script records for a statement is the one that the offset of
the statement lies on.

- **Boundaries**: the offsets between characters
- **Lines**: the columns of a line, as places between characters
- **Locations**: the line and the column of an offset
- **Statements**: what a script records
-/

namespace TypedSql

open Text

/-! ## Boundaries -/

namespace Text

theorem byteSize_toList (s : String) : byteSize s.toList = s.utf8ByteSize := by
  obtain ⟨cs, rfl⟩ := s.exists_eq_ofList
  rw [String.toList_ofList]
  induction cs with
  | nil => rfl
  | cons c cs ih =>
    have hsplit : String.ofList (c :: cs) = String.singleton c ++ String.ofList cs := by
      rw [String.singleton_eq_ofList, ← String.ofList_append, List.singleton_append]
    rw [byteSize_cons, ih, hsplit, String.utf8ByteSize_append, String.utf8ByteSize_singleton]

/-- An offset lies between characters if the text splits there. -/
theorem isValid_iff_exists_split {source : String} {o : Nat} :
    (⟨o⟩ : String.Pos.Raw).IsValid source ↔
      ∃ before after, source.toList = before ++ after ∧ byteSize before = o := by
  rw [String.Pos.Raw.isValid_iff_exists_append]
  constructor
  · rintro ⟨before, after, rfl, ho⟩
    refine ⟨before.toList, after.toList, String.toList_append, ?_⟩
    rw [byteSize_toList]
    exact (congrArg String.Pos.Raw.byteIdx ho).symm
  · rintro ⟨before, after, hsource, rfl⟩
    refine ⟨String.ofList before, String.ofList after, ?_, ?_⟩
    · rw [← String.ofList_append, ← hsource, String.ofList_toList]
    · rw [← String.toList_ofList (l := before), byteSize_toList, String.toList_ofList]
      rfl

namespace Position

theorem exists_of_skipLines {n skipped start : Nat} {cs rest : List Char}
    (h : skipLines n skipped cs = some (start, rest)) :
    ∃ lines, cs = lines ++ rest ∧ start = skipped + byteSize lines := by
  induction cs generalizing n skipped with
  | nil =>
    cases n with
    | zero =>
      cases h
      exact ⟨[], rfl, rfl⟩
    | succ n => cases h
  | cons c cs ih =>
    cases n with
    | zero =>
      cases h
      exact ⟨[], rfl, rfl⟩
    | succ n =>
      obtain ⟨lines, rfl, rfl⟩ := ih h
      exact ⟨c :: lines, rfl, by rw [byteSize_cons, Nat.add_assoc]⟩

/-- Whatever the position, its offset lies between characters. -/
theorem exists_split (p : Position) (cs : List Char) :
    ∃ before after, cs = before ++ after ∧ byteSize before = p.offset cs := by
  rw [offset]
  cases hskip : skipLines (p.line - 1) 0 cs with
  | none => exact ⟨cs, [], (List.append_nil cs).symm, rfl⟩
  | some found =>
    obtain ⟨start, rest⟩ := found
    obtain ⟨lines, rfl, rfl⟩ := exists_of_skipLines hskip
    refine ⟨lines ++ rest.take (p.column - 1), rest.drop (p.column - 1), ?_, ?_⟩
    · rw [List.append_assoc, List.take_append_drop]
    · rw [byteSize_append, Nat.zero_add]

theorem isValid_offset (p : Position) (source : String) :
    (⟨p.offset source.toList⟩ : String.Pos.Raw).IsValid source :=
  isValid_iff_exists_split.mpr (p.exists_split source.toList)

end Position

/-! ## Lines -/

theorem WholeLines.cons {c : Char} {cs : List Char} (h : WholeLines cs)
    (hc : cs = [] → c = '\n') : WholeLines (c :: cs) := by
  right
  obtain rfl | hlast := h
  · simp [hc rfl]
  · rw [List.getLast?_cons, hlast]
    rfl

theorem WholeLines.eq_nil_of_count {cs : List Char} (h : WholeLines cs)
    (hcount : cs.count '\n' = 0) : cs = [] := by
  obtain h | hlast := h
  · exact h
  · exact absurd (List.mem_of_getLast? hlast) (List.count_eq_zero.mp hcount)

/-- A line of a text stands behind whole lines, as many as its number says. -/
theorem exists_lines {cs line : List Char} {n : Nat} (h : (cs.splitOn '\n')[n]? = some line) :
    ∃ lines after, cs = lines ++ line ++ after ∧ WholeLines lines ∧ lines.count '\n' = n ∧
      '\n' ∉ line := by
  induction cs generalizing n line with
  | nil =>
    obtain ⟨rfl, rfl⟩ : n = 0 ∧ line = [] := by
      cases n <;> simp_all
    exact ⟨[], [], rfl, .inl rfl, rfl, List.not_mem_nil⟩
  | cons c cs ih =>
    rw [List.splitOn_cons_eq_if_modifyHead] at h
    by_cases hc : c = '\n'
    · subst hc
      rw [if_pos (beq_self_eq_true _)] at h
      cases n with
      | zero =>
        -- the first line ends at once
        obtain rfl : [] = line := by simpa using h
        exact ⟨[], '\n' :: cs, rfl, .inl rfl, rfl, List.not_mem_nil⟩
      | succ n =>
        obtain ⟨lines, after, rfl, hlines, hcount, hline⟩ := ih (by simpa using h)
        exact ⟨'\n' :: lines, after, rfl, hlines.cons fun _ => rfl, by simp [hcount], hline⟩
    · -- the character belongs to the first line that the rest of the text splits into
      obtain ⟨first, more, hsplit⟩ := List.exists_cons_of_ne_nil (List.splitOn_ne_nil '\n' cs)
      rw [if_neg (by simpa using hc), hsplit, List.modifyHead_cons] at h
      cases n with
      | zero =>
        obtain rfl : c :: first = line := by simpa using h
        have hfirst : (cs.splitOn '\n')[0]? = some first := by rw [hsplit, List.getElem?_cons_zero]
        obtain ⟨lines, after, rfl, hlines, hcount, hline⟩ := ih hfirst
        obtain rfl := hlines.eq_nil_of_count hcount
        exact ⟨[], after, rfl, .inl rfl, rfl, by simp [hline, Ne.symm hc]⟩
      | succ n =>
        have hlater : (cs.splitOn '\n')[n + 1]? = some line := by
          rw [hsplit]
          exact h
        obtain ⟨lines, after, rfl, hlines, hcount, hline⟩ := ih hlater
        have hne : lines ≠ [] := by
          rintro rfl
          cases hcount
        exact ⟨c :: lines, after, rfl, hlines.cons fun hnil => absurd hnil hne,
          by simp [hc, hcount], hline⟩

/-- A column of a line, up to the one after its last character, is a place between characters. -/
theorem exists_place_of_line {cs line : List Char} {n column : Nat}
    (h : (cs.splitOn '\n')[n]? = some line) (hcolumn : column ≤ line.length) :
    ∃ before after, cs = before ++ after ∧
      Position.first.afterText before = ⟨n + 1, column + 1⟩ := by
  obtain ⟨lines, after, rfl, hlines, rfl, hline⟩ := exists_lines h
  refine ⟨lines ++ line.take column, line.drop column ++ after, ?_, ?_⟩
  · rw [List.append_assoc, List.append_assoc, ← List.append_assoc (line.take column),
      List.take_append_drop]
  · have hpart : '\n' ∉ line.take column := fun hmem => hline (List.mem_of_mem_take hmem)
    rw [Position.afterText_append, hlines.afterText, Position.afterText_of_notMem hpart,
      List.length_take, Nat.min_eq_left hcolumn, Nat.add_comm 1]

end Text

/-! ## Locations -/

/-- The location between two parts of a text is where the first part ends. -/
theorem Location.ofOffset_byteSize {source : String} {before after : List Char}
    (h : source.toList = before ++ after) (file : String) :
    Location.ofOffset file source (byteSize before) =
      ⟨file, some (Position.first.afterText before).line,
        some (Position.first.afterText before).column, some (byteSize before)⟩ := by
  have hposition : Position.ofOffset source.toList (byteSize before) =
      Position.first.afterText before := by
    rw [Position.ofOffset, h, takeBytes?_append]
    rfl
  have hmin : min (byteSize before) (byteSize source.toList) = byteSize before := by
    rw [h, byteSize_append]
    exact Nat.min_eq_left (Nat.le_add_right _ _)
  rw [Location.ofOffset, hposition, hmin]

/-- The line of a location is the line that the offset lies on. -/
theorem Location.line_ofOffset (file source : String) (o : Nat) :
    (Location.ofOffset file source o).line = some (Sql.lineAt source.toList o) := by
  rw [Location.ofOffset, Position.ofOffset, Position.line_afterText, Sql.lineAt]
  exact congrArg some (Nat.add_comm _ _)

/-! ## Statements -/

namespace Sql

/-- The offset at which the text of an entry of a script starts. -/
def Script.startOf : Except Rejection ScriptStatement → Nat
  | .ok s => s.start
  | .error r => r.start

/-- The line that is recorded for an entry of a script. -/
def Script.lineOf : Except Rejection ScriptStatement → Nat
  | .ok s => s.line
  | .error r => r.line

theorem exists_start_of_mem_pieces {source : List Char} {ls : List Lexeme} {p : Piece}
    (h : p ∈ pieces source ls) : ∃ q : Position, p.start = q.offset source := by
  fun_induction pieces source ls with
  | case1 => cases h
  | case2 x =>
    rw [List.mem_singleton.mp h]
    exact ⟨x.start, rfl⟩
  | case3 x y rest ih =>
    obtain rfl | h := List.mem_cons.mp h
    · exact ⟨x.start, rfl⟩
    · exact ih h

/-- A run holds tokens of the text only. -/
theorem mem_of_mem_runs {ps run : List Piece} {p : Piece} (hrun : run ∈ runs ps) (hp : p ∈ run) :
    p ∈ ps := by
  induction ps generalizing run with
  | nil =>
    rw [List.mem_singleton.mp hrun] at hp
    cases hp
  | cons q ps ih =>
    rw [runs] at hrun
    split at hrun
    · -- a semicolon is in no run
      obtain rfl | hrun := List.mem_cons.mp hrun
      · cases hp
      · exact List.mem_cons_of_mem q (ih hrun hp)
    · split at hrun
      · -- the token is put in front of the first run
        rename_i r rs hrs
        obtain rfl | hrun := List.mem_cons.mp hrun
        · obtain rfl | hp := List.mem_cons.mp hp
          · exact List.mem_cons_self
          · exact List.mem_cons_of_mem q (ih (hrs ▸ List.mem_cons_self) hp)
        · exact List.mem_cons_of_mem q (ih (hrs ▸ List.mem_cons_of_mem r hrun) hp)
      · rw [List.mem_singleton.mp hrun, List.mem_singleton] at hp
        exact hp ▸ List.mem_cons_self

/-- The text of a run starts where one of its tokens does, on the line of that place. -/
theorem Chunk.starts_of_ofRun? {source : List Char} {run : List Piece} {c : Chunk}
    (h : Chunk.ofRun? source run = some c) :
    (∃ p ∈ run, c.start = p.start) ∧ c.line = lineAt source c.start := by
  rw [Chunk.ofRun?] at h
  split at h
  · rename_i first last hfirst hlast
    cases h
    exact ⟨⟨first, (List.mem_filter.mp (List.mem_of_mem_head? hfirst)).1, rfl⟩, rfl⟩
  · cases h

theorem Chunk.starts_of_mem_chunks {source : List Char} {ls : List Lexeme} {c : Chunk}
    (h : c ∈ chunks source ls) :
    (∃ q : Position, c.start = q.offset source) ∧ c.line = lineAt source c.start := by
  obtain ⟨run, hrun, hc⟩ := List.mem_filterMap.mp h
  obtain ⟨⟨p, hp, hstart⟩, hline⟩ := starts_of_ofRun? hc
  obtain ⟨q, hq⟩ := exists_start_of_mem_pieces (mem_of_mem_runs hrun hp)
  exact ⟨⟨q, hstart.trans hq⟩, hline⟩

namespace Script

theorem startOf_parse (d : Dialect) (path : Option String) (c : Chunk) :
    startOf (c.parse d path) = c.start ∧ lineOf (c.parse d path) = c.line := by
  rw [Chunk.parse]
  cases parseStatement d c.text <;> exact ⟨rfl, rfl⟩

/-- An entry starts between characters, on the line that is recorded for it. -/
theorem starts_of_mem_entries {d : Dialect} {path : Option String} {source : String}
    {e : Except Rejection ScriptStatement} (he : e ∈ (parse d path source).entries) :
    (⟨startOf e⟩ : String.Pos.Raw).IsValid source ∧
      lineOf e = lineAt source.toList (startOf e) := by
  rw [parse] at he
  cases hls : lexemes d source with
  | error _ =>
    -- a text without tokens is rejected at its start
    rw [hls] at he
    rw [List.mem_singleton.mp he]
    refine ⟨isValid_iff_exists_split.mpr ⟨[], source.toList, rfl, rfl⟩, ?_⟩
    cases hsource : source.toList <;> rfl
  | ok ls =>
    rw [hls] at he
    obtain ⟨c, hc, rfl⟩ := List.mem_map.mp he
    obtain ⟨⟨q, hstart⟩, hline⟩ := Chunk.starts_of_mem_chunks hc
    obtain ⟨hstart', hline'⟩ := startOf_parse d path c
    rw [hstart', hline']
    exact ⟨hstart ▸ q.isValid_offset source, hline⟩

end Script

end Sql

/-- Offsets and positions are inverse to each other: the location of an offset between characters
has the line and the column that stand for the offset, and a line of the text with a column up to
the one after its last character stands for the offset whose location has them. The line recorded
for a statement is the line of the location where it starts. -/
theorem places_inverse (file source : String) :
    (∀ o, (⟨o⟩ : String.Pos.Raw).IsValid source → ∃ p : Position,
        Location.ofOffset file source o = ⟨file, some p.line, some p.column, some o⟩ ∧
          p.offset source.toList = o) ∧
      (∀ n line column, (source.toList.splitOn '\n')[n]? = some line → column ≤ line.length →
        ∃ o, (⟨n + 1, column + 1⟩ : Position).offset source.toList = o ∧
          (⟨o⟩ : String.Pos.Raw).IsValid source ∧
          Location.ofOffset file source o = ⟨file, some (n + 1), some (column + 1), some o⟩) ∧
      ∀ d path, ∀ e ∈ (Sql.Script.parse d path source).entries,
        (⟨Sql.Script.startOf e⟩ : String.Pos.Raw).IsValid source ∧
          (Location.ofOffset file source (Sql.Script.startOf e)).line =
            some (Sql.Script.lineOf e) := by
  refine ⟨fun o ho => ?offset, fun n line column hline hcolumn => ?position,
    fun d path e he => ?statement⟩
  case offset =>
    obtain ⟨before, after, hsource, rfl⟩ := isValid_iff_exists_split.mp ho
    refine ⟨Position.first.afterText before, Location.ofOffset_byteSize hsource file, ?_⟩
    rw [hsource]
    exact Position.offset_afterText before after
  case position =>
    obtain ⟨before, after, hsource, hplace⟩ := exists_place_of_line hline hcolumn
    -- the position is where the first part ends, so its offset is the size of that part
    have hoffset : (⟨n + 1, column + 1⟩ : Position).offset source.toList = byteSize before := by
      rw [← hplace, hsource]
      exact Position.offset_afterText before after
    refine ⟨byteSize before, hoffset, isValid_iff_exists_split.mpr ⟨before, after, hsource, rfl⟩,
      ?_⟩
    rw [Location.ofOffset_byteSize hsource, hplace]
  case statement =>
    obtain ⟨hvalid, hline⟩ := Sql.Script.starts_of_mem_entries he
    exact ⟨hvalid, by rw [Location.line_ofOffset, hline]⟩

/-- A statement that does not parse, an empty line, and a statement with a line end after it. -/
def twoStatements : String := "é;\n\nSELECT '😀'\n"

theorem places_inverse_twoStatements :
    ((⟨19⟩ : String.Pos.Raw).IsValid twoStatements ∧ ∃ p : Position,
        Location.ofOffset "q.sql" twoStatements 19 =
            ⟨"q.sql", some p.line, some p.column, some 19⟩ ∧
          p.offset twoStatements.toList = 19) ∧
      ((twoStatements.toList.splitOn '\n')[2]? = some "SELECT '😀'".toList ∧
        ∃ o, (⟨3, 11⟩ : Position).offset twoStatements.toList = o ∧
          (⟨o⟩ : String.Pos.Raw).IsValid twoStatements ∧
          Location.ofOffset "q.sql" twoStatements o = ⟨"q.sql", some 3, some 11, some o⟩) ∧
      ∃ e ∈ (Sql.Script.parse .mysql none twoStatements).entries, Sql.Script.startOf e = 5 ∧
        (Location.ofOffset "q.sql" twoStatements (Sql.Script.startOf e)).line =
          some (Sql.Script.lineOf e) := by
  have hend : (⟨19⟩ : String.Pos.Raw).IsValid twoStatements :=
    isValid_iff_exists_split.mpr ⟨twoStatements.toList, [], by simp, by decide +kernel⟩
  have hline : (twoStatements.toList.splitOn '\n')[2]? = some "SELECT '😀'".toList := by
    decide +kernel
  have hstarts : (Sql.Script.parse .mysql none twoStatements).entries.map Sql.Script.startOf =
      [0, 5] := by decide +kernel
  obtain ⟨e, he, hstart⟩ := List.mem_map.mp (hstarts ▸ List.mem_cons_of_mem 0 List.mem_cons_self :
    5 ∈ (Sql.Script.parse .mysql none twoStatements).entries.map Sql.Script.startOf)
  -- the first goes there and back from an offset, the second from a position
  obtain ⟨hoffset, hposition, hstatement⟩ := places_inverse "q.sql" twoStatements
  exact ⟨⟨hend, hoffset 19 hend⟩, ⟨hline, hposition 2 _ 10 hline (by decide +kernel)⟩,
    e, he, hstart, (hstatement .mysql none e he).2⟩

end TypedSql
