import TypedSql.Proofs.Text.Trimming
import TypedSql.Sql.Header

/-!
# Header blocks

What the comment lines above a query say about it, read off the lines themselves: the last line that
names the query decides, and the other lines are documentation.

- **Lines**: the parts of a line that names a query
- **Marks**: comment lines with the marks and blanks around their texts
- **Commands**: what may follow the name of a query
- **Blocks**: what the last line with a name makes of a block
-/

namespace TypedSql.Sql

open TypedSql.Text

/-! ## Lines -/

/-- A text names a query: the word `name:`, a name without blanks, and the rest, which starts after
the blanks that end the name and stands on one line. -/
inductive NamesQuery : String → String → String → Prop
  | intro (gap name gap' rest : List Char) (hgap : AllBlank gap) (hname : IsWord name)
      (hgap' : AllBlank gap') (hsep : gap' = [] → rest = []) (hstart : StartsFull rest)
      (hline : '\n' ∉ rest) :
    NamesQuery ("name:" ++ String.ofList (gap ++ name ++ gap' ++ rest)) (String.ofList name)
      (trim (String.ofList rest))

/-- A text names some query. -/
def IsNamed (body : String) : Prop := ∃ name rest, NamesQuery body name rest

/-- A text that starts with a name falls into the name, the blanks after it and the rest. -/
theorem exists_parts (cs : List Char) :
    ∃ gap' rest, cs = cs.takeWhile (!isBlank ·) ++ gap' ++ rest ∧ AllBlank gap' ∧
      (gap' = [] → rest = []) ∧ StartsFull rest ∧
      rest = trimStart (cs.drop (cs.takeWhile (!isBlank ·)).length) := by
  have hrest : cs.drop (cs.takeWhile (!isBlank ·)).length = cs.dropWhile (!isBlank ·) := by
    have h := List.takeWhile_append_dropWhile (p := (!isBlank ·)) (l := cs)
    calc cs.drop (cs.takeWhile (!isBlank ·)).length
        = (cs.takeWhile (!isBlank ·) ++ cs.dropWhile (!isBlank ·)).drop
            (cs.takeWhile (!isBlank ·)).length := by rw [h]
      _ = cs.dropWhile (!isBlank ·) := List.drop_left
  obtain ⟨gap', hgap', hcut⟩ := exists_blank_append_trimStart (cs.dropWhile (!isBlank ·))
  refine ⟨gap', _, ?_, hgap', ?_, startsFull_trimStart _, rfl⟩
  · rw [hrest, List.append_assoc, ← hcut, List.takeWhile_append_dropWhile]
  · -- what follows the name starts with a blank, so without blanks nothing follows
    rintro rfl
    rw [hrest]
    rw [List.nil_append] at hcut
    have hfull := startsFull_trimStart (cs.dropWhile (!isBlank ·))
    rw [← hcut] at hfull ⊢
    have hblank := List.head?_dropWhile_not (!isBlank ·) cs
    cases hhead : (cs.dropWhile (!isBlank ·)) with
    | nil => rfl
    | cons c rest =>
      rw [hhead] at hfull hblank
      simp [hfull c rfl] at hblank

theorem namedQuery?_eq_some_iff {body name rest : String} :
    namedQuery? body = some (name, rest) ↔ NamesQuery body name rest := by
  constructor
  · intro h
    simp only [namedQuery?, Option.bind_eq_bind, Option.bind_eq_some_iff,
      Option.ite_none_left_eq_some, Option.some.injEq, Prod.mk.injEq, Bool.or_eq_true,
      not_or, Bool.not_eq_true] at h
    obtain ⟨after, hafter, ⟨hname, hline⟩, rfl, rfl⟩ := h
    obtain ⟨gap, hgap, hcut⟩ := exists_blank_append_trimStart after.toList
    obtain ⟨gap', rest, hparts, hgap', hsep, hstart, hrest⟩ := exists_parts (trimStart after.toList)
    rw [← hrest] at hline ⊢
    have hbody : body = "name:" ++ String.ofList (gap ++
        (trimStart after.toList).takeWhile (!isBlank ·) ++ gap' ++ rest) := by
      rw [afterPrefix?_eq_some_iff.mp hafter, List.append_assoc, List.append_assoc,
        ← List.append_assoc _ gap', ← hparts, ← hcut, String.ofList_toList]
    rw [hbody]
    refine .intro gap _ gap' rest hgap ⟨?_, fun c hc => ?_⟩ hgap' hsep hstart ?_
    · simpa using hname
    · simpa using List.mem_takeWhile_imp hc
    · simpa using hline
  · rintro ⟨gap, name, gap', rest, hgap, hname, hgap', hsep, hstart, hline⟩
    -- the scans stop where the parts do
    have hcs : trimStart (gap ++ name ++ gap' ++ rest) = name ++ (gap' ++ rest) := by
      rw [List.append_assoc, List.append_assoc, trimStart_append hgap]
      exact trimStart_of_startsFull (startsFull_append hname.startsFull hname.1 _)
    have htake : (name ++ (gap' ++ rest)).takeWhile (!isBlank ·) = name := by
      rw [List.takeWhile_append_of_pos fun c hc => by simp [hname.2 c hc]]
      cases gap' with
      | nil => simp [hsep rfl]
      | cons c gap' => simp [hgap' c List.mem_cons_self]
    have hdrop : trimStart ((name ++ (gap' ++ rest)).drop name.length) = rest := by
      rw [List.drop_left, trimStart_append hgap', trimStart_of_startsFull hstart]
    rw [namedQuery?, afterPrefix?_append]
    simp only [Option.bind_eq_bind, Option.bind_some, String.toList_ofList, hcs, htake, hdrop]
    simp [hname.1, hline]

theorem isSome_namedQuery?_iff {body : String} : (namedQuery? body).isSome ↔ IsNamed body := by
  rw [Option.isSome_iff_exists]
  constructor
  · rintro ⟨⟨name, rest⟩, h⟩
    exact ⟨name, rest, namedQuery?_eq_some_iff.mp h⟩
  · rintro ⟨name, rest, h⟩
    exact ⟨(name, rest), namedQuery?_eq_some_iff.mpr h⟩

instance (body : String) : Decidable (IsNamed body) := decidable_of_iff _ isSome_namedQuery?_iff

/-! ## Marks -/

/-- The marks around the text of a comment. -/
inductive CommentMark where
  | dashes
  | hash
  | slashes
  deriving DecidableEq

namespace CommentMark

/-- The mark before the text. -/
def opening : CommentMark → String
  | .dashes => "--"
  | .hash => "#"
  | .slashes => "/*"

/-- The mark after the text. A comment that ends with its line has none. -/
def closing : CommentMark → String
  | .dashes | .hash => ""
  | .slashes => "*/"

end CommentMark

/-- A line is a comment with a text. Blanks may stand around the marks and around the text. -/
inductive Marked (mark : CommentMark) (text : String) : String → Prop
  | intro (outer inner inner' outer' : List Char) (houter : AllBlank outer)
      (hinner : AllBlank inner) (hinner' : AllBlank inner') (houter' : AllBlank outer') :
    Marked mark text (String.ofList (outer ++
      (mark.opening.toList ++ inner ++ text.toList ++ inner' ++ mark.closing.toList) ++ outer'))

/-- What stands between the marks of a trimmed comment is its text, with blanks around it. -/
theorem commentBody_of_trim {mark : CommentMark} {line inside : String}
    (h : trim line = mark.opening ++ inside ++ mark.closing) : commentBody line = trim inside := by
  cases mark with
  | dashes => simp [commentBody, h, CommentMark.opening, CommentMark.closing, afterPrefix?_append]
  | hash =>
    have hdashes : afterPrefix? "--" ("#" ++ inside) = none := by simp [afterPrefix?]
    simp [commentBody, h, CommentMark.opening, CommentMark.closing, hdashes, afterPrefix?_append]
  | slashes =>
    -- the marks are tried one after another, and the first two do not fit
    have hdashes : afterPrefix? "--" ("/*" ++ (inside ++ "*/")) = none := by simp [afterPrefix?]
    have hhash : afterPrefix? "#" ("/*" ++ (inside ++ "*/")) = none := by simp [afterPrefix?]
    simp [commentBody, h, CommentMark.opening, CommentMark.closing, String.append_assoc, hdashes,
      hhash, afterPrefix?_append, beforeSuffix?_append]

/-- The marks of a comment are taken off with all blanks around them. -/
theorem Marked.commentBody_eq {mark : CommentMark} {text line : String} (h : Marked mark text line)
    (hne : text.toList ≠ []) (hstart : StartsFull text.toList) (hend : EndsFull text.toList) :
    commentBody line = text := by
  obtain ⟨outer, inner, inner', outer', houter, hinner, hinner', houter'⟩ := h
  have hopening : StartsFull mark.opening.toList ∧ mark.opening.toList ≠ [] := by
    cases mark <;> decide
  have hclosing : mark.closing.toList = [] ∨
      EndsFull mark.closing.toList ∧ mark.closing.toList ≠ [] := by
    cases mark <;> decide
  obtain ⟨tail, htail, htrim⟩ : ∃ tail, AllBlank tail ∧
      trim (String.ofList (outer ++
        (mark.opening.toList ++ inner ++ text.toList ++ inner' ++ mark.closing.toList) ++ outer')) =
          mark.opening ++ String.ofList (inner ++ text.toList ++ tail) ++ mark.closing := by
    rcases hclosing with hnone | ⟨hfull, hsome⟩
    · -- the blanks behind the text are those behind the line
      have hafter : AllBlank (inner' ++ outer') := fun c hc =>
        (List.mem_append.mp hc).elim (hinner' c) (houter' c)
      have hsplit :
          outer ++ (mark.opening.toList ++ inner ++ text.toList ++ inner' ++ []) ++ outer' =
            outer ++ (mark.opening.toList ++ inner ++ text.toList) ++ (inner' ++ outer') := by simp
      refine ⟨[], List.forall_mem_nil _, ?_⟩
      rw [← String.toList_inj, hnone, hsplit, trim_between houter hafter]
      · simp [String.toList_append, hnone]
      · rw [List.append_assoc]
        exact startsFull_append hopening.1 hopening.2 _
      · exact endsFull_append hend hne _
    · refine ⟨inner', hinner', ?_⟩
      rw [← String.toList_inj, trim_between houter houter']
      · simp [String.toList_append]
      · simp only [List.append_assoc]
        exact startsFull_append hopening.1 hopening.2 _
      · exact endsFull_append hfull hsome _
  rw [commentBody_of_trim htrim, trim_between hinner htail hstart hend, String.ofList_toList]

/-! ## Commands -/

/-- The first word of a text; a text of blanks has the empty one. -/
def firstWord (text : String) : String := (words text).headD ""

theorem ofName?_eq_some_iff {s : String} {command : QueryCommand} :
    QueryCommand.ofName? s = some command ↔ s = command.name := by
  constructor
  · unfold QueryCommand.ofName?
    split <;> intro h <;> cases h <;> rfl
  · rintro rfl
    cases command <;> rfl

theorem ofName?_eq_none_iff {s : String} :
    QueryCommand.ofName? s = none ↔ ∀ command : QueryCommand, s ≠ command.name := by
  rw [Option.eq_none_iff_forall_ne_some]
  exact forall_congr' fun command => not_congr ofName?_eq_some_iff

namespace Header

theorem commandOf_colon (name tail : String) :
    commandOf name (":" ++ tail) =
      match QueryCommand.ofName? (firstWord tail) with
      | some command => .ok command
      | none => .error (.unknownCommand name (firstWord tail)) := by
  rw [commandOf, afterPrefix?_append]
  rfl

theorem commandOf_of_no_colon (name : String) {rest : String} (h : ∀ tail, rest ≠ ":" ++ tail) :
    commandOf name rest = .error (.missingCommand name) := by
  rw [commandOf, afterPrefix?_eq_none_iff.mpr h]

theorem commandOf_eq_ok_iff {name rest : String} {command : QueryCommand} :
    commandOf name rest = .ok command ↔
      ∃ tail, rest = ":" ++ tail ∧ firstWord tail = command.name := by
  constructor
  · intro h
    -- the command stands behind a colon, and without one there is no command at all
    by_cases hcolon : ∃ tail, rest = ":" ++ tail
    · obtain ⟨tail, rfl⟩ := hcolon
      refine ⟨tail, rfl, ofName?_eq_some_iff.mp ?_⟩
      rw [commandOf_colon] at h
      split at h <;> cases h
      assumption
    · rw [commandOf_of_no_colon name (not_exists.mp hcolon)] at h
      cases h
  · rintro ⟨tail, rfl, hword⟩
    rw [commandOf_colon, ofName?_eq_some_iff.mpr hword]

theorem commandOf_eq_missing_iff {name rest n : String} :
    commandOf name rest = .error (.missingCommand n) ↔ n = name ∧ ∀ tail, rest ≠ ":" ++ tail := by
  constructor
  · intro h
    have hcolon : ∀ tail, rest ≠ ":" ++ tail := by
      rintro tail rfl
      rw [commandOf_colon] at h
      split at h <;> cases h
    rw [commandOf_of_no_colon name hcolon] at h
    cases h
    exact ⟨rfl, hcolon⟩
  · rintro ⟨rfl, hcolon⟩
    exact commandOf_of_no_colon n hcolon

theorem commandOf_eq_unknown_iff {name rest n word : String} :
    commandOf name rest = .error (.unknownCommand n word) ↔
      n = name ∧ ∃ tail, rest = ":" ++ tail ∧ word = firstWord tail ∧
        ∀ command : QueryCommand, word ≠ command.name := by
  constructor
  · intro h
    -- an unknown command stands behind a colon too
    by_cases hcolon : ∃ tail, rest = ":" ++ tail
    · obtain ⟨tail, rfl⟩ := hcolon
      rw [commandOf_colon] at h
      split at h <;> cases h
      next hnone => exact ⟨rfl, tail, rfl, rfl, ofName?_eq_none_iff.mp hnone⟩
    · rw [commandOf_of_no_colon name (not_exists.mp hcolon)] at h
      cases h
  · rintro ⟨rfl, tail, rfl, rfl, hword⟩
    rw [commandOf_colon, ofName?_eq_none_iff.mpr hword]

end Header

theorem firstWord_name (command : QueryCommand) : firstWord command.name = command.name := by
  have hword : IsWord command.name.toList := by cases command <;> decide
  have hwords := words_of_isWord hword
  rw [String.ofList_toList] at hwords
  rw [firstWord, hwords]
  rfl

theorem render_isWord (command : QueryCommand) : IsWord command.render.toList := by
  cases command <;> decide +kernel

/-- A text gives a name and a command to a query. Any blanks may stand before the name, and some
stand behind it. -/
inductive Announces (name : String) (command : QueryCommand) : String → Prop
  | intro (gap gap' : List Char) (hgap : AllBlank gap) (hgap' : AllBlank gap') (hne : gap' ≠ []) :
    Announces name command
      ("name:" ++ String.ofList (gap ++ name.toList ++ gap' ++ command.render.toList))

theorem Announces.namesQuery {name text : String} {command : QueryCommand}
    (h : Announces name command text) (hname : IsWord name.toList) :
    NamesQuery text name command.render := by
  obtain ⟨gap, gap', hgap, hgap', hne⟩ := h
  have hrender := render_isWord command
  have hline : '\n' ∉ command.render.toList := fun hmem => absurd (hrender.2 _ hmem) (by decide)
  have htrim : trim (String.ofList command.render.toList) = command.render := by
    have hblank : AllBlank [] := List.forall_mem_nil _
    simpa using trim_between hblank hblank hrender.startsFull hrender.endsFull
  have hquery := NamesQuery.intro gap name.toList gap' command.render.toList hgap hname hgap'
    (fun hnil => absurd hnil hne) hrender.startsFull hline
  rwa [htrim, String.ofList_toList] at hquery

/-- The marks around an announcement are taken off. -/
theorem Announces.commentBody_eq {mark : CommentMark} {name text line : String}
    {command : QueryCommand} (h : Announces name command text) (hmarked : Marked mark text line) :
    commentBody line = text := by
  obtain ⟨gap, gap', -, -, -⟩ := h
  have hrender := render_isWord command
  refine hmarked.commentBody_eq (by simp) ?_ ?_
  · have hstart : StartsFull "name:".toList := by decide
    rw [String.toList_append]
    exact startsFull_append hstart (by decide) _
  · simp only [String.toList_append, String.toList_ofList, ← List.append_assoc]
    exact endsFull_append hrender.endsFull hrender.1 _

/-! ## Blocks -/

/-- The texts of the lines that name no query. -/
def otherTexts (lines : List String) : List String :=
  (lines.map commentBody).filter fun text => ¬ IsNamed text ∧ text ≠ ""

/-- The last line of a block that names a query gives it a name, which something follows. -/
inductive LastNamed : List String → String → String → Prop
  | intro (before : List String) {line : String} {after : List String} {name rest : String}
      (hline : NamesQuery (commentBody line) name rest)
      (hafter : ∀ l ∈ after, ¬ IsNamed (commentBody l)) :
    LastNamed (before ++ line :: after) name rest

theorem filterMap_namedQuery?_eq_nil_iff {lines : List String} :
    (lines.map commentBody).filterMap namedQuery? = [] ↔
      ∀ line ∈ lines, ¬ IsNamed (commentBody line) := by
  simp only [List.filterMap_eq_nil_iff, List.forall_mem_map, ← isSome_namedQuery?_iff,
    Option.not_isSome_iff_eq_none]

theorem LastNamed.getLast? {lines : List String} {name rest : String}
    (h : LastNamed lines name rest) :
    ((lines.map commentBody).filterMap namedQuery?).getLast? = some (name, rest) := by
  obtain ⟨before, hline, hafter⟩ := h
  have hnone := filterMap_namedQuery?_eq_nil_iff.mpr hafter
  have hsome := namedQuery?_eq_some_iff.mpr hline
  rw [List.map_append, List.map_cons, List.filterMap_append, List.filterMap_cons_some hsome, hnone,
    List.getLast?_append]
  rfl

namespace Header

theorem parse_eq_none_iff {lines : List String} :
    parse lines = .ok none ↔ ∀ line ∈ lines, ¬ IsNamed (commentBody line) := by
  rw [← filterMap_namedQuery?_eq_nil_iff, ← List.getLast?_eq_none_iff, parse]
  dsimp only
  split
  · next hlast => exact iff_of_true rfl hlast
  · next name rest hlast =>
    rw [hlast]
    cases commandOf name rest <;> simp [Except.map]

/-- The last line that names a query decides. -/
theorem parse_of_lastNamed {lines : List String} {name rest : String}
    (h : LastNamed lines name rest) :
    parse lines = (commandOf name rest).map fun command =>
      some ⟨name, command, otherTexts lines⟩ := by
  -- the header keeps the texts for which the search fails and does not ask why
  have hothers : ((lines.map commentBody).filter fun text =>
      (namedQuery? text).isNone && text ≠ "") = otherTexts lines := by
    refine List.filter_congr fun text _ => ?_
    rw [Bool.eq_iff_iff]
    simp [← isSome_namedQuery?_iff]
  rw [parse]
  dsimp only
  rw [h.getLast?, ← hothers]

/-- What a block of comment lines says about its query. Without a line that names one it says
nothing. Otherwise the last such line decides: a colon and one of the six commands must follow the
name. An announcement is read back whatever its marks and its blanks, with all lines that name no
query as documentation. -/
theorem parse_block :
    (∀ lines, parse lines = .ok none ↔ ∀ line ∈ lines, ¬ IsNamed (commentBody line)) ∧
    (∀ lines name rest, LastNamed lines name rest →
      (∀ n, parse lines = .error (.missingCommand n) ↔ n = name ∧ ∀ tail, rest ≠ ":" ++ tail) ∧
      (∀ n word, parse lines = .error (.unknownCommand n word) ↔
        n = name ∧ ∃ tail, rest = ":" ++ tail ∧ word = firstWord tail ∧
          ∀ command : QueryCommand, word ≠ command.name) ∧
      (∀ header, parse lines = .ok (some header) ↔
        ∃ tail command, rest = ":" ++ tail ∧ firstWord tail = command.name ∧
          header = ⟨name, command, otherTexts lines⟩)) ∧
    (∀ mark name command before text line after, IsWord name.toList → Announces name command text →
      Marked mark text line → (∀ l ∈ after, ¬ IsNamed (commentBody l)) →
      parse (before ++ line :: after) =
        .ok (some ⟨name, command, otherTexts (before ++ line :: after)⟩)) := by
  refine ⟨fun _ => parse_eq_none_iff, fun lines name rest h => ?_, ?_⟩
  · have hparse := parse_of_lastNamed h
    -- only the command can be wrong, the name and the other texts are found before
    have herror : ∀ e, parse lines = .error e ↔ commandOf name rest = .error e := by
      intro e
      rw [hparse]
      cases commandOf name rest <;> simp [Except.map]
    refine ⟨fun n => ?_, fun n word => ?_, fun header => ?_⟩
    · rw [herror, commandOf_eq_missing_iff]
    · rw [herror, commandOf_eq_unknown_iff]
    · constructor
      · intro hok
        cases hcommand : commandOf name rest with
        | error e => rw [hparse, hcommand] at hok; cases hok
        | ok command =>
          obtain ⟨tail, hrest, hword⟩ := commandOf_eq_ok_iff.mp hcommand
          rw [hparse, hcommand] at hok
          cases hok
          exact ⟨tail, command, hrest, hword, rfl⟩
      · rintro ⟨tail, command, hrest, hword, rfl⟩
        rw [hparse, commandOf_eq_ok_iff.mpr ⟨tail, hrest, hword⟩]
        rfl
  · intro mark name command before text line after hname htext hmarked hafter
    have hline : NamesQuery (commentBody line) name command.render := by
      rw [htext.commentBody_eq hmarked]
      exact htext.namesQuery hname
    have hcommand : commandOf name command.render = .ok command :=
      commandOf_eq_ok_iff.mpr ⟨command.name, rfl, firstWord_name command⟩
    rw [parse_of_lastNamed (.intro before hline hafter), hcommand]
    rfl

/-- The last of two announcements counts, and a line that only mentions a name is documentation. -/
theorem parse_block_lastOfTwo :
    parse ["-- name: Old :one", "# Deletes stale books.", "\t/*name:  a:b#é \t:execrows */", "--",
        "-- see also name: x"] =
      .ok (some ⟨"a:b#é", .execRows, ["Deletes stale books.", "see also name: x"]⟩) ∧
    parse ["--name: a one"] = .error (.missingCommand "a") ∧
    parse ["--name: a : ones"] = .error (.unknownCommand "a" "ones") ∧
    parse ["-- names: a :one"] = .ok none := by
  have htext : Announces "a:b#é" .execRows "name:  a:b#é \t:execrows" :=
    .intro [' ', ' '] [' ', '\t'] (by decide) (by decide) (by decide)
  have hline : Marked .slashes "name:  a:b#é \t:execrows" "\t/*name:  a:b#é \t:execrows */" :=
    .intro ['\t'] [] [' '] [] (by decide) (by decide) (by decide) (by decide)
  -- the lines behind the header name no query, so the header is the last
  have hnone : ∀ l ∈ ["--", "-- see also name: x"], ¬ IsNamed (commentBody l) := by decide +kernel
  have hmissing : LastNamed ["--name: a one"] "a" "one" :=
    .intro [] (namedQuery?_eq_some_iff.mp (by decide +kernel)) (List.forall_mem_nil _)
  have hunknown : LastNamed ["--name: a : ones"] "a" ": ones" :=
    .intro [] (namedQuery?_eq_some_iff.mp (by decide +kernel)) (List.forall_mem_nil _)
  obtain ⟨hnames, hlasts, hannounced⟩ := parse_block
  refine ⟨?_, ?_, ?_, ?_⟩
  · have hothers : otherTexts ["-- name: Old :one", "# Deletes stale books.",
        "\t/*name:  a:b#é \t:execrows */", "--", "-- see also name: x"] =
          ["Deletes stale books.", "see also name: x"] := by decide +kernel
    rw [← hothers]
    exact hannounced .slashes "a:b#é" .execRows ["-- name: Old :one", "# Deletes stale books."] _ _
      ["--", "-- see also name: x"] (by decide) htext hline hnone
  · have hcolon : ∀ tail, "one" ≠ ":" ++ tail := afterPrefix?_eq_none_iff.mp (by decide)
    exact ((hlasts _ _ _ hmissing).1 "a").mpr ⟨rfl, hcolon⟩
  · have hword : ∀ command : QueryCommand, "ones" ≠ command.name :=
      ofName?_eq_none_iff.mp (by decide)
    exact ((hlasts _ _ _ hunknown).2.1 "a" "ones").mpr ⟨rfl, " ones", rfl, by decide +kernel, hword⟩
  · exact (hnames _).mpr (by decide +kernel)

end Header

end TypedSql.Sql
