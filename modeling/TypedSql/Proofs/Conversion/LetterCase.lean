import TypedSql.Proofs.Conversion.Shape
import TypedSql.Proofs.Conversion.Simulation
import TypedSql.Proofs.Conversion.TypeArguments
import TypedSql.Proofs.Queries.Locations

/-!
# Letter case

The letter case of names is of no account to MySQL. Statements that differ in it alone come to the
same tree, or both to an error of the same kind.

- **Names of types**: a name is lower-cased as a whole, and without a capital sigma part by part
- **Types**: types that differ in the letter case of their names are one type
- **Statements**: what may differ between two statements
- **Conversions**: what both come to, wherever they stand
-/

namespace TypedSql.Sql

open TypedSql.Text

/-! ## Names of types -/

theorem doubleQuotes_append {quote : Char} {cs : List Char} (h : quote ∉ cs) (hne : cs ≠ [])
    (previous : Char) (rest : List Char) :
    doubleQuotes quote previous (cs ++ rest) = cs ++ doubleQuotes quote (cs.getLast hne) rest := by
  induction cs generalizing previous with
  | nil => exact absurd rfl hne
  | cons c cs ih =>
    obtain ⟨hc, hcs⟩ := List.ne_and_not_mem_of_not_mem_cons h
    rw [List.cons_append, doubleQuotes.eq_def, List.cons_append]
    simp only [if_neg (Ne.symm hc)]
    cases cs with
    | nil => rfl
    | cons d ds => rw [ih hcs (List.cons_ne_nil d ds), List.getLast_cons (List.cons_ne_nil d ds)]

theorem lowerChar_ne_nil (c : Char) : lowerChar c ≠ [] := by
  rw [lowerChar]
  split
  · simp
  · split
    · simp
    · split <;> simp

/-- Quotes are doubled in a lower-cased text where they are doubled in the text. -/
theorem flatMap_lowerChar_doubleQuotes {quote : Char} (hquote : IsMark quote) {p p' : Char}
    (hp : p = '\\' ↔ p' = '\\') (cs : List Char) :
    (doubleQuotes quote p cs).flatMap lowerChar = doubleQuotes quote p' (cs.flatMap lowerChar) := by
  have hself := lowerChar_of_isMark hquote
  fun_induction doubleQuotes quote p cs generalizing p' with
  | case1 => rfl
  | case2 cs ih =>
    rw [List.flatMap_cons, List.flatMap_cons, hself, ih hp, List.singleton_append,
      List.singleton_append, doubleQuotes.eq_def quote p' (quote :: _)]
    simp [hp.mp rfl]
  | case3 p hprevious =>
    simp [hself, doubleQuotes, mt hp.mpr hprevious]
  | case4 p hprevious ds ih =>
    simp only [List.flatMap_cons, hself, List.singleton_append, ih Iff.rfl]
    rw [doubleQuotes, if_pos rfl, if_neg (mt hp.mpr hprevious)]
    simp
  | case5 p hprevious d ds hd ih =>
    -- the form of the next character is not the quote either
    have hnext : ∃ x xs, (d :: ds).flatMap lowerChar = x :: xs ∧ x ≠ quote := by
      obtain ⟨x, xs, hx⟩ := List.exists_cons_of_ne_nil (lowerChar_ne_nil d)
      refine ⟨x, xs ++ ds.flatMap lowerChar, by rw [List.flatMap_cons, hx, List.cons_append], ?_⟩
      rintro rfl
      exact hd ((mem_lowerChar_iff hquote).mp (hx ▸ List.mem_cons_self))
    have hrest : (doubleQuotes quote quote (d :: ds)).flatMap lowerChar =
        doubleQuotes quote quote ((d :: ds).flatMap lowerChar) := ih Iff.rfl
    obtain ⟨x, xs, hx, hne⟩ := hnext
    rw [List.flatMap_cons, List.flatMap_cons, hrest, List.flatMap_cons (x := quote), hself, hx]
    simp [doubleQuotes, mt hp.mpr hprevious, hne]
  | case6 p c cs hc ih =>
    have hnot : quote ∉ lowerChar c := fun h => hc ((mem_lowerChar_iff hquote).mp h)
    have hlast : c = '\\' ↔ (lowerChar c).getLast (lowerChar_ne_nil c) = '\\' := by
      have hbackslash : IsMark '\\' := by decide
      constructor
      · rintro rfl
        rfl
      · intro h
        exact (mem_lowerChar_iff hbackslash).mp (h ▸ List.getLast_mem _)
    -- a backslash before a quote is one in either text
    rw [List.flatMap_cons, List.flatMap_cons, ih hlast,
      doubleQuotes_append hnot (lowerChar_ne_nil c)]

theorem mem_of_mem_doubleQuotes {quote p x : Char} {cs : List Char}
    (h : x ∈ doubleQuotes quote p cs) : x ∈ cs := by
  fun_induction doubleQuotes quote p cs <;> grind

/-- An identifier with the text in lower case. -/
def Ident.lowered (i : Ident) : Ident := { i with text := lower i.text }

/-- An identifier that is lower-cased one character at a time. -/
def Ident.IsPlain (i : Ident) : Prop := 'Σ' ∉ i.text.toList ∧ ∀ mark ∈ i.quote, IsMark mark

theorem flatMap_lowerChar_render {i : Ident} (h : i.IsPlain) :
    i.render.toList.flatMap lowerChar = i.lowered.render.toList := by
  obtain ⟨text, quote⟩ := i
  have htext : (lower text).toList = text.toList.flatMap lowerChar := by
    rw [lower, String.toList_ofList, lowerFrom_of_not_mem h.1]
  cases quote with
  | none => exact htext.symm
  | some mark =>
    have hmark : IsMark mark := h.2 mark rfl
    have hdoubled := flatMap_lowerChar_doubleQuotes hmark (Iff.refl ('\x00' = '\\')) text.toList
    simp [Ident.render, Ident.lowered, betweenQuotes, quotesDoubled, htext, hdoubled,
      lowerChar_of_isMark hmark]

theorem not_mem_render {i : Ident} (h : i.IsPlain) : 'Σ' ∉ i.render.toList := by
  obtain ⟨text, quote⟩ := i
  cases quote with
  | none => exact h.1
  | some mark =>
    have hmark : 'Σ' ≠ mark := fun hm => absurd (h.2 mark rfl).2.1 (by rw [← hm]; decide)
    have hdoubled : 'Σ' ∉ doubleQuotes mark '\x00' text.toList :=
      fun hmem => h.1 (mem_of_mem_doubleQuotes hmem)
    simp [Ident.render, betweenQuotes, quotesDoubled, hmark, hdoubled]

/-- A name without a capital sigma is lower-cased part by part. -/
theorem lower_nameText {name : ObjectName} (h : ∀ i ∈ name, i.IsPlain) :
    lower (nameText name) = nameText (name.map Ident.lowered) := by
  -- no capital sigma stands in a plain name, so its letters are lowered one by one
  have hparts : ∀ {name : ObjectName}, (∀ i ∈ name, i.IsPlain) →
      'Σ' ∉ (nameText name).toList ∧
        (nameText name).toList.flatMap lowerChar = (nameText (name.map Ident.lowered)).toList := by
    intro name h
    induction name with
    | nil => exact ⟨by decide, rfl⟩
    | cons i is ih =>
      have hi := h i List.mem_cons_self
      cases is with
      | nil => exact ⟨not_mem_render hi, flatMap_lowerChar_render hi⟩
      | cons j js =>
        obtain ⟨hmem, hlower⟩ := ih fun k hk => h k (List.mem_cons_of_mem _ hk)
        have hperiod : lowerChar '.' = ['.'] := by decide
        simp only [nameText, List.map_cons, separated, String.toList_append] at *
        constructor
        · simp [not_mem_render hi, hmem]
        · rw [List.flatMap_append, List.flatMap_append, hlower, flatMap_lowerChar_render hi]
          simp [hperiod]
  obtain ⟨hmem, hlower⟩ := hparts h
  rw [lower, lowerFrom_of_not_mem hmem, hlower, String.ofList_toList]

/-- The same name but for letter case: in lower case it is the same as a whole, or it is the same
part by part and has no capital sigma. -/
inductive ObjectName.SameLetters (name name' : ObjectName) : Prop
  | whole (h : lower (nameText name) = lower (nameText name'))
  | parts (h : name.map Ident.lowered = name'.map Ident.lowered) (hplain : ∀ i ∈ name, i.IsPlain)
    (hplain' : ∀ i ∈ name', i.IsPlain)

theorem ObjectName.SameLetters.lower_eq {name name' : ObjectName} (h : name.SameLetters name') :
    lower (nameText name) = lower (nameText name') := by
  cases h with
  | whole h => exact h
  | parts h hplain hplain' => rw [lower_nameText hplain, lower_nameText hplain', h]

/-! ## Types -/

/-- The same type but for the letter case of its name. -/
inductive DataType.SameLetters : DataType → DataType → Prop
  | keywords (type : DataType) : DataType.SameLetters type type
  | named (modifiers : List String) {name name' : ObjectName} (h : name.SameLetters name') :
    DataType.SameLetters (.named name modifiers) (.named name' modifiers)
  | array (size : Option Nat) {element element' : DataType}
    (h : DataType.SameLetters element element') :
    DataType.SameLetters (.array element size) (.array element' size)
  | angleArray {element element' : DataType} (h : DataType.SameLetters element element') :
    DataType.SameLetters (.angleArray element) (.angleArray element')

end TypedSql.Sql

namespace TypedSql.Canonical

open TypedSql.Text

theorem lower_render {t t' : Sql.DataType} (h : t.SameLetters t') :
    lower t.render = lower t'.render := by
  have hlower {text text' : String} (h : lower text = lower text') :
      lowerFrom [] text.toList = lowerFrom [] text'.toList := by
    simpa [lower] using congrArg String.toList h
  induction h with
  | keywords type => rfl
  | named modifiers h =>
    rw [lower, lower, lowerFrom_named, lowerFrom_named, hlower h.lower_eq]
  | array size _ ih => rw [lower, lower, lowerFrom_array, lowerFrom_array, hlower ih]
  | angleArray _ ih => rw [lower, lower, lowerFrom_angleArray, lowerFrom_angleArray, hlower ih]

/-- No more brackets are taken off than half as many as there are characters. -/
theorem dropBrackets_eq {n m : Nat} {cs : List Char} (hn : cs.length ≤ 2 * n)
    (hm : cs.length ≤ 2 * m) : dropBrackets n cs = dropBrackets m cs := by
  have hempty (k : Nat) : dropBrackets k [] = ([], false) := by cases k <;> rfl
  induction n generalizing m cs with
  | zero =>
    cases List.length_eq_zero_iff.mp (Nat.le_zero.mp hn)
    rw [hempty, hempty]
  | succ n ih =>
    cases m with
    | zero =>
      cases List.length_eq_zero_iff.mp (Nat.le_zero.mp hm)
      rw [hempty, hempty]
    | succ m =>
      rw [dropBrackets, dropBrackets]
      split
      · next inside hinside =>
        split
        · next x before hbefore =>
          -- both brackets are gone in what is left
          have htrimmed : inside.length + 1 ≤ cs.length := by
            have hlength := congrArg List.length hinside
            have hle : (trimEnd cs).length ≤ cs.length := by
              simpa [trimEnd] using List.length_dropWhile_le isBlank cs.reverse
            simp only [List.length_reverse, List.length_cons] at hlength
            omega
          have hrest : before.length + 1 ≤ inside.length := by
            have hle := List.length_dropWhile_le (· ≠ '[') inside
            rw [hbefore, List.length_cons] at hle
            exact hle
          have hlength : before.reverse.length + 2 ≤ cs.length := by
            rw [List.length_reverse]
            omega
          rw [ih (m := m) (by omega) (by omega)]
        · rfl
      · rfl

/-- The letter case of a type does not matter. -/
theorem typeOf_congr_lower {t t' : Sql.DataType} (h : lower t.render = lower t'.render)
    (d : Dialect) : typeOf d t = typeOf d t' := by
  have hlength (text : String) : (lower text).toList.length ≤ 2 * text.length := by
    simpa [lower, String.length_toList] using length_lowerFrom_le [] text.toList
  have hsplit : splitType t.render = splitType t'.render := by
    have hbrackets := dropBrackets_eq (hlength t.render) (h ▸ hlength t'.render)
    rw [splitType, splitType, hbrackets, h]
  cases d <;> simp only [typeOf, hsplit]

/-! ## Statements -/

/-- Names and types may differ in letter case. A text without canonical form may differ in anything
but its placeholders. -/
def letterCase : Sql.Variation where
  ident i i' := lower i.text = lower i'.text
  type := Sql.DataType.SameLetters
  text text text' := Conversion.placeholdersOf .mysql text = Conversion.placeholdersOf .mysql text'
  tested _ _ := False

/-- Errors of one kind. The names that they are about may differ in letter case. -/
inductive ConversionError.SameKind : ConversionError → ConversionError → Prop
  | same (e : ConversionError) : ConversionError.SameKind e e
  | tableName {name name' : Sql.ObjectName} (h : Sql.ObjectName.Varies letterCase name name') :
    ConversionError.SameKind (.tableName name) (.tableName name')
  | insertTarget {name name' : Sql.ObjectName} (h : Sql.ObjectName.Varies letterCase name name') :
    ConversionError.SameKind (.insertTarget name) (.insertTarget name')

namespace Conversion

variable {α : Type}

/-- Two runs from one state. -/
def inOneState (s : Setting) : Comparison := ⟨s, s, Eq, ConversionError.SameKind⟩

theorem sim_inOneState (s : Setting) (c : Conversion α) : Sim (inOneState s) Eq c c := by
  rintro p _ rfl
  show Agrees (inOneState s) Eq (c.run s p) (c.run s p)
  rcases c.run s p with ⟨e | a, q⟩
  · exact .error (.same e) rfl
  · exact .ok rfl rfl

theorem fits_letterCase {s : Setting} (hs : s.dialect = .mysql) :
    (inOneState s).Fits letterCase .identity where
  dialect := rfl
  order := .inl rfl
  location := rfl
  sameError := .same
  tableName _ _ := .tableName
  insertTarget _ _ := .insertTarget
  ident i i' h := by
    -- MySQL folds an identifier by lower-casing it, in quotes or not
    have hfold (i : Sql.Ident) : fold s.dialect i = lower i.text := by rw [hs, fold]; simp
    exact ⟨by rw [inOneState, hfold, hfold]; exact h, h⟩
  type t t' h := typeOf_congr_lower (lower_render h) _
  sameText _ := rfl
  note construct := sim_inOneState s (note construct)
  param text := by
    rintro p _ rfl
    show Agrees (inOneState s) (Node.Similar .identity) ((param text).run s p)
      ((param text).run s p)
    rcases hrun : (param text).run s p with ⟨e | n, q⟩
    · exact .error (.same e) rfl
    · have hn := ensures_param text s p n q hrun
      cases n with
      | param number location => exact .ok (.param rfl) rfl
      | _ => cases hn
  text text text' h := by
    refine sim_dialect.bind ?_
    rintro _ _ ⟨rfl, rfl⟩
    have htext : placeholdersOf s.dialect text = placeholdersOf s.dialect text' := by
      rw [hs]
      exact h
    show Sim (inOneState s) Eq (params (placeholdersOf s.dialect text))
      (params (placeholdersOf s.dialect text'))
    rw [htext]
    exact sim_inOneState s _
  noParams := rfl
  tested _ _ h := h.elim

/-- Statements that differ in letter case come to the same from the same state on. -/
theorem run_statement_letterCase {t t' : Sql.Statement} (h : t.Varies letterCase t')
    {s : Setting} (hs : s.dialect = .mysql) (p : Progress) :
    Agrees (inOneState s) Eq ((statement t).run s p) ((statement t').run s p) :=
  Agrees.imp (sim_statement (fits_letterCase hs) h p p rfl) Node.eq_of_similar

end Conversion

/-- Both conversions come to related trees, or both to an error of one kind. -/
inductive Corresponding (R : Converted → Converted → Prop) :
    Except ConversionError Converted → Except ConversionError Converted → Prop
  | ok {c c' : Converted} (h : R c c') : Corresponding R (.ok c) (.ok c')
  | error {e e' : ConversionError} (h : e.SameKind e') : Corresponding R (.error e) (.error e')

/-- The letter case of the names in a statement of MySQL is of no account to what the statement is
converted to. -/
theorem convert_letterCase {s s' : Sql.ScriptStatement} (htree : s.tree.Varies letterCase s'.tree)
    (hlimit : s.limitComma = s'.limitComma) (hstart : s.start = s'.start)
    (hplaceholders : s.placeholders = s'.placeholders) :
    Corresponding (fun c c' => c.node = c'.node ∧ c.unsupported = c'.unsupported)
      (convert .mysql s) (convert .mysql s') := by
  have hruns := Conversion.run_statement_letterCase htree
    (s := ⟨.mysql, s.start, s.limitComma⟩) rfl (.start s.placeholders)
  rw [convert, convert, ← hlimit, ← hstart, ← hplaceholders]
  generalize (Conversion.statement s.tree).run _ _ = r at hruns
  generalize (Conversion.statement s'.tree).run _ _ = r' at hruns
  cases hruns with
  | ok hn hp => exact .ok ⟨hn, congrArg Progress.unsupported hp⟩
  | error he _ => exact .error he

/-- A statement in another letter case at another place is converted to the tree with the locations
of that place. -/
theorem convert_letterCase_moved {s s' : Sql.ScriptStatement}
    (htree : s.tree.Varies letterCase s'.tree) (hlimit : s.limitComma = s'.limitComma)
    {f : Nat → Nat} (hstart : f s.start = s'.start)
    (hplaceholders : s.placeholders.map (move f) = s'.placeholders) :
    Corresponding (fun c c' => c.node.relocate f = c'.node ∧ c.unsupported = c'.unsupported)
      (convert .mysql s) (convert .mysql s') := by
  have hruns := Conversion.run_statement_letterCase htree
    (s := ⟨.mysql, s.start, s.limitComma⟩) rfl (.start s.placeholders)
  -- the second tree at the place of the first one, and then moved
  have hmoved := Conversion.moves_statement (f := f) s'.tree ⟨.mysql, s.start, s.limitComma⟩
    (.start s.placeholders)
  have hplace : (Conversion.statement s'.tree).run ⟨.mysql, f s.start, s.limitComma⟩
      (.start (s.placeholders.map (move f))) = _ := hmoved
  rw [convert, convert, ← hlimit, ← hstart, ← hplaceholders, hplace]
  generalize (Conversion.statement s.tree).run _ _ = r at hruns
  generalize (Conversion.statement s'.tree).run ⟨.mysql, s.start, s.limitComma⟩ _ = r' at hruns
  cases hruns with
  | ok hn hp => exact .ok ⟨congrArg (Node.relocate f) hn, congrArg Progress.unsupported hp⟩
  | error he _ => exact .error he

/-- A statement in another letter case is converted to the same form, wherever it stands. -/
theorem form_convert_letterCase {s s' : Sql.ScriptStatement}
    (htree : s.tree.Varies letterCase s'.tree) (hlimit : s.limitComma = s'.limitComma)
    (hplaceholders : s.placeholders.map Sql.Placeholder.text =
      s'.placeholders.map Sql.Placeholder.text) :
    Corresponding (fun c c' => c.form = c'.form) (convert .mysql s) (convert .mysql s') := by
  -- the second tree at the place of the first statement
  let placed : Sql.ScriptStatement := { s with tree := s'.tree }
  have hplaced : Corresponding (fun c c' => c.node = c'.node ∧ c.unsupported = c'.unsupported)
      (convert .mysql s) (convert .mysql placed) := convert_letterCase htree rfl rfl rfl
  have hform : (convert .mysql placed).map Converted.form =
      (convert .mysql s').map Converted.form :=
    map_form_convert_congr .mysql rfl hlimit hplaceholders
  generalize convert .mysql placed = r at hplaced hform
  generalize convert .mysql s = first at hplaced ⊢
  generalize convert .mysql s' = r' at hform ⊢
  cases hplaced with
  | ok h =>
    cases r' with
    | error e' => cases hform
    | ok c' =>
      refine .ok ((Prod.ext ?_ h.2).trans (Except.ok.inj hform))
      exact congrArg (Node.relocate fun _ => 0) h.1
  | error h =>
    cases r' with
    | error e' => exact .error (Except.error.inj hform ▸ h)
    | ok c' => cases hform

end TypedSql.Canonical
