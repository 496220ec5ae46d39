import TypedSql.Canonical.Naming
import TypedSql.Proofs.Text.Lowering
import TypedSql.Proofs.Text.Trimming

/-!
# Arguments of types

When the parentheses after a declared type do not matter to its canonical type: if they hold lengths
and precisions, and if the parentheses in their strings are balanced. A string with a parenthesis
that closes too much shows up in the name of the type.

- **Parts of a type**: its arguments, and the type without them
- **Parentheses**: balanced texts, and what a scan finds outside of parentheses
- **Lower-cased types**: a part at a time
- **Arrays**: the brackets behind a type are taken off
- **Members**: what a type with strings for arguments shows of them
-/

namespace TypedSql.Sql.DataType

/-! ## Parts of a type -/

/-- The type without its arguments. -/
def bare : DataType → DataType
  | .scalar before _ after => .scalar before [] after
  | .named name _ => .named name []
  | .array element size => .array element.bare size
  | .angleArray element => .angleArray element.bare

/-- The strings in the arguments: those of a member or a modifier, and the unit of a length. -/
def strings : DataType → List String
  | .scalar _ arguments _ => arguments.flatMap fun
    | .size _ | .maximum => []
    | .length _ unit => [unit]
    | .quoted text value => text :: value.toList
  | .named _ modifiers => modifiers
  | .array element _ | .angleArray element => element.strings

/-- What an array consists of in the end; a type that is no array consists of itself. -/
def core : DataType → DataType
  | .array element _ => element.core
  | type => type

/-- Whether brackets make an array of the type. -/
def isArray : DataType → Bool
  | .array _ _ => true
  | _ => false

/-- A text as keywords are written. -/
def IsKeywords (text : String) : Prop := ∀ c ∈ text.toList, c.toNat < 0x80 ∧ c ≠ ']'

instance (text : String) : Decidable (IsKeywords text) := List.decidableBAll _ text.toList

/-- A type whose keywords are words, and whose names have no brackets but in quotes. -/
def Spelled : DataType → Prop
  | .scalar before _ after => IsKeywords before ∧ IsKeywords after
  | .named name _ => ∀ i ∈ name, match i.quote with
    | none => ']' ∉ i.text.toList
    | some mark => mark ∈ ['\x60', '"', '\'']
  | .array element _ | .angleArray element => element.Spelled

theorem render_scalar (before after : String) (arguments : List TypeArgument) :
    (DataType.scalar before arguments after).render =
      before ++ textIf (!arguments.isEmpty) (parenthesised (arguments.map TypeArgument.render)) ++
        after := rfl

theorem render_named (name : ObjectName) (modifiers : List String) :
    (DataType.named name modifiers).render =
      nameText name ++ textIf (!modifiers.isEmpty) (parenthesised modifiers) := rfl

theorem render_array (element : DataType) (size : Option Nat) :
    (DataType.array element size).render =
      element.render ++ "[" ++ optional "" (size.map toString) ++ "]" := rfl

theorem render_angleArray (element : DataType) :
    (DataType.angleArray element).render = "ARRAY<" ++ element.render ++ ">" := rfl

theorem Spelled.bare {t : DataType} (h : t.Spelled) : t.bare.Spelled := by
  induction t with
  | scalar before arguments after => exact h
  | named name modifiers => exact h
  | array element size ih => exact ih h
  | angleArray element ih => exact ih h

theorem spelled_core_iff {t : DataType} : t.core.Spelled ↔ t.Spelled := by
  induction t with
  | array element size ih => exact ih
  | scalar | named | angleArray => exact Iff.rfl

theorem strings_core (t : DataType) : t.core.strings = t.strings := by
  induction t with
  | array element size ih => exact ih
  | scalar | named | angleArray => rfl

theorem core_bare (t : DataType) : t.bare.core = t.core.bare := by
  induction t with
  | array element size ih => exact ih
  | scalar | named | angleArray => rfl

theorem isArray_bare (t : DataType) : t.bare.isArray = t.isArray := by cases t <;> rfl

end TypedSql.Sql.DataType

namespace TypedSql.Canonical

open TypedSql.Text TypedSql.Sql

/-! ## Parentheses -/

/-- Whether the parentheses of a text close `depth` others and those that the text opens. -/
def closes (depth : Nat) : List Char → Bool
  | [] => depth = 0
  | '(' :: cs => closes (depth + 1) cs
  | ')' :: cs => depth ≠ 0 && closes (depth - 1) cs
  | _ :: cs => closes depth cs

/-- A text in which every parenthesis has its counterpart. -/
def Balanced (cs : List Char) : Prop := closes 0 cs = true

instance (cs : List Char) : Decidable (Balanced cs) := inferInstanceAs (Decidable (_ = true))

/-- A character that is no parenthesis. -/
def IsPlain (c : Char) : Prop := c ≠ '(' ∧ c ≠ ')'

instance (c : Char) : Decidable (IsPlain c) := inferInstanceAs (Decidable (_ ∧ _))

/-- A text without parentheses. -/
def AllPlain (cs : List Char) : Prop := ∀ c ∈ cs, IsPlain c

instance (cs : List Char) : Decidable (AllPlain cs) := List.decidableBAll _ cs

theorem closes_nil (depth : Nat) : closes depth [] = decide (depth = 0) := rfl

theorem closes_open (depth : Nat) (cs : List Char) :
    closes depth ('(' :: cs) = closes (depth + 1) cs := rfl

theorem closes_close (depth : Nat) (cs : List Char) :
    closes depth (')' :: cs) = (depth ≠ 0 && closes (depth - 1) cs) := rfl

theorem closes_cons_plain {c : Char} (h : IsPlain c) (depth : Nat) (cs : List Char) :
    closes depth (c :: cs) = closes depth cs := closes.eq_4 _ _ _ h.1 h.2

theorem closes_append_plain {front : List Char} (h : AllPlain front) (depth : Nat)
    (cs : List Char) : closes depth (front ++ cs) = closes depth cs := by
  induction front with
  | nil => rfl
  | cons c front ih =>
    rw [List.cons_append, closes_cons_plain (h c List.mem_cons_self),
      ih fun d hd => h d (List.mem_cons_of_mem _ hd)]

/-- One text closes some of the parentheses, the other one the rest. -/
theorem closes_append {depth depth' : Nat} {cs ds : List Char} (hcs : closes depth cs = true)
    (hds : closes depth' ds = true) : closes (depth + depth') (cs ++ ds) = true := by
  induction cs generalizing depth with
  | nil =>
    rw [closes_nil, decide_eq_true_eq] at hcs
    rwa [hcs, Nat.zero_add]
  | cons c cs ih =>
    rw [List.cons_append]
    -- the open parentheses of the two texts add up, whatever the next character is
    by_cases hopen : c = '('
    · subst hopen
      rw [closes_open, Nat.add_right_comm]
      exact ih hcs
    · by_cases hclose : c = ')'
      · subst hclose
        rw [closes_close, Bool.and_eq_true, decide_eq_true_eq] at hcs ⊢
        have hdepth : depth + depth' - 1 = depth - 1 + depth' := by omega
        exact ⟨by omega, hdepth ▸ ih hcs.2⟩
      · rw [closes_cons_plain ⟨hopen, hclose⟩] at hcs ⊢
        exact ih hcs

/-- Lower-casing keeps parentheses and makes none. -/
theorem closes_lowerFrom (depth : Nat) (before cs : List Char) :
    closes depth (lowerFrom before cs) = closes depth cs := by
  have hparens : ∀ c ∈ ['(', ')'], IsMark c ∧ c ≠ 'Σ' :=
    List.forall_iff_forall_mem.mp (by decide)
  induction cs generalizing depth before with
  | nil => rfl
  | cons c cs ih =>
    -- parentheses are no letters, and the image of a letter has none
    by_cases hparen : c ∈ ['(', ')']
    · obtain ⟨hmark, hsigma⟩ := hparens c hparen
      rw [lowerFrom_cons before hsigma, lowerChar_of_isMark hmark, List.singleton_append]
      simp only [List.mem_cons, List.not_mem_nil, or_false] at hparen
      rcases hparen with rfl | rfl
      · rw [closes_open, closes_open, ih]
      · rw [closes_close, closes_close, ih]
    · have hc : IsPlain c := by simpa [IsPlain] using hparen
      obtain ⟨image, hcut, himage⟩ := exists_lowerFrom_cons before c cs
      have hplain : AllPlain image := fun d hd =>
        ⟨fun h => hc.1 ((himage _ (hparens _ (by simp)).1).mp (h ▸ hd)),
          fun h => hc.2 ((himage _ (hparens _ (by simp)).1).mp (h ▸ hd))⟩
      rw [hcut, closes_append_plain hplain, closes_cons_plain hc, ih]

/-- Quote marks are no parentheses. -/
theorem closes_doubleQuotes {quote : Char} (hquote : IsPlain quote) (depth : Nat) (previous : Char)
    (cs : List Char) : closes depth (doubleQuotes quote previous cs) = closes depth cs := by
  have hmark (depth : Nat) (cs : List Char) : closes depth (quote :: cs) = closes depth cs :=
    closes_cons_plain hquote depth cs
  have hcons {c : Char} {cs ds : List Char} (h : ∀ depth, closes depth cs = closes depth ds)
      (depth : Nat) : closes depth (c :: cs) = closes depth (c :: ds) := by
    by_cases hopen : c = '('
    · rw [hopen, closes_open, closes_open, h]
    · by_cases hclose : c = ')'
      · rw [hclose, closes_close, closes_close, h]
      · rw [closes_cons_plain ⟨hopen, hclose⟩, closes_cons_plain ⟨hopen, hclose⟩, h]
  fun_induction doubleQuotes quote previous cs generalizing depth with
  -- a doubled quote is two characters for one, and neither of them is a parenthesis
  | case1 previous => rfl
  | case2 cs ih => exact hcons ih depth
  | case3 previous hprevious => rw [hmark]
  | case4 previous hprevious ds ih => exact hcons (hcons ih) depth
  | case5 previous hprevious d ds hd ih => rw [hmark, hmark, hmark, ih]
  | case6 previous c cs hc ih => exact hcons ih depth

namespace Balanced

theorem of_allPlain {cs : List Char} (h : AllPlain cs) : Balanced cs := by
  have happend := closes_append_plain h 0 []
  rw [List.append_nil] at happend
  exact happend

theorem append {cs ds : List Char} (hcs : Balanced cs) (hds : Balanced ds) : Balanced (cs ++ ds) :=
  closes_append hcs hds

theorem lowerFrom {cs : List Char} (h : Balanced cs) (before : List Char) :
    Balanced (lowerFrom before cs) := (closes_lowerFrom 0 before cs).trans h

/-- A list of balanced texts is balanced. -/
theorem commas {texts : List String} (h : ∀ text ∈ texts, Balanced text.toList) :
    Balanced (commas texts).toList := by
  induction texts with
  | nil => rfl
  | cons text texts ih =>
    have htext := h text List.mem_cons_self
    have htexts := ih fun text' h' => h text' (List.mem_cons_of_mem _ h')
    cases texts with
    | nil => exact htext
    | cons text' texts =>
      rw [Sql.commas, separated, String.toList_append, String.toList_append]
      · exact (htext.append (.of_allPlain (by decide))).append htexts
      · simp

/-- Numbers, quotes and the text between them. -/
theorem render {argument : TypeArgument}
    (h : ∀ s ∈ (DataType.scalar "" [argument] "").strings, Balanced s.toList) :
    Balanced argument.render.toList := by
  -- digits are no parentheses
  have hnumber (n : Nat) : Balanced (toString n).toList := by
    refine .of_allPlain fun c hc => ?_
    have hdigit : c.isDigit = true :=
      Nat.isDigit_of_mem_toDigits (b := 10) (by decide) (by decide) (by simpa using hc)
    constructor <;> rintro rfl <;> cases hdigit
  simp only [DataType.strings, List.flatMap_cons, List.flatMap_nil, List.append_nil] at h
  cases argument with
  | size n => exact hnumber n
  | maximum => rfl
  | length n unit =>
    rw [TypeArgument.render, String.toList_append, String.toList_append]
    exact ((hnumber n).append (.of_allPlain (by decide))).append (h unit (by simp))
  | quoted text value =>
    have hquoted : Balanced (betweenQuotes '\'' text).toList := by
      have hinside : Balanced (quotesDoubled '\'' text).toList := by
        -- doubling the quotes inside adds no parentheses
        rw [quotesDoubled, String.toList_ofList]
        exact (closes_doubleQuotes (by decide) 0 _ _).trans (h text (by simp))
      rw [betweenQuotes, String.toList_append, String.toList_append]
      exact (Balanced.append (.of_allPlain (by decide)) hinside).append (.of_allPlain (by decide))
    rw [TypeArgument.render, String.toList_append]
    cases value with
    | none => simpa [Sql.optional] using hquoted
    | some value =>
      rw [Sql.optional, String.toList_append]
      exact hquoted.append (.append rfl (h value (by simp)))

end Balanced

theorem outsideParentheses_nil (depth : Nat) : outsideParentheses depth [] = [] := rfl

theorem outsideParentheses_open (depth : Nat) (cs : List Char) :
    outsideParentheses depth ('(' :: cs) = outsideParentheses (depth + 1) cs := rfl

theorem outsideParentheses_close (depth : Nat) (cs : List Char) :
    outsideParentheses depth (')' :: cs) = outsideParentheses (depth - 1) cs := rfl

theorem outsideParentheses_cons_plain {c : Char} (h : IsPlain c) (depth : Nat) (cs : List Char) :
    outsideParentheses depth (c :: cs) =
      if depth = 0 then c :: outsideParentheses 0 cs else outsideParentheses depth cs :=
  outsideParentheses.eq_4 _ _ _ h.1 h.2

/-- A scan finds nothing outside of the parentheses that a text closes. -/
theorem outsideParentheses_closes {cs : List Char} {closed : Nat} (h : closes closed cs = true)
    (depth : Nat) (rest : List Char) :
    outsideParentheses (closed + depth + 1) (cs ++ rest) = outsideParentheses (depth + 1) rest := by
  induction cs generalizing closed with
  | nil =>
    rw [closes_nil, decide_eq_true_eq] at h
    rw [h, Nat.zero_add, List.nil_append]
  | cons c cs ih =>
    rw [List.cons_append]
    by_cases hopen : c = '('
    · -- one more is open
      subst hopen
      rw [outsideParentheses_open, ← ih h]
      congr 1
      omega
    · by_cases hclose : c = ')'
      · -- one is closed, and it was opened inside the part
        subst hclose
        rw [closes_close, Bool.and_eq_true, decide_eq_true_eq] at h
        rw [outsideParentheses_close, ← ih h.2]
        congr 1
        omega
      · -- neither: what stands inside parentheses is passed over
        rw [closes_cons_plain ⟨hopen, hclose⟩] at h
        rw [outsideParentheses_cons_plain ⟨hopen, hclose⟩, if_neg (Nat.succ_ne_zero _), ih h]

/-- Two texts that a scan cannot tell apart, whatever stands around them. -/
def SameOutside (cs cs' : List Char) : Prop :=
  ∀ depth rest, outsideParentheses depth (cs ++ rest) = outsideParentheses depth (cs' ++ rest)

namespace SameOutside

theorem refl (cs : List Char) : SameOutside cs cs := fun _ _ => rfl

/-- The same text before two others. -/
theorem front {cs cs' : List Char} (h : SameOutside cs cs') (ds : List Char) :
    SameOutside (ds ++ cs) (ds ++ cs') := by
  intro depth rest
  induction ds generalizing depth with
  | nil => exact h depth rest
  | cons d ds ih =>
    simp only [List.cons_append]
    by_cases hopen : d = '('
    · rw [hopen, outsideParentheses_open, outsideParentheses_open, ih]
    · by_cases hclose : d = ')'
      · rw [hclose, outsideParentheses_close, outsideParentheses_close, ih]
      · have hplain : IsPlain d := ⟨hopen, hclose⟩
        rw [outsideParentheses_cons_plain hplain, outsideParentheses_cons_plain hplain, ih, ih]

/-- The same text behind two others. -/
theorem back {cs cs' : List Char} (h : SameOutside cs cs') (ds : List Char) :
    SameOutside (cs ++ ds) (cs' ++ ds) := by
  intro depth rest
  rw [List.append_assoc, List.append_assoc]
  exact h depth (ds ++ rest)

/-- Balanced parentheses are as good as nothing. -/
theorem parens {cs : List Char} (h : Balanced cs) : SameOutside ('(' :: cs ++ [')']) [] := by
  intro depth rest
  have hscan := outsideParentheses_closes h depth (')' :: rest)
  rw [Nat.zero_add] at hscan
  rw [List.append_assoc, List.cons_append, outsideParentheses_open, List.singleton_append, hscan]
  rfl

end SameOutside

/-! ## Lower-cased types -/

/-- The texts of arguments in parentheses, lower-cased. -/
def enclosed (texts : List String) : List Char :=
  if texts.isEmpty then [] else '(' :: lowerFrom [] (commas texts).toList ++ [')']

theorem enclosed_sameOutside {texts : List String} (h : ∀ text ∈ texts, Balanced text.toList) :
    SameOutside (enclosed texts) [] := by
  rw [enclosed]
  split
  · exact .refl []
  · exact .parens ((Balanced.commas h).lowerFrom [])

/-- Arguments between two other texts. -/
theorem lowerFrom_enclosed (before after : List Char) (texts : List String)
    (h : texts = [] → lowerFrom [] (before ++ after) = lowerFrom [] before ++ lowerFrom [] after) :
    lowerFrom [] (before ++ (textIf (!texts.isEmpty) (parenthesised texts)).toList ++ after) =
      lowerFrom [] before ++ enclosed texts ++ lowerFrom [] after := by
  cases texts with
  | nil => simpa [enclosed, textIf] using h rfl
  | cons text texts =>
    have htext : (textIf (!(text :: texts).isEmpty) (parenthesised (text :: texts))).toList =
        '(' :: (commas (text :: texts)).toList ++ [')'] := by
      simp [textIf, parenthesised, String.toList_append]
    have hcut : before ++ ('(' :: (commas (text :: texts)).toList ++ [')']) ++ after =
        before ++ '(' :: ((commas (text :: texts)).toList ++ ')' :: after) := by simp
    rw [htext, hcut, lowerFrom_append_separator (isSeparator_bracket _ (by simp)),
      lowerFrom_append_separator (isSeparator_bracket _ (by simp))]
    simp [enclosed]

theorem lowerFrom_scalar {before after : String} (hbefore : DataType.IsKeywords before)
    (hafter : DataType.IsKeywords after) (arguments : List TypeArgument) :
    lowerFrom [] (DataType.scalar before arguments after).render.toList =
      lowerFrom [] before.toList ++ enclosed (arguments.map TypeArgument.render) ++
        lowerFrom [] after.toList := by
  have hempty : (arguments.map TypeArgument.render).isEmpty = arguments.isEmpty := by simp
  rw [DataType.render_scalar, String.toList_append, String.toList_append, ← hempty]
  -- both parts are in ASCII, so each letter is lowered without a look at those around it
  refine lowerFrom_enclosed _ _ _ fun _ => ?_
  have hbefore' := fun c hc => (hbefore c hc).1
  have hafter' := fun c hc => (hafter c hc).1
  have hboth : ∀ c ∈ before.toList ++ after.toList, c.toNat < 0x80 := fun c hc =>
    (List.mem_append.mp hc).elim (hbefore' c) (hafter' c)
  rw [lowerFrom_of_ascii hbefore', lowerFrom_of_ascii hafter', lowerFrom_of_ascii hboth,
    List.map_append]

theorem lowerFrom_named (name : ObjectName) (modifiers : List String) :
    lowerFrom [] (DataType.named name modifiers).render.toList =
      lowerFrom [] (nameText name).toList ++ enclosed modifiers := by
  have h := lowerFrom_enclosed (nameText name).toList [] modifiers fun _ => by simp [lowerFrom_nil]
  rw [DataType.render_named, String.toList_append]
  simpa [lowerFrom_nil] using h

/-- The text between the brackets of an array type. -/
def sizeText (size : Option Nat) : List Char := (optional "" (size.map toString)).toList

theorem lowerFrom_array (element : DataType) (size : Option Nat) :
    lowerFrom [] (DataType.array element size).render.toList =
      lowerFrom [] element.render.toList ++ '[' :: lowerFrom [] (sizeText size) ++ [']'] := by
  have htext : (DataType.array element size).render.toList =
      element.render.toList ++ '[' :: (sizeText size ++ ']' :: []) := by
    simp [DataType.render_array, sizeText, String.toList_append]
  rw [htext, lowerFrom_append_separator (isSeparator_bracket _ (by simp)),
    lowerFrom_append_separator (isSeparator_bracket _ (by simp))]
  simp [lowerFrom_nil]

theorem lowerFrom_angleArray (element : DataType) :
    lowerFrom [] (DataType.angleArray element).render.toList =
      "array<".toList ++ lowerFrom [] element.render.toList ++ ['>'] := by
  have htext : (DataType.angleArray element).render.toList =
      "ARRAY".toList ++ '<' :: (element.render.toList ++ '>' :: []) := by
    simp [DataType.render_angleArray, String.toList_append]
  have harray : lowerFrom [] "ARRAY".toList = "array".toList := by decide
  rw [htext, lowerFrom_append_separator (isSeparator_bracket _ (by simp)),
    lowerFrom_append_separator (isSeparator_bracket _ (by simp)), harray]
  simp [lowerFrom_nil]

/-- Balanced arguments are nothing to a scan. -/
theorem sameOutside_bare {t : DataType} (hspelled : t.Spelled)
    (hbalanced : ∀ s ∈ t.strings, Balanced s.toList) :
    SameOutside (lowerFrom [] t.render.toList) (lowerFrom [] t.bare.render.toList) := by
  -- the written arguments are enclosed in parentheses, and so left out on both sides
  induction t with
  | scalar before arguments after =>
    rw [DataType.bare, lowerFrom_scalar hspelled.1 hspelled.2,
      lowerFrom_scalar hspelled.1 hspelled.2]
    have htexts : ∀ text ∈ arguments.map TypeArgument.render, Balanced text.toList := by
      simp only [List.forall_mem_map]
      intro argument hmem
      refine .render fun s hs => hbalanced s ?_
      simp only [DataType.strings, List.flatMap_cons, List.flatMap_nil, List.append_nil] at hs
      exact List.mem_flatMap.mpr ⟨argument, hmem, hs⟩
    exact ((enclosed_sameOutside htexts).front _).back _
  | named name modifiers =>
    rw [DataType.bare, lowerFrom_named, lowerFrom_named]
    exact (enclosed_sameOutside hbalanced).front _
  | array element size ih =>
    rw [DataType.bare, lowerFrom_array, lowerFrom_array]
    exact ((ih hspelled hbalanced).back _).back _
  | angleArray element ih =>
    rw [DataType.bare, lowerFrom_angleArray, lowerFrom_angleArray]
    exact ((ih hspelled hbalanced).front _).back _

/-! ## Arrays -/

/-- A text whose last character that is no blank is no closing bracket. -/
def EndsOpen (cs : List Char) : Prop := ∀ rest, (trimEnd cs).reverse ≠ ']' :: rest

/-- The end of a text decides if it is not all blank. -/
theorem endsOpen_append {front back : List Char} (hback : ']' ∉ back)
    (hfull : front = [] ∨ ∃ c ∈ back, isBlank c = false) : EndsOpen (front ++ back) := by
  intro rest h
  rw [trimEnd, List.reverse_reverse, List.reverse_append] at h
  have hmem : ']' ∈ back := by
    rcases hfull with rfl | ⟨c, hc, hblank⟩
    · rw [List.reverse_nil, List.append_nil] at h
      refine List.mem_reverse.mp ((List.dropWhile_sublist isBlank).mem ?_)
      exact h ▸ List.mem_cons_self
    · -- the trimmed end begins in the back
      have hne : back.reverse.dropWhile isBlank ≠ [] := by
        intro hnil
        have hall := List.dropWhile_eq_nil_iff.mp hnil c (List.mem_reverse.mpr hc)
        rw [hblank] at hall
        cases hall
      obtain ⟨d, ds, hcut⟩ := List.exists_cons_of_ne_nil hne
      rw [List.dropWhile_append, hcut] at h
      cases h
      refine List.mem_reverse.mp ((List.dropWhile_sublist isBlank).mem ?_)
      exact hcut ▸ List.mem_cons_self
  exact hback hmem

theorem dropBrackets_of_endsOpen {cs : List Char} (h : EndsOpen cs) (n : Nat) :
    dropBrackets n cs = (cs, false) := by
  cases n with
  | zero => rfl
  | succ n =>
    rw [dropBrackets]
    split
    · next inside hcut => exact absurd hcut (h inside)
    · rfl

theorem dropBrackets_brackets {inside : List Char} (hinside : '[' ∉ inside) (cs : List Char)
    (n : Nat) :
    dropBrackets (n + 1) (cs ++ '[' :: inside ++ [']']) = ((dropBrackets n cs).1, true) := by
  -- nothing is trimmed behind the closing bracket
  have hend : EndsFull (cs ++ '[' :: inside ++ [']']) := by
    refine endsFull_append (fun c hc => ?_) (List.cons_ne_nil _ _) _
    cases hc
    decide
  have hreverse : (cs ++ '[' :: inside ++ [']']).reverse =
      ']' :: (inside.reverse ++ '[' :: cs.reverse) := by simp
  -- no bracket is inside, so the search from the back stops at the opening one
  have hdrop : (inside.reverse ++ '[' :: cs.reverse).dropWhile (· ≠ '[') = '[' :: cs.reverse := by
    rw [List.dropWhile_append_of_pos, List.dropWhile_cons_of_neg]
    · simp
    · intro c hc
      exact decide_eq_true fun h => hinside (h ▸ List.mem_reverse.mp hc)
  rw [dropBrackets, trimEnd_of_endsFull hend, hreverse]
  simp only [hdrop, List.reverse_reverse]

/-- The brackets of an array have a number between them or nothing. -/
theorem not_mem_lowerFrom_sizeText (size : Option Nat) : '[' ∉ lowerFrom [] (sizeText size) := by
  rw [mem_lowerFrom_iff (isSeparator_bracket _ (by simp)).1]
  cases size with
  | none => simp [sizeText, Sql.optional]
  | some n =>
    intro h
    have hdigits : '[' ∈ Nat.toDigits 10 n := by simpa [sizeText, Sql.optional] using h
    have hdigit := Nat.isDigit_of_mem_toDigits (by decide) (by decide) hdigits
    cases hdigit

/-- A name ends in a quote mark or in an identifier without brackets. -/
theorem exists_nameText_end {name : ObjectName} (h : (DataType.named name []).Spelled) :
    ∃ front back, (nameText name).toList = front ++ back ∧ ']' ∉ back ∧
      (front = [] ∨ ∃ c ∈ back, IsMark c ∧ isBlank c = false) := by
  induction name with
  | nil => exact ⟨[], [], rfl, List.not_mem_nil, .inl rfl⟩
  | cons i name ih =>
    cases name with
    | nil =>
      obtain ⟨text, quote⟩ := i
      have hi := h _ List.mem_cons_self
      cases quote with
      | none => exact ⟨[], text.toList, rfl, hi, .inl rfl⟩
      | some mark =>
        have hmark : ∀ mark ∈ ['\x60', '"', '\''], ']' ∉ [mark] ∧ IsMark mark ∧
            isBlank mark = false := List.forall_iff_forall_mem.mp (by decide)
        obtain ⟨hbracket, hmarked⟩ := hmark mark hi
        refine ⟨mark :: (quotesDoubled mark text).toList, [mark], ?_, hbracket,
          .inr ⟨mark, List.mem_singleton_self mark, hmarked⟩⟩
        simp [nameText, separated, Ident.render, betweenQuotes, String.toList_append]
    | cons j name =>
      obtain ⟨front, back, hcut, hback, hfull⟩ := ih fun k hk => h k (List.mem_cons_of_mem _ hk)
      have htext : (nameText (i :: j :: name)).toList =
          i.render.toList ++ '.' :: (nameText (j :: name)).toList := by
        simp [nameText, separated, String.toList_append]
      rcases hfull with rfl | hfull
      · -- the rest is one part without quotes: the period before it starts the end of the text
        refine ⟨i.render.toList, '.' :: back, ?_, by simpa using hback,
          .inr ⟨'.', List.mem_cons_self, by decide⟩⟩
        rw [htext, hcut, List.nil_append]
      · refine ⟨i.render.toList ++ '.' :: front, back, ?_, hback, .inr hfull⟩
        rw [htext, hcut]
        simp

theorem endsOpen_nameText {name : ObjectName} (h : (DataType.named name []).Spelled) :
    EndsOpen (lowerFrom [] (nameText name).toList) := by
  obtain ⟨front, back, hcut, hback, hfull⟩ := exists_nameText_end h
  have hbracket : IsMark ']' := (isSeparator_bracket _ (by simp)).1
  rcases hfull with rfl | ⟨c, hc, hmark, hblank⟩
  · rw [hcut, ← List.nil_append (lowerFrom _ _)]
    exact endsOpen_append ((mem_lowerFrom_iff hbracket).not.mpr hback) (.inl rfl)
  · obtain ⟨front', hfront⟩ := exists_lowerFrom_append [] front back
    rw [hcut, hfront]
    exact endsOpen_append ((mem_lowerFrom_iff hbracket).not.mpr hback)
      (.inr ⟨c, (mem_lowerFrom_iff hmark).mpr hc, hblank⟩)

/-- Only an array ends in brackets. -/
theorem endsOpen_of_not_isArray {t : DataType} (hspelled : t.Spelled) (h : t.isArray = false) :
    EndsOpen (lowerFrom [] t.render.toList) := by
  -- arguments end in a closing parenthesis
  have hclosing {texts : List String} (hne : texts.isEmpty = false) :
      ∃ front, enclosed texts = front ++ [')'] := by
    rw [enclosed, if_neg (by simp [hne])]
    exact ⟨_, rfl⟩
  cases t with
  | scalar before arguments after =>
    -- no keyword has a bracket, in capital letters or in small ones
    have hbracket : IsMark ']' := (isSeparator_bracket _ (by simp)).1
    have hkeywords {text : String} (htext : DataType.IsKeywords text) :
        ']' ∉ lowerFrom [] text.toList := by
      rw [mem_lowerFrom_iff hbracket]
      exact fun hmem => (htext _ hmem).2 rfl
    rw [lowerFrom_scalar hspelled.1 hspelled.2]
    cases harguments : (arguments.map TypeArgument.render).isEmpty with
    -- without arguments the text ends in the keywords
    | true =>
      rw [enclosed, if_pos harguments, List.append_nil]
      rw [← List.nil_append (_ ++ _)]
      exact endsOpen_append (by simp [hkeywords hspelled.1, hkeywords hspelled.2]) (.inl rfl)
    | false =>
      -- with arguments it ends in a parenthesis and the keywords behind it
      obtain ⟨front, hfront⟩ := hclosing harguments
      rw [hfront, ← List.append_assoc, List.append_assoc]
      refine endsOpen_append ?_ (.inr ⟨')', by simp, by decide⟩)
      simp [hkeywords hspelled.2]
  | named name modifiers =>
    rw [lowerFrom_named]
    cases hmodifiers : modifiers.isEmpty with
    | true =>
      -- without modifiers the text ends as the name does
      rw [enclosed, if_pos hmodifiers, List.append_nil]
      exact endsOpen_nameText hspelled
    | false =>
      obtain ⟨front, hfront⟩ := hclosing hmodifiers
      rw [hfront, ← List.append_assoc]
      exact endsOpen_append (by decide) (.inr ⟨')', by simp, by decide⟩)
  | array element size => cases h
  | angleArray element =>
    rw [lowerFrom_angleArray]
    exact endsOpen_append (by decide) (.inr ⟨'>', by simp, by decide⟩)

/-- All brackets of an array are taken off, and nothing else is. -/
theorem dropBrackets_render {t : DataType} (hspelled : t.Spelled) {n : Nat}
    (hn : t.render.length ≤ n) :
    dropBrackets n (lowerFrom [] t.render.toList) =
      (lowerFrom [] t.core.render.toList, t.isArray) := by
  induction t generalizing n with
  | array element size ih =>
    have hlength : element.render.length + 2 ≤ (DataType.array element size).render.length := by
      have hbrackets : "[".length = 1 ∧ "]".length = 1 := by decide
      rw [DataType.render_array, String.length_append, String.length_append, String.length_append]
      omega
    -- the bound is the length of the text, and the brackets take two characters of it
    obtain ⟨m, rfl⟩ : ∃ m, n = m + 1 := ⟨n - 1, by omega⟩
    rw [lowerFrom_array, dropBrackets_brackets (not_mem_lowerFrom_sizeText size),
      ih hspelled (by omega)]
    rfl
  | scalar | named | angleArray =>
    exact dropBrackets_of_endsOpen (endsOpen_of_not_isArray hspelled rfl) n

/-! ## Words -/

/-- The words of a type outside of parentheses and of the brackets behind it. -/
def typeWords (t : DataType) : List String :=
  words (String.ofList (outsideParentheses 0 (lowerFrom [] t.core.render.toList)))

/-- The name of a type in a dialect. -/
def dialectTypeName : Dialect → String → String
  | .mysql => mysqlTypeName
  | .postgres => postgresTypeName

theorem typeOf_eq {t : DataType} (h : t.Spelled) (d : Dialect) :
    typeOf d t = ⟨dialectTypeName d (separated " " ((typeWords t).filter (!isTypeFlag ·))),
      (typeWords t).contains "unsigned", t.isArray⟩ := by
  have hdrop := dropBrackets_render h (le_refl t.render.length)
  have hsplit : splitType t.render = ⟨separated " " ((typeWords t).filter (!isTypeFlag ·)),
      (typeWords t).contains "unsigned", t.isArray⟩ := by
    rw [splitType, lower, String.toList_ofList, hdrop]
    rfl
  cases d <;> simp [typeOf, hsplit, dialectTypeName]

/-- The words and the brackets of a type make its canonical form. -/
theorem typeOf_congr {t t' : DataType} (h : t.Spelled) (h' : t'.Spelled)
    (hwords : typeWords t = typeWords t') (harray : t.isArray = t'.isArray) (d : Dialect) :
    typeOf d t = typeOf d t' := by
  rw [typeOf_eq h, typeOf_eq h', hwords, harray]

/-- Balanced arguments do not matter to a type. -/
theorem typeOf_bare {t : DataType} (h : t.Spelled)
    (hbalanced : ∀ s ∈ t.strings, Balanced s.toList) (d : Dialect) :
    typeOf d t = typeOf d t.bare := by
  refine typeOf_congr h h.bare ?_ t.isArray_bare.symm d
  -- the words are those of the type below the brackets, which has the same strings
  have hsame := sameOutside_bare (DataType.spelled_core_iff.mpr h) (by rwa [t.strings_core]) 0 []
  rw [List.append_nil, List.append_nil] at hsame
  rw [typeWords, typeWords, hsame, DataType.core_bare]

/-! ## Members -/

/-- The keywords of the types whose arguments may be strings. -/
def memberTypes : List String := ["ENUM", "ENUM8", "ENUM16", "SET", "DATETIME64"]

/-- What a scan finds of arguments outside of their parentheses. -/
def spilled (texts : List String) : List Char := outsideParentheses 0 (enclosed texts)

/-- A text whose words all tell about the type before them but do not name it, and do not make its
numbers unsigned. -/
def Unseen (cs : List Char) : Prop :=
  (∀ c ∈ cs.head?, isBlank c = true) ∧
    ∀ word ∈ words (String.ofList cs), word = "signed" ∨ word = "zerofill"

instance (cs : List Char) : Decidable (Unseen cs) :=
  @instDecidableAnd _ _ cs.head?.decidableForallMem _

theorem outsideParentheses_plain {cs : List Char} (h : AllPlain cs) (rest : List Char) :
    outsideParentheses 0 (cs ++ rest) = cs ++ outsideParentheses 0 rest := by
  induction cs with
  | nil => rfl
  | cons c cs ih =>
    have hc := h c List.mem_cons_self
    rw [List.cons_append, outsideParentheses_cons_plain hc, if_pos rfl,
      ih fun d hd => h d (List.mem_cons_of_mem _ hd), List.cons_append]

/-- The spellings that a dialect has another name for. -/
def otherSpellings : List String :=
  ["int", "int2", "int4", "int8", "integer", "serial2", "serial4", "serial8", "bool", "boolean",
    "character varying", "character", "bpchar", "double precision", "double", "real", "float4",
    "float8", "numeric", "decimal", "dec", "fixed", "timestamp without time zone",
    "timestamp with time zone", "time without time zone", "time with time zone"]

theorem dialectTypeName_cases (d : Dialect) (name : String) :
    dialectTypeName d name = name ∨ name ∈ otherSpellings := by
  cases d with
  | mysql =>
    simp only [dialectTypeName, mysqlTypeName]
    split <;> simp [otherSpellings]
  | postgres =>
    simp only [dialectTypeName, postgresTypeName]
    split <;> simp [otherSpellings]

/-- What the scans meet in the name of a type with members: one word, which starts no spelling of
another type and no flag. -/
theorem lower_memberTypes : ∀ keyword ∈ memberTypes,
    DataType.IsKeywords keyword ∧ IsWord (lower keyword).toList ∧
      AllPlain (lower keyword).toList ∧
      (∀ s ∈ otherSpellings, ¬ (lower keyword).toList <+: s.toList) ∧
      ∀ s ∈ ["unsigned", "signed", "zerofill"], ¬ (lower keyword).toList <+: s.toList := by
  decide +kernel

theorem prefix_toList_append (s tail : String) : s.toList <+: (s ++ tail).toList := by
  rw [String.toList_append]
  exact List.prefix_append _ _

theorem dialectTypeName_append {keyword : String} (h : keyword ∈ memberTypes) (d : Dialect)
    (tail : String) : dialectTypeName d (lower keyword ++ tail) = lower keyword ++ tail :=
  (dialectTypeName_cases d _).resolve_right fun hmem =>
    (lower_memberTypes keyword h).2.2.2.1 _ hmem (prefix_toList_append _ _)

theorem not_isTypeFlag_append {keyword : String} (h : keyword ∈ memberTypes) (tail : String) :
    isTypeFlag (lower keyword ++ tail) = false := by
  have hflags := (lower_memberTypes keyword h).2.2.2.2
  have hne : ∀ s ∈ ["unsigned", "signed", "zerofill"], lower keyword ++ tail ≠ s := by
    rintro s hs rfl
    exact hflags _ hs (prefix_toList_append _ _)
  simp only [List.forall_mem_cons] at hne
  simp [isTypeFlag, hne]

/-- The first item comes first, and no more than it only if there are no others. -/
theorem exists_separated_cons (s : String) (ss : List String) :
    ∃ tail, separated " " (s :: ss) = s ++ tail ∧ (tail = "" ↔ ss = []) := by
  cases ss with
  | nil => exact ⟨"", by simp [separated], by simp⟩
  | cons s' ss =>
    refine ⟨" " ++ separated " " (s' :: ss), ?_, ?_⟩
    · rw [separated, String.append_assoc]
      simp
    · simp [← String.toList_inj, String.toList_append]

/-- The name of a type with members, with its other words behind it. -/
theorem memberType_name_iff {keyword : String} (h : keyword ∈ memberTypes) (d : Dialect)
    (tail : String) (ss : List String) :
    dialectTypeName d (separated " " (((lower keyword ++ tail) :: ss).filter (!isTypeFlag ·))) =
      lower keyword ↔ tail = "" ∧ ∀ s ∈ ss, isTypeFlag s = true := by
  obtain ⟨more, hmore, hnone⟩ :=
    exists_separated_cons (lower keyword ++ tail) (ss.filter (!isTypeFlag ·))
  rw [List.filter_cons_of_pos (by simp [not_isTypeFlag_append h]), hmore, String.append_assoc,
    dialectTypeName_append h, String.append_eq_left_iff, String.append_eq_empty_iff, hnone,
    List.filter_eq_nil_iff]
  simp

theorem typeWords_of_core {t : DataType} {keyword : String} {arguments : List TypeArgument}
    (hkeyword : keyword ∈ memberTypes) (hcore : t.core = .scalar keyword arguments "") :
    typeWords t = words (String.ofList
      ((lower keyword).toList ++ spilled (arguments.map TypeArgument.render))) := by
  obtain ⟨hspelled, -, hplain, -⟩ := lower_memberTypes keyword hkeyword
  have hlower : (lower keyword).toList = lowerFrom [] keyword.toList := by simp [lower]
  rw [typeWords, hcore, lowerFrom_scalar hspelled (by simp [DataType.IsKeywords])]
  have hafter : lowerFrom [] "".toList = [] := rfl
  rw [hafter, List.append_nil, ← hlower, outsideParentheses_plain hplain, spilled]

/-- The type is that of its keyword exactly if the words behind the keyword neither name it nor make
it unsigned. -/
theorem typeOf_eq_bare_iff_of_words {t : DataType} {keyword tail : String}
    {arguments : List TypeArgument} {ss : List String} (hkeyword : keyword ∈ memberTypes)
    (hcore : t.core = .scalar keyword arguments "")
    (hwords : typeWords t = (lower keyword ++ tail) :: ss) (d : Dialect) :
    typeOf d t = typeOf d t.bare ↔
      tail = "" ∧ ∀ word ∈ ss, word = "signed" ∨ word = "zerofill" := by
  obtain ⟨hspelled, hword, -⟩ := lower_memberTypes keyword hkeyword
  have h : t.Spelled := by
    rw [← DataType.spelled_core_iff, hcore]
    exact ⟨hspelled, by simp [DataType.IsKeywords]⟩
  have hbare : typeWords t.bare = [lower keyword ++ ""] := by
    have hcore' : t.bare.core = .scalar keyword [] "" := by rw [DataType.core_bare, hcore]; rfl
    have hwords' := words_of_isWord hword
    rw [typeWords_of_core hkeyword hcore', String.append_empty]
    rw [String.ofList_toList] at hwords'
    simpa [spilled, enclosed, outsideParentheses_nil] using hwords'
  have hself : dialectTypeName d
      (separated " " ((typeWords t.bare).filter (!isTypeFlag ·))) = lower keyword := by
    rw [hbare, memberType_name_iff hkeyword]
    exact ⟨rfl, List.forall_mem_nil _⟩
  -- so `unsigned` is found behind the keyword or not at all
  have hunsigned : "unsigned" ≠ lower keyword := by
    intro heq
    have hflag := not_isTypeFlag_append hkeyword ""
    rw [String.append_empty, ← heq] at hflag
    cases hflag
  rw [typeOf_eq h, typeOf_eq h.bare, hself, DataType.isArray_bare, SqlType.mk.injEq, hwords,
    memberType_name_iff hkeyword, hbare]
  constructor
  · rintro ⟨⟨rfl, hflags⟩, hcontains, -⟩
    refine ⟨rfl, fun word hmem => ?_⟩
    have hne : word ≠ "unsigned" := by
      rintro rfl
      simp [hmem, hunsigned] at hcontains
    simpa [isTypeFlag, hne] using hflags word hmem
  · rintro ⟨rfl, hflags⟩
    refine ⟨⟨rfl, fun word hmem => ?_⟩, ?_, rfl⟩
    · rcases hflags word hmem with rfl | rfl <;> rfl
    · have hmem : "unsigned" ∉ ss := fun hmem => absurd (hflags _ hmem) (by decide)
      simp [hmem, hunsigned]

/-- The canonical type of a type with strings for arguments is that of its keyword exactly if
nothing of the strings is seen. -/
theorem typeOf_eq_bare_iff {t : DataType} {keyword : String} {arguments : List TypeArgument}
    (hkeyword : keyword ∈ memberTypes) (hcore : t.core = .scalar keyword arguments "")
    (d : Dialect) :
    typeOf d t = typeOf d t.bare ↔ Unseen (spilled (arguments.map TypeArgument.render)) := by
  obtain ⟨-, hword, -⟩ := lower_memberTypes keyword hkeyword
  have hwords := typeWords_of_core hkeyword hcore
  by_cases hblank : ∀ c ∈ (spilled (arguments.map TypeArgument.render)).head?, isBlank c = true
  · have htail : lower keyword ++ "" = String.ofList (lower keyword).toList := by simp
    rw [words_append_blank hword hblank, ← htail] at hwords
    rw [typeOf_eq_bare_iff_of_words hkeyword hcore hwords]
    exact ⟨fun h => ⟨hblank, h.2⟩, fun h => ⟨rfl, h.2⟩⟩
  · -- the keyword goes on with the first character behind it
    refine iff_of_false ?_ fun h => hblank h.1
    obtain ⟨c, hc, hfull⟩ : ∃ c ∈ (spilled (arguments.map TypeArgument.render)).head?,
        isBlank c = false := by simpa using hblank
    obtain ⟨cs, hcs⟩ := List.head?_eq_some_iff.mp hc
    have hpart : ∀ d ∈ (lower keyword).toList ++ [c], isBlank d = false := by
      intro d hd
      rcases List.mem_append.mp hd with hd | hd
      · exact hword.2 d hd
      · rw [List.mem_singleton.mp hd, hfull]
    obtain ⟨tail, ss, hcut⟩ := exists_words_append hpart (by simp) cs
    rw [List.append_assoc, List.singleton_append, ← hcs, ← hwords, List.append_assoc,
      String.ofList_append, String.ofList_toList] at hcut
    rw [typeOf_eq_bare_iff_of_words hkeyword hcore hcut]
    simp

/-- Arguments matter to the canonical type of a declared one by the parentheses in their strings
only. Two types with balanced strings agree if they are the same without their arguments; lengths
and precisions have no strings. A type with members is that of its keyword exactly if nothing is
seen of what the scan for parentheses finds of its members. -/
theorem typeOf_arguments (d : Dialect) :
    (∀ t t' : DataType, t.Spelled → t'.Spelled → t.bare = t'.bare →
      (∀ s ∈ t.strings ++ t'.strings, Balanced s.toList) → typeOf d t = typeOf d t') ∧
    (∀ (t : DataType) (keyword : String) (arguments : List TypeArgument), keyword ∈ memberTypes →
      t.core = .scalar keyword arguments "" →
      (typeOf d t = typeOf d t.bare ↔
        Unseen (spilled (arguments.map TypeArgument.render)))) := by
  refine ⟨fun t t' h h' hbare hbalanced => ?_, fun t keyword arguments hkeyword hcore =>
    typeOf_eq_bare_iff hkeyword hcore d⟩
  rw [typeOf_bare h fun s hs => hbalanced s (List.mem_append_left _ hs),
    typeOf_bare h' fun s hs => hbalanced s (List.mem_append_right _ hs), hbare]

/-- Members in an array, a length, and a member that shows only a word without meaning. -/
theorem typeOf_arguments_members :
    typeOf .mysql (.array (.scalar "ENUM" [.quoted "(a)" none, .quoted "b]" none] "") none) =
      typeOf .mysql (.array (.scalar "ENUM" [.quoted "it's" none] "") none) ∧
    typeOf .mysql (.scalar "INT" [.size 11] " UNSIGNED") =
      typeOf .mysql (.scalar "INT" [] " UNSIGNED") ∧
    typeOf .postgres (.scalar "SET" [.quoted "a) signed (" none] "") =
      typeOf .postgres (.scalar "SET" [] "") := by
  obtain ⟨hmysql, -⟩ := typeOf_arguments .mysql
  obtain ⟨-, hpostgres⟩ := typeOf_arguments .postgres
  -- all the words of the four types are keywords
  have hkeywords : DataType.IsKeywords "ENUM" ∧ DataType.IsKeywords "INT" ∧
      DataType.IsKeywords " UNSIGNED" ∧ DataType.IsKeywords "" := by decide +kernel
  obtain ⟨henum, hint, hunsigned, hempty⟩ := hkeywords
  refine ⟨hmysql _ _ ⟨henum, hempty⟩ ⟨henum, hempty⟩ rfl (by decide +kernel),
    hmysql _ _ ⟨hint, hunsigned⟩ ⟨hint, hunsigned⟩ rfl (by decide +kernel),
    (hpostgres (.scalar "SET" _ "") "SET" _ (by decide) rfl).mpr (by decide +kernel)⟩

/-- A parenthesis in a member closes those of the enumeration. -/
theorem not_typeOf_arguments_closingMember :
    ¬ ∀ (d : Dialect) (t t' : DataType), t.Spelled → t'.Spelled → t.bare = t'.bare →
      typeOf d t = typeOf d t' := by
  intro h
  have hspelled : DataType.IsKeywords "ENUM" ∧ DataType.IsKeywords "" := by decide +kernel
  have hname := h .mysql (.scalar "ENUM" [.quoted "a)" none] "") (.scalar "ENUM" [] "") hspelled
    hspelled rfl
  exact absurd hname (by decide +kernel)

end TypedSql.Canonical
