import Mathlib.Data.List.Basic
import Mathlib.Data.List.Induction
import TypedSql.Proofs.Conversion.Ledger

/-!
# Matching placeholders

A conversion meets the placeholders of a statement in an order of its own, and some of them the
rules of the dialect reject. Still each one that is accepted is matched with a token of the text of
its own: the first one with its spelling that is left.

- **Numbers**: the texts that the rules accept, and the numbers that they give them
- **Tokens**: the tokens of the text by their indices, and what it is to claim one
- **Runs**: how far a conversion has come after some placeholders
- **Matching**: what becomes of a placeholder, whatever was converted before it
-/

namespace TypedSql.Canonical

/-! ## Numbers -/

/-- The rules of a dialect accept a text as the `ordinal`th placeholder of a statement, and number
it. -/
inductive NumberedAs (ordinal : Nat) : Dialect → String → Nat → Prop where
  /-- The marks of MySQL are counted. -/
  | mark : NumberedAs ordinal .mysql "?" ordinal
  /-- A placeholder of PostgreSQL spells its number, which is a positive word. -/
  | numeral {sign digits : List Char} (hsign : sign = [] ∨ sign = ['+'])
      (hdigits : ∀ c ∈ digits, c.isDigit = true) (hpos : 0 < Nat.ofDigitChars 10 digits 0)
      (hword : Nat.ofDigitChars 10 digits 0 < wordCount) :
      NumberedAs ordinal .postgres (String.ofList ('$' :: sign ++ digits))
        (Nat.ofDigitChars 10 digits 0)

theorem decimalValue_eq (digits : List Char) :
    decimalValue digits = Nat.ofDigitChars 10 digits 0 := Nat.ofDigitChars_eq_foldl.symm

/-- What is read as a word are digits, perhaps after a plus. -/
theorem exists_of_readWord? {cs : List Char} {n : Nat} (h : readWord? cs = some n) :
    ∃ sign digits, cs = sign ++ digits ∧ (sign = [] ∨ sign = ['+']) ∧
      (∀ c ∈ digits, c.isDigit = true) ∧ Nat.ofDigitChars 10 digits 0 = n ∧ n < wordCount := by
  -- after the sign both forms are read alike
  have hread {digits : List Char} (h : (if digits.isEmpty || !digits.all Char.isDigit ||
      wordCount ≤ decimalValue digits then none else some (decimalValue digits)) = some n) :
      (∀ c ∈ digits, c.isDigit = true) ∧ Nat.ofDigitChars 10 digits 0 = n ∧ n < wordCount := by
    rw [decimalValue_eq] at h
    split at h
    · cases h
    · rename_i hgood
      obtain rfl : Nat.ofDigitChars 10 digits 0 = n := Option.some.inj h
      simp only [Bool.or_eq_true, not_or, Bool.not_eq_true', decide_eq_true_eq, Nat.not_le,
        Bool.not_eq_false] at hgood
      exact ⟨List.all_eq_true.mp hgood.1.2, rfl, hgood.2⟩
  unfold readWord? at h
  dsimp only at h
  split at h
  · rename_i digits
    exact ⟨['+'], digits, rfl, .inr rfl, hread h⟩
  · exact ⟨[], cs, rfl, .inl rfl, hread h⟩

/-- Digits are read as the word that they spell, also after a plus. -/
theorem readWord?_digits {sign digits : List Char} (hsign : sign = [] ∨ sign = ['+'])
    (hdigits : ∀ c ∈ digits, c.isDigit = true) (hpos : 0 < Nat.ofDigitChars 10 digits 0)
    (hword : Nat.ofDigitChars 10 digits 0 < wordCount) :
    readWord? (sign ++ digits) = some (Nat.ofDigitChars 10 digits 0) := by
  have hne : digits.isEmpty = false := by
    cases digits with
    | nil => exact absurd hpos (by simp)
    | cons c cs => rfl
  have hall : digits.all Char.isDigit = true := List.all_eq_true.mpr hdigits
  have hread : (if digits.isEmpty || !digits.all Char.isDigit ||
      wordCount ≤ decimalValue digits then none else some (decimalValue digits)) =
        some (Nat.ofDigitChars 10 digits 0) := by
    rw [decimalValue_eq, hne, hall, if_neg (by simpa using hword)]
  obtain rfl | rfl := hsign
  · rw [List.nil_append]
    unfold readWord?
    dsimp only
    split
    · -- no digit is a plus
      exact absurd (hdigits '+' List.mem_cons_self) (by decide)
    · exact hread
  · exact hread

/-- The rules of the dialects are those of the numbering. -/
theorem paramNumber?_eq_some_iff {d : Dialect} {text : String} {ordinal n : Nat} :
    paramNumber? d text ordinal = some n ↔ NumberedAs ordinal d text n := by
  constructor
  · intro h
    cases d with
    -- MySQL numbers a bare mark by its turn, and nothing else
    | mysql =>
      rw [paramNumber?] at h
      split at h
      · rename_i htext
        cases h
        exact htext ▸ .mark
      · cases h
    -- PostgreSQL reads the number behind the dollar sign, which has to be positive and to fit
    | postgres =>
      rw [paramNumber?] at h
      split at h
      · rename_i cs htext
        obtain ⟨hread, hpos⟩ := Option.filter_eq_some_iff.mp h
        obtain ⟨sign, digits, rfl, hsign, hdigits, rfl, hword⟩ := exists_of_readWord? hread
        have heq : text = String.ofList ('$' :: sign ++ digits) := by
          rw [List.cons_append, ← htext, String.ofList_toList]
        exact heq ▸ .numeral hsign hdigits (by simpa using hpos) hword
      · cases h
  · intro h
    cases h with
    | mark => rw [paramNumber?, if_pos rfl]
    | @numeral sign digits hsign hdigits hpos hword =>
      rw [paramNumber?, String.toList_ofList, List.cons_append]
      change (readWord? (sign ++ digits)).filter (0 < ·) = _
      rw [readWord?_digits hsign hdigits hpos hword, Option.filter_some,
        if_pos (decide_eq_true hpos)]

/-- The rules of a dialect accept a text as a placeholder. -/
def Accepts (d : Dialect) (text : String) : Prop := ∃ n, NumberedAs 1 d text n

instance (d : Dialect) (text : String) : Decidable (Accepts d text) :=
  decidable_of_iff ((paramNumber? d text 1).isSome = true) <| by
    rw [Option.isSome_iff_exists]
    exact exists_congr fun n => paramNumber?_eq_some_iff

theorem numbered_mysql_iff {text : String} {ordinal n : Nat} :
    NumberedAs ordinal .mysql text n ↔ text = "?" ∧ n = ordinal := by
  constructor
  · rintro ⟨⟩
    exact ⟨rfl, rfl⟩
  · rintro ⟨rfl, rfl⟩
    exact .mark

/-- What stands behind the dollar of a number may only be its digits. -/
theorem numbered_postgres_iff {digits : List Char} {ordinal n : Nat}
    (hdigits : ∀ c ∈ digits, c.isDigit = true) :
    NumberedAs ordinal .postgres (String.ofList ('$' :: digits)) n ↔
      n = Nat.ofDigitChars 10 digits 0 ∧ 0 < Nat.ofDigitChars 10 digits 0 ∧
        Nat.ofDigitChars 10 digits 0 < wordCount := by
  constructor
  · intro h
    generalize htext : String.ofList ('$' :: digits) = text at h
    cases h with
    | @numeral sign digits' hsign hdigits' hpos hword =>
      have hlist : digits = sign ++ digits' := by
        rw [String.ofList_inj] at htext
        exact (List.cons.inj htext).2
      obtain rfl | rfl := hsign
      · subst hlist
        exact ⟨rfl, hpos, hword⟩
      · -- no digit is a plus
        subst hlist
        exact absurd (hdigits '+' List.mem_cons_self) (by decide)
  · rintro ⟨rfl, hpos, hword⟩
    exact .numeral (.inl rfl) hdigits hpos hword

/-- Whether a placeholder is accepted does not depend on those before it. -/
theorem accepts_iff (d : Dialect) (text : String) (ordinal : Nat) :
    Accepts d text ↔ ∃ n, NumberedAs ordinal d text n := by
  constructor
  · rintro ⟨_, _ | ⟨hsign, hdigits, hpos, hword⟩⟩
    · exact ⟨ordinal, .mark⟩
    · exact ⟨_, .numeral hsign hdigits hpos hword⟩
  · rintro ⟨_, _ | ⟨hsign, hdigits, hpos, hword⟩⟩
    · exact ⟨1, .mark⟩
    · exact ⟨_, .numeral hsign hdigits hpos hword⟩

/-- Those of some texts that the rules accept. -/
def accepted (d : Dialect) (texts : List String) : List String := texts.filter (Accepts d ·)

namespace Conversion

/-! ## Tokens -/

/-- The tokens with a spelling are found by their indices. -/
theorem exists_token {text : String} {ps : List Sql.Placeholder} {j o : Nat}
    (h : (offsetsOf text ps)[j]? = some o) :
    ∃ k, (ps.findIdxs (·.text = text))[j]? = some k ∧ ps[k]? = some ⟨text, o⟩ := by
  rw [offsetsOf, List.getElem?_map] at h
  obtain ⟨token, htoken, rfl⟩ := Option.map_eq_some_iff.mp h
  obtain ⟨hj, hget⟩ := List.getElem?_eq_some_iff.mp htoken
  have hindex : j < (ps.findIdxs (·.text = text)).length := by
    rwa [List.length_findIdxs, List.countP_eq_length_filter]
  -- what is filtered for a text has that text
  have htext : token.text = text := by
    simpa using (List.mem_filter.mp (List.mem_of_getElem? htoken)).2
  refine ⟨(ps.findIdxs (·.text = text))[j], List.getElem?_eq_getElem hindex, ?_⟩
  rw [List.getElem?_eq_some_iff]
  refine ⟨by simpa using List.getElem_findIdxs_lt hindex, ?_⟩
  rw [← List.getElem_filter_eq_getElem_getElem_findIdxs hj, hget, ← htext]

/-- There are as many indices as there are tokens. -/
theorem getElem?_findIdxs_eq_none {text : String} {ps : List Sql.Placeholder} {j : Nat}
    (h : (offsetsOf text ps)[j]? = none) : (ps.findIdxs (·.text = text))[j]? = none := by
  rw [List.getElem?_eq_none_iff] at h ⊢
  rwa [offsetsOf, List.length_map, ← List.countP_eq_length_filter, ← List.length_findIdxs] at h

/-- A placeholder claims a token of the text, given by its index, and takes it away from those that
are left. Without one its location is the fallback, and all that are left stay. -/
inductive Claims (fallback : Nat) (ps left : List Sql.Placeholder) :
    Option Nat → Nat → List Sql.Placeholder → Prop where
  | token {k : Nat} {token : Sql.Placeholder} {rest : List Sql.Placeholder}
      (hindex : ps[k]? = some token) (hleft : left.Perm (token :: rest)) :
      Claims fallback ps left (some k) token.offset rest
  | fallback : Claims fallback ps left none fallback left

/-! ## Runs -/

/-- How far a conversion has come after some placeholders. One that is rejected does not end it. -/
def progressAfter (s : Setting) (ps : List Sql.Placeholder) (texts : List String) : Progress :=
  texts.foldl (fun p text => ((param text).run s p).2) (.start ps)

theorem progressAfter_concat (s : Setting) (ps : List Sql.Placeholder) (texts : List String)
    (text : String) :
    progressAfter s ps (texts ++ [text]) = ((param text).run s (progressAfter s ps texts)).2 := by
  rw [progressAfter, List.foldl_append]
  rfl

/-- The index of the token that is left for a placeholder: as many tokens with its spelling are
claimed as were accepted before. -/
def tokenOf (d : Dialect) (ps : List Sql.Placeholder) (before : List String) (text : String) :
    Option Nat := (ps.findIdxs (·.text = text))[(accepted d before).count text]?

/-- The location of a placeholder: the offset of its token. -/
def locationOf (s : Setting) (ps : List Sql.Placeholder) (before : List String) (text : String) :
    Nat := (offsetsOf text ps)[(accepted s.dialect before).count text]?.getD s.fallback

/-- The placeholders that were accepted are counted, and each has claimed the first token with its
spelling. -/
structure Follows (s : Setting) (ps : List Sql.Placeholder) (texts : List String) (p : Progress) :
    Prop where
  seen : p.seen = (accepted s.dialect texts).length
  left : ∀ text, offsetsOf text p.unclaimed =
    (offsetsOf text ps).drop ((accepted s.dialect texts).count text)

variable {s : Setting} {ps : List Sql.Placeholder} {before : List String} {text : String}
  {p : Progress}

theorem accepted_concat_of_accepts (h : Accepts s.dialect text) :
    accepted s.dialect (before ++ [text]) = accepted s.dialect before ++ [text] := by
  rw [accepted, List.filter_append, List.filter_cons_of_pos (by simpa using h), List.filter_nil,
    accepted]

theorem accepted_concat_of_not_accepts (h : ¬ Accepts s.dialect text) :
    accepted s.dialect (before ++ [text]) = accepted s.dialect before := by
  rw [accepted, List.filter_append, List.filter_cons_of_neg (by simpa using h), List.filter_nil,
    List.append_nil, accepted]

/-- A placeholder that the rules reject changes nothing. -/
theorem run_param_of_not_accepts (h : ¬ Accepts s.dialect text) (p : Progress) :
    (param text).run s p = (.error (.placeholder text), p) := by
  refine run_param_of_none (Option.eq_none_iff_forall_ne_some.mpr fun n hn => h ?_)
  exact (accepts_iff _ _ _).mpr ⟨n, paramNumber?_eq_some_iff.mp hn⟩

/-- A placeholder claims the token that is left for it, if there is one. -/
theorem Follows.claims (hp : Follows s ps before p) {rest : List Sql.Placeholder}
    (hrest : Leaves text p.unclaimed rest) :
    Claims s.fallback ps p.unclaimed (tokenOf s.dialect ps before text)
      (locationOf s ps before text) rest := by
  have hhead : (offsetsOf text p.unclaimed).head? =
      (offsetsOf text ps)[(accepted s.dialect before).count text]? := by
    rw [hp.left text, List.head?_drop]
  rw [locationOf, tokenOf]
  cases hoffset : (offsetsOf text ps)[(accepted s.dialect before).count text]? with
  | none =>
    -- there are no more tokens than were claimed
    rw [getElem?_findIdxs_eq_none hoffset, hrest.all (hhead.trans hoffset)]
    exact .fallback
  | some offset =>
    obtain ⟨k, hk, hindex⟩ := exists_token hoffset
    rw [hk]
    exact .token hindex (hrest.taken offset (hhead.trans hoffset))

/-- What a placeholder that the rules accept does to the progress. -/
theorem Follows.exists_run_param (hp : Follows s ps before p) (h : Accepts s.dialect text) :
    ∃ number rest, (param text).run s p =
        (.ok (.param number (locationOf s ps before text)),
          { p with seen := (accepted s.dialect before).length + 1, unclaimed := rest }) ∧
      NumberedAs ((accepted s.dialect before).length + 1) s.dialect text number ∧
      Claims s.fallback ps p.unclaimed (tokenOf s.dialect ps before text)
        (locationOf s ps before text) rest ∧
      Follows s ps (before ++ [text])
        { p with seen := (accepted s.dialect before).length + 1, unclaimed := rest } := by
  rw [← hp.seen]
  obtain ⟨number, hnumber⟩ := (accepts_iff s.dialect text (p.seen + 1)).mp h
  obtain ⟨rest, hclaim, hrest⟩ := exists_run_claim_leaves text s { p with seen := p.seen + 1 }
  have hlocation : (offsetsOf text p.unclaimed).head?.getD s.fallback =
      locationOf s ps before text := by
    rw [hp.left text, List.head?_drop, locationOf]
  rw [hlocation] at hclaim
  refine ⟨number, rest, run_param_of_some (paramNumber?_eq_some_iff.mpr hnumber) hclaim, hnumber,
    hp.claims hrest, ?_, fun other => ?_⟩
  · rw [accepted_concat_of_accepts h, List.length_append, ← hp.seen]
    rfl
  · -- only a token with this spelling is claimed
    rw [accepted_concat_of_accepts h, List.count_append]
    by_cases hne : text = other
    · subst hne
      rw [hrest.tail, hp.left text, List.tail_drop, List.count_singleton_self]
    · have hcount : [text].count other = 0 := List.count_eq_zero.mpr (by simpa using Ne.symm hne)
      rw [hrest.others other hne, hp.left other, hcount, Nat.add_zero]

theorem follows_progressAfter (s : Setting) (ps : List Sql.Placeholder) (texts : List String) :
    Follows s ps texts (progressAfter s ps texts) := by
  -- the last placeholder is the one that meets what all others have left
  induction texts using List.reverseRecOn with
  | nil => exact ⟨rfl, fun _ => rfl⟩
  | append_singleton before text ih =>
    rw [progressAfter_concat]
    by_cases h : Accepts s.dialect text
    · obtain ⟨number, rest, hrun, -, -, hfollows⟩ := ih.exists_run_param h
      rw [hrun]
      exact hfollows
    · rw [run_param_of_not_accepts h]
      exact ⟨by rw [accepted_concat_of_not_accepts h, ih.seen], fun other => by
        rw [accepted_concat_of_not_accepts h, ih.left other]⟩

/-! ## Matching -/

/-- Two placeholders that are accepted have tokens of their own. -/
theorem tokenOf_ne (h : Accepts s.dialect text) {k : Nat}
    (hk : tokenOf s.dialect ps before text = some k) (mid : List String) (later : String) :
    tokenOf s.dialect ps (before ++ text :: mid) later ≠ some k := by
  intro hlater
  obtain ⟨hlt, htext⟩ := List.mem_findIdxs_iff_exists_getElem_pos.mp (List.mem_of_getElem? hk)
  obtain ⟨_, htext'⟩ := List.mem_findIdxs_iff_exists_getElem_pos.mp (List.mem_of_getElem? hlater)
  obtain rfl : text = later := by
    rw [decide_eq_true_eq] at htext htext'
    exact htext.symm.trans htext'
  -- the later one is counted further, and no index is listed twice
  have hcount : (accepted s.dialect (before ++ text :: mid)).count text =
      (accepted s.dialect before).count text + (accepted s.dialect mid).count text + 1 := by
    rw [accepted, List.filter_append, List.filter_cons_of_pos (by simpa using h), List.count_append,
      List.count_cons_self, ← Nat.add_assoc]
    rfl
  obtain ⟨hi, -⟩ := List.getElem?_eq_some_iff.mp hk
  have hindex := (List.getElem?_inj hi List.nodup_findIdxs).mp (hk.trans hlater.symm)
  omega

/-- What becomes of a placeholder that a conversion meets after some others. -/
structure Matched (s : Setting) (ps : List Sql.Placeholder) (before : List String) (text : String) :
    Prop where
  /-- The placeholders that were accepted are counted. -/
  seen : (progressAfter s ps before).seen = (accepted s.dialect before).length
  /-- One that the rules reject changes neither the count nor the claims. -/
  rejected : ¬ Accepts s.dialect text →
    (param text).run s (progressAfter s ps before) =
      (.error (.placeholder text), progressAfter s ps before)
  /-- One that the rules accept is counted, and located at the first token with its spelling that
  none has claimed. -/
  accepted : Accepts s.dialect text → ∃ number rest,
    (param text).run s (progressAfter s ps before) =
      (.ok (.param number (locationOf s ps before text)),
        { progressAfter s ps before with
          seen := (accepted s.dialect before).length + 1, unclaimed := rest }) ∧
    NumberedAs ((accepted s.dialect before).length + 1) s.dialect text number ∧
    Claims s.fallback ps (progressAfter s ps before).unclaimed
      (tokenOf s.dialect ps before text) (locationOf s ps before text) rest
  /-- Its token is that of no later one. -/
  unshared : Accepts s.dialect text → ∀ k, tokenOf s.dialect ps before text = some k →
    ∀ mid later, tokenOf s.dialect ps (before ++ text :: mid) later ≠ some k
  /-- In MySQL, marks are accepted and counted. -/
  mark : s.dialect = .mysql → (Accepts s.dialect text ↔ text = "?") ∧
    ∀ ordinal n, NumberedAs ordinal s.dialect text n → n = ordinal
  /-- In PostgreSQL, numbers are accepted from one on if they are words, and kept. -/
  numeral : s.dialect = .postgres → ∀ digits : List Char, (∀ c ∈ digits, c.isDigit = true) →
    text = String.ofList ('$' :: digits) →
      (Accepts s.dialect text ↔
        0 < Nat.ofDigitChars 10 digits 0 ∧ Nat.ofDigitChars 10 digits 0 < wordCount) ∧
      ∀ ordinal n, NumberedAs ordinal s.dialect text n → n = Nat.ofDigitChars 10 digits 0

/-- Placeholders are matched with the tokens of a text in the order in which they are converted,
whatever was rejected among them. -/
theorem placeholders_matched (s : Setting) (ps : List Sql.Placeholder) (before : List String)
    (text : String) : Matched s ps before text where
  seen := (follows_progressAfter s ps before).seen
  rejected h := run_param_of_not_accepts h _
  accepted h := by
    obtain ⟨number, rest, hrun, hnumber, hclaims, -⟩ :=
      (follows_progressAfter s ps before).exists_run_param h
    exact ⟨number, rest, hrun, hnumber, hclaims⟩
  unshared h _ hk := tokenOf_ne h hk
  -- a mark is numbered by its turn whenever it is numbered at all
  mark hd := by
    rw [hd]
    refine ⟨⟨fun ⟨n, h⟩ => (numbered_mysql_iff.mp h).1, fun h => ⟨1, h ▸ .mark⟩⟩, fun _ _ h => ?_⟩
    exact (numbered_mysql_iff.mp h).2
  -- the number of a numeral is the one that it says
  numeral hd digits hdigits htext := by
    rw [hd, htext]
    refine ⟨⟨fun ⟨n, h⟩ => ?_, fun hword => ?_⟩, fun _ _ h => ?_⟩
    · exact ((numbered_postgres_iff hdigits).mp h).2
    · exact ⟨_, (numbered_postgres_iff hdigits).mpr ⟨rfl, hword⟩⟩
    · exact ((numbered_postgres_iff hdigits).mp h).1

/-- Three placeholders of PostgreSQL, the first and the last of which are spelled alike. -/
def threeTokens : List Sql.Placeholder := [⟨"$2", 7⟩, ⟨"$1", 12⟩, ⟨"$2", 20⟩]

/-- A number that was converted before is met again, after one that is too small. -/
theorem placeholders_matched_threeTokens :
    (param "$0").run ⟨.postgres, 0, false⟩
        (progressAfter ⟨.postgres, 0, false⟩ threeTokens ["$2"]) =
      (.error (.placeholder "$0"), progressAfter ⟨.postgres, 0, false⟩ threeTokens ["$2"]) ∧
    ∃ rest, (param "$2").run ⟨.postgres, 0, false⟩
        (progressAfter ⟨.postgres, 0, false⟩ threeTokens ["$2", "$0"]) =
      (.ok (.param 2 20),
        { progressAfter ⟨.postgres, 0, false⟩ threeTokens ["$2", "$0"] with
          seen := 2, unclaimed := rest }) := by
  have hzero := placeholders_matched ⟨.postgres, 0, false⟩ threeTokens ["$2"] "$0"
  have htwo := placeholders_matched ⟨.postgres, 0, false⟩ threeTokens ["$2", "$0"] "$2"
  obtain ⟨hpositive, -⟩ := hzero.numeral rfl ['0'] (by simp) rfl
  obtain ⟨hword, hvalue⟩ := htwo.numeral rfl ['2'] (by simp) rfl
  have hrejected : ¬ Accepts .postgres "$0" := fun h =>
    absurd (hpositive.mp h).1 (by simp [Nat.ofDigitChars])
  have haccepted : Accepts .postgres "$2" := hword.mpr (by simp [Nat.ofDigitChars, wordCount])
  obtain ⟨number, rest, hrun, hnumber, -⟩ := htwo.accepted haccepted
  obtain rfl : number = 2 := hvalue _ _ hnumber
  -- the first of the two tokens is claimed already
  have hlocation : locationOf ⟨.postgres, 0, false⟩ threeTokens ["$2", "$0"] "$2" = 20 := by
    decide +kernel
  exact ⟨hzero.rejected hrejected, rest, hlocation ▸ hrun⟩

end Conversion

end TypedSql.Canonical
