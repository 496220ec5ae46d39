import Mathlib.Data.List.TakeWhile
import TypedSql.Text.CharClass

/-!
# Trimmed texts and words

What is left of a text whose parts are known: blanks on either side are trimmed, and blanks between
other characters separate words.

- **Texts**: blanks, words, and texts with no blank at either end
- **Trimming**: the blanks at either end of a text do not matter to its trimmed form
- **Words**: the words of a text, from left to right
- **Affixes**: what follows the start of a text, and what precedes its end
-/

namespace TypedSql.Text

/-! ## Texts -/

/-- Nothing but blanks. -/
def AllBlank (cs : List Char) : Prop := ∀ c ∈ cs, isBlank c = true

/-- A text that is not empty and has no blanks. -/
def IsWord (cs : List Char) : Prop := cs ≠ [] ∧ ∀ c ∈ cs, isBlank c = false

/-- A text whose first character is no blank, if it has one. -/
def StartsFull (cs : List Char) : Prop := ∀ c ∈ cs.head?, isBlank c = false

/-- A text whose last character is no blank, if it has one. -/
def EndsFull (cs : List Char) : Prop := ∀ c ∈ cs.getLast?, isBlank c = false

-- The instances are given, since a search may find the one that goes through all characters.
instance (cs : List Char) : Decidable (AllBlank cs) := List.decidableBAll _ cs

instance (cs : List Char) : Decidable (IsWord cs) :=
  @instDecidableAnd _ _ _ (List.decidableBAll _ cs)

instance (cs : List Char) : Decidable (StartsFull cs) := cs.head?.decidableForallMem

instance (cs : List Char) : Decidable (EndsFull cs) := cs.getLast?.decidableForallMem

theorem IsWord.startsFull {cs : List Char} (h : IsWord cs) : StartsFull cs :=
  fun c hc => h.2 c (List.mem_of_head? hc)

theorem IsWord.endsFull {cs : List Char} (h : IsWord cs) : EndsFull cs :=
  fun c hc => h.2 c (List.mem_of_getLast? hc)

/-! ## Trimming -/

theorem trimStart_append {gap : List Char} (hgap : AllBlank gap) (cs : List Char) :
    trimStart (gap ++ cs) = trimStart cs := List.dropWhile_append_of_pos hgap

theorem trimStart_of_startsFull {cs : List Char} (h : StartsFull cs) : trimStart cs = cs := by
  cases cs with
  | nil => rfl
  | cons c cs => simp [trimStart, h c rfl]

theorem startsFull_trimStart (cs : List Char) : StartsFull (trimStart cs) := by
  intro c hc
  have h := List.head?_dropWhile_not isBlank cs
  rw [show (List.dropWhile isBlank cs).head? = some c from hc] at h
  exact h

/-- A text is its blanks at the start and the rest. -/
theorem exists_blank_append_trimStart (cs : List Char) :
    ∃ gap, AllBlank gap ∧ cs = gap ++ trimStart cs :=
  ⟨cs.takeWhile isBlank, fun _ hc => List.mem_takeWhile_imp hc,
    List.takeWhile_append_dropWhile.symm⟩

theorem trimEnd_append {gap : List Char} (hgap : AllBlank gap) (cs : List Char) :
    trimEnd (cs ++ gap) = trimEnd cs := by
  have hback : ∀ c ∈ gap.reverse, isBlank c = true := fun c hc => hgap c (List.mem_reverse.mp hc)
  rw [trimEnd, trimEnd, List.reverse_append, List.dropWhile_append_of_pos hback]

theorem trimEnd_of_endsFull {cs : List Char} (h : EndsFull cs) : trimEnd cs = cs := by
  rcases List.eq_nil_or_concat cs with rfl | ⟨front, c, rfl⟩
  · rfl
  · have hc : isBlank c = false := h c (by simp)
    simp [trimEnd, hc]

theorem startsFull_append {cs : List Char} (h : StartsFull cs) (hne : cs ≠ []) (rest : List Char) :
    StartsFull (cs ++ rest) := by
  intro c hc
  rw [List.head?_append, Option.or_of_isSome (by simpa using hne)] at hc
  exact h c hc

theorem endsFull_append {cs : List Char} (h : EndsFull cs) (hne : cs ≠ []) (front : List Char) :
    EndsFull (front ++ cs) := by
  intro c hc
  rw [List.getLast?_append, Option.or_of_isSome (by simpa using hne)] at hc
  exact h c hc

/-- Between blanks a text is found as it is. -/
theorem trim_between {before cs after : List Char} (hbefore : AllBlank before)
    (hafter : AllBlank after) (hstart : StartsFull cs) (hend : EndsFull cs) :
    trim (String.ofList (before ++ cs ++ after)) = String.ofList cs := by
  rw [trim, String.toList_ofList, List.append_assoc, trimStart_append hbefore]
  congr 1
  cases cs with
  | nil =>
    -- nothing but blanks
    rw [List.nil_append, ← List.append_nil after, trimStart_append hafter]
    rfl
  | cons c cs =>
    have hfull : StartsFull (c :: cs ++ after) := hstart
    rw [trimStart_of_startsFull hfull, trimEnd_append hafter, trimEnd_of_endsFull hend]

/-! ## Words -/

theorem wordsFrom_append_word {part : List Char} (h : ∀ c ∈ part, isBlank c = false)
    (word cs : List Char) : wordsFrom word (part ++ cs) = wordsFrom (part.reverse ++ word) cs := by
  induction part generalizing word with
  | nil => rfl
  | cons c part ih =>
    have hc : isBlank c = false := h c List.mem_cons_self
    rw [List.cons_append, wordsFrom, hc, if_neg Bool.false_ne_true,
      ih (fun d hd => h d (List.mem_cons_of_mem _ hd)), List.reverse_cons, List.append_assoc,
      List.singleton_append]

/-- A word is the only word of itself. -/
theorem words_of_isWord {cs : List Char} (h : IsWord cs) :
    words (String.ofList cs) = [String.ofList cs] := by
  have hfrom : wordsFrom [] (cs ++ []) = [cs] := by
    rw [wordsFrom_append_word h.2, wordsFrom]
    simp [h.1]
  rw [words, String.toList_ofList, ← List.append_nil cs, hfrom, List.append_nil]
  rfl

/-- A word ends where a blank follows. -/
theorem words_append_blank {part cs : List Char} (h : IsWord part)
    (hcs : ∀ c ∈ cs.head?, isBlank c = true) :
    words (String.ofList (part ++ cs)) = String.ofList part :: words (String.ofList cs) := by
  have hpart : part.reverse.isEmpty = false := by simpa using h.1
  simp only [words, String.toList_ofList]
  rw [wordsFrom_append_word h.2, List.append_nil]
  cases cs with
  | nil => simp [wordsFrom, hpart]
  | cons c cs => simp [wordsFrom, hcs c rfl, hpart]

/-- The first word of a text goes on up to a blank. -/
theorem exists_words_append {part : List Char} (h : ∀ c ∈ part, isBlank c = false)
    (hne : part ≠ []) (cs : List Char) :
    ∃ tail rest, words (String.ofList (part ++ cs)) = String.ofList (part ++ tail) :: rest := by
  -- the first word goes on up to the next blank of the second part
  have hcs := List.takeWhile_append_dropWhile (p := (!isBlank ·)) (l := cs)
  have hword : IsWord (part ++ cs.takeWhile (!isBlank ·)) := by
    refine ⟨by simp [hne], fun c hc => ?_⟩
    rcases List.mem_append.mp hc with hc | hc
    · exact h c hc
    · simpa using List.mem_takeWhile_imp hc
  -- what stands behind the word is empty or begins with a blank
  have hblank : ∀ c ∈ (cs.dropWhile (!isBlank ·)).head?, isBlank c = true := by
    intro c hc
    have hhead := List.head?_dropWhile_not (!isBlank ·) cs
    rw [Option.mem_def.mp hc] at hhead
    simpa using hhead
  have hcut := words_append_blank hword hblank
  rw [List.append_assoc, hcs] at hcut
  exact ⟨_, _, hcut⟩

/-! ## Affixes -/

theorem afterPrefix?_append (pre s : String) : afterPrefix? pre (pre ++ s) = some s := by
  simp [afterPrefix?, String.toList_append]

theorem afterPrefix?_eq_some_iff {pre s rest : String} :
    afterPrefix? pre s = some rest ↔ s = pre ++ rest := by
  constructor
  · intro h
    simp only [afterPrefix?, Option.ite_none_right_eq_some, Option.some.injEq] at h
    obtain ⟨hstarts, rfl⟩ := h
    obtain ⟨cs, hcs⟩ := List.isPrefixOf_iff_prefix.mp hstarts
    rw [← String.toList_inj, String.toList_append, String.toList_ofList, ← hcs, List.drop_left]
  · rintro rfl
    exact afterPrefix?_append pre rest

theorem afterPrefix?_eq_none_iff {pre s : String} :
    afterPrefix? pre s = none ↔ ∀ rest, s ≠ pre ++ rest := by
  rw [Option.eq_none_iff_forall_ne_some]
  exact forall_congr' fun rest => not_congr afterPrefix?_eq_some_iff

theorem beforeSuffix?_append (s post : String) : beforeSuffix? post (s ++ post) = some s := by
  simp [beforeSuffix?, String.toList_append]

end TypedSql.Text
