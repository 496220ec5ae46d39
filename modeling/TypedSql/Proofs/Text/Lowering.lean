import Mathlib
import TypedSql.Text.Lowercase

/-!
# Parts of lower-cased texts

Lower-casing looks around at a capital sigma only, and its look ends at the first character that
could stand between two words. So the parts of a text between such characters are lower-cased on
their own.

- **Characters**: marks are the lower-case forms of themselves only
- **Separators**: no look goes past one
- **ASCII**: every character on its own
- **Lengths**: no form is longer than two characters
-/

namespace TypedSql.Text

/-! ## Characters -/

/-- A printed ASCII character before the small letters that is no capital. -/
def IsMark (c : Char) : Prop := 0x20 ≤ c.toNat ∧ c.toNat < 0x61 ∧ c.isUpper = false

instance (c : Char) : Decidable (IsMark c) := inferInstanceAs (Decidable (_ ∧ _))

/-- Every run leads to letters. -/
theorem le_of_runImage? {n m : Nat} (h : runImage? n lowercaseRuns = some m) : 0x61 ≤ m := by
  have hruns : ∀ run ∈ lowercaseRuns, 0x61 ≤ run.2.2.2 := by decide +kernel
  revert hruns h
  induction lowercaseRuns with
  | nil => simp [runImage?]
  | cons run runs ih =>
    obtain ⟨first, last, step, image⟩ := run
    intro h hruns
    rw [runImage?] at h
    split at h
    · cases h
      exact (hruns _ List.mem_cons_self).trans (Nat.le_add_right _ _)
    · exact ih h fun run hrun => hruns run (List.mem_cons_of_mem _ hrun)

theorem lowerChar_of_ascii {c : Char} (h : c.toNat < 0x80) : lowerChar c = [c.toLower] := by
  rw [lowerChar, if_pos h]

/-- A character is its own small form, or the small form is a small letter. -/
theorem toLower_cases (c : Char) : c.toLower = c ∨ 0x61 ≤ c.toLower.toNat := by
  rw [Char.toLower]
  split
  · next h =>
    right
    have hfirst : 0x41 ≤ c.val.toNat := h.1
    have hlast : c.val.toNat ≤ 0x5A := h.2
    have hsum : (c.val + ('a'.val - 'A'.val)).toNat = c.val.toNat + 0x20 := by
      rw [UInt32.toNat_add]
      exact Nat.mod_eq_of_lt (by change c.val.toNat + 0x20 < 2 ^ 32; omega)
    change 0x61 ≤ (c.val + ('a'.val - 'A'.val)).toNat
    omega
  · exact .inl rfl

/-- A code point stands for its character, unless it stands for none. -/
theorem toNat_ofNat_cases (n : Nat) : (Char.ofNat n).toNat = n ∨ (Char.ofNat n).toNat = 0 := by
  rw [Char.ofNat]
  split
  · exact .inl rfl
  · exact .inr rfl

theorem lowerChar_of_isMark {mark : Char} (hmark : IsMark mark) : lowerChar mark = [mark] := by
  have hself : mark.toLower = mark := by
    rw [Char.toLower, dif_neg]
    simpa [Char.isUpper] using hmark.2.2
  rw [lowerChar_of_ascii (hmark.2.1.trans (by decide)), hself]

/-- A mark is in the lower-case form of itself only. -/
theorem mem_lowerChar_iff {mark : Char} (hmark : IsMark mark) {c : Char} :
    mark ∈ lowerChar c ↔ c = mark := by
  obtain ⟨hprinted, hsmall, hupper⟩ := hmark
  constructor
  · intro h
    by_cases hascii : c.toNat < 0x80
    · rw [lowerChar_of_ascii hascii, List.mem_singleton] at h
      rcases toLower_cases c with hself | hletter
      · rw [h, hself]
      · rw [← h] at hletter
        omega
    · rw [lowerChar, if_neg hascii] at h
      split at h
      · have hpair : ∀ x ∈ ['i', Char.ofNat 0x307], ¬ x.toNat < 0x61 :=
          List.forall_iff_forall_mem.mp (by decide)
        exact absurd hsmall (hpair mark h)
      · split at h
        · next image himage =>
          -- the image is past the marks, or stands for no character
          have hle := le_of_runImage? himage
          have hcases := toNat_ofNat_cases image
          rw [← List.mem_singleton.mp h] at hcases
          omega
        · rw [List.mem_singleton.mp h]
  · rintro rfl
    rw [lowerChar_of_isMark ⟨hprinted, hsmall, hupper⟩]
    exact List.mem_singleton_self c

theorem lowerFrom_nil (before : List Char) : lowerFrom before [] = [] := rfl

theorem lowerFrom_cons (before : List Char) {c : Char} (h : c ≠ 'Σ') (cs : List Char) :
    lowerFrom before (c :: cs) = lowerChar c ++ lowerFrom (c :: before) cs := by
  rw [lowerFrom, if_neg h]

/-- Every character of a text has a form, and only a mark has one with that mark. -/
theorem exists_lowerFrom_cons (before : List Char) (c : Char) (cs : List Char) :
    ∃ image, lowerFrom before (c :: cs) = image ++ lowerFrom (c :: before) cs ∧
      ∀ mark, IsMark mark → (mark ∈ image ↔ c = mark) := by
  by_cases hsigma : c = 'Σ'
  · subst hsigma
    refine ⟨_, rfl, fun mark hmark => ?_⟩
    -- neither form of the letter is ASCII
    have hforms : ∀ x ∈ ['ς', 'σ', 'Σ'], ¬ x.toNat < 0x61 :=
      List.forall_iff_forall_mem.mp (by decide)
    constructor
    · intro h
      refine absurd hmark.2.1 (hforms mark ?_)
      rw [if_pos rfl] at h
      rw [List.mem_singleton.mp h]
      split <;> simp
    · rintro rfl
      exact absurd hmark.2.1 (hforms _ (by simp))
  · exact ⟨_, lowerFrom_cons before hsigma cs, fun mark hmark => mem_lowerChar_iff hmark⟩

/-- A text has the marks that its lower-case form has. -/
theorem mem_lowerFrom_iff {mark : Char} (hmark : IsMark mark) {before cs : List Char} :
    mark ∈ lowerFrom before cs ↔ mark ∈ cs := by
  induction cs generalizing before with
  | nil => simp [lowerFrom_nil]
  | cons c cs ih =>
    obtain ⟨image, hcut, himage⟩ := exists_lowerFrom_cons before c cs
    rw [hcut, List.mem_append, List.mem_cons, ih, himage mark hmark, eq_comm]

/-! ## Separators -/

/-- A mark that no letter of one word stands on both sides of. -/
def IsSeparator (c : Char) : Prop := IsMark c ∧ isCaseIgnorable c = false ∧ isCased c = false

instance (c : Char) : Decidable (IsSeparator c) := inferInstanceAs (Decidable (_ ∧ _))

/-- Brackets separate. -/
theorem isSeparator_bracket : ∀ c ∈ ['(', ')', '[', ']', '<', '>'], IsSeparator c :=
  List.forall_iff_forall_mem.mp (by decide +kernel)

/-- The search for a letter ends at a separator. -/
theorem startsCased_append_separator {c : Char} (hc : IsSeparator c) (cs rest : List Char) :
    startsCased (cs ++ c :: rest) = startsCased cs := by
  -- if all characters up to the separator are skipped, the search stops there without a letter
  have hsearch : ∀ front, (∀ d ∈ front, isCaseIgnorable d = true) →
      startsCased (front ++ c :: rest) = false := by
    intro front hfront
    rw [startsCased, List.dropWhile_append_of_pos hfront,
      List.dropWhile_cons_of_neg (by simp [hc.2.1])]
    exact hc.2.2
  induction cs with
  | nil => exact hsearch [] (List.forall_mem_nil _)
  | cons d cs ih =>
    cases hd : isCaseIgnorable d with
    | true => simpa [startsCased, hd] using ih
    | false => simp [startsCased, hd]

/-- What stands before a separator does not matter to what stands behind it. -/
theorem lowerFrom_behind_separator {c : Char} (hc : IsSeparator c) (before far cs : List Char) :
    lowerFrom (before ++ c :: far) cs = lowerFrom before cs := by
  induction cs generalizing before with
  | nil => rfl
  | cons d cs ih =>
    rw [lowerFrom, lowerFrom, startsCased_append_separator hc, ← List.cons_append, ih]

/-- The texts on both sides of a separator are lower-cased on their own. -/
theorem lowerFrom_append_separator {c : Char} (hc : IsSeparator c) (before cs rest : List Char) :
    lowerFrom before (cs ++ c :: rest) = lowerFrom before cs ++ c :: lowerFrom [] rest := by
  induction cs generalizing before with
  | nil =>
    have hsigma : c ≠ 'Σ' := fun h => absurd hc.1.2.1 (by rw [h]; decide)
    have hfar := lowerFrom_behind_separator hc [] before rest
    rw [List.nil_append] at hfar
    rw [List.nil_append, lowerFrom_cons before hsigma, lowerChar_of_isMark hc.1, hfar]
    rfl
  | cons d cs ih =>
    rw [List.cons_append, lowerFrom, lowerFrom, startsCased_append_separator hc, ih,
      List.append_assoc]

/-! ## ASCII -/

/-- In an ASCII text every character is lower-cased on its own. -/
theorem lowerFrom_of_ascii {cs : List Char} (h : ∀ c ∈ cs, c.toNat < 0x80) (before : List Char) :
    lowerFrom before cs = cs.map Char.toLower := by
  induction cs generalizing before with
  | nil => rfl
  | cons c cs ih =>
    have hc := h c List.mem_cons_self
    have hsigma : c ≠ 'Σ' := fun hc' => absurd hc (by rw [hc']; decide)
    rw [lowerFrom_cons before hsigma, lowerChar_of_ascii hc,
      ih fun d hd => h d (List.mem_cons_of_mem _ hd)]
    rfl

/-- Without a capital sigma every character is lower-cased on its own. -/
theorem lowerFrom_of_not_mem {cs : List Char} (h : 'Σ' ∉ cs) (before : List Char) :
    lowerFrom before cs = cs.flatMap lowerChar := by
  induction cs generalizing before with
  | nil => rfl
  | cons c cs ih =>
    have hc : c ≠ 'Σ' := fun hc => h (hc ▸ List.mem_cons_self)
    rw [lowerFrom_cons before hc, ih fun hcs => h (List.mem_cons_of_mem _ hcs), List.flatMap_cons]

/-- A text ends as its last part does, lower-cased behind the part before it. -/
theorem exists_lowerFrom_append (before cs rest : List Char) :
    ∃ front, lowerFrom before (cs ++ rest) = front ++ lowerFrom (cs.reverse ++ before) rest := by
  induction cs generalizing before with
  | nil => exact ⟨[], rfl⟩
  | cons c cs ih =>
    obtain ⟨front, hfront⟩ := ih (c :: before)
    rw [List.cons_append, lowerFrom, hfront, List.reverse_cons, List.append_assoc]
    exact ⟨_, (List.append_assoc _ _ _).symm⟩

/-! ## Lengths -/

theorem length_lowerChar_le (c : Char) : (lowerChar c).length ≤ 2 := by
  rw [lowerChar]
  split
  · simp
  · split
    · simp
    · split <;> simp

theorem length_lowerFrom_le (before cs : List Char) :
    (lowerFrom before cs).length ≤ 2 * cs.length := by
  induction cs generalizing before with
  | nil => exact Nat.le_refl 0
  | cons c cs ih =>
    have hrest := ih (c :: before)
    have hc := length_lowerChar_le c
    rw [lowerFrom, List.length_append, List.length_cons]
    split
    · rw [List.length_singleton]
      omega
    · omega

end TypedSql.Text
