import Mathlib.Data.List.Induction
import TypedSql.Text.Position

/-!
# Offsets and positions

A place between two characters splits a text in two, `before ++ after`. Its offset in bytes is the
size of the first part, its position is where that part ends, and each of the two leads to the
other.

- **Bytes**: the parts of a text by their sizes
- **Lines**: the position after a text by its last line
- **Places**: the offset of a position
-/

namespace TypedSql.Text

/-! ## Bytes -/

@[simp] theorem byteSize_nil : byteSize [] = 0 := rfl

@[simp] theorem byteSize_cons (c : Char) (cs : List Char) :
    byteSize (c :: cs) = c.utf8Size + byteSize cs := rfl

@[simp] theorem byteSize_append (a b : List Char) :
    byteSize (a ++ b) = byteSize a + byteSize b := by
  induction a with
  | nil => simp
  | cons c cs ih => simp [ih, Nat.add_assoc]

theorem byteSize_pos {cs : List Char} (h : cs ≠ []) : 0 < byteSize cs := by
  cases cs with
  | nil => exact absurd rfl h
  | cons c cs => exact Nat.add_pos_left c.utf8Size_pos _

theorem takeBytes?_append (a b : List Char) : takeBytes? (byteSize a) (a ++ b) = some a := by
  induction a with
  | nil => cases b <;> simp [takeBytes?]
  | cons c cs ih =>
    have hpos := c.utf8Size_pos
    simp [takeBytes?, ih, Nat.ne_of_gt hpos]

theorem dropBytes_append (a b : List Char) : dropBytes (byteSize a) (a ++ b) = b := by
  induction a with
  | nil => cases b <;> simp [dropBytes]
  | cons c cs ih =>
    have hpos := c.utf8Size_pos
    simp [dropBytes, ih, Nat.ne_of_gt hpos]

theorem slice_append (a b c : List Char) :
    slice (byteSize a) (byteSize a + byteSize b) (a ++ b ++ c) = b := by
  simp [slice, List.append_assoc, dropBytes_append, takeBytes?_append]

/-! ## Lines -/

namespace Position

@[simp] theorem afterText_nil (p : Position) : p.afterText [] = p := rfl

@[simp] theorem afterText_cons (p : Position) (c : Char) (cs : List Char) :
    p.afterText (c :: cs) = (p.after c).afterText cs := rfl

@[simp] theorem afterText_append (p : Position) (a b : List Char) :
    p.afterText (a ++ b) = (p.afterText a).afterText b := List.foldl_append

/-- Every line end of a text leads to the next line. -/
theorem line_afterText (p : Position) (cs : List Char) :
    (p.afterText cs).line = p.line + cs.count '\n' := by
  induction cs generalizing p with
  | nil => simp
  | cons c cs ih =>
    rw [afterText_cons, ih]
    by_cases hc : c = '\n'
    · simp only [after, hc, ↓reduceIte, List.count_cons_self]
      omega
    · simp [after, hc]

/-- Within a line every character leads to the next column. -/
theorem afterText_of_notMem {cs : List Char} (h : '\n' ∉ cs) (p : Position) :
    p.afterText cs = ⟨p.line, p.column + cs.length⟩ := by
  induction cs generalizing p with
  | nil => rfl
  | cons c cs ih =>
    have hc : c ≠ '\n' := fun heq => h (heq ▸ List.mem_cons_self)
    have hcs : '\n' ∉ cs := fun hmem => h (List.mem_cons_of_mem c hmem)
    simp only [afterText_cons, after, hc, ↓reduceIte, ih hcs, List.length_cons, mk.injEq,
      true_and]
    omega

end Position

/-- A text made of whole lines, each with its line end. -/
def WholeLines (cs : List Char) : Prop := cs = [] ∨ cs.getLast? = some '\n'

theorem exists_lastLine (cs : List Char) :
    ∃ lines line, cs = lines ++ line ∧ WholeLines lines ∧ '\n' ∉ line := by
  induction cs using List.reverseRecOn with
  | nil => exact ⟨[], [], rfl, .inl rfl, List.not_mem_nil⟩
  | append_singleton cs c ih =>
    obtain ⟨lines, line, rfl, hlines, hline⟩ := ih
    by_cases hc : c = '\n'
    · exact ⟨lines ++ line ++ [c], [], (List.append_nil _).symm, .inr (by simp [hc]),
        List.not_mem_nil⟩
    · exact ⟨lines, line ++ [c], List.append_assoc .., hlines, by simp [hline, Ne.symm hc]⟩

theorem WholeLines.tail {c : Char} {cs : List Char} (h : WholeLines (c :: cs)) :
    WholeLines cs := by
  cases cs with
  | nil => exact .inl rfl
  | cons d ds =>
    obtain h | h := h
    · cases h
    · exact .inr (by simpa using h)

/-- A text of whole lines ends where a line starts. -/
theorem WholeLines.afterText {cs : List Char} (h : WholeLines cs) :
    Position.first.afterText cs = ⟨cs.count '\n' + 1, 1⟩ := by
  obtain rfl | hlast := h
  · rfl
  · obtain ⟨init, rfl⟩ := List.getLast?_eq_some_iff.1 hlast
    have hline : (Position.first.afterText init).line = 1 + init.count '\n' :=
      Position.line_afterText .first init
    simp [Position.after, hline, Nat.add_comm]

/-- Whole lines are skipped by the number of their line ends. -/
theorem WholeLines.skipLines {cs : List Char} (h : WholeLines cs) (skipped : Nat)
    (rest : List Char) :
    Position.skipLines (cs.count '\n') skipped (cs ++ rest) =
      some (skipped + byteSize cs, rest) := by
  induction cs generalizing skipped with
  | nil => cases rest <;> simp [Position.skipLines]
  | cons c cs ih =>
    by_cases hc : c = '\n'
    · simp [hc, Position.skipLines, ih h.tail, Nat.add_assoc]
    · -- the line goes on, so a line end is still to come
      obtain ⟨n, hn⟩ : ∃ n, cs.count '\n' = n + 1 := by
        refine Nat.exists_eq_add_one.2 (List.count_pos_iff.2 ?_)
        obtain rfl | hlast := h.tail
        · obtain h | h := h
          · cases h
          · exact absurd (by simpa using h) hc
        · exact List.mem_of_getLast? hlast
      have hskip := ih h.tail (skipped + c.utf8Size)
      simp only [hn] at hskip
      simp [hc, hn, Position.skipLines, hskip, Nat.add_assoc]

/-! ## Places -/

/-- The position where a part of a text ends has the size of that part as its offset. -/
theorem Position.offset_afterText (before rest : List Char) :
    (first.afterText before).offset (before ++ rest) = byteSize before := by
  obtain ⟨lines, line, rfl, hlines, hline⟩ := exists_lastLine before
  have hplace : first.afterText (lines ++ line) =
      ⟨lines.count '\n' + 1, 1 + line.length⟩ := by
    rw [afterText_append, hlines.afterText, afterText_of_notMem hline]
  have hskip := hlines.skipLines 0 (line ++ rest)
  rw [hplace, offset, List.append_assoc, Nat.add_sub_cancel, hskip]
  simp

end TypedSql.Text
