/-!
# Directories

Finite maps from names to values, kept as lists of entries in increasing order of their names. Two
directories that answer every lookup alike are equal.
-/

namespace TypedSql

/-- Puts an entry in its place among sorted entries; an entry with the same name gives way. -/
def insertEntry {α : Type} (k : String) (v : α) : List (String × α) → List (String × α)
  | [] => [(k, v)]
  | (k', v') :: es =>
    if k < k' then (k, v) :: (k', v') :: es
    else if k = k' then (k, v) :: es
    else (k', v') :: insertEntry k v es

/-- Takes the entries with a name out of a list. -/
def eraseEntry {α : Type} (k : String) (es : List (String × α)) : List (String × α) :=
  es.filter (·.1 ≠ k)

/-- Whether entries stand in increasing order of their names. -/
def SortedEntries {α : Type} (es : List (String × α)) : Prop := es.Pairwise (·.1 < ·.1)

theorem mem_insertEntry {α : Type} {k : String} {v : α} {e : String × α} {es : List (String × α)}
    (h : e ∈ insertEntry k v es) : e = (k, v) ∨ e ∈ es := by
  induction es with
  | nil => simpa [insertEntry] using h
  | cons head tail ih =>
    rw [insertEntry] at h
    split at h
    · simpa using h
    · split at h
      · rcases List.mem_cons.mp h with h | h
        · exact .inl h
        · exact .inr (List.mem_cons_of_mem _ h)
      · rcases List.mem_cons.mp h with h | h
        · exact .inr (h ▸ List.mem_cons_self)
        · exact (ih h).imp_right (List.mem_cons_of_mem _)

theorem lt_of_not_lt_of_ne {a b : String} (h : ¬ a < b) (hne : a ≠ b) : b < a := by
  by_cases hba : b < a
  · exact hba
  · exact absurd (String.le_antisymm (String.not_lt.mp hba) (String.not_lt.mp h)) hne

theorem sortedEntries_insertEntry {α : Type} (k : String) (v : α) {es : List (String × α)}
    (h : SortedEntries es) : SortedEntries (insertEntry k v es) := by
  induction es with
  | nil => simp [insertEntry, SortedEntries]
  | cons head tail ih =>
    obtain ⟨hhead, htail⟩ := List.pairwise_cons.mp h
    rw [insertEntry]
    split
    · rename_i hlt
      refine List.pairwise_cons.mpr ⟨fun e he => ?_, h⟩
      rcases List.mem_cons.mp he with rfl | he
      · exact hlt
      · exact String.lt_trans hlt (hhead e he)
    · rename_i hlt
      split
      · rename_i heq
        exact List.pairwise_cons.mpr ⟨fun e he => heq ▸ hhead e he, htail⟩
      · rename_i hne
        refine List.pairwise_cons.mpr ⟨fun e he => ?_, ih htail⟩
        rcases mem_insertEntry he with rfl | he
        · exact lt_of_not_lt_of_ne hlt hne
        · exact hhead e he

theorem sortedEntries_eraseEntry {α : Type} (k : String) {es : List (String × α)}
    (h : SortedEntries es) : SortedEntries (eraseEntry k es) := h.filter _

theorem lookup_entry_cons {α : Type} (k k' : String) (v : α) (es : List (String × α)) :
    ((k, v) :: es).lookup k' = if k' = k then some v else es.lookup k' := by
  rw [List.lookup_cons]
  by_cases h : k' = k
  · rw [if_pos h, beq_iff_eq.mpr h]
  · rw [if_neg h, beq_eq_false_iff_ne.mpr h]

theorem lookup_insertEntry {α : Type} (k k' : String) (v : α) (es : List (String × α)) :
    (insertEntry k v es).lookup k' = if k' = k then some v else es.lookup k' := by
  induction es with
  | nil => exact lookup_entry_cons k k' v []
  | cons e es ih =>
    obtain ⟨k₀, v₀⟩ := e
    rw [insertEntry]
    split
    · exact lookup_entry_cons k k' v _
    · split
      · rename_i heq
        subst heq
        rw [lookup_entry_cons, lookup_entry_cons]
        by_cases h : k' = k
        · rw [if_pos h, if_pos h]
        · rw [if_neg h, if_neg h, if_neg h]
      · rename_i hne
        rw [lookup_entry_cons, lookup_entry_cons, ih]
        by_cases h : k' = k₀
        · rw [if_pos h, if_neg fun hk => hne (hk.symm.trans h), if_pos h]
        · rw [if_neg h, if_neg h]

theorem lookup_eraseEntry {α : Type} (k k' : String) (es : List (String × α)) :
    (eraseEntry k es).lookup k' = if k' = k then none else es.lookup k' := by
  induction es with
  | nil => exact (ite_self none).symm
  | cons e es ih =>
    obtain ⟨k₀, v₀⟩ := e
    rw [eraseEntry] at ih ⊢
    rw [List.filter_cons]
    by_cases hk : k₀ = k
    · subst hk
      rw [if_neg (by simp), ih, lookup_entry_cons]
      by_cases h : k' = k₀
      · rw [if_pos h, if_pos h]
      · rw [if_neg h, if_neg h, if_neg h]
    · rw [if_pos (by simpa using hk), lookup_entry_cons, lookup_entry_cons, ih]
      by_cases h : k' = k₀
      · rw [if_pos h, if_neg fun hk' => hk (h.symm.trans hk'), if_pos h]
      · rw [if_neg h, if_neg h]

/-- A finite map from names to values. -/
structure Directory (α : Type) where
  entries : List (String × α)
  sorted : SortedEntries entries

namespace Directory

variable {α : Type}

instance [DecidableEq α] : DecidableEq (Directory α) := fun a b =>
  decidable_of_iff (a.entries = b.entries)
    ⟨fun h => by cases a; cases b; simp_all, fun h => h ▸ rfl⟩

/-- The directory without entries. -/
def empty : Directory α := ⟨[], List.Pairwise.nil⟩

instance : Inhabited (Directory α) := ⟨empty⟩

/-- The value under a name. -/
def find? (d : Directory α) (k : String) : Option α := d.entries.lookup k

/-- Whether there is a value under a name. -/
def contains (d : Directory α) (k : String) : Bool := (d.find? k).isSome

/-- Puts a value under a name, in the place of what is there. -/
def insert (d : Directory α) (k : String) (v : α) : Directory α :=
  ⟨insertEntry k v d.entries, sortedEntries_insertEntry k v d.sorted⟩

/-- Takes away what is under a name. -/
def erase (d : Directory α) (k : String) : Directory α :=
  ⟨eraseEntry k d.entries, sortedEntries_eraseEntry k d.sorted⟩

/-- The names, in increasing order. -/
def keys (d : Directory α) : List String := d.entries.map (·.1)

/-- The values, in the order of their names. -/
def values (d : Directory α) : List α := d.entries.map (·.2)

/-- The number of entries. -/
def size (d : Directory α) : Nat := d.entries.length

@[simp] theorem find?_empty (k : String) : (empty : Directory α).find? k = none := rfl

@[simp] theorem find?_insert (d : Directory α) (k k' : String) (v : α) :
    (d.insert k v).find? k' = if k' = k then some v else d.find? k' :=
  lookup_insertEntry k k' v d.entries

@[simp] theorem find?_erase (d : Directory α) (k k' : String) :
    (d.erase k).find? k' = if k' = k then none else d.find? k' :=
  lookup_eraseEntry k k' d.entries

end Directory

end TypedSql
