import Mathlib.Data.List.Forall2
import TypedSql.Json

/-!
# Records as JSON

How a record is written as a JSON object, and why it is read back from it. The reader looks fields
up by their names, so it does not matter in which order they stand.

- **Values**: JSON values up to the order of fields
- **Readers**: what a reader answers for every form of a value
- **Written fields**: the fields of a record as they are declared, and which of them are left out
- **Read fields**: a reader of a field answers what was written
-/

namespace TypedSql.Json

variable {α β : Type}

/-! ## Values -/

/-- The same value: two objects are the same if they have the same fields, in whatever order. -/
inductive Same : Json → Json → Prop where
  | refl (j : Json) : Same j j
  | array {is js : List Json} (h : List.Forall₂ Same is js) : Same (.array is) (.array js)
  | object {given fields : List (String × Json)} (hnames : (given.map Prod.fst).Nodup)
      (h : ∀ name, Option.Rel Same (given.lookup name) (fields.lookup name)) :
      Same (.object given) (.object fields)

namespace Same

theorem rel_refl (o : Option Json) : Option.Rel Same o o := by
  cases o with
  | none => exact .none
  | some j => exact .some (refl j)

theorem exists_of_rel_some {o : Option Json} {j : Json} (h : Option.Rel Same o (some j)) :
    ∃ i, o = some i ∧ Same i j := by
  cases h with
  | some hsame => exact ⟨_, rfl, hsame⟩

theorem eq_none_of_rel {o : Option Json} (h : Option.Rel Same o none) : o = none := by
  cases h
  rfl

/-- What is the same as an object is an object. -/
theorem exists_object {i : Json} {fields : List (String × Json)} (h : Same i (.object fields)) :
    ∃ given, i = .object given ∧
      ∀ name, Option.Rel Same (given.lookup name) (fields.lookup name) := by
  cases h with
  | refl => exact ⟨fields, rfl, fun name => rel_refl _⟩
  | object hnames h => exact ⟨_, rfl, h⟩

/-- What is the same as an array is an array of the same items. -/
theorem exists_array {i : Json} {js : List Json} (h : Same i (.array js)) :
    ∃ is, i = .array is ∧ List.Forall₂ Same is js := by
  cases h with
  | refl => exact ⟨js, rfl, List.forall₂_same.mpr fun j _ => refl j⟩
  | array h => exact ⟨_, rfl, h⟩

end Same

/-! ## Readers -/

/-- The reader answers `a` for every form of the value. -/
def Reads (read? : Json → Option α) (j : Json) (a : α) : Prop := ∀ i, Same i j → read? i = some a

theorem reads_string (s : String) : Reads string? (.string s) s := by
  intro i h
  cases h
  rfl

theorem reads_bool (b : Bool) : Reads bool? (.bool b) b := by
  intro i h
  cases h
  rfl

theorem reads_word {n : Nat} (hn : n < wordCount) : Reads word? (.nat n) n := by
  intro i h
  cases h
  simp [word?, nat, hn]

theorem mapM_of_forall₂ {item? : Json → Option α} {toJson : α → Json} {as : List α}
    {is : List Json} (h : ∀ a ∈ as, Reads item? (toJson a) a)
    (his : List.Forall₂ Same is (as.map toJson)) : is.mapM item? = some as := by
  induction as generalizing is with
  | nil =>
    cases his
    rfl
  | cons a as ih =>
    obtain ⟨i, is, hhead, htail, rfl⟩ := List.forall₂_cons_right_iff.mp his
    have hitem : item? i = some a := h a List.mem_cons_self i hhead
    have hrest : is.mapM item? = some as :=
      ih (fun b hb => h b (List.mem_cons_of_mem a hb)) htail
    simp [hitem, hrest]

/-- A list is read item by item. -/
theorem reads_list {item? : Json → Option α} {toJson : α → Json} {as : List α}
    (h : ∀ a ∈ as, Reads item? (toJson a) a) :
    Reads (list? item?) (.array (as.map toJson)) as := by
  intro i hi
  obtain ⟨is, rfl, his⟩ := hi.exists_array
  exact mapM_of_forall₂ h his

/-! ## Written fields -/

/-- When a field is left out. -/
inductive Skip where
  | never
  | ifNull
  | ifFalse
  deriving DecidableEq

/-- Whether a field with a value is left out. -/
def Skip.applies : Skip → Json → Bool
  | .ifNull, .null => true
  | .ifFalse, .bool false => true
  | _, _ => false

/-- A field of a record, as it is declared. -/
structure FieldSpec (α : Type) where
  name : String
  /-- The value in a record. -/
  value : α → Json
  skip : Skip

/-- The fields of a record, no two of which have the same name. -/
structure RecordSpec (α : Type) where
  fields : List (FieldSpec α)
  nodup : (fields.map FieldSpec.name).Nodup := by decide

/-- What is written for a field of `a`, if it is written. -/
def FieldSpec.entry? (f : FieldSpec α) (a : α) : Option Json :=
  if f.skip.applies (f.value a) then none else some (f.value a)

theorem Skip.eq_null_of_applies {s : Skip} (hskip : s ≠ .ifFalse) {j : Json}
    (h : s.applies j = true) : j = .null := by
  unfold applies at h
  split at h
  · rfl
  · exact absurd rfl hskip
  · cases h

theorem FieldSpec.entry?_of_not_applies {f : FieldSpec α} {a : α}
    (h : ¬ f.skip.applies (f.value a) = true) : f.entry? a = some (f.value a) := if_neg h

theorem FieldSpec.entry?_of_never {f : FieldSpec α} (h : f.skip = .never) (a : α) :
    f.entry? a = some (f.value a) := entry?_of_not_applies (by simp [h, Skip.applies])

/-- The entries that are written for the fields of `a`. -/
def entries (fields : List (FieldSpec α)) (a : α) : List (String × Json) :=
  fields.filterMap fun f => (f.entry? a).map (f.name, ·)

/-- The names of the entries of an object. -/
def names : Json → List String
  | .object entries => entries.map Prod.fst
  | _ => []

theorem entries_cons (f : FieldSpec α) (fields : List (FieldSpec α)) (a : α) :
    entries (f :: fields) a = ((f.entry? a).map (f.name, ·)).toList ++ entries fields a := by
  rw [entries, List.filterMap_cons]
  cases f.entry? a <;> rfl

/-- Only the names of fields are written. -/
theorem names_entries_subset (fields : List (FieldSpec α)) (a : α) :
    names (.object (entries fields a)) ⊆ fields.map FieldSpec.name := by
  intro name hname
  obtain ⟨entry, hentry, rfl⟩ := List.mem_map.mp hname
  obtain ⟨f, hf, hwritten⟩ := List.mem_filterMap.mp hentry
  obtain ⟨j, -, rfl⟩ := Option.map_eq_some_iff.mp hwritten
  exact List.mem_map_of_mem hf

theorem lookup_entries_of_notMem {fields : List (FieldSpec α)} {name : String}
    (h : name ∉ fields.map FieldSpec.name) (a : α) : (entries fields a).lookup name = none := by
  rw [List.lookup_eq_none_iff]
  intro entry hentry
  have hmem := names_entries_subset fields a (List.mem_map_of_mem hentry)
  exact bne_iff_ne.mpr fun heq => h (heq ▸ hmem)

/-- Each field is found under its name. -/
theorem RecordSpec.lookup_entries (spec : RecordSpec α) {f : FieldSpec α} (hf : f ∈ spec.fields)
    (a : α) : (entries spec.fields a).lookup f.name = f.entry? a := by
  obtain ⟨fields, hnames⟩ := spec
  induction fields with
  | nil => cases hf
  | cons g fields ih =>
    obtain ⟨hg, hrest⟩ := List.nodup_cons.mp hnames
    rw [entries_cons, List.lookup_append]
    obtain rfl | hf := List.mem_cons.mp hf
    · -- the field is the first one: if it is left out, no other one takes its place
      rw [lookup_entries_of_notMem hg]
      cases f.entry? a <;> simp
    · -- the first field has another name
      have hne : f.name ≠ g.name := fun heq => hg (heq ▸ List.mem_map_of_mem hf)
      have hbeq : (f.name == g.name) = false := beq_false_of_ne hne
      rw [ih hrest hf]
      cases g.entry? a <;> simp [List.lookup_cons, hbeq]

/-- The fields that are left out are those that say so for the value that they have. -/
theorem RecordSpec.name_notMem_names_iff (spec : RecordSpec α) {f : FieldSpec α}
    (hf : f ∈ spec.fields) (a : α) :
    f.name ∉ names (.object (entries spec.fields a)) ↔ f.skip.applies (f.value a) = true := by
  have hlookup : (entries spec.fields a).lookup f.name = none ↔
      f.name ∉ names (.object (entries spec.fields a)) := by
    rw [List.lookup_eq_none_iff, names, List.mem_map]
    simp only [bne_iff_ne, not_exists, not_and]
    exact forall_congr' fun entry => forall_congr' fun _ => ne_comm
  rw [← hlookup, spec.lookup_entries hf, FieldSpec.entry?]
  split <;> simp_all

/-! ## Read fields -/

/-- The record that is read has the fields of `a`. -/
def Holds (fields : List (FieldSpec α)) (a : α) (r : Record) : Prop :=
  ∃ given, r = .named given ∧ ∀ f ∈ fields, Option.Rel Same (given.lookup f.name) (f.entry? a)

/-- Every form of what is written for a record is read as one that has its fields. -/
theorem RecordSpec.exists_holds (spec : RecordSpec α) {a : α} {i : Json}
    (h : Same i (.object (entries spec.fields a))) (count : Nat) :
    ∃ r, i.record? count = some r ∧ Holds spec.fields a r := by
  obtain ⟨given, rfl, hgiven⟩ := h.exists_object
  refine ⟨.named given, rfl, given, rfl, fun f hf => ?_⟩
  rw [← spec.lookup_entries hf]
  exact hgiven f.name

namespace Holds

variable {fields : List (FieldSpec α)} {a : α} {r : Record} {k : Nat} {name : String}

/-- A field that is never left out is read. -/
theorem required (h : Holds fields a r) {value : α → Json}
    (hf : fields[k]? = some ⟨name, value, .never⟩) {read? : Json → Option β} {b : β}
    (hread : Reads read? (value a) b) : r.required k name read? = some b := by
  obtain ⟨given, rfl, hgiven⟩ := h
  have hrel := hgiven _ (List.mem_of_getElem? hf)
  rw [FieldSpec.entry?_of_never rfl] at hrel
  obtain ⟨i, hlookup, hsame⟩ := Same.exists_of_rel_some hrel
  simp [Record.required, Record.get?, hlookup, hread i hsame]

/-- A value that may be absent is read, whether its absence is written as null or left out. -/
theorem optional (h : Holds fields a r) {o : α → Option β} {toJson : β → Json} {skip : Skip}
    (hf : fields[k]? = some ⟨name, fun a => nullable toJson (o a), skip⟩) {read? : Json → Option β}
    (hread : ∀ b ∈ o a, Reads read? (toJson b) b) (hnull : read? .null = none)
    (hskip : skip ≠ .ifFalse := by decide) : r.optional k name read? = some (o a) := by
  obtain ⟨given, rfl, hgiven⟩ := h
  have hrel := hgiven _ (List.mem_of_getElem? hf)
  cases ho : o a with
  | none =>
    by_cases hleft : skip.applies .null = true
    · -- the field is left out
      rw [FieldSpec.entry?, if_pos (by simpa [ho, nullable] using hleft)] at hrel
      have hlookup := Same.eq_none_of_rel hrel
      simp [Record.optional, Record.get?, hlookup]
    · -- null is written for it
      rw [FieldSpec.entry?_of_not_applies (by simpa [ho, nullable] using hleft)] at hrel
      obtain ⟨i, hlookup, hsame⟩ := Same.exists_of_rel_some hrel
      simp only [ho, nullable] at hsame
      cases hsame
      simp [Record.optional, Record.get?, hlookup]
  | some b =>
    have hb : Reads read? (toJson b) b := hread b ho
    -- no form of the value is null, since the reader would refuse it
    have hne : ¬ Same .null (toJson b) := fun hsame => by
      have hread := hb .null hsame
      rw [hnull] at hread
      cases hread
    have hkept : ¬ skip.applies (toJson b) = true := fun happlies =>
      hne (Skip.eq_null_of_applies hskip happlies ▸ .refl _)
    rw [FieldSpec.entry?_of_not_applies (by simpa [ho, nullable] using hkept)] at hrel
    obtain ⟨i, hlookup, hsame⟩ := Same.exists_of_rel_some hrel
    simp only [ho, nullable] at hsame
    cases i with
    | null => exact absurd hsame hne
    | _ => simp [Record.optional, Record.get?, hlookup, hb _ hsame]

/-- A flag is read, whether it is left out or not. -/
theorem flag (h : Holds fields a r) {b : α → Bool}
    (hf : fields[k]? = some ⟨name, fun a => .bool (b a), .ifFalse⟩) :
    r.flag k name = some (b a) := by
  obtain ⟨given, rfl, hgiven⟩ := h
  have hrel := hgiven _ (List.mem_of_getElem? hf)
  rw [FieldSpec.entry?] at hrel
  -- a flag that is not set is left out, and read as not set
  cases hb : b a with
  | false =>
    rw [if_pos (by simp [hb, Skip.applies])] at hrel
    have hlookup := Same.eq_none_of_rel hrel
    simp [Record.flag, Record.get?, hlookup]
  | true =>
    rw [if_neg (by simp [hb, Skip.applies])] at hrel
    obtain ⟨i, hlookup, hsame⟩ := Same.exists_of_rel_some hrel
    simp only [hb] at hsame
    simp [Record.flag, Record.get?, hlookup, reads_bool true i hsame]

end Holds

end TypedSql.Json
