import Mathlib.Data.List.Basic
import TypedSql.Proofs.Analysis.Renumbering

/-!
# Traces

What an analysis binds is one parameter after the other, and which ones does not depend on the
numbers of the placeholders. Only when they are recorded under their numbers do the places of one
number meet.

- **Bindings**: what becomes of several parameters with the same number
- **Traces**: a step under every numbering and from whatever bindings binds the same places
- **Single constructs**: the traces of constructs from those of their parts
-/

namespace TypedSql

open Canonical

/-! ## Bindings -/

/-- The parameter under another number. -/
def Parameter.renumber (f : Nat → Nat) (p : Parameter) : Parameter :=
  { p with number := f p.number }

@[simp] theorem Parameter.renumber_id (p : Parameter) : p.renumber id = p := rfl

/-- The place that decides about a number: the first one that gives it a type, or else the first
one. -/
def deciding? (places : List Parameter) (number : Nat) : Option Parameter :=
  let own := places.filter (·.number = number)
  (own.find? (!·.type.isOpaque)).or own.head?

namespace Bindings

/-- Adds candidates one after the other. -/
def recordAll (bs : Bindings) (places : List Parameter) : Bindings :=
  places.foldl (fun bs p => bs.record p) bs

theorem recordAll_append (bs : Bindings) (places places' : List Parameter) :
    bs.recordAll (places ++ places') = (bs.recordAll places).recordAll places' :=
  List.foldl_append

theorem find?_number {bs : Bindings} {number : Nat} {p : Parameter}
    (h : bs.find? number = some p) : p.number = number := by
  simpa using List.find?_some h

/-- A parameter has the number that it is listed for. -/
theorem number_getD (bs : Bindings) (number : Nat) :
    ((bs.find? number).getD (.unknown number)).number = number := by
  cases hfound : bs.find? number with
  | none => rfl
  | some p => exact find?_number hfound

/-- A candidate counts for its own number only: there it takes the place of one without a type. -/
theorem find?_record (bs : Bindings) (p : Parameter) (number : Nat) :
    (bs.record p).find? number =
      if p.number = number then
        some (match bs.find? number with
          | some q => if q.type.isOpaque && !p.type.isOpaque then p else q
          | none => p)
      else bs.find? number := by
  induction bs with
  | nil => by_cases h : p.number = number <;> simp [record, find?, h]
  | cons q qs ih =>
    rw [record]
    -- an entry of the same number is replaced or kept, and any other one is passed over
    by_cases hsame : q.number = p.number
    · rw [if_pos hsame]
      by_cases h : p.number = number
      · have hq : q.number = number := hsame.trans h
        -- whether the new binding replaces the old one is decided by their types
        split <;> rename_i htyped <;> simp [find?, h, hq, htyped]
      · have hq : q.number ≠ number := hsame ▸ h
        split <;> simp [find?, h, hq]
    · rw [if_neg hsame]
      by_cases hq : q.number = number
      · have h : p.number ≠ number := fun h => hsame (hq.trans h.symm)
        simp [find?, h, hq]
      · have hrest := ih
        simp only [find?, List.find?_cons, hq, decide_false] at hrest ⊢
        exact hrest

/-- What is bound to a number is what the places decide, those that were bound before first. -/
theorem find?_recordAll (bs : Bindings) (places : List Parameter) (number : Nat) :
    (bs.recordAll places).find? number =
      deciding? ((bs.find? number).toList ++ places) number := by
  induction places generalizing bs with
  | nil =>
    show bs.find? number = _
    cases hfound : bs.find? number with
    | none => rfl
    | some q =>
      have hq := find?_number hfound
      cases htype : q.type.isOpaque <;> simp [deciding?, hq, htype]
  | cons p ps ih =>
    show ((bs.record p).recordAll ps).find? number = _
    rw [ih, find?_record]
    by_cases h : p.number = number
    · rw [if_pos h]
      cases hfound : bs.find? number with
      | none => rfl
      | some q =>
        have hq := find?_number hfound
        cases hqtype : q.type.isOpaque <;> cases hptype : p.type.isOpaque <;>
          simp [deciding?, h, hq, hqtype, hptype]
    · -- a place of another number changes nothing
      rw [if_neg h]
      cases bs.find? number <;> simp [deciding?, List.filter_cons, h]

theorem record_of_not_mem {bs : Bindings} {p : Parameter}
    (h : p.number ∉ bs.map Parameter.number) : bs.record p = bs ++ [p] := by
  induction bs with
  | nil => rfl
  | cons q qs ih =>
    obtain ⟨hq, hqs⟩ := not_or.mp (mt List.mem_cons.mpr h)
    rw [record, if_neg (Ne.symm hq), ih hqs]
    rfl

/-- Candidates with numbers of their own are all kept. -/
theorem recordAll_of_nodup {bs : Bindings} {places : List Parameter}
    (h : ((bs ++ places).map Parameter.number).Nodup) : bs.recordAll places = bs ++ places := by
  induction places generalizing bs with
  | nil => exact (List.append_nil bs).symm
  | cons p ps ih =>
    have hnew : p.number ∉ bs.map Parameter.number := by
      rw [List.map_append, List.nodup_append] at h
      exact fun hmem => h.2.2 _ hmem _ (List.mem_cons_self ..) rfl
    show (bs.record p).recordAll ps = _
    rw [record_of_not_mem hnew, ih (by simpa using h), List.append_assoc, List.singleton_append]

end Bindings

/-! ## Traces -/

/-- No number occurs more often in one list than in another one. -/
def Within (numbers numbers' : List Nat) : Prop := ∀ k, numbers.count k ≤ numbers'.count k

theorem Within.of_perm {numbers numbers' : List Nat} (h : numbers.Perm numbers') :
    Within numbers numbers' := fun k => Nat.le_of_eq (h.count_eq k)

theorem Within.mem {numbers numbers' : List Nat} (h : Within numbers numbers') {k : Nat}
    (hk : k ∈ numbers) : k ∈ numbers' :=
  List.count_pos_iff.mp (Nat.lt_of_lt_of_le (List.count_pos_iff.mpr hk) (h k))

variable {α β : Type}

/-- The answer of a step that starts without bindings. -/
def answered {α : Type} (m : AnalysisM (List α)) : List α :=
  match m.run [] with
  | .ok (a, _) => a
  | .error _ => []

/-- A step whose trees may be renumbered: its answer and the places that it binds do not depend on
the numbers, nor on what is bound before. It binds every placeholder at most once. -/
def Traced (numbers : List Nat) (P : α → List Parameter → Prop) (m : (Nat → Nat) → AnalysisM α) :
    Prop :=
  (∃ a places, P a places ∧ Within (places.map Parameter.number) numbers ∧
    ∀ f bs, (m f).run bs = .ok (a, bs.recordAll (places.map (·.renumber f)))) ∨
  ∃ e, ∀ f bs, (m f).run bs = .error e

/-- A step of which nothing else is said. -/
abbrev Tracks (numbers : List Nat) (m : (Nat → Nat) → AnalysisM α) : Prop :=
  Traced numbers (fun _ _ => True) m

namespace Traced

variable {numbers numbers' : List Nat} {P P' : α → List Parameter → Prop}
  {Q : β → List Parameter → Prop} {m : (Nat → Nat) → AnalysisM α}
  {k : (Nat → Nat) → α → AnalysisM β}

theorem pure {a : α} (h : P a []) : Traced numbers P fun _ => Pure.pure a :=
  .inl ⟨a, [], h, fun _ => Nat.zero_le _, fun _ _ => rfl⟩

theorem throw {e : AnalysisError} : Traced numbers P fun _ => MonadExcept.throw e :=
  .inr ⟨e, fun _ _ => rfl⟩

theorem throw_bind {e : AnalysisError} :
    Traced numbers Q fun f => (MonadExcept.throw e : AnalysisM α) >>= k f :=
  .inr ⟨e, fun _ _ => rfl⟩

/-- An error that names the kind of a node is the same under every numbering. -/
theorem failed (h : ∀ f, m f = m id) (he : ∃ e, m id = MonadExcept.throw e) :
    Traced numbers P m := by
  obtain ⟨e, he⟩ := he
  exact .inr ⟨e, fun f bs => by rw [h, he]; rfl⟩

theorem bind (hm : Traced numbers P m)
    (hk : ∀ a places, P a places →
      Traced numbers' (fun b places' => Q b (places ++ places')) fun f => k f a) :
    Traced (numbers ++ numbers') Q fun f => m f >>= k f := by
  rcases hm with ⟨a, places, hP, hwithin, hrun⟩ | ⟨e, hrun⟩
  · rcases hk a places hP with ⟨b, places', hQ, hwithin', hrun'⟩ | ⟨e, hrun'⟩
    · refine .inl ⟨b, places ++ places', hQ, fun k => ?_, fun f bs => ?_⟩
      · rw [List.map_append, List.count_append, List.count_append]
        exact Nat.add_le_add (hwithin k) (hwithin' k)
      · -- the second step goes on from the bindings of the first
        rw [StateT.run_bind, hrun]
        exact (hrun' f _).trans (by rw [List.map_append, Bindings.recordAll_append])
    · exact .inr ⟨e, fun f bs => by rw [StateT.run_bind, hrun]; exact hrun' f _⟩
  · exact .inr ⟨e, fun f bs => by rw [StateT.run_bind, hrun]; rfl⟩

theorem mono (hm : Traced numbers P m) (hnumbers : Within numbers numbers')
    (hP : ∀ a places, P a places → P' a places) : Traced numbers' P' m := by
  rcases hm with ⟨a, places, h, hwithin, hrun⟩ | herror
  · exact .inl ⟨a, places, hP a places h, fun k => Nat.le_trans (hwithin k) (hnumbers k), hrun⟩
  · exact .inr herror

/-- Nothing needs to be known of the places of a step to go on from its answer. -/
theorem next {R : β → Prop} (hm : Traced numbers P m)
    (hk : ∀ a, Traced numbers' (fun b _ => R b) fun f => k f a) :
    Traced (numbers ++ numbers') (fun b _ => R b) fun f => m f >>= k f :=
  hm.bind fun a _ _ => hk a

/-- A step before others that bind no more than the rest of the numbers. -/
theorem split {total : List Nat} (rest : List Nat) (hm : Traced numbers P m)
    (hwithin : Within (numbers ++ rest) total)
    (hk : ∀ a places, P a places →
      Traced rest (fun b places' => Q b (places ++ places')) fun f => k f a) :
    Traced total Q fun f => m f >>= k f := (hm.bind hk).mono hwithin fun _ _ => id

theorem forget (hm : Traced numbers P m) : Tracks numbers m :=
  hm.mono (.of_perm (.refl _)) fun _ _ _ => trivial

theorem within (hm : Traced numbers P m) (h : Within numbers numbers') : Traced numbers' P m :=
  hm.mono h fun _ _ => id

/-- Steps after which the answer stays what it was. -/
theorem keeping {a : α} (hm : Traced numbers (fun a' _ => a' = a) m) (h : ∀ places, P a places) :
    Traced numbers P m := by
  refine hm.mono (.of_perm (.refl _)) ?_
  rintro _ places rfl
  exact h places

/-- A last step that binds nothing. -/
theorem map (hm : Traced numbers P m) {g : α → β} (hQ : ∀ a places, P a places → Q (g a) places) :
    Traced numbers Q fun f => m f >>= fun a => Pure.pure (g a) := by
  have hlast : Traced (numbers ++ []) Q fun f => m f >>= fun a => Pure.pure (g a) :=
    hm.bind fun a places h => pure (by rw [List.append_nil]; exact hQ a places h)
  rwa [List.append_nil] at hlast

theorem last (hm : Traced numbers P m) {g : α → β} :
    Tracks numbers fun f => m f >>= fun a => Pure.pure (g a) := hm.map fun _ _ _ => trivial

/-- A step that is taken for its bindings only. -/
theorem discard (hm : Traced numbers P m) : Tracks numbers fun f => Functor.discard (m f) :=
  hm.last

/-- The answer is the one for the tree as it is, from no bindings. -/
theorem answer {γ : Type} {P : List γ → List Parameter → Prop}
    {m : (Nat → Nat) → AnalysisM (List γ)} {m₀ : AnalysisM (List γ)}
    (hm : Traced numbers P m) (hid : m id = m₀) :
    Traced numbers (fun a places => P a places ∧ answered m₀ = a) m := by
  rcases hm with ⟨a, places, h, hwithin, hrun⟩ | herror
  · refine .inl ⟨a, places, ⟨h, ?_⟩, hwithin, hrun⟩
    rw [← hid, answered, hrun]
  · exact .inr herror

/-- A run on the tree as it is has the answer of the trace, and binds its places. -/
theorem of_run {γ : Type} [Numbered γ] {tree : γ} (htree : Renumberable tree)
    {step : γ → AnalysisM α} (h : Traced numbers P fun f => step (Numbered.renumber f tree))
    {before after : Bindings} {a : α} (hrun : (step tree).run before = .ok (a, after)) :
    ∃ places, P a places ∧ Within (places.map Parameter.number) numbers ∧
      after = before.recordAll places := by
  rw [← congrArg step htree.renumber_id] at hrun
  rcases h with ⟨a', places, hP, hwithin, htrace⟩ | ⟨e, herror⟩
  · rw [htrace id before, List.map_id'' Parameter.renumber_id] at hrun
    cases hrun
    exact ⟨places, hP, hwithin, rfl⟩
  · rw [herror id before] at hrun
    cases hrun

end Traced

/-! ## Single constructs -/

@[simp] theorem Scope.resolve_renumberAll (s : Scope) (f : Nat → Nat) (fields : List Node) :
    s.resolve (renumberAll f fields) = s.resolve fields := by
  simp [Scope.resolve]

@[simp] theorem defaultName_renumber (f : Nat → Nat) (n : Node) (position : Nat) :
    defaultName (n.renumber f) position = defaultName n position := by
  cases n with
  | column fields => simp [Node.renumber, defaultName]
  | call call => cases call; rfl
  | _ => rfl

@[simp] theorem Canonical.numbersIn_cons (n : Node) (ns : List Node) :
    numbersIn (n :: ns) = (n.paramRef?.map ParamRef.number).toList ++ numbersIn ns := by
  cases h : n.paramRef? <;> simp [numbersIn, h]

theorem Canonical.Node.numbers_select (q : Select) : (Node.select q).numbers = numbersOf q := by
  simp [Node.numbers, Node.paramRef?, numbersOf, Numbered.walk]

theorem bindParam_traced (number : Nat) (hint : Option Hint) :
    Traced [number]
      (fun i places => i = .ofHint hint ∧ places = [.ofHint number hint])
      fun f => bindParam (f number) hint := by
  refine .inl ⟨_, _, ⟨rfl, rfl⟩, fun k => ?_, fun f bs => ?_⟩
  · cases hint <;> exact Nat.le_refl _
  · cases hint <;> rfl

theorem bindAll_tracks (ns : List Node) :
    Tracks (numbersOf ns) fun f => bindAll (renumberAll f ns) := by
  induction ns with
  | nil => exact .pure trivial
  | cons n ns ih =>
    -- what is no placeholder is passed over, whatever stands in it
    have hpassed : Tracks (numbersOf (n :: ns)) fun f => bindAll (renumberAll f ns) :=
      ih.within fun k => by simp [numbersOf, Numbered.walk]
    cases n with
    | param number location => exact (bindParam_traced number none).discard.next fun _ => ih
    | _ => exact hpassed

section Constructs

variable {c : Catalog} {s : Scope} {hint : Option Hint}

theorem inferColumn_tracks (fields : List Node) :
    Tracks [] fun f => inferExpr c s hint (.column (renumberAll f fields)) := by
  simp only [inferExpr, endsInStar_renumberAll, Scope.resolve_renumberAll]
  split
  · exact .pure trivial
  · cases s.resolve fields with
    | ok column => exact .pure trivial
    | error e => exact .throw

/-- The operands may be visited in either order. -/
theorem inferBinary_traced (name : String) {left right : Node}
    {P P' Q : Inferred → List Parameter → Prop}
    (hleft : ∀ hint, Traced (numbersOf left) P fun f => inferExpr c s hint (left.renumber f))
    (hright : ∀ hint, Traced (numbersOf right) P' fun f => inferExpr c s hint (right.renumber f))
    (hQ : ∀ l r placesLeft placesRight places, P l placesLeft → P' r placesRight →
      placesLeft ⊆ places → placesRight ⊆ places → Q (.ofOperator name (some l) r) places) :
    Traced (numbersOf left ++ numbersOf right) Q fun f =>
      inferExpr c s hint (.operator name (some (left.renumber f)) (some (right.renumber f))) := by
  simp only [inferExpr, Node.isParam_renumber]
  split
  · -- only the left operand is a placeholder, so the right one goes first
    refine .mono ?_ (.of_perm List.perm_append_comm) fun _ _ => id
    apply (hright none).bind
    intro r placesRight hr
    apply (hleft r.hint?).map
    intro l placesLeft hl
    exact hQ l r _ _ _ hl hr (List.subset_append_right ..) (List.subset_append_left ..)
  · apply (hleft none).bind
    intro l placesLeft hl
    apply (hright _).map
    intro r placesRight hr
    exact hQ l r _ _ _ hl hr (List.subset_append_left ..) (List.subset_append_right ..)

theorem inferSublink_tracks (kind : SublinkKind) (negated : Bool) {test query : Option Node}
    (htest : ∀ hint, Tracks (numbersOf test) fun f => inferOption c s hint (renumberOption f test))
    (hquery : Tracks (numbersOf query) fun f => analyzeSublink c s (renumberOption f query)) :
    Tracks (numbersOf query ++ numbersOf test) fun f =>
      inferExpr c s hint
        (.sublink kind (renumberOption f test) (renumberOption f query) negated) := by
  refine hquery.next fun columns => ?_
  match kind with
  | .exists => exact (htest none).discard.last
  | .any => exact (htest _).last

theorem combineColumns_traced (left right : List ResultColumn) :
    Traced []
      (fun columns _ => columns = List.zipWith .combine left right ∧ left.length = right.length)
      fun _ => combineColumns left right := by
  unfold combineColumns
  split
  · rename_i hwidth
    exact .pure ⟨rfl, hwidth⟩
  · exact .throw

theorem analyzeTable_tracks (t : TableRef) :
    Tracks [] fun _ => analyzeSource c s (.table t) := by
  simp only [analyzeSource]
  split
  · exact .pure trivial
  · unfold lookedUp
    cases c.lookupTable t.tableName with
    | ok found => exact .pure trivial
    | error e => exact .throw

end Constructs

end TypedSql
