import TypedSql.Proofs.Analysis.RepeatedPlaceholders

/-!
# The list of parameters

The parameters of an analysis are those of the numbers from one to the greatest number of the
statement, in order. What an analysis binds for a number are candidates, one for each place of the
number that it visits, and the parameter is the first of them with a type, or else the first one.

- **Numbers**: the greatest number of a statement, and the numbers of its parameters
- **Candidates**: what an analysis binds, in the order in which it does
- **Parameters**: the list of parameters from the candidates
-/

namespace TypedSql

open Canonical

variable {c : Catalog}

/-! ## Numbers -/

theorem greatestParam_eq_max? (n : Node) : greatestParam n = n.numbers.max?.getD 0 := by
  show n.numbers.foldl max 0 = _
  cases n.numbers with
  | nil => rfl
  | cons k ks => rw [List.foldl_cons, Nat.zero_max, List.max?_cons', Option.getD_some]

theorem number_parameters (bs : Bindings) (greatest : Nat) :
    (bs.parameters greatest).map Parameter.number = List.range' 1 greatest := by
  rw [Bindings.parameters, List.map_map]
  exact (List.map_congr_left fun k _ => bs.number_getD k).trans (List.map_id' _)

/-- Within the range of the parameters the parameter of a number is what is bound. -/
theorem getElem?_parameters (bs : Bindings) {greatest k : Nat} (hpos : 0 < k)
    (hle : k ≤ greatest) :
    (bs.parameters greatest)[k - 1]? = some ((bs.find? k).getD (.unknown k)) := by
  have hplace : (List.range' 1 greatest)[k - 1]? = some k := by
    rw [List.getElem?_range' (by omega)]
    congr 1
    omega
  rw [Bindings.parameters, List.getElem?_map, hplace]
  rfl

/-! ## Candidates -/

/-- The candidates that an analysis binds, in the order in which it does. They show when every place
has a number of its own: then nothing that is bound meets a candidate that is there already. -/
def BindsInOrder (c : Catalog) (n : Node) (candidates : List Parameter) : Prop :=
  ∃ apart : Node, ∃ f own, apart.numbers.Nodup ∧ apart.renumber f = n ∧
    (∃ answer, (analyzeStatement c apart).run [] = .ok (answer, own)) ∧
      candidates = own.map (·.renumber f)

/-- An analysis that succeeds has candidates, all of them for numbers of the statement, and what it
leaves bound is what they leave when they are recorded one after the other. -/
theorem exists_candidates (n : Node) {x : List ResultColumn × Option TableName} {bs : Bindings}
    (hrun : (analyzeStatement c n).run [] = .ok (x, bs)) :
    ∃ candidates, BindsInOrder c n candidates ∧ (∀ p ∈ candidates, p.number ∈ n.numbers) ∧
      bs = Bindings.recordAll [] candidates := by
  obtain ⟨apart, f, hapart, rfl⟩ := n.exists_apart
  rcases analyzeStatement_traced (c := c) apart with
    ⟨answer, own, -, hwithin, htrace⟩ | ⟨e, herror⟩
  · refine ⟨own.map (·.renumber f), ⟨apart, f, own, hapart, rfl, ⟨answer, ?_⟩, rfl⟩, ?_, ?_⟩
    · -- where the places are apart, all candidates stay as they are
      rw [← Node.renumber_id apart]
      refine (htrace id []).trans ?_
      rw [recordAll_renumber_id (nodup_of_within hwithin hapart)]
    · rintro p hp
      obtain ⟨q, hq, rfl⟩ := List.mem_map.mp hp
      rw [Node.numbers_renumber]
      exact List.mem_map_of_mem (hwithin.mem (List.mem_map_of_mem hq))
    · have hbound := htrace f []
      rw [hrun] at hbound
      exact (Prod.mk.inj (Except.ok.inj hbound)).2
  · -- an analysis that fails does so under every numbering
    rw [herror f []] at hrun
    cases hrun

/-- A number without candidates decides nothing. -/
theorem deciding?_eq_none {candidates : List Parameter} {k : Nat}
    (h : ∀ p ∈ candidates, p.number ≠ k) : deciding? candidates k = none := by
  have hown : candidates.filter (·.number = k) = [] :=
    List.filter_eq_nil_iff.mpr fun p hp => by simpa using h p hp
  rw [deciding?, hown]
  rfl

/-- A place that has its number for itself decides about it. -/
theorem deciding?_of_single {places : List Parameter} {p : Parameter} (hp : p ∈ places)
    (hsingle : (places.map Parameter.number).count p.number ≤ 1) :
    deciding? places p.number = some p := by
  have hmem : p ∈ places.filter (·.number = p.number) := List.mem_filter.mpr ⟨hp, by simp⟩
  have hlength : (places.filter (·.number = p.number)).length ≤ 1 := by
    rw [List.count, List.countP_map, List.countP_eq_length_filter] at hsingle
    simpa [Function.comp_def, beq_eq_decide] using hsingle
  -- the number stands in one place only, so there is nothing to decide between
  have hown : places.filter (·.number = p.number) = [p] := by
    obtain ⟨q, hq⟩ := List.length_eq_one_iff.mp
      (Nat.le_antisymm hlength (List.length_pos_of_mem hmem))
    rw [hq, List.mem_singleton] at hmem
    rw [hq, hmem]
  rw [deciding?, hown]
  cases htype : p.type.isOpaque <;> simp [htype]

/-- To bind a number leaves what is bound to all other numbers as it is. -/
theorem find?_of_bindParam {number k : Nat} {hint : Option Hint} {i : Inferred}
    {bs bs' : Bindings} (hrun : (bindParam number hint).run bs = .ok (i, bs'))
    (hne : k ≠ number) : bs'.find? k = bs.find? k := by
  obtain rfl : bs.record (.ofHint number hint) = bs' := (Prod.mk.inj (Except.ok.inj hrun)).2
  have hnumber : (Parameter.ofHint number hint).number = number := by cases hint <;> rfl
  rw [Bindings.find?_record, hnumber, if_neg (Ne.symm hne)]

/-! ## Parameters -/

/-- A trace of a statement tells what its analysis finds. -/
theorem Traced.of_analyze {n : Node}
    {P : List ResultColumn × Option TableName → List Parameter → Prop}
    (h : Traced n.numbers P fun f => analyzeStatement c (n.renumber f)) {a : Analysis}
    (hrun : analyze c n = .ok a) :
    ∃ x places, P x places ∧ Within (places.map Parameter.number) n.numbers ∧
      a = ⟨(Bindings.recordAll [] places).parameters (greatestParam n), x.1, x.2⟩ := by
  rw [analyze] at hrun
  cases hstatement : (analyzeStatement c n).run [] with
  | error e =>
    rw [hstatement] at hrun
    cases hrun
  | ok result =>
    obtain ⟨places, hP, hwithin, hplaces⟩ := h.of_run n.renumberable hstatement
    rw [hstatement] at hrun
    cases hrun
    exact ⟨result.1, places, hP, hwithin, by rw [← hplaces]⟩

/-- The parameter of a number that stands in a statement once is what its place makes of it. -/
theorem getElem?_params_of_single {n : Node} {places : List Parameter}
    (hwithin : Within (places.map Parameter.number) n.numbers) {p : Parameter} (hp : p ∈ places)
    (hpos : 0 < p.number) (hsingle : n.numbers.count p.number = 1) :
    ((Bindings.recordAll [] places).parameters (greatestParam n))[p.number - 1]? = some p := by
  have hmem : p.number ∈ n.numbers := List.count_pos_iff.mp (by omega)
  have hdecides : deciding? places p.number = some p :=
    deciding?_of_single hp (hsingle ▸ hwithin p.number)
  rw [getElem?_parameters _ hpos (le_greatestParam hmem), Bindings.find?_recordAll]
  exact congrArg (fun q => some (q.getD (.unknown p.number))) hdecides

end TypedSql
