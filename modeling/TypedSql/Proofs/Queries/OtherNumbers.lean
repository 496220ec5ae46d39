import TypedSql.Proofs.Analysis.ParameterList
import TypedSql.Proofs.Queries.Locations

/-!
# Other numbers

The numbers of placeholders are names, and the locations of nodes are notes. An analysis never reads
back what it has bound, so under other numbers it comes to the same columns and binds the same
places, each under its new number.

- **Decisions**: the place that decides about a number, under other numbers
- **Analyses**: what a statement comes to under every numbering
- **Names**: the parameters and the columns of a statement with other numbers, or other locations
-/

namespace TypedSql

open Canonical

variable {c : Catalog}

/-! ## Decisions -/

/-- The parameter of a number: the place that decides about it, if there is one. -/
def decided (places : List Parameter) (k : Nat) : Parameter :=
  (deciding? places k).getD (.unknown k)

theorem number_decided (places : List Parameter) (k : Nat) : (decided places k).number = k := by
  have h := Bindings.number_getD (Bindings.recordAll [] places) k
  rwa [Bindings.find?_recordAll] at h

/-- A number that is not mistaken for another one is decided by the same place as before. -/
theorem decided_renumber {f : Nat → Nat} {places : List Parameter} {k : Nat}
    (hown : ∀ p ∈ places, f p.number = f k → p.number = k) :
    decided (places.map (·.renumber f)) (f k) = (decided places k).renumber f := by
  -- no place of another number gets the new number
  have hfilter : (places.map (·.renumber f)).filter (·.number = f k) =
      (places.filter (·.number = k)).map (·.renumber f) := by
    rw [List.filter_map]
    refine congrArg (List.map _) (List.filter_congr fun p hp => ?_)
    exact decide_eq_decide.mpr ⟨hown p hp, fun h => congrArg f h⟩
  have hdeciding : deciding? (places.map (·.renumber f)) (f k) =
      (deciding? places k).map (·.renumber f) := by
    rw [deciding?, deciding?, hfilter, List.find?_map, List.head?_map, Option.map_or]
    rfl
  rw [decided, decided, hdeciding]
  cases deciding? places k <;> rfl

/-! ## Analyses -/

/-- Under every numbering a statement comes to the same columns and binds the same places, or it
ends in the same error. -/
theorem analyze_renumber_cases (c : Catalog) (n : Node) :
    (∃ columns table, ∃ places : List Parameter, (∀ p ∈ places, p.number ∈ n.numbers) ∧ ∀ f,
      analyze c (n.renumber f) = .ok
        ⟨(Bindings.recordAll [] (places.map (·.renumber f))).parameters
          (greatestParam (n.renumber f)), columns, table⟩) ∨
    ∃ e, ∀ f, analyze c (n.renumber f) = .error e := by
  -- one trace for every renumbering: the places are the same, only their numbers change
  rcases analyzeStatement_traced (c := c) n with
    ⟨⟨columns, table⟩, places, -, hwithin, htrace⟩ | ⟨e, herror⟩
  · refine .inl ⟨columns, table, places, fun p hp => ?_, fun f => ?_⟩
    · exact hwithin.mem (List.mem_map_of_mem hp)
    · have hbound : (analyzeStatement c (n.renumber f)).run [] =
          .ok ((columns, table), Bindings.recordAll [] (places.map (·.renumber f))) := htrace f []
      rw [analyze, hbound]
      rfl
  · refine .inr ⟨e, fun f => ?_⟩
    rw [analyze, herror f []]
    rfl

/-- The parameter of a number that stands in a statement is what its places decide. -/
theorem getElem?_params_renumber {n : Node} {f : Nat → Nat} {k : Nat} (hk : k ∈ n.numbers)
    (hpos : 0 < f k) (places : List Parameter) :
    ((Bindings.recordAll [] (places.map (·.renumber f))).parameters
      (greatestParam (n.renumber f)))[f k - 1]? =
        some (decided (places.map (·.renumber f)) (f k)) := by
  have hmem : f k ∈ (n.renumber f).numbers := by
    rw [Node.numbers_renumber]
    exact List.mem_map_of_mem hk
  rw [getElem?_parameters _ hpos (le_greatestParam hmem), Bindings.find?_recordAll]
  rfl

/-! ## Names -/

/-- Trees that differ in the locations of their nodes only. -/
def Canonical.Node.SameButLocations (n n' : Node) : Prop :=
  n.relocate (fun _ => 0) = n'.relocate fun _ => 0

/-- **Numbers are names.** Under other numbers for its placeholders a statement has the same result
columns and inserts into the same table, or it ends in the same error. If numbers that differ are
renamed to numbers that differ, the parameter of every number that stands in the statement is the
same but for the number. Other locations of its nodes change nothing. -/
theorem analyze_renumber (c : Catalog) (n : Node) (f : Nat → Nat) :
    (analyze c (n.renumber f)).map (fun a => (a.columns, a.insertIntoTable)) =
        (analyze c n).map (fun a => (a.columns, a.insertIntoTable)) ∧
      ((∀ k ∈ n.numbers, 0 < k ∧ 0 < f k) →
        (∀ j ∈ n.numbers, ∀ k ∈ n.numbers, f j = f k → j = k) → ∀ a a',
          analyze c n = .ok a → analyze c (n.renumber f) = .ok a' →
          ∀ k ∈ n.numbers, ∃ p, a.params[k - 1]? = some p ∧ p.number = k ∧
            a'.params[f k - 1]? = some { p with number := f k }) ∧
      ∀ n', n.SameButLocations n' → analyze c n' = analyze c n := by
  have hid : n.renumber id = n := n.renumber_id
  refine ⟨?findings, ?params, ?locations⟩
  case findings =>
    -- the identity renumbers to the statement itself, so both runs have one trace
    rcases analyze_renumber_cases c n with ⟨columns, table, places, -, hrun⟩ | ⟨e, hrun⟩
    · have hown := hrun id
      rw [hid] at hown
      rw [hrun f, hown]
      rfl
    · have hown := hrun id
      rw [hid] at hown
      rw [hrun f, hown]
  case params =>
    intro hpos hinj a a' ha ha' k hk
    rcases analyze_renumber_cases c n with ⟨columns, table, places, hplaces, hrun⟩ | ⟨e, hrun⟩
    · rw [← hid, hrun id] at ha
      rw [hrun f] at ha'
      cases ha
      cases ha'
      -- a number that no other number is mapped to decides among the same places
      refine ⟨decided (places.map (·.renumber id)) k, ?_, number_decided _ k, ?_⟩
      · exact getElem?_params_renumber (f := id) hk (hpos k hk).1 places
      · have hplace := decided_renumber fun p hp heq => hinj p.number (hplaces p hp) k hk heq
        refine (getElem?_params_renumber hk (hpos k hk).2 places).trans (congrArg some ?_)
        rw [hplace, List.map_id'' Parameter.renumber_id, Parameter.renumber, number_decided]
    · rw [hrun f] at ha'
      cases ha'
  case locations =>
    intro n' hsame
    have hsame : n.relocate (fun _ => 0) = n'.relocate fun _ => 0 := hsame
    -- both statements are the same without locations, and locations decide nothing
    rw [← analyze_relocate c n' fun _ => 0, ← analyze_relocate c n fun _ => 0, hsame]

/-- The numbers of `SELECT $1::int AS x FROM t WHERE a = $2` are exchanged, or its text is moved. -/
theorem analyze_renumber_castAndCompare :
    ∃ a a' p, analyze nullableTable (castAndCompare 1 2) = .ok a ∧
      analyze nullableTable (castAndCompare 2 1) = .ok a' ∧ a'.columns = a.columns ∧
      a.params[1]? = some p ∧ p.name = some "a" ∧ a'.params[0]? = some { p with number := 1 } ∧
      analyze nullableTable ((castAndCompare 1 2).relocate (· + 5)) = .ok a := by
  have hexchanged : (castAndCompare 1 2).renumber (3 - ·) = castAndCompare 2 1 := rfl
  obtain ⟨hfindings, hparams, hlocations⟩ :=
    analyze_renumber nullableTable (castAndCompare 1 2) (3 - ·)
  have hrun : analyze nullableTable (castAndCompare 1 2) =
      .ok ⟨[⟨1, none, .named "int", true⟩, ⟨2, some "a", .named "int", false⟩],
        [.computed "x" (.named "int") true], none⟩ := by
    decide +kernel
  rw [hexchanged, hrun] at hfindings
  -- the second analysis is not run: that it succeeds follows from the first
  cases hrun' : analyze nullableTable (castAndCompare 2 1) with
  | error e =>
    rw [hrun'] at hfindings
    cases hfindings
  | ok a' =>
    rw [hrun'] at hfindings
    obtain ⟨p, hp, -, hp'⟩ := hparams (by decide) (by decide) _ a' hrun (hexchanged ▸ hrun') 2
      (by decide)
    refine ⟨_, a', p, hrun, rfl, congrArg Prod.fst (Except.ok.inj hfindings), hp, ?_, hp', ?_⟩
    · cases hp
      rfl
    · exact (hlocations ((castAndCompare 1 2).relocate (· + 5)) rfl).trans hrun

end TypedSql
