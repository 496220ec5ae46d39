import TypedSql.Canonical.Walk
import TypedSql.Proofs.Conversion.Run
import TypedSql.Proofs.Conversion.Tally

/-!
# Placeholders handed out by a conversion

Under the rules of MySQL a conversion hands out the numbers of placeholders in order, and with each
number the offset of the mark with that number in the text.

- **Offsets**: what claiming does to the offsets of the placeholders with one spelling
- **Issues**: a step hands out consecutive placeholders, and fails exactly if its tally says so
- **Adds**: the answer of a step holds, beyond what was there before, as many of the placeholders
  handed out as its tally keeps
- **Steps**: what the steps that no construct stands for hand out
-/

namespace TypedSql.Canonical

/-! ## Offsets -/

/-- The offsets of the placeholders with a spelling. -/
def offsetsOf (text : String) (ps : List Sql.Placeholder) : List Nat :=
  (ps.filter (·.text = text)).map (·.offset)

namespace Conversion

/-- The first placeholder with a spelling is taken, and all others stay. -/
theorem exists_of_takePlaceholder {text : String} {ps rest : List Sql.Placeholder}
    {q : Sql.Placeholder} (h : takePlaceholder text ps = some (q, rest)) :
    ∃ front back, ps = front ++ q :: back ∧ rest = front ++ back ∧ q.text = text ∧
      offsetsOf text front = [] := by
  induction ps generalizing rest with
  | nil => cases h
  | cons p ps ih =>
    rw [takePlaceholder] at h
    split at h
    · -- the first placeholder has the spelling
      rename_i htext
      cases h
      exact ⟨[], ps, rfl, rfl, htext, rfl⟩
    · -- it has another one, so it stays, and is none of those that are counted
      rename_i htext
      obtain ⟨⟨q', rest'⟩, hrest, heq⟩ := Option.map_eq_some_iff.mp h
      cases heq
      obtain ⟨front, back, rfl, rfl, hq, hfront⟩ := ih hrest
      exact ⟨p :: front, back, rfl, rfl, hq, by simpa [offsetsOf, htext] using hfront⟩

/-- Nothing is taken only if no placeholder of the spelling is left. -/
theorem offsetsOf_of_takePlaceholder_none {text : String} {ps : List Sql.Placeholder}
    (h : takePlaceholder text ps = none) : offsetsOf text ps = [] := by
  induction ps with
  | nil => rfl
  | cons p ps ih =>
    rw [takePlaceholder] at h
    split at h
    · cases h
    · rename_i htext
      simpa [offsetsOf, htext] using ih (Option.map_eq_none_iff.mp h)

/-- What is left when a placeholder has been claimed: all but the first one with its spelling. -/
structure Leaves (text : String) (ps rest : List Sql.Placeholder) : Prop where
  tail : offsetsOf text rest = (offsetsOf text ps).tail
  others : ∀ other, text ≠ other → offsetsOf other rest = offsetsOf other ps
  all : (offsetsOf text ps).head? = none → rest = ps
  taken : ∀ offset, (offsetsOf text ps).head? = some offset → ps.Perm (⟨text, offset⟩ :: rest)

theorem Leaves.of_takePlaceholder {text : String} {ps rest : List Sql.Placeholder}
    {q : Sql.Placeholder} (h : takePlaceholder text ps = some (q, rest)) :
    (offsetsOf text ps).head? = some q.offset ∧ Leaves text ps rest := by
  obtain ⟨front, back, rfl, rfl, rfl, hfront⟩ := exists_of_takePlaceholder h
  -- the placeholder is the first one of its text, so its offset is the first of the offsets
  have hoffsets : offsetsOf q.text (front ++ q :: back) =
      q.offset :: offsetsOf q.text (front ++ back) := by
    simp only [offsetsOf, List.filter_append, List.map_append] at hfront ⊢
    simp [hfront]
  rw [hoffsets]
  refine ⟨rfl, by rw [hoffsets, List.tail_cons], fun other hne => ?_, fun hnone => ?_,
    fun offset hoffset => ?_⟩
  · simp [offsetsOf, hne]
  · rw [hoffsets] at hnone
    cases hnone
  · rw [hoffsets] at hoffset
    cases hoffset
    exact List.perm_middle

/-- Claiming answers the first offset that is left, or the fallback. -/
theorem exists_run_claim_leaves (text : String) (s : Setting) (p : Progress) :
    ∃ rest, (claim text).run s p =
        (.ok ((offsetsOf text p.unclaimed).head?.getD s.fallback), { p with unclaimed := rest }) ∧
      Leaves text p.unclaimed rest := by
  -- a text of which no placeholder is left is given the fallback, and takes nothing away
  cases htake : takePlaceholder text p.unclaimed with
  | none =>
    have hnil := offsetsOf_of_takePlaceholder_none htake
    rw [hnil]
    refine ⟨p.unclaimed, run_claim_of_none htake, by rw [hnil, List.tail_nil], fun _ _ => rfl,
      fun _ => rfl, fun offset hoffset => ?_⟩
    rw [hnil] at hoffset
    cases hoffset
  | some found =>
    obtain ⟨hhead, hleaves⟩ := Leaves.of_takePlaceholder htake
    rw [hhead]
    exact ⟨found.2, run_claim_of_some htake, hleaves⟩

end Conversion

/-! ## Issues -/

/-- What decides the placeholders that a conversion by the rules of MySQL hands out. -/
structure Ledger where
  /-- The offsets of the marks in the text. -/
  offsets : List Nat
  /-- The location of placeholders beyond those of the text. -/
  fallback : Nat
  limitComma : Bool

namespace Ledger

variable (l : Ledger)

/-- The setting of the conversion. -/
def setting : Setting := ⟨.mysql, l.fallback, l.limitComma⟩

@[simp] theorem setting_dialect : l.setting.dialect = .mysql := rfl

/-- The placeholder with a number. -/
def ref (number : Nat) : ParamRef := ⟨number, l.offsets[number - 1]?.getD l.fallback⟩

/-- The node of the placeholder with a number. -/
def mark (number : Nat) : Node := .param number (l.ref number).location

theorem mark_inj {i j : Nat} (h : l.mark i = l.mark j) : i = j := by
  simp only [mark, Node.param.injEq] at h
  exact h.1

/-- The placeholders handed out while the count goes from `i` to `j`. -/
def issued (i j : Nat) : List ParamRef := (List.range' (i + 1) (j - i)).map l.ref

/-- The marks that are not claimed are those whose numbers are not handed out. -/
def At (p : Progress) : Prop := offsetsOf "?" p.unclaimed = l.offsets.drop p.seen

@[simp] theorem issued_self (i : Nat) : l.issued i i = [] := by simp [issued]

theorem issued_succ (i : Nat) : l.issued i (i + 1) = [l.ref (i + 1)] := by simp [issued]

theorem issued_append {i j k : Nat} (hij : i ≤ j) (hjk : j ≤ k) :
    l.issued i j ++ l.issued j k = l.issued i k := by
  rw [issued, issued, issued, ← List.map_append]
  congr 1
  -- the second range starts right after the first one
  have h : j + 1 = i + 1 + (j - i) := by omega
  rw [h, List.range'_append_1]
  congr 1
  omega

end Ledger

namespace Conversion

variable {α β : Type} {l : Ledger} {t u : Tally}

/-- A step counts up to as many placeholders as its tally holds, and fails exactly if the tally does
    not convert. Its answer stands to the placeholders handed out as `R` says. -/
def Issues (l : Ledger) (c : Conversion α) (t : Tally) (R : α → List ParamRef → Prop) : Prop :=
  ∀ p, l.At p → ∀ r q, c.run l.setting p = (r, q) →
    l.At q ∧ p.seen ≤ q.seen ∧ q.seen ≤ p.seen + t.written ∧
      match r with
      | .ok a => t.converts = true ∧ R a (l.issued p.seen q.seen)
      | .error _ => t.converts = false

namespace Issues

theorem pure {a : α} {R : α → List ParamRef → Prop} (h : R a []) :
    Issues l (Pure.pure a) 0 R := by
  intro p hp r q hrun
  obtain ⟨rfl, rfl⟩ : Except.ok a = r ∧ p = q := by simpa using hrun
  exact ⟨hp, Nat.le_refl _, by simp, rfl, by simpa using h⟩

/-- One step after the other: the second may use what the first has handed out. -/
theorem bind {c : Conversion α} {f : α → Conversion β} {R : α → List ParamRef → Prop}
    {Q : β → List ParamRef → Prop} (hc : Issues l c t R)
    (hf : ∀ a new, R a new → Issues l (f a) u fun b more => Q b (new ++ more)) :
    Issues l (c >>= f) (t + u) Q := by
  intro p hp r q hrun
  rw [run_bind] at hrun
  rcases hcr : c.run l.setting p with ⟨a | a, p'⟩ <;> rw [hcr] at hrun
  · -- the first step fails, and the whole with it
    obtain ⟨rfl, rfl⟩ : Except.error a = r ∧ p' = q := by simpa using hrun
    obtain ⟨hat, hle, hub, hconv⟩ := hc p hp _ _ hcr
    have hbound : p'.seen ≤ p.seen + (t + u).written := by
      rw [Tally.written_add]
      omega
    exact ⟨hat, hle, hbound, by simp [hconv]⟩
  · -- both steps run: what the second hands out follows what the first has handed out
    obtain ⟨hat, hle, hub, hconv, hR⟩ := hc p hp _ _ hcr
    obtain ⟨hat', hle', hub', hres⟩ := hf a _ hR p' hat _ _ hrun
    have hbound : q.seen ≤ p.seen + (t + u).written := by
      rw [Tally.written_add]
      omega
    refine ⟨hat', Nat.le_trans hle hle', hbound, ?_⟩
    rcases r with e | b
    · simpa [hconv] using hres
    · obtain ⟨hconv', hQ⟩ := hres
      rw [l.issued_append hle hle'] at hQ
      exact ⟨by simp [hconv, hconv'], hQ⟩

/-- A last step that only puts the answer together. -/
theorem map {c : Conversion α} {f : α → β} {R : α → List ParamRef → Prop}
    {Q : β → List ParamRef → Prop} (hc : Issues l c t R) (hf : ∀ a new, R a new → Q (f a) new) :
    Issues l (c >>= fun a => Pure.pure (f a)) t Q := by
  have h := hc.bind (u := 0) (Q := Q) fun a new hR => pure (by simpa using hf a new hR)
  intro p hp r q hrun
  simpa [Tally.written] using h p hp r q hrun

/-- The tally may count more placeholders as lost. -/
theorem weaken {c : Conversion α} {R : α → List ParamRef → Prop} (hc : Issues l c t R)
    (hwritten : t.written ≤ u.written) (hconverts : t.converts = u.converts) :
    Issues l c u R := by
  intro p hp r q hrun
  obtain ⟨hat, hle, hub, hres⟩ := hc p hp r q hrun
  exact ⟨hat, hle, by omega, hconverts ▸ hres⟩

/-- What is known of the answer may be weakened. -/
theorem imp {c : Conversion α} {R Q : α → List ParamRef → Prop} (hc : Issues l c t R)
    (h : ∀ a new, R a new → Q a new) : Issues l c t Q := by
  intro p hp r q hrun
  obtain ⟨hat, hle, hub, hres⟩ := hc p hp r q hrun
  refine ⟨hat, hle, hub, ?_⟩
  cases r with
  | error e => exact hres
  | ok a => exact ⟨hres.1, h a _ hres.2⟩

/-- What every answer satisfies may be used. -/
theorem and {c : Conversion α} {R : α → List ParamRef → Prop} {P : α → Prop} (hc : Issues l c t R)
    (h : Ensures c P) : Issues l c t fun a new => R a new ∧ P a := by
  intro p hp r q hrun
  obtain ⟨hat, hle, hub, hres⟩ := hc p hp r q hrun
  refine ⟨hat, hle, hub, ?_⟩
  cases r with
  | error e => exact hres
  | ok a => exact ⟨hres.1, hres.2, h _ _ _ _ hrun⟩

/-- Two clauses in the order of the text: each holds its own part of what is handed out. -/
theorem inOrder {straight : Bool} {c : Conversion α} {d : Conversion β}
    {R : α → List ParamRef → Prop} {Q : β → List ParamRef → Prop} (hc : Issues l c t R)
    (hd : Issues l d u Q) :
    Issues l (Conversion.inOrder straight c d) (t + u) fun x new =>
      ∃ left right, new.Perm (left ++ right) ∧ R x.1 left ∧ Q x.2 right := by
  cases straight with
  | true => exact hc.bind fun a left ha => hd.map fun b right hb => ⟨left, right, .rfl, ha, hb⟩
  | false =>
    -- the same is handed out, with the two parts exchanged
    have h : Issues l (Conversion.inOrder false c d) (u + t) fun x new =>
        ∃ left right, new.Perm (left ++ right) ∧ R x.1 left ∧ Q x.2 right :=
      hd.bind fun b right hb => hc.map fun a left ha =>
        ⟨left, right, List.perm_append_comm, ha, hb⟩
    exact h.weaken (by simp [Tally.written]; omega) (Bool.and_comm _ _)

end Issues

/-! ## What steps add -/

/-- The placeholders among nodes. -/
def refs (ns : List Node) : List ParamRef := ns.filterMap Node.paramRef?

@[simp] theorem refs_nil : refs [] = [] := rfl

@[simp] theorem refs_append (ms ns : List Node) : refs (ms ++ ns) = refs ms ++ refs ns :=
  List.filterMap_append

@[simp] theorem refs_cons (n : Node) (ns : List Node) :
    refs (n :: ns) =
      (match n with
        | .param number location => [⟨number, location⟩]
        | _ => []) ++ refs ns := by
  unfold refs
  cases n <;> rfl

/-- An answer holds what was there `before` and `k` of the new placeholders. -/
def Extends (before : List ParamRef) (walk : α → List Node) (k : Nat) (a : α)
    (new : List ParamRef) : Prop :=
  (∀ r, (refs (walk a)).count r ≤ before.count r + new.count r) ∧
    (refs (walk a)).length = before.length + k

namespace Extends

variable {before new more : List ParamRef} {walk : α → List Node} {walk' : β → List Node}
  {j k : Nat} {a : α} {b : β}

/-- What extends an extended answer extends what was there before. -/
theorem trans (h : Extends before walk j a new) (h' : Extends (refs (walk a)) walk' k b more) :
    Extends before walk' (j + k) b (new ++ more) := by
  constructor
  · intro r
    have := h.1 r
    have := h'.1 r
    simp only [List.count_append] at *
    omega
  · have := h.2
    have := h'.2
    omega

/-- What extends an answer of its own extends it beside what was there before. -/
theorem append (h : Extends [] walk j a new)
    (h' : Extends (before ++ refs (walk a)) walk' k b more) :
    Extends before walk' (j + k) b (new ++ more) := by
  constructor
  · intro r
    have := h.1 r
    have := h'.1 r
    simp only [List.count_append, List.count_nil] at *
    omega
  · have := h.2
    have := h'.2
    simp only [List.length_append, List.length_nil] at *
    omega

end Extends

/-- A step that hands out nothing and answers what satisfies `P`. -/
def Quiet (l : Ledger) (c : Conversion α) (t : Tally) (P : α → Prop) : Prop :=
  Issues l c t fun a new => P a ∧ new = []

/-- A step whose answer holds what was there `before` and what its tally keeps. -/
def Adds (l : Ledger) (before : List ParamRef) (walk : α → List Node) (c : Conversion α)
    (t : Tally) : Prop := Issues l c t (Extends before walk t.kept)

namespace Quiet

theorem pure {P : α → Prop} {a : α} (h : P a) : Quiet l (Pure.pure a) 0 P := Issues.pure ⟨h, rfl⟩

theorem bind {P : α → Prop} {Q : β → Prop} {c : Conversion α} {f : α → Conversion β}
    (hc : Quiet l c t P) (hf : ∀ a, P a → Quiet l (f a) u Q) : Quiet l (c >>= f) (t + u) Q :=
  Issues.bind hc fun a _ ⟨ha, hnew⟩ => by simpa [Quiet, hnew] using hf a ha

end Quiet

namespace Adds

variable {before : List ParamRef} {walk : α → List Node} {walk' : β → List Node}

theorem pure {a : α} (h : (refs (walk a)).Perm before) : Adds l before walk (Pure.pure a) 0 :=
  Issues.pure ⟨fun r => by simp [h.count_eq r], by simpa using h.length_eq⟩

/-- A step with an answer of its own, followed by one that adds to that. -/
theorem bind {c : Conversion α} {f : α → Conversion β} (hc : Adds l [] walk c t)
    (hf : ∀ a, Adds l (before ++ refs (walk a)) walk' (f a) u) :
    Adds l before walk' (c >>= f) (t + u) :=
  Issues.bind hc fun a _ h => (hf a).imp fun _ _ h' => h.append h'

/-- A step that adds to what was there before, followed by one that adds to its answer. -/
theorem andThen {c : Conversion α} {f : α → Conversion β} (hc : Adds l before walk c t)
    (hf : ∀ a, Adds l (refs (walk a)) walk' (f a) u) : Adds l before walk' (c >>= f) (t + u) :=
  Issues.bind hc fun a _ h => (hf a).imp fun _ _ h' => h.trans h'

/-- The tally may count more placeholders as lost. -/
theorem weaken {c : Conversion α} (hc : Adds l before walk c t) (hkept : t.kept = u.kept)
    (hlost : t.lost ≤ u.lost) (hconverts : t.converts = u.converts) :
    Adds l before walk c u := by
  rw [Adds, ← hkept]
  exact Issues.weaken hc (by simp [Tally.written]; omega) hconverts

/-- A last step that hands out nothing. -/
theorem last {c : Conversion α} {f : α → Conversion β} (hc : Adds l [] walk c t)
    (hf : ∀ a, Adds l (before ++ refs (walk a)) walk' (f a) 0) : Adds l before walk' (c >>= f) t :=
  (hc.bind hf).weaken (by simp) (by simp) (by simp)

/-- A last step that puts the answer together. -/
theorem map {c : Conversion α} {f : α → β} (hc : Adds l [] walk c t)
    (hf : ∀ a, (refs (walk' (f a))).Perm (before ++ refs (walk a))) :
    Adds l before walk' (c >>= fun a => Pure.pure (f a)) t :=
  hc.last fun a => pure (hf a)

/-- A step that hands out nothing, followed by one that adds something. -/
theorem after {P : α → Prop} {c : Conversion α} {f : α → Conversion β} (hc : Quiet l c t P)
    (hf : ∀ a, P a → Adds l before walk' (f a) u) (ht : t.kept = 0) :
    Adds l before walk' (c >>= f) (t + u) := by
  refine Issues.bind hc fun a new ⟨ha, hnew⟩ => ?_
  simpa [Adds, hnew, ht] using hf a ha

/-- A step that only looks something up, followed by one that adds something. -/
theorem afterRead {P : α → Prop} {c : Conversion α} {f : α → Conversion β} (hc : Quiet l c 0 P)
    (hf : ∀ a, P a → Adds l before walk' (f a) u) : Adds l before walk' (c >>= f) u :=
  Tally.zero_add u ▸ after hc hf rfl

/-- The order in which placeholders were there before does not matter. -/
theorem perm {before' : List ParamRef} {c : Conversion α} (hc : Adds l before walk c t)
    (h : before.Perm before') : Adds l before' walk c t :=
  Issues.imp hc fun _ _ ⟨hcount, hlength⟩ =>
    ⟨fun r => h.count_eq r ▸ hcount r, h.length_eq ▸ hlength⟩

/-- Two clauses in the order of the text. -/
theorem inOrder {straight : Bool} {c : Conversion α} {d : Conversion β}
    (hc : Adds l [] walk c t) (hd : Adds l [] walk' d u) :
    Adds l [] (fun x => walk x.1 ++ walk' x.2) (Conversion.inOrder straight c d) (t + u) := by
  refine (Issues.inOrder hc hd).imp fun x new ⟨left, right, hperm, ha, hb⟩ => ⟨fun r => ?_, ?_⟩
  · have := ha.1 r
    have := hb.1 r
    simp [hperm.count_eq] at *
    omega
  · rw [refs_append, List.length_append, ha.2, hb.2]
    simp

/-- Texts that no stage looks into change nothing. -/
theorem silent {c : Conversion α} (hc : Adds l before walk c t) (texts : List String) :
    Adds l before walk c (t + .silentAll texts) := by
  exact hc.weaken (by simp [Tally.kept_silentAll]) (by simp) (by simp [Tally.converts_silentAll])

end Adds

/-! ## Steps -/

/-- A step that only reads. -/
theorem quiet_of_run {c : Conversion α} {a : α} (h : ∀ p, c.run l.setting p = (.ok a, p)) :
    Quiet l c 0 (· = a) := by
  intro p hp r q hrun
  obtain ⟨rfl, rfl⟩ : Except.ok a = r ∧ p = q := by simpa [h] using hrun
  exact ⟨hp, Nat.le_refl _, by simp, rfl, rfl, by simp⟩

theorem quiet_read : Quiet l read 0 (· = l.setting) := quiet_of_run fun _ => rfl

theorem quiet_dialect : Quiet l dialect 0 (· = .mysql) := quiet_of_run fun _ => rfl

theorem quiet_ident (i : Sql.Ident) : Quiet l (ident i) 0 (· = fold .mysql i) :=
  quiet_of_run fun _ => rfl

theorem quiet_note (construct : String) : Quiet l (note construct) 0 fun _ => True := by
  intro p hp r q hrun
  obtain ⟨rfl, rfl⟩ := Prod.mk.inj (hrun : (Except.ok ⟨⟩, _) = (r, q))
  exact ⟨hp, Nat.le_refl _, by simp, rfl, trivial, by simp⟩

theorem quiet_noteIf (present : Bool) (construct : String) :
    Quiet l (noteIf present construct) 0 fun _ => True := by
  cases present with
  | false => exact .pure trivial
  | true => exact quiet_note construct

theorem quiet_lastIdent (name : Sql.ObjectName) :
    Quiet l (lastIdent name) ⟨0, 0, !name.isEmpty⟩ fun _ => True := by
  intro p hp r q hrun
  -- the last part of a name that has any parts is there
  have hlast : (lastPart? .mysql name).isSome = !name.isEmpty := by
    cases name with
    | nil => rfl
    | cons i is => simp [lastPart?, List.getLast?_cons]
  have hrun' := hrun
  rw [lastIdent, run_bind, run_dialect] at hrun'
  dsimp only [Ledger.setting_dialect] at hrun'
  cases hpart : lastPart? .mysql name with
  | none =>
    rw [hpart] at hlast hrun'
    obtain ⟨rfl, rfl⟩ := Prod.mk.inj (hrun' : (Except.error _, _) = (r, q))
    exact ⟨hp, Nat.le_refl _, by simp, hlast.symm⟩
  | some text =>
    rw [hpart] at hlast hrun'
    obtain ⟨rfl, rfl⟩ := Prod.mk.inj (hrun' : (Except.ok _, _) = (r, q))
    exact ⟨hp, Nat.le_refl _, by simp, hlast.symm, trivial, by simp⟩

theorem quiet_tableName (name : Sql.ObjectName) :
    Quiet l (tableName name) (.tableName name) fun _ => True := by
  intro p hp r q hrun
  rw [tableName, run_bind] at hrun
  match name, hrun with
  | [], hrun | _ :: _ :: _ :: _ :: _, hrun =>
    obtain ⟨rfl, rfl⟩ := Prod.mk.inj (hrun : (Except.error _, _) = (r, q))
    exact ⟨hp, Nat.le_refl _, by simp, by simp [Tally.tableName]⟩
  | [_], hrun | [_, _], hrun | [_, _, _], hrun =>
    obtain ⟨rfl, rfl⟩ := Prod.mk.inj (hrun : (Except.ok _, _) = (r, q))
    exact ⟨hp, Nat.le_refl _, by simp, by simp [Tally.tableName]⟩

/-- Claiming a mark answers the offset of the first one that is left. -/
theorem run_claim_mark {p : Progress} (hp : l.At p) (seen : Nat) :
    ∃ rest, (claim "?").run l.setting { p with seen := seen } =
        (.ok (l.ref (p.seen + 1)).location, ⟨rest, seen, p.unsupported⟩) ∧
      offsetsOf "?" rest = l.offsets.drop (p.seen + 1) := by
  have hleft : offsetsOf "?" p.unclaimed = l.offsets.drop p.seen := hp
  obtain ⟨rest, hrun, hleaves⟩ := exists_run_claim_leaves "?" l.setting { p with seen := seen }
  refine ⟨rest, ?_, ?_⟩
  · -- the next mark has the offset right behind those that are dropped
    rw [hrun, hleft, List.head?_drop]
    rfl
  · rw [hleaves.tail, hleft, List.tail_drop]

@[simp] theorem refs_walk_param (number location : Nat) :
    refs (Node.param number location).walk = [⟨number, location⟩] := rfl

/-- A mark takes the next number, and with it the offset of the next mark of the text. -/
theorem run_param_mark {p : Progress} (hp : l.At p) :
    ∃ q, (param "?").run l.setting p = (.ok (l.mark (p.seen + 1)), q) ∧ l.At q ∧
      q.seen = p.seen + 1 := by
  obtain ⟨rest, hclaim, hrest⟩ := run_claim_mark hp (p.seen + 1)
  have hnumber : paramNumber? .mysql "?" (p.seen + 1) = some (p.seen + 1) := rfl
  exact ⟨⟨rest, p.seen + 1, p.unsupported⟩, run_param_of_some hnumber hclaim, hrest, rfl⟩

theorem adds_param_mark : Adds l [] Node.walk (param "?") ⟨1, 0, true⟩ := by
  intro p hp r q hrun
  obtain ⟨q', hparam, hat, hseen⟩ := run_param_mark hp
  obtain ⟨rfl, rfl⟩ := Prod.mk.inj (hparam.symm.trans hrun)
  refine ⟨hat, by omega, by simp [hseen, Tally.written], rfl, ?_⟩
  simp [Extends, hseen, l.issued_succ p.seen, Ledger.ref, Ledger.mark]

/-- A placeholder with another spelling is none of MySQL. -/
theorem adds_param_of_ne {text : String} (h : text ≠ "?") :
    Adds l [] Node.walk (param text) ⟨0, 0, false⟩ := by
  intro p hp r q hrun
  have h : (param text).run l.setting p = (.error (.placeholder text), p) :=
    run_param_of_none (if_neg h)
  obtain ⟨rfl, rfl⟩ := Prod.mk.inj (h.symm.trans hrun)
  exact ⟨hp, Nat.le_refl _, by simp, rfl⟩

/-- What fails may be caught and left out: nothing of it is kept. -/
theorem Adds.attempt {walk : α → List Node} {c : Conversion α}
    {handler : ConversionError → Conversion (Option α)} (hc : Adds l [] walk c t)
    (hhandler : ∀ e, Quiet l (handler e) 0 (· = none)) :
    Adds l [] (fun o => (o.map walk).getD []) (tryCatch (some <$> c) handler) t.tested := by
  intro p hp r q hrun
  rw [run_tryCatch, map_eq_pure_bind, run_bind] at hrun
  rcases hcr : c.run l.setting p with ⟨e | a, p'⟩ <;> rw [hcr] at hrun
  · -- what the attempt has handed out is lost, but its numbers stay taken
    obtain ⟨hat, hle, hub, hconv⟩ := hc p hp _ _ hcr
    obtain ⟨hat', hle', hub', hres⟩ := hhandler e p' hat _ _ hrun
    have hseen : q.seen = p'.seen := by simp [Tally.written] at hub'; omega
    have ht : t.tested = t.dropped := by simp [Tally.tested, hconv]
    refine ⟨hat', by omega, by simp [ht, Tally.dropped, Tally.written] at *; omega, ?_⟩
    cases r with
    | error e => simp at hres
    | ok o =>
      obtain ⟨-, rfl, -⟩ := hres
      simp [ht, Tally.dropped, Extends]
  · obtain ⟨rfl, rfl⟩ := Prod.mk.inj hrun
    obtain ⟨hat, hle, hub, hconv, hext⟩ := hc p hp _ _ hcr
    have ht : t.tested = t := by simp [Tally.tested, hconv]
    exact ⟨hat, hle, by rw [ht]; exact hub, by rw [ht]; exact ⟨hconv, hext⟩⟩

/-- Of the placeholders of a text exactly the marks convert. -/
theorem adds_params (texts : List String) :
    Adds l [] walkAll (params texts) ⟨texts.count "?", 0, true⟩ := by
  induction texts with
  | nil => exact Adds.pure (by simp)
  | cons text texts ih =>
    have hhead : Adds l [] Node.walk (param text) ⟨if text = "?" then 1 else 0, 0, text = "?"⟩ := by
      by_cases h : text = "?"
      · subst h
        exact adds_param_mark
      · simpa [h] using adds_param_of_ne h
    rw [params]
    -- a placeholder with another spelling is caught, and nothing of it is lost
    refine (Adds.bind (hhead.attempt fun _ => quiet_of_run fun _ => rfl) fun n =>
      Adds.map ih fun ns => ?_).weaken ?_ ?_ ?_
    · cases n <;> simp
    all_goals by_cases h : text = "?" <;> simp [Tally.tested, Tally.dropped, Tally.written, h]
    omega

theorem adds_paramsIn (text : String) : Adds l [] walkAll (paramsIn text) (.skipped text) := by
  refine Adds.afterRead quiet_dialect fun d hd => ?_
  subst hd
  exact adds_params _

theorem adds_skip (construct text : String) :
    Adds l [] Node.walk (skip construct text) (.skipped text) := by
  refine Adds.afterRead (quiet_note construct) fun _ _ => (adds_paramsIn text).map fun ns => ?_
  simp

/-- Several constructs without canonical form. -/
theorem adds_mapM_skip (construct : String) (texts : List String) :
    Adds l [] walkAll (texts.mapM (skip construct)) (.skippedAll texts) := by
  induction texts with
  | nil => exact Adds.pure (by simp)
  | cons text texts ih =>
    rw [List.mapM_cons]
    exact (adds_skip construct text).bind fun n => ih.map fun ns => by simp

/-- A query that a predicate tests is left out if it does not convert. -/
theorem adds_tested {c : Conversion Select} (hc : Adds l [] Select.walk c t) :
    Adds l [] walkOption (tested c) t.tested := by
  have hselect : Adds l [] Node.walk (c >>= fun q => return .select q) t :=
    hc.map fun q => by simp
  have hwalk : (fun o : Option Node => (o.map Node.walk).getD []) = walkOption := by
    funext o
    cases o <;> rfl
  -- wrapping the query into a node may be seen as part of the attempt
  have hrun : tested c = tryCatch (some <$> (c >>= fun q => return .select q)) fun _ => do
      note "subquery"
      return none := by
    rw [tested, map_eq_pure_bind, bind_assoc]
    simp only [pure_bind]
  rw [hrun, ← hwalk]
  refine hselect.attempt fun _ => ?_
  exact (quiet_note "subquery").bind (u := 0) fun _ _ => .pure rfl

/-- A column of a result is its value, with a name. -/
theorem quiet_target_eq (name : Option String) (value : Node) :
    Quiet l (target name value) 0 (· = .target name (some value) l.setting.fallback) :=
  quiet_of_run fun _ => rfl

theorem quiet_target (name : Option String) (value : Node) :
    Quiet l (target name value) 0 fun n => refs n.walk = refs value.walk :=
  (quiet_target_eq name value).imp fun n new ⟨hn, hnew⟩ => ⟨by simp [hn], hnew⟩

end Conversion

end TypedSql.Canonical
