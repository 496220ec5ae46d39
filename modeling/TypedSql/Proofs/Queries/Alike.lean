import TypedSql.Proofs.Queries.Relocation
import TypedSql.Proofs.Conversion.LevelMarks

/-!
# Alike conversions

What a construct converts to does not depend on where it stands. Which placeholders of the text are
claimed already, how many were met, and where the statement starts show in the numbers and the
locations of the tree only.

- **Bare trees**: trees without numbers and locations
- **Two runs**: conversions that come to the same bare tree
- **Single constructs**: the steps of a conversion, piece by piece
- **Expressions and queries**: one statement for each function of the conversion
-/

namespace TypedSql.Canonical

/-! ## Bare trees -/

/-- Something that nodes stand in. -/
class Bare (α : Type) where
  /-- The thing with zero in place of all numbers and locations. -/
  bare : α → α

export Bare (bare)

/-- Two things that differ in numbers and locations only. -/
def SameBare {α : Type} [Bare α] (a a' : α) : Prop := bare a = bare a'

section Instances

/-- Every number and every location becomes this one. -/
abbrev toZero : Nat → Nat := fun _ => 0

instance : Bare Node := ⟨fun n => (n.renumber toZero).relocate toZero⟩

instance : Bare (List Node) := ⟨fun ns => relocateAll toZero (renumberAll toZero ns)⟩

instance : Bare (Option Node) := ⟨fun n => relocateOption toZero (renumberOption toZero n)⟩

instance : Bare Select := ⟨fun s => (s.renumber toZero).relocate toZero⟩

instance : Bare (List NamedQuery) := ⟨fun qs => relocateNamed toZero (renumberNamed toZero qs)⟩

instance : Bare Window := ⟨fun w => (w.renumber toZero).relocate toZero⟩

instance : Bare (Option Window) := ⟨fun w => relocateOver toZero (renumberOver toZero w)⟩

instance : Bare (List Window) := ⟨fun ws => relocateWindows toZero (renumberWindows toZero ws)⟩

instance : Bare (List Branch) := ⟨fun bs => relocateBranches toZero (renumberBranches toZero bs)⟩

instance : Bare Conversion.Sources := ⟨fun s => ⟨bare s.items, bare s.conditions⟩⟩

instance : Bare Conversion.CallParts := ⟨fun p => ⟨bare p.args, bare p.orderBy, p.star, p.distinct⟩⟩

instance : Bare Conversion.QueryParts :=
  ⟨fun p => ⟨bare p.ctes, bare p.body, bare p.keys, bare p.offset, bare p.limit, bare p.quantity⟩⟩

instance : Bare Bool := ⟨id⟩

instance {α β : Type} [Bare α] [Bare β] : Bare (α × β) := ⟨Prod.map bare bare⟩

end Instances

namespace SameBare

variable {α β : Type} [Bare α] [Bare β] {a a' : α} {b b' : β}

theorem refl (a : α) : SameBare a a := rfl

theorem prod (ha : SameBare a a') (hb : SameBare b b') : SameBare (a, b) (a', b') :=
  Prod.ext ha hb

theorem fst (h : SameBare (a, b) (a', b')) : SameBare a a' := congrArg Prod.fst h

theorem snd (h : SameBare (a, b) (a', b')) : SameBare b b' := congrArg Prod.snd h

/-- A construct has the numbers and locations of its parts. -/
theorem map (h : SameBare a a') (g : α → β) (hg : ∀ a, bare (g a) = g (bare a)) :
    SameBare (g a) (g a') := by
  rw [SameBare, hg, hg]
  exact congrArg g h

end SameBare

theorem bare_eq_map (ns : List Node) : bare ns = ns.map bare := by
  show relocateAll _ (renumberAll _ ns) = _
  rw [renumberAll_eq_map, relocateAll_eq_map, List.map_map]
  rfl

@[simp] theorem length_bare (ns : List Node) : (bare ns).length = ns.length := by
  rw [bare_eq_map, List.length_map]

@[simp] theorem bare_append (ns ns' : List Node) : bare (ns ++ ns') = bare ns ++ bare ns' := by
  simp only [bare_eq_map, List.map_append]

@[simp] theorem bare_toList (n : Option Node) : bare n.toList = (bare n).toList := by
  cases n <;> rfl

namespace SameBare

variable {n n' : Node} {ns ns' ms ms' : List Node}

theorem cons (h : SameBare n n') (hs : SameBare ns ns') : SameBare (n :: ns) (n' :: ns') :=
  (h.prod hs).map (fun x => x.1 :: x.2) fun _ => rfl

theorem append (h : SameBare ns ns') (hs : SameBare ms ms') : SameBare (ns ++ ms) (ns' ++ ms') :=
  (h.prod hs).map (fun x => x.1 ++ x.2) fun x => bare_append x.1 x.2

theorem toList {n n' : Option Node} (h : SameBare n n') : SameBare n.toList n'.toList :=
  h.map Option.toList bare_toList

theorem some (h : SameBare n n') : SameBare (some n) (some n') := h.map Option.some fun _ => rfl

theorem addItem {s s' : Conversion.Sources} (h : SameBare s s') (hn : SameBare n n') :
    SameBare { s with items := s.items ++ [n] } { s' with items := s'.items ++ [n'] } :=
  (((h.map Conversion.Sources.items fun _ => rfl).append (hn.cons (.refl []))).prod
    (h.map Conversion.Sources.conditions fun _ => rfl)).map
      (fun x => Conversion.Sources.mk x.1 x.2) fun _ => rfl

theorem addConditions {s s' : Conversion.Sources} (h : SameBare s s') (hns : SameBare ns ns') :
    SameBare { s with conditions := s.conditions ++ ns }
      { s' with conditions := s'.conditions ++ ns' } :=
  ((h.map Conversion.Sources.items fun _ => rfl).prod
    ((h.map Conversion.Sources.conditions fun _ => rfl).append hns)).map
      (fun x => Conversion.Sources.mk x.1 x.2) fun _ => rfl

theorem length_eq (h : SameBare ns ns') : ns.length = ns'.length := by
  rw [← length_bare ns, ← length_bare ns']
  exact congrArg List.length h

end SameBare

namespace Conversion

/-! ## Two runs -/

variable {α β γ δ : Type}

/-- Two conversions come to the same under a map, or both to nothing, if they are run in the same
dialect, whatever else is different. -/
def AlikeBy (E : α → β) (c c' : Conversion α) : Prop :=
  ∀ s s' p p', s.dialect = s'.dialect →
    (c.run s p).1.toOption.map E = (c'.run s' p').1.toOption.map E

/-- Two conversions come to the same bare tree. -/
abbrev Alike [Bare α] (c c' : Conversion α) : Prop := AlikeBy bare c c'

/-- A conversion whose answer is settled by the dialect. -/
abbrev Settled (c : Conversion α) : Prop := AlikeBy id c c

/-- A conversion that fails or not whatever the surroundings are. -/
abbrev Steady (c : Conversion α) : Prop := AlikeBy (fun _ => ()) c c

namespace AlikeBy

variable {E : α → β} {F : γ → δ} {c c' : Conversion α} {f f' : α → Conversion γ}

theorem pure {a a' : α} (h : E a = E a') : AlikeBy E (Pure.pure a) (Pure.pure a') :=
  fun _ _ _ _ _ => congrArg some h

theorem throw {e e' : ConversionError} :
    AlikeBy E (MonadExcept.throw e) (MonadExcept.throw e') := fun _ _ _ _ _ => rfl

theorem symm (h : AlikeBy E c c') : AlikeBy E c' c :=
  fun s s' p p' hd => (h s' s p' p hd.symm).symm

theorem bind (hc : AlikeBy E c c') (hf : ∀ a a', E a = E a' → AlikeBy F (f a) (f' a')) :
    AlikeBy F (c >>= f) (c' >>= f') := by
  intro s s' p p' hd
  have h := hc s s' p p' hd
  rw [run_bind, run_bind]
  revert h
  rcases c.run s p with ⟨e | a, q⟩ <;> rcases c'.run s' p' with ⟨e' | a', q'⟩ <;> intro h
  · rfl
  · cases h
  · cases h
  · exact hf a a' (Option.some.inj h) s s' q q' hd

/-- Of a settled step both conversions know the answer. -/
theorem after {c : Conversion α} (hc : Settled c) (hf : ∀ a, AlikeBy F (f a) (f' a)) :
    AlikeBy F (c >>= f) (c >>= f') :=
  bind hc fun a a' h => (show a = a' from h) ▸ hf a

/-- Of a steady step the answers do not matter. -/
theorem next {c : Conversion α} (hc : Steady c) (hf : ∀ a a', AlikeBy F (f a) (f' a')) :
    AlikeBy F (c >>= f) (c >>= f') := bind hc fun a a' _ => hf a a'

theorem map {g : α → γ} (hc : AlikeBy E c c') (hg : ∀ a a', E a = E a' → F (g a) = F (g a')) :
    AlikeBy F (g <$> c) (g <$> c') := by
  rw [map_eq_pure_bind, map_eq_pure_bind]
  exact hc.bind fun a a' h => .pure (hg a a' h)

theorem tryCatch {handler handler' : ConversionError → Conversion α} (hc : AlikeBy E c c')
    (hhandler : ∀ e e', AlikeBy E (handler e) (handler' e')) :
    AlikeBy E (MonadExcept.tryCatch c handler) (MonadExcept.tryCatch c' handler') := by
  intro s s' p p' hd
  have h := hc s s' p p' hd
  rw [run_tryCatch, run_tryCatch]
  revert h
  rcases c.run s p with ⟨e | a, q⟩ <;> rcases c'.run s' p' with ⟨e' | a', q'⟩ <;> intro h
  · exact hhandler e e' s s' q q' hd
  · cases h
  · cases h
  · exact h

/-- Two clauses come to the same in whichever order they are converted. -/
theorem inOrder {d d' : Conversion γ} (straight straight' : Bool) (hc : AlikeBy E c c')
    (hd : AlikeBy F d d') :
    AlikeBy (Prod.map E F) (Conversion.inOrder straight c d)
      (Conversion.inOrder straight' c' d') := by
  have hpair {a a' : α} {b b' : γ} (ha : E a = E a') (hb : F b = F b') :
      Prod.map E F (a, b) = Prod.map E F (a', b') := Prod.ext ha hb
  -- the second clause of one run starts from other progress than that of the other run
  have hcrossed {c c' : Conversion α} {d d' : Conversion γ} (hc : AlikeBy E c c')
      (hd : AlikeBy F d d') : AlikeBy (Prod.map E F) (Conversion.inOrder true c d)
        (Conversion.inOrder false c' d') := by
    intro s s' p p' hdialect
    have hc := fun p p' => hc s s' p p' hdialect
    have hd := fun p p' => hd s s' p p' hdialect
    simp only [Conversion.inOrder, if_true, Bool.false_eq_true, if_false, run_bind]
    rcases hcrun : c.run s p with ⟨e | a, q⟩ <;>
      rcases hdrun : d'.run s' p' with ⟨e' | b', q'⟩ <;> dsimp only
    · rfl
    · have hfirst := hcrun ▸ hc p q'
      revert hfirst
      rcases c'.run s' q' with ⟨e' | a', r'⟩ <;> intro hfirst
      · rfl
      · cases hfirst
    · have hsecond := hdrun ▸ hd q p'
      revert hsecond
      rcases d.run s q with ⟨e | b, r⟩ <;> intro hsecond
      · rfl
      · cases hsecond
    · have hfirst := hcrun ▸ hc p q'
      have hsecond := hdrun ▸ hd q p'
      revert hfirst hsecond
      rcases c'.run s' q' with ⟨e' | a', r'⟩ <;> rcases d.run s q with ⟨e | b, r⟩ <;>
        intro hfirst hsecond
      · cases hfirst
      · cases hfirst
      · cases hsecond
      · exact congrArg some (hpair (Option.some.inj hfirst) (Option.some.inj hsecond))
  cases straight <;> cases straight'
  · exact hd.bind fun b b' hb => hc.bind fun a a' ha => .pure (hpair ha hb)
  · exact (hcrossed hc.symm hd.symm).symm
  · exact hcrossed hc hd
  · exact hc.bind fun a a' ha => hd.bind fun b b' hb => .pure (hpair ha hb)

end AlikeBy

namespace Alike

variable [Bare α] [Bare β] {c c' : Conversion α}

theorem pure {a a' : α} (h : SameBare a a') : Alike (Pure.pure a) (Pure.pure a') := AlikeBy.pure h

theorem bind {f f' : α → Conversion β} (hc : Alike c c')
    (hf : ∀ a a', SameBare a a' → Alike (f a) (f' a')) : Alike (c >>= f) (c' >>= f') :=
  AlikeBy.bind hc hf

theorem after {c : Conversion γ} {f f' : γ → Conversion α} (hc : Settled c)
    (hf : ∀ a, Alike (f a) (f' a)) : Alike (c >>= f) (c >>= f') := AlikeBy.after hc hf

theorem inOrder {d d' : Conversion β} (straight straight' : Bool) (hc : Alike c c')
    (hd : Alike d d') :
    Alike (Conversion.inOrder straight c d) (Conversion.inOrder straight' c' d') :=
  AlikeBy.inOrder straight straight' hc hd

theorem mapM {g : γ → Conversion Node} (hg : ∀ x, Alike (g x) (g x)) (xs : List γ) :
    Alike (xs.mapM g) (xs.mapM g) := by
  induction xs with
  | nil => exact .pure rfl
  | cons x xs ih =>
    rw [List.mapM_cons]
    exact (hg x).bind fun _ _ hn => ih.bind fun _ _ hns => .pure (hn.cons hns)

/-- What alike conversions answer in the same dialect. -/
theorem sameBare (h : Alike c c') {s s' : Setting} {p p' r r' : Progress} {a a' : α}
    (hd : s.dialect = s'.dialect) (hrun : c.run s p = (.ok a, r))
    (hrun' : c'.run s' p' = (.ok a', r')) : SameBare a a' := by
  have hsame := h s s' p p' hd
  rw [hrun, hrun'] at hsame
  exact Option.some.inj hsame

end Alike

/-! ## Single constructs -/

theorem settled_dialect : Settled dialect := fun _ _ _ _ hd => congrArg some hd

theorem sameDialect_read : AlikeBy Setting.dialect read read := fun _ _ _ _ hd => congrArg some hd

theorem steady_get : Steady get := fun _ _ _ _ _ => rfl

theorem settled_note (construct : String) : Settled (note construct) := fun _ _ _ _ _ => rfl

theorem settled_noteIf (present : Bool) (construct : String) :
    Settled (noteIf present construct) := by
  cases present
  · exact .pure rfl
  · exact settled_note construct

theorem settled_ident (i : Sql.Ident) : Settled (ident i) :=
  settled_dialect.after fun _ => .pure rfl

theorem settled_tableName (name : Sql.ObjectName) : Settled (tableName name) := by
  refine settled_dialect.after fun d => ?_
  split
  · exact .pure rfl
  · exact .pure rfl
  · exact .pure rfl
  · exact .throw

theorem settled_tableRef (name : Sql.ObjectName) (aliasName : Option Sql.Ident) :
    Settled (tableRef name aliasName) :=
  (settled_tableName name).after fun _ => settled_dialect.after fun _ => .pure rfl

/-- Every placeholder finds a location. -/
theorem steady_claim (text : String) : Steady (claim text) := by
  refine steady_get.next fun p p' => ?_
  intro s s' q q' _
  rcases takePlaceholder text p.unclaimed with _ | ⟨placeholder, rest⟩ <;>
    rcases takePlaceholder text p'.unclaimed with _ | ⟨placeholder', rest'⟩ <;> rfl

/-- Whether a dialect has a placeholder does not depend on how many were met. -/
theorem isSome_paramNumber? (d : Dialect) (text : String) (ordinal ordinal' : Nat) :
    (paramNumber? d text ordinal).isSome = (paramNumber? d text ordinal').isSome := by
  cases d with
  | mysql =>
    simp only [paramNumber?]
    split <;> rfl
  | postgres => rfl

theorem alike_param (text : String) : Alike (param text) (param text) := by
  refine settled_dialect.after fun d => steady_get.next fun p p' => ?_
  have hsome := isSome_paramNumber? d text (p.seen + 1) (p'.seen + 1)
  revert hsome
  rcases paramNumber? d text (p.seen + 1) with _ | number <;>
    rcases paramNumber? d text (p'.seen + 1) with _ | number' <;> intro hsome
  · exact .throw
  · cases hsome
  · cases hsome
  · -- the numbers differ, and so do the locations
    refine AlikeBy.bind (E := fun _ => ()) (fun _ _ _ _ _ => rfl) fun _ _ _ => ?_
    exact (steady_claim text).next fun offset offset' => .pure rfl

theorem alike_params (texts : List String) : Alike (params texts) (params texts) := by
  induction texts with
  | nil => exact .pure rfl
  | cons text texts ih =>
    have hattempt : Alike (tryCatch (some <$> param text) fun _ => return none)
        (tryCatch (some <$> param text) fun _ => return none) := by
      refine .tryCatch ?_ fun _ _ => .pure rfl
      exact (alike_param text).map fun n n' hn => SameBare.some hn
    exact hattempt.bind fun n n' hn => ih.bind fun ns ns' hns =>
      .pure (SameBare.append (SameBare.toList hn) hns)

theorem alike_paramsIn (text : String) : Alike (paramsIn text) (paramsIn text) :=
  settled_dialect.after fun _ => alike_params _

theorem alike_skip (construct text : String) :
    Alike (skip construct text) (skip construct text) :=
  (settled_note construct).after fun _ => (alike_paramsIn text).bind fun _ _ hns =>
    .pure (SameBare.map hns (Node.unsupported construct) fun _ => rfl)

theorem alike_tested {c : Conversion Select} (h : Alike c c) : Alike (tested c) (tested c) := by
  refine .tryCatch ?_ fun _ _ => (settled_note "subquery").after fun _ => .pure rfl
  exact h.bind fun s s' hs => .pure (SameBare.map hs (fun s => some (Node.select s)) fun _ => rfl)

theorem alike_target (name : Option String) {n n' : Node} (h : SameBare n n') :
    Alike (target name n) (target name n') := by
  refine sameDialect_read.bind fun s s' hd => .pure ?_
  exact congrArg (Node.target name · 0) (SameBare.some h)

theorem alike_literal (value : Sql.Literal) : Alike (literal value) (literal value) := by
  match value with
  | .placeholder text => exact alike_param text
  | .number .. | .boolean _ | .null
  | .string .single _ | .string .double _ | .string .escaped _ | .string .national _ =>
    exact .pure rfl
  | .string .unicode _ | .string .hex _ | .string .byteSingle _ | .string .byteDouble _
  | .string (.dollar _) _ => exact alike_skip _ _

theorem alike_columnRef (parts : List Sql.Ident) : Alike (columnRef parts) (columnRef parts) :=
  settled_dialect.after fun _ => .pure rfl

theorem alike_starRef (parts : List Sql.Ident) : Alike (starRef parts) (starRef parts) :=
  settled_dialect.after fun _ => .pure rfl

theorem bare_binary (op : Sql.BinaryOp) (left right : Node) :
    bare (binary op left right) = binary op (bare left) (bare right) := by
  cases op <;> rfl

theorem bare_unary (op : Sql.UnaryOp) (arg : Node) : bare (unary op arg) = unary op (bare arg) := by
  cases op with
  | minus =>
    cases arg with
    | literal value => cases value <;> rfl
    | _ => rfl
  | _ => rfl

theorem bare_markNullable (n : Node) : bare (markNullable n) = markNullable (bare n) := by
  cases n <;> rfl

theorem bare_map_markNullable (ns : List Node) :
    bare (ns.map markNullable) = (bare ns).map markNullable := by
  rw [bare_eq_map, bare_eq_map, List.map_map, List.map_map]
  exact List.map_congr_left fun n _ => bare_markNullable n

theorem bare_markJoin (kind : Sql.JoinKind) (n : Nat) (items : List Node) :
    bare (markJoin kind n items) = markJoin kind n (bare items) := by
  have htake : (bare items).take n = bare (items.take n) := by
    simp only [bare_eq_map, List.map_take]
  have hdrop : (bare items).drop n = bare (items.drop n) := by
    simp only [bare_eq_map, List.map_drop]
  simp only [markJoin, htake, hdrop, bare_append, ← bare_map_markNullable]
  split <;> split <;> rfl

/-! ## Expressions and queries -/

theorem bare_isEmpty (ns : List Node) : (bare ns).isEmpty = ns.isEmpty := by
  cases ns <;> rfl

theorem bare_isEmpty_named (qs : List NamedQuery) : (bare qs).isEmpty = qs.isEmpty := by
  cases qs with
  | nil => rfl
  | cons q qs => cases q; rfl

theorem bare_or (a b : Option Node) : bare (a.or b) = (bare a).or (bare b) := by
  cases a <;> rfl

/-- The parts of a bare query are put together as those of the query. -/
theorem bare_parts_select (parts : QueryParts) : bare parts.select = (bare parts).select := by
  obtain ⟨ctes, body, keys, offset, limit, quantity⟩ := parts
  cases body with
  | mk ctes' targets source joinConditions condition distinctOn groupBy having windows orderBy
      limit' offset' rows operation all left right =>
    -- a clause around the body replaces that of the body if it is there, and it does so in the bare
    -- tree too
    have hctes : bare (if ctes.isEmpty then ctes' else ctes) =
        if (bare ctes).isEmpty then bare ctes' else bare ctes := by
      rw [bare_isEmpty_named, apply_ite bare]
    have hkeys : bare (if keys.isEmpty then orderBy else keys) =
        if (bare keys).isEmpty then bare orderBy else bare keys := by
      rw [bare_isEmpty, apply_ite bare]
    have hlimit : bare (quantity.or (limit.or limit')) =
        (bare quantity).or ((bare limit).or (bare limit')) := by
      rw [bare_or, bare_or]
    have hoffset : bare (offset.or offset') = (bare offset).or (bare offset') := bare_or _ _
    show Select.mk (bare _) _ _ _ _ _ _ _ _ (bare (if keys.isEmpty then orderBy else keys))
      (bare (quantity.or _)) (bare (offset.or offset')) _ _ _ _ _ = _
    rw [hctes, hkeys, hlimit, hoffset]
    rfl

theorem alike_query_of (q : Sql.Query) (hctes : Alike (namedQueries q.ctes) (namedQueries q.ctes))
    (hbody : Alike (setExpr q.body) (setExpr q.body))
    (horderBy : Alike (orderKeys q.orderBy) (orderKeys q.orderBy))
    (hlimit : Alike (exprOption q.limit) (exprOption q.limit))
    (hoffset : Alike (exprOption q.offset) (exprOption q.offset))
    (hquantity : Alike (exprOption q.fetchQuantity) (exprOption q.fetchQuantity)) :
    Alike (query q) (query q) := by
  have hparts : Alike (queryParts q) (queryParts q) := by
    refine .bind hctes fun ctes ctes' hctes => .bind hbody fun body body' hbody => ?_
    refine .bind horderBy fun keys keys' hkeys => AlikeBy.bind sameDialect_read fun s s' _ => ?_
    refine .bind (.inOrder _ _ hoffset hlimit) fun operands operands' hoperands => ?_
    refine .bind hquantity fun quantity quantity' hquantity => .pure ?_
    -- the parts come as pairs of related parts, which are put together again
    exact ((hctes.prod hbody).prod ((hkeys.prod hoperands).prod hquantity)).map
      (fun x => QueryParts.mk x.1.1 x.1.2 x.2.1.1 x.2.1.2.1 x.2.1.2.2 x.2.2) fun _ => rfl
  rw [query_eq]
  exact .bind hparts fun parts parts' h => .pure (h.map QueryParts.select bare_parts_select)

theorem alike_select_of (s : Sql.Select)
    (hdistinctOn : Alike (exprs s.distinctOn) (exprs s.distinctOn))
    (hprojection : Alike (selectItems s.projection) (selectItems s.projection))
    (hsource : Alike (tables ⟨[], []⟩ s.source) (tables ⟨[], []⟩ s.source))
    (hcondition : Alike (exprOption s.condition) (exprOption s.condition))
    (hgroupBy : Alike (exprs s.groupBy) (exprs s.groupBy))
    (hhaving : Alike (exprOption s.having) (exprOption s.having))
    (hwindows : Alike (windows s.windows) (windows s.windows)) :
    Alike (select s) (select s) := by
  obtain ⟨distinct, distinctOn, top, projection, into, source, lateralViews, condition, groupAll,
    groupBy, clustering, having, ws, windowFirst, qualify⟩ := s
  dsimp only at *
  rw [select]
  refine .bind (.mapM (alike_skip "TOP") _) fun top top' htop => ?_
  refine .bind hdistinctOn fun distinctOn distinctOn' hdistinctOn => ?_
  refine .bind hprojection fun targets targets' htargets => ?_
  refine .bind hsource fun source source' hsource => ?_
  refine .bind (.mapM (alike_skip "LATERAL VIEW") _) fun views views' hviews => ?_
  refine .bind hcondition fun condition condition' hcondition => ?_
  refine .after (settled_noteIf _ _) fun _ => ?_
  refine .bind hgroupBy fun groupBy groupBy' hgroupBy => ?_
  refine .bind hhaving fun having having' hhaving => ?_
  refine .bind (.inOrder _ _ hwindows (.mapM (alike_skip "QUALIFY") _)) fun last last' h => ?_
  obtain ⟨ws, qualify⟩ := last
  obtain ⟨ws', qualify'⟩ := last'
  refine .pure ?_
  -- what is skipped is put behind the conditions of the joins
  have hconditions := (((hsource.map Sources.conditions fun _ => rfl).append htop).append
    hviews).append h.snd
  exact ((htargets.prod (hsource.map Sources.items fun _ => rfl)).prod
    ((hconditions.prod hcondition).prod ((hdistinctOn.prod hgroupBy).prod
      (hhaving.prod h.fst)))).map
    (fun x => { Select.empty with
      targets := x.1.1
      source := x.1.2
      joinConditions := x.2.1.1
      condition := x.2.1.2
      distinctOn := x.2.2.1.1
      groupBy := x.2.2.1.2
      having := x.2.2.2.1
      windows := x.2.2.2.2 }) fun _ => rfl

theorem alike_joins_of {acc acc' : Sources} (hacc : SameBare acc acc') (j : Sql.Join)
    {js : List Sql.Join} (hfactor : Alike (factor acc j.relation) (factor acc' j.relation))
    (hon : Alike (exprOption j.on) (exprOption j.on))
    (hjoins : ∀ acc acc' : Sources, SameBare acc acc' → Alike (joins acc js) (joins acc' js)) :
    Alike (joins acc (j :: js)) (joins acc' (j :: js)) := by
  obtain ⟨everywhere, kind, relation, shared, on⟩ := j
  dsimp only at *
  rw [joins, joins]
  refine .bind hfactor fun added added' hadded => ?_
  -- both runs have as many tables on the left of the join
  have hlength : acc'.items.length = acc.items.length :=
    (hacc.map Sources.items fun _ => rfl).length_eq.symm
  rw [hlength]
  have hmarked : SameBare { added with items := markJoin kind acc.items.length added.items }
      { added' with items := markJoin kind acc.items.length added'.items } :=
    hadded.map (fun x => { x with items := markJoin kind acc.items.length x.items }) fun x =>
      congrArg (Sources.mk · (bare x.conditions)) (bare_markJoin kind _ x.items)
  split
  · exact .after (settled_note _) fun _ => .bind (.pure hmarked) hjoins
  · refine .bind hon fun condition condition' hcondition => ?_
    refine .after (settled_noteIf _ _) fun _ => .bind (.pure ?_) hjoins
    exact hmarked.addConditions hcondition.toList

mutual

theorem alike_expr (e : Sql.Expr) : Alike (expr e) (expr e) := by
  -- each construct puts together what its parts are related to, so it is related as well
  match e with
  | .column first rest => exact alike_columnRef (first :: rest)
  | .literal value => exact alike_literal value
  | .nested inner => exact alike_expr inner
  | .binary left op right =>
    exact .bind (alike_expr left) fun _ _ hl => .bind (alike_expr right) fun _ _ hr =>
      .pure ((hl.prod hr).map (fun x => binary op x.1 x.2) fun x => bare_binary op x.1 x.2)
  | .unary op operand =>
    exact .bind (alike_expr operand) fun _ _ hn => .pure (hn.map (unary op) (bare_unary op))
  | .isNull operand negated =>
    exact .bind (alike_expr operand) fun _ _ hn => .pure (hn.map (Node.nullTest · _) fun _ => rfl)
  | .inList operand items negated =>
    exact .bind (alike_expr operand) fun _ _ hn => .bind (alike_exprs items) fun _ _ hns =>
      .pure ((hn.prod hns).map (fun x => Node.operator _ (some x.1) (some (.list x.2)))
        fun _ => rfl)
  | .between operand low high negated =>
    exact .bind (alike_expr operand) fun _ _ hn => .bind (alike_expr low) fun _ _ hl =>
      .bind (alike_expr high) fun _ _ hh => .pure ((hn.prod (hl.prod hh)).map
        (fun x => Node.operator _ (some x.1) (some (.list [x.2.1, x.2.2]))) fun _ => rfl)
  | .like op any operand pattern escape negated =>
    exact .bind (alike_expr operand) fun _ _ hn => .bind (alike_expr pattern) fun _ _ hp =>
      .pure ((hn.prod hp).map (fun x => Node.operator _ (some x.1) (some x.2)) fun _ => rfl)
  | .inQuery operand q negated =>
    exact .bind (alike_expr operand) fun _ _ hn => .bind (alike_tested (alike_query q))
      fun _ _ hq => .pure ((hn.prod hq).map
        (fun x => Node.sublink .any (some x.1) x.2 negated) fun _ => rfl)
  | .exists q negated =>
    exact .bind (alike_tested (alike_query q)) fun _ _ hq =>
      .pure (hq.map (Node.sublink .exists none · negated) fun _ => rfl)
  | .subquery q => exact .bind (alike_query q) fun _ _ hq => .pure (hq.map Node.select fun _ => rfl)
  | .cast form operand type =>
    exact .bind (alike_expr operand) fun _ _ hn => .after settled_dialect fun d =>
      .pure (hn.map (Node.cast · (typeOf d type)) fun _ => rfl)
  | .case operand bs default =>
    exact .bind (alike_exprOption operand) fun _ _ ho => .bind (alike_branches bs) fun _ _ hbs =>
      .bind (alike_exprOption default) fun _ _ hd => .pure ((ho.prod (hbs.prod hd)).map
        (fun x => Node.case x.1 x.2.1 x.2.2) fun _ => rfl)
  | .call name args withinGroup filter nulls w braced =>
    exact .bind (alike_arguments args) fun _ _ hparts => .bind (alike_orderKeys withinGroup)
      fun _ _ hkeys => .bind (alike_exprOption filter) fun _ _ hf => .bind (alike_windowOption w)
      fun _ _ hw => .pure (((hparts.prod ((hparts.map CallParts.orderBy fun _ => rfl).append
        hkeys)).prod (hf.prod hw)).map
        (fun x => Node.call ⟨functionName name, x.1.1.args, x.1.2, x.2.1, x.2.2, x.1.1.star,
          x.1.1.distinct⟩) fun _ => rfl)
  | .keywordCall name words args =>
    exact .bind (alike_exprs args) fun _ _ hns =>
      .pure (hns.map (plainCall (Text.lower name)) fun _ => rfl)
  | .unmapped kind text => exact alike_skip kind text

theorem alike_exprs (es : List Sql.Expr) : Alike (exprs es) (exprs es) := by
  match es with
  | [] => exact .pure (.refl _)
  | e :: es =>
    exact .bind (alike_expr e) fun _ _ hn => .bind (alike_exprs es) fun _ _ hns =>
      .pure (hn.cons hns)

theorem alike_exprOption (e : Option Sql.Expr) : Alike (exprOption e) (exprOption e) := by
  match e with
  | none => exact .pure (.refl _)
  | some e => exact .bind (alike_expr e) fun _ _ hn => .pure hn.some

theorem alike_branches (bs : List Sql.Branch) : Alike (branches bs) (branches bs) := by
  match bs with
  | [] => exact .pure (.refl _)
  | ⟨condition, result⟩ :: bs =>
    exact .bind (alike_expr condition) fun _ _ hc => .bind (alike_expr result) fun _ _ hr =>
      .bind (alike_branches bs) fun _ _ hbs => .pure ((hc.prod (hr.prod hbs)).map
        (fun x => Branch.mk x.1 x.2.1 :: x.2.2) fun _ => rfl)

theorem alike_arguments (args : Sql.Arguments) : Alike (arguments args) (arguments args) := by
  match args with
  | .none => exact .pure (.refl _)
  | .query q =>
    exact .bind (alike_query q) fun _ _ hq =>
      .pure (hq.map (fun s => CallParts.mk [.select s] [] false false) fun _ => rfl)
  | .list treatment items clauses =>
    exact .bind (alike_argumentItems items) fun _ _ hitems => .bind (alike_argumentClauses clauses)
      fun _ _ hkeys => .pure ((hitems.prod hkeys).map
        (fun x => CallParts.mk x.1.1 x.2 x.1.2 _) fun _ => rfl)

theorem alike_argumentItems (as : List Sql.Argument) :
    Alike (argumentItems as) (argumentItems as) := by
  match as with
  | [] => exact .pure (.refl _)
  | .value label value :: as =>
    exact .bind (alike_expr value) fun _ _ hn => .bind (alike_argumentItems as) fun _ _ hx =>
      .pure ((hn.prod hx).map (fun x => (x.1 :: x.2.1, x.2.2)) fun _ => rfl)
  | .star text :: as =>
    exact .bind (alike_argumentItems as) fun _ _ hx =>
      .pure (hx.map (fun x => (x.1, true)) fun _ => rfl)
  | .labelled text :: as =>
    exact .bind (alike_skip _ text) fun _ _ hn => .bind (alike_argumentItems as) fun _ _ hx =>
      .pure ((hn.prod hx).map (fun x => (x.1 :: x.2.1, x.2.2)) fun _ => rfl)

theorem alike_argumentClauses (cs : List Sql.ArgumentClause) :
    Alike (argumentClauses cs) (argumentClauses cs) := by
  match cs with
  | [] => exact .pure (.refl _)
  | .orderBy items :: cs =>
    exact .bind (alike_orderKeys items) fun _ _ hms => .bind (alike_argumentClauses cs)
      fun _ _ hns => .pure (hms.append hns)
  | .silent text :: cs => exact alike_argumentClauses cs
  | .unmapped kind text :: cs =>
    exact .bind (alike_skip kind text) fun _ _ hn => .bind (alike_argumentClauses cs) fun _ _ hns =>
      .pure (hn.cons hns)

theorem alike_orderKeys (os : List Sql.OrderItem) : Alike (orderKeys os) (orderKeys os) := by
  match os with
  | [] => exact .pure (.refl _)
  | ⟨key, direction⟩ :: os =>
    exact .bind (alike_expr key) fun _ _ hn => .bind (alike_orderKeys os) fun _ _ hns =>
      .pure (hn.cons hns)

theorem alike_window (w : Sql.WindowSpec) : Alike (window w) (window w) := by
  match w with
  | ⟨name, _, reference, partitionBy, orderBy, _, startOffset, stopOffset⟩ =>
    exact .bind (alike_exprs partitionBy) fun _ _ hp => .bind (alike_orderKeys orderBy)
      fun _ _ ho =>
      .bind (alike_exprOption startOffset) fun _ _ hstart =>
      .bind (alike_exprOption stopOffset) fun _ _ hstop => .after settled_dialect fun d =>
      .pure (((hp.prod ho).prod (hstart.prod hstop)).map
        (fun x => Window.mk (name.map (fold d)) (reference.map (fold d)) x.1.1 x.1.2 x.2.1 x.2.2)
        fun _ => rfl)

theorem alike_windowOption (w : Option Sql.WindowSpec) :
    Alike (windowOption w) (windowOption w) := by
  match w with
  | none => exact .pure (.refl _)
  | some w => exact .bind (alike_window w) fun _ _ hw => .pure (hw.map some fun _ => rfl)

theorem alike_windows (ws : List Sql.WindowSpec) : Alike (windows ws) (windows ws) := by
  match ws with
  | [] => exact .pure (.refl _)
  | w :: ws =>
    exact .bind (alike_window w) fun _ _ hw => .bind (alike_windows ws) fun _ _ hws =>
      .pure ((hw.prod hws).map (fun x => x.1 :: x.2) fun _ => rfl)

theorem alike_query (q : Sql.Query) : Alike (query q) (query q) := by
  match q with
  | ⟨_, ctes, body, orderBy, limit, offset, _, _, quantity, _⟩ =>
    exact alike_query_of _ (alike_namedQueries ctes) (alike_setExpr body) (alike_orderKeys orderBy)
      (alike_exprOption limit) (alike_exprOption offset) (alike_exprOption quantity)

theorem alike_namedQueries (cs : List Sql.Cte) : Alike (namedQueries cs) (namedQueries cs) := by
  match cs with
  | [] => exact .pure (.refl _)
  | ⟨tableAlias, materialized, q, source⟩ :: cs =>
    exact .after (settled_ident _) fun name => .bind (alike_query q) fun _ _ hs =>
      .bind (alike_namedQueries cs) fun _ _ hns => .pure ((hs.prod hns).map
        (fun x => NamedQuery.mk name (.select x.1) :: x.2) fun _ => rfl)

theorem alike_setExpr (b : Sql.SetExpr) : Alike (setExpr b) (setExpr b) := by
  match b with
  | .select s => exact alike_select s
  | .query q => exact alike_query q
  | .operation op quantifier left right =>
    exact .bind (alike_setExpr left) fun _ _ hl => .bind (alike_setExpr right) fun _ _ hr =>
      .pure ((hl.prod hr).map (fun x => { Select.empty with
        operation := setOperation op
        all := quantifier = "ALL"
        left := some x.1
        right := some x.2 }) fun _ => rfl)
  | .values explicit items =>
    exact .bind (alike_rows items) fun _ _ hns =>
      .pure (hns.map (fun ns => { Select.empty with rows := ns }) fun _ => rfl)
  | .unmapped kind text =>
    exact .bind (alike_skip kind text) fun _ _ hn => .bind (alike_target none hn) fun _ _ ht =>
      .pure (ht.map (fun n => { Select.empty with targets := [n] }) fun _ => rfl)

theorem alike_rows (items : List (List Sql.Expr)) : Alike (rows items) (rows items) := by
  match items with
  | [] => exact .pure (.refl _)
  | row :: rest =>
    exact .bind (alike_exprs row) fun _ _ hes => .bind (alike_rows rest) fun _ _ hns =>
      .pure ((hes.map Node.list fun _ => rfl).cons hns)

theorem alike_select (s : Sql.Select) : Alike (select s) (select s) := by
  match s with
  | ⟨_, distinctOn, _, projection, _, source, _, condition, _, groupBy, _, having, ws, _, _⟩ =>
    exact alike_select_of _ (alike_exprs distinctOn) (alike_selectItems projection)
      (alike_tables (.refl _) source) (alike_exprOption condition) (alike_exprs groupBy)
      (alike_exprOption having) (alike_windows ws)

theorem alike_selectItems (is : List Sql.SelectItem) :
    Alike (selectItems is) (selectItems is) := by
  match is with
  | [] => exact .pure (.refl _)
  | .value value :: is =>
    exact .bind (alike_expr value) fun _ _ hn => .bind (alike_target none hn) fun _ _ ht =>
      .bind (alike_selectItems is) fun _ _ hns => .pure (ht.cons hns)
  | .aliased value aliasName :: is =>
    exact .bind (alike_expr value) fun _ _ hn => .after (settled_ident aliasName) fun name =>
      .bind (alike_target (some name) hn) fun _ _ ht => .bind (alike_selectItems is) fun _ _ hns =>
      .pure (ht.cons hns)
  | .star :: is =>
    exact .bind (alike_starRef []) fun _ _ hn => .bind (alike_target none hn) fun _ _ ht =>
      .bind (alike_selectItems is) fun _ _ hns => .pure (ht.cons hns)
  | .qualifiedStar name :: is =>
    exact .bind (alike_starRef name) fun _ _ hn => .bind (alike_target none hn) fun _ _ ht =>
      .bind (alike_selectItems is) fun _ _ hns => .pure (ht.cons hns)

theorem alike_tables {acc acc' : Sources} (hacc : SameBare acc acc')
    (ts : List Sql.TableWithJoins) : Alike (tables acc ts) (tables acc' ts) := by
  match ts with
  | [] => exact .pure hacc
  | t :: ts => exact .bind (alike_table hacc t) fun _ _ hacc => alike_tables hacc ts

theorem alike_table {acc acc' : Sources} (hacc : SameBare acc acc') (t : Sql.TableWithJoins) :
    Alike (table acc t) (table acc' t) := by
  match t with
  | ⟨relation, js⟩ => exact .bind (alike_factor hacc relation) fun _ _ hacc => alike_joins hacc js

theorem alike_joins {acc acc' : Sources} (hacc : SameBare acc acc') (js : List Sql.Join) :
    Alike (joins acc js) (joins acc' js) := by
  match js with
  | [] => exact .pure hacc
  | ⟨everywhere, kind, relation, shared, on⟩ :: js =>
    exact alike_joins_of hacc _ (alike_factor hacc relation) (alike_exprOption on)
      fun _ _ hacc => alike_joins hacc js

theorem alike_factor {acc acc' : Sources} (hacc : SameBare acc acc') (f : Sql.TableFactor) :
    Alike (factor acc f) (factor acc' f) := by
  match f with
  | .table name before tableAlias after =>
    exact .after (settled_tableRef name _) fun ref => .pure (hacc.addItem (.refl (Node.table ref)))
  | .derived lateral q tableAlias =>
    exact .bind (alike_query q) fun _ _ hs => .after settled_dialect fun d =>
      .pure (hacc.addItem (hs.map (fun s => Node.derived (.select s) _ false) fun _ => rfl))
  | .nestedJoin inner tableAlias => exact alike_table hacc inner
  | .unmapped kind text =>
    exact .after (settled_note kind) fun _ => .bind (alike_paramsIn text) fun _ _ hns =>
      .pure (hacc.addConditions hns)

end

end Conversion

end TypedSql.Canonical
