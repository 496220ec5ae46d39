import Mathlib.Data.List.Forall2
import TypedSql.Proofs.Analysis.Trace

/-!
# Strictness

An expression of placeholders, constants and columns under strict operators is null as soon as one
of them is. So where such an expression is inferred not to be null, no place of a placeholder in it
lets the placeholder be null.

- `Node.isStrict`: which expressions these are
- `Guarantees`: what is said of the places of some placeholders if something is not null
- `inferExpr_firm`: by induction on the expression
-/

namespace TypedSql

open Canonical

/-! ## Strict expressions -/

mutual

/-- Whether an expression consists of placeholders, constants and columns under casts and under
operators that compare, compute or concatenate. The right side of IN and BETWEEN is a list. -/
def Canonical.Node.isStrict : Node → Bool
  | .param .. | .literal _ => true
  | .column fields => fields.all (·.nameText?.isSome)
  | .cast arg _ => arg.isStrict
  | .operator name left right =>
    decide (OperatorKind.ofName name ≠ .other) && optionIsStrict left && optionIsStrict right
  | .list items => allStrict items
  | _ => false

/-- Whether all expressions of a list are strict. -/
def Canonical.allStrict : List Node → Bool
  | [] => true
  | n :: ns => n.isStrict && allStrict ns

/-- Whether an expression is strict, if it is there. -/
def Canonical.optionIsStrict : Option Node → Bool
  | none => true
  | some n => n.isStrict

end

/-- Every number has a place that is not null. -/
def Firm (places : List Parameter) (numbers : List Nat) : Prop :=
  ∀ k ∈ numbers, ∃ p ∈ places, p.number = k ∧ p.notNull = true

namespace Firm

variable {places places' : List Parameter} {numbers numbers' : List Nat}

theorem nil : Firm places [] := List.forall_mem_nil _

theorem mono (h : Firm places numbers) (hsub : places ⊆ places') : Firm places' numbers := by
  intro k hk
  obtain ⟨p, hp, hfirm⟩ := h k hk
  exact ⟨p, hsub hp, hfirm⟩

theorem append (h : Firm places numbers) (h' : Firm places' numbers') :
    Firm (places ++ places') (numbers ++ numbers') :=
  List.forall_mem_append.mpr
    ⟨h.mono (List.subset_append_left ..), h'.mono (List.subset_append_right ..)⟩

end Firm

/-- What is not null makes the placeholders of something firm. -/
def Guarantees (places : List Parameter) (numbers : List Nat) (notNull : Bool) : Prop :=
  notNull = true → Firm places numbers

section Strict

variable {c : Catalog} {s : Scope}

/-- A name without placeholders. -/
theorem numbersOf_names {fields : List Node} (h : fields.all (·.nameText?.isSome) = true) :
    numbersOf fields = [] := by
  induction fields with
  | nil => rfl
  | cons n ns ih =>
    rw [List.all_cons, Bool.and_eq_true] at h
    obtain ⟨name, rfl⟩ : ∃ name, n = .name name := by
      cases n <;> first | exact ⟨_, rfl⟩ | cases h.1
    exact ih h.2

/-- The result of an operator is not null only if its operands are not. -/
theorem notNull_of_ofOperator {name : String} {left : Option Inferred} {right : Inferred}
    (h : (Inferred.ofOperator name left right).notNull = true) :
    right.notNull = true ∧ (left.map (·.notNull)).getD true = true := by
  unfold Inferred.ofOperator at h
  dsimp only at h
  split at h
  · exact Bool.and_eq_true_iff.mp h
  · exact Bool.and_eq_true_iff.mp h
  · exact Bool.and_eq_true_iff.mp h
  · cases left with
    | none => exact Bool.and_eq_true_iff.mp h
    | some l => cases h

theorem notNull_of_ofList {items : List Inferred} (h : (Inferred.ofList items).notNull = true) :
    items.all (·.notNull) = true := by
  unfold Inferred.ofList at h
  split at h
  · cases h
  · exact h

mutual

/-- A strict expression that is not null has no placeholder that its place lets be null. -/
theorem inferExpr_firm (hint : Option Hint) (n : Node) (h : n.isStrict = true) :
    Traced (numbersOf n) (fun i places => Guarantees places (numbersOf n) i.notNull)
      fun f => inferExpr c s hint (n.renumber f) := by
  match n with
  | .param number location =>
    refine (bindParam_traced number hint).mono (fun k => Nat.le_refl _) ?_
    -- a placeholder is bound to be NOT NULL by its hint only
    rintro i places ⟨rfl, rfl⟩ hnot k hk
    obtain rfl : k = number := List.mem_singleton.mp hk
    cases hint with
    | none => cases hnot
    | some hint => exact ⟨_, List.mem_singleton_self _, rfl, hnot⟩
  | .literal value => exact .pure fun _ => .nil
  | .column fields =>
    -- a column that is strict is made of names, in which no placeholder stands
    have hnone : numbersOf (Node.column fields) = [] := numbersOf_names h
    rw [hnone]
    exact (inferColumn_tracks fields).mono (fun k => Nat.le_refl _) fun _ _ _ _ => .nil
  | .cast arg type => exact (inferExpr_firm _ arg h).map fun _ _ => id
  | .operator name left none => cases left <;> exact .throw
  | .operator name none (some right) =>
    obtain ⟨-, hright⟩ := Bool.and_eq_true_iff.mp h
    refine (inferExpr_firm none right hright).map fun r places hr hnot => ?_
    -- an operator is NOT NULL only if its operand is
    exact hr (notNull_of_ofOperator hnot).1
  | .operator name (some left) (some right) =>
    obtain ⟨h, hright⟩ := Bool.and_eq_true_iff.mp h
    obtain ⟨-, hleft⟩ := Bool.and_eq_true_iff.mp h
    have hnumbers : numbersOf (Node.operator name (some left) (some right)) =
        numbersOf left ++ numbersOf right := numbersIn_append _ _
    rw [hnumbers]
    refine inferBinary_traced name (inferExpr_firm · left hleft) (inferExpr_firm · right hright) ?_
    intro l r placesLeft placesRight places hl hr hsubLeft hsubRight hnot
    -- both operands are NOT NULL if the result is, so each of them answers for its own placeholders
    obtain ⟨hrnot, hlnot⟩ := notNull_of_ofOperator hnot
    exact List.forall_mem_append.mpr ⟨(hl hlnot).mono hsubLeft, (hr hrnot).mono hsubRight⟩
  | .list items =>
    exact (inferAll_firm hint items h).map fun is places hall hnot => hall (notNull_of_ofList hnot)
termination_by structural n

theorem inferAll_firm (hint : Option Hint) (ns : List Node) (h : allStrict ns = true) :
    Traced (numbersOf ns) (fun is places => Guarantees places (numbersOf ns) (is.all (·.notNull)))
      fun f => inferAll c s hint (renumberAll f ns) := by
  match ns with
  | [] => exact .pure fun _ => .nil
  | n :: ns =>
    obtain ⟨hn, hns⟩ := Bool.and_eq_true_iff.mp h
    have hnumbers : numbersOf (n :: ns) = numbersOf n ++ numbersOf ns := numbersIn_append _ _
    rw [hnumbers]
    apply (inferExpr_firm hint n hn).bind
    intro i places hi
    apply (inferAll_firm hint ns hns).map
    intro is places' his hall
    -- all values of the list are NOT NULL, the first one and those behind it
    obtain ⟨hinot, hisnot⟩ := Bool.and_eq_true_iff.mp hall
    exact (hi hinot).append (his hisnot)
termination_by structural ns

end

end Strict

end TypedSql
