import Mathlib.Data.List.Forall2
import TypedSql.Analysis.Basic

/-!
# Loosening

When one catalog, one statement or one scope promises less than another about nulls, and is the same
otherwise.

- `Loosened`: a column, a parameter, a hint or a type that may have lost its promise not to be null
- `Catalog.Loosens`: a catalog some of whose columns have lost theirs
- `Node.Loosens`: a tree some of whose tables an outer join can replace by nulls in addition
- `ScopeLevel.Loosens`: what names refer to under such a catalog and such a tree
-/

namespace TypedSql

open Canonical

/-! ## Descriptions -/

/-- A description that tells whether something can be null. -/
class Nullable (α : Type) where
  notNull : α → Bool
  withNotNull : Bool → α → α

instance : Nullable Column := ⟨Column.notNull, fun b c => { c with notNull := b }⟩

instance : Nullable ResultColumn := ⟨ResultColumn.notNull, fun b c => { c with notNull := b }⟩

instance : Nullable Parameter := ⟨Parameter.notNull, fun b p => { p with notNull := b }⟩

instance : Nullable Hint := ⟨Hint.notNull, fun b h => { h with notNull := b }⟩

instance : Nullable Inferred := ⟨Inferred.notNull, fun b i => { i with notNull := b }⟩

/-- The second description is the first one, except that it may have lost the promise not to be
null. -/
def Loosened {α : Type} [Nullable α] (a a' : α) : Prop :=
  ∃ b, a' = Nullable.withNotNull b a ∧ (b = true → Nullable.notNull a = true)

/-! ## Catalogs -/

/-- Directories with the same names and related values. -/
def Directory.Related {α β : Type} (R : α → β → Prop) (d : Directory α) (d' : Directory β) : Prop :=
  List.Forall₂ (fun e e' => e.1 = e'.1 ∧ R e.2 e'.2) d.entries d'.entries

structure Table.Loosens (t t' : Table) : Prop where
  name : t'.name = t.name
  columns : List.Forall₂ Loosened t.columns t'.columns

structure Schema.Loosens (s s' : Schema) : Prop where
  name : s'.name = s.name
  tables : s.tables.Related Table.Loosens s'.tables

/-- A catalog that differs from another one only in columns that have become nullable. -/
structure Catalog.Loosens (c c' : Catalog) : Prop where
  defaultSchema : c'.defaultSchema = c.defaultSchema
  schemas : c.schemas.Related Schema.Loosens c'.schemas

/-! ## Trees -/

namespace Canonical

/-- A table reference that an outer join may in addition replace by nulls. -/
def TableRef.Loosens (t t' : TableRef) : Prop :=
  ∃ b, t' = { t with nullable := b } ∧ (t.nullable = true → b = true)

mutual

/-- A tree that differs from another one only in tables that an outer join can replace by nulls. -/
inductive Node.Loosens : Node → Node → Prop
  | schemaChange (change : SchemaChange) :
    Node.Loosens (.schemaChange change) (.schemaChange change)
  | insert {i i' : Insert} (h : Insert.Loosens i i') : Node.Loosens (.insert i) (.insert i')
  | select {s s' : Select} (h : Select.Loosens s s') : Node.Loosens (.select s) (.select s')
  | update {u u' : Update} (h : Update.Loosens u u') : Node.Loosens (.update u) (.update u')
  | delete {d d' : Delete} (h : Delete.Loosens d d') : Node.Loosens (.delete d) (.delete d')
  | logic (op : Connective) {args args' : List Node} (h : List.Forall₂ Node.Loosens args args') :
    Node.Loosens (.logic op args) (.logic op args')
  | operator (name : String) {left left' right right' : Option Node}
    (hleft : Option.Rel Node.Loosens left left') (hright : Option.Rel Node.Loosens right right') :
    Node.Loosens (.operator name left right) (.operator name left' right')
  | column {fields fields' : List Node} (h : List.Forall₂ Node.Loosens fields fields') :
    Node.Loosens (.column fields) (.column fields')
  | param (number location : Nat) : Node.Loosens (.param number location) (.param number location)
  | sublink (kind : SublinkKind) (negated : Bool) {test test' query query' : Option Node}
    (htest : Option.Rel Node.Loosens test test') (hquery : Option.Rel Node.Loosens query query') :
    Node.Loosens (.sublink kind test query negated) (.sublink kind test' query' negated)
  | call {c c' : Call} (h : Call.Loosens c c') : Node.Loosens (.call c) (.call c')
  | cast (type : SqlType) {arg arg' : Node} (h : Node.Loosens arg arg') :
    Node.Loosens (.cast arg type) (.cast arg' type)
  | nullTest (isNull : Bool) {arg arg' : Node} (h : Node.Loosens arg arg') :
    Node.Loosens (.nullTest arg isNull) (.nullTest arg' isNull)
  | case {operand operand' default default' : Option Node} {branches branches' : List Branch}
    (hoperand : Option.Rel Node.Loosens operand operand')
    (hbranches : List.Forall₂ Branch.Loosens branches branches')
    (hdefault : Option.Rel Node.Loosens default default') :
    Node.Loosens (.case operand branches default) (.case operand' branches' default')
  | literal (value : Literal) : Node.Loosens (.literal value) (.literal value)
  | target (name : Option String) (location : Nat) {value value' : Option Node}
    (h : Option.Rel Node.Loosens value value') :
    Node.Loosens (.target name value location) (.target name value' location)
  | table {ref ref' : TableRef} (h : ref.Loosens ref') : Node.Loosens (.table ref) (.table ref')
  | derived (aliasName : Option String) {query query' : Node} {nullable nullable' : Bool}
    (hquery : Node.Loosens query query') (hnullable : nullable = true → nullable' = true) :
    Node.Loosens (.derived query aliasName nullable) (.derived query' aliasName nullable')
  | list {items items' : List Node} (h : List.Forall₂ Node.Loosens items items') :
    Node.Loosens (.list items) (.list items')
  | name (value : String) : Node.Loosens (.name value) (.name value)
  | star : Node.Loosens .star .star
  | unsupported (construct : String) {params params' : List Node}
    (h : List.Forall₂ Node.Loosens params params') :
    Node.Loosens (.unsupported construct params) (.unsupported construct params')

inductive Select.Loosens : Select → Select → Prop
  | mk {s s' : Select} (ctes : List.Forall₂ NamedQuery.Loosens s.ctes s'.ctes)
    (targets : List.Forall₂ Node.Loosens s.targets s'.targets)
    (source : List.Forall₂ Node.Loosens s.source s'.source)
    (joinConditions : List.Forall₂ Node.Loosens s.joinConditions s'.joinConditions)
    (condition : Option.Rel Node.Loosens s.condition s'.condition)
    (distinctOn : List.Forall₂ Node.Loosens s.distinctOn s'.distinctOn)
    (groupBy : List.Forall₂ Node.Loosens s.groupBy s'.groupBy)
    (having : Option.Rel Node.Loosens s.having s'.having)
    (windows : List.Forall₂ Window.Loosens s.windows s'.windows)
    (orderBy : List.Forall₂ Node.Loosens s.orderBy s'.orderBy)
    (limit : Option.Rel Node.Loosens s.limit s'.limit)
    (offset : Option.Rel Node.Loosens s.offset s'.offset)
    (rows : List.Forall₂ Node.Loosens s.rows s'.rows) (operation : s'.operation = s.operation)
    (all : s'.all = s.all) (left : Option.Rel Select.Loosens s.left s'.left)
    (right : Option.Rel Select.Loosens s.right s'.right) : Select.Loosens s s'

inductive NamedQuery.Loosens : NamedQuery → NamedQuery → Prop
  | mk {q q' : NamedQuery} (name : q'.name = q.name) (query : Node.Loosens q.query q'.query) :
    NamedQuery.Loosens q q'

inductive Insert.Loosens : Insert → Insert → Prop
  | mk {i i' : Insert} (table : i.table.Loosens i'.table)
    (columns : List.Forall₂ Node.Loosens i.columns i'.columns)
    (source : Select.Loosens i.source i'.source)
    (conflictTargets : List.Forall₂ Node.Loosens i.conflictTargets i'.conflictTargets)
    (conflictCondition : Option.Rel Node.Loosens i.conflictCondition i'.conflictCondition)
    (returning : List.Forall₂ Node.Loosens i.returning i'.returning) : Insert.Loosens i i'

inductive Update.Loosens : Update → Update → Prop
  | mk {u u' : Update} (table : u.table.Loosens u'.table)
    (targets : List.Forall₂ Node.Loosens u.targets u'.targets)
    (source : List.Forall₂ Node.Loosens u.source u'.source)
    (joinConditions : List.Forall₂ Node.Loosens u.joinConditions u'.joinConditions)
    (condition : Option.Rel Node.Loosens u.condition u'.condition)
    (returning : List.Forall₂ Node.Loosens u.returning u'.returning) : Update.Loosens u u'

inductive Delete.Loosens : Delete → Delete → Prop
  | mk {d d' : Delete} (table : d.table.Loosens d'.table)
    (source : List.Forall₂ Node.Loosens d.source d'.source)
    (joinConditions : List.Forall₂ Node.Loosens d.joinConditions d'.joinConditions)
    (condition : Option.Rel Node.Loosens d.condition d'.condition)
    (orderBy : List.Forall₂ Node.Loosens d.orderBy d'.orderBy)
    (limit : Option.Rel Node.Loosens d.limit d'.limit)
    (returning : List.Forall₂ Node.Loosens d.returning d'.returning) : Delete.Loosens d d'

inductive Call.Loosens : Call → Call → Prop
  | mk {c c' : Call} (name : c'.name = c.name) (args : List.Forall₂ Node.Loosens c.args c'.args)
    (orderBy : List.Forall₂ Node.Loosens c.orderBy c'.orderBy)
    (filter : Option.Rel Node.Loosens c.filter c'.filter)
    (window : Option.Rel Window.Loosens c.window c'.window) (star : c'.star = c.star)
    (distinct : c'.distinct = c.distinct) : Call.Loosens c c'

inductive Window.Loosens : Window → Window → Prop
  | mk {w w' : Window} (name : w'.name = w.name) (base : w'.base = w.base)
    (partitionBy : List.Forall₂ Node.Loosens w.partitionBy w'.partitionBy)
    (orderBy : List.Forall₂ Node.Loosens w.orderBy w'.orderBy)
    (startOffset : Option.Rel Node.Loosens w.startOffset w'.startOffset)
    (endOffset : Option.Rel Node.Loosens w.endOffset w'.endOffset) : Window.Loosens w w'

inductive Branch.Loosens : Branch → Branch → Prop
  | mk {b b' : Branch} (condition : Node.Loosens b.condition b'.condition)
    (result : Node.Loosens b.result b'.result) : Branch.Loosens b b'

end

end Canonical

end TypedSql
