import Mathlib.Data.List.Forall2
import TypedSql.Sql.Tree

/-!
# Variations of syntax trees

When two syntax trees are the same up to certain parts. What may differ is a parameter: the spelling
of identifiers and types, the texts of constructs without canonical form, and the queries that IN
and EXISTS test. Texts that no conversion reads may always differ.

- `Variation`: what may differ
- `Expr.Varies`, `Query.Varies` and the like: one relation for each syntactic class, with one
  constructor for each form
- `Statement.Varies`: statements
- **Reflexivity**: a query is related to itself
-/

namespace TypedSql.Sql

/-- What may differ between two syntax trees. -/
structure Variation where
  ident : Ident → Ident → Prop
  type : DataType → DataType → Prop
  /-- The texts of constructs without canonical form. -/
  text : String → String → Prop
  /-- The queries that IN and EXISTS test. -/
  tested : Query → Query → Prop

variable (V : Variation)

/-- Names with related parts. -/
abbrev ObjectName.Varies : ObjectName → ObjectName → Prop := List.Forall₂ V.ident

/-- Joins of one kind. The text of a match condition may differ. -/
inductive JoinKind.Varies : JoinKind → JoinKind → Prop
  | same (kind : JoinKind) : JoinKind.Varies kind kind
  | nearest (condition condition' : String) :
    JoinKind.Varies (.nearest condition) (.nearest condition')

/-- Columns that joins compare. -/
inductive SharedColumns.Varies : SharedColumns → SharedColumns → Prop
  | none : SharedColumns.Varies .none .none
  | natural : SharedColumns.Varies .natural .natural
  | using {columns columns' : List Ident} (h : List.Forall₂ V.ident columns columns') :
    SharedColumns.Varies (.using columns) (.using columns')

/-! ## Expressions and queries -/

mutual

inductive Expr.Varies : Expr → Expr → Prop
  | column {first first' : Ident} {rest rest' : List Ident} (hfirst : V.ident first first')
    (hrest : List.Forall₂ V.ident rest rest') :
    Expr.Varies (.column first rest) (.column first' rest')
  | literal (value : Literal) : Expr.Varies (.literal value) (.literal value)
  | nested {e e' : Expr} (h : Expr.Varies e e') : Expr.Varies (.nested e) (.nested e')
  | binary (op : BinaryOp) {left left' right right' : Expr} (hleft : Expr.Varies left left')
    (hright : Expr.Varies right right') :
    Expr.Varies (.binary left op right) (.binary left' op right')
  | unary (op : UnaryOp) {e e' : Expr} (h : Expr.Varies e e') :
    Expr.Varies (.unary op e) (.unary op e')
  | isNull (negated : Bool) {e e' : Expr} (h : Expr.Varies e e') :
    Expr.Varies (.isNull e negated) (.isNull e' negated)
  | inList (negated : Bool) {e e' : Expr} {items items' : List Expr} (h : Expr.Varies e e')
    (hitems : List.Forall₂ Expr.Varies items items') :
    Expr.Varies (.inList e items negated) (.inList e' items' negated)
  | between (negated : Bool) {e e' low low' high high' : Expr} (h : Expr.Varies e e')
    (hlow : Expr.Varies low low') (hhigh : Expr.Varies high high') :
    Expr.Varies (.between e low high negated) (.between e' low' high' negated)
  | like (op : String) (negated any any' : Bool) (escape escape' : Option String)
    {e e' pattern pattern' : Expr} (h : Expr.Varies e e')
    (hpattern : Expr.Varies pattern pattern') :
    Expr.Varies (.like op any e pattern escape negated) (.like op any' e' pattern' escape' negated)
  | inQuery (negated : Bool) {e e' : Expr} {q q' : Query} (h : Expr.Varies e e')
    (hq : Query.Varies q q') : Expr.Varies (.inQuery e q negated) (.inQuery e' q' negated)
  /-- A test of another query. -/
  | inTested (negated : Bool) {e e' : Expr} {q q' : Query} (h : Expr.Varies e e')
    (hq : V.tested q q') : Expr.Varies (.inQuery e q negated) (.inQuery e' q' negated)
  | exists (negated : Bool) {q q' : Query} (hq : Query.Varies q q') :
    Expr.Varies (.exists q negated) (.exists q' negated)
  /-- A test of another query. -/
  | existsTested (negated : Bool) {q q' : Query} (hq : V.tested q q') :
    Expr.Varies (.exists q negated) (.exists q' negated)
  | subquery {q q' : Query} (hq : Query.Varies q q') : Expr.Varies (.subquery q) (.subquery q')
  | cast (form form' : CastForm) {e e' : Expr} {type type' : DataType} (h : Expr.Varies e e')
    (htype : V.type type type') : Expr.Varies (.cast form e type) (.cast form' e' type')
  | case {operand operand' default default' : Option Expr} {branches branches' : List Branch}
    (hoperand : Option.Rel Expr.Varies operand operand')
    (hbranches : List.Forall₂ Branch.Varies branches branches')
    (hdefault : Option.Rel Expr.Varies default default') :
    Expr.Varies (.case operand branches default) (.case operand' branches' default')
  | call (nulls nulls' : Option String) (braced braced' : Bool) {name name' : ObjectName}
    {arguments arguments' : Arguments} {withinGroup withinGroup' : List OrderItem}
    {filter filter' : Option Expr} {window window' : Option WindowSpec}
    (hname : ObjectName.Varies V name name') (harguments : Arguments.Varies arguments arguments')
    (hwithinGroup : List.Forall₂ OrderItem.Varies withinGroup withinGroup')
    (hfilter : Option.Rel Expr.Varies filter filter')
    (hwindow : Option.Rel WindowSpec.Varies window window') :
    Expr.Varies (.call name arguments withinGroup filter nulls window braced)
      (.call name' arguments' withinGroup' filter' nulls' window' braced')
  | keywordCall (name : String) (words words' : List String) {arguments arguments' : List Expr}
    (h : List.Forall₂ Expr.Varies arguments arguments') :
    Expr.Varies (.keywordCall name words arguments) (.keywordCall name words' arguments')
  | unmapped (kind : String) {text text' : String} (h : V.text text text') :
    Expr.Varies (.unmapped kind text) (.unmapped kind text')

inductive Branch.Varies : Branch → Branch → Prop
  | mk {b b' : Branch} (condition : Expr.Varies b.condition b'.condition)
    (result : Expr.Varies b.result b'.result) : Branch.Varies b b'

inductive Arguments.Varies : Arguments → Arguments → Prop
  | none : Arguments.Varies .none .none
  | query {q q' : Query} (h : Query.Varies q q') : Arguments.Varies (.query q) (.query q')
  | list (treatment : Option String) {items items' : List Argument}
    {clauses clauses' : List ArgumentClause} (hitems : List.Forall₂ Argument.Varies items items')
    (hclauses : List.Forall₂ ArgumentClause.Varies clauses clauses') :
    Arguments.Varies (.list treatment items clauses) (.list treatment items' clauses')

inductive Argument.Varies : Argument → Argument → Prop
  | value (label label' : String) {e e' : Expr} (h : Expr.Varies e e') :
    Argument.Varies (.value label e) (.value label' e')
  | star (text text' : String) : Argument.Varies (.star text) (.star text')
  | labelled {text text' : String} (h : V.text text text') :
    Argument.Varies (.labelled text) (.labelled text')

inductive ArgumentClause.Varies : ArgumentClause → ArgumentClause → Prop
  | orderBy {items items' : List OrderItem} (h : List.Forall₂ OrderItem.Varies items items') :
    ArgumentClause.Varies (.orderBy items) (.orderBy items')
  | silent (text text' : String) : ArgumentClause.Varies (.silent text) (.silent text')
  | unmapped (kind : String) {text text' : String} (h : V.text text text') :
    ArgumentClause.Varies (.unmapped kind text) (.unmapped kind text')

inductive OrderItem.Varies : OrderItem → OrderItem → Prop
  | mk {o o' : OrderItem} (key : Expr.Varies o.key o'.key) : OrderItem.Varies o o'

inductive WindowSpec.Varies : WindowSpec → WindowSpec → Prop
  | mk {w w' : WindowSpec} (name : Option.Rel V.ident w.name w'.name)
    (reference : Option.Rel V.ident w.reference w'.reference)
    (partitionBy : List.Forall₂ Expr.Varies w.partitionBy w'.partitionBy)
    (orderBy : List.Forall₂ OrderItem.Varies w.orderBy w'.orderBy)
    (startOffset : Option.Rel Expr.Varies w.startOffset w'.startOffset)
    (stopOffset : Option.Rel Expr.Varies w.stopOffset w'.stopOffset) : WindowSpec.Varies w w'

inductive Query.Varies : Query → Query → Prop
  | mk {q q' : Query} (ctes : List.Forall₂ Cte.Varies q.ctes q'.ctes)
    (body : SetExpr.Varies q.body q'.body)
    (orderBy : List.Forall₂ OrderItem.Varies q.orderBy q'.orderBy)
    (limit : Option.Rel Expr.Varies q.limit q'.limit)
    (offset : Option.Rel Expr.Varies q.offset q'.offset)
    (fetchQuantity : Option.Rel Expr.Varies q.fetchQuantity q'.fetchQuantity) : Query.Varies q q'

inductive Cte.Varies : Cte → Cte → Prop
  | mk {c c' : Cte} (name : V.ident c.tableAlias.name c'.tableAlias.name)
    (query : Query.Varies c.query c'.query) : Cte.Varies c c'

inductive SetExpr.Varies : SetExpr → SetExpr → Prop
  | select {s s' : Select} (h : Select.Varies s s') : SetExpr.Varies (.select s) (.select s')
  | query {q q' : Query} (h : Query.Varies q q') : SetExpr.Varies (.query q) (.query q')
  | operation (op : SetOperator) (quantifier : String) {left left' right right' : SetExpr}
    (hleft : SetExpr.Varies left left') (hright : SetExpr.Varies right right') :
    SetExpr.Varies (.operation op quantifier left right) (.operation op quantifier left' right')
  | values (explicitRow explicitRow' : Bool) {rows rows' : List (List Expr)}
    (h : List.Forall₂ (List.Forall₂ Expr.Varies) rows rows') :
    SetExpr.Varies (.values explicitRow rows) (.values explicitRow' rows')
  | unmapped (kind : String) {text text' : String} (h : V.text text text') :
    SetExpr.Varies (.unmapped kind text) (.unmapped kind text')

inductive Select.Varies : Select → Select → Prop
  | mk {s s' : Select} (distinctOn : List.Forall₂ Expr.Varies s.distinctOn s'.distinctOn)
    (top : Option.Rel V.text s.top s'.top)
    (projection : List.Forall₂ SelectItem.Varies s.projection s'.projection)
    (source : List.Forall₂ TableWithJoins.Varies s.source s'.source)
    (lateralViews : List.Forall₂ V.text s.lateralViews s'.lateralViews)
    (condition : Option.Rel Expr.Varies s.condition s'.condition)
    (groupAll : s.groupAll = s'.groupAll)
    (groupBy : List.Forall₂ Expr.Varies s.groupBy s'.groupBy)
    (having : Option.Rel Expr.Varies s.having s'.having)
    (windows : List.Forall₂ WindowSpec.Varies s.windows s'.windows)
    (windowFirst : s.windowFirst = s'.windowFirst)
    (qualify : Option.Rel V.text s.qualify s'.qualify) : Select.Varies s s'

inductive SelectItem.Varies : SelectItem → SelectItem → Prop
  | value {e e' : Expr} (h : Expr.Varies e e') : SelectItem.Varies (.value e) (.value e')
  | aliased {e e' : Expr} {aliasName aliasName' : Ident} (h : Expr.Varies e e')
    (haliasName : V.ident aliasName aliasName') :
    SelectItem.Varies (.aliased e aliasName) (.aliased e' aliasName')
  | star : SelectItem.Varies .star .star
  | qualifiedStar {name name' : ObjectName} (h : ObjectName.Varies V name name') :
    SelectItem.Varies (.qualifiedStar name) (.qualifiedStar name')

inductive TableWithJoins.Varies : TableWithJoins → TableWithJoins → Prop
  | mk {t t' : TableWithJoins} (relation : TableFactor.Varies t.relation t'.relation)
    (joins : List.Forall₂ Join.Varies t.joins t'.joins) : TableWithJoins.Varies t t'

inductive Join.Varies : Join → Join → Prop
  | mk {j j' : Join} (kind : JoinKind.Varies j.kind j'.kind)
    (relation : TableFactor.Varies j.relation j'.relation)
    (shared : SharedColumns.Varies V j.shared j'.shared) (on : Option.Rel Expr.Varies j.on j'.on) :
    Join.Varies j j'

inductive TableFactor.Varies : TableFactor → TableFactor → Prop
  | table (before before' after after' : String) {name name' : ObjectName}
    {tableAlias tableAlias' : Option TableAlias} (hname : ObjectName.Varies V name name')
    (halias : Option.Rel V.ident (tableAlias.map (·.name)) (tableAlias'.map (·.name))) :
    TableFactor.Varies (.table name before tableAlias after)
      (.table name' before' tableAlias' after')
  | derived (lateral lateral' : Bool) {q q' : Query} {tableAlias tableAlias' : Option TableAlias}
    (h : Query.Varies q q')
    (halias : Option.Rel V.ident (tableAlias.map (·.name)) (tableAlias'.map (·.name))) :
    TableFactor.Varies (.derived lateral q tableAlias) (.derived lateral' q' tableAlias')
  | nestedJoin (tableAlias tableAlias' : Option TableAlias) {t t' : TableWithJoins}
    (h : TableWithJoins.Varies t t') :
    TableFactor.Varies (.nestedJoin t tableAlias) (.nestedJoin t' tableAlias')
  | unmapped (kind : String) {text text' : String} (h : V.text text text') :
    TableFactor.Varies (.unmapped kind text) (.unmapped kind text')

end

/-! ## Statements -/

inductive Assignment.Varies : Assignment → Assignment → Prop
  | column {name name' : ObjectName} {e e' : Expr} (hname : ObjectName.Varies V name name')
    (h : Expr.Varies V e e') : Assignment.Varies (.column name e) (.column name' e')
  | tuple {text text' : String} (h : V.text text text') :
    Assignment.Varies (.tuple text) (.tuple text')

inductive OnInsert.Varies : OnInsert → OnInsert → Prop
  | duplicateKeyUpdate {as as' : List Assignment} (h : List.Forall₂ (Assignment.Varies V) as as') :
    OnInsert.Varies (.duplicateKeyUpdate as) (.duplicateKeyUpdate as')
  | conflictNothing (target target' : String) :
    OnInsert.Varies (.conflictNothing target) (.conflictNothing target')
  | conflictUpdate (target target' : String) {as as' : List Assignment}
    {condition condition' : Option Expr} (h : List.Forall₂ (Assignment.Varies V) as as')
    (hcondition : Option.Rel (Expr.Varies V) condition condition') :
    OnInsert.Varies (.conflictUpdate target as condition) (.conflictUpdate target' as' condition')

structure Insert.Varies (i i' : Insert) : Prop where
  table : ObjectName.Varies V i.table i'.table
  aliasName : Option.Rel V.ident i.aliasName i'.aliasName
  columns : List.Forall₂ V.ident i.columns i'.columns
  source : Option.Rel (Query.Varies V) i.source i'.source
  onInsert : Option.Rel (OnInsert.Varies V) i.onInsert i'.onInsert
  returning : List.Forall₂ (SelectItem.Varies V) i.returning i'.returning

structure Update.Varies (u u' : Update) : Prop where
  table : TableWithJoins.Varies V u.table u'.table
  assignments : List.Forall₂ (Assignment.Varies V) u.assignments u'.assignments
  source : Option.Rel (TableWithJoins.Varies V) u.source u'.source
  condition : Option.Rel (Expr.Varies V) u.condition u'.condition
  returning : List.Forall₂ (SelectItem.Varies V) u.returning u'.returning

structure Delete.Varies (s s' : Delete) : Prop where
  targets : List.Forall₂ (ObjectName.Varies V) s.targets s'.targets
  source : List.Forall₂ (TableWithJoins.Varies V) s.source s'.source
  others : List.Forall₂ (TableWithJoins.Varies V) s.others s'.others
  condition : Option.Rel (Expr.Varies V) s.condition s'.condition
  returning : List.Forall₂ (SelectItem.Varies V) s.returning s'.returning
  orderBy : List.Forall₂ (OrderItem.Varies V) s.orderBy s'.orderBy
  limit : Option.Rel (Expr.Varies V) s.limit s'.limit

structure ColumnDecl.Varies (c c' : ColumnDecl) : Prop where
  name : V.ident c.name c'.name
  type : V.type c.type c'.type
  options : c.options.map ColumnOption.nullability = c'.options.map ColumnOption.nullability

structure CreateTable.Varies (t t' : CreateTable) : Prop where
  name : ObjectName.Varies V t.name t'.name
  ifNotExists : t.ifNotExists = t'.ifNotExists
  columns : List.Forall₂ (ColumnDecl.Varies V) t.columns t'.columns
  keys : List.Forall₂ (List.Forall₂ V.ident) (t.constraints.map TableConstraint.key)
    (t'.constraints.map TableConstraint.key)
  like : Option.Rel (ObjectName.Varies V) t.like t'.like
  query : Option.Rel (Query.Varies V) t.query t'.query

inductive TableChange.Varies : TableChange → TableChange → Prop
  | addColumn (ifNotExists : Bool) {column column' : ColumnDecl}
    (h : ColumnDecl.Varies V column column') :
    TableChange.Varies (.addColumn column ifNotExists) (.addColumn column' ifNotExists)
  | dropColumn (ifExists : Bool) {name name' : Ident} (h : V.ident name name') :
    TableChange.Varies (.dropColumn name ifExists) (.dropColumn name' ifExists)
  | changeColumn {name name' : Ident} {column column' : ColumnDecl} (hname : V.ident name name')
    (h : ColumnDecl.Varies V column column') :
    TableChange.Varies (.changeColumn name column) (.changeColumn name' column')
  | setNotNull (notNull : Bool) {name name' : Ident} (h : V.ident name name') :
    TableChange.Varies (.setNotNull name notNull) (.setNotNull name' notNull)
  | setType {name name' : Ident} {type type' : DataType} (hname : V.ident name name')
    (htype : V.type type type') : TableChange.Varies (.setType name type) (.setType name' type')
  | renameColumn {name name' newName newName' : Ident} (hname : V.ident name name')
    (hnewName : V.ident newName newName') :
    TableChange.Varies (.renameColumn name newName) (.renameColumn name' newName')
  | renameTable {newName newName' : ObjectName} (h : ObjectName.Varies V newName newName') :
    TableChange.Varies (.renameTable newName) (.renameTable newName')
  | nothing : TableChange.Varies .nothing .nothing

structure AlterTable.Varies (a a' : AlterTable) : Prop where
  name : ObjectName.Varies V a.name a'.name
  ifExists : a.ifExists = a'.ifExists
  changes : List.Forall₂ (TableChange.Varies V) (a.actions.map AlterAction.change)
    (a'.actions.map AlterAction.change)

/-- Statements that are the same but for what may differ. -/
inductive Statement.Varies : Statement → Statement → Prop
  | query {q q' : Query} (h : Query.Varies V q q') : Statement.Varies (.query q) (.query q')
  | insert {i i' : Insert} (h : Insert.Varies V i i') : Statement.Varies (.insert i) (.insert i')
  | update {u u' : Update} (h : Update.Varies V u u') : Statement.Varies (.update u) (.update u')
  | delete {s s' : Delete} (h : Delete.Varies V s s') : Statement.Varies (.delete s) (.delete s')
  | createTable {t t' : CreateTable} (h : CreateTable.Varies V t t') :
    Statement.Varies (.createTable t) (.createTable t')
  | alterTable {a a' : AlterTable} (h : AlterTable.Varies V a a') :
    Statement.Varies (.alterTable a) (.alterTable a')
  | dropTables (ifExists : Bool) (text text' : String) {names names' : List ObjectName}
    (h : List.Forall₂ (ObjectName.Varies V) names names') :
    Statement.Varies (.dropTables names ifExists text) (.dropTables names' ifExists text')
  | createSchema (ifNotExists : Bool) (text text' : String) {name name' : ObjectName}
    (h : ObjectName.Varies V name name') :
    Statement.Varies (.createSchema name ifNotExists text) (.createSchema name' ifNotExists text')
  | unmapped (kind : String) {text text' : String} (h : V.text text text') :
    Statement.Varies (.unmapped kind text) (.unmapped kind text')

/-! ## Reflexivity -/

/-- Nothing has to differ. -/
structure Variation.Reflexive (V : Variation) : Prop where
  ident : ∀ i, V.ident i i
  type : ∀ t, V.type t t
  text : ∀ text, V.text text text

section Reflexivity

variable {V : Variation} (hV : V.Reflexive)
include hV

theorem Variation.Reflexive.idents (is : List Ident) : List.Forall₂ V.ident is is :=
  List.forall₂_same.2 fun i _ => hV.ident i

theorem Variation.Reflexive.texts (texts : List String) : List.Forall₂ V.text texts texts :=
  List.forall₂_same.2 fun text _ => hV.text text

omit hV in
theorem rel_refl {α : Type} {R : α → α → Prop} (h : ∀ a, R a a) (a : Option α) :
    Option.Rel R a a := by
  cases a with
  | none => exact .none
  | some a => exact .some (h a)

theorem SharedColumns.Varies.refl (shared : SharedColumns) : shared.Varies V shared := by
  match shared with
  | .none => exact .none
  | .natural => exact .natural
  | .using columns => exact .using (hV.idents columns)

-- the recursion is what uses the hypothesis in the lists
set_option linter.unusedSectionVars false in
mutual

theorem Expr.Varies.refl (e : Expr) : e.Varies V e := by
  -- what may vary may as well stay the same, part by part
  match e with
  | .column first rest => exact .column (hV.ident first) (hV.idents rest)
  | .literal value => exact .literal value
  | .nested inner => exact .nested (Expr.Varies.refl inner)
  | .binary left op right => exact .binary op (Expr.Varies.refl left) (Expr.Varies.refl right)
  | .unary op operand => exact .unary op (Expr.Varies.refl operand)
  | .isNull operand negated => exact .isNull negated (Expr.Varies.refl operand)
  | .inList operand items negated =>
    exact .inList negated (Expr.Varies.refl operand) (varies_refl_exprs items)
  | .between operand low high negated =>
    exact .between negated (Expr.Varies.refl operand) (Expr.Varies.refl low) (Expr.Varies.refl high)
  | .like op any operand pattern escape negated =>
    exact .like op negated any any escape escape (Expr.Varies.refl operand)
      (Expr.Varies.refl pattern)
  | .inQuery operand q negated =>
    exact .inQuery negated (Expr.Varies.refl operand) (Query.Varies.refl q)
  | .exists q negated => exact .exists negated (Query.Varies.refl q)
  | .subquery q => exact .subquery (Query.Varies.refl q)
  | .cast form operand type => exact .cast form form (Expr.Varies.refl operand) (hV.type type)
  | .case operand bs default =>
    exact .case (varies_refl_exprOption operand) (varies_refl_branches bs)
      (varies_refl_exprOption default)
  | .call name args withinGroup filter nulls window braced =>
    exact .call nulls nulls braced braced (hV.idents name) (Arguments.Varies.refl args)
      (varies_refl_orderItems withinGroup) (varies_refl_exprOption filter)
      (varies_refl_windowOption window)
  | .keywordCall name words args => exact .keywordCall name words words (varies_refl_exprs args)
  | .unmapped kind text => exact .unmapped kind (hV.text text)
termination_by structural e

theorem varies_refl_exprs (es : List Expr) : List.Forall₂ (Expr.Varies V) es es := by
  match es with
  | [] => exact .nil
  | e :: es => exact .cons (Expr.Varies.refl e) (varies_refl_exprs es)
termination_by structural es

theorem varies_refl_exprOption (e : Option Expr) : Option.Rel (Expr.Varies V) e e := by
  match e with
  | none => exact .none
  | some e => exact .some (Expr.Varies.refl e)
termination_by structural e

theorem varies_refl_branches (bs : List Branch) : List.Forall₂ (Branch.Varies V) bs bs := by
  match bs with
  | [] => exact .nil
  | ⟨condition, result⟩ :: bs =>
    exact .cons (.mk (Expr.Varies.refl condition) (Expr.Varies.refl result))
      (varies_refl_branches bs)
termination_by structural bs

theorem Arguments.Varies.refl (args : Arguments) : args.Varies V args := by
  match args with
  | .none => exact .none
  | .query q => exact .query (Query.Varies.refl q)
  | .list treatment items clauses =>
    exact .list treatment (varies_refl_arguments items) (varies_refl_clauses clauses)
termination_by structural args

theorem varies_refl_arguments (as : List Argument) : List.Forall₂ (Argument.Varies V) as as := by
  match as with
  | [] => exact .nil
  | .value label value :: as =>
    exact .cons (.value label label (Expr.Varies.refl value)) (varies_refl_arguments as)
  | .star text :: as => exact .cons (.star text text) (varies_refl_arguments as)
  | .labelled text :: as => exact .cons (.labelled (hV.text text)) (varies_refl_arguments as)
termination_by structural as

theorem varies_refl_clauses (cs : List ArgumentClause) :
    List.Forall₂ (ArgumentClause.Varies V) cs cs := by
  match cs with
  | [] => exact .nil
  | .orderBy items :: cs =>
    exact .cons (.orderBy (varies_refl_orderItems items)) (varies_refl_clauses cs)
  | .silent text :: cs => exact .cons (.silent text text) (varies_refl_clauses cs)
  | .unmapped kind text :: cs =>
    exact .cons (.unmapped kind (hV.text text)) (varies_refl_clauses cs)
termination_by structural cs

theorem varies_refl_orderItems (os : List OrderItem) : List.Forall₂ (OrderItem.Varies V) os os := by
  match os with
  | [] => exact .nil
  | ⟨key, direction⟩ :: os => exact .cons (.mk (Expr.Varies.refl key)) (varies_refl_orderItems os)
termination_by structural os

theorem WindowSpec.Varies.refl (w : WindowSpec) : w.Varies V w := by
  match w with
  | ⟨name, _, reference, partitionBy, orderBy, _, startOffset, stopOffset⟩ =>
    exact .mk (rel_refl hV.ident name) (rel_refl hV.ident reference)
      (varies_refl_exprs partitionBy) (varies_refl_orderItems orderBy)
      (varies_refl_exprOption startOffset) (varies_refl_exprOption stopOffset)
termination_by structural w

theorem varies_refl_windowOption (w : Option WindowSpec) :
    Option.Rel (WindowSpec.Varies V) w w := by
  match w with
  | none => exact .none
  | some w => exact .some (WindowSpec.Varies.refl w)
termination_by structural w

theorem varies_refl_windows (ws : List WindowSpec) : List.Forall₂ (WindowSpec.Varies V) ws ws := by
  match ws with
  | [] => exact .nil
  | w :: ws => exact .cons (WindowSpec.Varies.refl w) (varies_refl_windows ws)
termination_by structural ws

theorem Query.Varies.refl (q : Query) : q.Varies V q := by
  match q with
  | ⟨_, ctes, body, orderBy, limit, offset, _, _, fetchQuantity, _⟩ =>
    exact .mk (varies_refl_ctes ctes) (SetExpr.Varies.refl body) (varies_refl_orderItems orderBy)
      (varies_refl_exprOption limit) (varies_refl_exprOption offset)
      (varies_refl_exprOption fetchQuantity)
termination_by structural q

theorem varies_refl_ctes (cs : List Cte) : List.Forall₂ (Cte.Varies V) cs cs := by
  match cs with
  | [] => exact .nil
  | ⟨tableAlias, _, q, _⟩ :: cs =>
    exact .cons (.mk (hV.ident tableAlias.name) (Query.Varies.refl q)) (varies_refl_ctes cs)
termination_by structural cs

theorem SetExpr.Varies.refl (b : SetExpr) : b.Varies V b := by
  match b with
  | .select s => exact .select (Select.Varies.refl s)
  | .query q => exact .query (Query.Varies.refl q)
  | .operation op quantifier left right =>
    exact .operation op quantifier (SetExpr.Varies.refl left) (SetExpr.Varies.refl right)
  | .values explicitRow rows => exact .values explicitRow explicitRow (varies_refl_rows rows)
  | .unmapped kind text => exact .unmapped kind (hV.text text)
termination_by structural b

theorem varies_refl_rows (rows : List (List Expr)) :
    List.Forall₂ (List.Forall₂ (Expr.Varies V)) rows rows := by
  match rows with
  | [] => exact .nil
  | row :: rows => exact .cons (varies_refl_exprs row) (varies_refl_rows rows)
termination_by structural rows

theorem Select.Varies.refl (s : Select) : s.Varies V s := by
  match s with
  | ⟨_, distinctOn, top, projection, _, source, lateralViews, condition, _, groupBy, _, having,
      windows, _, qualify⟩ =>
    exact .mk (varies_refl_exprs distinctOn) (rel_refl hV.text top)
      (varies_refl_selectItems projection) (varies_refl_tables source) (hV.texts lateralViews)
      (varies_refl_exprOption condition) (Eq.refl _) (varies_refl_exprs groupBy)
      (varies_refl_exprOption having) (varies_refl_windows windows) (Eq.refl _)
      (rel_refl hV.text qualify)
termination_by structural s

theorem varies_refl_selectItems (is : List SelectItem) :
    List.Forall₂ (SelectItem.Varies V) is is := by
  match is with
  | [] => exact .nil
  | .value value :: is =>
    exact .cons (.value (Expr.Varies.refl value)) (varies_refl_selectItems is)
  | .aliased value aliasName :: is =>
    exact .cons (.aliased (Expr.Varies.refl value) (hV.ident aliasName))
      (varies_refl_selectItems is)
  | .star :: is => exact .cons .star (varies_refl_selectItems is)
  | .qualifiedStar name :: is =>
    exact .cons (.qualifiedStar (hV.idents name)) (varies_refl_selectItems is)
termination_by structural is

theorem varies_refl_tables (ts : List TableWithJoins) :
    List.Forall₂ (TableWithJoins.Varies V) ts ts := by
  match ts with
  | [] => exact .nil
  | t :: ts => exact .cons (TableWithJoins.Varies.refl t) (varies_refl_tables ts)
termination_by structural ts

theorem TableWithJoins.Varies.refl (t : TableWithJoins) : t.Varies V t := by
  match t with
  | ⟨relation, joins⟩ => exact .mk (TableFactor.Varies.refl relation) (varies_refl_joins joins)
termination_by structural t

theorem varies_refl_joins (js : List Join) : List.Forall₂ (Join.Varies V) js js := by
  match js with
  | [] => exact .nil
  | ⟨_, kind, relation, shared, on⟩ :: js =>
    exact .cons (.mk (.same kind) (TableFactor.Varies.refl relation)
      (SharedColumns.Varies.refl hV shared) (varies_refl_exprOption on)) (varies_refl_joins js)
termination_by structural js

theorem TableFactor.Varies.refl (f : TableFactor) : f.Varies V f := by
  match f with
  | .table name before tableAlias after =>
    exact .table before before after after (hV.idents name) (rel_refl hV.ident _)
  | .derived lateral q tableAlias =>
    exact .derived lateral lateral (Query.Varies.refl q) (rel_refl hV.ident _)
  | .nestedJoin inner tableAlias =>
    exact .nestedJoin tableAlias tableAlias (TableWithJoins.Varies.refl inner)
  | .unmapped kind text => exact .unmapped kind (hV.text text)
termination_by structural f

end

end Reflexivity

end TypedSql.Sql
