import TypedSql.Analysis.Error
import TypedSql.Canonical.Tree
import TypedSql.Descriptor

/-!
# Scopes

What the names in a query refer to. A scope is a list of levels, the innermost first; every level
holds the tables of a FROM clause, the queries of a WITH clause, and the columns of a result that
later clauses can refer to. A name means what the innermost level that knows it says.
-/

namespace TypedSql

/-! ## Relations -/

/-- A source of rows. -/
structure Relation where
  /-- The name by which columns refer to the relation; empty for a query without a name. -/
  name : String
  /-- The schema by which columns may also refer to it. -/
  schema : Option String
  /-- The table of the catalog that the relation is. -/
  table : Option TableName
  columns : List ResultColumn
  /-- Whether an outer join can put nulls in the place of all columns. -/
  nullable : Bool
  deriving DecidableEq, Inhabited

namespace Relation

/-- A column of a table as a query sees it. -/
def tableColumn (t : Table) (c : Column) : ResultColumn :=
  ⟨c.name, c.type, c.notNull, some t.name, some c.name⟩

/-- A table of the catalog. Under an alias its schema no longer names it. -/
def ofTable (t : Table) (aliasName : Option String) (nullable : Bool) : Relation :=
  { name := aliasName.getD t.name.name
    schema := if aliasName.isSome then none else t.name.schema
    table := some t.name
    columns := t.columns.map (tableColumn t)
    nullable := nullable }

/-- The result of a query under a name. -/
def derived (name : String) (columns : List ResultColumn) (nullable : Bool) : Relation :=
  ⟨name, none, none, columns, nullable⟩

/-- A column as the rest of the query sees it: one of a relation that can be null as a whole can be
null itself. -/
def adjust (r : Relation) (c : ResultColumn) : ResultColumn :=
  { c with notNull := c.notNull && !r.nullable }

/-- The column with a name. -/
def column? (r : Relation) (name : String) : Option ResultColumn :=
  (r.columns.find? (·.name = name)).map r.adjust

/-- All columns, in order. -/
def allColumns (r : Relation) : List ResultColumn := r.columns.map r.adjust

/-- Whether the qualifiers of a column name the relation. -/
def matchesQualifiers (r : Relation) : List String → Bool
  | [table] => r.name = table
  | [schema, table] => r.name = table && r.schema = some schema
  | _ => false

/-- The name of the relation in messages. -/
def label (r : Relation) : String := if r.name = "" then "(subquery)" else r.name

/-- The error for a column that the relation does not have. -/
def missingColumn (r : Relation) (name : String) : AnalysisError :=
  match r.table with
  | some t => .unknownColumn name (some t)
  | none => .unknownColumn (r.label ++ "." ++ name) none

end Relation

/-! ## Levels -/

/-- What one level of a query can refer to. -/
structure ScopeLevel where
  relations : List Relation
  ctes : List Relation
  outputs : List ResultColumn
  deriving Inhabited

namespace ScopeLevel

/-- The level that knows no name. -/
def empty : ScopeLevel := ⟨[], [], []⟩

/-- A level with relations only. -/
def ofRelations (relations : List Relation) : ScopeLevel := ⟨relations, [], []⟩

/-- What an unqualified name means at a level: a column of the only relation that has one, or else
a column of the result. -/
def resolveUnqualified (l : ScopeLevel) (name : String) :
    Except AnalysisError (Option ResultColumn) :=
  match l.relations.filter fun r => (r.column? name).isSome with
  | [] => .ok (l.outputs.find? (·.name = name))
  | [r] => .ok (r.column? name)
  | rs => .error (.ambiguousColumn name (rs.map (·.label)))

/-- What a qualified name means at a level: a column of the only relation that the qualifiers
name. -/
def resolveQualified (l : ScopeLevel) (qualifiers : List String) (name : String) :
    Except AnalysisError (Option ResultColumn) :=
  match l.relations.filter (·.matchesQualifiers qualifiers) with
  | [] => .ok none
  | [r] =>
    match r.column? name with
    | some c => .ok (some c)
    | none => .error (r.missingColumn name)
  | rs =>
    .error (.ambiguousColumn (String.intercalate "." (qualifiers ++ [name])) (rs.map (·.label)))

/-- What a name means at a level. -/
def resolve (l : ScopeLevel) (qualifiers : List String) (name : String) :
    Except AnalysisError (Option ResultColumn) :=
  if qualifiers.isEmpty then l.resolveUnqualified name else l.resolveQualified qualifiers name

end ScopeLevel

/-! ## Scopes -/

/-- The levels that a query can refer to, the innermost first. -/
abbrev Scope := List ScopeLevel

namespace Scope

/-- The last query of a WITH clause with a name, looked for from the inside out. -/
def findCte? (s : Scope) (name : String) : Option Relation :=
  s.findSome? fun l => l.ctes.reverse.find? (·.name = name)

/-- What a name means: what the first level that knows it says. -/
def resolveName (qualifiers : List String) (name : String) :
    Scope → Except AnalysisError ResultColumn
  | [] =>
    if qualifiers.isEmpty then .error (.unknownColumn name none)
    else .error (.unknownRelation (String.intercalate "." qualifiers))
  | l :: ls =>
    match l.resolve qualifiers name with
    | .error e => .error e
    | .ok (some c) => .ok c
    | .ok none => resolveName qualifiers name ls

/-- What a reference to a column means. A reference without a name is none in an expression. -/
def resolve (s : Scope) (fields : List Canonical.Node) : Except AnalysisError ResultColumn :=
  match Canonical.columnName? fields with
  | some name => resolveName (Canonical.qualifiers fields) name s
  | none => .error (.malformed .starInExpression)

/-- The relations of the innermost level. -/
def relations (s : Scope) : List Relation :=
  match s with
  | l :: _ => l.relations
  | [] => []

/-- The columns that a star stands for: those of all relations of the innermost level, or those of
the first one that the qualifiers name. -/
def expandStar (s : Scope) (qualifiers : List String) : Except AnalysisError (List ResultColumn) :=
  if qualifiers.isEmpty then .ok (s.relations.flatMap (·.allColumns))
  else
    match s.relations.find? (·.matchesQualifiers qualifiers) with
    | some r => .ok r.allColumns
    | none => .error (.unknownRelation (String.intercalate "." qualifiers))

/-- Puts the columns of a result into the innermost level. -/
def setOutputs (s : Scope) (columns : List ResultColumn) : Scope :=
  match s with
  | l :: ls => { l with outputs := columns } :: ls
  | [] => []

end Scope

end TypedSql
