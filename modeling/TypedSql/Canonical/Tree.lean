import TypedSql.SqlType
import TypedSql.TableName

/-!
# Canonical trees

Statements without the peculiarities of a dialect. What is written in the text of a statement and
what a tree can hold are two things: a node may stand where no statement puts it, and the stages
that read trees say so.

* changes of the schema, which hold no expressions
* nodes: queries, expressions and the parts of their clauses

Lists keep the order of the text.
-/

namespace TypedSql.Canonical

/-! ## Changes of the schema -/

/-- The definition of a column. -/
structure ColumnDef where
  name : String
  type : SqlType
  notNull : Bool
  deriving DecidableEq, Inhabited

/-- A command of an ALTER TABLE. -/
inductive AlterCommand where
  | addColumn (column : ColumnDef) (ifNotExists : Bool)
  | dropColumn (name : String) (ifExists : Bool)
  /-- Replaces the definition of a column, perhaps under a new name. -/
  | modifyColumn (name : String) (column : ColumnDef)
  | setNotNull (name : String) (notNull : Bool)
  | setType (name : String) (type : SqlType)
  | renameColumn (name newName : String)
  | renameTable (newName : TableName)
  deriving DecidableEq

/-- A statement that changes the catalog. -/
inductive SchemaChange where
  | createTable (name : TableName) (ifNotExists : Bool) (columns : List ColumnDef)
  | alterTable (name : TableName) (ifExists : Bool) (commands : List AlterCommand)
  | dropTables (names : List TableName) (ifExists : Bool)
  | createSchema (name : String) (ifNotExists : Bool)
  deriving DecidableEq

namespace SchemaChange

/-- The name of the kind of a statement. -/
def kind : SchemaChange → String
  | .createTable .. => "CreateTable"
  | .alterTable .. => "AlterTable"
  | .dropTables .. => "DropTable"
  | .createSchema .. => "CreateSchema"

end SchemaChange

/-! ## Nodes -/

/-- A connective of conditions. -/
inductive Connective where
  | and
  | or
  | not
  deriving DecidableEq

/-- How the two sides of a set operation are joined; `none` for a query that is none. -/
inductive SetOperation where
  | none
  | union
  | intersect
  | except
  deriving DecidableEq, Inhabited

/-- How a subquery is tested. -/
inductive SublinkKind where
  /-- Whether it has rows. -/
  | exists
  /-- Whether one of its rows equals a value. -/
  | any
  deriving DecidableEq

/-- A constant. -/
inductive Literal where
  | integer (text : String)
  | decimal (text : String)
  | string (text : String)
  | boolean (value : Bool)
  | null
  deriving DecidableEq

/-- A table of a FROM clause or the target of a statement. -/
structure TableRef where
  schema : Option String
  name : String
  aliasName : Option String
  /-- Whether an outer join can put a row of nulls in the place of a row of the table. -/
  nullable : Bool
  deriving DecidableEq, Inhabited

namespace TableRef

/-- The name of the table itself. -/
def tableName (t : TableRef) : TableName := ⟨t.schema, t.name⟩

/-- The name by which the rest of the statement refers to the table. -/
def visibleName (t : TableRef) : String := t.aliasName.getD t.name

end TableRef

mutual

/-- A node of a tree. -/
inductive Node where
  | schemaChange (change : SchemaChange)
  | insert (insert : Insert)
  | select (select : Select)
  | update (update : Update)
  | delete (delete : Delete)
  | logic (op : Connective) (args : List Node)
  /-- An operator by name. One with a single operand has no left side; `in` and `between` have a
  list on their right. -/
  | operator (name : String) (left right : Option Node)
  /-- A reference to a column: names, the last of which may be a star. -/
  | column (fields : List Node)
  /-- A placeholder, with its number and its offset in the text. -/
  | param (number location : Nat)
  | sublink (kind : SublinkKind) (test query : Option Node) (negated : Bool)
  | call (call : Call)
  | cast (arg : Node) (type : SqlType)
  | nullTest (arg : Node) (isNull : Bool)
  | case (operand : Option Node) (branches : List Branch) (default : Option Node)
  | literal (value : Literal)
  /-- A column of a result, or one that is written to. -/
  | target (name : Option String) (value : Option Node) (location : Nat)
  | table (ref : TableRef)
  /-- A query in a FROM clause. -/
  | derived (query : Node) (aliasName : Option String) (nullable : Bool)
  | list (items : List Node)
  | name (value : String)
  | star
  /-- A construct without canonical form, and the placeholders in it. -/
  | unsupported (construct : String) (params : List Node)

/-- A query: a plain one, the rows of a VALUES, or two queries joined by a set operation. -/
structure Select where
  ctes : List NamedQuery
  targets : List Node
  source : List Node
  /-- The ON conditions of all joins. -/
  joinConditions : List Node
  condition : Option Node
  /-- The expressions of a DISTINCT ON. -/
  distinctOn : List Node
  groupBy : List Node
  having : Option Node
  windows : List Window
  orderBy : List Node
  limit : Option Node
  offset : Option Node
  /-- The rows of a VALUES. -/
  rows : List Node
  operation : SetOperation
  all : Bool
  left : Option Select
  right : Option Select

/-- A query of a WITH clause. -/
structure NamedQuery where
  name : String
  query : Node

/-- An INSERT. What it writes always comes from a query. -/
structure Insert where
  table : TableRef
  columns : List Node
  source : Select
  /-- The assignments to a row that is there already. -/
  conflictTargets : List Node
  conflictCondition : Option Node
  returning : List Node

/-- An UPDATE. -/
structure Update where
  table : TableRef
  targets : List Node
  source : List Node
  joinConditions : List Node
  condition : Option Node
  returning : List Node

/-- A DELETE. -/
structure Delete where
  table : TableRef
  source : List Node
  joinConditions : List Node
  condition : Option Node
  orderBy : List Node
  limit : Option Node
  returning : List Node

/-- A function call. -/
structure Call where
  name : String
  args : List Node
  /-- The sort keys of an aggregate. -/
  orderBy : List Node
  filter : Option Node
  window : Option Window
  /-- Whether the argument is a star. -/
  star : Bool
  distinct : Bool

/-- A window of a call or of a WINDOW clause. -/
structure Window where
  name : Option String
  /-- The window that this one refers to. -/
  base : Option String
  partitionBy : List Node
  orderBy : List Node
  startOffset : Option Node
  endOffset : Option Node

/-- A branch of a CASE expression. -/
structure Branch where
  condition : Node
  result : Node

end

/-- The query that selects nothing from nowhere. -/
def Select.empty : Select :=
  ⟨[], [], [], [], none, [], [], none, [], [], none, none, [], .none, false, none, none⟩

/-- The window without a name and without clauses. -/
def Window.empty : Window := ⟨none, none, [], [], none, none⟩

instance : Inhabited Node := ⟨.star⟩

namespace Node

/-- The name of the kind of a node. -/
def kind : Node → String
  | .schemaChange c => c.kind
  | .insert _ => "Insert"
  | .select _ => "Select"
  | .update _ => "Update"
  | .delete _ => "Delete"
  | .logic .. => "BoolExpr"
  | .operator .. => "BinaryExpr"
  | .column _ => "ColumnRef"
  | .param .. => "ParamRef"
  | .sublink .. => "SubLink"
  | .call _ => "FuncCall"
  | .cast .. => "TypeCast"
  | .nullTest .. => "NullTest"
  | .case .. => "CaseExpr"
  | .literal _ => "Literal"
  | .target .. => "ResTarget"
  | .table _ => "RangeVar"
  | .derived .. => "RangeSubselect"
  | .list _ => "List"
  | .name _ => "Name"
  | .star => "Star"
  | .unsupported .. => "Unsupported"

/-- Whether the node changes the catalog. -/
def isSchemaChange : Node → Bool
  | .schemaChange _ => true
  | _ => false

/-- Whether the node is a query, or changes data. -/
def isQuery : Node → Bool
  | .select _ | .insert _ | .update _ | .delete _ => true
  | _ => false

/-- Whether the node is a placeholder. -/
def isParam : Node → Bool
  | .param .. => true
  | _ => false

/-- The text of a name. -/
def nameText? : Node → Option String
  | .name s => some s
  | _ => none

/-- Whether the node is a star. -/
def isStar : Node → Bool
  | .star => true
  | _ => false

end Node

/-! ## References to columns -/

/-- Whether the last field of a reference is a star. -/
def endsInStar (fields : List Node) : Bool := (fields.getLast?.map Node.isStar).getD false

/-- The name of the column that a reference is to; a star has none. -/
def columnName? (fields : List Node) : Option String := fields.getLast?.bind Node.nameText?

/-- The names of the schema and the table before the last field. -/
def qualifiers (fields : List Node) : List String := fields.dropLast.filterMap Node.nameText?

/-- The qualifiers of a reference to all columns. -/
def Node.starQualifiers? : Node → Option (List String)
  | .column fields => if endsInStar fields then some (qualifiers fields) else none
  | _ => none

end TypedSql.Canonical
