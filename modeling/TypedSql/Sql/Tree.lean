import TypedSql.Sql.Token

/-!
# Syntax trees

The statements that the grammar recognises, close to the way they are written.

* names and data types
* expressions and queries, which contain each other
* statements that change data or tables

A construct that no later stage looks into is kept as `unmapped`, with the name of its kind and its
canonical text.
-/

namespace TypedSql.Sql

/-! ## Names and types -/

/-- An identifier, with the mark that quotes it if it is quoted. -/
structure Ident where
  text : String
  quote : Option Char
  deriving DecidableEq

/-- The name of a table, a function or another object: identifiers between periods. -/
abbrev ObjectName := List Ident

/-- One entry of the parentheses after the name of a type. -/
inductive TypeArgument where
  | size (n : Nat)
  /-- A length counted in a unit, such as characters. -/
  | length (n : Nat) (unit : String)
  | maximum
  /-- A member of an enumeration, perhaps with a number of its own. -/
  | quoted (text : String) (value : Option String)
  deriving DecidableEq

/-- A declared data type. -/
inductive DataType where
  /-- A type spelled by keywords, which stand before and after its arguments. -/
  | scalar (before : String) (arguments : List TypeArgument) (after : String)
  /-- A type with a name of its own. -/
  | named (name : ObjectName) (modifiers : List String)
  | array (element : DataType) (size : Option Nat)
  /-- An array type with its element type between angle brackets. -/
  | angleArray (element : DataType)
  deriving DecidableEq

/-- A literal value. -/
inductive Literal where
  | number (text : String) (long : Bool)
  | string (kind : StringKind) (text : String)
  | boolean (value : Bool)
  | null
  | placeholder (text : String)
  deriving DecidableEq

/-- An operator between two operands. -/
inductive BinaryOp where
  | and
  | or
  | other (spelling : String)
  deriving DecidableEq

/-- An operator with one operand. -/
inductive UnaryOp where
  | not
  | plus
  | minus
  | before (spelling : String)
  | after (spelling : String)
  deriving DecidableEq

/-- The name given to a table of a FROM clause; `columns` is the text of the list of column names
after it. -/
structure TableAlias where
  name : Ident
  columns : String
  deriving DecidableEq

/-- How a join treats the rows without a partner. -/
inductive JoinKind where
  | inner
  | left
  | right
  | full
  | cross
  | semi
  | anti
  | leftSemi
  | rightSemi
  | leftAnti
  | rightAnti
  | crossApply
  | outerApply
  /-- A join on the nearest row; `condition` is the text of its match condition. -/
  | nearest (condition : String)
  deriving DecidableEq

/-- The operator that joins two queries. -/
inductive SetOperator where
  | union
  | intersect
  | except
  deriving DecidableEq

/-- The form in which a cast is written. -/
inductive CastForm where
  /-- The operator `::`. -/
  | operator
  /-- A call of `CAST` or one of its variants, with the text of a format clause. -/
  | call (name format : String)
  deriving DecidableEq

/-- Where a frame starts or stops. -/
inductive FrameEdge where
  | currentRow
  | preceding
  | following
  deriving DecidableEq

/-- The shape of the frame of a window, without the offsets of its edges. -/
structure FrameShape where
  units : String
  start : FrameEdge
  stop : Option FrameEdge
  deriving DecidableEq

/-- What DISTINCT compares: nothing, the whole row, or some expressions. -/
inductive Distinct where
  | no
  | row
  | on
  deriving DecidableEq

/-- The columns that a join compares without an ON condition. -/
inductive SharedColumns where
  | none
  | natural
  | using (columns : List Ident)
  deriving DecidableEq

/-! ## Expressions and queries -/

mutual

/-- A value expression. -/
inductive Expr where
  /-- A column by its name, which may follow further names. There is always a first part. -/
  | column (first : Ident) (rest : List Ident)
  | literal (value : Literal)
  | nested (inner : Expr)
  | binary (left : Expr) (op : BinaryOp) (right : Expr)
  | unary (op : UnaryOp) (operand : Expr)
  | isNull (operand : Expr) (negated : Bool)
  | inList (operand : Expr) (items : List Expr) (negated : Bool)
  | between (operand low high : Expr) (negated : Bool)
  /-- A pattern match; `op` is `LIKE` or `ILIKE`. -/
  | like (op : String) (any : Bool) (operand pattern : Expr) (escape : Option String)
      (negated : Bool)
  | inQuery (operand : Expr) (query : Query) (negated : Bool)
  | exists (query : Query) (negated : Bool)
  | subquery (query : Query)
  | cast (form : CastForm) (operand : Expr) (type : DataType)
  | case (operand : Option Expr) (branches : List Branch) (default : Option Expr)
  /-- A function call. `nulls` is the text of its null treatment, and `braced` tells that it stands
  in braces. -/
  | call (name : ObjectName) (arguments : Arguments) (withinGroup : List OrderItem)
      (filter : Option Expr) (nulls : Option String) (window : Option WindowSpec) (braced : Bool)
  /-- A call with keywords around its arguments, such as `SUBSTRING(s FROM 2)`: `words` are the
  texts before each argument and after the last one. -/
  | keywordCall (name : String) (words : List String) (arguments : List Expr)
  | unmapped (kind text : String)

/-- A branch of a CASE expression. -/
structure Branch where
  condition : Expr
  result : Expr

/-- What stands in the parentheses of a call, if there are any. -/
inductive Arguments where
  | none
  | query (query : Query)
  | list (treatment : Option String) (items : List Argument) (clauses : List ArgumentClause)

/-- An argument of a call. -/
inductive Argument where
  /-- A value, perhaps named; `label` is the text of its name and the mark after it. -/
  | value (label : String) (value : Expr)
  /-- A star, with the text around it. -/
  | star (text : String)
  /-- A value named by an expression. -/
  | labelled (text : String)

/-- A clause after the arguments of a call. -/
inductive ArgumentClause where
  | orderBy (items : List OrderItem)
  /-- A clause that holds no expression. -/
  | silent (text : String)
  | unmapped (kind text : String)

/-- A sort key, with the text of its direction. -/
structure OrderItem where
  key : Expr
  direction : String

/-- A window. In a WINDOW clause it has a name; after OVER it is parenthesised unless it only refers
to another window. -/
structure WindowSpec where
  name : Option Ident
  parenthesised : Bool
  reference : Option Ident
  partitionBy : List Expr
  orderBy : List OrderItem
  frame : Option FrameShape
  startOffset : Option Expr
  stopOffset : Option Expr

/-- A query: a body with the clauses around it. `recursive` belongs to its WITH clause, `rows` is
the text after an offset, `fetch` the text of a FETCH clause after its quantity, and `tail` the text
of the clauses after FOR. -/
structure Query where
  recursive : Bool
  ctes : List Cte
  body : SetExpr
  orderBy : List OrderItem
  limit : Option Expr
  offset : Option Expr
  rows : String
  fetch : Option String
  fetchQuantity : Option Expr
  tail : String

/-- A named query of a WITH clause. `materialized` and `source` are the texts before and after the
query. -/
structure Cte where
  tableAlias : TableAlias
  materialized : String
  query : Query
  source : String

/-- The body of a query. -/
inductive SetExpr where
  | select (select : Select)
  | query (query : Query)
  /-- Two bodies and the operator between them; `quantifier` is `ALL`, `DISTINCT` or the like. -/
  | operation (op : SetOperator) (quantifier : String) (left right : SetExpr)
  | values (explicitRow : Bool) (rows : List (List Expr))
  | unmapped (kind text : String)

/-- A SELECT. The clauses that no later stage looks into are kept as texts: `top`, `into`,
`lateralViews`, `clustering` (CLUSTER BY and the like) and `qualify`. -/
structure Select where
  distinct : Distinct
  distinctOn : List Expr
  top : Option String
  projection : List SelectItem
  into : String
  source : List TableWithJoins
  lateralViews : List String
  condition : Option Expr
  groupAll : Bool
  groupBy : List Expr
  clustering : String
  having : Option Expr
  windows : List WindowSpec
  windowFirst : Bool
  qualify : Option String

/-- An entry of a select list. -/
inductive SelectItem where
  | value (value : Expr)
  | aliased (value : Expr) (aliasName : Ident)
  | star
  | qualifiedStar (name : ObjectName)

/-- A table reference followed by joins. -/
structure TableWithJoins where
  relation : TableFactor
  joins : List Join

/-- A join with the table reference on its right; `everywhere` marks a GLOBAL join. -/
structure Join where
  everywhere : Bool
  kind : JoinKind
  relation : TableFactor
  shared : SharedColumns
  on : Option Expr

/-- A table reference. -/
inductive TableFactor where
  /-- A table by name; `before` and `after` are the texts around its alias. -/
  | table (name : ObjectName) (before : String) (tableAlias : Option TableAlias) (after : String)
  | derived (lateral : Bool) (query : Query) (tableAlias : Option TableAlias)
  | nestedJoin (inner : TableWithJoins) (tableAlias : Option TableAlias)
  | unmapped (kind text : String)

end

/-! ## Statements -/

/-- An assignment of a SET clause. -/
inductive Assignment where
  | column (name : ObjectName) (value : Expr)
  /-- An assignment to several columns at once. -/
  | tuple (text : String)

/-- What an INSERT does with a row that is there already. -/
inductive OnInsert where
  | duplicateKeyUpdate (assignments : List Assignment)
  | conflictNothing (target : String)
  | conflictUpdate (target : String) (assignments : List Assignment) (condition : Option Expr)

/-- An INSERT. `opening` is its text up to the table name, `partition` and `rowAlias` are the texts
around its source. -/
structure Insert where
  opening : String
  table : ObjectName
  aliasName : Option Ident
  columns : List Ident
  partition : String
  source : Option Query
  rowAlias : String
  onInsert : Option OnInsert
  returning : List SelectItem

/-- An UPDATE; `opening` is its text up to the table. -/
structure Update where
  opening : String
  table : TableWithJoins
  assignments : List Assignment
  source : Option TableWithJoins
  condition : Option Expr
  returning : List SelectItem

/-- A DELETE; `targets` are the tables named before FROM and `others` those after USING. -/
structure Delete where
  targets : List ObjectName
  source : List TableWithJoins
  others : List TableWithJoins
  condition : Option Expr
  returning : List SelectItem
  orderBy : List OrderItem
  limit : Option Expr

/-- What an option of a column says about nulls. -/
inductive Nullability where
  | required
  | allowed
  | unsaid
  deriving DecidableEq

/-- An option of a column, with its text. -/
structure ColumnOption where
  nullability : Nullability
  text : String
  deriving DecidableEq

/-- A column of a table definition; `collation` is the text of its collation. -/
structure ColumnDecl where
  name : Ident
  type : DataType
  collation : String
  options : List ColumnOption

/-- A constraint of a table, with its text. `key` are the columns of the primary key that it
declares. -/
structure TableConstraint where
  key : List Ident
  text : String
  deriving DecidableEq

/-- A CREATE TABLE. `opening` is its text up to the name, `cluster` the text after the name, and
`options` the text between the columns and the query. -/
structure CreateTable where
  opening : String
  name : ObjectName
  ifNotExists : Bool
  cluster : String
  columns : List ColumnDecl
  constraints : List TableConstraint
  like : Option ObjectName
  clone : Option ObjectName
  options : String
  query : Option Query

/-- What an action of an ALTER TABLE does to the columns or the name of the table. -/
inductive TableChange where
  | addColumn (column : ColumnDecl) (ifNotExists : Bool)
  | dropColumn (name : Ident) (ifExists : Bool)
  | changeColumn (name : Ident) (column : ColumnDecl)
  | setNotNull (name : Ident) (notNull : Bool)
  | setType (name : Ident) (type : DataType)
  | renameColumn (name newName : Ident)
  | renameTable (newName : ObjectName)
  | nothing

/-- An action of an ALTER TABLE, with its text. -/
structure AlterAction where
  change : TableChange
  text : String

/-- An ALTER TABLE. `opening` is its text up to the name, `cluster` and `location` are the texts
around the actions. -/
structure AlterTable where
  opening : String
  name : ObjectName
  ifExists : Bool
  cluster : String
  actions : List AlterAction
  location : String

/-- A statement. -/
inductive Statement where
  | query (query : Query)
  | insert (insert : Insert)
  | update (update : Update)
  | delete (delete : Delete)
  | createTable (create : CreateTable)
  | alterTable (alter : AlterTable)
  /-- A DROP TABLE, with its text. -/
  | dropTables (names : List ObjectName) (ifExists : Bool) (text : String)
  /-- A CREATE SCHEMA or CREATE DATABASE, with its text. -/
  | createSchema (name : ObjectName) (ifNotExists : Bool) (text : String)
  | unmapped (kind text : String)

end TypedSql.Sql
