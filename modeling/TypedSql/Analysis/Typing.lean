import TypedSql.Canonical.Tree
import TypedSql.Descriptor

/-!
# Typing rules

The type and the nullability of an expression from those of its operands, and the hints by which a
placeholder takes its type from the place where it stands. The rules know nothing of scopes.
-/

namespace TypedSql

/-- What is inferred about an expression. -/
structure Inferred where
  type : SqlType
  notNull : Bool
  /-- The table and the column, for an expression that is a column and nothing else. -/
  source : Option (TableName × String)
  deriving DecidableEq, Inhabited

/-- What a placeholder in some place stands for. -/
structure Hint where
  name : Option String
  type : SqlType
  notNull : Bool
  deriving DecidableEq, Inhabited

namespace Hint

/-- The hint for the number of rows of a LIMIT or OFFSET. -/
def count (name : String) : Hint := ⟨some name, .named "integer", true⟩

/-- The hint for an offset of the frame of a window. -/
def frame : Hint := ⟨none, .named "integer", true⟩

/-- The hint for what is written into a column. -/
def column (c : ResultColumn) : Hint := ⟨some c.name, c.type, c.notNull⟩

/-- The hint for what is cast to a type. -/
def castTo (type : SqlType) : Hint := ⟨none, type, true⟩

end Hint

namespace Inferred

/-- An expression that is not a column. -/
def computed (type : SqlType) (notNull : Bool) : Inferred := ⟨type, notNull, none⟩

/-- An expression whose type has a name and no flags. -/
def named (name : String) (notNull : Bool) : Inferred := computed (.named name) notNull

/-- An expression about which nothing is known. -/
def unknown : Inferred := computed .opaqueType false

/-- A condition. -/
def boolean (notNull : Bool) : Inferred := named "boolean" notNull

/-- A column. -/
def ofColumn (c : ResultColumn) : Inferred :=
  ⟨c.type, c.notNull,
    match c.table, c.originalName with
    | some t, some n => some (t, n)
    | _, _ => none⟩

/-- Whether nothing is known about the type. -/
def isOpaque (i : Inferred) : Bool := i.type.isOpaque

/-- The hint for a placeholder that is compared with the expression. -/
def hint? (i : Inferred) : Option Hint :=
  if i.isOpaque then none else some ⟨i.source.map (·.2), i.type, i.notNull⟩

/-- What a placeholder with a hint is inferred to be. -/
def ofHint : Option Hint → Inferred
  | some h => computed h.type h.notNull
  | none => unknown

/-- The first type that is not opaque. -/
def firstType (is : List Inferred) : SqlType :=
  ((is.find? fun i => !i.isOpaque).map (·.type)).getD .opaqueType

/-- A constant. -/
def ofLiteral : Canonical.Literal → Inferred
  | .integer _ => named "bigint" true
  | .decimal _ => named "decimal" true
  | .string _ => named "text" true
  | .boolean _ => boolean true
  | .null => unknown

end Inferred

/-! ## Operators -/

/-- How an operator treats its operands. -/
inductive OperatorKind where
  /-- The result is a condition, and a placeholder takes the type of the other operand. -/
  | comparison
  /-- The result has the type of the operands. -/
  | arithmetic
  /-- The result is text. -/
  | concat
  | other
  deriving DecidableEq

namespace OperatorKind

/-- The operators that compare. Each of them may be negated. -/
def comparisons : List String :=
  ["=", "<>", "!=", "<", "<=", ">", ">=", "<=>", "in", "between", "like", "ilike", "~~", "~~*",
    "regexp", "rlike"]

/-- The operators that compute. -/
def arithmetics : List String :=
  ["+", "-", "*", "/", "%", "div", "mod", "&", "|", "^", "<<", ">>"]

/-- The name of an operator without its negation. -/
def positive (name : String) : String :=
  let cs := name.toList
  if "not ".toList.isPrefixOf cs then String.ofList (cs.drop 4) else name

/-- The kind of the operator with a name. -/
def ofName (name : String) : OperatorKind :=
  let name := positive name
  if comparisons.contains name then .comparison
  else if arithmetics.contains name then .arithmetic
  else if name = "||" then .concat
  else .other

end OperatorKind

namespace Inferred

/-- The type of a result that has the type of its operands. -/
def operandType (left : Option Inferred) (right : Inferred) : SqlType :=
  match left with
  | some l => if l.isOpaque then right.type else l.type
  | none => right.type

/-- The result of an operator. One that is null on a null operand is not null only if no operand
is. -/
def ofOperator (name : String) (left : Option Inferred) (right : Inferred) : Inferred :=
  let notNull := right.notNull && (left.map (·.notNull)).getD true
  match OperatorKind.ofName name with
  | .comparison => boolean notNull
  | .concat => named "text" notNull
  | .arithmetic => computed (operandType left right) notNull
  | .other =>
    match left with
    | none => computed right.type notNull
    | some _ => unknown

/-! ## Functions -/

/-- The functions whose result is text. -/
def stringFunctions : List String :=
  ["lower", "upper", "concat", "concat_ws", "substring", "substr", "trim", "ltrim", "rtrim",
    "replace", "left", "right", "lpad", "rpad", "repeat", "reverse", "md5", "initcap", "format"]

/-- The aggregates that have the type of their argument and are null over no rows. -/
def nullableAggregates : List String := ["sum", "min", "max"]

/-- The aggregates whose result is text, and null over no rows. -/
def stringAggregates : List String := ["string_agg", "group_concat"]

/-- The functions that answer the first argument that is not null. -/
def fallbackFunctions : List String := ["coalesce", "ifnull", "nvl"]

/-- The functions that answer the current time. -/
def clockFunctions : List String := ["now", "current_timestamp", "localtimestamp"]

/-- The part of a name after its last period. -/
def lastPart (name : String) : String :=
  String.ofList (name.toList.reverse.takeWhile (· ≠ '.')).reverse

/-- The result of a function call; `star` tells that its argument is a star. -/
def ofCall (name : String) (args : List Inferred) (star : Bool) : Inferred :=
  let base := lastPart name
  if base = "count" then named "bigint" true
  else if nullableAggregates.contains base then
    match args with
    | a :: _ => if star then unknown else computed a.type false
    | [] => unknown
  else if base = "avg" then named "decimal" false
  else if fallbackFunctions.contains base then
    computed (firstType args) (args.any (·.notNull))
  else if stringFunctions.contains base then named "text" (args.all (·.notNull))
  else if stringAggregates.contains base then named "text" false
  else if clockFunctions.contains base then named "timestamp" true
  else unknown

/-- The result of a CASE from the results of its branches. -/
def ofBranches (branches : List Inferred) (hasDefault : Bool) : Inferred :=
  computed (firstType branches) (hasDefault && branches.all (·.notNull))

/-- A list of operands, as on the right of IN. If the type is not known, nothing is. -/
def ofList (items : List Inferred) : Inferred :=
  if items.all (·.isOpaque) then unknown
  else computed (firstType items) (items.all (·.notNull))

end Inferred

end TypedSql
