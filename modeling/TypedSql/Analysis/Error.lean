import TypedSql.Catalog.Basic

/-!
# Analysis errors

Why the analysis of a statement ends without a result. Each way in which a tree can be malformed is
a cause of its own.
-/

namespace TypedSql

/-- What is wrong with a tree that no stage before should have let through, or with the number of
columns of a query. -/
inductive Malformation where
  | starInExpression
  | cteNotQuery (name kind : String)
  | missingSide
  | columnCounts (left right : Nat)
  | rowNotList
  | valueCount (columns values : Nat)
  | unnamedColumn
  | derivedNotQuery
  | inSource (kind : String)
  | inTargets (kind : String)
  | targetWithoutValue
  | inAssignments (kind : String)
  | inExpression (kind : String)
  | operatorWithoutOperand (name : String)
  /-- A failed lookup that is none of a name. -/
  | lookup (error : CatalogError)
  deriving DecidableEq

namespace Malformation

/-- The text of a malformation. -/
def message : Malformation → String
  | .starInExpression => "unexpected \x60*\x60 in expression"
  | .cteNotQuery name kind => "CTE '" ++ name ++ "' is a " ++ kind ++ ", not a query"
  | .missingSide => "set operation without two arms"
  | .columnCounts left right =>
    "each side of a set operation must have the same number of columns (" ++ toString left ++
      " vs " ++ toString right ++ ")"
  | .rowNotList => "VALUES row is not a list"
  | .valueCount columns values =>
    "INSERT has " ++ toString columns ++ " target columns but " ++ toString values ++ " values"
  | .unnamedColumn => "unnamed INSERT column"
  | .derivedNotQuery => "derived table is not a query"
  | .inSource kind => "unexpected " ++ kind ++ " in FROM clause"
  | .inTargets kind => "unexpected " ++ kind ++ " in target list"
  | .targetWithoutValue => "target without value"
  | .inAssignments kind => "unexpected " ++ kind ++ " in SET list"
  | .inExpression kind => "unexpected " ++ kind ++ " in expression"
  | .operatorWithoutOperand name => "operator '" ++ name ++ "' without operand"
  | .lookup error => error.message

end Malformation

/-- Why a statement cannot be analysed. -/
inductive AnalysisError where
  | unknownSchema (name : String)
  | unknownTable (name : TableName)
  /-- The qualifier of a column names nothing in scope. -/
  | unknownRelation (qualifier : String)
  | unknownColumn (column : String) (table : Option TableName)
  | ambiguousColumn (column : String) (relations : List String)
  | malformed (cause : Malformation)
  | unsupported (construct : String)
  deriving DecidableEq

namespace AnalysisError

/-- The code of the diagnostic for an error. -/
def code : AnalysisError → DiagnosticCode
  | .unknownSchema _ => .unknownSchema
  | .unknownTable _ | .unknownRelation _ => .unknownTable
  | .unknownColumn .. => .unknownColumn
  | .ambiguousColumn .. => .ambiguousColumn
  | .malformed _ => .malformedStatement
  | .unsupported _ => .unsupportedConstruct

/-- The text of an error. -/
def message : AnalysisError → String
  | .unknownSchema s => "Unknown schema: " ++ s
  | .unknownTable t => "Unknown table: " ++ t.render
  | .unknownRelation q => "Missing FROM-clause entry for '" ++ q ++ "'"
  | .unknownColumn c none => "Unknown column '" ++ c ++ "'"
  | .unknownColumn c (some t) => "Unknown column '" ++ c ++ "' on table " ++ t.render
  | .ambiguousColumn c rs =>
    "Column reference '" ++ c ++ "' is ambiguous, found in: " ++ String.intercalate ", " rs
  | .malformed m => "Malformed statement: " ++ m.message
  | .unsupported c => "Unsupported statement: " ++ c

/-- The diagnostic for an error. -/
def toDiagnostic (e : AnalysisError) : Diagnostic := .ofError e.code e.message

/-- The error that a failed lookup in the catalog means. -/
def ofCatalog : CatalogError → AnalysisError
  | .unknownSchema s => .unknownSchema s
  | .unknownTable t => .unknownTable t
  | .unknownColumn t c => .unknownColumn c (some t)
  | e => .malformed (.lookup e)

end AnalysisError

end TypedSql
