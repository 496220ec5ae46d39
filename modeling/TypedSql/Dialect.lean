/-!
# Dialects

The two dialects of SQL that statements are written in.
-/

namespace TypedSql

/-- A dialect of SQL. -/
inductive Dialect where
  | mysql
  | postgres
  deriving DecidableEq, Inhabited

namespace Dialect

/-- The short name of the dialect. -/
def name : Dialect → String
  | .mysql => "mysql"
  | .postgres => "postgres"

/-- The dialect with a name. Each dialect has a second name. -/
def ofName? (s : String) : Option Dialect :=
  match s with
  | "mysql" | "dolphin" => some .mysql
  | "postgres" | "postgresql" => some .postgres
  | _ => none

/-- The schema that unqualified table names live in. In MySQL they live in the database of the
connection, which has no name of its own. -/
def defaultSchema : Dialect → String
  | .mysql => ""
  | .postgres => "public"

end Dialect

end TypedSql
