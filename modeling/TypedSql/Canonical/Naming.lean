import TypedSql.Dialect
import TypedSql.SqlType
import TypedSql.Sql.Spelling
import TypedSql.Text.Lowercase
import TypedSql.Word

/-!
# Naming

How the dialects compare names, spell types and number placeholders. Everything that depends on the
dialect of a canonical tree is decided here.
-/

namespace TypedSql.Canonical

open TypedSql.Text

/-! ## Identifiers -/

/-- The form in which an identifier is compared. Letter case counts only between the quotes of
PostgreSQL. -/
def fold (d : Dialect) (i : Sql.Ident) : String :=
  match d, i.quote with
  | .postgres, some _ => i.text
  | _, _ => lower i.text

/-- The last part of a name, which does without schema or table. -/
def lastPart? (d : Dialect) (name : Sql.ObjectName) : Option String := name.getLast?.map (fold d)

/-- The name of an operator. -/
def operatorName (op : Sql.BinaryOp) : String := lower op.render

/-! ## Types -/

/-- Takes the brackets of arrays from the end of a type, at most `n` of them, and tells whether
there were any. -/
def dropBrackets : Nat → List Char → List Char × Bool
  | 0, cs => (cs, false)
  | n + 1, cs =>
    match (trimEnd cs).reverse with
    | ']' :: inside =>
      match inside.dropWhile (· ≠ '[') with
      | _ :: before => ((dropBrackets n before.reverse).1, true)
      | [] => (cs, false)
    | _ => (cs, false)

/-- The characters outside of parentheses; `depth` parentheses are open already. -/
def outsideParentheses (depth : Nat) : List Char → List Char
  | [] => []
  | '(' :: cs => outsideParentheses (depth + 1) cs
  | ')' :: cs => outsideParentheses (depth - 1) cs
  | c :: cs => if depth = 0 then c :: outsideParentheses 0 cs else outsideParentheses depth cs

/-- Words that tell about a type but do not name it. -/
def isTypeFlag (word : String) : Bool :=
  word = "unsigned" || word = "signed" || word = "zerofill"

/-- The type that a text declares, without lengths, precisions and members. -/
def splitType (text : String) : SqlType :=
  let (cs, array) := dropBrackets text.length (lower text).toList
  let parts := words (String.ofList (outsideParentheses 0 cs))
  ⟨Sql.separated " " (parts.filter (!isTypeFlag ·)), parts.contains "unsigned", array⟩

/-- The name that stands for all spellings of a MySQL type. -/
def mysqlTypeName (name : String) : String :=
  match name with
  | "integer" => "int"
  | "bool" | "boolean" => "tinyint"
  | "character varying" => "varchar"
  | "character" => "char"
  | "double precision" | "real" => "double"
  | "numeric" | "dec" | "fixed" => "decimal"
  | _ => name

/-- The name that stands for all spellings of a PostgreSQL type. -/
def postgresTypeName (name : String) : String :=
  match name with
  | "int" | "int4" => "integer"
  | "int8" => "bigint"
  | "int2" => "smallint"
  | "serial4" => "serial"
  | "serial8" => "bigserial"
  | "serial2" => "smallserial"
  | "bool" => "boolean"
  | "character varying" => "varchar"
  | "character" | "bpchar" => "char"
  | "float8" | "double" => "double precision"
  | "float4" => "real"
  | "decimal" => "numeric"
  | "timestamp without time zone" => "timestamp"
  | "timestamp with time zone" => "timestamptz"
  | "time without time zone" => "time"
  | "time with time zone" => "timetz"
  | _ => name

/-- The canonical type of a declared one. -/
def typeOf (d : Dialect) (t : Sql.DataType) : SqlType :=
  let split := splitType t.render
  match d with
  | .mysql => { split with name := mysqlTypeName split.name }
  | .postgres => { split with name := postgresTypeName split.name }

/-- Whether a column of the type never holds a null. The numbering types of PostgreSQL do not. -/
def neverNull (d : Dialect) (t : SqlType) : Bool :=
  match d with
  | .mysql => false
  | .postgres => t.name = "serial" || t.name = "bigserial" || t.name = "smallserial"

/-! ## Placeholders -/

/-- The value of a list of decimal digits. -/
def decimalValue (digits : List Char) : Nat :=
  digits.foldl (fun n c => 10 * n + (c.toNat - '0'.toNat)) 0

/-- Reads an unsigned number of 64 bits; a plus may stand before its digits. -/
def readWord? (cs : List Char) : Option Nat :=
  let digits := match cs with
    | '+' :: digits => digits
    | digits => digits
  if digits.isEmpty || !digits.all Char.isDigit || wordCount ≤ decimalValue digits then none
  else some (decimalValue digits)

/-- The number of a placeholder that is the `ordinal`th of its statement. Those of MySQL are
counted, those of PostgreSQL have a number of their own. -/
def paramNumber? (d : Dialect) (text : String) (ordinal : Nat) : Option Nat :=
  match d with
  | .mysql => if text = "?" then some ordinal else none
  | .postgres =>
    match text.toList with
    | '$' :: cs => (readWord? cs).filter (0 < ·)
    | _ => none

end TypedSql.Canonical
