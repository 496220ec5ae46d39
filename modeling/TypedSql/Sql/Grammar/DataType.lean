import TypedSql.Sql.Grammar.Basic

/-!
# Grammar of data types

A type is spelled by keywords with arguments in parentheses, or has a name of its own; brackets
after it make an array of it.
-/

namespace TypedSql.Sql.Grammar

/-- One number in parentheses, if there are any. -/
def precision? : Parser (List TypeArgument) := do
  if ← symbol? "(" then
    let n ← unsigned
    expectSymbol ")"
    return [.size n]
  else return []

/-- One or two numbers in parentheses, if there are any. -/
def precisionScale? : Parser (List TypeArgument) := do
  if ← symbol? "(" then
    let n ← unsigned
    let scale ← whenever (← symbol? ",") unsigned
    expectSymbol ")"
    return .size n :: (scale.map TypeArgument.size).toList
  else return []

/-- A length in parentheses, if there are any. -/
def length? : Parser (List TypeArgument) := do
  if ← symbol? "(" then
    let argument ←
      if ← keyword? "MAX" then pure TypeArgument.maximum
      else do
        let n ← unsigned
        match ← oneOf? ["CHARACTERS", "OCTETS"] with
        | some unit => pure (.length n unit)
        | none => pure (.size n)
    expectSymbol ")"
    return [argument]
  else return []

/-- A member of an enumeration, perhaps with a number. -/
def enumMember (d : Dialect) : Parser TypeArgument := do
  let text ← stringLiteral d
  if ← symbol? "=" then return .quoted text (some (← signedNumber)) else return .quoted text none

/-- A member of a set. -/
def setMember : Parser TypeArgument := do
  match ← next with
  | .string .single text => return .quoted text none
  | _ => unexpected

/-- The modifiers in parentheses after the name of a type, at most `n`. Commas between them may be
left out. -/
def modifiersAtMost : Nat → Parser (List String)
  | 0 => unexpected
  | n + 1 => do
    match ← next with
    | .word text _ quote => return Ident.render ⟨text, quote⟩ :: (← modifiersAtMost n)
    | .number text _ => return text :: (← modifiersAtMost n)
    | .string .single text => return text :: (← modifiersAtMost n)
    | .symbol "," => modifiersAtMost n
    | .symbol ")" => return []
    | _ => unexpected

/-- The modifiers after the name of a type. -/
def modifiers? : Parser (List String) := do
  if ← symbol? "(" then modifiersAtMost (← get).length else return []

/-- Numeric types that may be followed by `UNSIGNED`. -/
def integerTypes : List String :=
  ["TINYINT", "INT2", "SMALLINT", "MEDIUMINT", "INT", "INT4", "INT8", "INTEGER", "BIGINT"]

/-- Types of one keyword without arguments. -/
def plainTypes : List String :=
  ["BOOLEAN", "BOOL", "REAL", "FLOAT4", "FLOAT32", "FLOAT64", "FLOAT8", "INT16", "INT32", "INT64",
    "INT128", "INT256", "UINT8", "UINT16", "UINT32", "UINT64", "UINT128", "UINT256", "TINYBLOB",
    "MEDIUMBLOB", "LONGBLOB", "UUID", "DATE", "DATE32", "INTERVAL", "JSON", "JSONB", "REGCLASS",
    "TEXT", "TINYTEXT", "MEDIUMTEXT", "LONGTEXT", "BYTEA", "TRIGGER"]

/-- Types of one keyword that may have a precision. -/
def precisionTypes : List String :=
  ["FLOAT", "CLOB", "BINARY", "VARBINARY", "BLOB", "BYTES", "DATETIME", "STRING"]

/-- Types of one keyword that may have a precision and a scale. -/
def decimalTypes : List String := ["NUMERIC", "DECIMAL", "DEC", "BIGNUMERIC", "BIGDECIMAL"]

/-- The keywords after a time or timestamp type. -/
def timeZone? : Parser String := do
  match ← oneOf? ["WITH", "WITHOUT"] with
  | some k =>
    expectKeywords ["TIME", "ZONE"]
    return " " ++ k ++ " TIME ZONE"
  | none => return ""

/-- A character type after its first keyword. -/
def characterType (word : String) : Parser DataType := do
  if ← keyword? "VARYING" then return .scalar (word ++ " VARYING") (← length?) ""
  else if ← keywords? ["LARGE", "OBJECT"] then
    return .scalar (word ++ " LARGE OBJECT") (← precision?) ""
  else return .scalar word (← length?) ""

/-- A type that is spelled by keywords, after its first keyword `k`. -/
def typeByKeyword? (d : Dialect) (k : String) : Parser (Option DataType) := do
  if plainTypes.contains k then return some (.scalar k [] "")
  else if precisionTypes.contains k then return some (.scalar k (← precision?) "")
  else if decimalTypes.contains k then return some (.scalar k (← precisionScale?) "")
  else if integerTypes.contains k then
    let arguments ← precision?
    return some (.scalar k arguments (if ← keyword? "UNSIGNED" then " UNSIGNED" else ""))
  else match k with
  | "DOUBLE" =>
    if ← keyword? "PRECISION" then return some (.scalar "DOUBLE PRECISION" [] "")
    else return some (.scalar "DOUBLE" [] "")
  | "VARCHAR" | "NVARCHAR" => return some (.scalar k (← length?) "")
  | "CHARACTER" | "CHAR" => return some (← characterType k)
  | "BIT" =>
    if ← keyword? "VARYING" then return some (.scalar "BIT VARYING" (← precision?) "")
    else return some (.scalar "BIT" (← precision?) "")
  | "TIME" | "TIMESTAMP" =>
    let arguments ← precision?
    return some (.scalar k arguments (← timeZone?))
  | "TIMETZ" | "TIMESTAMPTZ" => return some (.scalar k (← precision?) "")
  | "DATETIME64" =>
    let arguments ← inParentheses do
      let n ← unsigned
      let zone ← whenever (← symbol? ",") (stringLiteral d)
      return .size n :: (zone.map fun z => TypeArgument.quoted z none).toList
    return some (.scalar "DATETIME64" arguments "")
  | "FIXEDSTRING" => return some (.scalar k [.size (← inParentheses unsigned)] "")
  | "ENUM" | "ENUM8" | "ENUM16" =>
    return some (.scalar k (← inParentheses (commaSeparated (enumMember d))) "")
  | "SET" => return some (.scalar "SET" (← inParentheses (commaSeparated setMember)) "")
  | _ => return none

/-- The brackets of array types after a type. -/
def arrayBrackets (d : Dialect) (element : DataType) : Parser DataType := do
  let sizes ← repeated do
    whenever (← symbol? "[") do
      let size ← if d = .postgres then attempt unsigned else pure none
      expectSymbol "]"
      return size
  return sizes.foldl .array element

/-- A data type and the number of closing angle brackets that were taken for the types around it.
Array types nest at most `n` deep. -/
def nestedType (d : Dialect) : Nat → Parser (DataType × Bool)
  | 0 => unexpected
  | n + 1 => do
    let before ← get
    match ← next with
    | .word _ "ARRAY" none =>
      expectSymbol "<"
      let (element, closed) ← nestedType d n
      -- A double bracket closes this type and the one around it.
      let closed ←
        if closed then pure false
        else if ← symbol? ">" then pure false
        else if ← symbol? ">>" then pure true
        else unexpected
      return (← arrayBrackets d (.angleArray element), closed)
    | .word _ keyword _ =>
      match ← typeByKeyword? d keyword with
      | some type => return (← arrayBrackets d type, false)
      | none =>
        set before
        let name ← objectName
        return (← arrayBrackets d (.named name (← modifiers?)), false)
    | _ => unexpected

/-- A data type. -/
def dataType (d : Dialect) : Parser DataType := do
  let (type, closed) ← nestedType d ((← get).length + 1)
  if closed then unexpected else return type

end TypedSql.Sql.Grammar
