import TypedSql.Sql.Grammar.Definition

/-!
# Grammar of functions, procedures and triggers

The statements that create or drop what runs inside the database. They are kept as texts, for their
placeholders.
-/

namespace TypedSql.Sql.Grammar

/-! ## Parameters -/

/-- A parameter of a function, as text. A first type with a name of its own is the name of the
parameter. -/
def parameter (l : Level) : Parser String := do
  let mode ← oneOf? ["IN", "OUT", "INOUT"]
  let first ← dataType l.dialect
  let (name, type) ←
    match first with
    | .named (name :: _) _ => pure (some name, ← dataType l.dialect)
    | type => pure (none, type)
  let hasDefault ← if ← keyword? "DEFAULT" then pure true else symbol? "="
  let default ← whenever hasDefault l.expr
  return optional "" (mode.map (· ++ " ")) ++ optional "" (name.map (·.render ++ " ")) ++
    type.render ++ optional " = " (exprText? default)

/-- A function with the types of its parameters, as text. Empty parentheses mean nothing. -/
def functionSignature (l : Level) : Parser String := do
  let name ← objectName
  let parameters ← whenever (← symbol? "(") do
    let parameters ← commaSeparatedUntil ")" (parameter l)
    expectSymbol ")"
    return parameters
  let parameters := parameters.getD []
  return nameText name ++ textIf (!parameters.isEmpty) (parenthesised parameters)

/-! ## Functions -/

/-- The text of a function as a literal after `AS`. -/
def functionBody (d : Dialect) : Parser String := do
  match ← peek? with
  | some (.string (.dollar tag) text) =>
    discard next
    return stringText (.dollar tag) text
  | _ => return betweenQuotes '\'' (← stringLiteral d)

/-- What a function answers to nulls, if it is said next. -/
def nullBehavior? : Parser (Option String) := do
  match ← keywordText? ["CALLED", "ON", "NULL", "INPUT"] with
  | some text => return some text
  | none =>
    match ← keywordText? ["RETURNS", "NULL", "ON", "NULL", "INPUT"] with
    | some text => return some text
    | none => oneOf? ["STRICT"]

/-- The properties of a function, each of which stands at most once, as text. -/
def functionProperties (l : Level) : Parser String := do
  let body : Parser (Option String) := do
    if ← keyword? "AS" then return some ("AS " ++ (← functionBody l.dialect))
    else afterKeyword? "RETURN" do return "RETURN " ++ (← l.expr).render
  let properties ← onceEach [
    body,
    afterKeyword? "LANGUAGE" do return "LANGUAGE " ++ (← identifier).render,
    oneOf? ["IMMUTABLE", "STABLE", "VOLATILE"],
    nullBehavior?,
    afterKeyword? "PARALLEL" do
      return "PARALLEL " ++ (← expectOneOf ["UNSAFE", "RESTRICTED", "SAFE"])]
  return String.join (properties.map (" " ++ ·))

/-- A CREATE FUNCTION after its keywords; `opening` is its text before the word FUNCTION. -/
def createFunction (l : Level) (opening : String) : Parser Statement := do
  if l.isMysql then unexpected
  let name ← objectName
  expectSymbol "("
  let parameters ← commaSeparatedUntil ")" (parameter l)
  expectSymbol ")"
  let type ← afterKeyword? "RETURNS" (dataType l.dialect)
  return .unmapped "CreateFunction" (opening ++ "FUNCTION " ++ nameText name ++
    parenthesised parameters ++ optional " RETURNS " (type.map DataType.render) ++
    (← functionProperties l))

/-- The functions or procedures of a DROP after its keywords; `text` are the keywords. -/
def dropRoutines (l : Level) (kind text : String) : Parser Statement := do
  let (_, guard) ← ifExists?
  let routines ← commaSeparated (functionSignature l)
  let behavior ← oneOf? ["CASCADE", "RESTRICT"]
  return .unmapped kind (text ++ guard ++ " " ++ commas routines ++ optional " " behavior)

/-! ## Procedures -/

/-- The parameters of a procedure after the opening parenthesis, at most `n`. Commas may stand
without a parameter. -/
def procedureParameters (l : Level) : Nat → Parser (List String)
  | 0 => unexpected
  | n + 1 => do
    let parameter ←
      match ← peek? with
      | some (.word ..) => do
        let name ← identifier
        pure (some (name.render ++ " " ++ (← dataType l.dialect).render))
      | _ => pure none
    let comma ← symbol? ","
    if ← symbol? ")" then return parameter.toList
    else if comma then return parameter.toList ++ (← procedureParameters l n)
    else unexpected

/-- A CREATE PROCEDURE after its keywords; `opening` is its text before the word PROCEDURE. -/
def createProcedure (l : Level) (opening : String) : Parser Statement := do
  let name ← objectName
  let parameters ← whenever (← symbol? "(") do
    if ← symbol? ")" then return [] else procedureParameters l (← get).length
  expectKeywords ["AS", "BEGIN"]
  let body ← l.statements ((← get).length + 1)
  expectKeyword "END"
  let parameters := parameters.getD []
  return .unmapped "CreateProcedure" (opening ++ "PROCEDURE " ++ nameText name ++
    textIf (!parameters.isEmpty) (" " ++ parenthesised parameters) ++ " AS BEGIN " ++
    separated "; " (body.map Statement.render) ++ " END")

/-! ## Triggers -/

/-- An event that fires a trigger, as text. -/
def triggerEvent : Parser String := do
  let k ← expectOneOf ["INSERT", "UPDATE", "DELETE", "TRUNCATE"]
  let columns ← whenever (← onlyIf (k = "UPDATE") (keyword? "OF")) (commaSeparated identifier)
  return k ++ optional " OF " (columns.map fun cs => commas (cs.map Ident.render))

/-- A name for the rows before or after a change, if one is next. -/
def transitionTable? : Parser (Option String) := do
  match ← oneOf? ["OLD", "NEW"] with
  | none => return none
  | some k =>
    unless ← keyword? "TABLE" do return none
    let word ← keyword? "AS"
    return some (" " ++ k ++ " TABLE" ++ textIf word " AS" ++ " " ++ nameText (← objectName))

/-- A CREATE TRIGGER after its keywords, which are `opening`. -/
def createTrigger (l : Level) (opening : String) : Parser Statement := do
  let name ← objectName
  let time ← expectOneOf ["BEFORE", "AFTER", "INSTEAD"]
  if time = "INSTEAD" then expectKeyword "OF"
  let event ← triggerEvent
  let others ← repeated (afterKeyword? "OR" triggerEvent)
  expectKeyword "ON"
  let table ← objectName
  let referenced ← afterKeyword? "FROM" lenientName
  let characteristics ← characteristics
  let transitions ← afterKeyword? "REFERENCING" (repeated transitionTable?)
  expectKeyword "FOR"
  let each ← keyword? "EACH"
  let scope ← expectOneOf ["ROW", "STATEMENT"]
  let condition ← afterKeyword? "WHEN" l.expr
  expectKeyword "EXECUTE"
  let sort ← expectOneOf ["FUNCTION", "PROCEDURE"]
  let function ← functionSignature l
  return .unmapped "CreateTrigger" (opening ++ " " ++ nameText name ++ " " ++ time ++
    textIf (time = "INSTEAD") " OF" ++ " " ++ separated " OR " (event :: others) ++ " ON " ++
    nameText table ++ optional " FROM " (referenced.join.map nameText) ++ characteristics ++
    optional " REFERENCING" (transitions.map String.join) ++ " FOR " ++ textIf each "EACH " ++
    scope ++ optional " WHEN " (exprText? condition) ++ " EXECUTE " ++ sort ++ " " ++ function)

/-- A DROP of what belongs to a table, after its keywords; `text` are the keywords. -/
def dropOfTable (kind text : String) (name : Parser String) : Parser Statement := do
  let (_, guard) ← ifExists?
  let name ← name
  expectKeyword "ON"
  let table ← objectName
  let behavior ← oneOf? ["CASCADE", "RESTRICT"]
  return .unmapped kind
    (text ++ guard ++ " " ++ name ++ " ON " ++ nameText table ++ optional " " behavior)

end TypedSql.Sql.Grammar
