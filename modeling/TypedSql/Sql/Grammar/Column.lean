import TypedSql.Sql.Grammar.Query

/-!
# Grammar of columns and constraints

The columns of a table definition with their options, and the constraints of a table. Whether a
column may be null and which columns make up the primary key is kept as data; everything else is
kept as text, for its placeholders.
-/

namespace TypedSql.Sql.Grammar

/-! ## Parts of constraints -/

/-- When a constraint is checked, as text. Each property stands at most once. -/
def characteristics : Parser String := do
  let properties ← onceEach [
    firstOf [["NOT", "DEFERRABLE"], ["DEFERRABLE"]],
    afterKeyword? "INITIALLY" do
      return "INITIALLY " ++ (← expectOneOf ["DEFERRED", "IMMEDIATE"]),
    firstOf [["ENFORCED"], ["NOT", "ENFORCED"]]]
  return String.join (properties.map (" " ++ ·))
where
  /-- The first of some keyword sequences that is next. -/
  firstOf : List (List String) → Parser (Option String)
    | [] => return none
    | ks :: others => do
      match ← keywordText? ks with
      | some text => return some text
      | none => firstOf others

/-- What happens to the rows that refer to a row. -/
def referentialAction : Parser String := do
  match ← expectOneOf ["RESTRICT", "CASCADE", "SET", "NO"] with
  | "SET" => return "SET " ++ (← expectOneOf ["NULL", "DEFAULT"])
  | "NO" =>
    expectKeyword "ACTION"
    return "NO ACTION"
  | action => return action

/-- The actions of a reference, as text. -/
def referentialActions : Parser String := do
  let action (event : String) : Parser (Option String) := do
    whenever (← keywords? ["ON", event]) do
      return " ON " ++ event ++ " " ++ (← referentialAction)
  return String.join (← onceEach [action "DELETE", action "UPDATE"])

/-- A number after a keyword and perhaps another one, as text, if the keyword is next. -/
def numberAfter? (k : String) (filler : Option String) : Parser String := do
  unless ← keyword? k do return ""
  let filled ←
    match filler with
    | some f => keyword? f
    | none => pure false
  return " " ++ k ++ textIf filled (optional " " filler) ++ " " ++ (← signedNumber)

/-- A number after a keyword, or the keyword after `NO`, as text, if either is next. -/
def boundAfter? (k : String) : Parser String := do
  let bound ← numberAfter? k none
  if bound ≠ "" then return bound
  return textIf (← keywords? ["NO", k]) (" NO " ++ k)

/-- The options of a sequence, as text. -/
def sequenceOptions : Parser String := do
  let increment ← numberAfter? "INCREMENT" (some "BY")
  let low ← boundAfter? "MINVALUE"
  let high ← boundAfter? "MAXVALUE"
  let start ← numberAfter? "START" (some "WITH")
  let cache ← numberAfter? "CACHE" none
  let cycle ←
    if ← keywords? ["NO", "CYCLE"] then pure " NO CYCLE"
    else pure (textIf (← keyword? "CYCLE") " CYCLE")
  return increment ++ low ++ high ++ start ++ cache ++ cycle

/-! ## Options of columns -/

/-- An option that says nothing about nulls. -/
def silentOption (text : String) : Option ColumnOption := some ⟨.unsaid, text⟩

/-- An expression in parentheses, as text. -/
def parenthesisedExpr (l : Level) : Parser String := do
  return "(" ++ (← inParentheses l.expr).render ++ ")"

/-- A generated column after its keyword; nothing if the words do not fit. -/
def generated? (l : Level) : Parser (Option ColumnOption) := do
  let always ← keywords? ["ALWAYS", "AS", "IDENTITY"]
  let byDefault ← if always then pure false else keywords? ["BY", "DEFAULT", "AS", "IDENTITY"]
  if always || byDefault then
    let options ←
      if ← peekSymbol "(" then inParentheses sequenceOptions else pure ""
    return silentOption ("GENERATED " ++ (if always then "ALWAYS" else "BY DEFAULT") ++
      " AS IDENTITY" ++ textIf (options ≠ "") (" (" ++ options ++ " )"))
  else if ← keywords? ["ALWAYS", "AS"] then
    unless ← peekSymbol "(" do return none
    let value ← parenthesisedExpr l
    let mode ←
      if ← keyword? "STORED" then pure " STORED"
      else if l.isPostgres then unexpected
      else pure (textIf (← keyword? "VIRTUAL") " VIRTUAL")
    return silentOption ("GENERATED ALWAYS AS " ++ value ++ mode)
  else return none

/-- An option of a column, if one starts here. A few words are taken even where the dialect gives
them no meaning. -/
def columnOption? (l : Level) : Parser (Option ColumnOption) := do
  if ← keywords? ["CHARACTER", "SET"] then
    return silentOption ("CHARACTER SET " ++ nameText (← objectName))
  else if ← keywords? ["NOT", "NULL"] then return some ⟨.required, "NOT NULL"⟩
  else if ← keyword? "COMMENT" then
    match ← next with
    | .string .single text => return silentOption ("COMMENT " ++ betweenQuotes '\'' text)
    | _ => unexpected
  else if ← keyword? "NULL" then return some ⟨.allowed, "NULL"⟩
  else if ← keyword? "DEFAULT" then return silentOption ("DEFAULT " ++ (← l.expr).render)
  else if ← keywords? ["PRIMARY", "KEY"] then
    return some ⟨.required, "PRIMARY KEY" ++ (← characteristics)⟩
  else if ← keyword? "UNIQUE" then return silentOption ("UNIQUE" ++ (← characteristics))
  else if ← keyword? "REFERENCES" then
    let table ← objectName
    let columns ← columnList? false
    let actions ← referentialActions
    return silentOption ("REFERENCES " ++ nameText table ++ spacedIdents columns ++ actions ++
      (← characteristics))
  else if ← keyword? "CHECK" then return silentOption ("CHECK " ++ (← parenthesisedExpr l))
  else if ← allOf [keyword? "AUTO_INCREMENT", return l.isMysql] then
    return silentOption "AUTO_INCREMENT"
  discard (keyword? "AUTOINCREMENT")
  discard (keyword? "ASC")
  discard (keyword? "DESC")
  if ← allOf [keywords? ["ON", "UPDATE"], return l.isMysql] then
    return silentOption ("ON UPDATE " ++ (← l.expr).render)
  else if ← keyword? "GENERATED" then return ← generated? l
  else if ← allOf [keyword? "AS", return l.isMysql] then
    let value ← parenthesisedExpr l
    let mode ←
      if ← keyword? "STORED" then pure " STORED"
      else pure (textIf (← keyword? "VIRTUAL") " VIRTUAL")
    return silentOption ("AS " ++ value ++ mode)
  discard (keyword? "IDENTITY")
  return none

/-- The text of a collation after its keyword. -/
def collation : Parser String := do return " COLLATE " ++ nameText (← objectName)

/-- The options of a column, at most `n`, each perhaps named, and its last collation. -/
def columnOptions (l : Level) : Nat → String → Parser (String × List ColumnOption)
  | 0, last => return (last, [])
  | n + 1, last => do
    let name ← afterKeyword? "CONSTRAINT" identifier
    match ← columnOption? l with
    | some option =>
      let named := optional "CONSTRAINT " (name.map (·.render ++ " ")) ++ option.text
      let (last, options) ← columnOptions l n last
      return (last, { option with text := named } :: options)
    | none =>
      if name.isSome then unexpected
      else if ← onlyIf l.isMysql (keyword? "COLLATE") then columnOptions l n (← collation)
      else return (last, [])

/-- A column of a table. -/
def columnDecl (l : Level) : Parser ColumnDecl := do
  let name ← identifier
  let type ← dataType l.dialect
  let first ← afterKeyword? "COLLATE" collation
  let (collation, options) ← columnOptions l ((← get).length + 1) (first.getD "")
  return ⟨name, type, collation, options⟩

/-! ## Constraints of tables -/

/-- The method of an index, as text, if it is next. -/
def indexMethod? : Parser (Option String) := afterKeyword? "USING" do
  return " USING " ++ (← expectOneOf ["BTREE", "HASH"])

/-- The options of an index, as text. A comment is written as it is. -/
def indexOptions (d : Dialect) : Parser String := do
  let options ← repeated do
    match ← indexMethod? with
    | some method => return some method
    | none => afterKeyword? "COMMENT" do return " COMMENT '" ++ (← stringLiteral d) ++ "'"
  return String.join options

/-- The name of an index, if there is one. Any word will do. -/
def indexName? : Parser String := do return optional " " ((← attempt identifier).map Ident.render)

/-- The columns of a key, and the text of them with all that stands around them. -/
def keyColumns (d : Dialect) : Parser (List Ident × String) := do
  let name ← indexName?
  let method ← indexMethod?
  let columns ← columnList false
  let options ← indexOptions d
  return (columns, name ++ method.getD "" ++ " " ++ identList columns ++ options ++
    (← characteristics))

/-- Whether nulls are distinct, as text, if it is said. -/
def nullsDistinct? : Parser String := do
  let text ← afterKeyword? "NULLS" do
    let negated ← keyword? "NOT"
    expectKeyword "DISTINCT"
    return " NULLS " ++ notText negated ++ "DISTINCT"
  return text.getD ""

/-- A constraint of a table, if one starts here. -/
def tableConstraint? (l : Level) : Parser (Option TableConstraint) := do
  let name ← afterKeyword? "CONSTRAINT" identifier
  let constraint (key : List Ident) (text : String) : Option TableConstraint :=
    some ⟨key, optional "CONSTRAINT " (name.map (·.render ++ " ")) ++ text⟩
  let before ← get
  match (← next?).map Token.keyword with
  | some "UNIQUE" =>
    let index ← oneOf? ["KEY", "INDEX"]
    if index.isSome && l.isPostgres then unexpected
    let nulls ← nullsDistinct?
    let (_, text) ← keyColumns l.dialect
    return constraint [] ("UNIQUE" ++ nulls ++ optional " " index ++ text)
  | some "PRIMARY" =>
    expectKeyword "KEY"
    let (columns, text) ← keyColumns l.dialect
    return constraint columns ("PRIMARY KEY" ++ text)
  | some "FOREIGN" =>
    expectKeyword "KEY"
    let columns ← columnList false
    expectKeyword "REFERENCES"
    let table ← objectName
    let referred ← columnList false
    let actions ← referentialActions
    return constraint [] ("FOREIGN KEY " ++ identList columns ++ " REFERENCES " ++
      nameText table ++ identList referred ++ actions ++ (← characteristics))
  | some "CHECK" => return constraint [] ("CHECK " ++ (← parenthesisedExpr l))
  | some keyword =>
    if (keyword = "INDEX" ∨ keyword = "KEY") ∧ l.isMysql ∧ name.isNone then
      let index ← if (← peekKeyword) = "USING" then pure "" else indexName?
      let method ← indexMethod?
      let columns ← columnList false
      return constraint [] (keyword ++ index ++ method.getD "" ++ " " ++ identList columns)
    else if (keyword = "FULLTEXT" ∨ keyword = "SPATIAL") ∧ l.isMysql then
      if name.isSome then unexpected
      let word ← oneOf? ["KEY", "INDEX"]
      let index ← indexName?
      let columns ← columnList false
      return constraint [] (keyword ++ optional " " word ++ index ++ " " ++ identList columns)
    else if name.isSome then unexpected
    else
      set before
      return none
  | none => if name.isSome then unexpected else return none

end TypedSql.Sql.Grammar
