import TypedSql.Canonical.Naming
import TypedSql.Canonical.Tree
import TypedSql.Diagnostic
import TypedSql.Sql.Script

/-!
# Conversions

What the conversion of a syntax tree into a canonical one keeps along: the placeholders of the text
that no node has claimed yet, the number of placeholders met, and the constructs without canonical
form. These outlive an error, because the conversion goes on after a subquery that fails.

A placeholder claims the first unclaimed one of the text with its spelling. Clauses are converted in
the order of the text, so placeholders that are counted get the numbers of their places.
-/

namespace TypedSql.Canonical

open TypedSql.Text

/-- Why a statement has no canonical form. -/
inductive ConversionError where
  /-- The target of an INSERT is not one table. -/
  | insertTarget (name : Sql.ObjectName)
  /-- The target of an UPDATE is no table. -/
  | updateTarget
  /-- The target of a DELETE is no table. -/
  | deleteTarget
  /-- The name of a table has too many parts. -/
  | tableName (name : Sql.ObjectName)
  | emptyName
  /-- The dialect has no placeholders of this form. -/
  | placeholder (text : String)
  deriving DecidableEq

namespace ConversionError

/-- What is wrong with a statement that is put together wrongly. -/
def malformation? : ConversionError → Option String
  | .insertTarget name =>
    some ("INSERT expects exactly one target table, got '" ++ Sql.nameText name ++ "'")
  | .updateTarget => some "UPDATE expects a target table"
  | .deleteTarget => some "DELETE expects a target table"
  | .tableName name => some ("invalid table name '" ++ Sql.nameText name ++ "'")
  | .emptyName => some "empty name"
  | .placeholder _ => none

/-- The wording of an error. -/
def message (e : ConversionError) : String :=
  match e, e.malformation? with
  | .placeholder text, _ => "invalid placeholder '" ++ text ++ "'"
  | _, reason => "malformed statement: " ++ reason.getD ""

/-- The error as a diagnostic. -/
def toDiagnostic (e : ConversionError) : Diagnostic := .ofError .malformedStatement e.message

end ConversionError

/-- What does not change during a conversion. -/
structure Setting where
  /-- The dialect whose rules for names, types and placeholders hold. -/
  dialect : Dialect
  /-- The location of placeholders that are not found in the text, and of targets. -/
  fallback : Nat
  /-- Whether the offset of a LIMIT stands before its count. -/
  limitComma : Bool

/-- How far a conversion has come. -/
structure Progress where
  /-- The placeholders of the text that no node has claimed, in order. -/
  unclaimed : List Sql.Placeholder
  /-- The number of placeholders converted. -/
  seen : Nat
  /-- The constructs without canonical form. -/
  unsupported : List String
  deriving DecidableEq

namespace Progress

/-- The state before a conversion. -/
def start (placeholders : List Sql.Placeholder) : Progress := ⟨placeholders, 0, []⟩

end Progress

/-- A step of a conversion. What it does to the progress stays done when it fails. -/
abbrev Conversion := ReaderT Setting (ExceptT ConversionError (StateM Progress))

namespace Conversion

/-- Runs a conversion from a state. -/
def run {α : Type} (c : Conversion α) (s : Setting) (p : Progress) :
    Except ConversionError α × Progress := StateT.run (ExceptT.run (ReaderT.run c s)) p

/-- The dialect of the conversion. -/
def dialect : Conversion Dialect := return (← read).dialect

/-- The folded form of an identifier. -/
def ident (i : Sql.Ident) : Conversion String := return fold (← dialect) i

/-- The folded last part of a name. -/
def lastIdent (name : Sql.ObjectName) : Conversion String := do
  match lastPart? (← dialect) name with
  | some s => return s
  | none => throw .emptyName

/-- The name of a table: a name, perhaps after a schema, perhaps after a catalog, which is
dropped. -/
def tableName (name : Sql.ObjectName) : Conversion TableName := do
  match name.map (fold (← dialect)) with
  | [table] => return .unqualified table
  | [schema, table] => return .qualified schema table
  | [_, schema, table] => return .qualified schema table
  | _ => throw (.tableName name)

/-- Notes a construct without canonical form. -/
def note (construct : String) : Conversion Unit :=
  modify fun p => { p with unsupported := p.unsupported ++ [construct] }

/-- Notes a construct without canonical form, if it is there. -/
def noteIf (present : Bool) (construct : String) : Conversion Unit :=
  if present then note construct else return ()

/-- Converts two clauses in the order of the text. -/
def inOrder {α β : Type} (straight : Bool) (first : Conversion α) (second : Conversion β) :
    Conversion (α × β) := do
  if straight then
    let a ← first
    return (a, ← second)
  else
    let b ← second
    return (← first, b)

/-- Takes the first placeholder of a spelling from a list. -/
def takePlaceholder (text : String) :
    List Sql.Placeholder → Option (Sql.Placeholder × List Sql.Placeholder)
  | [] => none
  | p :: ps =>
    if p.text = text then some (p, ps)
    -- placeholders with another spelling stay where they are
    else (takePlaceholder text ps).map fun (q, rest) => (q, p :: rest)

/-- Claims the first unclaimed placeholder of a spelling and answers its offset. -/
def claim (text : String) : Conversion Nat := do
  let p ← get
  match takePlaceholder text p.unclaimed with
  | some (placeholder, rest) =>
    set { p with unclaimed := rest }
    return placeholder.offset
  | none => return (← read).fallback

/-- Converts a placeholder. -/
def param (text : String) : Conversion Node := do
  match paramNumber? (← dialect) text ((← get).seen + 1) with
  | some number =>
    -- counted before it is claimed, so the numbers follow the order of conversion
    modify fun p => { p with seen := p.seen + 1 }
    return .param number (← claim text)
  | none => throw (.placeholder text)

/-- Converts those of the placeholders that the dialect accepts. -/
def params : List String → Conversion (List Node)
  | [] => return []
  | text :: texts => do
    let node ← tryCatch (some <$> param text) fun _ => return none
    return node.toList ++ (← params texts)

/-- The placeholders of a text that is cut into the tokens of a dialect. -/
def placeholdersOf (d : Dialect) (text : String) : List String :=
  match Sql.tokens d text with
  | .error _ => []
  | .ok ts => ts.filterMap fun
    | .placeholder text => some text
    | _ => none

/-- Converts the placeholders of a text. -/
def paramsIn (text : String) : Conversion (List Node) := do
  params (placeholdersOf (← dialect) text)

/-- Notes a construct without canonical form and keeps its placeholders. -/
def skip (construct text : String) : Conversion Node := do
  note construct
  return .unsupported construct (← paramsIn text)

/-- Converts a query that a predicate tests. A query that fails is noted and left out. -/
def tested (query : Conversion Select) : Conversion (Option Node) :=
  tryCatch (return some (.select (← query))) fun _ => do
    note "subquery"
    return none

/-- A column of a result. -/
def target (name : Option String) (value : Node) : Conversion Node :=
  return .target name (some value) (← read).fallback

end Conversion

end TypedSql.Canonical
