import TypedSql.Toml.Reader
import TypedSql.Toml.Table

/-!
# TOML documents

The structure of a document: values, keys, headers, and the lines they stand on. `parse?` reads a
whole document.
-/

namespace TypedSql.Toml

/-! ## Keys -/

/-- A character of a key without quotes. -/
def isBareKey (c : Char) : Bool := c.isAlphanum || c = '_' || c = '-'

/-- One part of a key. -/
def keyPart : Reader String := do
  spaces
  let part ←
    if ← take? '"' then stringBody readBasic
    else if ← take? '\'' then stringBody readLiteral
    else
      let cs ← takeWhile isBareKey
      if cs.isEmpty then failure
      pure (String.ofList cs)
  spaces
  return part

/-- The parts of a key with periods between them, at most `n`. -/
def keyParts : Nat → Reader (List String)
  | 0 => failure
  | n + 1 => do
    let part ← keyPart
    if ← take? '.' then return part :: (← keyParts n) else return [part]

/-- How deep keys and values may nest. -/
def depthLimit : Nat := 79

/-- A key. -/
def key : Reader (List String) := keyParts depthLimit

/-! ## Values -/

/-- The items of an array after its opening bracket; every round takes a character. -/
def arrayItems (item : Reader Value) : Nat → Reader (List Value)
  | 0 => failure
  | n + 1 => do
    gaps
    if ← take? ']' then return []
    let value ← item
    gaps
    if ← take? ',' then return value :: (← arrayItems item n)
    expect ']'
    return [value]

/-- A key with its value. -/
def keyValue (item : Reader Value) : Reader (List String × Value) := do
  let path ← key
  expect '='
  spaces
  return (path, ← item)

/-- The fields of a table in braces; every round takes a character. -/
def inlineFields (item : Reader Value) : Nat → Reader (List (List String × Value))
  | 0 => failure
  | n + 1 => do
    let field ← keyValue item
    spaces
    if ← take? ',' then return field :: (← inlineFields item n)
    expect '\x7d'
    return [field]

/-- A table in braces after its opening brace. -/
def inlineTable (item : Reader Value) : Reader Value := do
  spaces
  let fields ← if ← take? '\x7d' then pure [] else inlineFields item ((← get).length + 1)
  let table ← StateT.lift <|
    fields.foldlM (fun t (path, value) => Table.assign path value t) (Table.empty .explicit)
  return .table table.toFields

/-- A number, a date or a time. -/
def number : Reader Value := do
  if let some text ← attempt datetime then return .datetime text
  if let some text ← attempt decimal then return .float text
  if let some text ← attempt special then return .float text
  return .integer (← integer)

/-- A truth value. -/
def boolean : Reader Value := do
  if ← word? "true" then return .boolean true
  else if ← word? "false" then return .boolean false
  else failure

/-- A value without parts. -/
def scalar : Reader Value := do
  match (← get).head? with
  | some '"' | some '\'' => return .string (← string)
  | some 't' | some 'f' => boolean
  | _ => number

/-- A value in which arrays and tables nest at most `n` deep. -/
def value : Nat → Reader Value
  | 0 => scalar
  | n + 1 => do
    if ← take? '[' then return .array (← arrayItems (value n) ((← get).length + 1))
    else if ← take? '\x7b' then inlineTable (value n)
    else scalar

/-! ## Documents -/

/-- A document while it is read: the table of everything, and the path of the last header. -/
structure Document where
  root : Table
  current : List String

namespace Document

/-- The document before its first line. -/
def empty : Document := ⟨.empty .explicit, []⟩

/-- Adds a key with its value under the last header. -/
def assign (d : Document) (path : List String) (value : Value) : Option Document := do
  let root ← Table.modifyAt .implicit (Table.assign path value) d.current d.root
  return { d with root := root }

/-- Adds a header. -/
def openTable (d : Document) (path : List String) : Option Document := do
  return ⟨← d.root.openTable path, path⟩

/-- Adds a header in double brackets. -/
def appendTable (d : Document) (path : List String) : Option Document := do
  return ⟨← d.root.appendTable path, path⟩

end Document

/-- A header after its first bracket. -/
def header (d : Document) : Reader Document := do
  if ← take? '[' then
    let path ← key
    expect ']'
    expect ']'
    StateT.lift (d.appendTable path)
  else
    let path ← key
    expect ']'
    StateT.lift (d.openTable path)

/-- The lines of a document; every round takes a character. -/
def lines : Nat → Document → Reader Document
  | 0, _ => failure
  | n + 1, d => do
    spaces
    match (← get).head? with
    | none => return d
    | some '#' | some '\n' | some '\r' =>
      lineEnd
      lines n d
    | some '[' =>
      expect '['
      let d ← header d
      lineEnd
      lines n d
    | some _ =>
      let (path, v) ← keyValue (value depthLimit)
      lineEnd
      let d ← StateT.lift (d.assign path v)
      lines n d

/-- The fields of a document. A byte order mark may stand before it. -/
def parse? (text : String) : Option (List (String × Value)) := do
  let cs := match text.toList with
    | '\uFEFF' :: cs => cs
    | cs => cs
  let (d, _) ← (lines (cs.length + 1) .empty).run cs
  return d.root.toFields

end TypedSql.Toml
