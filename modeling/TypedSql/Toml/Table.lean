/-!
# TOML tables

Values, and tables while they are built. A table can be mentioned in three ways: by a header of its
own, as the parent of such a header, or by dotted keys. What may still be added to it depends on
that.
-/

namespace TypedSql.Toml

/-- A value. Tables keep the order of their keys. -/
inductive Value where
  | string (text : String)
  | integer (value : Int)
  /-- A number with a fraction or an exponent, as written. -/
  | float (text : String)
  | boolean (value : Bool)
  /-- A date, a time or both, as written. -/
  | datetime (text : String)
  | array (items : List Value)
  | table (fields : List (String × Value))
  deriving Inhabited

/-- How a table has been mentioned. -/
inductive TableKind where
  /-- It has a header of its own, or is the whole document. -/
  | explicit
  /-- It is the parent of a table with a header. -/
  | implicit
  /-- It is made by dotted keys. -/
  | dotted
  deriving DecidableEq

mutual

/-- What a key stands for. -/
inductive Item where
  | value (value : Value)
  | table (table : Table)
  /-- The tables of repeated headers in double brackets. -/
  | tables (tables : List Table)

/-- A table while it is built. -/
inductive Table where
  | mk (kind : TableKind) (items : List (String × Item))

end

namespace Table

/-- How the table has been mentioned. -/
def kind : Table → TableKind
  | mk kind _ => kind

/-- The items by key. -/
def items : Table → List (String × Item)
  | mk _ items => items

/-- A table without items. -/
def empty (kind : TableKind) : Table := mk kind []

/-- The item of a key. -/
def find? (t : Table) (key : String) : Option Item := t.items.lookup key

/-- Puts an item at its key in a list of items. -/
def setItem (key : String) (item : Item) : List (String × Item) → List (String × Item)
  | [] => [(key, item)]
  | (k, i) :: rest => if k = key then (key, item) :: rest else (k, i) :: setItem key item rest

/-- Puts an item at its key. -/
def set (t : Table) (key : String) (item : Item) : Table := mk t.kind (setItem key item t.items)

/-- Changes the table at a path. Missing tables on the way are made as `missing` says. A path leads
into the last of repeated tables; one of dotted keys never leads into a table with a header. -/
def modifyAt (missing : TableKind) (f : Table → Option Table) : List String → Table → Option Table
  | [], t => f t
  | key :: path, t =>
    match t.find? key with
    | none => do
      let child ← modifyAt missing f path (empty missing)
      return t.set key (.table child)
    | some (.table child) =>
      if missing = .dotted ∧ child.kind = .explicit then none
      else do
        let child ← modifyAt missing f path child
        return t.set key (.table child)
    | some (.tables ts) =>
      match ts.getLast? with
      | some child => do
        let child ← modifyAt missing f path child
        return t.set key (.tables (ts.dropLast ++ [child]))
      | none => none
    | some (.value _) => none

/-- Gives a value to a key that has none yet. -/
def insertNew (key : String) (value : Value) (t : Table) : Option Table :=
  match t.find? key with
  | some _ => none
  | none => some (t.set key (.value value))

/-- Gives a value to a dotted key: only tables made by dotted keys get values in this way. -/
def assign (path : List String) (value : Value) (t : Table) : Option Table := do
  let key ← path.getLast?
  match path.dropLast with
  | [] => insertNew key value t
  | parents =>
    modifyAt .dotted (fun t => if t.kind = .dotted then insertNew key value t else none) parents t

/-- Starts the table of a header. The header may follow those of its parts, but not another one with
the same name. -/
def openTable (path : List String) (t : Table) : Option Table := do
  let key ← path.getLast?
  modifyAt .implicit (fun t =>
    match t.find? key with
    | none => some (t.set key (.table (empty .explicit)))
    | some (.table child) =>
      if child.kind = .implicit then some (t.set key (.table (mk .explicit child.items))) else none
    | some _ => none) path.dropLast t

/-- Starts the next table of a header in double brackets. -/
def appendTable (path : List String) (t : Table) : Option Table := do
  let key ← path.getLast?
  modifyAt .implicit (fun t =>
    match t.find? key with
    | none => some (t.set key (.tables [empty .explicit]))
    | some (.tables ts) => some (t.set key (.tables (ts ++ [empty .explicit])))
    | some _ => none) path.dropLast t

end Table

mutual

/-- The value of an item. -/
def Item.toValue : Item → Value
  | .value v => v
  | .table t => .table t.toFields
  | .tables ts => .array (tableValues ts)

/-- The fields of a finished table. -/
def Table.toFields : Table → List (String × Value)
  | .mk _ items => itemValues items

/-- The values of items. -/
def itemValues : List (String × Item) → List (String × Value)
  | [] => []
  | (key, item) :: rest => (key, item.toValue) :: itemValues rest

/-- The values of repeated tables. -/
def tableValues : List Table → List Value
  | [] => []
  | t :: ts => .table t.toFields :: tableValues ts

end

end TypedSql.Toml
