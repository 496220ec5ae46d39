import TypedSql.Word

/-!
# JSON values

Structured values as they stand in reports and descriptors, and the reading of records,
enumerations and numbers from them. A record is an object, whose unknown fields are ignored, or an
array of all its fields in order.
-/

namespace TypedSql

/-- A JSON value. The fields of an object keep their order. -/
inductive Json where
  | null
  | bool (value : Bool)
  | number (value : Int)
  /-- A number with a fraction or an exponent, as written. -/
  | decimal (text : String)
  | string (value : String)
  | array (items : List Json)
  | object (fields : List (String × Json))
  deriving Inhabited

namespace Json

/-- A natural number. -/
def nat (n : Nat) : Json := .number n

/-- A value that may be absent, written as null then. -/
def nullable {α : Type} (toJson : α → Json) : Option α → Json
  | some a => toJson a
  | none => .null

/-- A field that is left out when it has no value. -/
def optionalField {α : Type} (name : String) (toJson : α → Json) : Option α → List (String × Json)
  | some a => [(name, toJson a)]
  | none => []

/-- A flag that is left out when it is not set. -/
def flagField (name : String) : Bool → List (String × Json)
  | true => [(name, .bool true)]
  | false => []

/-! ## Reading -/

/-- A string. -/
def string? : Json → Option String
  | .string s => some s
  | _ => none

/-- A truth value. -/
def bool? : Json → Option Bool
  | .bool b => some b
  | _ => none

/-- A word. -/
def word? : Json → Option Nat
  | .number n => if 0 ≤ n ∧ n.toNat < wordCount then some n.toNat else none
  | _ => none

/-- An array of values of one kind. -/
def list? {α : Type} (item? : Json → Option α) : Json → Option (List α)
  | .array items => items.mapM item?
  | _ => none

/-- A name of an enumeration; it may also be written as the only field of an object, with null as
its value. -/
def name? : Json → Option String
  | .string s => some s
  | .object [(s, .null)] => some s
  | _ => none

/-- The fields of a record while it is read. -/
inductive Record where
  | named (fields : List (String × Json))
  | ordered (items : List Json)

/-- The fields of a record that has at most `count` of them. -/
def record? (count : Nat) : Json → Option Record
  | .object fields => some (.named fields)
  | .array items => if items.length ≤ count then some (.ordered items) else none
  | _ => none

namespace Record

/-- The value of the field at an index and with a name. -/
def get? (r : Record) (index : Nat) (name : String) : Option Json :=
  match r with
  | .named fields => fields.lookup name
  | .ordered items => items[index]?

/-- A field that must be there. -/
def required {α : Type} (r : Record) (index : Nat) (name : String) (value? : Json → Option α) :
    Option α := do
  value? (← r.get? index name)

/-- A field that may be null. In an object it may also be missing. -/
def optional {α : Type} (r : Record) (index : Nat) (name : String) (value? : Json → Option α) :
    Option (Option α) :=
  match r.get? index name with
  | some .null => some none
  | some j => (value? j).map some
  | none =>
    match r with
    | .named _ => some none
    | .ordered _ => none

/-- A flag that is not set when it is missing. -/
def flag (r : Record) (index : Nat) (name : String) : Option Bool :=
  match r.get? index name with
  | some j => j.bool?
  | none => some false

end Record

end Json

end TypedSql
