import TypedSql.Toml.Document

/-!
# Writing TOML text

Strings and keys in the form that needs the fewest escapes.
-/

namespace TypedSql.Toml

/-- The longest run of a character; `run` is the length of the run being read. -/
def longestRun (c : Char) (run : Nat) : List Char → Nat
  | [] => run
  | d :: cs => if d = c then longestRun c (run + 1) cs else max run (longestRun c 0 cs)

/-- Whether a text holds a control character that only an escape can stand for. -/
def needsEscape (allowed : List Char) (cs : List Char) : Bool :=
  cs.any fun c => (c.toNat < 0x20 || c.toNat = 0x7F) && !allowed.contains c

/-- The escape of a character, if it has to be escaped. A quote has to be after `run` quotes if
there may be at most `runs` in a row. -/
def escape? (lines : Bool) (runs run : Nat) (c : Char) : Option (List Char) :=
  match c with
  | '"' => if runs ≤ run then some ['\\', '"'] else none
  | '\\' => some ['\\', '\\']
  | '\t' => some ['\\', 't']
  | '\n' => if lines then none else some ['\\', 'n']
  | '\r' => some ['\\', 'r']
  | '\x08' => some ['\\', 'b']
  | '\x0c' => some ['\\', 'f']
  | c =>
    if c.toNat < 0x20 || c.toNat = 0x7F then
      some ('\\' :: 'u' :: List.replicate (4 - (Nat.toDigits 16 c.toNat).length) '0' ++
        (Nat.toDigits 16 c.toNat).map Char.toUpper)
    else none

/-- The text between the quotes of a basic string; `run` is the number of quotes just written. -/
def escapeBasic (lines : Bool) (run : Nat) : List Char → List Char
  | [] => []
  | c :: cs =>
    match escape? lines (if lines then 2 else 0) run c with
    | some text => text ++ escapeBasic lines 0 cs
    | none => c :: escapeBasic lines (if c = '"' then run + 1 else 0) cs

/-- The opening quotes of a string of several lines; a line end after them does not count. -/
def openLines (quotes : String) (cs : List Char) : String :=
  if cs.contains '\n' then quotes ++ "\n" else quotes

/-- A string. A basic one on one line is the first choice, then a literal one, then these on several
lines; only where none of them goes without escapes, escapes are used. -/
def writeString (s : String) : String :=
  let cs := s.toList
  let lines := cs.contains '\n'
  let plain := !needsEscape ['\t', '\n'] cs
  let double := longestRun '"' 0 cs
  let single := longestRun '\'' 0 cs
  let basic (lines : Bool) : String := String.ofList (escapeBasic lines 0 cs)
  let slash := cs.contains '\\'
  if plain && !slash && double = 0 && !lines then "\"" ++ basic false ++ "\""
  else if plain && single = 0 && !lines then "'" ++ s ++ "'"
  else if plain && !slash && double ≤ 2 then openLines "\"\"\"" cs ++ basic true ++ "\"\"\""
  else if plain && single ≤ 2 then openLines "'''" cs ++ s ++ "'''"
  else if lines then openLines "\"\"\"" cs ++ basic true ++ "\"\"\""
  else "\"" ++ basic false ++ "\""

/-- A key, without quotes if it can be. -/
def writeKey (s : String) : String :=
  let cs := s.toList
  let plain := !needsEscape ['\t'] cs
  if !cs.isEmpty && cs.all isBareKey then s
  else if plain && !cs.contains '\\' && !cs.contains '"' then
    "\"" ++ String.ofList (escapeBasic false 0 cs) ++ "\""
  else if plain && !cs.contains '\'' then "'" ++ s ++ "'"
  else "\"" ++ String.ofList (escapeBasic false 0 cs) ++ "\""

/-- An array of strings. More than one string are written on a line each. -/
def writeStrings (items : List String) : String :=
  match items with
  | [] => "[]"
  | [s] => "[" ++ writeString s ++ "]"
  | items => "[\n" ++ String.join (items.map fun s => "    " ++ writeString s ++ ",\n") ++ "]"

end TypedSql.Toml
