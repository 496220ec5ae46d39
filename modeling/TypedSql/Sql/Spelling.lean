import TypedSql.Sql.Tree

/-!
# Spelling of names and literals

The canonical text of identifiers, literals and data types.
-/

namespace TypedSql.Sql

/-- Doubles the quotes in a text. A quote after a backslash and a quote that is doubled already stay
as they are. -/
def doubleQuotes (quote previous : Char) : List Char → List Char
  | [] => []
  | c :: cs =>
    if c = quote then
      if previous = '\\' then c :: doubleQuotes quote previous cs
      else match cs with
        | [] => [c, c]
        | d :: ds =>
          if d = quote then c :: c :: doubleQuotes quote c ds
          else c :: c :: doubleQuotes quote c (d :: ds)
    else c :: doubleQuotes quote c cs

/-- A text whose quotes are doubled. -/
def quotesDoubled (mark : Char) (text : String) : String :=
  String.ofList (doubleQuotes mark '\x00' text.toList)

/-- A text between quotes. -/
def betweenQuotes (mark : Char) (text : String) : String :=
  mark.toString ++ quotesDoubled mark text ++ mark.toString

/-- The items with `separator` between them. -/
def separated (separator : String) : List String → String
  | [] => ""
  | [s] => s
  | s :: ss => s ++ separator ++ separated separator ss

/-- The items with commas between them. -/
def commas (items : List String) : String := separated ", " items

/-- A list in parentheses. -/
def parenthesised (items : List String) : String := "(" ++ commas items ++ ")"

/-- `before` and the text, if there is one. -/
def optional (before : String) : Option String → String
  | some text => before ++ text
  | none => ""

/-- The text if the condition holds. -/
def textIf (condition : Bool) (text : String) : String := if condition then text else ""

namespace Ident

/-- The canonical text of an identifier. -/
def render (i : Ident) : String :=
  match i with
  | ⟨text, some mark⟩ => betweenQuotes mark text
  | ⟨text, none⟩ => text

end Ident

/-- A list of identifiers in parentheses. -/
def identList (names : List Ident) : String := parenthesised (names.map Ident.render)

/-- A list of identifiers in parentheses after a blank, unless it is empty. -/
def spacedIdents (names : List Ident) : String := textIf (!names.isEmpty) (" " ++ identList names)

/-- The canonical text of a name. -/
def nameText (name : ObjectName) : String := separated "." (name.map Ident.render)

/-! ## Literals -/

/-- The escapes of an escape string. -/
def escapeChar (c : Char) : List Char :=
  match c with
  | '\'' => ['\\', '\'']
  | '\\' => ['\\', '\\']
  | '\n' => ['\\', 'n']
  | '\t' => ['\\', 't']
  | '\r' => ['\\', 'r']
  | c => [c]

/-- The upper-case hexadecimal digits of a number, filled up with zeros to a width. -/
def hexDigits (width n : Nat) : List Char :=
  let digits := (Nat.toDigits 16 n).map Char.toUpper
  List.replicate (width - digits.length) '0' ++ digits

/-- The escapes of a string with Unicode escapes. -/
def unicodeChar (c : Char) : List Char :=
  if c = '\'' then ['\'', '\'']
  else if c = '\\' then ['\\', '\\']
  else if c.toNat < 0x80 then [c]
  else if c.toNat ≤ 0xFFFF then '\\' :: hexDigits 4 c.toNat
  else '\\' :: '+' :: hexDigits 6 c.toNat

/-- The canonical text of a string literal. -/
def stringText (kind : StringKind) (text : String) : String :=
  match kind with
  | .single => betweenQuotes '\'' text
  | .double => betweenQuotes '"' text
  | .national => "N'" ++ text ++ "'"
  | .escaped => "E'" ++ String.ofList (text.toList.flatMap escapeChar) ++ "'"
  | .unicode => "U&'" ++ String.ofList (text.toList.flatMap unicodeChar) ++ "'"
  | .hex => "X'" ++ text ++ "'"
  | .byteSingle => "B'" ++ text ++ "'"
  | .byteDouble => "B\"" ++ text ++ "\""
  | .dollar tag =>
    let mark := "$" ++ tag.getD "" ++ "$"
    mark ++ text ++ mark

namespace Literal

/-- The canonical text of a literal. -/
def render : Literal → String
  | .number text long => text ++ textIf long "L"
  | .string kind text => stringText kind text
  | .boolean true => "true"
  | .boolean false => "false"
  | .null => "NULL"
  | .placeholder text => text

end Literal

/-! ## Data types -/

namespace TypeArgument

/-- The canonical text of an entry in the parentheses of a type. -/
def render : TypeArgument → String
  | .size n => toString n
  | .length n unit => toString n ++ " " ++ unit
  | .maximum => "MAX"
  | .quoted text value => betweenQuotes '\'' text ++ optional " = " value

end TypeArgument

namespace DataType

/-- The canonical text of a type: its keywords, with the arguments in parentheses. -/
def render : DataType → String
  | .scalar before arguments after =>
    before ++ textIf (!arguments.isEmpty) (parenthesised (arguments.map TypeArgument.render)) ++
      after
  | .named name modifiers => nameText name ++ textIf (!modifiers.isEmpty) (parenthesised modifiers)
  | .array element size => element.render ++ "[" ++ optional "" (size.map toString) ++ "]"
  | .angleArray element => "ARRAY<" ++ element.render ++ ">"

end DataType

namespace TableAlias

/-- The canonical text of an alias with its columns. -/
def render (a : TableAlias) : String := a.name.render ++ a.columns

end TableAlias

namespace BinaryOp

/-- The spelling of an operator. -/
def render : BinaryOp → String
  | .and => "AND"
  | .or => "OR"
  | .other spelling => spelling

end BinaryOp

end TypedSql.Sql
