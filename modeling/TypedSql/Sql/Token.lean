import TypedSql.Dialect
import TypedSql.Text.Position

/-!
# Tokens

The words, literals, operators and gaps that the text of a statement is made of, and the place
where each begins.
-/

namespace TypedSql.Sql

/-- How a string literal is written. -/
inductive StringKind where
  | single
  | double
  | national
  | escaped
  | unicode
  | hex
  | byteSingle
  | byteDouble
  | dollar (tag : Option String)
  deriving DecidableEq

/-- A token of SQL text. -/
inductive Token where
  /-- A word, with the mark that opens it if it is quoted. An unquoted word is recognised as a
  keyword by its upper-case spelling `keyword`; a quoted one has no such spelling. -/
  | word (text keyword : String) (quote : Option Char)
  /-- A number as written; `long` when the mark `L` follows it. -/
  | number (text : String) (long : Bool)
  | string (kind : StringKind) (text : String)
  | placeholder (text : String)
  /-- A punctuation mark or an operator. -/
  | symbol (text : String)
  | blank
  /-- A comment to the end of the line, with the line's end if it has one. -/
  | lineComment (marker text : String)
  | blockComment (text : String)
  /-- A character with no meaning of its own. -/
  | other (char : Char)
  deriving DecidableEq

namespace Token

/-- The upper-case spelling by which an unquoted word is recognised as a keyword; empty for every
other token. -/
def keyword : Token → String
  | .word _ keyword _ => keyword
  | _ => ""

/-- Blanks and comments, which the grammar does not see. -/
def isGap : Token → Bool
  | .blank | .lineComment .. | .blockComment _ => true
  | _ => false

end Token

/-- A token and the place of its first character. -/
structure Lexeme where
  token : Token
  start : Text.Position
  deriving DecidableEq

end TypedSql.Sql
