import TypedSql.Diagnostic
import TypedSql.Sql.Grammar

/-!
# Scripts

A file of SQL as a list of statements. The tokens of the file are cut at its semicolons, and every
run of tokens between two cuts is parsed on its own, so that a bad statement does not hide the
others.

* `pieces`: the tokens with the bytes that they take
* `runs`: the tokens between semicolons
* `Chunk`: the text of one statement, with its comments and placeholders
* `Script`: the statements of a file, each with its tree or the reason why it has none
-/

namespace TypedSql.Sql

open TypedSql.Text

/-! ## Runs of tokens -/

/-- A token with the offsets in bytes where it starts and where the next token does. -/
structure Piece where
  token : Token
  start : Nat
  stop : Nat
  deriving DecidableEq

/-- The tokens of a text with their offsets; the last one goes up to the end of the text. -/
def pieces (source : List Char) : List Lexeme → List Piece
  | [] => []
  | [x] => [⟨x.token, x.start.offset source, byteSize source⟩]
  | x :: y :: rest =>
    ⟨x.token, x.start.offset source, y.start.offset source⟩ :: pieces source (y :: rest)

/-- Cuts the tokens at the semicolons, which belong to no run. -/
def runs : List Piece → List (List Piece)
  | [] => [[]]
  | p :: ps =>
    if p.token = .symbol ";" then [] :: runs ps
    -- any other token goes to the front of the run that follows it
    else match runs ps with
      | r :: rs => (p :: r) :: rs
      | [] => [[p]]

/-! ## Chunks -/

/-- A placeholder as written, with its offset in bytes. -/
structure Placeholder where
  text : String
  offset : Nat
  deriving DecidableEq

/-- The text of one statement in a file. -/
structure Chunk where
  text : String
  /-- The offset of the text in bytes. -/
  start : Nat
  /-- The line on which the text starts. -/
  line : Nat
  /-- The comments above the statement. -/
  comments : List String
  placeholders : List Placeholder
  /-- Whether the text has a LIMIT with its offset before a comma. -/
  limitComma : Bool
  deriving DecidableEq

namespace Token

/-- The text of a comment, with its marks. -/
def commentText? : Token → Option String
  | .lineComment marker text => some (marker ++ trimRight text)
  | .blockComment text => some ("/*" ++ text ++ "*/")
  | _ => none

end Token

namespace Piece

/-- Whether the grammar sees the token. -/
def isSignificant (p : Piece) : Bool := !p.token.isGap

/-- The placeholder that the token is. -/
def placeholder? (p : Piece) : Option Placeholder :=
  match p.token with
  | .placeholder text => some ⟨text, p.start⟩
  | _ => none

end Piece

/-- Whether a comma follows the first token after LIMIT. -/
def hasLimitComma : List Token → Bool
  | a :: b :: c :: ts =>
    (a.keyword = "LIMIT" && b.keyword ≠ "LIMIT" && c = .symbol ",") || hasLimitComma (b :: c :: ts)
  | _ => false

/-- The line that an offset lies on. -/
def lineAt (source : List Char) (offset : Nat) : Nat :=
  ((takeBytes? offset source).getD source).count '\n' + 1

namespace Chunk

/-- The statement that a run of tokens holds: from its first significant token to its last one. A
run of gaps holds none. -/
def ofRun? (source : List Char) (run : List Piece) : Option Chunk :=
  let seen := run.filter Piece.isSignificant
  match seen.head?, seen.getLast? with
  | some first, some last =>
    -- gaps on either side are cut off, those inside stay in the text
    some {
      text := String.ofList (trimEnd (slice first.start last.stop source))
      start := first.start
      line := lineAt source first.start
      comments := (run.takeWhile (!·.isSignificant)).filterMap (·.token.commentText?)
      placeholders := seen.filterMap Piece.placeholder?
      limitComma := hasLimitComma (seen.map Piece.token) }
  | _, _ => none

end Chunk

/-- The statements of a text with the given tokens. -/
def chunks (source : List Char) (lexemes : List Lexeme) : List Chunk :=
  (runs (pieces source lexemes)).filterMap (Chunk.ofRun? source)

/-! ## Scripts -/

/-- A text that is no statement. -/
structure Rejection where
  text : String
  /-- The offset of the text in bytes. -/
  start : Nat
  line : Nat
  /-- The file that the text is from. -/
  path : Option String
  cause : ParseFailure
  deriving DecidableEq

namespace Rejection

/-- The message about a rejected text. It gives no details: what is wrong is seen from the text. -/
def toDiagnostic (r : Rejection) : Diagnostic where
  code := .sqlParseError
  severity := .error
  message := "Failed to parse SQL"
  location := r.path.map fun path => ⟨path, some r.line, none, some r.start⟩
  statement := if r.text = "" then none else some r.text

end Rejection

/-- A statement of a script. -/
structure ScriptStatement extends Chunk where
  tree : Statement

namespace Chunk

/-- Parses the text of a chunk on its own. -/
def parse (d : Dialect) (path : Option String) (c : Chunk) : Except Rejection ScriptStatement :=
  match parseStatement d c.text with
  | .ok tree => .ok { c with tree := tree }
  | .error cause => .error ⟨c.text, c.start, c.line, path, cause⟩

end Chunk

/-- A file of SQL. -/
structure Script where
  path : Option String
  source : String
  /-- The statements in the order of the text. -/
  entries : List (Except Rejection ScriptStatement)

namespace Script

/-- Parses a file. A text that has no tokens is rejected as a whole. -/
def parse (d : Dialect) (path : Option String) (source : String) : Script :=
  match lexemes d source with
  | .error _ => ⟨path, source, [.error ⟨source, 0, 1, path, .tokens⟩]⟩
  | .ok lexemes => ⟨path, source, (chunks source.toList lexemes).map (Chunk.parse d path)⟩

/-- The statements that parse. -/
def statements (s : Script) : List ScriptStatement := s.entries.filterMap Except.toOption

/-- The messages about the rejected texts. -/
def diagnostics (s : Script) : List Diagnostic :=
  s.entries.filterMap fun
    | .ok _ => none
    | .error r => some r.toDiagnostic

/-- The name of the file in messages. -/
def displayPath (s : Script) : String := s.path.getD "<input>"

end Script

end TypedSql.Sql
