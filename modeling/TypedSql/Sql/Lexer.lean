import TypedSql.Sql.Escape
import TypedSql.Sql.Token
import TypedSql.Text.CharClass

/-!
# Lexer

Cuts the text of a file into tokens. `Token.read` reads one token from the front of a text and
answers how many characters it takes; `scan` repeats it to the end of the text, so that every
character belongs to exactly one token.
-/

namespace TypedSql.Sql

open TypedSql.Text

/-- Why a text has no tokens. -/
inductive LexError where
  | unclosedString
  | unclosedIdentifier
  | unclosedComment
  deriving DecidableEq

/-! ## Words -/

/-- Letters outside ASCII whose upper-case form is made of ASCII letters. -/
def capitalsOf (c : Char) : List Char :=
  match c with
  | 'ı' => ['I']
  | 'ſ' => ['S']
  | 'ß' => ['S', 'S']
  | 'ﬀ' => ['F', 'F']
  | 'ﬁ' => ['F', 'I']
  | 'ﬂ' => ['F', 'L']
  | 'ﬃ' => ['F', 'F', 'I']
  | 'ﬄ' => ['F', 'F', 'L']
  | 'ﬅ' | 'ﬆ' => ['S', 'T']
  | c => [c.toUpper]

/-- The upper-case spelling of a word, exact for every word that spells a keyword. -/
def keywordSpelling (text : List Char) : String := String.ofList (text.flatMap capitalsOf)

/-- A word without quotes. -/
def Token.plainWord (text : List Char) : Token :=
  .word (String.ofList text) (keywordSpelling text) none

/-- Whether a word can start with the character. -/
def startsWord (d : Dialect) (c : Char) : Bool :=
  match d with
  | .mysql =>
    isAlphabetic c || c = '_' || c = '$' || c = '@' || (0x80 ≤ c.toNat && c.toNat ≤ 0xFFFF)
  | .postgres => isAlphabetic c || c = '_'

/-- Whether a word can go on with the character. -/
def continuesWord (d : Dialect) (c : Char) : Bool :=
  match d with
  | .mysql => startsWord .mysql c || c.isDigit
  | .postgres => isAlphabetic c || c.isDigit || c = '$' || c = '_'

/-- The mark that quotes identifiers. -/
def identifierQuote : Dialect → Char
  | .mysql => '\x60'
  | .postgres => '"'

/-- Whether a backslash escapes the next character of a plain string. -/
def escapesWithBackslash : Dialect → Bool
  | .mysql => true
  | .postgres => false

/-! ## Operators -/

/-- Whether the character can be part of an operator that users define. -/
def isOperatorPart (d : Dialect) (c : Char) : Bool :=
  match d with
  | .mysql => false
  | .postgres => "+-*/<>=~!@#%^&|`?".toList.contains c

/-- The operators that a further operator character turns into a user-defined one. -/
def extensible : List String :=
  ["-", "->", "->>", "%", "|", "|/", "||", "||/", "<", "<=", "<=>", "<>", "<<", "<@", ">", ">=",
    ">>", "&", "&&", "~", "~*", "~~", "~~*", "#", "#-", "#>", "#>>"]

/-- All operators and punctuation marks, longer ones before their beginnings. -/
def symbols (d : Dialect) : List String :=
  ["->>", "->", "-", "/", "+", "*", "%", "||/", "||", "|/", "|", "=>", "==", "=", "!~~*", "!~~",
    "!~*", "!~", "!=", "!!", "!", "<=>", "<=", "<>", "<<", "<@", "<", ">=", ">>", ">", "::", ":=",
    ":", ";", "\\", "(", ")", ",", "[", "]", "&&", "&", "^@", "^", "\x7b", "\x7d", "~~*", "~~",
    "~*", "~"] ++
  match d with
  | .mysql => []
  | .postgres => ["#>>", "#>", "#-", "#"]

/-- The operator or mark at the front of a text, with the operator characters that extend it. An
inequality has one spelling. -/
def readSymbol? (d : Dialect) (cs : List Char) : Option (String × Nat) :=
  (symbols d).findSome? fun s =>
    if s.toList.isPrefixOf cs then
      let n := s.toList.length
      let more := if extensible.contains s then (cs.drop n).takeWhile (isOperatorPart d) else []
      some (if s = "!=" then "<>" else s ++ String.ofList more, n + more.length)
    else none

/-! ## Numbers -/

/-- The exponent at the front of a text: `E`, perhaps a sign, and digits. -/
def readExponent (cs : List Char) : List Char :=
  match cs with
  | e :: cs =>
    if e = 'e' ∨ e = 'E' then
      match cs with
      | s :: ds =>
        if s = '+' ∨ s = '-' then
          let digits := ds.takeWhile Char.isDigit
          if digits.isEmpty then [] else e :: s :: digits
        else
          let digits := cs.takeWhile Char.isDigit
          if digits.isEmpty then [] else e :: digits
      | [] => []
    else []
  | [] => []

/-- Whether the text goes on with the mark of an exponent. -/
def startsExponent (cs : List Char) : Bool :=
  match cs with
  | c :: _ => c = 'e' || c = 'E'
  | [] => false

/-- Reads a number, or whatever else starts with a digit or a period: a hexadecimal literal, a lone
period, or (in MySQL) a word that starts with digits. -/
def readNumber (d : Dialect) (cs : List Char) : Token × Nat :=
  let whole := cs.takeWhile Char.isDigit
  let rest := cs.drop whole.length
  if whole = ['0'] ∧ rest.head? = some 'x' then
    let digits := (rest.drop 1).takeWhile fun c => (digitValue? c).isSome
    (.string .hex (String.ofList digits), 2 + digits.length)
  else
    -- a decimal number, whose period may also stand first or last
    let point := if rest.head? = some '.' then ['.'] else []
    let rest := rest.drop point.length
    let fraction := rest.takeWhile Char.isDigit
    let rest := rest.drop fraction.length
    let mantissa := whole ++ point ++ fraction
    if mantissa = ['.'] then (.symbol ".", 1)
    else
      let exponent := readExponent rest
      -- in MySQL letters after the digits make the whole a word, unless they start an exponent
      let word :=
        if d = .mysql ∧ ¬ startsExponent rest then rest.takeWhile (continuesWord d) else []
      if word ≠ [] then (.plainWord (mantissa ++ word), mantissa.length + word.length)
      else
        let text := mantissa ++ exponent
        -- a capital L marks a long number and is no part of its text
        let long := (cs.drop text.length).head? = some 'L'
        (.number (String.ofList text) long, text.length + if long then 1 else 0)

/-! ## Tokens -/

/-- Reads what starts with the sign `@`: in MySQL the name of a variable, elsewhere an operator. The
name takes any character but a space after the sign. -/
def readAt (d : Dialect) (cs : List Char) : Token × Nat :=
  let name (text rest : List Char) : Token × Nat :=
    let more := rest.takeWhile (continuesWord d)
    (.plainWord (text ++ more), text.length + more.length)
  match cs with
  | '>' :: _ => (.symbol "@>", 2)
  | '?' :: _ => (.symbol "@?", 2)
  | '@' :: c :: rest =>
    if c ≠ ' ' ∧ startsWord d '@' then name ['@', '@', c] rest else (.symbol "@@", 2)
  | '@' :: [] => (.symbol "@@", 2)
  | c :: rest =>
    if c ≠ ' ' ∧ startsWord d '@' then name ['@', c] rest else (.symbol "@", 1)
  | [] => (.symbol "@", 1)

/-- Reads what starts with a question mark: in MySQL a placeholder, in PostgreSQL an operator, whose
bare form hides the character after it. -/
def readQuestion (d : Dialect) (cs : List Char) : Token × Nat :=
  match d with
  | .mysql =>
    let digits := cs.takeWhile isNumeric
    (.placeholder (String.ofList ('?' :: digits)), 1 + digits.length)
  | .postgres =>
    match cs with
    | '|' :: _ => (.symbol "?|", 2)
    | '&' :: _ => (.symbol "?&", 2)
    | _ :: _ => (.symbol "?", 2)
    | [] => (.symbol "?", 1)

/-- Reads what starts with a dollar sign: a string between dollar signs or a placeholder. -/
def readDollar (cs : List Char) : Except LexError (Token × Nat) :=
  match cs with
  | '$' :: rest =>
    match readUntil ['$', '$'] rest with
    | some (text, n) => .ok (.string (.dollar none) (String.ofList text), n + 2)
    | none => .error .unclosedString
  | cs =>
    -- a tag between two dollar signs opens a string, a tag after one is the name of a placeholder
    let tag := cs.takeWhile fun c => isAlphanumeric c || c = '_'
    let rest := cs.drop tag.length
    if rest.head? = some '$' then
      match readTagged tag 0 (rest.drop 1) with
      | some (text, n) =>
        .ok (.string (.dollar (some (String.ofList tag))) (String.ofList text), n + tag.length + 2)
      | none => .error .unclosedString
    else .ok (.placeholder (String.ofList ('$' :: tag)), tag.length + 1)

/-- Reads a comment to the end of the line; `n` characters mark its start. The line feed belongs to
the comment, and a carriage return does not end it. -/
def readLineComment (marker : String) (n : Nat) (cs : List Char) : Token × Nat :=
  let text := cs.takeWhile (· ≠ '\n')
  let text := text ++ (cs.drop text.length).take 1
  (.lineComment marker (String.ofList text), n + text.length)

/-- Reads a string whose opening quote is the `n`th character. -/
def readString (kind : StringKind) (n : Nat) (r : Reading) : Except LexError (Token × Nat) :=
  match r with
  | some (text, m) => .ok (.string kind (String.ofList text), n + m)
  | none => .error .unclosedString

/-- The string that a letter before a quote introduces, if it is one. -/
def readPrefixed? (d : Dialect) (c : Char) (cs : List Char) :
    Option (Except LexError (Token × Nat)) :=
  match c.toUpper, cs with
  | 'B', '\'' :: cs => some (readString .byteSingle 2 (readQuoted '\'' false cs))
  | 'B', '"' :: cs => some (readString .byteDouble 2 (readQuoted '"' false cs))
  | 'N', '\'' :: cs => some (readString .national 2 (readQuoted '\'' true cs))
  | 'E', '\'' :: cs => some (readString .escaped 2 (readEscaping readEscape 0 cs))
  | 'X', '\'' :: cs => some (readString .hex 2 (readQuoted '\'' true cs))
  | 'U', '&' :: '\'' :: cs =>
    if d = .postgres then some (readString .unicode 3 (readEscaping readCodePoint 0 cs)) else none
  | _, _ => none

/-- The token at the front of the text `c :: cs`, and the number of characters that it takes. -/
def Token.read (d : Dialect) (c : Char) (cs : List Char) : Except LexError (Token × Nat) :=
  if c = ' ' ∨ c = '\t' ∨ c = '\n' then .ok (.blank, 1)
  else if c = '\r' then .ok (.blank, if cs.head? = some '\n' then 2 else 1)
  -- a letter before a quote goes before the words that start with that letter
  else match readPrefixed? d c cs with
  | some r => r
  | none =>
    if c = '\'' then readString .single 1 (readQuoted '\'' (escapesWithBackslash d) cs)
    else if c = identifierQuote d then
      match readQuoted c false cs with
      | some (text, n) => .ok (.word (String.ofList text) "" (some c), n + 1)
      | none => .error .unclosedIdentifier
    else if c = '"' then readString .double 1 (readQuoted '"' (escapesWithBackslash d) cs)
    else if c.isDigit ∨ c = '.' then .ok (readNumber d (c :: cs))
    else if c = '-' ∧ cs.head? = some '-' then .ok (readLineComment "--" 2 (cs.drop 1))
    else if c = '/' ∧ cs.head? = some '*' then
      match readComment 1 ' ' (cs.drop 1) with
      | some (text, n) => .ok (.blockComment (String.ofList text.dropLast), n + 2)
      | none => .error .unclosedComment
    -- elsewhere the sign is an operator
    else if c = '#' ∧ d = .mysql then .ok (readLineComment "#" 1 cs)
    else if c = '@' then .ok (readAt d cs)
    else if c = '?' then .ok (readQuestion d cs)
    else match readSymbol? d (c :: cs) with
    | some (s, n) => .ok (.symbol s, n)
    | none =>
      -- what starts no operator is a word, a placeholder, a gap of another kind, or unknown
      if startsWord d c then
        let more := cs.takeWhile (continuesWord d)
        .ok (.plainWord (c :: more), more.length + 1)
      else if c = '$' then readDollar cs
      else if isBlank c then .ok (.blank, 1)
      else .ok (.other c, 1)

/-- The tokens of a text that starts at `p`; its first `skip` characters belong to a token already
read. -/
def scan (d : Dialect) (p : Position) (skip : Nat) : List Char → Except LexError (List Lexeme)
  | [] => .ok []
  | c :: cs =>
    match skip with
    | n + 1 => scan d (p.after c) n cs
    | 0 =>
      match Token.read d c cs with
      | .error e => .error e
      | .ok (t, n) => (scan d (p.after c) (n - 1) cs).map (⟨t, p⟩ :: ·)

/-- The tokens of a text, in order. -/
def lexemes (d : Dialect) (text : String) : Except LexError (List Lexeme) :=
  scan d .first 0 text.toList

/-- The tokens of a text without their places. -/
def tokens (d : Dialect) (text : String) : Except LexError (List Token) :=
  (lexemes d text).map (·.map Lexeme.token)

end TypedSql.Sql
