import TypedSql.Sql.Escape
import TypedSql.Sql.Keyword
import TypedSql.Sql.Spelling
import TypedSql.Word

/-!
# Parsers

A parser takes tokens from the front of a list and answers a tree, or says why there is none. The
loops below are bounded by the number of tokens that are left, since every round takes one.
-/

namespace TypedSql.Sql

/-- Why tokens are not a statement. -/
inductive SyntaxError where
  | unexpected
  /-- The constructs nest too deeply. -/
  | tooDeep
  deriving DecidableEq

/-- A parser over tokens without gaps. -/
abbrev Parser := StateT (List Token) (Except SyntaxError)

/-- Refuses the tokens. -/
def unexpected {α : Type} : Parser α := throw .unexpected

/-! ## Single tokens -/

/-- The next token, which stays where it is. -/
def peek? : Parser (Option Token) := do return (← get).head?

/-- The keyword spelling of the next token; empty if it is no plain word. -/
def peekKeyword : Parser String := do
  return match (← get).head? with
    | some t => t.keyword
    | none => ""

/-- The keyword spelling of the token after the next `n`. -/
def peekKeywordAt (n : Nat) : Parser String := do
  return match (← get)[n]? with
    | some t => t.keyword
    | none => ""

/-- Whether the next token is the given mark. -/
def peekSymbol (s : String) : Parser Bool := do return (← get).head? = some (.symbol s)

/-- Takes the next token, if there is one. -/
def next? : Parser (Option Token) := do
  match ← get with
  | t :: ts => set ts; return some t
  | [] => return none

/-- Takes the next token. -/
def next : Parser Token := do
  match ← next? with
  | some t => return t
  | none => unexpected

/-- Takes the given mark, if it is next. -/
def symbol? (s : String) : Parser Bool := do
  match ← get with
  | t :: ts => if t = .symbol s then set ts; return true else return false
  | [] => return false

/-- Takes the given mark. -/
def expectSymbol (s : String) : Parser Unit := do
  unless ← symbol? s do unexpected

/-- Takes the given keyword, if it is next. -/
def keyword? (k : String) : Parser Bool := do
  match ← get with
  | t :: ts => if t.keyword = k then set ts; return true else return false
  | [] => return false

/-- Whether a list starts with the given keywords. -/
def startsWithKeywords : List String → List Token → Bool
  | [], _ => true
  | _ :: _, [] => false
  | k :: ks, t :: ts => t.keyword = k && startsWithKeywords ks ts

/-- Takes the given keywords, if all of them are next. -/
def keywords? (ks : List String) : Parser Bool := do
  let ts ← get
  if startsWithKeywords ks ts then
    set (ts.drop ks.length)
    return true
  else return false

/-- Takes one of the given keywords, if one is next. -/
def oneOf? (ks : List String) : Parser (Option String) := do
  let k ← peekKeyword
  if k ≠ "" ∧ ks.contains k then
    discard next?
    return some k
  else return none

/-- Takes the given keyword. -/
def expectKeyword (k : String) : Parser Unit := do
  unless ← keyword? k do unexpected

/-- Takes the given keywords. -/
def expectKeywords : List String → Parser Unit
  | [] => return
  | k :: ks => do
    expectKeyword k
    expectKeywords ks

/-- Takes one of the given keywords. -/
def expectOneOf (ks : List String) : Parser String := do
  match ← oneOf? ks with
  | some k => return k
  | none => unexpected

/-! ## Combinators -/

/-- Tries a parser and takes nothing if it refuses. Nesting too deeply is never forgiven. -/
def attempt {α : Type} (p : Parser α) : Parser (Option α) := fun ts =>
  match p ts with
  | .ok (a, rest) => .ok (some a, rest)
  | .error .unexpected => .ok (none, ts)
  | .error .tooDeep => .error .tooDeep

/-- Forgives nesting too deeply: it is refused like any other tokens. -/
def forgiving {α : Type} (p : Parser α) : Parser α := fun ts =>
  match p ts with
  | .error .tooDeep => .error .unexpected
  | r => r

/-- Runs a parser if the condition holds. -/
def whenever {α : Type} (condition : Bool) (p : Parser α) : Parser (Option α) := do
  if condition then return some (← p) else return none

/-- Whether a condition and then a test hold; the test takes nothing if the condition fails. -/
def onlyIf (condition : Bool) (test : Parser Bool) : Parser Bool :=
  if condition then test else return false

/-- Runs tests up to the first that fails. What the others took stays taken. -/
def allOf : List (Parser Bool) → Parser Bool
  | [] => return true
  | test :: tests => do
    if ← test then allOf tests else return false

/-- Runs a parser after a keyword, if the keyword is next. -/
def afterKeyword? {α : Type} (k : String) (p : Parser α) : Parser (Option α) := do
  whenever (← keyword? k) p

/-- Items with commas between them, at most `n + 1`. -/
def commaItems {α : Type} (item : Parser α) : Nat → Parser (List α)
  | 0 => return [← item]
  | n + 1 => do
    let a ← item
    if ← symbol? "," then return a :: (← commaItems item n) else return [a]

/-- One or more items with commas between them. -/
def commaSeparated {α : Type} (item : Parser α) : Parser (List α) := do
  commaItems item (← get).length

/-- Items with commas between them, up to a closing mark that stays; perhaps none. -/
def commaSeparatedUntil {α : Type} (closing : String) (item : Parser α) : Parser (List α) := do
  if ← peekSymbol closing then return [] else commaSeparated item

/-- Repeats a parser, at most `n` times, as long as it answers something. -/
def repeatedAtMost {α : Type} (item : Parser (Option α)) : Nat → Parser (List α)
  | 0 => return []
  | n + 1 => do
    match ← item with
    | some a => return a :: (← repeatedAtMost item n)
    | none => return []

/-- Repeats a parser as long as it answers something. -/
def repeated {α : Type} (item : Parser (Option α)) : Parser (List α) := do
  repeatedAtMost item ((← get).length + 1)

/-- The first of some parsers that answers something: its answer, and the other parsers. -/
def firstAnswer {α : Type} :
    List (Parser (Option α)) → Parser (Option (α × List (Parser (Option α))))
  | [] => return none
  | p :: ps => do
    match ← p with
    | some a => return some (a, ps)
    | none =>
      match ← firstAnswer ps with
      | some (a, others) => return some (a, p :: others)
      | none => return none

/-- Runs parsers in any order, each until it answers something once, at most `n` of them. -/
def onceEachAtMost {α : Type} : Nat → List (Parser (Option α)) → Parser (List α)
  | 0, _ => return []
  | n + 1, ps => do
    match ← firstAnswer ps with
    | some (a, others) => return a :: (← onceEachAtMost n others)
    | none => return []

/-- Runs parsers in any order, each until it answers something once. -/
def onceEach {α : Type} (ps : List (Parser (Option α))) : Parser (List α) :=
  onceEachAtMost ps.length ps

/-- Keywords as text, if they are next. -/
def keywordText? (ks : List String) : Parser (Option String) := do
  whenever (← keywords? ks) (return separated " " ks)

/-- What stands between parentheses. -/
def inParentheses {α : Type} (p : Parser α) : Parser α := do
  expectSymbol "("
  let a ← p
  expectSymbol ")"
  return a

/-! ## Names -/

/-- The identifier that a token stands for, if it is one. Strings serve as identifiers too. -/
def Token.ident? : Token → Option Ident
  | .word text _ quote => some ⟨text, quote⟩
  | .string .single text => some ⟨text, some '\''⟩
  | .string .double text => some ⟨text, some '"'⟩
  | _ => none

/-- An identifier. -/
def identifier : Parser Ident := do
  match (← next).ident? with
  | some i => return i
  | none => unexpected

/-- The rest of a name, of which at most `n` parts are left. -/
def nameParts : Nat → Parser ObjectName
  | 0 => return [← identifier]
  | n + 1 => do
    let i ← identifier
    if ← symbol? "." then return i :: (← nameParts n) else return [i]

/-- A name: identifiers with periods between them. -/
def objectName : Parser ObjectName := do nameParts (← get).length

/-- The rest of a name that may be missing, of which at most `n` parts are left. -/
def lenientParts : Nat → Parser (Option ObjectName)
  | 0 => return none
  | n + 1 => do
    match (← next?).bind Token.ident? with
    | none => return none
    | some i => if ← symbol? "." then return (← lenientParts n).map (i :: ·) else return some [i]

/-- A name, or nothing where none stands. The token that is no part of a name is lost. -/
def lenientName : Parser (Option ObjectName) := do lenientParts ((← get).length + 1)

/-- A list of identifiers in parentheses. In MySQL an INSERT may leave it empty. -/
def columnList (allowEmpty : Bool) : Parser (List Ident) :=
  inParentheses do
    if ← onlyIf allowEmpty (peekSymbol ")") then return [] else commaSeparated identifier

/-- A list of identifiers in parentheses, if there is one. -/
def columnList? (allowEmpty : Bool) : Parser (List Ident) := do
  if ← peekSymbol "(" then columnList allowEmpty else return []

/-- An alias, with or without `AS`. Without it, the reserved keywords are no alias. -/
def alias? (reserved : List String) : Parser (Option Ident) := do
  let afterAs ← keyword? "AS"
  let before ← get
  match ← next? with
  | some (.word text keyword quote) =>
    if afterAs || !reserved.contains keyword then return some ⟨text, quote⟩
    else set before; return none
  | some (.string .single text) => return some ⟨text, some '\''⟩
  | some (.string .double text) => return some ⟨text, some '"'⟩
  | _ => if afterAs then unexpected else set before; return none

/-! ## Literals -/

/-- A literal value. -/
def literal : Parser Literal := do
  match ← next with
  | .word text keyword quote =>
    match keyword, quote with
    | "TRUE", _ => return .boolean true
    | "FALSE", _ => return .boolean false
    | "NULL", _ => return .null
    | _, some '"' => return .string .double text
    | _, some '\'' => return .string .single text
    | _, _ => unexpected
  | .number text long => return .number text long
  | .string kind text => return .string kind text
  | .placeholder text => return .placeholder text
  | .symbol s =>
    -- A colon or an at sign makes a placeholder of the word or number after it.
    if s = ":" ∨ s = "@" then
      match ← next with
      | .word text _ _ => return .placeholder (s ++ text)
      | .number text false => return .placeholder (s ++ text)
      | _ => unexpected
    else unexpected
  | _ => unexpected

/-- The text of a string literal. A word that is no keyword serves as one. -/
def stringLiteral (d : Dialect) : Parser String := do
  match ← next with
  | .word text keyword _ => if allKeywords.contains keyword then unexpected else return text
  | .string .single text | .string .double text | .string .unicode text => return text
  | .string .escaped text => if d = .postgres then return text else unexpected
  | _ => unexpected

/-- A number or a placeholder. -/
def numberLiteral : Parser Literal := do
  match ← literal with
  | .number text long => return .number text long
  | .placeholder text => return .placeholder text
  | _ => unexpected

/-- A number or a placeholder, perhaps with a sign, as text. -/
def signedNumber : Parser String := do
  let sign ← if ← symbol? "-" then pure "-" else if ← symbol? "+" then pure "+" else pure ""
  return sign ++ (← numberLiteral).render

/-- A number below `bound` that is written without a fraction. -/
def unsignedBelow (bound : Nat) : Parser Nat := do
  match ← next with
  | .number text _ =>
    let digits := text.toList
    if digits.all Char.isDigit then
      match numeral? 10 0 digits with
      | some n => if n < bound then return n else unexpected
      | none => unexpected
    else unexpected
  | _ => unexpected

/-- A number that fits into a word and is written without a fraction. -/
def unsigned : Parser Nat := unsignedBelow wordCount

end TypedSql.Sql
