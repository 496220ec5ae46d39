/-!
# Reading TOML text

Readers take characters from the front of a text, or refuse it. This module reads what has no parts
of its own: blanks and comments, strings, numbers, dates and times.
-/

namespace TypedSql.Toml

/-- A reader of characters. -/
abbrev Reader := StateT (List Char) Option

/-- Takes a character if it is next. -/
def take? (c : Char) : Reader Bool := do
  match ← get with
  | d :: cs => if d = c then set cs; return true else return false
  | [] => return false

/-- Takes a character. -/
def expect (c : Char) : Reader Unit := do
  unless ← take? c do failure

/-- Takes a word if it is next. -/
def word? (w : String) : Reader Bool := do
  let cs ← get
  if w.toList.isPrefixOf cs then
    set (cs.drop w.length)
    return true
  else return false

/-- Takes the characters of a class. -/
def takeWhile (p : Char → Bool) : Reader (List Char) := fun cs =>
  some (cs.takeWhile p, cs.dropWhile p)

/-- Tries a reader and takes nothing if it refuses. -/
def attempt {α : Type} (p : Reader α) : Reader (Option α) := fun cs =>
  match p cs with
  | some (a, rest) => some (some a, rest)
  | none => some (none, cs)

/-! ## Blanks and comments -/

/-- A space or a tab. -/
def isSpace (c : Char) : Bool := c = ' ' || c = '\t'

/-- A character that may stand in comments and strings: all but control characters. A tab may. -/
def isText (c : Char) : Bool := c = '\t' || (0x20 ≤ c.toNat && c.toNat ≠ 0x7F)

/-- Skips spaces. -/
def spaces : Reader Unit := discard (takeWhile isSpace)

/-- Takes the end of a line. -/
def newline? : Reader Bool := do
  match ← get with
  | '\n' :: cs => set cs; return true
  | '\r' :: '\n' :: cs => set cs; return true
  | _ => return false

/-- Skips the rest of a line, which holds nothing but a comment. -/
def lineEnd : Reader Unit := do
  spaces
  if ← take? '#' then discard (takeWhile isText)
  unless ← newline? do
    unless (← get).isEmpty do failure

/-- What follows the gaps at the front of a text: spaces, ends of lines and, when `inside` one, the
rest of a comment. -/
def afterGaps (inside : Bool) : List Char → Option (List Char)
  | [] => some []
  | '\n' :: cs => afterGaps false cs
  | '\r' :: '\n' :: cs => afterGaps false cs
  | c :: cs =>
    if inside then if isText c then afterGaps true cs else none
    else if isSpace c then afterGaps false cs
    else if c = '#' then afterGaps true cs
    else some (c :: cs)

/-- Skips gaps. -/
def gaps : Reader Unit := fun cs => (afterGaps false cs).map ((), ·)

/-! ## Strings -/

/-- The value of a hexadecimal digit. -/
def hexValue? (c : Char) : Option Nat :=
  if c.isDigit then some (c.toNat - '0'.toNat)
  else if 'a' ≤ c ∧ c ≤ 'f' then some (c.toNat - 'a'.toNat + 10)
  else if 'A' ≤ c ∧ c ≤ 'F' then some (c.toNat - 'A'.toNat + 10)
  else none

/-- The character with a code point given by hexadecimal digits. -/
def codePoint? (digits : List Char) : Option Char := do
  let values ← digits.mapM hexValue?
  let n := values.foldl (fun n v => 16 * n + v) 0
  if h : n.isValidChar then some (Char.ofNatAux n h) else none

/-- The character of a short escape. -/
def shortEscape? : Char → Option Char
  | 'b' => some '\x08'
  | 't' => some '\t'
  | 'n' => some '\n'
  | 'f' => some '\x0c'
  | 'r' => some '\r'
  | '"' => some '"'
  | '\\' => some '\\'
  | _ => none

/-- Puts a character in front of what is read. -/
def prepend (c : Char) : Option (List Char × List Char) → Option (List Char × List Char)
  | some (text, rest) => some (c :: text, rest)
  | none => none

/-- A basic string after its opening quote. -/
def readBasic : List Char → Option (List Char × List Char)
  | [] => none
  | '"' :: cs => some ([], cs)
  | '\\' :: 'u' :: a :: b :: c :: d :: cs => do prepend (← codePoint? [a, b, c, d]) (readBasic cs)
  | '\\' :: 'U' :: a :: b :: c :: d :: e :: f :: g :: h :: cs => do
    prepend (← codePoint? [a, b, c, d, e, f, g, h]) (readBasic cs)
  | '\\' :: e :: cs => do prepend (← shortEscape? e) (readBasic cs)
  | c :: cs => if isText c && c ≠ '\\' then prepend c (readBasic cs) else none

/-- Whether only spaces stand before the end of the line. -/
def endsLine (cs : List Char) : Bool :=
  match cs.dropWhile isSpace with
  | '\n' :: _ => true
  | '\r' :: '\n' :: _ => true
  | _ => false

/-- A basic string of several lines after its opening quotes. After a backslash at the end of a line
everything is skipped up to the next text; `skip` tells that this goes on. -/
def readBasicLines (skip : Bool) : List Char → Option (List Char × List Char)
  | [] => none
  | '"' :: '"' :: '"' :: '"' :: '"' :: cs => some (['"', '"'], cs)
  | '"' :: '"' :: '"' :: '"' :: cs => some (['"'], cs)
  | '"' :: '"' :: '"' :: cs => some ([], cs)
  | '\r' :: '\n' :: cs =>
    if skip then readBasicLines true cs else prepend '\n' (readBasicLines false cs)
  | '\n' :: cs => if skip then readBasicLines true cs else prepend '\n' (readBasicLines false cs)
  | '\\' :: 'u' :: a :: b :: c :: d :: cs => do
    prepend (← codePoint? [a, b, c, d]) (readBasicLines false cs)
  | '\\' :: 'U' :: a :: b :: c :: d :: e :: f :: g :: h :: cs => do
    prepend (← codePoint? [a, b, c, d, e, f, g, h]) (readBasicLines false cs)
  | '\\' :: e :: cs =>
    if endsLine (e :: cs) then readBasicLines true (e :: cs)
    else do prepend (← shortEscape? e) (readBasicLines false cs)
  | c :: cs =>
    if skip && isSpace c then readBasicLines true cs
    else if isText c && c ≠ '\\' then prepend c (readBasicLines false cs) else none

/-- A literal string after its opening quote. -/
def readLiteral : List Char → Option (List Char × List Char)
  | [] => none
  | '\'' :: cs => some ([], cs)
  | c :: cs => if isText c then prepend c (readLiteral cs) else none

/-- A literal string of several lines after its opening quotes. -/
def readLiteralLines : List Char → Option (List Char × List Char)
  | [] => none
  | '\'' :: '\'' :: '\'' :: '\'' :: '\'' :: cs => some (['\'', '\''], cs)
  | '\'' :: '\'' :: '\'' :: '\'' :: cs => some (['\''], cs)
  | '\'' :: '\'' :: '\'' :: cs => some ([], cs)
  | '\r' :: '\n' :: cs => prepend '\n' (readLiteralLines cs)
  | c :: cs => if isText c || c = '\n' then prepend c (readLiteralLines cs) else none

/-- Runs the body of a string. -/
def stringBody (body : List Char → Option (List Char × List Char)) : Reader String := fun cs =>
  (body cs).map fun (text, rest) => (String.ofList text, rest)

/-- A string of any form. A line end right after three opening quotes does not count. -/
def string : Reader String := do
  if ← word? "\"\"\"" then
    discard newline?
    stringBody (readBasicLines false)
  else if ← take? '"' then stringBody readBasic
  else if ← word? "'''" then
    discard newline?
    stringBody readLiteralLines
  else
    expect '\''
    stringBody readLiteral

/-! ## Numbers -/

/-- Digits, with single underscores between them: the digits, and the rest of the text. -/
def splitDigits (isDigit : Char → Bool) : List Char → List Char × List Char
  | [] => ([], [])
  | '_' :: c :: cs =>
    if isDigit c then
      let (digits, rest) := splitDigits isDigit cs
      (c :: digits, rest)
    else ([], '_' :: c :: cs)
  | c :: cs =>
    if isDigit c then
      let (digits, rest) := splitDigits isDigit cs
      (c :: digits, rest)
    else ([], c :: cs)

/-- At least one digit, with single underscores between digits. -/
def digits (isDigit : Char → Bool) : Reader (List Char) := do
  match ← get with
  | c :: cs =>
    if isDigit c then
      let (more, rest) := splitDigits isDigit cs
      set rest
      return c :: more
    else failure
  | [] => failure

/-- A sign: whether it is a minus. -/
def sign : Reader Bool := do
  if ← take? '-' then return true
  discard (take? '+')
  return false

/-- Decimal digits without a leading zero. -/
def wholeDigits : Reader (List Char) := do
  if ← take? '0' then return ['0'] else digits Char.isDigit

/-- The value of digits in a base. -/
def digitsValue (base : Nat) (ds : List Char) : Nat :=
  ds.foldl (fun n c => base * n + (hexValue? c).getD 0) 0

/-- A signed integer of 64 bits. -/
def integerOf (negative : Bool) (n : Nat) : Reader Int := do
  let bound := Nat.pow 2 63
  if n < bound then return if negative then -n else n
  else if negative && n = bound then return -n
  else failure

/-- An integer, in base ten or after the mark of another base. -/
def integer : Reader Int := do
  if ← word? "0x" then
    integerOf false (digitsValue 16 (← digits fun c => (hexValue? c).isSome))
  else if ← word? "0o" then
    integerOf false (digitsValue 8 (← digits fun c => '0' ≤ c && c ≤ '7'))
  else if ← word? "0b" then
    integerOf false (digitsValue 2 (← digits fun c => c = '0' || c = '1'))
  else
    let negative ← sign
    integerOf negative (digitsValue 10 (← wholeDigits))

/-- Whether `mantissa` times ten to `exponent` is too large for a number of 64 bits: from the middle
between the greatest such number and the next power of two on. -/
def overflows (mantissa : Nat) (exponent : Int) : Bool :=
  let bound := Nat.pow 2 1024 - Nat.pow 2 970
  let width := (Nat.toDigits 10 mantissa).length
  if mantissa = 0 || width + exponent < 300 then false
  else if 400 < width + exponent then true
  else if 0 ≤ exponent then bound ≤ mantissa * Nat.pow 10 exponent.toNat
  else bound * Nat.pow 10 (-exponent).toNat ≤ mantissa

/-- An exponent after its mark. -/
def exponent : Reader Int := do
  let negative ← sign
  let n := digitsValue 10 (← digits Char.isDigit)
  return if negative then -n else n

/-- The mark of an exponent. -/
def exponentMark? : Reader Bool := do
  if ← take? 'e' then return true else take? 'E'

/-- A number with a fraction, an exponent or both. One that is greater than all others is
refused. -/
def decimal : Reader String := do
  let start ← get
  let negative ← sign
  let whole ← wholeDigits
  let fraction ← if ← take? '.' then digits Char.isDigit else pure []
  let power ← if ← exponentMark? then some <$> exponent else pure none
  if fraction.isEmpty && power.isNone then failure
  let mantissa := digitsValue 10 (whole ++ fraction)
  if !negative && overflows mantissa (power.getD 0 - fraction.length) then failure
  return String.ofList (start.take (start.length - (← get).length))

/-- An infinity, or the value that is no number. -/
def special : Reader String := do
  let negative ← sign
  let mark := if negative then "-" else ""
  if ← word? "inf" then return mark ++ "inf"
  else if ← word? "nan" then return mark ++ "nan"
  else failure

/-! ## Dates and times -/

/-- Exactly `n` digits, in a range. -/
def fixedDigits (n low high : Nat) : Reader Nat := do
  let cs ← get
  let ds := cs.take n
  if ds.length = n && ds.all Char.isDigit then
    let value := digitsValue 10 ds
    if low ≤ value ∧ value ≤ high then
      set (cs.drop n)
      return value
    else failure
  else failure

/-- Whether a year has a day more. -/
def isLeapYear (year : Nat) : Bool := year % 4 = 0 && (year % 100 ≠ 0 || year % 400 = 0)

/-- The number of days of a month. -/
def daysOf (year month : Nat) : Nat :=
  if month = 2 then if isLeapYear year then 29 else 28
  else if month = 4 ∨ month = 6 ∨ month = 9 ∨ month = 11 then 30
  else 31

/-- A date. -/
def date : Reader Unit := do
  let year ← fixedDigits 4 0 9999
  expect '-'
  let month ← fixedDigits 2 1 12
  expect '-'
  discard (fixedDigits 2 1 (daysOf year month))

/-- A time of day. -/
def time : Reader Unit := do
  discard (fixedDigits 2 0 23)
  expect ':'
  discard (fixedDigits 2 0 59)
  expect ':'
  discard (fixedDigits 2 0 60)
  discard <| attempt do
    expect '.'
    if (← takeWhile Char.isDigit).isEmpty then failure

/-- The distance of a time zone. -/
def timeOffset : Reader Unit := do
  if ← take? 'Z' then return
  if ← take? 'z' then return
  unless ← take? '+' do expect '-'
  discard (fixedDigits 2 0 23)
  expect ':'
  discard (fixedDigits 2 0 59)

/-- The mark between a date and a time. -/
def timeMark : Reader Unit := do
  unless ← take? 'T' do
    unless ← take? 't' do expect ' '

/-- A date, a time, or both. -/
def datetime : Reader String := do
  let start ← get
  match ← attempt date with
  | some () =>
    let timed ← attempt do
      timeMark
      time
    if timed.isSome then discard (attempt timeOffset)
  | none => time
  return String.ofList (start.take (start.length - (← get).length))

end TypedSql.Toml
