/-!
# Quoted texts

Reading the literals that stand between quotes. Every reader takes the text that follows the
opening quote and answers the value together with the number of characters it took, the closing
quote included; it answers nothing if the literal is not closed or an escape in it has no meaning.
-/

namespace TypedSql.Sql

/-- A value and the number of characters it was read from. -/
abbrev Reading := Option (List Char × Nat)

/-- Puts a character read from `n` characters before a reading. -/
def Reading.push (c : Char) (n : Nat) (r : Reading) : Reading :=
  r.map fun (cs, m) => (c :: cs, m + n)

/-- The character that a backslash and `c` stand for in a string with backslash escapes. -/
def backslashed (c : Char) : Char :=
  match c with
  | '0' => '\x00'
  | 'a' => '\x07'
  | 'b' => '\x08'
  | 'f' => '\x0c'
  | 'n' => '\n'
  | 'r' => '\r'
  | 't' => '\t'
  | 'Z' => '\x1a'
  | c => c

/-- Reads up to the closing quote. A doubled quote stands for the quote itself, and a backslash
starts an escape if `backslash` says so. -/
def readQuoted (quote : Char) (backslash : Bool) : List Char → Reading
  | [] => none
  | c :: cs =>
    if c = quote then
      match cs with
      | [] => some ([], 1)
      | d :: ds =>
        if d = quote then (readQuoted quote backslash ds).push quote 2 else some ([], 1)
    else if c = '\\' ∧ backslash then
      match cs with
      | [] => none
      | d :: ds => (readQuoted quote backslash ds).push (backslashed d) 2
    else (readQuoted quote backslash cs).push c 1

/-! ## Numeric escapes -/

/-- The value of a digit, in bases up to sixteen. -/
def digitValue? (c : Char) : Option Nat :=
  if '0' ≤ c ∧ c ≤ '9' then some (c.toNat - 48)
  else if 'a' ≤ c ∧ c ≤ 'f' then some (c.toNat - 87)
  else if 'A' ≤ c ∧ c ≤ 'F' then some (c.toNat - 55)
  else none

/-- The digit value of a character in the given base. -/
def digitIn? (base : Nat) (c : Char) : Option Nat :=
  (digitValue? c).filter (· < base)

/-- The number that the digits of a base write, continuing from `n`. -/
def numeral? (base : Nat) (n : Nat) : List Char → Option Nat
  | [] => some n
  | c :: cs => (digitIn? base c).bind fun d => numeral? base (n * base + d) cs

/-- The character of a code point that is a Unicode scalar value. -/
def scalar? (n : Nat) : Option Char :=
  if n < 0xD800 ∨ (0xDFFF < n ∧ n < 0x110000) then some (Char.ofNat n) else none

/-- The character of a code point written with exactly `width` hexadecimal digits, the first of
which may be a plus sign. -/
def codePoint? (width : Nat) (cs : List Char) : Option Char :=
  if cs.length < width then none
  else
    let digits := cs.take width
    let digits := match digits with
      | '+' :: d :: ds => d :: ds
      | ds => ds
    (numeral? 16 0 digits).bind scalar?

/-- The character of a byte, of which only the seven-bit ones have a meaning alone. -/
def byteChar? (n : Nat) : Option Char :=
  if n % 256 ≤ 127 then some (Char.ofNat (n % 256)) else none

/-- The escape that follows a backslash in an escape string: its character and the number of
characters that it takes. The null character cannot be written. -/
def readEscape (cs : List Char) : Option (Char × Nat) :=
  let byte (base extra : Nat) (digits : List Char) : Option (Char × Nat) :=
    (numeral? base 0 digits).bind fun n => (byteChar? n).map fun c => (c, digits.length + extra)
  let escape := match cs with
    | [] => none
    | 'b' :: _ => some ('\x08', 1)
    | 'f' :: _ => some ('\x0c', 1)
    | 'n' :: _ => some ('\n', 1)
    | 'r' :: _ => some ('\r', 1)
    | 't' :: _ => some ('\t', 1)
    | 'u' :: cs => (codePoint? 4 cs).map fun c => (c, 5)
    | 'U' :: cs => (codePoint? 8 cs).map fun c => (c, 9)
    | 'x' :: cs =>
      let digits := (cs.take 2).takeWhile fun c => (digitIn? 16 c).isSome
      if digits.isEmpty then some ('x', 1) else byte 16 1 digits
    | c :: cs =>
      if (digitIn? 8 c).isSome then
        byte 8 0 (c :: (cs.take 2).takeWhile fun c => (digitIn? 8 c).isSome)
      else some (c, 1)
  escape.filter fun (c, _) => c ≠ '\x00'

/-- The escape that follows a backslash in a string with Unicode escapes: a second backslash, or
four hexadecimal digits, or a plus sign and six. -/
def readCodePoint (cs : List Char) : Option (Char × Nat) :=
  let fixed (width : Nat) (cs : List Char) : Option Char :=
    if cs.length < width then none else (numeral? 16 0 (cs.take width)).bind scalar?
  match cs with
  | '\\' :: _ => some ('\\', 1)
  | '+' :: cs => (fixed 6 cs).map fun c => (c, 7)
  | cs => (fixed 4 cs).map fun c => (c, 4)

/-- Reads a string whose escapes `escape` reads; `skip` characters belong to an escape already
read. -/
def readEscaping (escape : List Char → Option (Char × Nat)) (skip : Nat) : List Char → Reading
  | [] => none
  | c :: cs =>
    match skip with
    | n + 1 => (readEscaping escape n cs).map fun (t, m) => (t, m + 1)
    | 0 =>
      if c = '\'' then
        match cs with
        | [] => some ([], 1)
        | d :: ds => if d = '\'' then (readEscaping escape 0 ds).push '\'' 2 else some ([], 1)
      else if c = '\\' then
        match escape cs with
        | some (e, n) => (readEscaping escape n cs).push e 1
        | none => none
      else (readEscaping escape 0 cs).push c 1

/-! ## Texts with other delimiters -/

/-- Reads up to the first occurrence of a closing delimiter. -/
def readUntil (closing : List Char) : List Char → Reading
  | [] => none
  | c :: cs =>
    if closing.isPrefixOf (c :: cs) then some ([], closing.length)
    else (readUntil closing cs).push c 1

/-- The length of the longest common beginning of two texts. -/
def commonLength : List Char → List Char → Nat
  | a :: as, b :: bs => if a = b then commonLength as bs + 1 else 0
  | _, _ => 0

/-- Reads up to a tag between dollar signs. `inert` characters are known not to close the text:
where a dollar sign does not start the delimiter, the characters compared with the tag are passed
over. -/
def readTagged (tag : List Char) (inert : Nat) : List Char → Reading
  | [] => none
  | c :: cs =>
    match inert with
    | n + 1 => (readTagged tag n cs).push c 1
    | 0 =>
      if c = '$' then
        let k := commonLength tag cs
        if k < tag.length then (readTagged tag (k + 1) cs).push c 1
        else if cs[k]? = some '$' then some ([], k + 2)
        else (readTagged tag k cs).push c 1
      else (readTagged tag 0 cs).push c 1

/-- Reads the inside of a block comment, with the star of the mark that closes it. `depth` counts
the comments that are open and `last` is the character before. Comments nest. -/
def readComment (depth : Nat) (last : Char) : List Char → Reading
  | [] => none
  | c :: cs =>
    if last = '/' ∧ c = '*' then (readComment (depth + 1) c cs).push c 1
    else if last = '*' ∧ c = '/' then
      if depth ≤ 1 then some ([], 1) else (readComment (depth - 1) c cs).push c 1
    else (readComment depth c cs).push c 1

end TypedSql.Sql
