import TypedSql.Text.LetterTable

/-!
# Character classes

Blank, alphabetic and numeric characters by their Unicode properties, and the words and trimmed
parts of a text that the notion of blank gives rise to.
-/

namespace TypedSql.Text

/-- Whether a code point lies in one of the inclusive ranges. -/
def inRanges (ranges : List (Nat × Nat)) (n : Nat) : Bool :=
  ranges.any fun (first, last) => first ≤ n && n ≤ last

/-- White space: tab to carriage return, space, and the separators of the other scripts. -/
def isBlank (c : Char) : Bool :=
  let n := c.toNat
  (9 ≤ n && n ≤ 13) || n = 0x20 || n = 0x85 || n = 0xA0 || n = 0x1680 ||
    (0x2000 ≤ n && n ≤ 0x200A) || n = 0x2028 || n = 0x2029 || n = 0x202F || n = 0x205F ||
    n = 0x3000

/-- Letters of all scripts. -/
def isAlphabetic (c : Char) : Bool :=
  if c.toNat < 0x80 then c.isAlpha else inRanges alphabeticRanges c.toNat

/-- Digits and number characters of all scripts. -/
def isNumeric (c : Char) : Bool :=
  if c.toNat < 0x80 then c.isDigit else inRanges numericRanges c.toNat

/-- Letters or number characters. -/
def isAlphanumeric (c : Char) : Bool := isAlphabetic c || isNumeric c

/-- The text without the blanks at its start. -/
def trimStart (cs : List Char) : List Char := cs.dropWhile isBlank

/-- The text without the blanks at its end. -/
def trimEnd (cs : List Char) : List Char := (cs.reverse.dropWhile isBlank).reverse

/-- The text without the blanks at either end. -/
def trim (s : String) : String := String.ofList (trimEnd (trimStart s.toList))

/-- The text without the blanks at its end. -/
def trimRight (s : String) : String := String.ofList (trimEnd s.toList)

/-- Cuts a text at its blanks; `word` holds the word being read, last character first. -/
def wordsFrom (word : List Char) : List Char → List (List Char)
  | [] => if word.isEmpty then [] else [word.reverse]
  | c :: cs =>
    if isBlank c then
      if word.isEmpty then wordsFrom [] cs else word.reverse :: wordsFrom [] cs
    else wordsFrom (c :: word) cs

/-- The maximal runs of characters that are not blank, in order. -/
def words (s : String) : List String := (wordsFrom [] s.toList).map String.ofList

/-- The text after `pre`, if the text starts with it. -/
def afterPrefix? (pre s : String) : Option String :=
  let (p, cs) := (pre.toList, s.toList)
  if p.isPrefixOf cs then some (String.ofList (cs.drop p.length)) else none

/-- The text before `post`, if the text ends with it. -/
def beforeSuffix? (post s : String) : Option String :=
  let (p, cs) := (post.toList, s.toList)
  if p.isSuffixOf cs then some (String.ofList (cs.take (cs.length - p.length))) else none

end TypedSql.Text
