import TypedSql.Text.CaseTable
import TypedSql.Text.CharClass

/-!
# Lower-casing

The full lower-case mapping of a text: every character maps on its own, except that a capital
sigma at the end of a word becomes the final form of the letter.
-/

namespace TypedSql.Text

/-- The image of a code point under the first run that holds it. -/
def runImage? (n : Nat) : List (Nat × Nat × Nat × Nat) → Option Nat
  | [] => none
  | (first, last, step, image) :: runs =>
    if first ≤ n && n ≤ last && (n - first) % step = 0 then some (image + (n - first))
    else runImage? n runs

/-- The lower-case form of a character on its own. The dotted capital I is the only character
whose form has two characters. -/
def lowerChar (c : Char) : List Char :=
  if c.toNat < 0x80 then [c.toLower]
  else if c.toNat = 0x130 then ['i', Char.ofNat 0x307]
  else match runImage? c.toNat lowercaseRuns with
    | some n => [Char.ofNat n]
    | none => [c]

/-- Whether a character has letter case. -/
def isCased (c : Char) : Bool :=
  if c.toNat < 0x80 then c.isAlpha else inRanges casedRanges c.toNat

/-- Whether a character does not interrupt a word. -/
def isCaseIgnorable (c : Char) : Bool := inRanges caseIgnorableRanges c.toNat

/-- Whether the first character that counts has letter case. -/
def startsCased (cs : List Char) : Bool :=
  match cs.dropWhile isCaseIgnorable with
  | c :: _ => isCased c
  | [] => false

/-- Lower-cases a text; `before` holds the characters already read, last one first. -/
def lowerFrom (before : List Char) : List Char → List Char
  | [] => []
  | c :: cs =>
    let image :=
      if c = 'Σ' then [if startsCased before && !startsCased cs then 'ς' else 'σ']
      else lowerChar c
    image ++ lowerFrom (c :: before) cs

/-- The lower-case form of a text. -/
def lower (s : String) : String := String.ofList (lowerFrom [] s.toList)

end TypedSql.Text
