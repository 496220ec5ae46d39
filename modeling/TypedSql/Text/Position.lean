/-!
# Positions

The two ways to point into a text: a line with a column, and an offset in bytes. Lines and columns
are counted from one, and columns count characters.
-/

namespace TypedSql.Text

/-- The number of bytes that characters take in UTF-8. -/
def byteSize : List Char → Nat
  | [] => 0
  | c :: cs => c.utf8Size + byteSize cs

/-- The characters that make up the first `n` bytes. There are none if the text is shorter, or if
the last of these bytes is not the last one of a character. -/
def takeBytes? (n : Nat) : List Char → Option (List Char)
  | [] => if n = 0 then some [] else none
  | c :: cs =>
    if n = 0 then some []
    else if n < c.utf8Size then none
    else (takeBytes? (n - c.utf8Size) cs).map (c :: ·)

/-- The characters after the first `n` bytes. A character that these bytes only begin is left out
too. -/
def dropBytes (n : Nat) : List Char → List Char
  | [] => []
  | c :: cs => if n = 0 then c :: cs else dropBytes (n - c.utf8Size) cs

/-- The characters from one offset to another. -/
def slice (start stop : Nat) (cs : List Char) : List Char :=
  let rest := dropBytes start cs
  (takeBytes? (stop - start) rest).getD rest

/-- A place in a text by line and column. -/
structure Position where
  line : Nat
  column : Nat
  deriving DecidableEq

namespace Position

/-- The place where every text starts. -/
def first : Position := ⟨1, 1⟩

/-- The place after a character. -/
def after (p : Position) (c : Char) : Position :=
  if c = '\n' then ⟨p.line + 1, 1⟩ else ⟨p.line, p.column + 1⟩

/-- The place after a text that starts at `p`. -/
def afterText (p : Position) (cs : List Char) : Position := cs.foldl after p

/-- The place of the character at an offset; an offset that no character starts at stands for the
end of the text. -/
def ofOffset (cs : List Char) (offset : Nat) : Position :=
  first.afterText ((takeBytes? offset cs).getD cs)

/-- The text after its first `n` line ends, with the number of bytes before it; `skipped` bytes are
counted already. -/
def skipLines : Nat → Nat → List Char → Option (Nat × List Char)
  | 0, skipped, cs => some (skipped, cs)
  | _ + 1, _, [] => none
  | n + 1, skipped, c :: cs => skipLines (if c = '\n' then n else n + 1) (skipped + c.utf8Size) cs

/-- The offset of a place. Columns run on over the ends of lines, and what lies past the end of the
text stands for the end. -/
def offset (p : Position) (cs : List Char) : Nat :=
  match skipLines (p.line - 1) 0 cs with
  | some (start, rest) => start + byteSize (rest.take (p.column - 1))
  | none => byteSize cs

end Position

end TypedSql.Text
