/-!
# Words

Offsets, counts and placeholder numbers are words: numbers of 64 bits without a sign.
-/

namespace TypedSql

/-- The number of words. A number is a word if it is less. -/
def wordCount : Nat := Nat.pow 2 64

end TypedSql
