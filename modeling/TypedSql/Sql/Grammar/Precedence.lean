import TypedSql.Sql.Grammar.Basic

/-!
# Precedence of operators

How tightly each operator binds its operands. The dialects order the operators differently.
-/

namespace TypedSql.Sql

/-- The classes of operators that bind alike. -/
inductive Rank where
  | or
  | and
  | not
  | pgOther
  | is
  | like
  | eq
  | between
  | pipe
  | caret
  | ampersand
  | xor
  | plusMinus
  | mulDivMod
  | atTimeZone
  | cast
  deriving DecidableEq

namespace Rank

/-- How tightly the operators of a class bind; higher is tighter. -/
def level (d : Dialect) : Rank → Nat :=
  match d with
  | .mysql => fun
    | or => 5
    | and => 10
    | not => 15
    | pgOther => 16
    | is => 17
    | like => 19
    | eq => 20
    | between => 20
    | pipe => 21
    | caret => 22
    | ampersand => 23
    | xor => 24
    | plusMinus => 30
    | mulDivMod => 40
    | atTimeZone => 41
    | cast => 50
  | .postgres => fun
    | or => 10
    | and => 20
    | not => 30
    | is => 40
    | eq => 50
    | between => 60
    | like => 60
    | pgOther => 70
    | ampersand => 70
    | pipe => 70
    | xor => 75
    | plusMinus => 80
    | mulDivMod => 90
    | caret => 100
    | atTimeZone => 110
    | cast => 140

/-- The class of an operator that is a word. `after` is the keyword that follows it, and
`zoneFollows` tells whether `TIME ZONE` does. -/
def ofKeyword? (after : String) (zoneFollows : Bool) (keyword : String) : Option Rank :=
  match keyword with
  | "OR" => some .or
  | "AND" => some .and
  | "XOR" => some .xor
  | "AT" => if zoneFollows then some .atTimeZone else none
  | "NOT" =>
    -- A negation binds like the predicate that it negates.
    match after with
    | "IN" | "BETWEEN" => some .between
    | "LIKE" | "ILIKE" | "RLIKE" | "REGEXP" | "SIMILAR" => some .like
    | _ => none
  | "IS" => some .is
  | "IN" | "BETWEEN" | "OPERATOR" => some .between
  | "LIKE" | "ILIKE" | "RLIKE" | "REGEXP" | "SIMILAR" => some .like
  | "DIV" => some .mulDivMod
  | _ => none

/-- The class of an operator that is a mark. Marks that are no operator have none; an operator
that users define belongs to the class of the other operators. -/
def ofSymbol? (d : Dialect) (s : String) : Option Rank :=
  match s with
  | "=" | "<" | "<=" | "<>" | ">" | ">=" | "==" | "~" | "~*" | "!~" | "!~*" | "~~" | "~~*" | "!~~"
  | "!~~*" | "<=>" => some .eq
  | "|" => some .pipe
  | "^" => some .caret
  | "&" => some .ampersand
  | "+" | "-" => some .plusMinus
  | "*" | "/" | "%" => some .mulDivMod
  | "::" => some .cast
  | "#" | ">>" | "<<" => if d = .postgres then some .pgOther else some .caret
  | "||" => if d = .postgres then some .pgOther else some .mulDivMod
  | "!" | "&&" | "^@" => if d = .postgres then some .pgOther else some .cast
  | "->" | "->>" | "#>" | "#>>" | "@>" | "<@" | "#-" | "@?" | "@@" | "?" | "?&" | "?|" =>
    some .pgOther
  | "(" | ")" | "[" | "]" | "\x7b" | "\x7d" | "," | "." | ";" | ":" | ":=" | "=>" | "\\" | "!!"
  | "|/" | "||/" | "@" => none
  | _ => some .pgOther

end Rank

/-- How tightly the operator at the front of the tokens binds; zero if there is none. -/
def bindingOf (d : Dialect) : List Token → Nat
  | .symbol "[" :: _ => match d with
    | .mysql => 50
    | .postgres => 130
  | .symbol s :: _ => match Rank.ofSymbol? d s with
    | some rank => rank.level d
    | none => 0
  | t :: ts =>
    if t.keyword = "COLLATE" ∧ d = .postgres then 120
    else
      let after := (ts.head?.map Token.keyword).getD ""
      match Rank.ofKeyword? after (startsWithKeywords ["TIME", "ZONE"] ts) t.keyword with
      | some rank => rank.level d
      | none => 0
  | [] => 0

end TypedSql.Sql
