import TypedSql.Config.File

/-!
# Options of the command line

Which options there are, how they are written, and the reading of them from arguments. An option
starts with one hyphen and a letter, or with two hyphens and a name. A value follows as the next
argument, after an equals sign, or straight after the letter. Letters can share a hyphen.
-/

namespace TypedSql.CommandLine

/-- An option. -/
inductive Opt where
  | config
  | dialect
  | verbose
  | output
  | schema
  | queries
  | sequential
  | force
  | help
  | version
  deriving DecidableEq

namespace Opt

/-- The name after two hyphens. -/
def name : Opt → String
  | config => "config"
  | dialect => "dialect"
  | verbose => "verbose"
  | output => "output"
  | schema => "schema"
  | queries => "queries"
  | sequential => "sequential"
  | force => "force"
  | help => "help"
  | version => "version"

/-- The letter after one hyphen. -/
def letter? : Opt → Option Char
  | config => some 'c'
  | dialect => some 'd'
  | verbose => some 'v'
  | output => some 'o'
  | help => some 'h'
  | version => some 'V'
  | _ => none

/-- Whether a value belongs to the option. -/
def takesValue : Opt → Bool
  | config | dialect | output | schema | queries => true
  | _ => false

/-- Whether the option can be given more than once. -/
def repeats : Opt → Bool
  | schema | queries => true
  | _ => false

/-- Whether a text is a value of the option. A path is never empty. -/
def accepts (o : Opt) (value : String) : Bool :=
  match o with
  | dialect => (Dialect.parse value).toOption.isSome
  | _ => !o.takesValue || value ≠ ""

end Opt

/-- Why arguments do not say what to do. -/
inductive Stop where
  /-- They ask how to use the program. -/
  | help
  /-- They ask for the version. -/
  | version
  /-- They are wrong. -/
  | misuse
  deriving DecidableEq

/-- The options that were given, with their values. -/
abbrev Given := List (Opt × String)

namespace Given

/-- Whether an option was given. -/
def has (given : Given) (o : Opt) : Bool := given.any (·.1 = o)

/-- The values of an option. -/
def values (given : Given) (o : Opt) : List String :=
  given.filterMap fun (o', value) => if o' = o then some value else none

/-- The value of an option. -/
def value? (given : Given) (o : Opt) : Option String := (given.values o).head?

/-- Adds an option. -/
def add (given : Given) (o : Opt) (value : String) : Except Stop Given :=
  if o = .help then .error .help
  else if o = .version then .error .version
  else if given.has o && !o.repeats then .error .misuse
  else if o.accepts value then .ok (given ++ [(o, value)])
  else .error .misuse

end Given

/-- What has been read of the arguments: options, the last of which may still want its value. -/
structure Progress where
  given : Given
  pending : Option Opt

/-- Reads letters that share a hyphen. The first one that takes a value has all that follows. -/
def readLetters (known : List Opt) (given : Given) : List Char → Except Stop Progress
  | [] => .ok ⟨given, none⟩
  | c :: cs =>
    match known.find? (·.letter? = some c) with
    | none => .error .misuse
    | some o =>
      if o.takesValue then
        match cs with
        | [] => .ok ⟨given, some o⟩
        | '=' :: value => do return ⟨← given.add o (String.ofList value), none⟩
        | value => do return ⟨← given.add o (String.ofList value), none⟩
      else do readLetters known (← given.add o "") cs

/-- Reads what follows two hyphens. -/
def readName (known : List Opt) (given : Given) (cs : List Char) : Except Stop Progress :=
  let name := String.ofList (cs.takeWhile (· ≠ '='))
  match known.find? (·.name = name), cs.dropWhile (· ≠ '=') with
  | none, _ => .error .misuse
  | some o, [] =>
    if o.takesValue then .ok ⟨given, some o⟩ else do return ⟨← given.add o "", none⟩
  | some o, _ :: value =>
    if o.takesValue then do return ⟨← given.add o (String.ofList value), none⟩ else .error .misuse

/-- Reads options up to the first argument that is none, and answers it with those after it. Two
hyphens alone end the options. -/
def readOptions (known : List Opt) (p : Progress) : List String → Except Stop (Given × List String)
  | [] => if p.pending.isSome then .error .misuse else .ok (p.given, [])
  | arg :: args =>
    match arg.toList, p.pending with
    | ['-', '-'], none => if args.isEmpty then .ok (p.given, []) else .error .misuse
    | '-' :: '-' :: cs, none => do readOptions known (← readName known p.given cs) args
    | '-' :: c :: cs, none => do readOptions known (← readLetters known p.given (c :: cs)) args
    | '-' :: _ :: _, some _ => .error .misuse
    | _, some o => do readOptions known ⟨← p.given.add o arg, none⟩ args
    | _, none => .ok (p.given, arg :: args)

end TypedSql.CommandLine
