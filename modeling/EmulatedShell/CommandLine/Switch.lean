import EmulatedShell.Text.Integer
import EmulatedShell.Text.Substring
import EmulatedShell.Unicode.Digit

namespace EmulatedShell

/-- The options that a program call can have. -/
inductive Switch where
  | help
  | command
  | user
  | directory
  | noDelay
  | verbose
  deriving Repr, DecidableEq

namespace Switch

/-- All options, in the order in which they are explained. -/
def all : List Switch := [.help, .command, .user, .directory, .noDelay, .verbose]

/-- The letter of an option. One option has none. -/
def letter : Switch → Option Char
  | .help => some 'h'
  | .command => some 'c'
  | .user => some 'u'
  | .directory => some 'd'
  | .noDelay => none
  | .verbose => some 'v'

/-- The long spelling of an option. -/
def long : Switch → String
  | .help => "--help"
  | .command => "--command"
  | .user => "--user"
  | .directory => "--directory"
  | .noDelay => "--no-delay"
  | .verbose => "--verbose"

/-- The option needs a value. -/
def takesValue : Switch → Bool
  | .command | .user | .directory => true
  | .help | .noDelay | .verbose => false

/-- Both spellings of an option. -/
def label (s : Switch) : String :=
  match s.letter with
  | some c => "-" ++ String.singleton c ++ "/" ++ s.long
  | none => s.long

/-- The option with a letter. -/
def ofLetter (c : Char) : Option Switch := all.find? (·.letter == some c)

/-- The option with a long spelling. -/
def ofLong (text : String) : Option Switch := all.find? (·.long == text)

/-- The options whose long spelling starts with a text. -/
def completing (text : String) : List Switch := all.filter fun s => beginsWith text s.long

end Switch

/-- The reasons for which a program call is refused. -/
inductive UsageFault where
  /-- An argument abbreviates several options. -/
  | ambiguous (argument : String) (candidates : List Switch)
  /-- An option lacks its value. -/
  | missingValue (option : Switch)
  /-- An option has a value that it does not take. -/
  | needlessValue (option : Switch) (value : String)
  /-- Some arguments mean nothing. -/
  | unrecognized (arguments : List String)
  deriving Repr, DecidableEq

/-- What an argument looks like by itself. -/
inductive ArgumentShape where
  /-- A value, or something that means nothing. -/
  | plain
  /-- The mark after which all arguments are plain. -/
  | separator
  /-- An option that there is not. -/
  | unknown
  /-- An option by its letter, with what is attached to it. -/
  | short (option : Switch) (attached : Option (List Char))
  /-- An option by its long spelling or the start of it, with what is attached to it. -/
  | long (option : Switch) (attached : Option String)
  deriving Repr, DecidableEq

/-- A whole or decimal number below zero. A line break may follow. -/
def isNegativeNumber (text : List Char) : Bool :=
  match text with
  | '-' :: rest =>
    let digits := if rest.getLast? = some '\n' then rest.dropLast else rest
    match digits.dropWhile isDigit with
    | [] => digits != []
    | '.' :: fraction => fraction != [] && fraction.all isDigit
    | _ => false
  | _ => false

/-- The shape of an argument that starts with a hyphen and is no option. -/
def otherShape (text : List Char) : ArgumentShape :=
  if isNegativeNumber text || text.contains ' ' then .plain else .unknown

/-- The part of an argument before the first equals sign, and what is attached by it. -/
def splitAttached (text : List Char) : List Char × Option (List Char) :=
  match text.dropWhile (· != '=') with
  | [] => (text, none)
  | _ :: attached => (text.takeWhile (· != '='), some attached)

/-- The shape of an argument that starts with two hyphens. -/
def longShape (text : String) : Except UsageFault ArgumentShape :=
  let (name, attached) := splitAttached text.toList
  let attached := attached.map String.ofList
  match Switch.ofLong (String.ofList name) with
  | some option => .ok (.long option attached)
  | none =>
    match Switch.completing (String.ofList name) with
    | [] => .ok (otherShape text.toList)
    | [option] => .ok (.long option attached)
    | candidates => .error (.ambiguous text candidates)

/-- The shape of an argument that starts with one hyphen. -/
def shortShape (c : Char) (rest : List Char) : ArgumentShape :=
  match Switch.ofLetter c, rest with
  | none, _ => otherShape ('-' :: c :: rest)
  | some option, [] => .short option none
  | some option, '=' :: attached => .short option (some attached)
  | some option, attached => .short option (some attached)

/-- The shape of an argument. -/
def shapeOf (text : String) : Except UsageFault ArgumentShape :=
  match text.toList with
  | ['-', '-'] => .ok .separator
  | '-' :: '-' :: _ => longShape text
  | '-' :: c :: rest => .ok (shortShape c rest)
  | _ => .ok .plain

/-- The shapes of all arguments. After a separator they are all plain. -/
def shapesOf : List String → Except UsageFault (List (String × ArgumentShape))
  | [] => .ok []
  | text :: rest => do
    let shape ← shapeOf text
    if shape = .separator then
      return (text, shape) :: rest.map fun plain => (plain, .plain)
    else return (text, shape) :: (← shapesOf rest)

end EmulatedShell
