import EmulatedShell.Text.Integer
import EmulatedShell.Text.Split
import EmulatedShell.Text.Substring

namespace EmulatedShell

/-- A command line in pieces: the name, the tokens after it as they were typed, and the line. -/
structure Command where
  name : String
  args : List String
  raw : String
  deriving Repr, DecidableEq

namespace Command

/-- A line in pieces. It is trimmed and split at every single space, so that a run of spaces gives
empty tokens. A blank line has an empty name and is kept as it is. -/
def parse (line : String) : Command :=
  if trim line = "" then ⟨"", [], line⟩
  else
    match split ' ' (trim line) with
    | name :: args => ⟨name, args, trim line⟩
    | [] => ⟨"", [], line⟩

/-- Name and tokens with single spaces between them. -/
def text (c : Command) : String := joinWith " " (c.name :: c.args)

/-- The number of pieces, the name included. -/
def size (c : Command) : Nat := c.args.length + 1

/-- A token by its place after the name. An empty token counts as missing. -/
def arg (c : Command) (index : Nat) : Option String := c.args[index]?.filter (· != "")

/-- A token by a place that may lie before the first. -/
def argAt (c : Command) (index : Int) : Option String :=
  if index < 0 then none else c.arg index.toNat

/-- One of the flags is a token. -/
def hasFlag (c : Command) (flags : List String) : Bool := flags.any c.args.contains

/-- The place after the first token that is the flag. -/
def valuePlace (c : Command) (flag : String) : Option Nat := (c.args.idxOf? flag).map (· + 1)

/-- The token after a flag. -/
def flagValue (c : Command) (flag : String) : Option String := (c.valuePlace flag).bind c.arg

/-- The integer after a flag, or a default when there is none. -/
def intFlag (c : Command) (flag : String) (default : Int) : Int :=
  parseInt (c.flagValue flag) default

end Command

/-- A token that starts with a hyphen. -/
def isFlag (token : String) : Bool := beginsWith "-" token

/-- A token that names something: it is not empty and no flag. -/
def isOperand (token : String) : Bool := token != "" && !isFlag token

/-- The operands of a list of tokens. A value flag takes the token after it with it, whatever that
is; `skip` says that the first token is taken. -/
def operandsAfter (valueFlags : List String) : Bool → List String → List String
  | _, [] => []
  | true, _ :: rest => operandsAfter valueFlags false rest
  | false, token :: rest =>
    if valueFlags.contains token then operandsAfter valueFlags true rest
    else if isOperand token then token :: operandsAfter valueFlags false rest
    else operandsAfter valueFlags false rest

/-- The operands of a list of tokens: neither flags nor the values of value flags. -/
def operands (valueFlags args : List String) : List String := operandsAfter valueFlags false args

end EmulatedShell
