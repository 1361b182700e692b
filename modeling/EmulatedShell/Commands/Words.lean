import EmulatedShell.Text.Quotes
import EmulatedShell.Utility

namespace EmulatedShell

/-- The lines that text commands work on, in order. -/
def sampleLines : List String := ["apple", "banana", "cherry", "date", "fig", "grape"]

/-- The tokens with single spaces between them, a leading option left out. -/
def echo (i : Invocation) : Reply :=
  match i.args with
  | first :: rest =>
    .ok (joinWith " " (if first = "-n" || first = "-e" then rest else first :: rest))
  | [] => .ok ""

/-- The sample lines in order, or in the opposite one. -/
def sort (i : Invocation) : Reply :=
  i.onOperand "file operand" fun _ =>
    .lines (if i.command.hasFlag ["-r"] then sampleLines.reverse else sampleLines)

/-- The first sample lines, with how often they come if that is asked for. -/
def uniq (i : Invocation) : Reply :=
  i.onOperand "file operand" fun _ =>
    let lines := sampleLines.take 3
    .lines (if i.command.hasFlag ["-c"] then lines.map ("      1 " ++ ·) else lines)

/-- Some token starts with a text. -/
def hasTokenFrom (i : Invocation) (start : String) : Bool := i.args.any (beginsWith start)

/-- Fields or characters of sample lines. -/
def cut (i : Invocation) : Reply :=
  if hasTokenFrom i "-d" && hasTokenFrom i "-f" then .lines ["user", "root", "daemon", "bin"]
  else if hasTokenFrom i "-c" then .lines ["abcdefghij", "klmnopqrst", "uvwxyz1234"]
  else .fail "cut: you must specify a list of bytes, characters, or fields"

/-- Acknowledges that characters are replaced. -/
def tr (i : Invocation) : Reply :=
  if i.command.size < 3 then .missing "tr" "operand" else .ok "Character translation completed"

/-- The reply to the last token, which names a file. -/
def onLastToken (i : Invocation) (reply : String → Reply) : Reply :=
  match i.args.getLast? with
  | none | some "" => .missing i.name "script or file"
  | some target => reply target

/-- Acknowledges that a text is edited. -/
def sed (i : Invocation) : Reply :=
  onLastToken i fun target => .ok ("Text substitution completed on " ++ target)

/-- The fields of a sample line. -/
def awk (i : Invocation) : Reply := onLastToken i fun _ => .lines ["field1", "field2", "field3"]

/-- The last piece of a path. -/
def lastPiece (path : String) : String := (split '/' path).getLast?.getD ""

/-- A name without an ending, unless the ending is the whole name. -/
def dropEnding (ending : Option String) (name : String) : String :=
  match ending with
  | some text =>
    if finishesWith text name && name != text then dropLast text.length name else name
  | none => name

/-- The last piece of a path, without an ending if one is given. -/
def basename (i : Invocation) : Reply :=
  match i.command.arg 0 with
  | none => .missing "basename" "operand"
  | some path => .ok (dropEnding (i.command.arg 1) (lastPiece path))

/-- A path without its last piece. What is left of a single piece is the root. -/
def withoutLastPiece (path : String) : String :=
  let rest := joinWith "/" (split '/' path).dropLast
  if rest = "" then "/" else rest

/-- A path without its last piece. -/
def dirname (i : Invocation) : Reply :=
  match i.command.arg 0 with
  | none => .missing "dirname" "operand"
  | some path => .ok (withoutLastPiece path)

/-- Acknowledges a command that takes its tokens from elsewhere. -/
def xargs (i : Invocation) : Reply :=
  if i.command.size < 2 then .missing "xargs" "command"
  else .ok "xargs: executing command with piped input"

/-- Acknowledges that the output goes to a file as well. -/
def tee (i : Invocation) : Reply :=
  let first := i.command.arg 0
  match if first = some "-a" then i.command.arg 1 else first with
  | none => .missing "tee" "file operand"
  | some target => .ok ("Output written to both stdout and '" ++ unquote target ++ "'")

/-- The commands that work on text. -/
def wordUtilities : List (String × Utility) :=
  [("echo", .plain echo), ("sort", .plain sort), ("uniq", .plain uniq), ("cut", .plain cut),
   ("tr", .plain tr), ("sed", .plain sed), ("awk", .plain awk), ("basename", .plain basename),
   ("dirname", .plain dirname), ("xargs", .plain xargs), ("tee", .plain tee)]

end EmulatedShell
