import EmulatedShell.Glob
import EmulatedShell.Regex.Match
import EmulatedShell.Regex.Reader
import EmulatedShell.Text.Lines
import EmulatedShell.Text.Lowercase
import EmulatedShell.Text.Quotes
import EmulatedShell.Utility

namespace EmulatedShell

/-- Where a walk starts: the first token unless it is a flag, and as the current directory when
there is none. -/
def walkStart (i : Invocation) : String :=
  match i.command.arg 0 with
  | some start => if isFlag start then "." else start
  | none => "."

/-- The directory that a walk starts from. -/
def walkRoot (i : Invocation) : String :=
  if walkStart i = "." then i.directory else i.resolve (some (walkStart i))

/-- The path of a directory with what follows the root in it: nothing for the root itself, and for a
directory below it the rest from the slash on. -/
def pathBelow (root path : String) : Option String :=
  let stem := if root = "/" then "" else root
  if path = root then some ""
  else if beginsWith (stem ++ "/") path then some (String.ofList (path.toList.drop stem.length))
  else none

/-- An entry is of the kind that a letter asks for. Any other letter asks for nothing. -/
def Entry.isKind (entry : Entry) (letter : Option String) : Bool :=
  (letter != some "f" || entry.kind == .file) && (letter != some "d" || entry.kind == .directory)

/-- A text without the slashes at its end. -/
def dropSlashes (text : String) : String := String.ofList (dropEnd (· = '/') text.toList)

/-- The entries below a directory with their paths from the start as it was typed. -/
def find (i : Invocation) : Reply :=
  let start := walkStart i
  let root := walkRoot i
  let pattern := unquote ((i.command.flagValue "-name").getD "*")
  let letter := i.command.flagValue "-type"
  if i.disk.isDirectory root then
    .lines <| i.disk.allEntries.filterMap fun (path, entry) => do
      let below ← pathBelow root path
      guard (entry.isKind letter && matchesGlob pattern entry.name)
      return dropSlashes start ++ below ++ "/" ++ entry.name
  else .fail ("find: '" ++ start ++ "': No such file or directory")

/-- A line holds a text, letters of both cases being equal if that is asked for. -/
def holdsText (ignoreCase : Bool) (needle line : String) : Bool :=
  if ignoreCase then contains (lowercase needle) (lowercase line) else contains needle line

/-- The test of lines that a pattern stands for. A text that is not written as a pattern is searched
for as it is, and so is every text that is not to be read as one. -/
def lineTest (asPattern ignoreCase : Bool) (pattern : String) : Except Fault (String → Bool) :=
  if asPattern then
    match Regex.parse ignoreCase pattern with
    | .ok regex => .ok regex.found
    | .error .malformed => .ok (holdsText ignoreCase pattern)
    | .error (.fault reason) => .error reason
  else .ok (holdsText ignoreCase pattern)

/-- The operands of a search, without quotes around them. -/
def searchOperands (i : Invocation) : List String := (i.args.filter isOperand).map unquote

/-- What a search through directories shows for a pattern. -/
def recursiveReport (pattern : String) : Reply :=
  .lines
    ["./documents/report.txt:Found " ++ pattern ++ " in line 15",
     "./projects/ai-terminal/README.md:" ++ pattern ++ " appears in documentation",
     "./projects/web-app/index.html:HTML contains " ++ pattern ++ " reference"]

/-- The lines that were found, or their number. Finding none is a failure. -/
def foundReply (i : Invocation) (found : List String) : Reply :=
  ⟨if i.command.hasFlag ["-c"] then toString found.length else joinLines found, !found.isEmpty⟩

/-- The lines of a file that a pattern is found in. -/
def grep (asPattern : Bool) (i : Invocation) : Except Fault Reply :=
  let operands := searchOperands i
  if i.command.hasFlag ["-r", "-R", "-ri", "-ir"] then
    .ok (recursiveReport (operands.head?.getD "pattern"))
  else
    match operands with
    | [] => .ok (.missing i.name "pattern")
    | [_] => .ok (.missing i.name "file operand")
    | pattern :: name :: _ =>
      match i.disk.read name with
      | none => .ok (.noSuchFile i.name name)
      | some content => do
        let test ← lineTest asPattern (i.command.hasFlag ["-i"]) pattern
        return foundReply i ((linesOf content).filter test)

/-- The reply to the first token, or a complaint that it is missing. -/
def onFirstToken (i : Invocation) (what : String) (reply : String → Reply) : Reply :=
  match i.command.arg 0 with
  | none => .missing i.name what
  | some token => reply token

/-- Places where a name might be. -/
def locate (i : Invocation) : Reply :=
  onFirstToken i "pattern" fun token =>
    let name := unquote token
    .lines
      ["/home/user/documents/" ++ name, "/usr/share/doc/" ++ name, "/var/log/" ++ name ++ ".log"]

/-- Where a command would be. -/
def which (i : Invocation) : Reply :=
  onFirstToken i "argument" fun name => .ok ("/usr/bin/" ++ name)

/-- Where a command and its manual would be. -/
def whereis (i : Invocation) : Reply :=
  onFirstToken i "argument" fun name =>
    .ok (name ++ ": /usr/bin/" ++ name ++ " /usr/share/man/man1/" ++ name ++ ".1.gz")

/-- The commands that look for files, lines and programs. -/
def searchingUtilities : List (String × Utility) :=
  [("find", .plain find), ("grep", .risky (grep true)), ("egrep", .risky (grep true)),
   ("fgrep", .risky (grep false)), ("locate", .plain locate), ("which", .plain which),
   ("whereis", .plain whereis)]

end EmulatedShell
