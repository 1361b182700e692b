import EmulatedShell.Catalogue.Basic
import EmulatedShell.Command
import EmulatedShell.Disk.Basic
import EmulatedShell.Fault
import EmulatedShell.Path
import EmulatedShell.RandomSource
import EmulatedShell.Session.Record

namespace EmulatedShell

/-- What a command is run with: its tokens, where, on which disk, by whom and on which machine. -/
structure Invocation where
  command : Command
  directory : String
  disk : Disk
  user : String
  hostname : String
  home : String

/-- What surrounds an invocation besides: the known commands, the records of the session so far,
and the time. -/
structure Surroundings where
  catalogue : Catalogue
  history : List Record
  now : Moment

/-- What a command leaves behind. No directory means that the current one is kept. -/
structure Outcome where
  output : String
  exitCode : Int
  directory : Option String
  deriving Repr, DecidableEq

/-- A handler carries out an invocation. It may draw random numbers, and it may break off. -/
abbrev Handler :=
  Invocation → Surroundings → RandomSource → Except Fault Outcome × RandomSource

/-- Handlers by the names of their commands. -/
abbrev HandlerTable := Table Handler

/-- A text, and whether the command succeeded. -/
structure Reply where
  output : String
  succeeded : Bool
  deriving Repr, DecidableEq

namespace Reply

/-- The reply of a command that succeeded. -/
def ok (output : String) : Reply := ⟨output, true⟩

/-- The reply of a command that failed. -/
def fail (output : String) : Reply := ⟨output, false⟩

/-- The reply of a command that succeeded, line by line. -/
def lines (output : List String) : Reply := ok (joinLines output)

/-- A command lacks something. -/
def missing (name what : String) : Reply := fail (name ++ ": missing " ++ what)

/-- There is no file of a name. -/
def noSuchFile (name target : String) : Reply :=
  fail (name ++ ": " ++ target ++ ": No such file or directory")

/-- Success is exit code zero, failure exit code one, and the current directory is kept. -/
def outcome (r : Reply) : Outcome := ⟨r.output, if r.succeeded then 0 else 1, none⟩

end Reply

/-- A built-in command, by what it looks at besides its invocation. -/
inductive Utility where
  /-- Nothing. -/
  | plain (reply : Invocation → Reply)
  /-- Nothing, and it may break off. -/
  | risky (reply : Invocation → Except Fault Reply)
  /-- Nothing, and it names a directory to go to when it succeeds. -/
  | moving (target : Invocation → Except String String)
  /-- The time. -/
  | dated (reply : Invocation → Moment → Reply)
  /-- The time, and it may break off. -/
  | riskyDated (reply : Invocation → Moment → Except Fault Reply)
  /-- The lines of the session so far. -/
  | recalling (reply : Invocation → List String → Reply)
  /-- The known commands. -/
  | consulting (reply : Invocation → Catalogue → Reply)
  /-- Random numbers. -/
  | sampling (reply : Invocation → RandomSource → Reply × RandomSource)

/-- The outcome of going to a directory, or of failing to. -/
def movedTo : Except String String → Outcome
  | .ok directory => ⟨"", 0, some directory⟩
  | .error output => ⟨output, 1, none⟩

/-- The handler of a built-in command. -/
def Utility.handler : Utility → Handler
  | .plain reply, i, _, random => (.ok (reply i).outcome, random)
  | .risky reply, i, _, random => ((reply i).map Reply.outcome, random)
  | .moving target, i, _, random => (.ok (movedTo (target i)), random)
  | .dated reply, i, s, random => (.ok (reply i s.now).outcome, random)
  | .riskyDated reply, i, s, random => ((reply i s.now).map Reply.outcome, random)
  | .recalling reply, i, s, random => (.ok (reply i (s.history.map Record.line)).outcome, random)
  | .consulting reply, i, s, random => (.ok (reply i s.catalogue).outcome, random)
  | .sampling reply, i, _, random =>
    let (r, random) := reply i random
    (.ok r.outcome, random)

namespace Invocation

/-- The name that the command was called by. -/
def name (i : Invocation) : String := i.command.name

/-- The tokens after the name. -/
def args (i : Invocation) : List String := i.command.args

/-- The operands of the command. Value flags take the token after them with them. -/
def operands (i : Invocation) (valueFlags : List String) : List String :=
  EmulatedShell.operands valueFlags i.args

/-- The user in the usual column of eight. -/
def userColumn (i : Invocation) : String := padEnd 8 i.user

/-- The path that a target names from the current directory. -/
def resolve (i : Invocation) (target : Option String) : String :=
  resolvePath i.directory target i.home

/-- The reply to the first operand, or a complaint that it is missing. -/
def onOperand (i : Invocation) (what : String) (reply : String → Reply) : Reply :=
  match i.operands [] with
  | [] => .missing i.name what
  | target :: _ => reply target

/-- The reply to the first two operands, or a complaint that one is missing. -/
def onTwoOperands (i : Invocation) (what : String) (reply : String → String → Reply) : Reply :=
  match i.operands [] with
  | first :: second :: _ => reply first second
  | _ => .missing i.name what

/-- The reply to the content of the first operand that names a file. -/
def onContent (i : Invocation) (valueFlags : List String) (reply : String → String → Reply) :
    Reply :=
  match i.operands valueFlags with
  | [] => .missing i.name "file operand"
  | name :: _ =>
    match i.disk.read name with
    | none => .noSuchFile i.name name
    | some content => reply name content

end Invocation

end EmulatedShell
