import EmulatedShell.Catalogue.Builtin
import EmulatedShell.CommandLine.Choices
import EmulatedShell.CommandLine.Usage
import EmulatedShell.Session.Conversation

namespace EmulatedShell

/-- What a run of the program leaves behind: its exit code, what it printed, what it complained of
if its call was refused or explained, and the delays that it waited for. -/
structure Report where
  exitCode : Int
  printed : String
  complaint : Option String
  slept : List Float

/-- The shell of a program call. -/
def Choices.shell (choices : Choices) : Shell :=
  { disk := usualDisk
    handlers := builtinHandlers
    catalogue := builtinCatalogue
    settings :=
      { usualSettings with
        user := choices.user, start := choices.directory,
        delay := if choices.delayed then .usual else .zero }
    predictor := usualPredictor
    patient := by cases choices.delayed <;> exact fun _ _ => ⟨_, _, rfl, rfl⟩
    contained := nothingUncaught_eq }

/-- The exit code of a program that carried out a single line. -/
def exitCodeOf (record : Option Record) : Int := (record.map Record.exitCode).getD 0

/-- A single line is carried out, and the program ends with its exit code. -/
def runLine (host : Host) (line : String) (s : Session) : Except ConversationFault Report :=
  match s.submit host line with
  | (.error fault, _) => .error (.command fault)
  | (.ok record, s) => .ok ⟨exitCodeOf record, asLines (printed record), none, s.slept⟩

/-- A conversation takes place, and the program ends well. -/
def runConversation (host : Host) (inputs : List ConsoleInput) (s : Session) :
    Except ConversationFault Report :=
  let (result, s) := s.converse host inputs
  result.map fun printed => ⟨0, printed, none, s.slept⟩

/-- The whole program: a single line if its call has one, and a conversation otherwise. -/
def runProgram (arguments : List String) (inputs : List ConsoleInput) (random : RandomSource)
    (now : Moment) : Except ConversationFault Report :=
  match readCall arguments with
  | .error fault => .ok ⟨2, "", some fault.complaint, []⟩
  | .ok .help => .ok ⟨0, usageText, some "", []⟩
  | .ok (.run choices) =>
    let shell := choices.shell
    let s := Session.start shell random now
    match choices.command with
    | some line => runLine shell line s
    | none => runConversation shell inputs s

end EmulatedShell
