import EmulatedShell.Session.Prompt
import EmulatedShell.Session.Submission

namespace EmulatedShell

/-- What is typed at a prompt: a line, with the time if the clock has gone on until then, or an
interrupt. -/
inductive ConsoleInput where
  | line (text : String) (now : Option Moment)
  | interrupt
  deriving Repr, DecidableEq

/-- The reasons for which a conversation can break off. -/
inductive ConversationFault where
  | prompt (fault : TemplateFault)
  | command (fault : Fault)
  deriving Repr, DecidableEq

/-- The words that end a conversation. -/
def farewells : List String := ["exit", "quit", "logout"]

/-- A line that ends a conversation. -/
def isFarewell (line : String) : Bool := farewells.contains (trim line)

/-- What is printed when a conversation starts. -/
def greeting : String :=
  "Welcome to AI Terminal\nType 'help' for available commands, Tab to accept a suggestion, " ++
    "'exit' to quit\n\n"

/-- What is printed when a conversation ends. -/
def parting : String := "Goodbye!\n"

/-- A text on lines of its own, or nothing if it is empty. -/
def asLines (text : String) : String := if text = "" then "" else text ++ "\n"

namespace Session

/-- The session when the clock shows a time, or still what it did. -/
def withClock (now : Option Moment) (s : Session) : Session := { s with now := now.getD s.now }

/-- What is printed in answer to an input. There is no answer to a farewell. -/
def respond (host : Host) (input : ConsoleInput) (s : Session) :
    Except Fault (Option String) × Session :=
  match input with
  | .interrupt => (.ok (some "^C\n"), s)
  | .line text now =>
    if isFarewell text then (.ok none, s)
    else
      let (result, s) := (s.withClock now).submit host text
      (result.map fun record => some (asLines (printed record)), s)

/-- What is printed from the first prompt to the end of a conversation. The end of the input ends
it too. -/
def dialogue (host : Host) (inputs : List ConsoleInput) (s : Session) :
    Except ConversationFault String × Session :=
  match s.prompt host with
  | .error fault => (.error (.prompt fault), s)
  | .ok prompt =>
    match inputs with
    | [] => (.ok (prompt ++ "\n"), s)
    | input :: rest =>
      match s.respond host input with
      | (.error fault, s) => (.error (.command fault), s)
      | (.ok none, s) => (.ok prompt, s)
      | (.ok (some answer), s) =>
        let (result, s) := dialogue host rest s
        (result.map fun printed => prompt ++ answer ++ printed, s)

/-- What a whole conversation prints. The session is marked as running until its end, which one that
breaks off does not come to. -/
def converse (host : Host) (inputs : List ConsoleInput) (s : Session) :
    Except ConversationFault String × Session :=
  match { s with running := true }.dialogue host inputs with
  | (.error fault, s) => (.error fault, s)
  | (.ok printed, s) => (.ok (greeting ++ printed ++ parting), { s with running := false })

end Session

end EmulatedShell
