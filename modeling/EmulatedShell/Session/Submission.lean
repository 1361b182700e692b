import EmulatedShell.Session.Execution

namespace EmulatedShell

/-- What becomes of a submitted line. -/
inductive Submission where
  /-- It is blank, or another command is being carried out. -/
  | ignored
  /-- It empties the history. -/
  | clearing
  /-- It is carried out, trimmed. -/
  | accepted (line : String)
  deriving Repr, DecidableEq

/-- The line that empties the history. -/
def clearingLine : String := "clear"

namespace Session

/-- What becomes of a line. -/
def consider (s : Session) (line : String) : Submission :=
  if trim line = "" || s.executing then .ignored
  else if trim line = clearingLine then .clearing
  else .accepted (trim line)

/-- A line is submitted. There is a record if it is carried out. What happens while a delay is
waited for comes in between. -/
def submitAmid {α : Type} (host : Host) (line : String)
    (meanwhile : Session → List α × Session) (s : Session) :
    Except Fault (Option Record) × List α × Session :=
  match s.consider line with
  | .ignored => (.ok none, [], s)
  | .clearing => (.ok none, [], s.clear)
  | .accepted line =>
    let (result, answers, s) := s.executeAmid host line meanwhile
    (result.map some, answers, s)

/-- A line is submitted with nothing in between. -/
def submit (host : Host) (line : String) (s : Session) :
    Except Fault (Option Record) × Session :=
  let (result, _, s) := s.submitAmid host line fun s => (([] : List Unit), s)
  (result, s)

end Session

/-- What a submitted line printed. -/
def printed (record : Option Record) : String := (record.map Record.output).getD ""

end EmulatedShell
