import EmulatedShell.Session.Basic

namespace EmulatedShell

namespace Session

/-- The suggestion for a typed text. There is none for a short one, nor while a command is being
carried out. -/
def suggest (host : Host) (typed : String) (s : Session) : Option String :=
  if (trim typed).length < shortestTyped || s.executing then none
  else host.predictor.predict typed s.lines

/-- What a typed text becomes when its suggestion is accepted. -/
def accept (host : Host) (typed : Option String) (s : Session) : Option String :=
  s.suggest host (typed.getD "") <|> typed

/-- The suggestions for a typed text, one by one. There is only one. -/
def completion (host : Host) (typed : String) (index : Int) (s : Session) : Option String :=
  if index > 0 then none else s.suggest host typed

/-- The current directory and the last line, as the assistant is told. -/
def setting (s : Session) : String × Option String := (s.directory, s.lastLine)

end Session

end EmulatedShell
