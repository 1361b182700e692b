import EmulatedShell.Commands.Builtin
import EmulatedShell.Prediction.Usual
import EmulatedShell.Session.Record
import EmulatedShell.Session.Settings
import EmulatedShell.Utility

namespace EmulatedShell

/-- No handler breaks off with a fault that is not caught. -/
def nothingUncaught (_ : Invocation) (_ : Surroundings) (_ : RandomSource) :
    Option (Fault × RandomSource) := none

theorem nothingUncaught_eq (i : Invocation) (s : Surroundings) (random : RandomSource) :
    nothingUncaught i s random = none := rfl

/-- What a session runs on, which stays the same throughout: a disk, commands, what is known about
them, settings and a predictor. Waiting for some seconds can break off. So can a handler, not only
with a fault that is caught and shown, but also with one that is not, which leaves random numbers
behind. -/
structure Host where
  disk : Disk
  handlers : HandlerTable
  catalogue : Catalogue
  settings : Settings
  predictor : Predictor
  sleep : Float → Option Fault := fun _ => none
  uncaught : Invocation → Surroundings → RandomSource → Option (Fault × RandomSource) :=
    nothingUncaught

/-- A host on which every delay can be drawn and waited for, and on which the faults of handlers are
all caught. -/
structure Shell extends Host where
  patient : settings.delay.isPositive = true → ∀ random : RandomSource, ∃ seconds later,
    settings.delay.draw random = (.ok seconds, later) ∧ sleep seconds = none
  contained : ∀ i s random, uncaught i s random = none

instance : Coe Shell Host := ⟨Shell.toHost⟩

/-- A session: the current directory, the records so far, whether a command is being carried out,
whether a conversation is under way, how many identifiers are given out, the random numbers, the
time on the clock, and the delays that were waited for. -/
structure Session where
  directory : String
  history : List Record
  executing : Bool
  running : Bool
  issued : Nat
  random : RandomSource
  now : Moment
  slept : List Float

namespace Session

/-- The directory that a session starts in: the one asked for if there is such a directory, and the
home directory otherwise. -/
def startDirectory (host : Host) : String :=
  if host.disk.isDirectory host.settings.start then host.settings.start
  else host.settings.home

/-- A new session. -/
def start (host : Host) (random : RandomSource) (now : Moment) : Session :=
  ⟨startDirectory host, [], false, false, 0, random, now, []⟩

/-- The lines of the records. -/
def lines (s : Session) : List String := s.history.map Record.line

/-- The line of the last record. -/
def lastLine (s : Session) : Option String := s.lines.getLast?

/-- The session without its records. The current directory is kept. -/
def clear (s : Session) : Session := { s with history := [] }

end Session

end EmulatedShell
