import EmulatedShell.Session.Basic

namespace EmulatedShell

/-- A command line that has begun: it has its identifier and its time. -/
structure Pending where
  line : String
  id : RecordId
  time : Moment
  deriving Repr, DecidableEq

/-- The text for a command that the shell does not have. -/
def notFoundText (name : String) : String :=
  name ++ ": command not found\n\nTry 'help' to see available commands or ask the AI assistant " ++
    "for guidance!"

/-- The outcome of a command that the shell does not have. -/
def notFound (name : String) : Outcome := ⟨notFoundText name, 127, none⟩

/-- The outcome of a command that broke off. -/
def brokenOff (fault : Fault) : Outcome :=
  ⟨"Error executing command: " ++ fault.message, 1, none⟩

namespace Session

/-- The delay before a command is drawn and waited for, unless the longest one is zero. Both can
break off. -/
def delay (host : Host) (s : Session) : Option Fault × Session :=
  if host.settings.delay.isPositive then
    match host.settings.delay.draw s.random with
    | (.error fault, random) => (some fault, { s with random })
    | (.ok seconds, random) =>
      match host.sleep seconds with
      | some fault => (some fault, { s with random })
      | none => (none, { s with random, slept := s.slept ++ [seconds] })
  else (none, s)

/-- A command line begins: the clock is read, an identifier is given out, and the delay is waited
for. A time without a timestamp gives no identifier; then nothing has happened. -/
def begin (host : Host) (line : String) (s : Session) : Except Fault Pending × Session :=
  if s.now.hasTimestamp then
    let id := ⟨s.now.milliseconds, s.issued + 1⟩
    match delay host { s with executing := true, issued := s.issued + 1 } with
    | (none, t) => (.ok ⟨line, id, s.now⟩, t)
    | (some fault, t) => (.error fault, { t with executing := false })
  else (.error .beforeCalendar, { s with executing := false })

/-- What a command is run with in a session. -/
def invocation (host : Host) (command : Command) (s : Session) : Invocation :=
  ⟨command, s.directory, host.disk, host.settings.user, host.settings.hostname,
    host.settings.home⟩

/-- What surrounds a command in a session, at the time at which it began. -/
def surroundings (host : Host) (time : Moment) (s : Session) : Surroundings :=
  ⟨host.catalogue, s.history, time⟩

/-- The fault of a command that is not caught, with the random numbers after it. A command that the
host does not have raises none. -/
def uncaught (host : Host) (command : Command) (time : Moment) (s : Session) :
    Option (Fault × RandomSource) :=
  match host.handlers.get? command.name with
  | none => none
  | some _ => host.uncaught (s.invocation host command) (s.surroundings host time) s.random

/-- The outcome of a command, and the random numbers after it. A command that breaks off with a
fault that is caught has an outcome all the same. -/
def dispatch (host : Host) (command : Command) (time : Moment) (s : Session) :
    Outcome × RandomSource :=
  match host.handlers.get? command.name with
  | none => (notFound command.name, s.random)
  | some handler =>
    match handler (s.invocation host command) (s.surroundings host time) s.random with
    | (.ok outcome, random) => (outcome, random)
    | (.error fault, random) => (brokenOff fault, random)

/-- The directory after an outcome: the one it names if there is such a directory, and the current
one otherwise. -/
def directoryAfter (host : Host) (outcome : Outcome) (s : Session) : String :=
  (outcome.directory.filter host.disk.isDirectory).getD s.directory

/-- A command line that has begun is carried out and recorded. -/
def finish (host : Host) (pending : Pending) (s : Session) : Record × Session :=
  let command := Command.parse pending.line
  let (outcome, random) := s.dispatch host command pending.time
  let record :=
    ⟨pending.id, command.raw, outcome.output, pending.time, outcome.exitCode, s.directory⟩
  (record,
    { s with
      directory := s.directoryAfter host outcome, history := s.history ++ [record],
      executing := false, random })

/-- A command line is carried out. What happens while its delay is waited for comes in between;
without a delay, nothing does. A fault that is not caught leaves no record. -/
def executeAmid {α : Type} (host : Host) (line : String)
    (meanwhile : Session → List α × Session) (s : Session) :
    Except Fault Record × List α × Session :=
  match s.begin host line with
  | (.error fault, s) => (.error fault, [], s)
  | (.ok pending, s) =>
    let (answers, s) := if host.settings.delay.isPositive then meanwhile s else ([], s)
    match s.uncaught host (Command.parse pending.line) pending.time with
    | some (fault, random) => (.error fault, answers, { s with executing := false, random })
    | none =>
      let (record, s) := s.finish host pending
      (.ok record, answers, s)

/-- A command line is carried out with nothing in between. -/
def execute (host : Host) (line : String) (s : Session) : Except Fault Record × Session :=
  let (result, _, s) := s.executeAmid host line fun s => (([] : List Unit), s)
  (result, s)

end Session

end EmulatedShell
