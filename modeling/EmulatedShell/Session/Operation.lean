import EmulatedShell.Session.Conversation
import EmulatedShell.Session.Suggestion

namespace EmulatedShell

/-- What can be done with a session. While the delay of a command line is waited for, other
operations can take place. -/
inductive Operation where
  | submit (line : String) (during : List Operation)
  | run (line : String) (during : List Operation)
  | execute (line : String) (during : List Operation)
  | clear
  | setTime (now : Moment)
  | setExecuting (value : Bool)
  | observe
  | suggest (typed : String)
  | accept (typed : Option String)
  | complete (typed : String) (index : Int)
  | prompt
  | setting
  | converse (inputs : List ConsoleInput)
  deriving Inhabited

/-- What can be seen of a session. -/
structure Snapshot where
  directory : String
  lines : List String
  executing : Bool
  running : Bool
  deriving Repr, DecidableEq

/-- What can be seen of a session at present. -/
def Session.snapshot (s : Session) : Snapshot := ⟨s.directory, s.lines, s.executing, s.running⟩

/-- What comes of an operation. -/
inductive Answer where
  /-- A record, if a line was carried out, with the delays that were waited for meanwhile. -/
  | record (result : Except Fault (Option Record)) (slept : List Float) (during : List Answer)
      (after : Snapshot)
  /-- What a line printed, with the delays that were waited for meanwhile. -/
  | output (result : Except Fault String) (slept : List Float) (during : List Answer)
      (after : Snapshot)
  /-- What can be seen of the session. -/
  | snapshot (after : Snapshot)
  /-- A text, or none. -/
  | text (result : Option String)
  /-- A prompt. -/
  | prompt (result : Except TemplateFault String)
  /-- The current directory and the last line. -/
  | setting (directory : String) (last : Option String)
  /-- What a conversation printed. -/
  | conversation (result : Except ConversationFault String) (after : Snapshot)

namespace Session

/-- The delays waited for since an earlier session. -/
def sleptSince (before s : Session) : List Float := s.slept.drop before.slept.length

mutual

/-- An operation is carried out. -/
def perform (host : Host) : Operation → Session → Answer × Session
  | .submit line during, s =>
    let (result, answers, t) := s.submitAmid host line (performAll host during)
    (.record result (sleptSince s t) answers t.snapshot, t)
  | .run line during, s =>
    let (result, answers, t) := s.submitAmid host line (performAll host during)
    (.output (result.map printed) (sleptSince s t) answers t.snapshot, t)
  | .execute line during, s =>
    let (result, answers, t) := s.executeAmid host line (performAll host during)
    (.record (result.map some) (sleptSince s t) answers t.snapshot, t)
  | .clear, s => (.snapshot s.clear.snapshot, s.clear)
  | .setTime now, s => (.snapshot s.snapshot, { s with now })
  | .setExecuting value, s =>
    let t := { s with executing := value }
    (.snapshot t.snapshot, t)
  | .observe, s => (.snapshot s.snapshot, s)
  | .suggest typed, s => (.text (s.suggest host typed), s)
  | .accept typed, s => (.text (s.accept host typed), s)
  | .complete typed index, s => (.text (s.completion host typed index), s)
  | .prompt, s => (.prompt (s.prompt host), s)
  | .setting, s => (.setting s.setting.1 s.setting.2, s)
  | .converse inputs, s =>
    let (result, t) := s.converse host inputs
    (.conversation result t.snapshot, t)

/-- Operations are carried out one after another. -/
def performAll (host : Host) : List Operation → Session → List Answer × Session
  | [], s => ([], s)
  | operation :: rest, s =>
    let (answer, s) := perform host operation s
    let (answers, s) := performAll host rest s
    (answer :: answers, s)

end

end Session

end EmulatedShell
