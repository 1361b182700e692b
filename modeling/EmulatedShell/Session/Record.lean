import EmulatedShell.Time.Moment

namespace EmulatedShell

/-- What a record is known by: the milliseconds of its time, and its number in the session. -/
structure RecordId where
  milliseconds : Int
  number : Nat
  deriving Repr, DecidableEq

/-- The written form of an identifier. -/
def RecordId.text (id : RecordId) : String := toString id.milliseconds ++ "-" ++ toString id.number

/-- A command that was carried out: the line, what it printed, when it began, its exit code, and
the directory in which it ran. -/
structure Record where
  id : RecordId
  line : String
  output : String
  time : Moment
  exitCode : Int
  directory : String
  deriving Repr, DecidableEq

end EmulatedShell
