import EmulatedShell.Program
import Std.Time.DateTime

namespace EmulatedShell

/-- The universal time on the clock. -/
def readClock : IO Moment := do
  let stamp ← Std.Time.Timestamp.now
  let t := Std.Time.PlainDateTime.ofWallTime (.ofTimestamp stamp .zero)
  return ⟨t.year.toInt.toNat, t.month.val.toNat, t.day.val.toNat, t.hour.val.toNat,
    t.minute.val.toNat, t.second.val.toNat, t.nanosecond.val.toNat / 1000⟩

/-- A stream of random numbers that starts somewhere new each time. -/
def readRandom : IO RandomSource := do
  let seed ← IO.rand 0 4294967295
  let values := fun (n : Nat) => Float.ofNat ((hash (seed, n)).toNat / 2048) / 9007199254740992
  return ⟨values, 0⟩

/-- Waits for the delays that a session asked for after an earlier one. -/
def waitSince (before s : Session) : IO Unit :=
  (s.slept.drop before.slept.length).forM fun seconds =>
    IO.sleep (seconds * 1000).toUInt32

/-- A line that was read, without the mark at its end. -/
def withoutLineEnd (line : String) : String :=
  if finishesWith "\n" line then dropLast 1 line else line

/-- Breaks off with the reason. -/
def breakOff {α : Type} : ConversationFault → IO α
  | .prompt fault => throw (IO.userError fault.message)
  | .command fault => throw (IO.userError fault.message)

/-- Prompts and answers until a farewell or the end of the input. -/
partial def converseLive (host : Host) (s : Session) : IO Unit := do
  let out ← IO.getStdout
  match s.prompt host with
  | .error fault => breakOff (.prompt fault)
  | .ok prompt =>
    out.putStr prompt
    out.flush
    let line ← (← IO.getStdin).getLine
    if line = "" then out.putStr "\n"
    else
      match s.respond host (.line (withoutLineEnd line) (← readClock)) with
      | (.error fault, _) => breakOff (.command fault)
      | (.ok none, _) => return
      | (.ok (some answer), t) =>
        waitSince s t
        out.putStr answer
        converseLive host t

/-- Runs the program with the choices of its call. -/
def runLive (choices : Choices) : IO UInt32 := do
  let shell := choices.shell
  let s := Session.start shell (← readRandom) (← readClock)
  match choices.command with
  | none =>
    IO.print greeting
    converseLive shell s
    IO.print parting
    return 0
  | some line =>
    match s.submit shell line with
    | (.error fault, _) => breakOff (.command fault)
    | (.ok record, t) =>
      waitSince s t
      IO.print (asLines (printed record))
      return (exitCodeOf record).toNat.toUInt32

end EmulatedShell

open EmulatedShell in
/-- The program. -/
def main (arguments : List String) : IO UInt32 := do
  match readCall arguments with
  | .error fault =>
    IO.eprint fault.complaint
    return 2
  | .ok .help =>
    IO.print usageText
    return 0
  | .ok (.run choices) => runLive choices
