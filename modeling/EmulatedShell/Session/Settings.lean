import EmulatedShell.Disk.Usual
import EmulatedShell.Fault
import EmulatedShell.RandomSource

namespace EmulatedShell

/-- A number of seconds, a whole one or one with a fraction. -/
inductive Seconds where
  | whole (n : Int)
  | real (x : Float)

/-- A whole number as one with a fraction, unless it is too large. -/
def floatOf (n : Int) : Except Fault Float :=
  if (Float.ofInt n).isInf then .error .numberTooLarge else .ok (Float.ofInt n)

namespace Seconds

/-- The seconds as a number with a fraction, unless they are too many. -/
def toFloat : Seconds → Except Fault Float
  | whole n => floatOf n
  | real x => .ok x

/-- The number is not at most zero. -/
def isPositive : Seconds → Bool
  | whole n => !decide (n ≤ 0)
  | real x => !decide (x ≤ 0)

end Seconds

/-- The bounds of the delay before a command, in seconds. -/
structure DelayRange where
  shortest : Seconds
  longest : Seconds

namespace DelayRange

/-- No delay at all. -/
def zero : DelayRange := ⟨.real 0, .real 0⟩

/-- The delay of a shell that seems busy. -/
def usual : DelayRange := ⟨.real 0.2, .real 0.7⟩

/-- There is a delay to wait for. -/
def isPositive (d : DelayRange) : Bool := d.longest.isPositive

/-- A delay between the bounds is drawn. Whole bounds are subtracted as they are, and take another
form only when the random number is there. -/
def draw (d : DelayRange) (source : RandomSource) : Except Fault Float × RandomSource :=
  match d.shortest, d.longest with
  | .whole low, .whole high =>
    let (x, source) := source.next
    (do return (← floatOf low) + (← floatOf (high - low)) * x, source)
  | low, high =>
    match low.toFloat, high.toFloat with
    | .ok low, .ok high =>
      let (seconds, source) := source.between low high
      (.ok seconds, source)
    | .error fault, _ | _, .error fault => (.error fault, source)

end DelayRange

/-- What a session is set up with. -/
structure Settings where
  user : String
  hostname : String
  home : String
  start : String
  delay : DelayRange
  promptTemplate : String

/-- The settings of a session about which nothing special is said. -/
def usualSettings : Settings :=
  ⟨"user", "ai-terminal", usualHome, usualHome, .usual,
    "\x7buser\x7d@\x7bhostname\x7d:\x7bcwd\x7d$ "⟩

end EmulatedShell
