import EmulatedShell.Text.Quotes
import EmulatedShell.Time.Calendar
import EmulatedShell.Time.Format
import EmulatedShell.Utility

namespace EmulatedShell

/-- The time, in the format after the first plus sign at the start of a token. -/
def date (i : Invocation) (now : Moment) : Reply :=
  match i.args.dropWhile fun token => !beginsWith "+" token with
  | [] => .ok (now.format "%a %b %d %H:%M:%S UTC %Y")
  | tokens => .ok (now.format (unquote (String.ofList ((joinWith " " tokens).toList.drop 1))))

/-- The years that a calendar covers. -/
def isCalendarYear (year : Int) : Bool := 1 ≤ year && year ≤ 9999

/-- A calendar of a year, unless it lies outside the calendar. -/
def inYear (text : Option String) (now : Moment) (calendar : Nat → String) : Reply :=
  let year := parseInt text now.year
  if isCalendarYear year then .ok (calendar year.toNat)
  else .fail ("cal: year '" ++ text.getD "None" ++ "' not in range 1..9999")

/-- A calendar of a month, or of a whole year if that is asked for or a year alone is given. -/
def cal (i : Invocation) (now : Moment) : Reply :=
  let operands := i.operands []
  if i.command.hasFlag ["-y"] || operands.length = 1 then inYear operands.head? now yearCalendar
  else
    let month := parseInt operands.head? now.month
    if 1 ≤ month && month ≤ 12 then
      inYear operands[1]? now fun year => monthCalendar year month.toNat
    else
      .fail ("cal: " ++ operands.head?.getD "None" ++
        " is neither a month number (1..12) nor a name")

/-- The commands that tell the time. -/
def dateUtilities : List (String × Utility) := [("date", .dated date), ("cal", .dated cal)]

end EmulatedShell
