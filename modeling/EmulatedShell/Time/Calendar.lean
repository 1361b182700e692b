import EmulatedShell.Text.Split
import EmulatedShell.Text.Trim
import EmulatedShell.Time.Moment
import EmulatedShell.Time.Names

namespace EmulatedShell

/-- The width of a month: seven columns of two characters and the gaps between them. -/
def monthWidth : Nat := 20

/-- The gap between the months that stand side by side. -/
def monthGap : String := "      "

/-- The days of a month in weeks from Sunday to Saturday. Days of other months are zero. -/
def weeksOf (year month : Nat) : List (List Nat) :=
  let lead := weekday year month 1
  let days := daysInMonth year month
  (List.range ((lead + days + 6) / 7)).map fun week =>
    (List.range 7).map fun column =>
      let cell := 7 * week + column + 1
      if lead < cell && cell ≤ lead + days then cell - lead else 0

/-- A day in its column of two characters. -/
def dayText (day : Nat) : String := if day = 0 then "  " else padStart 2 (toString day)

/-- A week on one line. -/
def weekText (week : List Nat) : String := joinWith " " (week.map dayText)

/-- The line of the days of the week over a month. -/
def weekHeader : String := joinWith " " (weekdayNames.map (abbreviated 2))

/-- A calendar of one month. -/
def monthCalendar (year month : Nat) : String :=
  joinLines <|
    (center monthWidth (monthName month ++ " " ++ toString year) :: weekHeader ::
      (weeksOf year month).map weekText).map trimEnd

/-- Columns of one month's width side by side. -/
def sideBySide (columns : List String) : String :=
  trimEnd (joinWith monthGap (columns.map (center monthWidth)))

/-- Three months side by side under their names, with as many lines as the longest needs. -/
def quarterLines (year first : Nat) : List String :=
  let months := [first, first + 1, first + 2]
  let weeks := months.map (weeksOf year)
  let height := (weeks.map List.length).foldl max 0
  "" :: sideBySide (months.map monthName) :: sideBySide (months.map fun _ => weekHeader) ::
    (List.range height).map fun line =>
      sideBySide (weeks.map fun month => ((month[line]?).map weekText).getD "")

/-- A calendar of a whole year, three months to a row. -/
def yearCalendar (year : Nat) : String :=
  joinLines <|
    trimEnd (center (3 * monthWidth + 2 * monthGap.length) (toString year)) ::
      [1, 4, 7, 10].flatMap (quarterLines year)

end EmulatedShell
