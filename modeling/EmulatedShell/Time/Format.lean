import EmulatedShell.Time.Directive

namespace EmulatedShell

/-- A part of a moment that a letter stands for. -/
inductive DatePart where
  | literal (text : String)
  | name (text : String)
  | half (text : String) (small : Bool)
  | number (filling : Filling) (digits : Nat) (value : Int)
  /-- A whole format of its own. -/
  | composed (text : String)
  deriving Repr

/-- Two digits, zero before the units. -/
def twoDigits (value : Nat) : DatePart := .number .zeros 2 value

/-- Two places, a blank before the units. -/
def twoPlaces (value : Nat) : DatePart := .number .blanks 2 value

/-- Hours, minutes and seconds with colons between them. -/
def clockText (t : Moment) : String :=
  zeroPadded 2 t.hour ++ ":" ++ zeroPadded 2 t.minute ++ ":" ++ zeroPadded 2 t.second

/-- Month, day and the last two digits of the year with slashes between them. -/
def slashedDate (t : Moment) : String :=
  zeroPadded 2 t.month ++ "/" ++ zeroPadded 2 t.day ++ "/" ++ zeroPadded 2 (t.year % 100)

/-- The short name of the day of the week. -/
def shortWeekday (t : Moment) : String := abbreviated 3 (weekdayName (weekday t.year t.month t.day))

/-- The short name of the month. -/
def shortMonth (t : Moment) : String := abbreviated 3 (monthName t.month)

/-- The part of a moment that a letter of a date format stands for. -/
def Moment.part (t : Moment) : Char → Option DatePart
  | '%' => some (.literal "%")
  | 'a' => some (.name (shortWeekday t))
  | 'A' => some (.name (weekdayName (weekday t.year t.month t.day)))
  | 'b' | 'h' => some (.name (shortMonth t))
  | 'B' => some (.name (monthName t.month))
  | 'c' => some (.composed (shortWeekday t ++ " " ++ shortMonth t ++ " " ++
      padStart 2 (toString t.day) ++ " " ++ clockText t ++ " " ++ toString t.year))
  | 'C' => some (.number .zeros 1 (t.year / 100 : Nat))
  | 'd' => some (twoDigits t.day)
  | 'D' | 'x' => some (.composed (slashedDate t))
  | 'e' => some (twoPlaces t.day)
  | 'F' => some (.composed (toString t.year ++ "-" ++ zeroPadded 2 t.month ++ "-" ++
      zeroPadded 2 t.day))
  | 'g' => some (twoDigits ((weekDate t).1 % 100))
  | 'G' => some (.number .zeros 1 (weekDate t).1)
  | 'H' => some (twoDigits t.hour)
  | 'I' => some (twoDigits (dialHour t.hour))
  | 'j' => some (.number .zeros 3 (dayOfYear t.year t.month t.day + 1 : Nat))
  | 'k' => some (twoPlaces t.hour)
  | 'l' => some (twoPlaces (dialHour t.hour))
  | 'm' => some (twoDigits t.month)
  | 'M' => some (twoDigits t.minute)
  | 'n' => some (.literal "\n")
  | 'p' => some (.half (dayHalf t) false)
  | 'P' => some (.half (dayHalf t) true)
  | 'r' => some (.composed (zeroPadded 2 (dialHour t.hour) ++ ":" ++ zeroPadded 2 t.minute ++ ":" ++
      zeroPadded 2 t.second ++ " " ++ dayHalf t))
  | 'R' => some (.composed (zeroPadded 2 t.hour ++ ":" ++ zeroPadded 2 t.minute))
  | 's' => some (.literal (toString t.epochSeconds))
  | 'S' => some (twoDigits t.second)
  | 't' => some (.literal "\t")
  | 'T' | 'X' => some (.composed (clockText t))
  | 'u' => some (.number .zeros 1 ((weekday t.year t.month t.day + 6) % 7 + 1 : Nat))
  | 'U' => some (twoDigits (weekFrom 0 t))
  | 'V' => some (twoDigits (weekDate t).2)
  | 'w' => some (.number .zeros 1 (weekday t.year t.month t.day))
  | 'W' => some (twoDigits (weekFrom 1 t))
  | 'y' => some (twoDigits (t.year % 100))
  | 'Y' => some (.number .zeros 1 t.year)
  | 'z' | 'Z' => some (.literal "")
  | _ => none

/-- The letters that take an alternative form, by the letter that asks for it. -/
def takesAlternative : Option Char → Char → Bool
  | none, _ => true
  | some 'E', letter => "cCnpPrRstTuxXyYzZ".toList.contains letter
  | some _, letter => "bBdegGhHIjklmMnpPrRsStTuUVwWyzZ".toList.contains letter

/-- A part of a moment in the form that a directive asks for. -/
def Directive.render (d : Directive) : DatePart → String
  | .literal text => d.fill text
  | .name text => d.name text
  | .half text small => d.fill (if small || d.swapped then text.toLower else text)
  | .number filling digits value => d.number filling digits value
  | .composed text => d.text text

/-- A directive that stands for nothing is copied. -/
def Directive.copied (d : Directive) : String := d.text (String.ofList d.source)

/-- The text that a directive stands for, and the format after it. -/
def Moment.expand (t : Moment) (limit : Nat) (text : List Char) : String × List Char :=
  let (d, rest) := Directive.read limit text
  let written := '%' :: text.take (text.length - rest.length)
  match rest with
  | [] => ({ d with source := written }.copied, [])
  | letter :: rest =>
    match t.part letter with
    | some part =>
      if takesAlternative d.alternative letter then
        (if letter = 'z' then "" else d.render part, rest)
      else ({ d with source := written ++ [letter] }.copied, rest)
    | none => ({ d with source := written ++ [letter] }.copied, rest)

/-- The format with its directives carried out. Each step uses up at least the percent sign, so as
many steps as the format has characters are enough. -/
def Moment.expandAll (t : Moment) (limit : Nat) : Nat → List Char → String
  | 0, _ => ""
  | _, [] => ""
  | steps + 1, '%' :: rest =>
    let (text, rest) := t.expand limit rest
    text ++ t.expandAll limit steps rest
  | steps + 1, c :: rest => String.singleton c ++ t.expandAll limit steps rest

/-- The format with the plain directives for microseconds and for the absent zone filled in. -/
def Moment.fillFraction (t : Moment) : List Char → List Char
  | [] => []
  | '%' :: 'f' :: rest => (zeroPadded 6 t.microsecond).toList ++ t.fillFraction rest
  | '%' :: 'z' :: rest => t.fillFraction rest
  | '%' :: 'Z' :: rest => t.fillFraction rest
  | '%' :: c :: rest => '%' :: c :: t.fillFraction rest
  | c :: rest => c :: t.fillFraction rest

/-- The room that a result may take: the first of 1024, 2048, 4096, … that holds it or that is at
least 256 times the length of the format. -/
def roomFor (formatLength resultLength : Nat) : Nat → Nat → Nat
  | 0, room => room
  | steps + 1, room =>
    if resultLength < room || 256 * formatLength ≤ room then room
    else roomFor formatLength resultLength steps (2 * room)

/-- A moment in a format of percent directives. A result that does not fit its room is empty. -/
def Moment.format (t : Moment) (format : String) : String :=
  let filled := t.fillFraction format.toList
  let result := t.expandAll (1024 * (filled.length + 2)) filled.length filled
  let room := roomFor filled.length result.length (filled.length + 1) 1024
  if result.length < room then result else ""

end EmulatedShell
