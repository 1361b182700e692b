import EmulatedShell.FixedPoint

namespace EmulatedShell

/-- A date and a time of day in universal time, to the microsecond. -/
structure Moment where
  year : Nat
  month : Nat
  day : Nat
  hour : Nat
  minute : Nat
  second : Nat
  microsecond : Nat
  deriving Repr, DecidableEq, Inhabited

/-- A year with a 29th of February. -/
def isLeap (year : Nat) : Bool := year % 4 == 0 && (year % 100 != 0 || year % 400 == 0)

/-- The days of the months before a month in a common year. -/
def daysBeforeMonth (month : Nat) : Nat :=
  [0, 31, 59, 90, 120, 151, 181, 212, 243, 273, 304, 334].getD (month - 1) 0

/-- The number of days in a month. -/
def daysInMonth (year month : Nat) : Nat :=
  if month = 2 && isLeap year then 29
  else [31, 28, 31, 30, 31, 30, 31, 31, 30, 31, 30, 31].getD (month - 1) 0

/-- The day of the year, counted from zero. -/
def dayOfYear (year month day : Nat) : Nat :=
  daysBeforeMonth month + (if month > 2 && isLeap year then 1 else 0) + (day - 1)

/-- The days from the first day of year 1 to the first day of a year. -/
def daysBeforeYear (year : Nat) : Nat :=
  let past := year - 1
  365 * past + past / 4 - past / 100 + past / 400

/-- The days from the first day of year 1 to a date. -/
def dayNumber (year month day : Nat) : Nat := daysBeforeYear year + dayOfYear year month day

/-- The day of the week, counted from Sunday. The first day of year 1 was a Monday. -/
def weekday (year month day : Nat) : Nat := (dayNumber year month day + 1) % 7

/-- The day number of the first of January 1970. -/
def epochDay : Nat := 719162

/-- The whole seconds from the start of 1970, negative before it. -/
def Moment.epochSeconds (t : Moment) : Int :=
  86400 * ((dayNumber t.year t.month t.day : Int) - epochDay) +
    (3600 * t.hour + 60 * t.minute + t.second : Nat)

/-- The seconds from the start of 1970 as a double. -/
def Moment.timestamp (t : Moment) : Float :=
  Float.ofInt t.epochSeconds + Float.ofNat t.microsecond / 1000000.0

/-- A moment whose day before does not lie in the calendar has no timestamp. -/
def Moment.hasTimestamp (t : Moment) : Bool := 0 < dayNumber t.year t.month t.day

/-- The whole milliseconds from the start of 1970, computed in doubles and cut toward zero. -/
def Moment.milliseconds (t : Moment) : Int := truncate (t.timestamp * 1000.0)

/-- The standard notation of a moment, with the microseconds only if there are any. -/
def Moment.iso (t : Moment) : String :=
  zeroPadded 4 t.year ++ "-" ++ zeroPadded 2 t.month ++ "-" ++ zeroPadded 2 t.day ++ "T" ++
    zeroPadded 2 t.hour ++ ":" ++ zeroPadded 2 t.minute ++ ":" ++ zeroPadded 2 t.second ++
    if t.microsecond = 0 then "" else "." ++ zeroPadded 6 t.microsecond

end EmulatedShell
