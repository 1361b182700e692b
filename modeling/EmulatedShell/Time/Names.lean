namespace EmulatedShell

/-- The days of the week from Sunday on. -/
def weekdayNames : List String :=
  ["Sunday", "Monday", "Tuesday", "Wednesday", "Thursday", "Friday", "Saturday"]

/-- The months of the year. -/
def monthNames : List String :=
  ["January", "February", "March", "April", "May", "June", "July", "August", "September",
   "October", "November", "December"]

/-- The name of a day of the week counted from Sunday. -/
def weekdayName (weekday : Nat) : String := weekdayNames.getD weekday ""

/-- The name of a month counted from one. -/
def monthName (month : Nat) : String := monthNames.getD (month - 1) ""

/-- A name cut to its first letters. -/
def abbreviated (letters : Nat) (name : String) : String :=
  String.ofList (name.toList.take letters)

end EmulatedShell
