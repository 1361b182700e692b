import EmulatedShell.Text.Split
import EmulatedShell.Time.Moment
import EmulatedShell.Time.Names

namespace EmulatedShell

/-- How a number is filled up to its width. -/
inductive Filling where
  /-- With the filling that belongs to the directive. -/
  | usual
  /-- Not at all. -/
  | bare
  | blanks
  | zeros
  deriving Repr, DecidableEq

/-- One directive of a date format: what stands between the percent sign and its letter. -/
structure Directive where
  filling : Filling
  upper : Bool
  swapped : Bool
  width : Nat
  /-- The letter `E` or `O` before the letter of the directive. -/
  alternative : Option Char
  /-- The directive as it was written, with its percent sign. -/
  source : List Char
  deriving Repr

/-- The flags of a directive in any number and order. The last filling counts. -/
def Directive.takeFlags : Directive → List Char → Directive × List Char
  | d, '_' :: rest => takeFlags { d with filling := .blanks } rest
  | d, '-' :: rest => takeFlags { d with filling := .bare } rest
  | d, '0' :: rest => takeFlags { d with filling := .zeros } rest
  | d, '^' :: rest => takeFlags { d with upper := true } rest
  | d, '#' :: rest => takeFlags { d with swapped := true } rest
  | d, rest => (d, rest)

/-- The value of a run of ASCII digits. -/
def asciiValue (digits : List Char) : Nat :=
  digits.foldl (fun value c => 10 * value + (c.toNat - '0'.toNat)) 0

/-- The directive before its letter, and the text from the letter on. No width is read beyond a
limit. -/
def Directive.read (limit : Nat) (text : List Char) : Directive × List Char :=
  let flagged := Directive.takeFlags ⟨.usual, false, false, 0, none, []⟩ text
  let digits := flagged.2.takeWhile Char.isDigit
  let rest := flagged.2.dropWhile Char.isDigit
  let d := { flagged.1 with width := min limit (asciiValue digits) }
  match rest with
  | 'E' :: letter => ({ d with alternative := some 'E' }, letter)
  | 'O' :: letter => ({ d with alternative := some 'O' }, letter)
  | letter => (d, letter)

/-- A text of a directive, filled up on the left with blanks, or with zeros where these were asked
for. -/
def Directive.fill (d : Directive) (text : String) : String :=
  if d.filling = .zeros then padZeros d.width text else padStart d.width text

/-- A text of a directive in the letters that were asked for. -/
def Directive.text (d : Directive) (text : String) : String :=
  d.fill (if d.upper then text.toUpper else text)

/-- A name, in capitals where a flag asks for these. -/
def Directive.name (d : Directive) (name : String) : String :=
  d.fill (if d.upper || d.swapped then name.toUpper else name)

/-- A number of at least `digits` digits, or of the width of the directive if that is larger. -/
def Directive.number (d : Directive) (own : Filling) (digits : Nat) (value : Int) : String :=
  let filling := if d.filling = .usual then own else d.filling
  let digits := max digits d.width
  let sign := if value < 0 then "-" else ""
  let figures := toString value.natAbs
  match filling with
  | .bare => d.fill (sign ++ figures)
  | .blanks => padStart digits (sign ++ figures)
  | _ => sign ++ padZeros (digits - sign.length) figures

/-- The hour on a dial of twelve. -/
def dialHour (hour : Nat) : Nat := if hour % 12 = 0 then 12 else hour % 12

/-- The year and the number of the week by the rule that weeks start on Monday and belong to the
year of their Thursday. -/
def weekDate (t : Moment) : Nat × Nat :=
  let monday := (weekday t.year t.month t.day + 6) % 7
  let yearDay := dayOfYear t.year t.month t.day
  -- the day of the year of this week's Thursday, counted from the start of the year before
  let lastYear := if isLeap (t.year - 1) then 366 else 365
  let thisYear := if isLeap t.year then 366 else 365
  let thursday := lastYear + yearDay + 3 - monday
  if thursday < lastYear then (t.year - 1, thursday / 7 + 1)
  else if thursday - lastYear ≥ thisYear then (t.year + 1, (thursday - lastYear - thisYear) / 7 + 1)
  else (t.year, (thursday - lastYear) / 7 + 1)

/-- The number of the week when weeks start on a day of the week and the days before the first
such day are week zero. -/
def weekFrom (start : Nat) (t : Moment) : Nat :=
  (dayOfYear t.year t.month t.day + 7 - (weekday t.year t.month t.day + 7 - start) % 7) / 7

/-- The two halves of the day. -/
def dayHalf (t : Moment) : String := if t.hour < 12 then "AM" else "PM"

end EmulatedShell
