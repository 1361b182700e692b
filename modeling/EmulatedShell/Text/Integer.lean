import EmulatedShell.Text.Trim
import EmulatedShell.Unicode.Digit

namespace EmulatedShell

/-- The longest run of digits that is read as a number. -/
def digitLimit : Nat := 4300

/-- The number that a run of digits writes, most significant digit first. -/
def digitsValue (digits : List Char) : Nat :=
  digits.foldl (fun value c => 10 * value + (digitValue c).getD 0) 0

/-- The sign at the start of a text, and the text after it. -/
def takeSign : List Char → Bool × List Char
  | '-' :: rest => (true, rest)
  | '+' :: rest => (false, rest)
  | text => (false, text)

/-- The integer that a text starts with, after blanks and an optional sign. -/
def leadingInteger (text : List Char) : Option Int :=
  let signed := takeSign (text.dropWhile isBlank)
  let digits := signed.2.takeWhile isDigit
  if digits.isEmpty || digits.length > digitLimit then none
  else some (if signed.1 then -(digitsValue digits : Int) else digitsValue digits)

/-- The integer that a text starts with, or a default when there is none. -/
def parseInt (text : Option String) (default : Int) : Int :=
  (text.bind fun t => leadingInteger t.toList).getD default

end EmulatedShell
