import EmulatedShell.Unicode.Blank

namespace EmulatedShell

/-- A text without the characters at its start that a test accepts. -/
def dropStart (test : Char → Bool) (text : List Char) : List Char := text.dropWhile test

/-- A text without the characters at its end that a test accepts. -/
def dropEnd (test : Char → Bool) (text : List Char) : List Char :=
  (text.reverse.dropWhile test).reverse

/-- A text without the blanks at both ends. -/
def trimChars (text : List Char) : List Char := dropEnd isBlank (dropStart isBlank text)

/-- A text without the blanks at both ends. -/
def trim (text : String) : String := String.ofList (trimChars text.toList)

/-- A text without the blanks at its end. -/
def trimEnd (text : String) : String := String.ofList (dropEnd isBlank text.toList)

end EmulatedShell
