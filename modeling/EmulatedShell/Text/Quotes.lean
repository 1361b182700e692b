namespace EmulatedShell

/-- The two characters that quote a word. -/
def isQuote (c : Char) : Bool := c = '"' || c = '\''

/-- A word without one layer of equal quotes around it. -/
def unquoteChars (word : List Char) : List Char :=
  match word with
  | first :: second :: rest =>
    if isQuote first && (second :: rest).getLast? = some first then (second :: rest).dropLast
    else word
  | _ => word

/-- A word without one layer of equal quotes around it. -/
def unquote (word : String) : String := String.ofList (unquoteChars word.toList)

end EmulatedShell
