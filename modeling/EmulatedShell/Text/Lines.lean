import EmulatedShell.Unicode.Blank

namespace EmulatedShell

/-- The characters that end a line. A carriage return and the line feed after it end one line. -/
def isLineBreak (c : Char) : Bool :=
  ['\n', '\r', '\x0b', '\x0c', '\x1c', '\x1d', '\x1e', '\x85', '\u2028', '\u2029'].contains c

/-- The lines of a text without their breaks. A break at the end opens no further line. -/
def lineChars : List Char → List (List Char)
  | [] => []
  | '\r' :: '\n' :: rest => [] :: lineChars rest
  | c :: rest =>
    if isLineBreak c then [] :: lineChars rest
    else
      match lineChars rest with
      | [] => [[c]]
      | line :: lines => (c :: line) :: lines

/-- The lines of a text without their breaks. -/
def linesOf (text : String) : List String := (lineChars text.toList).map String.ofList

/-- The longest runs of characters that are not blank. -/
def wordChars : List Char → List (List Char)
  | [] => []
  | c :: rest =>
    if isBlank c then wordChars rest
    else
      match rest with
      | [] => [[c]]
      | next :: _ =>
        if isBlank next then [c] :: wordChars rest
        else
          match wordChars rest with
          | [] => [[c]]
          | word :: words => (c :: word) :: words

/-- The number of words in a text. -/
def wordCount (text : String) : Nat := (wordChars text.toList).length

/-- The number of bytes of a text in UTF-8. -/
def byteCount (text : String) : Nat := text.utf8ByteSize

end EmulatedShell
