namespace EmulatedShell

/-- A number of copies of one character. -/
def replicate (count : Nat) (c : Char) : String := String.ofList (List.replicate count c)

/-- A text filled up with blanks after it to a width counted in characters. -/
def padEnd (width : Nat) (text : String) : String := text ++ replicate (width - text.length) ' '

/-- A text filled up with blanks before it to a width counted in characters. -/
def padStart (width : Nat) (text : String) : String := replicate (width - text.length) ' ' ++ text

/-- A text filled up with zeros before it to a width counted in characters. -/
def padZeros (width : Nat) (text : String) : String := replicate (width - text.length) '0' ++ text

/-- A text in the middle of a width, the odd blank on the left when the width is odd. -/
def center (width : Nat) (text : String) : String :=
  let room := width - text.length
  let left := room / 2 + (if room % 2 = 1 && width % 2 = 1 then 1 else 0)
  replicate left ' ' ++ text ++ replicate (room - left) ' '

/-- A number in decimal notation with zeros before it to a width. -/
def zeroPadded (width n : Nat) : String := padZeros width (toString n)

end EmulatedShell
