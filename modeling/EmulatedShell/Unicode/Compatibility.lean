namespace EmulatedShell

/-- The characters outside ASCII whose compatibility form holds a slash, a question mark, a number
sign, an at sign or a colon. -/
def delimiterLookalikes : List Nat :=
  [8263, 8264, 8265, 8448, 8449, 8453, 8454, 10868, 65043, 65046, 65109, 65110, 65119, 65131,
   65283, 65295, 65306, 65311, 65312]

/-- A character that normalization would turn into a delimiter of an address. -/
def hidesDelimiter (c : Char) : Bool := delimiterLookalikes.contains c.toNat

end EmulatedShell
