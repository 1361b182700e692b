namespace EmulatedShell

/-- The pieces of a text between the occurrences of one character. There is always at least one. -/
def splitChars (sep : Char) : List Char → List (List Char)
  | [] => [[]]
  | c :: rest =>
    if c = sep then [] :: splitChars sep rest
    else
      match splitChars sep rest with
      | [] => [[c]]
      | piece :: pieces => (c :: piece) :: pieces

/-- The pieces of a text between the occurrences of one character. -/
def split (sep : Char) (text : String) : List String :=
  (splitChars sep text.toList).map String.ofList

/-- The texts one after the other with a separator between neighbours. -/
def joinWith (sep : String) : List String → String
  | [] => ""
  | [text] => text
  | text :: next :: rest => text ++ sep ++ joinWith sep (next :: rest)

/-- A text of several lines, the breaks between them. -/
def joinLines (lines : List String) : String := joinWith "\n" lines

theorem splitChars_ne_nil (sep : Char) (text : List Char) : splitChars sep text ≠ [] := by
  cases text with
  | nil => simp [splitChars]
  | cons c rest =>
    unfold splitChars
    split
    · simp
    · split <;> simp

end EmulatedShell
