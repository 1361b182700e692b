import EmulatedShell.Unicode.Range

namespace EmulatedShell

/-- The code points that separate words and are trimmed from the ends of a text: those with a
white-space, paragraph-separator or segment-separator direction, and all space separators. -/
def blankRanges : List (Nat × Nat) :=
  [(9, 13), (28, 32), (133, 133), (160, 160), (5760, 5760), (8192, 8202), (8232, 8233),
   (8239, 8239), (8287, 8287), (12288, 12288)]

/-- A character that trimming removes. -/
def isBlank (c : Char) : Bool := inRanges blankRanges c.toNat

end EmulatedShell
