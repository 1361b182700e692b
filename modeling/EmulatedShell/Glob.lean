namespace EmulatedShell

/-- What may stand between the square brackets of a name pattern. -/
inductive GlobItem where
  | char (c : Char)
  | range (first last : Char)
  deriving Repr, DecidableEq

/-- A character is in an item. -/
def GlobItem.holds (c : Char) : GlobItem → Bool
  | .char d => c == d
  | .range first last => first ≤ c && c ≤ last

/-- One piece of a name pattern. -/
inductive GlobPiece where
  | char (c : Char)
  | anyChar
  | anyText
  | set (negated : Bool) (items : List GlobItem)
  deriving Repr, DecidableEq

/-- The pieces of brackets between the hyphens that make ranges. A hyphen makes a range between its
neighbours if two characters at least lie between it and the hyphen before; the others stand for
themselves. `gap` counts the characters that are passed over before the next hyphen may count. -/
def hyphenPieces : Nat → List Char → List (List Char)
  | _, [] => [[]]
  | gap, c :: rest =>
    if gap = 0 && c = '-' then [] :: hyphenPieces 2 rest
    else
      match hyphenPieces (gap - 1) rest with
      | [] => [[c]]
      | piece :: pieces => (c :: piece) :: pieces

/-- A hyphen at the end stands for itself. -/
def closePieces : List (List Char) → List (List Char)
  | [piece, []] => [piece ++ ['-']]
  | piece :: pieces => piece :: closePieces pieces
  | [] => []

/-- Ranges whose ends are in the wrong order hold nothing and are left out with their ends. -/
def dropReversed : List (List Char) → List (List Char)
  | [] => []
  | piece :: pieces =>
    match dropReversed pieces with
    | next :: rest =>
      match piece.getLast?, next with
      | some first, last :: tail =>
        if last < first then (piece.dropLast ++ tail) :: rest else piece :: next :: rest
      | _, _ => piece :: next :: rest
    | [] => [piece]

/-- The items of a piece and of the pieces after it: the neighbours of a hyphen are the ends of a
range. After an empty piece the hyphen stands for itself. -/
def itemsFrom (piece : List Char) : List (List Char) → List GlobItem
  | [] => piece.map .char
  | next :: rest =>
    match piece.getLast?, next with
    | some first, last :: tail =>
      piece.dropLast.map .char ++ .range first last :: itemsFrom tail rest
    | none, _ => .char '-' :: itemsFrom next rest
    | some _, [] => piece.map .char ++ itemsFrom [] rest

/-- The piece that brackets stand for. An exclamation mark in front negates them; what holds nothing
matches nothing, and its negation any character. -/
def bracketPiece (inside : List Char) : GlobPiece :=
  let start := if inside.head? = some '!' then 2 else 1
  match dropReversed (closePieces (hyphenPieces start inside)) with
  | [] => .set false []
  | ('!' :: piece) :: rest =>
    if piece.isEmpty && rest.isEmpty then .anyChar else .set true (itemsFrom piece rest)
  | piece :: rest => .set false (itemsFrom piece rest)

/-- The text between brackets, after the opening one, and the text after the closing one. A closing
bracket that comes first, or right after an exclamation mark, does not close. -/
def takeBrackets (text : List Char) : Option (List Char × List Char) :=
  let mark := if text.head? = some '!' then 1 else 0
  let skip := if (text.drop mark).head? = some ']' then mark + 1 else mark
  let rest := text.drop skip
  match rest.dropWhile (· != ']') with
  | _ :: after => some (text.take skip ++ rest.takeWhile (· != ']'), after)
  | [] => none

/-- The pieces of a name pattern. Each step uses up a character, so as many steps as there are
characters are enough. -/
def globPieces : Nat → List Char → List GlobPiece
  | 0, _ => []
  | _, [] => []
  | steps + 1, '*' :: rest => .anyText :: globPieces steps rest
  | steps + 1, '?' :: rest => .anyChar :: globPieces steps rest
  | steps + 1, '[' :: rest =>
    match takeBrackets rest with
    | some (inside, after) => bracketPiece inside :: globPieces steps after
    | none => .char '[' :: globPieces steps rest
  | steps + 1, c :: rest => .char c :: globPieces steps rest

/-- One character fits a piece that stands for one character. -/
def GlobPiece.fits (c : Char) : GlobPiece → Bool
  | .char d => c == d
  | .anyChar => true
  | .anyText => false
  | .set negated items => items.any (GlobItem.holds c) != negated

/-- For every place of a list, whether there is a truth there or further on. -/
def trueFrom : List Bool → List Bool
  | [] => []
  | b :: rest =>
    let later := trueFrom rest
    (b || later.headD false) :: later

/-- For every place of a text, the end included, whether the rest of the text from there matches the
pieces. -/
def globSuffixes (text : List Char) : List GlobPiece → List Bool
  | [] => text.map (fun _ => false) ++ [true]
  | .anyText :: pieces => trueFrom (globSuffixes text pieces)
  | piece :: pieces =>
    let later := (globSuffixes text pieces).tail
    List.zipWith (fun c after => piece.fits c && after) text later ++ [false]

/-- A text matches the pieces from its first character to its last. -/
def globMatches (pieces : List GlobPiece) (text : List Char) : Bool :=
  (globSuffixes text pieces).headD false

/-- A name matches a pattern of stars, question marks and brackets. -/
def matchesGlob (pattern name : String) : Bool :=
  globMatches (globPieces pattern.length pattern.toList) name.toList

end EmulatedShell
