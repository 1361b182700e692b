import EmulatedShell.Regex.Basic

namespace EmulatedShell

/-- A place in a text: what lies before it, nearest first, and what lies after it. -/
structure Cursor where
  before : List Char
  after : List Char
  deriving Repr, DecidableEq

/-- The place that lies a number of characters before. -/
def Cursor.back : Nat → Cursor → Option Cursor
  | 0, here => some here
  | n + 1, ⟨c :: before, after⟩ => Cursor.back n ⟨before, c :: after⟩
  | _ + 1, ⟨[], _⟩ => none

/-- The text from one place to a later one. -/
def Cursor.upTo (start finish : Cursor) : List Char :=
  start.after.take (start.after.length - finish.after.length)

/-- A character that words are made of stands first. -/
def startsWord (ascii : Bool) : List Char → Bool
  | [] => false
  | c :: _ => CharClass.word.holds ascii c.toNat

/-- A word starts or ends here. -/
def Cursor.atWordEdge (here : Cursor) (ascii : Bool) : Bool :=
  startsWord ascii here.before != startsWord ascii here.after

/-- There is no character at all. -/
def Cursor.inEmptyText (here : Cursor) : Bool := here.before.isEmpty && here.after.isEmpty

/-- A place is one that an anchor asks for. An empty text has neither word edges nor others. -/
def Anchor.holds (here : Cursor) : Anchor → Bool
  | .textStart => here.before.isEmpty
  | .textEnd => here.after.isEmpty
  | .lastLineEnd => here.after == [] || here.after == ['\n']
  | .lineStart => here.before.isEmpty || here.before.head? == some '\n'
  | .lineEnd => here.after.isEmpty || here.after.head? == some '\n'
  | .wordEdge ascii => !here.inEmptyText && here.atWordEdge ascii
  | .notWordEdge ascii => !here.inEmptyText && !here.atWordEdge ascii

/-- How far a match has come: the place, and the texts of the groups, the latest first. -/
structure Progress where
  cursor : Cursor
  groups : List (Nat × List Char)
  deriving Repr, DecidableEq

/-- What is left to be matched: it accepts a progress and gives the final one, or refuses it. -/
abbrev Continuation := Progress → Option Progress

/-- A pattern as a search: it offers its ways to the rest of the pattern, best first, until one is
accepted. -/
abbrev Search := Progress → Continuation → Option Progress

/-- The place after one character that passes a test. -/
def Progress.step (p : Progress) (test : Nat → Bool) : Option Progress :=
  match p.cursor.after with
  | c :: after =>
    if test c.toNat then some { p with cursor := ⟨c :: p.cursor.before, after⟩ } else none
  | [] => none

/-- The place after a text, letters that are not told apart being equal. -/
def Progress.skip (a : Alphabet) : List Char → Progress → Option Progress
  | [], p => some p
  | c :: text, p => (p.step fun n => a.fold n == a.fold c.toNat).bind (Progress.skip a text)

/-- A number of rounds, then the rest. -/
def rounds (body : Search) : Nat → Search
  | 0, p, rest => rest p
  | n + 1, p, rest => body p fun q => rounds body n q rest

/-- One less, if there is a bound. -/
def oneLess (room : Option Nat) : Option Nat := room.map (· - 1)

/-- No further round is tried: the room is used up, or the round before took up nothing. -/
def isSpent (room last : Option Nat) (p : Progress) : Bool :=
  room == some 0 || last == some p.cursor.after.length

/-- Further rounds, more before fewer. `last` is how much text there was before the round before. -/
def moreRounds (body : Search) (rest : Continuation) :
    Nat → Option Nat → Option Nat → Progress → Option Progress
  | 0, _, _, p => rest p
  | steps + 1, room, last, p =>
    if isSpent room last p then rest p
    else
      match body p (moreRounds body rest steps (oneLess room) (some p.cursor.after.length)) with
      | some final => some final
      | none => rest p

/-- Further rounds, fewer before more. -/
def fewerRounds (body : Search) (rest : Continuation) :
    Nat → Option Nat → Option Nat → Progress → Option Progress
  | 0, _, _, p => rest p
  | steps + 1, room, last, p =>
    match rest p with
    | some final => some final
    | none =>
      if isSpent room last p then none
      else body p (fewerRounds body rest steps (oneLess room) (some p.cursor.after.length))

/-- As many further rounds as there are, each in its first way. -/
def allRounds (body : Search) : Nat → Option Nat → Option Nat → Progress → Progress
  | 0, _, _, p => p
  | steps + 1, room, last, p =>
    if isSpent room last p then p
    else
      match body p some with
      | some q => allRounds body steps (oneLess room) (some p.cursor.after.length) q
      | none => p

/-- A number of rounds, each in its first way. -/
def firstRounds (body : Search) : Nat → Progress → Option Progress
  | 0, p => some p
  | n + 1, p => (body p some).bind (firstRounds body n)

/-- A repetition. Every round but the last takes up a character, so the text bounds their number. -/
def repeated (greed : Greed) (least : Nat) (most : Option Nat) (body : Search) : Search :=
  fun p rest =>
    let room := most.map (· - least)
    match greed with
    | .most =>
      rounds body least p fun q => moreRounds body rest (q.cursor.after.length + 2) room none q
    | .fewest =>
      rounds body least p fun q => fewerRounds body rest (q.cursor.after.length + 2) room none q
    | .all =>
      (firstRounds body least p).bind fun q =>
        rest (allRounds body (q.cursor.after.length + 2) room none q)

/-- The search of a pattern. -/
def Regex.run : Regex → Search
  | .empty, p, rest => rest p
  | .one alphabet test, p, rest => (p.step (test.accepts alphabet)).bind rest
  | .anchor place, p, rest => if place.holds p.cursor then rest p else none
  | .seq first second, p, rest => first.run p fun q => second.run q rest
  | .alt first second, p, rest =>
    match first.run p rest with
    | some final => some final
    | none => second.run p rest
  | .group index body, p, rest =>
    body.run p fun q => rest { q with groups := (index, p.cursor.upTo q.cursor) :: q.groups }
  | .atomic body, p, rest => (body.run p some).bind rest
  | .look back negated body, p, rest =>
    match (p.cursor.back back).bind fun start => body.run { p with cursor := start } some with
    | some q => if negated then none else rest { q with cursor := p.cursor }
    | none => if negated then rest p else none
  | .again alphabet index, p, rest =>
    match p.groups.lookup index with
    | some text => (p.skip alphabet text).bind rest
    | none => none
  | .whether index yes no, p, rest =>
    if (p.groups.lookup index).isSome then yes.run p rest else no.run p rest
  | .rep greed least most body, p, rest =>
    repeated greed least most (fun q k => body.run q k) p rest

/-- The pattern matches at a place. -/
def Regex.matchesAt (pattern : Regex) (here : Cursor) : Bool := (pattern.run ⟨here, []⟩ some).isSome

/-- The pattern matches at a place or at a later one. -/
def Regex.foundFrom (pattern : Regex) (before : List Char) : List Char → Bool
  | [] => pattern.matchesAt ⟨before, []⟩
  | c :: after => pattern.matchesAt ⟨before, c :: after⟩ || pattern.foundFrom (c :: before) after

/-- The pattern matches somewhere in a text. -/
def Regex.found (pattern : Regex) (text : String) : Bool := pattern.foundFrom [] text.toList

end EmulatedShell
