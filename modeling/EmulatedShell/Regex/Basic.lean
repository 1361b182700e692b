import EmulatedShell.Regex.CharTest

namespace EmulatedShell

/-- A place in a text that takes up no character. -/
inductive Anchor where
  | textStart
  | textEnd
  /-- The end, or the line feed that is the last character. -/
  | lastLineEnd
  | lineStart
  | lineEnd
  | wordEdge (ascii : Bool)
  | notWordEdge (ascii : Bool)
  deriving Repr, DecidableEq

/-- In which order the numbers of rounds of a repetition are tried. -/
inductive Greed where
  | most
  | fewest
  /-- As many as possible, and no other number. -/
  | all
  deriving Repr, DecidableEq

/-- A search pattern. -/
inductive Regex where
  | empty
  | one (alphabet : Alphabet) (test : CharTest)
  | anchor (place : Anchor)
  | seq (first second : Regex)
  | alt (first second : Regex)
  | group (index : Nat) (body : Regex)
  /-- The body in its first way alone. -/
  | atomic (body : Regex)
  /-- The body matches here, or `back` characters before here, and takes up nothing. -/
  | look (back : Nat) (negated : Bool) (body : Regex)
  /-- The text of a group once more. -/
  | again (alphabet : Alphabet) (index : Nat)
  /-- One pattern if a group has a text, another one if it has none. -/
  | whether (index : Nat) (yes no : Regex)
  | rep (greed : Greed) (least : Nat) (most : Option Nat) (body : Regex)
  deriving Repr, DecidableEq

/-- The patterns one after the other. -/
def Regex.seqAll (parts : List Regex) : Regex := parts.foldr .seq .empty

/-- The least and the greatest number of characters that a pattern takes up. -/
structure Width where
  least : Nat
  most : Nat
  deriving Repr, DecidableEq

/-- The width from which on widths are no longer told apart. -/
def widthLimit : Nat := Nat.pow 2 64

/-- The width of two patterns one after the other. -/
def Width.add (v w : Width) : Width :=
  ⟨min widthLimit (v.least + w.least), min widthLimit (v.most + w.most)⟩

/-- The width of a choice. -/
def Width.join (v w : Width) : Width := ⟨min v.least w.least, max v.most w.most⟩

/-- The width of a repetition. -/
def Width.times (w : Width) (least : Nat) : Option Nat → Width
  | some most => ⟨min widthLimit (w.least * least), min widthLimit (w.most * most)⟩
  | none => ⟨min widthLimit (w.least * least), if w.most = 0 then 0 else widthLimit⟩

/-- The width of a pattern, given the widths of the groups that it repeats. -/
def Regex.width (groups : List (Nat × Width)) : Regex → Width
  | .empty | .anchor _ | .look _ _ _ => ⟨0, 0⟩
  | .one _ _ => ⟨1, 1⟩
  | .seq first second => (first.width groups).add (second.width groups)
  | .alt first second => (first.width groups).join (second.width groups)
  | .group _ body | .atomic body => body.width groups
  | .again _ index => (groups.lookup index).getD ⟨0, 0⟩
  | .whether _ yes no => (yes.width groups).join (no.width groups)
  | .rep _ least most body => (body.width groups).times least most

end EmulatedShell
