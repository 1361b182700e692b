import EmulatedShell.Regex.Basic
import EmulatedShell.Regex.Flags

namespace EmulatedShell

/-- What a pair of parentheses stands for. -/
inductive Bracket where
  /-- No parentheses: the whole pattern. -/
  | whole
  | plain
  | group (index : Nat)
  | atomic
  | ahead (negated : Bool)
  /-- `outermost` if it does not stand inside another look behind. -/
  | behind (negated outermost : Bool)
  | whether (index : Nat)
  deriving Repr, DecidableEq

/-- A part of a sequence, and whether it may be repeated. -/
structure Part where
  regex : Regex
  repeatable : Bool
  deriving Repr, DecidableEq

/-- An opened pair of parentheses: the choices before the current one and the parts of the current
one, the latest first. -/
structure Frame where
  bracket : Bracket
  flags : Flags
  choices : List Regex
  parts : List Part
  deriving Repr, DecidableEq

/-- How far a pattern has been read. -/
structure Builder where
  /-- The frame that is being filled. -/
  inner : Frame
  /-- The frames around it, the innermost first. -/
  outer : List Frame
  /-- The number of the next group. -/
  nextGroup : Nat
  names : List (String × Nat)
  /-- The widths of the groups that are closed. -/
  widths : List (Nat × Width)
  /-- The groups before this number may be repeated inside the current look behind. -/
  behindLimit : Option Nat
  /-- The groups that conditions name by number. -/
  conditions : List Nat
  /-- There is a look behind without a width of its own. -/
  variableBehind : Bool
  /-- There is a repetition. -/
  repeats : Bool
  deriving Repr, DecidableEq

/-- Nothing has been read. -/
def Builder.start (ignoreCase : Bool) : Builder :=
  ⟨⟨.whole, { Flags.none with ignoreCase := ignoreCase }, [], []⟩, [], 1, [], [], none, [], false,
    false⟩

/-- A further part of the current choice. -/
def Builder.push (b : Builder) (regex : Regex) (repeatable : Bool) : Builder :=
  { b with inner := { b.inner with parts := ⟨regex, repeatable⟩ :: b.inner.parts } }

/-- One character of a test. -/
def Builder.pushTest (b : Builder) (test : CharTest) : Builder :=
  b.push (.one b.inner.flags.alphabet test) true

/-- A place, which cannot be repeated. -/
def Builder.pushAnchor (b : Builder) (place : Anchor) : Builder := b.push (.anchor place) false

/-- A new frame inside the current one. -/
def Builder.open (b : Builder) (bracket : Bracket) (flags : Flags) : Builder :=
  { b with inner := ⟨bracket, flags, [], []⟩, outer := b.inner :: b.outer }

/-- The current choice. -/
def Frame.choice (f : Frame) : Regex := Regex.seqAll (f.parts.reverse.map Part.regex)

/-- All choices of a frame, in order. -/
def Frame.regex (f : Frame) : Regex :=
  f.choices.foldl (fun later earlier => .alt earlier later) f.choice

/-- The pattern that a condition chooses by. -/
def Frame.conditional (f : Frame) (index : Nat) : Regex :=
  match f.choices with
  | [] => .whether index f.choice .empty
  | yes :: _ => .whether index yes f.choice

/-- The current choice ends. A condition has two choices at most. -/
def Builder.bar (b : Builder) : Reading Builder :=
  match b.inner.bracket, b.inner.choices with
  | .whether _, _ :: _ => malformed
  | _, choices =>
    .ok { b with inner := { b.inner with choices := b.inner.choice :: choices, parts := [] } }

/-- The number of characters that a look behind steps back. Without a width of its own the pattern
is refused in the end. -/
def Builder.closeBehind (b : Builder) (negated outermost : Bool) (body : Regex) :
    Builder × Regex :=
  let width := body.width b.widths
  let fixed := width.least = width.most && width.least < Nat.pow 2 32
  ({ b with
      behindLimit := if outermost then none else b.behindLimit
      variableBehind := b.variableBehind || !fixed },
    .look width.least negated body)

/-- The current frame ends and becomes a part of the frame around it. -/
def Builder.close (b : Builder) : Option Builder :=
  match b.outer with
  | [] => none
  | frame :: outer =>
    let around := { b with inner := frame, outer := outer }
    let body := b.inner.regex
    match b.inner.bracket with
    | .whole => none
    | .plain => some (around.push body true)
    | .group index =>
      some ({ around with widths := (index, body.width b.widths) :: b.widths }.push
        (.group index body) true)
    | .atomic => some (around.push (.atomic body) true)
    | .ahead negated => some (around.push (.look 0 negated body) true)
    | .behind negated outermost =>
      let (closed, look) := around.closeBehind negated outermost body
      some (closed.push look true)
    | .whether index => some (around.push (b.inner.conditional index) true)

/-- A new group, possibly with a name that no other group has. -/
def Builder.openGroup (b : Builder) (name : Option String) : Reading Builder :=
  let opened := { b.open (.group b.nextGroup) b.inner.flags with nextGroup := b.nextGroup + 1 }
  match name with
  | none => .ok opened
  | some name =>
    if (b.names.lookup name).isSome then malformed
    else .ok { opened with names := (name, b.nextGroup) :: b.names }

/-- A group is closed. -/
def Builder.isClosed (b : Builder) (index : Nat) : Bool := (b.widths.lookup index).isSome

/-- A group may be named inside the current look behind, if there is one. -/
def Builder.allowsBehind (b : Builder) (index : Nat) : Bool :=
  match b.behindLimit with
  | none => true
  | some limit => b.isClosed index && index < limit

/-- The text of a closed group once more. -/
def Builder.pushAgain (b : Builder) (index : Nat) : Reading Builder :=
  if b.isClosed index && b.allowsBehind index then
    .ok (b.push (.again b.inner.flags.alphabet index) true)
  else malformed

/-- A condition on a group. -/
def Builder.openWhether (b : Builder) (index : Nat) (byNumber : Bool) : Reading Builder :=
  if b.allowsBehind index then
    let opened := b.open (.whether index) b.inner.flags
    .ok { opened with conditions := if byNumber then index :: b.conditions else b.conditions }
  else malformed

/-- A look behind. The groups that are opened inside it may not be named there. -/
def Builder.openBehind (b : Builder) (negated : Bool) : Builder :=
  { b.open (.behind negated b.behindLimit.isNone) b.inner.flags with
    behindLimit := b.behindLimit <|> some b.nextGroup }

/-- Flags for the whole pattern, which may stand only at its start. -/
def Builder.addFlags (b : Builder) (flags : Flags) : Reading Builder :=
  if b.outer.isEmpty && b.inner.choices.isEmpty && b.inner.parts.isEmpty then
    .ok { b with inner := { b.inner with flags := b.inner.flags.union flags } }
  else malformed

/-- The last part, repeated. -/
def Builder.repeatLast (b : Builder) (greed : Greed) (least : Nat) (most : Option Nat) :
    Reading Builder :=
  match b.inner.parts with
  | ⟨regex, true⟩ :: parts =>
    .ok { b with
      inner := { b.inner with parts := ⟨.rep greed least most regex, false⟩ :: parts }
      repeats := true }
  | _ => malformed

/-- The finished pattern. -/
def Builder.finish (b : Builder) (closed : Bool) : Reading Regex :=
  if !b.outer.isEmpty then malformed
  else if b.inner.flags.ascii && b.inner.flags.unicode then .error (.fault .twoAlphabets)
  else if !closed || b.conditions.any (b.nextGroup ≤ ·) || b.variableBehind ||
      (b.inner.flags.template && b.repeats) then malformed
  else .ok b.inner.regex

end EmulatedShell
