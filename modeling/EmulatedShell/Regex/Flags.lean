import EmulatedShell.Regex.CharTest
import EmulatedShell.Regex.Fault

namespace EmulatedShell

/-- How the letters of a pattern are read. -/
structure Flags where
  ignoreCase : Bool
  multiline : Bool
  dotAll : Bool
  /-- Blanks and comments between the parts of a pattern are skipped. -/
  verbose : Bool
  ascii : Bool
  unicode : Bool
  /-- Repetitions are not allowed. -/
  template : Bool
  deriving Repr, DecidableEq

/-- No flag at all. -/
def Flags.none : Flags := ⟨false, false, false, false, false, false, false⟩

/-- The flag that a letter stands for. -/
def Flags.ofLetter : Char → Option Flags
  | 'i' => some { Flags.none with ignoreCase := true }
  | 'm' => some { Flags.none with multiline := true }
  | 's' => some { Flags.none with dotAll := true }
  | 'x' => some { Flags.none with verbose := true }
  | 'a' => some { Flags.none with ascii := true }
  | 'u' => some { Flags.none with unicode := true }
  | 't' => some { Flags.none with template := true }
  | _ => Option.none

/-- The flags of both. -/
def Flags.union (f g : Flags) : Flags :=
  ⟨f.ignoreCase || g.ignoreCase, f.multiline || g.multiline, f.dotAll || g.dotAll,
    f.verbose || g.verbose, f.ascii || g.ascii, f.unicode || g.unicode, f.template || g.template⟩

/-- The flags of the first that the second has not got. -/
def Flags.without (f g : Flags) : Flags :=
  ⟨f.ignoreCase && !g.ignoreCase, f.multiline && !g.multiline, f.dotAll && !g.dotAll,
    f.verbose && !g.verbose, f.ascii && !g.ascii, f.unicode && !g.unicode,
    f.template && !g.template⟩

/-- The flags have one in common. -/
def Flags.meets (f g : Flags) : Bool := f.without g != f

/-- The alphabet is among the flags. -/
def Flags.namesAlphabet (f : Flags) : Bool := f.ascii || f.unicode

/-- The flags inside a group that adds some and drops some. An added alphabet replaces the one
before. -/
def Flags.scoped (f added dropped : Flags) : Flags :=
  let f := if added.namesAlphabet then { f with ascii := false, unicode := false } else f
  (f.union added).without dropped

/-- Which characters are told apart under the flags. -/
def Flags.alphabet (f : Flags) : Alphabet := ⟨f.ignoreCase, f.ascii⟩

/-- What a group of flags asks for: flags for the whole pattern, or for its own body. -/
inductive FlagGroup where
  | whole (flags : Flags)
  | body (added dropped : Flags)
  deriving Repr, DecidableEq

/-- The flags that a group drops, up to the colon, and the text after it. -/
def takeDropped (added : Flags) :
    Flags → Bool → List Char → Reading (FlagGroup × List Char)
  | _, _, [] => malformed
  | dropped, someDropped, c :: rest =>
    if c = ':' && someDropped then
      if added.meets dropped then malformed else .ok (.body added dropped, rest)
    else
      match Flags.ofLetter c with
      | some flag =>
        if flag.namesAlphabet || flag.template then malformed
        else takeDropped added (dropped.union flag) true rest
      | Option.none => malformed

/-- The flags that a group adds and drops, and the text after them. Two alphabets do not go
together. -/
def takeFlags : Flags → Bool → List Char → Reading (FlagGroup × List Char)
  | _, _, [] => malformed
  | added, someAdded, c :: rest =>
    if c = ')' && someAdded then .ok (.whole added, rest)
    else if c = ':' && someAdded then
      if added.template then malformed else .ok (.body added Flags.none, rest)
    else if c = '-' then
      if added.template then malformed else takeDropped added Flags.none false rest
    else
      match Flags.ofLetter c with
      | some flag =>
        let added := added.union flag
        if added.ascii && added.unicode then malformed else takeFlags added true rest
      | Option.none => malformed

end EmulatedShell
