import EmulatedShell.Table
import EmulatedShell.Text.Lowercase
import EmulatedShell.Text.Substring
import EmulatedShell.Text.Trim

namespace EmulatedShell

/-- What a follow-up asks of the typed text. -/
def TypedTest : Type := String → Bool

namespace TypedTest

/-- The typed text passes the test. -/
def accepts (test : TypedTest) (typed : String) : Bool := test typed

/-- The typed text is the given one. -/
def equals (text : String) : TypedTest := fun typed => typed == text

/-- The typed text starts with the given one. -/
def beginsWith (text : String) : TypedTest := EmulatedShell.beginsWith text

end TypedTest

/-- A suggestion for a typed text after a command that contains a text. -/
structure FollowUp where
  needle : String
  test : TypedTest
  suggestion : String

/-- What suggestions are taken from: patterns, in order, and follow-ups to the last command. -/
structure Predictor where
  patterns : Table String
  followUps : List FollowUp

/-- The fewest characters for which anything is suggested. -/
def shortestTyped : Nat := 3

/-- The typed text as it is compared. -/
def normalTyped (typed : String) : String := trim (lowercase typed)

namespace Predictor

/-- The suggestion of the first pattern that continues the typed text. A suggestion that is the
typed text does not count. -/
def fromPatterns (p : Predictor) (typed : String) : Option String :=
  (p.patterns.entries.find? fun pattern =>
    let key := lowercase pattern.1
    beginsWith typed key && key != typed && lowercase pattern.2 != typed).map Prod.snd

/-- The suggestion of the first follow-up to the last command. A suggestion that is the typed text
does not count. -/
def fromFollowUps (p : Predictor) (typed last : String) : Option String :=
  (p.followUps.find? fun rule =>
    contains rule.needle last && rule.test.accepts typed &&
      lowercase rule.suggestion != typed).map FollowUp.suggestion

/-- The command line that the typed text is likely to become. Patterns come first, and only when
they have nothing does the last command count. -/
def predict (p : Predictor) (typed : String) (history : List String) : Option String :=
  let typed := normalTyped typed
  if typed.length < shortestTyped then none
  else
    match p.fromPatterns typed with
    | some suggestion => some suggestion
    | none => history.getLast?.bind fun last => p.fromFollowUps typed (lowercase last)

end Predictor

end EmulatedShell
