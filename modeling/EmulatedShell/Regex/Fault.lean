import EmulatedShell.Fault

namespace EmulatedShell

/-- Why a text is no search pattern. -/
inductive PatternFault where
  /-- It is not written as one. -/
  | malformed
  /-- It is written as one, and reading it breaks off. -/
  | fault (reason : Fault)
  deriving Repr, DecidableEq

/-- What reading a part of a pattern gives. -/
abbrev Reading := Except PatternFault

/-- The text is not written as a pattern. -/
def malformed {α : Type} : Reading α := .error .malformed

end EmulatedShell
