import EmulatedShell.Unicode.Blank
import EmulatedShell.Unicode.CaseKin
import EmulatedShell.Unicode.Digit
import EmulatedShell.Unicode.LowerTable
import EmulatedShell.Unicode.Word

namespace EmulatedShell

/-- Which characters a pattern tells apart. -/
structure Alphabet where
  /-- Letters that differ in case alone are the same. -/
  ignoreCase : Bool
  /-- Classes and letter case know ASCII alone. -/
  ascii : Bool
  deriving Repr, DecidableEq

/-- The small letter of an ASCII capital. -/
def asciiLowerCode (n : Nat) : Nat := if 65 ≤ n ∧ n ≤ 90 then n + 32 else n

/-- The code that stands for all the codes that are not told apart from `n`. -/
def Alphabet.fold (a : Alphabet) (n : Nat) : Nat :=
  if !a.ignoreCase then n else if a.ascii then asciiLowerCode n else lowerCode n

/-- The folded codes that count as the folded code `n`. -/
def Alphabet.kin (a : Alphabet) (n : Nat) : List Nat :=
  if a.ignoreCase && !a.ascii then caseKin n else [n]

/-- The codes whose folded code is the folded code `n`. -/
def Alphabet.origins (a : Alphabet) (n : Nat) : List Nat :=
  if !a.ignoreCase then [n]
  else if a.ascii then n :: (if 97 ≤ n ∧ n ≤ 122 then [n - 32] else [])
  else n :: capitalCodes n

/-- The classes that have an escape of their own. -/
inductive CharClass where
  | digit
  | blank
  | word
  deriving Repr, DecidableEq

/-- A code is in a class. -/
def CharClass.holds (ascii : Bool) : CharClass → Nat → Bool
  | .digit, n => if ascii then 48 ≤ n && n ≤ 57 else (digitValueIn digitRanges n).isSome
  | .blank, n => if ascii then n == 32 || (9 ≤ n && n ≤ 13) else inRanges blankRanges n
  | .word, n =>
    if ascii then (48 ≤ n && n ≤ 57) || (65 ≤ n && n ≤ 90) || (97 ≤ n && n ≤ 122) || n == 95
    else inRanges wordRanges n

/-- What may stand between square brackets. -/
inductive SetItem where
  | code (n : Nat)
  | range (first last : Nat)
  | kind (k : CharClass) (negated : Bool)
  deriving Repr, DecidableEq

/-- A folded code is in an item. Letters beyond the basic plane stand for themselves here. -/
def SetItem.holds (a : Alphabet) (folded : Nat) : SetItem → Bool
  | .code n => if n < 0x10000 then (a.kin (a.fold n)).contains folded else n == folded
  | .range first last =>
    (a.kin folded).any fun k => (a.origins k).any fun n => first ≤ n && n ≤ last
  | .kind k negated => k.holds a.ascii folded != negated

/-- What one character of a text is tested for. -/
inductive CharTest where
  | code (n : Nat)
  | otherThan (n : Nat)
  | any (lineFeed : Bool)
  | set (negated : Bool) (items : List SetItem)
  deriving Repr, DecidableEq

/-- A code passes a test. -/
def CharTest.accepts (a : Alphabet) : CharTest → Nat → Bool
  | .code n, m => (a.kin (a.fold n)).contains (a.fold m)
  | .otherThan n, m => !(a.kin (a.fold n)).contains (a.fold m)
  | .any lineFeed, m => lineFeed || m != 10
  | .set negated items, m => items.any (SetItem.holds a (a.fold m)) != negated

end EmulatedShell
