import EmulatedShell.Unicode.CaseContext
import EmulatedShell.Unicode.LowerTable

namespace EmulatedShell

/-- The nearest character that counts is a letter with a case. -/
def meetsCased (neighbours : List Char) : Bool :=
  match neighbours.dropWhile isCaseIgnorable with
  | [] => false
  | c :: _ => isCased c

/-- The small form of one character between the text before it, nearest first, and the text after
it. A capital sigma that closes a word becomes the final sigma, and a capital i with a dot keeps
its dot as a mark of its own. -/
def lowerBetween (before : List Char) (c : Char) (after : List Char) : List Char :=
  if c = 'Σ' then [if meetsCased before && !meetsCased after then 'ς' else 'σ']
  else if c = 'İ' then ['i', '\u0307']
  else [lowerChar c]

/-- The small form of a text that follows `before`, nearest first. -/
def lowerAfter (before : List Char) : List Char → List Char
  | [] => []
  | c :: rest => lowerBetween before c rest ++ lowerAfter (c :: before) rest

/-- A text in small letters. -/
def lowercase (text : String) : String := String.ofList (lowerAfter [] text.toList)

end EmulatedShell
