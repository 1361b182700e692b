import EmulatedShell.Regex.Basic
import EmulatedShell.Regex.Fault
import EmulatedShell.Text.Hexadecimal
import EmulatedShell.Unicode.Name

namespace EmulatedShell

/-- An octal digit. -/
def isOctal (c : Char) : Bool := '0' ≤ c && c ≤ '7'

/-- At most so many characters from the start of a text as pass a test, and the text after them. -/
def takeUpTo (test : Char → Bool) : Nat → List Char → List Char × List Char
  | count + 1, c :: rest =>
    if test c then
      let (taken, rest) := takeUpTo test count rest
      (c :: taken, rest)
    else ([], c :: rest)
  | _, rest => ([], rest)

/-- The largest code point. -/
def lastCode : Nat := 0x10ffff

/-- The code that exactly so many hexadecimal digits write, and the text after them. -/
def takeHex (count : Nat) (text : List Char) : Reading (Nat × List Char) :=
  let (digits, rest) := takeUpTo (fun c => (hexValue c).isSome) count text
  if digits.length = count && valueIn 16 digits ≤ lastCode then .ok (valueIn 16 digits, rest)
  else malformed

/-- The code of a character that is given by its name in braces, and the text after it. -/
def takeNamed : List Char → Reading (Nat × List Char)
  | '\x7b' :: rest =>
    let name := String.ofList (rest.takeWhile (· != '\x7d'))
    match codeOfName name, rest.dropWhile (· != '\x7d') with
    | some code, _ :: rest => .ok (code, rest)
    | _, _ => malformed
  | _ => malformed

/-- The letters that stand for one control character. -/
def controlCode : Char → Option Nat
  | 'a' => some 7
  | 'f' => some 12
  | 'n' => some 10
  | 'r' => some 13
  | 't' => some 9
  | 'v' => some 11
  | _ => none

/-- The letters that stand for a class, the capital one for all other characters. -/
def classLetter : Char → Option SetItem
  | 'd' => some (.kind .digit false)
  | 'D' => some (.kind .digit true)
  | 's' => some (.kind .blank false)
  | 'S' => some (.kind .blank true)
  | 'w' => some (.kind .word false)
  | 'W' => some (.kind .word true)
  | _ => none

/-- The code that a letter after a backslash stands for, inside brackets or outside, and the text
after it. -/
def takeCode (letter : Char) (rest : List Char) : Reading (Nat × List Char) :=
  match controlCode letter with
  | some code => .ok (code, rest)
  | none =>
    if letter = 'x' then takeHex 2 rest
    else if letter = 'u' then takeHex 4 rest
    else if letter = 'U' then takeHex 8 rest
    else if letter = 'N' then takeNamed rest
    else if letter.isAlphanum then malformed
    else .ok (letter.toNat, rest)

/-- The code of octal digits, which end at 255. -/
def octalCode (digits : List Char) : Reading Nat :=
  if valueIn 8 digits > 255 then malformed else .ok (valueIn 8 digits)

/-- The item that an escape inside brackets stands for, and the text after it. -/
def takeItemEscape (letter : Char) (rest : List Char) : Reading (SetItem × List Char) :=
  match classLetter letter with
  | some item => .ok (item, rest)
  | none =>
    if letter = 'b' then .ok (.code 8, rest)
    else if isOctal letter then do
      let (more, rest) := takeUpTo isOctal 2 rest
      return (.code (← octalCode (letter :: more)), rest)
    else do
      let (code, rest) ← takeCode letter rest
      return (.code code, rest)

/-- One item between brackets that is no range, and the text after it. -/
def takeItem : List Char → Reading (SetItem × List Char)
  | '\\' :: letter :: rest => takeItemEscape letter rest
  | ['\\'] | [] => malformed
  | c :: rest => .ok (.code c.toNat, rest)

/-- The items up to the closing bracket, and the text after it. A closing bracket that comes first
is an item. Each step uses up a character, so as many steps as there are characters are enough. -/
def takeItems : Nat → List SetItem → List Char → Reading (List SetItem × List Char)
  | 0, _, _ => malformed
  | _, _, [] => malformed
  | steps + 1, items, text => do
    if text.head? = some ']' && !items.isEmpty then return (items.reverse, text.drop 1)
    let (item, rest) ← takeItem text
    match rest with
    | '-' :: ']' :: rest => return ((.code 45 :: item :: items).reverse, rest)
    | '-' :: rest =>
      let (bound, rest) ← takeItem rest
      match item, bound with
      | .code first, .code last =>
        if last < first then malformed else takeItems steps (.range first last :: items) rest
      | _, _ => malformed
    | rest => takeItems steps (item :: items) rest

/-- The test that brackets stand for, after the opening one, and the text after them. -/
def takeSet (text : List Char) : Reading (CharTest × List Char) := do
  let negated := text.head? = some '^'
  let body := if negated then text.drop 1 else text
  let (items, rest) ← takeItems body.length [] body
  match items.eraseDups with
  | [.code n] => return (if negated then .otherThan n else .code n, rest)
  | items => return (.set negated items, rest)

end EmulatedShell
