import EmulatedShell.Regex.Builder
import EmulatedShell.Regex.Escape
import EmulatedShell.Text.Integer
import EmulatedShell.Text.Split
import EmulatedShell.Unicode.Identifier

namespace EmulatedShell

/-- The characters that stand for more than themselves. -/
def isSpecial (c : Char) : Bool := ".\\[\x7b()*+?^$|".toList.contains c

/-- The first number of rounds that is too large. -/
def roundLimit : Nat := 4294967295

/-- A number of rounds. -/
def roundCount (digits : List Char) : Reading Nat :=
  if digits.length > digitLimit then .error (.fault (.tooManyDigits digits.length))
  else if valueIn 10 digits ≥ roundLimit then .error (.fault .repetitionTooLarge)
  else .ok (valueIn 10 digits)

/-- The numbers of rounds in braces, after the opening one: the digits before and after a comma,
and the text after the closing brace. Braces that hold anything else are ordinary characters. -/
def takeBounds (text : List Char) : Option (List Char × List Char × List Char) :=
  let low := text.takeWhile Char.isDigit
  match text.dropWhile Char.isDigit with
  | '\x7d' :: rest => if low.isEmpty then none else some (low, low, rest)
  | ',' :: rest =>
    match rest.dropWhile Char.isDigit with
    | '\x7d' :: after => some (low, rest.takeWhile Char.isDigit, after)
    | _ => none
  | _ => none

/-- The least and the greatest number of rounds. -/
def boundsOf (low high : List Char) : Reading (Nat × Option Nat) := do
  let least ← if low.isEmpty then pure 0 else roundCount low
  if high.isEmpty then return (least, none)
  let most ← roundCount high
  if most < least then malformed else return (least, some most)

/-- The last part repeated, in the order that the next character asks for. -/
def Builder.takeGreed (b : Builder) (least : Nat) (most : Option Nat) (rest : List Char) :
    Reading (Builder × List Char) := do
  match rest with
  | '?' :: rest => return (← b.repeatLast .fewest least most, rest)
  | '+' :: rest => return (← b.repeatLast .all least most, rest)
  | rest => return (← b.repeatLast .most least most, rest)

/-- A part after an opening brace. -/
def Builder.takeBrace (b : Builder) (rest : List Char) : Reading (Builder × List Char) := do
  match takeBounds rest with
  | none => return (b.pushTest (.code 123), rest)
  | some (low, high, after) =>
    if after = ['\\'] then malformed
    let (least, most) ← boundsOf low high
    b.takeGreed least most after

/-- A decimal digit after a backslash: three octal digits are a code, one or two digits a group. -/
def Builder.takeDigits (b : Builder) (first : Char) (rest : List Char) :
    Reading (Builder × List Char) := do
  match rest with
  | second :: third :: rest' =>
    if isOctal first && isOctal second && isOctal third then
      return (b.pushTest (.code (← octalCode [first, second, third])), rest')
  | _ => pure ()
  let (more, rest) := takeUpTo Char.isDigit 1 rest
  return (← b.pushAgain (valueIn 10 (first :: more)), rest)

/-- A part after a backslash. -/
def Builder.takeEscape (b : Builder) (letter : Char) (rest : List Char) :
    Reading (Builder × List Char) := do
  let ascii := b.inner.flags.ascii
  match classLetter letter with
  | some item => return (b.pushTest (.set false [item]), rest)
  | none =>
    if letter = 'A' then return (b.pushAnchor .textStart, rest)
    else if letter = 'Z' then return (b.pushAnchor .textEnd, rest)
    else if letter = 'b' then return (b.pushAnchor (.wordEdge ascii), rest)
    else if letter = 'B' then return (b.pushAnchor (.notWordEdge ascii), rest)
    else if letter = '0' then
      let (more, rest) := takeUpTo isOctal 2 rest
      return (b.pushTest (.code (valueIn 8 more)), rest)
    else if letter.isDigit then b.takeDigits letter rest
    else
      let (code, rest) ← takeCode letter rest
      return (b.pushTest (.code code), rest)

/-- A comment up to the closing parenthesis, and the text after it. A backslash keeps the character
after it from closing it. -/
def skipComment : List Char → Reading (List Char)
  | [] | ['\\'] => malformed
  | '\\' :: _ :: rest => skipComment rest
  | c :: rest => if c = ')' then .ok rest else skipComment rest

/-- A comment up to the end of the line, and the text after it. -/
def skipLine : List Char → Reading (List Char)
  | [] => .ok []
  | ['\\'] => malformed
  | '\\' :: _ :: rest => skipLine rest
  | c :: rest => if c = '\n' then .ok rest else skipLine rest

/-- The text up to a character that must follow, and the text after it. -/
def takeUntil (ending : Char) (text : List Char) : Reading (List Char × List Char) :=
  match text.dropWhile (· != ending) with
  | _ :: rest => .ok (text.takeWhile (· != ending), rest)
  | [] => malformed

/-- The number that names a group: digits, possibly with single underscores between them, blanks
around them and a plus sign. -/
def groupNumber (text : List Char) : Option Nat :=
  let digits :=
    match trimChars text with
    | '+' :: rest => rest
    | rest => rest
  let runs := splitChars '_' digits
  if runs.all (fun run => !run.isEmpty && run.all isDigit) && runs.flatten.length ≤ digitLimit then
    some (digitsValue runs.flatten)
  else none

/-- The largest number of groups. -/
def groupLimit : Nat := 1073741823

/-- A condition after its opening parentheses. -/
def Builder.takeCondition (b : Builder) (rest : List Char) : Reading (Builder × List Char) := do
  let (name, rest) ← takeUntil ')' rest
  if isName name then
    match b.names.lookup (String.ofList name) with
    | some index => return (← b.openWhether index false, rest)
    | none => malformed
  else
    match groupNumber name with
    | some index =>
      if index = 0 || index ≥ groupLimit then malformed
      else return (← b.openWhether index true, rest)
    | none => malformed

/-- A named group or its text once more, after the letter that announces either. -/
def Builder.takeNamedGroup (b : Builder) : List Char → Reading (Builder × List Char)
  | '<' :: rest => do
    let (name, rest) ← takeUntil '>' rest
    if isName name then return (← b.openGroup (some (String.ofList name)), rest) else malformed
  | '=' :: rest => do
    let (name, rest) ← takeUntil ')' rest
    match b.names.lookup (String.ofList name) with
    | some index => return (← b.pushAgain index, rest)
    | none => malformed
  | _ => malformed

/-- What a parenthesis with a question mark after it stands for. -/
def Builder.takeExtension (b : Builder) : List Char → Reading (Builder × List Char)
  | 'P' :: rest => b.takeNamedGroup rest
  | ':' :: rest => .ok (b.open .plain b.inner.flags, rest)
  | '#' :: rest => do return (b, ← skipComment rest)
  | '=' :: rest => .ok (b.open (.ahead false) b.inner.flags, rest)
  | '!' :: rest => .ok (b.open (.ahead true) b.inner.flags, rest)
  | '<' :: '=' :: rest => .ok (b.openBehind false, rest)
  | '<' :: '!' :: rest => .ok (b.openBehind true, rest)
  | '(' :: rest => b.takeCondition rest
  | '>' :: rest => .ok (b.open .atomic b.inner.flags, rest)
  | rest => do
    let (group, rest) ← takeFlags Flags.none false rest
    match group with
    | .whole flags => return (← b.addFlags flags, rest)
    | .body added dropped => return (b.open .plain (b.inner.flags.scoped added dropped), rest)

/-- One part of a pattern that starts with a special character. -/
def Builder.takeSpecial (b : Builder) (c : Char) (rest : List Char) :
    Reading (Builder × List Char) := do
  let multiline := b.inner.flags.multiline
  match c with
  | '.' => return (b.pushTest (.any b.inner.flags.dotAll), rest)
  | '^' => return (b.pushAnchor (if multiline then .lineStart else .textStart), rest)
  | '$' => return (b.pushAnchor (if multiline then .lineEnd else .lastLineEnd), rest)
  | '|' => return (← b.bar, rest)
  | '*' => b.takeGreed 0 none rest
  | '+' => b.takeGreed 1 none rest
  | '?' => b.takeGreed 0 (some 1) rest
  | '\x7b' => b.takeBrace rest
  | '[' =>
    let (test, rest) ← takeSet rest
    return (b.pushTest test, rest)
  | '\\' =>
    match rest with
    | letter :: rest => b.takeEscape letter rest
    | [] => malformed
  | _ =>
    match rest with
    | '?' :: rest => b.takeExtension rest
    | rest => return (← b.openGroup none, rest)

/-- The blanks that may stand between the parts of a pattern. -/
def isPatternBlank (c : Char) : Bool := c = ' ' || ('\t' ≤ c && c ≤ '\r')

/-- One part of a pattern. -/
def Builder.take (b : Builder) (c : Char) (rest : List Char) : Reading (Builder × List Char) := do
  if b.inner.flags.verbose && isPatternBlank c then return (b, rest)
  else if b.inner.flags.verbose && c = '#' then return (b, ← skipLine rest)
  else if isSpecial c then b.takeSpecial c rest
  else return (b.pushTest (.code c.toNat), rest)

/-- The rest of a pattern. A closing parenthesis without an opening one ends the reading. Each step
uses up a character, so as many steps as there are characters are enough. -/
def Builder.readAll : Nat → Builder → List Char → Reading Regex
  | _, b, [] => b.finish true
  | 0, _, _ => malformed
  | steps + 1, b, ')' :: rest =>
    match b.close with
    | some closed => Builder.readAll steps closed rest
    | none => b.finish false
  | steps + 1, b, c :: rest => do
    let (next, rest) ← b.take c rest
    Builder.readAll steps next rest

/-- The pattern that a text writes. -/
def Regex.parse (ignoreCase : Bool) (text : String) : Reading Regex :=
  Builder.readAll text.length (Builder.start ignoreCase) text.toList

end EmulatedShell
