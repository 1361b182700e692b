import EmulatedShell.Text.Split

namespace EmulatedShell

/-- A number from 0 to 255 in decimal notation without zeros before it. -/
def isOctet (text : List Char) : Bool :=
  !text.isEmpty && text.all Char.isDigit && text.length ≤ 3 &&
    (text == ['0'] || text.head? != some '0') &&
    text.foldl (fun value c => 10 * value + (c.toNat - '0'.toNat)) 0 ≤ 255

/-- An address of four numbers with points between them. -/
def isDottedAddress (text : List Char) : Bool :=
  let parts := splitChars '.' text
  parts.length == 4 && parts.all isOctet

/-- One to four hexadecimal digits. -/
def isHextet (text : List Char) : Bool :=
  !text.isEmpty && text.length ≤ 4 &&
    text.all fun c => "0123456789abcdefABCDEF".toList.contains c

/-- The groups between the colons of an address. A dotted address at the end counts as two groups;
if it is no address, there are no groups. -/
def colonGroups (text : List Char) : Option (List (List Char)) :=
  let parts := splitChars ':' text
  match parts.getLast? with
  | some last =>
    if parts.length < 3 then none
    else if last.contains '.' then
      if isDottedAddress last then some (parts.dropLast ++ [['0'], ['0']]) else none
    else some parts
  | none => none

/-- Groups of which an inner one is empty: it stands for at least one group of zeros, and the
groups on each side of it are written out or, at the edge, left out altogether. -/
def isShortened (before after : List (List Char)) : Bool :=
  let high := if before.head? == some [] then before.drop 1 else before
  let low := if after.getLast? == some [] then after.dropLast else after
  (before.head? != some [] || high.isEmpty) && (after.getLast? != some [] || low.isEmpty) &&
    high.length + low.length ≤ 7 && high.all isHextet && low.all isHextet

/-- The groups of an address of eight groups, possibly shortened once. -/
def areAddressGroups (groups : List (List Char)) : Bool :=
  let inner := (groups.drop 1).dropLast
  if groups.length > 9 then false
  else
    match inner.findIdx? List.isEmpty with
    | none => groups.length == 8 && groups.all isHextet
    | some i =>
      inner.countP List.isEmpty == 1 && isShortened (groups.take (i + 1)) (groups.drop (i + 2))

/-- An address of eight groups, with an optional scope after a percent sign. -/
def isColonAddress (text : List Char) : Bool :=
  let address := text.takeWhile (· != '%')
  let scope := (text.dropWhile (· != '%')).drop 1
  (address.length == text.length || (!scope.isEmpty && !scope.contains '%')) &&
    !text.contains '/' &&
    match colonGroups address with
    | some groups => areAddressGroups groups
    | none => false

end EmulatedShell
