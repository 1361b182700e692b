import EmulatedShell.Fault
import EmulatedShell.Text.Lowercase
import EmulatedShell.Text.Split
import EmulatedShell.Text.Substring
import EmulatedShell.Unicode.Compatibility
import EmulatedShell.Web.Address

namespace EmulatedShell

/-- The parts of a location that a download needs. -/
structure Location where
  /-- The host with its user and port, empty when the location names none. -/
  authority : String
  path : String
  deriving Repr, DecidableEq

/-- A character that a scheme may hold. -/
def isSchemeChar (c : Char) : Bool := c.isAlphanum || c = '+' || c = '-' || c = '.'

/-- The location after its scheme. A scheme starts with a letter and ends at the first colon. -/
def dropScheme (text : List Char) : List Char :=
  let scheme := text.takeWhile (· != ':')
  match text.dropWhile (· != ':') with
  | _ :: rest =>
    match scheme with
    | first :: _ => if first.isAlpha && scheme.all isSchemeChar then rest else text
    | [] => text
  | [] => text

/-- The authority after two slashes, up to a slash, a question mark or a number sign, and the
rest. -/
def takeAuthority (text : List Char) : List Char × List Char :=
  match text with
  | '/' :: '/' :: rest =>
    let inside := fun c => c != '/' && c != '?' && c != '#'
    (rest.takeWhile inside, rest.dropWhile inside)
  | _ => ([], text)

/-- The text between the first opening bracket and the first closing bracket after it. -/
def bracketed (authority : List Char) : List Char :=
  ((authority.dropWhile (· != '[')).drop 1).takeWhile (· != ']')

/-- The form of an address of a later version: its version in hexadecimal, a point, and text. -/
def isFutureAddress (host : List Char) : Bool :=
  match host with
  | 'v' :: rest =>
    let isHex := fun c => "0123456789abcdefABCDEF".toList.contains c
    match rest.takeWhile isHex, rest.dropWhile isHex with
    | _ :: _, '.' :: _ :: _ => true
    | _, _ => false
  | _ => false

/-- A host in brackets must be an address of eight groups or of a later version. -/
def checkBracketed (host : List Char) : Except Fault Unit :=
  if host.head? = some 'v' then
    if isFutureAddress host then .ok () else .error .badFutureAddress
  else if isDottedAddress host then .error .plainAddressInBrackets
  else if isColonAddress host then .ok ()
  else .error (.notAnAddress (String.ofList host))

/-- Brackets in an authority come in pairs, and an address stands between them. -/
def checkBrackets (authority : List Char) : Except Fault Unit :=
  if authority.contains '[' != authority.contains ']' then .error .unpairedBracket
  else if authority.contains '[' then checkBracketed (bracketed authority)
  else .ok ()

/-- The parts of a location. Tabs and line breaks in it are ignored, but no other control
characters, not even at its start. -/
def Location.ofText (text : String) : Except Fault Location := do
  let kept := text.toList.filter fun c => c != '\t' && c != '\r' && c != '\n'
  let (authority, rest) := takeAuthority (dropScheme kept)
  checkBrackets authority
  if authority.any hidesDelimiter then throw (.hiddenDelimiter (String.ofList authority))
  let path := (rest.takeWhile (· != '#')).takeWhile (· != '?')
  return ⟨String.ofList authority, String.ofList path⟩

/-- The text after the last occurrence of a character, or all of it. -/
def afterLast (c : Char) (text : List Char) : List Char :=
  (text.reverse.takeWhile (· != c)).reverse

/-- The host without user, brackets and port, in small letters up to a scope. -/
def Location.host (location : Location) : String :=
  let server := afterLast '@' location.authority.toList
  let host := if server.contains '[' then bracketed server else server.takeWhile (· != ':')
  lowercase (String.ofList (host.takeWhile (· != '%'))) ++
    String.ofList (host.dropWhile (· != '%'))

/-- The last piece of the path. -/
def Location.fileName (location : Location) : String :=
  String.ofList (afterLast '/' location.path.toList)

end EmulatedShell
