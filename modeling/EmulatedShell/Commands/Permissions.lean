import EmulatedShell.Utility

namespace EmulatedShell

/-- A text in which a test holds of every character, or of every character but a line feed at its
end. -/
def allButLastBreak (test : List Char → Bool) (text : List Char) : Bool :=
  test text || (text.getLast? == some '\n' && test text.dropLast)

/-- Three or four octal digits. -/
def isOctalText (text : List Char) : Bool :=
  (text.length == 3 || text.length == 4) && text.all fun c => '0' ≤ c && c ≤ '7'

/-- A mode of octal digits, with an optional line feed after it. -/
def isOctalMode (mode : String) : Bool := allButLastBreak isOctalText mode.toList

/-- One change of permissions: for whom, an operator, and which permissions. -/
def isModeClause (clause : List Char) : Bool :=
  match clause.dropWhile fun c => "ugoa".toList.contains c with
  | operator :: permissions =>
    "-+=".toList.contains operator && permissions.all fun c => "rwxXst".toList.contains c
  | [] => false

/-- Changes of permissions with commas between them. -/
def isSymbolicText (text : List Char) : Bool := (splitChars ',' text).all isModeClause

/-- A mode of changes, with an optional line feed after it. -/
def isSymbolicMode (mode : String) : Bool := allButLastBreak isSymbolicText mode.toList

/-- The three letters of one digit of a mode. -/
def permissionTriple (digit : Nat) : String :=
  (if digit / 4 % 2 = 1 then "r" else "-") ++ (if digit / 2 % 2 = 1 then "w" else "-") ++
    (if digit % 2 = 1 then "x" else "-")

/-- The nine letters that the last three digits of a mode stand for. -/
def symbolicPermissions (mode : String) : Except Fault String := do
  let last := mode.toList.drop (mode.length - 3)
  let triples ← last.mapM fun c =>
    match digitValue c with
    | some digit => .ok (permissionTriple digit)
    | none => .error (.notADigit (String.singleton c))
  return String.join triples

/-- Acknowledges a new mode. -/
def chmod (i : Invocation) : Except Fault Reply :=
  match i.operands [] with
  | mode :: target :: _ =>
    if isOctalMode mode then do
      let letters ← symbolicPermissions mode
      return .ok ("mode of '" ++ target ++ "' changed to " ++ padZeros 4 mode ++ " (" ++ letters ++
        ")")
    else if isSymbolicMode mode then
      .ok (.ok ("mode of '" ++ target ++ "' changed (" ++ mode ++ ")"))
    else .ok (.fail ("chmod: invalid mode: '" ++ mode ++ "'"))
  | _ => .ok (.missing "chmod" "operand")

/-- Acknowledges a new owner, possibly with a group after a colon. -/
def chown (i : Invocation) : Reply :=
  i.onTwoOperands "operand" fun owner target =>
    let user := String.ofList (owner.toList.takeWhile (· != ':'))
    let group := String.ofList ((owner.toList.dropWhile (· != ':')).drop 1)
    .ok ("ownership of '" ++ target ++ "' changed to " ++ user ++
      if group = "" then "" else ":" ++ group)

/-- Acknowledges a new group. -/
def chgrp (i : Invocation) : Reply :=
  i.onTwoOperands "operand" fun group target =>
    .ok ("group of '" ++ target ++ "' changed to " ++ group)

/-- Shows or acknowledges the mode that new files lack. -/
def umask (i : Invocation) : Reply :=
  match i.command.arg 0 with
  | none => .ok "0022"
  | some value =>
    if isOctalMode (padZeros 3 value) then .ok ("umask set to " ++ value)
    else .fail ("umask: " ++ value ++ ": octal number out of range")

/-- The commands that deal with permissions and owners. -/
def permissionUtilities : List (String × Utility) :=
  [("chmod", .risky chmod), ("chown", .plain chown), ("chgrp", .plain chgrp),
   ("umask", .plain umask)]

end EmulatedShell
