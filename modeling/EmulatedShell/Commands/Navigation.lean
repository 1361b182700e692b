import EmulatedShell.Utility

namespace EmulatedShell

/-- The owner of every file. -/
def fileOwner : String := "user"

/-- The size that a long listing shows for an entry without one. -/
def usualSize : Int := 4096

/-- Month, day and year of an entry, or of today if it has no date. -/
def Entry.dateText (entry : Entry) (now : Moment) : String :=
  let t := entry.modified.getD now
  toString t.month ++ "/" ++ toString t.day ++ "/" ++ toString t.year

/-- The size that a long listing shows. A size of zero counts as none. -/
def Entry.listedSize (entry : Entry) : Int :=
  match entry.size with
  | some size => if size = 0 then usualSize else size
  | none => usualSize

/-- The permissions that a long listing shows. -/
def Entry.listedPermissions (entry : Entry) : String :=
  (entry.permissions.filter (· != "")).getD "drwxr-xr-x"

/-- A number that has no more digits than are written. -/
def isWritable (n : Int) : Bool := n.natAbs < Nat.pow 10 digitLimit

/-- The digits of a number, unless they are too many. -/
def written (n : Int) : Except Fault String :=
  if isWritable n then .ok (toString n) else .error .tooManyToWrite

/-- An entry on a line of its own with all that is known about it. -/
def Entry.longLine (entry : Entry) (now : Moment) : Except Fault String := do
  let size ← written entry.listedSize
  return entry.listedPermissions ++ " 1 " ++ fileOwner ++ " " ++ fileOwner ++ " " ++
    size ++ " " ++ entry.dateText now ++ " " ++ entry.name

/-- The current directory. -/
def pwd (i : Invocation) : Reply := .ok i.directory

/-- The directory that the first token names. -/
def cd (i : Invocation) : Except String String :=
  let target := i.command.arg 0
  let path := i.resolve target
  if i.disk.isDirectory path then .ok path
  else .error ("cd: " ++ target.getD "None" ++ ": No such file or directory")

/-- The directory that a listing shows: the first operand, or else the current one. -/
def listedPath (i : Invocation) : String :=
  match i.args.filter isOperand with
  | target :: _ => i.resolve (some target)
  | [] => i.directory

/-- The names in a directory, in a row or on lines of their own. An unknown one is empty. -/
def ls (i : Invocation) (now : Moment) : Except Fault Reply :=
  let entries := i.disk.listing (listedPath i)
  if i.command.hasFlag ["-l", "-la", "-al", "-lh", "-lah"] then
    (entries.mapM (Entry.longLine · now)).map .lines
  else .ok (.ok (joinWith "  " (entries.map Entry.name)))

/-- The commands that look around and move. -/
def navigationUtilities : List (String × Utility) :=
  [("pwd", .plain pwd), ("cd", .moving cd), ("ls", .riskyDated ls)]

end EmulatedShell
