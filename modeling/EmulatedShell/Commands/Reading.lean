import EmulatedShell.Commands.Navigation
import EmulatedShell.Disk.Usual
import EmulatedShell.Text.Lines
import EmulatedShell.Time.Format

namespace EmulatedShell

/-- Lines with their numbers from one on. -/
def numberLines (width : Nat) (gap : String) (lines : List String) : List String :=
  lines.zipIdx.map fun (line, index) => padStart width (toString (index + 1)) ++ gap ++ line

/-- A file, with numbered lines if that is asked for. -/
def cat (i : Invocation) : Reply :=
  i.onContent [] fun _ content =>
    if i.command.hasFlag ["-n"] then .lines (numberLines 6 "\t" (linesOf content)) else .ok content

/-- A file as a pager shows it. -/
def page (i : Invocation) : Reply :=
  i.onContent [] fun name content =>
    .ok ("Viewing " ++ name ++ " (press 'q' to quit)\n\n" ++ content ++
      "\n\n[Press 'q' to quit, 'space' for next page]")

/-- The number of lines that are asked for. -/
def lineCount (i : Invocation) : Nat := (i.command.intFlag "-n" 10).toNat

/-- The first lines of a file. -/
def head (i : Invocation) : Reply :=
  i.onContent ["-n"] fun _ content => .lines ((linesOf content).take (lineCount i))

/-- The last elements of a list. -/
def takeLast {α : Type} (count : Nat) (list : List α) : List α := list.drop (list.length - count)

/-- The system log, which is followed when no file is named. -/
def systemLog : String := "/var/log/syslog"

/-- The last lines of a file. -/
def tail (i : Invocation) : Reply :=
  let follow := i.command.hasFlag ["-f"]
  match (i.operands ["-n"]).head? <|> (if follow then some systemLog else none) with
  | none => .missing "tail" "file operand"
  | some name =>
    match i.disk.read name with
    | none => .noSuchFile "tail" name
    | some content =>
      .ok (joinLines (takeLast (lineCount i) (linesOf content)) ++
        if follow then "\n\n[Following log file - press Ctrl+C to stop]" else "")

/-- The numbers of lines, words and bytes of a file. -/
def wc (i : Invocation) : Reply :=
  i.onContent [] fun name content =>
    let lines := toString (linesOf content).length
    let words := toString (wordCount content)
    let bytes := toString (byteCount content)
    if i.command.hasFlag ["-l"] then .ok (lines ++ " " ++ name)
    else if i.command.hasFlag ["-w"] then .ok (words ++ " " ++ name)
    else if i.command.hasFlag ["-c"] then .ok (bytes ++ " " ++ name)
    else
      .ok (padStart 4 lines ++ " " ++ padStart 4 words ++ " " ++ padStart 4 bytes ++ " " ++ name)

/-- The entry that a name stands for: by its whole path, in the current directory, or in the home
directory. -/
def Invocation.entryOf (i : Invocation) (name : String) : Option Entry :=
  if beginsWith "/" name then
    let parts := split '/' name
    let parent := joinWith "/" parts.dropLast
    i.disk.findEntry (if parent = "" then "/" else parent) (parts.getLast?.getD "")
  else i.disk.findEntry i.directory name <|> i.disk.findEntry i.home name

/-- The nine permission letters after the kind as an octal number. A hyphen is zero. -/
def modeBits (permissions : String) : String :=
  let letters := (permissions.toList.drop 1).take 9
  let value := letters.foldl (fun value c => 2 * value + if c = '-' then 0 else 1) 0
  String.ofList ('0' :: Nat.toDigits 8 value)

/-- The permissions that are shown for a file. -/
def Invocation.permissionsOf (i : Invocation) (name : String) : String :=
  (((i.entryOf name).bind Entry.permissions).filter (· != "")).getD usualPermissions

/-- The size that is shown for a file: that of its entry, or else that of its content. -/
def Invocation.sizeOf (i : Invocation) (name content : String) : Int :=
  ((i.entryOf name).bind Entry.size).getD (byteCount content)

/-- The time that is shown for a file: that of its entry, or else the present. -/
def Invocation.timeOf (i : Invocation) (name : String) (now : Moment) : Moment :=
  ((i.entryOf name).bind Entry.modified).getD now

/-- All that is known about a file. -/
def statLines (i : Invocation) (now : Moment) (name content : String) :
    Except Fault (List String) := do
  let size := i.sizeOf name content
  let sizeText ← written size
  let blocksText ← written (Int.fdiv (size + 4095) 4096 * 8)
  let permissions := i.permissionsOf name
  let stamp := (i.timeOf name now).format "%Y-%m-%d %H:%M:%S.000000000 +0000"
  let owner := padStart 8 fileOwner
  return ["  File: " ++ name,
    "  Size: " ++ padEnd 10 sizeText ++ "\tBlocks: " ++ padEnd 10 blocksText ++
      " IO Block: 4096   regular file",
    "Device: 801h/2049d\tInode: 123456      Links: 1",
    "Access: (" ++ modeBits permissions ++ "/" ++ permissions ++ ")  Uid: ( 1000/" ++ owner ++
      ")   Gid: ( 1000/" ++ owner ++ ")",
    "Access: " ++ stamp, "Modify: " ++ stamp, "Change: " ++ stamp]

/-- All that is known about a file. -/
def stat (i : Invocation) (now : Moment) : Except Fault Reply :=
  match i.operands [] with
  | [] => .ok (.missing i.name "file operand")
  | name :: _ =>
    match i.disk.read name with
    | none => .ok (.fail ("stat: cannot stat '" ++ name ++ "': No such file or directory"))
    | some content => (statLines i now name content).map .lines

/-- What a file holds: a script or other text. -/
def fileType (i : Invocation) : Reply :=
  i.onOperand "file operand" fun name =>
    match i.disk.read name with
    | none => .fail (name ++ ": cannot open (No such file or directory)")
    | some content =>
      if beginsWith "#!/bin/bash" content then
        .ok (name ++ ": Bourne-Again shell script, ASCII text executable")
      else .ok (name ++ ": ASCII text")

/-- The commands that show files and what is known about them. -/
def readingUtilities : List (String × Utility) :=
  [("cat", .plain cat), ("less", .plain page), ("more", .plain page), ("head", .plain head),
   ("tail", .plain tail), ("wc", .plain wc), ("stat", .riskyDated stat), ("file", .plain fileType)]

end EmulatedShell
