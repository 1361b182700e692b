import EmulatedShell.Utility

namespace EmulatedShell

/-- The members of every archive. -/
def archiveMembers : List String :=
  ["documents/", "documents/report.txt", "projects/", "projects/script.sh"]

/-- What is done with an archive. -/
inductive ArchiveMode where
  | create
  | extract
  | list
  deriving Repr, DecidableEq

/-- The first token, which bundles the options of an archive. -/
def archiveBundle (i : Invocation) : List Char := ((i.command.arg 0).getD "").toList

/-- What the bundle asks for. Creating goes before extracting, and extracting before listing. -/
def archiveMode (i : Invocation) : Option ArchiveMode :=
  let letters := (archiveBundle i).dropWhile (· = '-')
  if letters.contains 'c' then some .create
  else if letters.contains 'x' then some .extract
  else if letters.contains 't' then some .list
  else none

/-- Acknowledges what is done with an archive, member by member if that is asked for. -/
def archiveReply (mode : ArchiveMode) (verbose : Bool) (archive : String)
    (members : List String) : Reply :=
  match mode with
  | .create =>
    if members.isEmpty then .fail "tar: Cowardly refusing to create an empty archive"
    else if verbose then .lines members
    else
      .ok ("Archive '" ++ archive ++ "' created with " ++ toString members.length ++ " item(s)")
  | .extract => if verbose then .lines archiveMembers else .ok ("Extracted '" ++ archive ++ "'")
  | .list => .lines archiveMembers

/-- Creates, extracts or lists an archive. -/
def tar (i : Invocation) : Reply :=
  match archiveMode i with
  | none =>
    .fail ("tar: You must specify one of the '-Acdtrux', '--delete' or '--test-label' options\n" ++
      "Try 'tar --help' for more information.")
  | some mode =>
    match (i.args.drop 1).filter isOperand with
    | [] => .missing "tar" "archive name"
    | archive :: members => archiveReply mode ((archiveBundle i).contains 'v') archive members

/-- Acknowledges that a file is compressed or decompressed. -/
def gzip (i : Invocation) : Reply :=
  i.onOperand "file operand" fun file =>
    if i.command.hasFlag ["-d"] then .ok (file ++ " decompressed")
    else .ok (file ++ " compressed to " ++ file ++ ".gz")

/-- Acknowledges that a file is decompressed. -/
def gunzip (i : Invocation) : Reply :=
  i.onOperand "file operand" fun file =>
    if finishesWith ".gz" file then .ok (file ++ " decompressed to " ++ dropLast 3 file)
    else .fail ("gunzip: " ++ file ++ ": unknown suffix -- ignored")

/-- Acknowledges a new archive, member by member. -/
def zip (i : Invocation) : Reply :=
  match i.operands [] with
  | [] => .missing "zip" "archive name"
  | [_] => .missing "zip" "files to add"
  | archive :: members =>
    .lines (members.map (fun member => "  adding: " ++ member ++ " (deflated 45%)") ++
      ["Archive '" ++ archive ++ "' created"])

/-- The table of the members of an archive. -/
def archiveTable (archive : String) : List String :=
  ["Archive:  " ++ archive, "  Length      Date    Time    Name",
   "---------  ---------- -----   ----"] ++
  archiveMembers.map ("     1024  01-20-2024 10:30   " ++ ·) ++
  ["---------                     -------",
   "     " ++ toString (1024 * archiveMembers.length) ++ "                     " ++
     toString archiveMembers.length ++ " files"]

/-- A member of an archive as it is extracted to a place. -/
def extractedLine (destination : Option String) (member : String) : String :=
  (if finishesWith "/" member then "   creating: " else "  inflating: ") ++
    match destination with
    | some place => place ++ "/" ++ member
    | none => member

/-- Lists an archive, or acknowledges that it is extracted, member by member. -/
def unzip (i : Invocation) : Reply :=
  match i.operands ["-d"] with
  | [] => .missing "unzip" "archive name"
  | archive :: _ =>
    if i.command.hasFlag ["-l"] then .lines (archiveTable archive)
    else
      .lines (("Archive:  " ++ archive) ::
        archiveMembers.map (extractedLine (i.command.flagValue "-d")))

/-- The commands that deal with archives. -/
def archiveUtilities : List (String × Utility) :=
  [("tar", .plain tar), ("gzip", .plain gzip), ("gunzip", .plain gunzip), ("zip", .plain zip),
   ("unzip", .plain unzip)]

end EmulatedShell
