import EmulatedShell.Table
import EmulatedShell.Text.Pad
import EmulatedShell.Text.Split

namespace EmulatedShell

/-- The operators of a shell with what they do. They are described and never carried out. -/
def shellOperators : List (String × String) :=
  [("|", "Pipe output to next command"),
   ("||", "Execute next command if previous fails"),
   ("&&", "Execute next command if previous succeeds"),
   (">", "Redirect output to file (overwrite)"),
   (">>", "Redirect output to file (append)"),
   ("<", "Redirect input from file"),
   ("2>", "Redirect stderr to file"),
   ("2>&1", "Redirect stderr to stdout"),
   ("&>", "Redirect both stdout and stderr"),
   ("|&", "Pipe both stdout and stderr")]

/-- Command lines that combine several commands. -/
def commandCombinations : List String :=
  ["ps aux | grep process_name",
   "find . -name \"*.log\" | xargs grep \"error\"",
   "ls -la | grep \"^d\"",
   "netstat -tuln | grep :80",
   "df -h | grep -v tmpfs",
   "du -sh * | sort -hr",
   "cat file.txt | grep pattern | wc -l",
   "tail -f /var/log/syslog | grep error",
   "lsof -i | grep LISTEN",
   "ps aux | sort -k3 -nr | head -10"]

/-- A section of the reference: a title, and synopses with what they do. -/
structure ReferenceSection where
  title : String
  rows : List (String × String)
  deriving Repr, DecidableEq

/-- The section FILE SYSTEM. -/
def fileSection : ReferenceSection :=
  ⟨"FILE SYSTEM",
   [("ls [-la]", "List directory contents"),
    ("cd [dir]", "Change directory"),
    ("pwd", "Print working directory"),
    ("mkdir [dir]", "Create directories"),
    ("rmdir [dir]", "Remove empty directories"),
    ("rm [-rf] [file]", "Remove files and directories"),
    ("cp [-r] [src] [dst]", "Copy files and directories"),
    ("mv [src] [dst]", "Move/rename files"),
    ("find [path] [expr]", "Search for files and directories"),
    ("locate [pattern]", "Find files by name"),
    ("which [cmd]", "Locate command"),
    ("touch [file]", "Create empty files or update timestamps"),
    ("ln [-s] [target] [link]", "Create links")]⟩

/-- The section TEXT PROCESSING. -/
def textSection : ReferenceSection :=
  ⟨"TEXT PROCESSING",
   [("cat [file]", "Display file contents"),
    ("less [file]", "View file contents page by page"),
    ("head [-n] [file]", "Display first lines of file"),
    ("tail [-f] [file]", "Display last lines of file"),
    ("grep [-r] [pattern] [file]", "Search text patterns"),
    ("sed [script] [file]", "Stream editor for text"),
    ("awk [pattern] [file]", "Text processing tool"),
    ("cut [-d] [-f] [file]", "Extract columns from text"),
    ("sort [-n] [file]", "Sort lines in text files"),
    ("uniq [file]", "Report or omit repeated lines"),
    ("wc [-l] [file]", "Word, line, character count"),
    ("tr [set1] [set2]", "Translate or delete characters")]⟩

/-- The section NETWORKING. -/
def networkSection : ReferenceSection :=
  ⟨"NETWORKING",
   [("ping [-c] [host]", "Test connectivity"),
    ("curl [-I] [url]", "HTTP client"),
    ("wget [url]", "Download files from web"),
    ("netstat [-tuln]", "Display network connections"),
    ("ss [-tuln]", "Modern netstat replacement"),
    ("traceroute [host]", "Trace network path"),
    ("nslookup [host]", "DNS lookup utility"),
    ("dig [host]", "Advanced DNS lookup"),
    ("host [host]", "DNS lookup utility"),
    ("lsof [-i] [port]", "List open files and connections"),
    ("nc [host] [port]", "Netcat network utility"),
    ("ssh [user@host]", "Secure shell remote login"),
    ("scp [src] [dst]", "Secure copy over SSH")]⟩

/-- The section PROCESS MANAGEMENT. -/
def processSection : ReferenceSection :=
  ⟨"PROCESS MANAGEMENT",
   [("ps [aux]", "Display running processes"),
    ("top", "Display processes (real-time)"),
    ("htop", "Interactive process viewer"),
    ("kill [PID]", "Terminate processes"),
    ("killall [name]", "Kill processes by name"),
    ("pgrep [pattern]", "Find process IDs by name"),
    ("jobs", "Display active jobs"),
    ("bg [job]", "Put job in background"),
    ("fg [job]", "Bring job to foreground")]⟩

/-- The section SYSTEM INFO. -/
def machineSection : ReferenceSection :=
  ⟨"SYSTEM INFO",
   [("df [-h]", "Display filesystem disk space"),
    ("du [-sh] [dir]", "Display directory space usage"),
    ("free [-h]", "Display memory usage"),
    ("uptime", "Show system uptime and load"),
    ("uname [-a]", "System information"),
    ("lscpu", "Display CPU information"),
    ("lsblk", "List block devices"),
    ("mount", "Display mounted filesystems"),
    ("whoami", "Display current username"),
    ("who", "Show logged in users"),
    ("date", "Display or set date")]⟩

/-- The section PERMISSIONS. -/
def permissionSection : ReferenceSection :=
  ⟨"PERMISSIONS",
   [("chmod [mode] [file]", "Change file permissions"),
    ("chown [owner] [file]", "Change file ownership"),
    ("chgrp [group] [file]", "Change group ownership")]⟩

/-- The section ARCHIVES. -/
def archiveSection : ReferenceSection :=
  ⟨"ARCHIVES",
   [("tar [-czf] [archive] [files]", "Archive files"),
    ("gzip [file]", "Compress files"),
    ("gunzip [file]", "Decompress gzip files"),
    ("zip [-r] [archive] [files]", "Create zip archives"),
    ("unzip [archive]", "Extract zip archives")]⟩

/-- The sections of the reference in order. -/
def referenceSections : List ReferenceSection :=
  [fileSection, textSection, networkSection, processSection, machineSection, permissionSection,
   archiveSection]

/-- The operators that the reference lists. -/
def referenceOperators : List String := ["|", ">", ">>", "<", "&&", "||"]

/-- The number of combinations that the reference lists. -/
def referenceCombinations : Nat := 5

/-- A synopsis and what it does on one line. A long synopsis is set off by two blanks. -/
def referenceRow (row : String × String) : String :=
  if row.1.length < 17 then "  " ++ padEnd 17 row.1 ++ row.2 else "  " ++ row.1 ++ "  " ++ row.2

/-- The lines of a section, an empty one after it. -/
def ReferenceSection.lines (s : ReferenceSection) : List String :=
  (s.title ++ ":") :: s.rows.map referenceRow ++ [""]

/-- An operator and what it does on one line. -/
def operatorRow (operator : String) : String :=
  "  " ++ padEnd 4 operator ++ " " ++ (shellOperators.lookup operator).getD ""

/-- The reference of all commands. -/
def commandReference : String :=
  joinLines <|
    ["AI Terminal - Linux Command Reference", ""] ++
    referenceSections.flatMap ReferenceSection.lines ++
    ["PIPES & REDIRECTION:"] ++ referenceOperators.map operatorRow ++ [""] ++
    ["COMMON COMBINATIONS:"] ++
    (commandCombinations.take referenceCombinations).map ("  " ++ ·) ++ [""] ++
    ["Type 'help [command]' for detailed info about a specific command.",
     "AI assistance available - just ask for help with any task!"]

end EmulatedShell
