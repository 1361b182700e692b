import EmulatedShell.Utility

namespace EmulatedShell

/-- How long the machine has been up, with its load. -/
def upTime : String := " 10:30:15 up 2 days,  3:45,  2 users,  load average: 0.15, 0.25, 0.30"

/-- The processes, of all users if that is asked for. -/
def ps (i : Invocation) : Reply :=
  if i.command.hasFlag ["aux", "-ef", "-aux"] then
    .lines
      ["USER       PID %CPU %MEM    VSZ   RSS TTY      STAT START   TIME COMMAND",
       "root         1  0.0  0.1  225316  9876 ?        Ss   09:00   0:01 /sbin/init",
       "root         2  0.0  0.0      0     0 ?        S    09:00   0:00 [kthreadd]",
       i.userColumn ++ "  1234  0.5  2.1 1234567 87654 pts/0    Sl   09:30   0:05 ai-terminal",
       i.userColumn ++ "  1235  0.1  0.5  123456  5432 pts/0    S    09:31   0:01 node server.js",
       i.userColumn ++ "  1236  0.0  0.1   12345  1234 pts/0    R+   09:32   0:00 ps aux"]
  else
    .lines
      ["  PID TTY          TIME CMD",
       " 1234 pts/0    00:00:05 ai-terminal",
       " 1235 pts/0    00:00:01 node",
       " 1236 pts/0    00:00:00 ps"]

/-- One picture of the running processes. -/
def top (i : Invocation) : Reply :=
  .lines
    ["top - " ++ trim upTime,
     "Tasks: 142 total,   1 running, 141 sleeping,   0 stopped,   0 zombie",
     "%Cpu(s):  2.3 us,  0.7 sy,  0.0 ni, 96.8 id,  0.1 wa,  0.0 hi,  0.1 si,  0.0 st",
     "MiB Mem :   7974.1 total,   3210.6 free,   2106.2 used,   2657.3 buff/cache",
     "MiB Swap:   2048.0 total,   2048.0 free,      0.0 used.   5436.6 avail Mem",
     "",
     "  PID USER      PR  NI    VIRT    RES    SHR S  %CPU  %MEM     TIME+ COMMAND",
     " 1234 " ++ i.userColumn ++
      "  20   0 1234567  87654  23456 S   0.5   2.1   0:05.12 ai-terminal",
     " 1235 " ++ i.userColumn ++ "  20   0  123456   5432   3210 S   0.1   0.5   0:01.03 node",
     "    1 root      20   0  225316   9876   6543 S   0.0   0.1   0:01.45 systemd",
     "",
     "[" ++ i.name ++ " snapshot - interactive mode is not available]"]

/-- Acknowledges the end of a process. -/
def kill (i : Invocation) : Reply :=
  i.onOperand "process ID" fun target => .ok ("Process " ++ target ++ " terminated")

/-- Acknowledges the end of the processes of a name. -/
def killall (i : Invocation) : Reply :=
  i.onOperand "process name" fun target => .ok ("Killed all " ++ target ++ " processes")

/-- The numbers of the processes that a pattern finds. -/
def pgrep (i : Invocation) : Reply :=
  if (i.operands ["-u"]).isEmpty then .missing "pgrep" "pattern"
  else .lines ["1234", "1235", "1236"]

/-- Acknowledges the end of the processes that a pattern finds. -/
def pkill (i : Invocation) : Reply :=
  match i.operands ["-u"] with
  | [] => .missing "pkill" "pattern"
  | target :: _ => .ok ("Killed processes matching '" ++ target ++ "'")

/-- The jobs of the shell. -/
def jobs (_ : Invocation) : Reply :=
  .lines
    ["[1]+  Running                 long-running-script &",
     "[2]-  Stopped                 vim document.txt"]

/-- The job that goes on in the background. -/
def bg (_ : Invocation) : Reply := .ok "[1]+ long-running-script &"

/-- The job that comes to the foreground. -/
def fg (_ : Invocation) : Reply := .ok "vim document.txt"

/-- Acknowledges a command that outlives the session. -/
def nohup (i : Invocation) : Reply :=
  if trim (joinWith " " i.args) = "" then .missing "nohup" "command"
  else .lines ["nohup: ignoring input and appending output to 'nohup.out'", "[1] 12345"]

/-- The commands that deal with processes and jobs. -/
def processUtilities : List (String × Utility) :=
  [("ps", .plain ps), ("top", .plain top), ("htop", .plain top), ("kill", .plain kill),
   ("killall", .plain killall), ("pgrep", .plain pgrep), ("pkill", .plain pkill),
   ("jobs", .plain jobs), ("bg", .plain bg), ("fg", .plain fg), ("nohup", .plain nohup)]

end EmulatedShell
