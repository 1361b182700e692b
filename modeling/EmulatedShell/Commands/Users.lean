import EmulatedShell.Commands.Processes

namespace EmulatedShell

/-- The user. -/
def whoami (i : Invocation) : Reply := .ok i.user

/-- The numbers of the user, or of another one. -/
def identity (i : Invocation) : Reply :=
  let user := (i.command.arg 0).getD i.user
  .ok ("uid=1000(" ++ user ++ ") gid=1000(" ++ user ++ ") groups=1000(" ++ user ++
    "),4(adm),24(cdrom),27(sudo),30(dip),46(plugdev),120(lpadmin),131(lxd),132(sambashare)")

/-- The users that are logged in. -/
def who (i : Invocation) : Reply :=
  .lines
    [i.userColumn ++ " pts/0        2024-01-20 09:00 (192.168.1.100)",
     "root     tty1         2024-01-20 08:30"]

/-- The users that are logged in and what they do. -/
def w (i : Invocation) : Reply :=
  .lines
    [upTime,
     "USER     TTY      FROM             LOGIN@   IDLE   JCPU   PCPU WHAT",
     i.userColumn ++ " pts/0    192.168.1.100    09:00    0.00s  0.05s  0.01s w",
     "root     tty1     -                08:30    1:30m  0.02s  0.02s -bash"]

/-- The users that were logged in last. -/
def last (i : Invocation) : Reply :=
  .lines
    [i.userColumn ++ " pts/0        192.168.1.100    Sat Jan 20 09:00   still logged in",
     i.userColumn ++ " pts/0        192.168.1.100    Fri Jan 19 14:30 - 18:45  (04:15)",
     "root     tty1                          Sat Jan 20 08:30   still logged in"]

/-- The commands that tell about users. -/
def userUtilities : List (String × Utility) :=
  [("whoami", .plain whoami), ("id", .plain identity), ("who", .plain who), ("w", .plain w),
   ("last", .plain last)]

end EmulatedShell
