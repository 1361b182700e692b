import EmulatedShell.Utility

namespace EmulatedShell

/-- The open connections, or the sockets that wait for one if that is asked for. -/
def netstat (i : Invocation) : Reply :=
  let header := "Proto Recv-Q Send-Q Local Address           Foreign Address         State      "
  if i.command.hasFlag ["-tuln", "-an"] then
    .lines
      ["Active Internet connections (only servers)",
       header,
       "tcp        0      0 0.0.0.0:22              0.0.0.0:*               LISTEN     ",
       "tcp        0      0 127.0.0.1:3000          0.0.0.0:*               LISTEN     ",
       "tcp        0      0 0.0.0.0:80              0.0.0.0:*               LISTEN     ",
       "tcp        0      0 0.0.0.0:443             0.0.0.0:*               LISTEN     ",
       "tcp6       0      0 :::22                   :::*                    LISTEN     ",
       "tcp6       0      0 ::1:3000                :::*                    LISTEN     ",
       "udp        0      0 0.0.0.0:53              0.0.0.0:*                          ",
       "udp        0      0 0.0.0.0:68              0.0.0.0:*                          "]
  else
    .lines
      ["Active Internet connections (w/o servers)",
       header,
       "tcp        0      0 192.168.1.100:45678     142.250.191.14:443      ESTABLISHED",
       "tcp        0      0 192.168.1.100:45679     140.82.112.4:443        ESTABLISHED"]

/-- The sockets. -/
def ss (_ : Invocation) : Reply :=
  .lines
    ["Netid  State      Recv-Q Send-Q Local Address:Port               " ++
       "Peer Address:Port              ",
     "tcp    LISTEN     0      128          *:22                       *:*                  ",
     "tcp    LISTEN     0      128    127.0.0.1:3000                   *:*                  ",
     "tcp    LISTEN     0      128          *:80                       *:*                  ",
     "tcp    LISTEN     0      128          *:443                      *:*                  ",
     "tcp    ESTAB      0      0      192.168.1.100:45678        142.250.191.14:443         ",
     "tcp    ESTAB      0      0      192.168.1.100:45679        140.82.112.4:443           "]

/-- The files and sockets that are open on a port. -/
def lsof (i : Invocation) : Reply :=
  let port := (i.command.flagValue "-i").getD ":80"
  .lines
    ["COMMAND  PID USER   FD   TYPE DEVICE SIZE/OFF NODE NAME",
     "nginx   1234 root    6u  IPv4  12345      0t0  TCP *" ++ port ++ " (LISTEN)",
     "nginx   1235 www     6u  IPv4  12345      0t0  TCP *" ++ port ++ " (LISTEN)"]

/-- Waits on a port, or connects to one. -/
def nc (i : Invocation) : Reply :=
  if i.command.hasFlag ["-l"] then
    .ok ("Listening on port " ++ (i.command.flagValue "-l").getD "8080")
  else
    match i.operands [] with
    | target :: port :: _ => .ok ("Connected to " ++ target ++ " port " ++ port)
    | _ => .missing "nc" "host or port"

/-- Connects to a port of a host, by default the usual one. -/
def telnet (i : Invocation) : Reply :=
  match i.command.arg 0 with
  | none => .missing "telnet" "host"
  | some target =>
    .lines
      ["Trying " ++ target ++ "...",
       "Connected to " ++ target ++ " port " ++ (i.command.arg 1).getD "23" ++ ".",
       "Escape character is '^]'."]

/-- The commands that list sockets. -/
def socketUtilities : List (String × Utility) := [("netstat", .plain netstat), ("ss", .plain ss)]

/-- The commands that work on one port. -/
def portUtilities : List (String × Utility) :=
  [("lsof", .plain lsof), ("nc", .plain nc), ("telnet", .plain telnet)]

end EmulatedShell
