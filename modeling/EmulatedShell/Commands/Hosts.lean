import EmulatedShell.FixedPoint
import EmulatedShell.Time.Format
import EmulatedShell.Utility

namespace EmulatedShell

/-- The address that every host name stands for. -/
def resolvedAddress : String := "142.250.191.14"

/-- The long address that every host name stands for. -/
def resolvedLongAddress : String := "2607:f8b0:4004:c1b::65"

/-- A token that asks a name server for something, or says which one to ask. -/
def isServerOption (token : String) : Bool := beginsWith "@" token || beginsWith "+" token

/-- The host that a command is about. Without one, it is the usual one. -/
def targetHost (i : Invocation) (valueFlags : List String) : String :=
  (((i.operands valueFlags).filter fun token => !isServerOption token).head?).getD "google.com"

/-- The most packets that are sent at once. -/
def packetLimit : Nat := 100

/-- The number of packets asked for. It is four unless a positive number is given, and it is never
beyond the limit. -/
def packetCount (command : Command) : Nat :=
  let count := command.intFlag "-c" 4
  if count ≤ 0 then 4 else min count.toNat packetLimit

/-- The reply to one packet. -/
def packetReply (sequence : Nat) (time : Float) : String :=
  "64 bytes from " ++ resolvedAddress ++ ": icmp_seq=" ++ toString sequence ++ " ttl=55 time=" ++
    fixedPoint 3 time ++ " ms"

/-- What is printed about the packets sent to a host. -/
def packetReport (host : String) (times : List Float) (average : Float) : Reply :=
  let count := toString times.length
  .lines
    (["PING " ++ host ++ " (" ++ resolvedAddress ++ "): 56 data bytes"] ++
      times.zipIdx.map (fun reply => packetReply reply.2 reply.1) ++
      ["",
       "--- " ++ host ++ " ping statistics ---",
       count ++ " packets transmitted, " ++ count ++ " packets received, 0.0% packet loss",
       "round-trip min/avg/max/stddev = 10.234/" ++ fixedPoint 3 average ++
         "/15.456/1.234 ms"])

/-- Sends packets to a host. Each takes between ten and fifteen milliseconds, and the average is
drawn on its own. -/
def ping (i : Invocation) (random : RandomSource) : Reply × RandomSource :=
  let (times, random) := random.manyBetween 10 15 (packetCount i.command)
  let (average, random) := random.between 12 14
  (packetReport (targetHost i ["-c"]) times average, random)

/-- The way to a host, with three times for each step. -/
def traceroute (i : Invocation) : Reply :=
  let host := targetHost i []
  .lines
    ["traceroute to " ++ host ++ " (" ++ resolvedAddress ++ "), 30 hops max, 60 byte packets",
     " 1  192.168.1.1 (192.168.1.1)  1.234 ms  1.123 ms  1.456 ms",
     " 2  10.0.0.1 (10.0.0.1)  5.678 ms  5.432 ms  5.789 ms",
     " 3  203.0.113.1 (203.0.113.1)  12.345 ms  12.123 ms  12.456 ms",
     " 4  * * *",
     " 5  " ++ resolvedAddress ++ " (" ++ resolvedAddress ++ ")  15.678 ms  15.432 ms  15.789 ms"]

/-- The way to a host, with one time for each step. -/
def tracepath (i : Invocation) : Reply :=
  let host := targetHost i []
  .lines
    ["tracepath to " ++ host ++ " (" ++ resolvedAddress ++ "), 30 hops max",
     " 1:  192.168.1.1                                           1.234ms",
     " 2:  10.0.0.1                                             5.678ms",
     " 3:  203.0.113.1                                         12.345ms",
     " 4:  no reply",
     " 5:  " ++ resolvedAddress ++ "                                      15.678ms reached"]

/-- The addresses of a host, with the name server that gave them. -/
def nslookup (i : Invocation) : Reply :=
  let host := targetHost i []
  .lines
    ["Server:\t\t8.8.8.8",
     "Address:\t8.8.8.8#53",
     "",
     "Non-authoritative answer:",
     "Name:\t" ++ host,
     "Address: " ++ resolvedAddress,
     "Name:\t" ++ host,
     "Address: " ++ resolvedLongAddress]

/-- The address of a host, with the question and the answer or alone. -/
def dig (i : Invocation) (now : Moment) : Reply :=
  let host := targetHost i []
  if i.command.hasFlag ["+short"] then .ok resolvedAddress
  else
    .lines
      ["; <<>> DiG 9.16.1-Ubuntu <<>> " ++ host,
       ";; global options: +cmd",
       ";; Got answer:",
       ";; ->>HEADER<<- opcode: QUERY, status: NOERROR, id: 12345",
       ";; flags: qr rd ra; QUERY: 1, ANSWER: 1, AUTHORITY: 0, ADDITIONAL: 1",
       "",
       ";; OPT PSEUDOSECTION:",
       "; EDNS: version: 0, flags:; udp: 512",
       ";; QUESTION SECTION:",
       ";" ++ host ++ ".\t\t\tIN\tA",
       "",
       ";; ANSWER SECTION:",
       host ++ ".\t\t300\tIN\tA\t" ++ resolvedAddress,
       "",
       ";; Query time: 23 msec",
       ";; SERVER: 8.8.8.8#53(8.8.8.8)",
       ";; WHEN: " ++ now.format "%a %b %d %H:%M:%S %Y",
       ";; MSG SIZE  rcvd: 55"]

/-- The addresses of a host and its mail server. -/
def host (i : Invocation) : Reply :=
  match i.operands ["-t"] with
  | [] => .missing "host" "hostname"
  | name :: _ =>
    .lines
      [name ++ " has address " ++ resolvedAddress,
       name ++ " has IPv6 address " ++ resolvedLongAddress,
       name ++ " mail is handled by 10 smtp." ++ name ++ "."]

/-- The commands that follow the way to a host. -/
def routeUtilities : List (String × Utility) :=
  [("traceroute", .plain traceroute), ("tracepath", .plain tracepath)]

/-- The commands that look up a host. -/
def lookupUtilities : List (String × Utility) :=
  [("nslookup", .plain nslookup), ("dig", .dated dig), ("host", .plain host)]

end EmulatedShell
