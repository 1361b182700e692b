import EmulatedShell.Utility

namespace EmulatedShell

/-- The neighbours on the network, in one of two layouts. -/
def arp (i : Invocation) : Reply :=
  if i.command.hasFlag ["-a"] then
    .lines
      ["? (192.168.1.1) at aa:bb:cc:dd:ee:ff [ether] on eth0",
       "? (192.168.1.100) at 11:22:33:44:55:66 [ether] on eth0",
       "? (192.168.1.254) at ff:ee:dd:cc:bb:aa [ether] on eth0"]
  else
    .lines
      ["Address                  HWtype  HWaddress           Flags Mask            Iface",
       "192.168.1.1              ether   aa:bb:cc:dd:ee:ff   C                     eth0",
       "192.168.1.254            ether   ff:ee:dd:cc:bb:aa   C                     eth0"]

/-- The routing table, with names or with numbers alone. -/
def route (i : Invocation) : Reply :=
  let gateway :=
    if i.command.hasFlag ["-n"] then "0.0.0.0         192.168.1.1     "
    else "default         gateway         "
  .lines
    ["Kernel IP routing table",
     "Destination     Gateway         Genmask         Flags Metric Ref    Use Iface",
     gateway ++ "0.0.0.0         UG    100    0        0 eth0",
     "192.168.1.0     0.0.0.0         255.255.255.0   U     100    0        0 eth0"]

/-- The state of the loopback device. -/
def loopbackState (mode : String) : String :=
  "1: lo: <LOOPBACK,UP,LOWER_UP> mtu 65536 qdisc noqueue state UNKNOWN " ++ mode ++
    "group default qlen 1000"

/-- The state of the network device. -/
def networkState (mode : String) : String :=
  "2: eth0: <BROADCAST,MULTICAST,UP,LOWER_UP> mtu 1500 qdisc pfifo_fast state UP " ++ mode ++
    "group default qlen 1000"

/-- The devices with their addresses, the routes, or the devices alone. -/
def ip (i : Invocation) : Reply :=
  if i.command.hasFlag ["addr", "a", "address"] then
    .lines
      [loopbackState "",
       "    link/loopback 00:00:00:00:00:00 brd 00:00:00:00:00:00",
       "    inet 127.0.0.1/8 scope host lo",
       networkState "",
       "    link/ether 11:22:33:44:55:66 brd ff:ff:ff:ff:ff:ff",
       "    inet 192.168.1.100/24 brd 192.168.1.255 scope global dynamic eth0"]
  else if i.command.hasFlag ["route", "r"] then
    .lines
      ["default via 192.168.1.1 dev eth0 proto dhcp metric 100",
       "192.168.1.0/24 dev eth0 proto kernel scope link src 192.168.1.100 metric 100"]
  else if i.command.hasFlag ["link", "l"] then
    .lines
      [loopbackState "mode DEFAULT ",
       "    link/loopback 00:00:00:00:00:00 brd 00:00:00:00:00:00",
       networkState "mode DEFAULT ",
       "    link/ether 11:22:33:44:55:66 brd ff:ff:ff:ff:ff:ff"]
  else .fail "ip: missing command. Try \"ip addr\", \"ip route\", or \"ip link\""

/-- The settings of one device, or of all. -/
def ifconfig (i : Invocation) : Reply :=
  match i.command.arg 0 with
  | some interface =>
    .lines
      [interface ++ ": flags=4163<UP,BROADCAST,RUNNING,MULTICAST>  mtu 1500",
       "        inet 192.168.1.100  netmask 255.255.255.0  broadcast 192.168.1.255",
       "        ether 11:22:33:44:55:66  txqueuelen 1000  (Ethernet)",
       "        RX packets 12345  bytes 1234567 (1.2 MB)",
       "        TX packets 6789  bytes 987654 (987.6 KB)"]
  | none =>
    .lines
      ["eth0: flags=4163<UP,BROADCAST,RUNNING,MULTICAST>  mtu 1500",
       "        inet 192.168.1.100  netmask 255.255.255.0  broadcast 192.168.1.255",
       "        ether 11:22:33:44:55:66  txqueuelen 1000  (Ethernet)",
       "",
       "lo: flags=73<UP,LOOPBACK,RUNNING>  mtu 65536",
       "        inet 127.0.0.1  netmask 255.0.0.0",
       "        loop  txqueuelen 1000  (Local Loopback)"]

/-- The settings of a wireless device. -/
def iwconfig (i : Invocation) : Reply :=
  let interface := (i.command.arg 0).getD "wlan0"
  .lines
    [padEnd 10 interface ++ "IEEE 802.11  ESSID:\"MyNetwork\"",
     "          Mode:Managed  Frequency:2.437 GHz  Access Point: AA:BB:CC:DD:EE:FF",
     "          Bit Rate=54 Mb/s   Tx-Power=20 dBm",
     "          Retry short limit:7   RTS thr:off   Fragment thr:off",
     "          Power Management:on",
     "          Link Quality=70/70  Signal level=-40 dBm",
     "          Rx invalid nwid:0  Rx invalid crypt:0  Rx invalid frag:0"]

/-- The commands that tell about the devices of the network. -/
def interfaceUtilities : List (String × Utility) :=
  [("arp", .plain arp), ("route", .plain route), ("ip", .plain ip), ("ifconfig", .plain ifconfig),
   ("iwconfig", .plain iwconfig)]

end EmulatedShell
