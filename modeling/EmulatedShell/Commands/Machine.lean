import EmulatedShell.Commands.Processes

namespace EmulatedShell

/-- The release of the kernel. -/
def kernelRelease : String := "5.15.0-ai"

/-- The kind of machine. -/
def machineName : String := "x86_64"

/-- The room on the disks, in round figures if that is asked for. -/
def df (i : Invocation) : Reply :=
  if i.command.hasFlag ["-h"] then
    .lines
      ["Filesystem      Size  Used Avail Use% Mounted on",
       "/dev/sda1        20G  8.5G   11G  45% /",
       "tmpfs           2.0G     0  2.0G   0% /dev/shm",
       "/dev/sda2       100G   45G   50G  48% /home"]
  else
    .lines
      ["Filesystem     1K-blocks    Used Available Use% Mounted on",
       "/dev/sda1       20971520 8912896  11534336  45% /",
       "tmpfs            2097152       0   2097152   0% /dev/shm",
       "/dev/sda2      104857600 47185920  52428800  48% /home"]

/-- The room that directories take up, in round figures if that is asked for. -/
def du (i : Invocation) : Reply :=
  if i.command.hasFlag ["-sh"] then
    .lines
      ["1.2G\tdocuments", "856M\tdownloads", "2.3G\tprojects", "45M\t.cache", "12K\t.bashrc"]
  else
    .lines
      ["1234567\t./documents", "876543\t./downloads", "2345678\t./projects", "45678\t./.cache",
       "12\t./.bashrc"]

/-- The memory in use, in the unit that is asked for. -/
def free (i : Invocation) : Reply :=
  let header := "              total        used        free      shared  buff/cache   available"
  if i.command.hasFlag ["-h"] then
    .lines
      [header,
       "Mem:           7.8G        2.1G        3.2G        156M        2.5G        5.4G",
       "Swap:          2.0G          0B        2.0G"]
  else if i.command.hasFlag ["-m"] then
    .lines
      [header,
       "Mem:           7974        2106        3210         156        2657        5436",
       "Swap:          2048           0        2048"]
  else
    .lines
      [header,
       "Mem:        8165432     2156789     3287654      159876     2720989     5567123",
       "Swap:       2097152           0     2097152"]

/-- How long the machine has been up. -/
def uptime (_ : Invocation) : Reply := .ok upTime

/-- The name of the system, or what else is asked for. -/
def uname (i : Invocation) : Reply :=
  if i.command.hasFlag ["-a"] then
    .ok ("Linux " ++ i.hostname ++ " " ++ kernelRelease ++ " #1 SMP " ++ machineName ++
      " GNU/Linux")
  else if i.command.hasFlag ["-r"] then .ok kernelRelease
  else if i.command.hasFlag ["-m"] then .ok machineName
  else if i.command.hasFlag ["-n"] then .ok i.hostname
  else .ok "Linux"

/-- What is known about the processor. -/
def processorFacts : List (String × String) :=
  [("Architecture", machineName), ("CPU op-mode(s)", "32-bit, 64-bit"),
   ("Byte Order", "Little Endian"), ("CPU(s)", "4"), ("Model name", "AI Terminal Processor"),
   ("CPU MHz", "2400.000"), ("Cache L1d", "128 KiB"), ("Cache L1i", "128 KiB"),
   ("Cache L2", "1 MiB"), ("Cache L3", "8 MiB")]

/-- The processor, fact by fact. -/
def lscpu (_ : Invocation) : Reply :=
  .lines (processorFacts.map fun fact => padEnd 33 (fact.1 ++ ":") ++ fact.2)

/-- The disks and their parts, with their file systems if that is asked for. -/
def lsblk (i : Invocation) : Reply :=
  if i.command.hasFlag ["-f"] then
    .lines
      ["NAME   FSTYPE LABEL UUID                                 MOUNTPOINT",
       "sda",
       "├─sda1 ext4         3f1c2a7e-5b2d-4c1e-9f4a-1b2c3d4e5f60 /",
       "└─sda2 ext4         8a9b0c1d-2e3f-4a5b-6c7d-8e9f0a1b2c3d /home"]
  else
    .lines
      ["NAME   MAJ:MIN RM   SIZE RO TYPE MOUNTPOINT",
       "sda      8:0    0   120G  0 disk ",
       "├─sda1   8:1    0    20G  0 part /",
       "└─sda2   8:2    0   100G  0 part /home"]

/-- The devices on the serial bus, in detail if that is asked for. -/
def lsusb (i : Invocation) : Reply :=
  if i.command.hasFlag ["-v"] then
    .lines
      ["Bus 001 Device 001: ID 1d6b:0002 Linux Foundation 2.0 root hub",
       "Device Descriptor:",
       "  bLength                18",
       "  bDescriptorType         1",
       "  bcdUSB               2.00"]
  else
    .lines
      ["Bus 001 Device 001: ID 1d6b:0002 Linux Foundation 2.0 root hub",
       "Bus 001 Device 002: ID 8087:0024 Intel Corp. Integrated Rate Matching Hub",
       "Bus 001 Device 003: ID 046d:c52b Logitech, Inc. Unifying Receiver"]

/-- The devices on the inner bus, in detail if that is asked for. -/
def lspci (i : Invocation) : Reply :=
  if i.command.hasFlag ["-v"] then
    .lines
      ["00:00.0 Host bridge: Intel Corporation Device 1234",
       "\tSubsystem: Intel Corporation Device 5678",
       "\tFlags: bus master, fast devsel, latency 0"]
  else
    .lines
      ["00:00.0 Host bridge: Intel Corporation Device 1234",
       "00:02.0 VGA compatible controller: Intel Corporation Device 5678",
       "00:1f.0 ISA bridge: Intel Corporation Device 9abc"]

/-- The mounted file systems, or an acknowledgement of a new one. What follows a pipe is ignored. -/
def mount (i : Invocation) : Reply :=
  match operands ["-t"] (i.args.takeWhile (· != "|")) with
  | device :: place :: _ => .ok ("Mounted " ++ device ++ " on " ++ place)
  | _ =>
    .lines
      ["/dev/sda1 on / type ext4 (rw,relatime)",
       "/dev/sda2 on /home type ext4 (rw,relatime)",
       "tmpfs on /tmp type tmpfs (rw,nosuid,nodev)",
       "proc on /proc type proc (rw,nosuid,nodev,noexec,relatime)"]

/-- Acknowledges that a file system is unmounted. -/
def umount (i : Invocation) : Reply :=
  i.onOperand "mountpoint" fun target => .ok ("Unmounted " ++ target)

/-- The commands that tell about the machine and its disks. -/
def machineUtilities : List (String × Utility) :=
  [("df", .plain df), ("du", .plain du), ("free", .plain free), ("uptime", .plain uptime),
   ("uname", .plain uname), ("lscpu", .plain lscpu), ("lsblk", .plain lsblk),
   ("lsusb", .plain lsusb), ("lspci", .plain lspci), ("mount", .plain mount),
   ("umount", .plain umount)]

end EmulatedShell
