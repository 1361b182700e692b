import EmulatedShell.Catalogue.Basic

namespace EmulatedShell

/-- Files and directories. -/
def fileEntries : List CatalogueEntry :=
  [⟨"ls", "List directory contents", .file, "ls [options] [directory]",
     ["ls -la", "ls -lh", "ls -R"]⟩,
   ⟨"cd", "Change directory", .file, "cd [directory]", ["cd /home", "cd ..", "cd ~"]⟩,
   ⟨"pwd", "Print working directory", .file, "pwd", ["pwd"]⟩,
   ⟨"mkdir", "Create directories", .file, "mkdir [options] directory",
     ["mkdir newdir", "mkdir -p path/to/dir"]⟩,
   ⟨"rmdir", "Remove empty directories", .file, "rmdir directory", ["rmdir emptydir"]⟩,
   ⟨"rm", "Remove files and directories", .file, "rm [options] file",
     ["rm file.txt", "rm -rf directory", "rm -i file.txt"]⟩,
   ⟨"cp", "Copy files and directories", .file, "cp [options] source destination",
     ["cp file.txt backup.txt", "cp -r dir1 dir2"]⟩,
   ⟨"mv", "Move/rename files and directories", .file, "mv source destination",
     ["mv old.txt new.txt", "mv file.txt /home/user/"]⟩,
   ⟨"ln", "Create links between files", .file, "ln [options] target linkname",
     ["ln -s /path/to/file symlink", "ln file hardlink"]⟩,
   ⟨"find", "Search for files and directories", .search, "find [path] [expression]",
     ["find . -name \"*.txt\"", "find /home -type f -size +1M", "find . -mtime -7"]⟩,
   ⟨"locate", "Find files by name (database)", .search, "locate pattern",
     ["locate filename", "locate \"*.conf\""]⟩,
   ⟨"which", "Locate command", .search, "which command", ["which python", "which ls"]⟩,
   ⟨"whereis", "Locate binary, source, manual", .search, "whereis command",
     ["whereis ls", "whereis python"]⟩]

/-- Showing, searching and cutting text. -/
def textEntries : List CatalogueEntry :=
  [⟨"cat", "Display file contents", .text, "cat [options] file",
     ["cat file.txt", "cat -n file.txt"]⟩,
   ⟨"less", "View file contents page by page", .text, "less file",
     ["less file.txt", "less +G file.txt"]⟩,
   ⟨"more", "View file contents page by page", .text, "more file", ["more file.txt"]⟩,
   ⟨"head", "Display first lines of file", .text, "head [options] file",
     ["head file.txt", "head -n 20 file.txt"]⟩,
   ⟨"tail", "Display last lines of file", .text, "tail [options] file",
     ["tail file.txt", "tail -f /var/log/syslog", "tail -n 50 file.txt"]⟩,
   ⟨"grep", "Search text patterns in files", .search, "grep [options] pattern [file]",
     ["grep \"pattern\" file.txt", "grep -r \"text\" .", "grep -i \"case\" file.txt"]⟩,
   ⟨"egrep", "Extended grep with regex", .search, "egrep pattern file",
     ["egrep \"pattern1|pattern2\" file.txt"]⟩,
   ⟨"fgrep", "Fixed string grep", .search, "fgrep string file",
     ["fgrep \"exact string\" file.txt"]⟩,
   ⟨"sed", "Stream editor for filtering and transforming text", .text,
     "sed [options] script [file]",
     ["sed \"s/old/new/g\" file.txt", "sed -n \"1,5p\" file.txt"]⟩,
   ⟨"awk", "Text processing tool", .text, "awk pattern \x7b action \x7d file",
     ["awk \"\x7bprint $1\x7d\" file.txt", "awk \"/pattern/ \x7bprint\x7d\" file.txt"]⟩,
   ⟨"cut", "Extract columns from text", .text, "cut [options] file",
     ["cut -d\":\" -f1 /etc/passwd", "cut -c1-10 file.txt"]⟩,
   ⟨"sort", "Sort lines in text files", .text, "sort [options] file",
     ["sort file.txt", "sort -n numbers.txt", "sort -r file.txt"]⟩,
   ⟨"uniq", "Report or omit repeated lines", .text, "uniq [options] file",
     ["uniq file.txt", "sort file.txt | uniq -c"]⟩,
   ⟨"wc", "Word, line, character, and byte count", .text, "wc [options] file",
     ["wc file.txt", "wc -l file.txt", "wc -w file.txt"]⟩,
   ⟨"tr", "Translate or delete characters", .text, "tr [options] set1 [set2]",
     ["tr \"a-z\" \"A-Z\"", "tr -d \"0-9\""]⟩]

/-- The network. -/
def networkEntries : List CatalogueEntry :=
  [⟨"ping", "Send ICMP echo requests", .network, "ping [options] host",
     ["ping google.com", "ping -c 4 8.8.8.8", "ping6 ipv6.google.com"]⟩,
   ⟨"curl", "Transfer data from/to servers", .network, "curl [options] URL",
     ["curl https://api.github.com", "curl -I https://google.com", "curl -X POST -d \"data\" url"]⟩,
   ⟨"wget", "Download files from web", .network, "wget [options] URL",
     ["wget https://example.com/file.zip", "wget -r https://site.com"]⟩,
   ⟨"netstat", "Display network connections", .network, "netstat [options]",
     ["netstat -tuln", "netstat -an", "netstat -r"]⟩,
   ⟨"ss", "Modern netstat replacement", .network, "ss [options]", ["ss -tuln", "ss -an", "ss -s"]⟩,
   ⟨"traceroute", "Trace network path to destination", .network, "traceroute host",
     ["traceroute google.com", "traceroute -n 8.8.8.8"]⟩,
   ⟨"tracepath", "Trace network path (no root required)", .network, "tracepath host",
     ["tracepath google.com"]⟩,
   ⟨"nslookup", "DNS lookup utility", .network, "nslookup [host] [server]",
     ["nslookup google.com", "nslookup google.com 8.8.8.8"]⟩,
   ⟨"dig", "Advanced DNS lookup tool", .network, "dig [options] host [type]",
     ["dig google.com", "dig @8.8.8.8 google.com MX", "dig +short google.com"]⟩,
   ⟨"host", "DNS lookup utility", .network, "host [options] host [server]",
     ["host google.com", "host -t MX google.com"]⟩,
   ⟨"arp", "Display/modify ARP table", .network, "arp [options]", ["arp -a", "arp -n"]⟩,
   ⟨"route", "Display/modify routing table", .network, "route [options]",
     ["route -n", "route add default gw 192.168.1.1"]⟩,
   ⟨"ip", "Show/manipulate routing, devices", .network, "ip [options] object command",
     ["ip addr show", "ip route show", "ip link show"]⟩,
   ⟨"ifconfig", "Configure network interface", .network, "ifconfig [interface] [options]",
     ["ifconfig", "ifconfig eth0", "ifconfig eth0 up"]⟩,
   ⟨"iwconfig", "Configure wireless interface", .network, "iwconfig [interface] [options]",
     ["iwconfig", "iwconfig wlan0"]⟩,
   ⟨"lsof", "List open files and network connections", .network, "lsof [options]",
     ["lsof -i :80", "lsof -u user", "lsof /path/to/file"]⟩,
   ⟨"nc", "Netcat - network utility", .network, "nc [options] host port",
     ["nc -l 8080", "nc google.com 80", "nc -z host 20-30"]⟩,
   ⟨"telnet", "Connect to remote host", .network, "telnet host [port]",
     ["telnet google.com 80", "telnet 192.168.1.1"]⟩,
   ⟨"ssh", "Secure shell remote login", .network, "ssh [options] user@host",
     ["ssh user@server.com", "ssh -p 2222 user@host"]⟩,
   ⟨"scp", "Secure copy over SSH", .network, "scp [options] source destination",
     ["scp file.txt user@host:/path/", "scp -r dir/ user@host:/path/"]⟩,
   ⟨"rsync", "Synchronize files/directories", .network, "rsync [options] source destination",
     ["rsync -av dir/ user@host:/backup/", "rsync -az --delete src/ dst/"]⟩]

/-- Processes and jobs. -/
def processEntries : List CatalogueEntry :=
  [⟨"ps", "Display running processes", .process, "ps [options]",
     ["ps aux", "ps -ef", "ps -u user"]⟩,
   ⟨"top", "Display running processes (real-time)", .process, "top [options]",
     ["top", "top -u user", "top -p PID"]⟩,
   ⟨"htop", "Interactive process viewer", .process, "htop [options]", ["htop", "htop -u user"]⟩,
   ⟨"kill", "Terminate processes", .process, "kill [signal] PID",
     ["kill 1234", "kill -9 1234", "kill -TERM 1234"]⟩,
   ⟨"killall", "Kill processes by name", .process, "killall [options] name",
     ["killall firefox", "killall -9 chrome"]⟩,
   ⟨"pgrep", "Find process IDs by name", .process, "pgrep [options] pattern",
     ["pgrep firefox", "pgrep -u user python"]⟩,
   ⟨"pkill", "Kill processes by name", .process, "pkill [options] pattern",
     ["pkill firefox", "pkill -u user python"]⟩,
   ⟨"jobs", "Display active jobs", .process, "jobs [options]", ["jobs", "jobs -l"]⟩,
   ⟨"bg", "Put job in background", .process, "bg [job]", ["bg", "bg %1"]⟩,
   ⟨"fg", "Bring job to foreground", .process, "fg [job]", ["fg", "fg %1"]⟩,
   ⟨"nohup", "Run command immune to hangups", .process, "nohup command [args]",
     ["nohup long-running-script &"]⟩]

/-- The machine and its disks. -/
def machineEntries : List CatalogueEntry :=
  [⟨"df", "Display filesystem disk space", .system, "df [options] [filesystem]",
     ["df -h", "df -i", "df /home"]⟩,
   ⟨"du", "Display directory space usage", .system, "du [options] [directory]",
     ["du -sh *", "du -h --max-depth=1", "du -sk * | sort -n"]⟩,
   ⟨"free", "Display memory usage", .system, "free [options]", ["free -h", "free -m", "free -s 5"]⟩,
   ⟨"uptime", "Show system uptime and load", .system, "uptime", ["uptime"]⟩,
   ⟨"uname", "System information", .system, "uname [options]",
     ["uname -a", "uname -r", "uname -m"]⟩,
   ⟨"lscpu", "Display CPU information", .system, "lscpu", ["lscpu"]⟩,
   ⟨"lsblk", "List block devices", .system, "lsblk [options]", ["lsblk", "lsblk -f"]⟩,
   ⟨"lsusb", "List USB devices", .system, "lsusb [options]", ["lsusb", "lsusb -v"]⟩,
   ⟨"lspci", "List PCI devices", .system, "lspci [options]", ["lspci", "lspci -v"]⟩,
   ⟨"mount", "Mount filesystems", .system, "mount [options] device mountpoint",
     ["mount", "mount /dev/sdb1 /mnt", "mount -t ext4 /dev/sdb1 /mnt"]⟩,
   ⟨"umount", "Unmount filesystems", .system, "umount [options] mountpoint",
     ["umount /mnt", "umount -f /mnt"]⟩]

/-- Permissions and owners. -/
def permissionEntries : List CatalogueEntry :=
  [⟨"chmod", "Change file permissions", .permission, "chmod [options] mode file",
     ["chmod 755 file.txt", "chmod +x script.sh", "chmod -R 644 dir/"]⟩,
   ⟨"chown", "Change file ownership", .permission, "chown [options] owner[:group] file",
     ["chown user file.txt", "chown user:group file.txt", "chown -R user dir/"]⟩,
   ⟨"chgrp", "Change group ownership", .permission, "chgrp [options] group file",
     ["chgrp group file.txt", "chgrp -R group dir/"]⟩,
   ⟨"umask", "Set default file permissions", .permission, "umask [mode]",
     ["umask", "umask 022", "umask 077"]⟩]

/-- Archives and compressed files. -/
def archiveEntries : List CatalogueEntry :=
  [⟨"tar", "Archive files", .archive, "tar [options] archive files",
     ["tar -czf archive.tar.gz dir/", "tar -xzf archive.tar.gz", "tar -tzf archive.tar.gz"]⟩,
   ⟨"gzip", "Compress files", .archive, "gzip [options] file",
     ["gzip file.txt", "gzip -d file.txt.gz"]⟩,
   ⟨"gunzip", "Decompress gzip files", .archive, "gunzip file.gz", ["gunzip file.txt.gz"]⟩,
   ⟨"zip", "Create zip archives", .archive, "zip [options] archive files",
     ["zip archive.zip file1 file2", "zip -r archive.zip dir/"]⟩,
   ⟨"unzip", "Extract zip archives", .archive, "unzip [options] archive",
     ["unzip archive.zip", "unzip -l archive.zip"]⟩]

/-- Smaller utilities and the shell itself. -/
def utilityEntries : List CatalogueEntry :=
  [⟨"echo", "Display text", .text, "echo [options] text",
     ["echo \"Hello World\"", "echo -n \"No newline\"", "echo $PATH"]⟩,
   ⟨"date", "Display or set date", .system, "date [options] [format]",
     ["date", "date +\"%Y-%m-%d\"", "date -d \"tomorrow\""]⟩,
   ⟨"cal", "Display calendar", .system, "cal [month] [year]", ["cal", "cal 12 2024", "cal -y"]⟩,
   ⟨"whoami", "Display current username", .system, "whoami", ["whoami"]⟩,
   ⟨"id", "Display user and group IDs", .system, "id [user]", ["id", "id user"]⟩,
   ⟨"who", "Show logged in users", .system, "who [options]", ["who", "who -a"]⟩,
   ⟨"w", "Show logged in users and activity", .system, "w [user]", ["w", "w user"]⟩,
   ⟨"last", "Show last logged in users", .system, "last [options] [user]",
     ["last", "last user", "last -n 10"]⟩,
   ⟨"history", "Command history", .system, "history [options]",
     ["history", "history 10", "history -c"]⟩,
   ⟨"alias", "Create command aliases", .system, "alias [name=value]",
     ["alias", "alias ll=\"ls -la\"", "alias grep=\"grep --color\""]⟩,
   ⟨"unalias", "Remove aliases", .system, "unalias name", ["unalias ll", "unalias -a"]⟩,
   ⟨"type", "Display command type", .system, "type command", ["type ls", "type cd"]⟩,
   ⟨"file", "Determine file type", .file, "file [options] file", ["file document.pdf", "file *"]⟩,
   ⟨"stat", "Display file statistics", .file, "stat [options] file",
     ["stat file.txt", "stat -c \"%n %s\" *"]⟩,
   ⟨"touch", "Create empty files or update timestamps", .file, "touch [options] file",
     ["touch newfile.txt", "touch -t 202401011200 file.txt"]⟩,
   ⟨"basename", "Extract filename from path", .text, "basename path [suffix]",
     ["basename /path/to/file.txt", "basename /path/to/file.txt .txt"]⟩,
   ⟨"dirname", "Extract directory from path", .text, "dirname path", ["dirname /path/to/file.txt"]⟩,
   ⟨"xargs", "Build and execute commands from input", .text, "xargs [options] command",
     ["find . -name \"*.txt\" | xargs grep \"pattern\"", "echo \"file1 file2\" | xargs rm"]⟩,
   ⟨"tee", "Write output to both file and stdout", .text, "tee [options] file",
     ["command | tee output.txt", "command | tee -a log.txt"]⟩,
   ⟨"watch", "Execute command repeatedly", .system, "watch [options] command",
     ["watch \"ps aux\"", "watch -n 5 \"df -h\""]⟩,
   ⟨"screen", "Terminal multiplexer", .system, "screen [options] [command]",
     ["screen", "screen -S session_name", "screen -r session_name"]⟩,
   ⟨"tmux", "Terminal multiplexer", .system, "tmux [command]",
     ["tmux", "tmux new -s session", "tmux attach -t session"]⟩]

/-- The commands that the shell knows of. -/
def builtinCatalogue : Catalogue :=
  Catalogue.ofEntries
    (fileEntries ++ textEntries ++ networkEntries ++ processEntries ++ machineEntries ++
      permissionEntries ++ archiveEntries ++ utilityEntries)

end EmulatedShell
