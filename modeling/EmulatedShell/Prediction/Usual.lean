import EmulatedShell.Prediction.Basic

namespace EmulatedShell

/-- The usual patterns, each with the command line that it stands for. -/
def usualPatterns : List (String × String) :=
  [("find", "find . -name \"*.txt\" -type f"), ("find .", "find . -name \"*.txt\" -type f"),
   ("grep", "grep -r \"pattern\" ."), ("grep -", "grep -r \"pattern\" ."), ("ls", "ls -la"),
   ("cat", "cat filename.txt"), ("tail", "tail -f /var/log/syslog"),
   ("head", "head -n 20 filename.txt"), ("ping", "ping -c 4 google.com"),
   ("curl", "curl -I https://google.com"), ("wget", "wget https://example.com/file.txt"),
   ("netstat", "netstat -tuln"), ("ss", "ss -tuln"), ("traceroute", "traceroute google.com"),
   ("nslookup", "nslookup google.com"), ("dig", "dig google.com"), ("lsof", "lsof -i :80"),
   ("ps", "ps aux | grep process"), ("top", "top"), ("htop", "htop"), ("df", "df -h"),
   ("du", "du -sh *"), ("free", "free -h"), ("chmod", "chmod 755 filename"),
   ("chown", "chown user:group filename"), ("tar", "tar -czf archive.tar.gz directory/"),
   ("unzip", "unzip file.zip"), ("zip", "zip -r archive.zip directory/"), ("uname", "uname -a"),
   ("lscpu", "lscpu"), ("lsblk", "lsblk"), ("mount", "mount | grep \"^/\""), ("who", "whoami"),
   ("date", "date +\"%Y-%m-%d %H:%M:%S\"")]

/-- The usual follow-ups: from one step of a version history to the next, from one look at the
network to another, and from finding files to searching them. -/
def usualFollowUps : List FollowUp :=
  [⟨"git status", .equals "git", "git add ."⟩,
   ⟨"git add", .equals "git", "git commit -m \"Update\""⟩,
   ⟨"git commit", .equals "git", "git push origin main"⟩,
   ⟨"ping", .beginsWith "tr", "traceroute google.com"⟩,
   ⟨"ping", .beginsWith "ns", "nslookup google.com"⟩,
   ⟨"find", .beginsWith "gr", "grep -r \"pattern\" ."⟩]

/-- The predictor with the usual patterns and follow-ups. -/
def usualPredictor : Predictor := ⟨Table.ofList usualPatterns, usualFollowUps⟩

end EmulatedShell
