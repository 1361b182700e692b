import EmulatedShell.Disk.Basic
import EmulatedShell.Text.Split

namespace EmulatedShell

/-- The home directory of the usual user. -/
def usualHome : String := "/home/user"

/-- The introduction in the home directory. -/
def readmeText : String :=
  joinLines
    ["Welcome to AI Terminal v2.0!",
     "",
     "This Linux terminal emulator features:",
     "",
     "AI-POWERED WORKFLOW PREDICTION",
     "- Start typing any command and watch the predictor suggest your next step",
     "- Press TAB to accept predictions",
     "- Context-aware suggestions based on your recent commands",
     "",
     "ADVANCED NETWORKING TOOLS",
     "- ping, curl, wget, traceroute, nslookup, dig",
     "- netstat, ss for connection monitoring",
     "- Simulated network diagnostics",
     "",
     "COMPREHENSIVE LINUX COMMANDS",
     "- File operations: ls, cd, pwd, cat, find, grep",
     "- System monitoring: ps, top, df, du, free",
     "- Permissions: chmod, chown",
     "- Archives: tar, unzip",
     "",
     "FEATURES",
     "- Predictive command completion",
     "- Context-aware AI assistance",
     "- Intelligent workflow suggestions",
     "",
     "Try typing \"find\" or \"git\" and see what happens!"]

/-- The start-up file in the home directory. -/
def startupText : String :=
  joinLines
    ["# ~/.bashrc: executed by bash(1) for non-login shells.",
     "",
     "export PATH=$HOME/bin:/usr/local/bin:$PATH",
     "export EDITOR=nano",
     "",
     "# AI Terminal aliases",
     "alias ll='ls -la'",
     "alias la='ls -A'",
     "alias l='ls -CF'",
     "alias ..='cd ..'",
     "alias ...='cd ../..'",
     "",
     "# Network shortcuts",
     "alias ports='netstat -tuln'",
     "alias connections='ss -tuln'",
     "alias myip='curl -s ifconfig.me'",
     "",
     "# Prediction shortcuts",
     "alias predict='echo \"Workflow prediction active - just start typing!\"'",
     "",
     "# Welcome message",
     "echo \"AI Terminal v2.0 - Linux with predictive superpowers!\""]

/-- A script among the projects. -/
def scriptText : String :=
  joinLines
    ["#!/bin/bash",
     "# Build and serve the web app",
     "set -e",
     "cd \"$(dirname \"$0\")/web-app\"",
     "npm install",
     "npm run build"]

/-- The system log. -/
def logText : String :=
  joinLines
    ["Jan 20 10:30:15 ai-terminal systemd[1]: Started AI Terminal Service",
     "Jan 20 10:30:16 ai-terminal kernel: [12345.678] AI Terminal: Prediction engine initialized",
     "Jan 20 10:30:17 ai-terminal ai-terminal[1234]: Command prediction engine ready",
     "Jan 20 10:30:18 ai-terminal ai-terminal[1234]: Network diagnostics module loaded",
     "Jan 20 10:30:19 ai-terminal ai-terminal[1234]: File system monitor active"]

/-- A directory without a size of its own. -/
def folder (name : String) : Entry := ⟨name, .directory, none, some "drwxr-xr-x", none⟩

/-- A directory that everyone may write to. -/
def sharedFolder (name : String) : Entry := ⟨name, .directory, none, some "drwxrwxrwt", none⟩

/-- A file with a size and permissions. -/
def document (name : String) (size : Int) (permissions : String) : Entry :=
  ⟨name, .file, some size, some permissions, none⟩

/-- The permissions of a file that is neither secret nor a program. -/
def usualPermissions : String := "-rw-r--r--"

/-- The directories of the usual disk. -/
def usualTree : List (String × List Entry) :=
  [("/",
    [folder "home",
     folder "etc",
     folder "var",
     folder "usr",
     folder "bin",
     sharedFolder "tmp"]),
   ("/home", [folder "user", folder "guest"]),
   ("/home/guest", []),
   ("/home/user",
    [folder "documents",
     folder "downloads",
     folder "projects",
     document ".bashrc" 3423 usualPermissions,
     document "readme.txt" 1024 usualPermissions]),
   ("/home/user/documents",
    [document "report.txt" 2048 usualPermissions,
     document "notes.md" 512 usualPermissions]),
   ("/home/user/downloads", [document "image.jpg" 245760 usualPermissions]),
   ("/home/user/projects",
    [folder "ai-terminal",
     folder "web-app",
     document "script.sh" 512 "-rwxr-xr-x"]),
   ("/home/user/projects/ai-terminal", [document "README.md" 1536 usualPermissions]),
   ("/home/user/projects/web-app", [document "index.html" 768 usualPermissions]),
   ("/etc",
    [document "hostname" 12 usualPermissions,
     document "hosts" 221 usualPermissions,
     document "passwd" 1843 usualPermissions]),
   ("/var", [folder "log"]),
   ("/var/log", [document "syslog" 58213 "-rw-r-----"]),
   ("/usr", [folder "bin", folder "lib", folder "share"]),
   ("/bin", []),
   ("/tmp", [])]

/-- The files of the usual disk that can be read, by the name that is typed. -/
def usualContents : List (String × String) :=
  [("readme.txt", readmeText),
   (".bashrc", startupText),
   ("script.sh", scriptText),
   ("/var/log/syslog", logText)]

/-- The disk that a session starts with unless it is given another. -/
def usualDisk : Disk := ⟨Table.ofList usualTree, Table.ofList usualContents⟩

end EmulatedShell
