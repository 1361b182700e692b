import EmulatedShell.Time.Format
import EmulatedShell.Utility
import EmulatedShell.Web.Location

namespace EmulatedShell

/-- The answer of a web service, or only its head. -/
def curl (i : Invocation) (now : Moment) : Reply :=
  if i.command.hasFlag ["-I", "--head"] then
    .lines
      ["HTTP/2 200 ",
       "server: GitHub.com",
       "date: " ++ now.format "%a, %d %b %Y %H:%M:%S" ++ " GMT",
       "content-type: application/json; charset=utf-8",
       "content-length: 2048",
       "cache-control: public, max-age=60, s-maxage=60",
       "etag: \"abc123def456\"",
       "x-ratelimit-limit: 60",
       "x-ratelimit-remaining: 59"]
  else
    .lines
      ["\x7b",
       "  \"current_user_url\": \"https://api.github.com/user\",",
       "  \"authorizations_url\": \"https://api.github.com/authorizations\",",
       "  \"repository_url\": \"https://api.github.com/repos/\x7bowner\x7d/\x7brepo\x7d\",",
       "  \"status\": \"success\",",
       "  \"message\": \"GitHub API v3\"",
       "\x7d"]

/-- The moment in the form of the web, to the millisecond. -/
def webStamp (now : Moment) : String :=
  now.format "%Y-%m-%dT%H:%M:%S" ++ "." ++ zeroPadded 3 (now.microsecond / 1000) ++ "Z"

/-- The location that a token names. Without a scheme it is a secure one. -/
def withScheme (token : String) : String :=
  if contains "://" token then token else "https://" ++ token

/-- What is printed when a file of a domain is fetched. -/
def fetchReport (stamp url domain file : String) : Reply :=
  .lines
    ["--" ++ stamp ++ "--  " ++ url,
     "Resolving " ++ domain ++ " (" ++ domain ++ ")... 93.184.216.34",
     "Connecting to " ++ domain ++ " (" ++ domain ++ ")|93.184.216.34|:443... connected.",
     "HTTP request sent, awaiting response... 200 OK",
     "Length: 1024 (1.0K) [text/plain]",
     "Saving to: '" ++ file ++ "'",
     "",
     padEnd 20 file ++ "100%[===================>]   1.00K  --.-KB/s    in 0s      ",
     "",
     stamp ++ " (5.23 MB/s) - '" ++ file ++ "' saved [1024/1024]"]

/-- Fetches the file at a location. -/
def wget (i : Invocation) (now : Moment) : Except Fault Reply := do
  let url := ((i.operands []).head?).getD "https://example.com/file.txt"
  let location ← Location.ofText (withScheme url)
  let domain := if location.host = "" then "example.com" else location.host
  let file := if location.fileName = "" then "index.html" else location.fileName
  return fetchReport (webStamp now) url domain file

/-- Opens a shell on another machine. -/
def ssh (i : Invocation) : Reply :=
  match i.operands ["-p", "-i", "-l"] with
  | [] => .missing "ssh" "destination"
  | target :: _ => .lines ["Connecting to " ++ target ++ "...", "Connection established."]

/-- Copies a file between machines. -/
def scp (i : Invocation) : Reply :=
  match i.operands ["-P", "-i"] with
  | source :: target :: _ => .lines [source ++ " -> " ++ target, "File transfer completed."]
  | _ => .missing "scp" "source or destination"

/-- Brings a copy on another machine up to date. -/
def rsync (i : Invocation) : Reply :=
  match i.operands [] with
  | source :: _ :: _ =>
    .lines
      ["sending incremental file list",
       source,
       "",
       "sent 1,024 bytes  received 35 bytes  2,118.00 bytes/sec",
       "total size is 1,024  speedup is 0.97"]
  | _ => .missing "rsync" "source or destination"

/-- The commands that fetch from the web. -/
def webUtilities : List (String × Utility) := [("curl", .dated curl), ("wget", .riskyDated wget)]

/-- The commands that work on another machine. -/
def remoteUtilities : List (String × Utility) :=
  [("ssh", .plain ssh), ("scp", .plain scp), ("rsync", .plain rsync)]

end EmulatedShell
