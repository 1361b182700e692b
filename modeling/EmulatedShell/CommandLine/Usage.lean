import EmulatedShell.CommandLine.Switch
import EmulatedShell.Text.Quoted
import EmulatedShell.Text.Split

namespace EmulatedShell

/-- How the program is called. -/
def usageLine : String :=
  "usage: shellsim [-h] [-c COMMAND] [-u USER] [-d DIRECTORY] [--no-delay] [-v]\n"

/-- How the program is called, with an explanation of every option. -/
def usageText : String :=
  usageLine ++ "\n" ++
    joinLines
      ["AI Terminal - simulated Linux shell",
       "",
       "options:",
       "  -h, --help            show this help message and exit",
       "  -c COMMAND, --command COMMAND",
       "                        Execute command and exit",
       "  -u USER, --user USER  Set username",
       "  -d DIRECTORY, --directory DIRECTORY",
       "                        Set initial directory",
       "  --no-delay            Disable simulated command latency",
       "  -v, --verbose         Enable debug logging"] ++
    "\n"

/-- The text that tells why a program call is refused. -/
def UsageFault.message : UsageFault → String
  | .ambiguous argument candidates =>
    "ambiguous option: " ++ argument ++ " could match " ++
      joinWith ", " (candidates.map Switch.long)
  | .missingValue option => "argument " ++ option.label ++ ": expected one argument"
  | .needlessValue option value =>
    "argument " ++ option.label ++ ": ignored explicit argument " ++ quoted value
  | .unrecognized arguments => "unrecognized arguments: " ++ joinWith " " arguments

/-- What is printed when a program call is refused. -/
def UsageFault.complaint (fault : UsageFault) : String :=
  usageLine ++ "shellsim: error: " ++ fault.message ++ "\n"

end EmulatedShell
