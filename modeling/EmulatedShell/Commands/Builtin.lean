import EmulatedShell.Commands.Archives
import EmulatedShell.Commands.Dates
import EmulatedShell.Commands.Filing
import EmulatedShell.Commands.Machine
import EmulatedShell.Commands.Navigation
import EmulatedShell.Commands.Network
import EmulatedShell.Commands.Permissions
import EmulatedShell.Commands.Processes
import EmulatedShell.Commands.Reading
import EmulatedShell.Commands.Searching
import EmulatedShell.Commands.Shell
import EmulatedShell.Commands.Users
import EmulatedShell.Commands.Words

namespace EmulatedShell

/-- The built-in commands, in the order in which they are listed. -/
def builtinCommands : List (String × Utility) :=
  navigationUtilities ++ readingUtilities ++ filingUtilities ++ searchingUtilities ++
    permissionUtilities ++ archiveUtilities ++ networkUtilities ++ processUtilities ++
    machineUtilities ++ dateUtilities ++ userUtilities ++ shellUtilities ++ wordUtilities

/-- The built-in commands by their names. -/
def builtinUtilities : Table Utility := Table.ofList builtinCommands

/-- The handlers of the built-in commands. -/
def builtinHandlers : HandlerTable := builtinUtilities.map Utility.handler

end EmulatedShell
