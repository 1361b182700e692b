import EmulatedShell.Commands.Hosts
import EmulatedShell.Commands.Interfaces
import EmulatedShell.Commands.Sockets
import EmulatedShell.Commands.Transfers

namespace EmulatedShell

/-- The commands that use the network. -/
def networkUtilities : List (String × Utility) :=
  ("ping", .sampling ping) :: webUtilities ++ socketUtilities ++ routeUtilities ++
    lookupUtilities ++ interfaceUtilities ++ portUtilities ++ remoteUtilities

end EmulatedShell
