import EmulatedShell.Assistant
import EmulatedShell.Cabinet
import EmulatedShell.Main
import EmulatedShell.Session.Operation
import EmulatedShell.Proofs.Lookup
import EmulatedShell.Proofs.Movement
import EmulatedShell.Proofs.Channels
import EmulatedShell.Proofs.Tokens
import EmulatedShell.Proofs.Identifiers
import EmulatedShell.Proofs.Unicode.Blank
import EmulatedShell.Proofs.Text.Lowercase
import EmulatedShell.Proofs.Prediction
import EmulatedShell.Proofs.Regex.Faults
import EmulatedShell.Proofs.Faults
import EmulatedShell.Proofs.Session.Execution
import EmulatedShell.Proofs.Session.Run
import EmulatedShell.Proofs.Session.Completion
import EmulatedShell.Proofs.Session.Directory
import EmulatedShell.Proofs.Session.Itinerary
import EmulatedShell.Proofs.Session.Exclusion
import EmulatedShell.Proofs.Session.Numbering
import EmulatedShell.Proofs.Session.ExitCode
import EmulatedShell.Proofs.Session.Suggestion
import EmulatedShell.Proofs.Session.Submission
import EmulatedShell.Proofs.Session.Acceptance
import EmulatedShell.Proofs.Session.Prompt
import EmulatedShell.Proofs.Session.Conversation
import EmulatedShell.Proofs.Text.Split
import EmulatedShell.Proofs.Path
import EmulatedShell.Proofs.Walk
import EmulatedShell.Proofs.Session.Ascent
import EmulatedShell.Proofs.Listing
import EmulatedShell.Proofs.Session.Naming
import EmulatedShell.Proofs.Prediction.Patterns
import EmulatedShell.Proofs.Session.Settling
import EmulatedShell.Proofs.Lines
import EmulatedShell.Proofs.Recollection
import EmulatedShell.Proofs.Session.Recall
import EmulatedShell.Proofs.Sizes
import EmulatedShell.Proofs.Text.Integer
import EmulatedShell.Proofs.Text.Lines
import EmulatedShell.Proofs.Regex.Literal
import EmulatedShell.Proofs.Calls
import EmulatedShell.Proofs.Search
import EmulatedShell.Proofs.Unicode.CaseKin
import EmulatedShell.Proofs.Unicode.SmallLetters
import EmulatedShell.Proofs.Text.Caseless
import EmulatedShell.Proofs.CaselessSearch
import EmulatedShell.Proofs.Reading
import EmulatedShell.Proofs.Modes
import EmulatedShell.Proofs.CatalogueSearch
import EmulatedShell.Proofs.Flags
import EmulatedShell.Proofs.Intervals
import EmulatedShell.Proofs.Packets
import EmulatedShell.Proofs.Web.Location
import EmulatedShell.Proofs.Web.Written
import EmulatedShell.Proofs.Downloads
import EmulatedShell.Proofs.Session.ShownDirectory
import EmulatedShell.Proofs.Program
import EmulatedShell.Proofs.Registration
import EmulatedShell.Proofs.Cabinet
import EmulatedShell.Proofs.Draws
import EmulatedShell.Proofs.Session.Accounting
import EmulatedShell.Proofs.Session.Production
import EmulatedShell.Proofs.Session.Rendering
import EmulatedShell.Proofs.Session.Exchange
import EmulatedShell.Proofs.Session.Spending
import EmulatedShell.Proofs.Pieces
import EmulatedShell.Proofs.Operands
import EmulatedShell.Proofs.Text.Numeral
import EmulatedShell.Proofs.Session.Recognition
