import EmulatedShell.Table
import EmulatedShell.Time.Moment

namespace EmulatedShell

/-- The kinds of entry. -/
inductive EntryKind where
  | file
  | directory
  deriving Repr, DecidableEq

/-- One name in the listing of a directory. -/
structure Entry where
  name : String
  kind : EntryKind
  size : Option Int
  permissions : Option String
  modified : Option Moment
  deriving Repr, DecidableEq

/-- The files and directories that there are. They never change. Directories are found by their
whole path and contents by the name that is typed; neither follows from the other. -/
structure Disk where
  tree : Table (List Entry)
  contents : Table String

namespace Disk

/-- There is a directory with this path. -/
def isDirectory (d : Disk) (path : String) : Bool := d.tree.has path

/-- The entries of a directory. An unknown path has none. -/
def listing (d : Disk) (path : String) : List Entry := (d.tree.get? path).getD []

/-- An entry of a directory by its name. -/
def findEntry (d : Disk) (path name : String) : Option Entry :=
  (d.listing path).find? (·.name == name)

/-- The content of a file by the name that is typed. -/
def read (d : Disk) (name : String) : Option String := d.contents.get? name

/-- Every entry with the path of its directory, directory by directory. -/
def allEntries (d : Disk) : List (String × Entry) :=
  d.tree.entries.flatMap fun directory => directory.2.map fun entry => (directory.1, entry)

end Disk

end EmulatedShell
