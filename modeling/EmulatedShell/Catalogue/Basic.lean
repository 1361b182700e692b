import EmulatedShell.Table
import EmulatedShell.Text.Lowercase
import EmulatedShell.Text.Split
import EmulatedShell.Text.Substring

namespace EmulatedShell

/-- What a command is for. -/
inductive Category where
  | file
  | network
  | system
  | process
  | text
  | archive
  | permission
  | search
  deriving Repr, DecidableEq

/-- All categories. -/
def Category.all : List Category :=
  [.file, .network, .system, .process, .text, .archive, .permission, .search]

/-- The word for a category. -/
def Category.label : Category → String
  | .file => "file"
  | .network => "network"
  | .system => "system"
  | .process => "process"
  | .text => "text"
  | .archive => "archive"
  | .permission => "permission"
  | .search => "search"

/-- What there is to know about one command. -/
structure CatalogueEntry where
  name : String
  description : String
  category : Category
  usage : String
  examples : List String
  deriving Repr, DecidableEq

/-- The known commands by their names. -/
abbrev Catalogue := Table CatalogueEntry

namespace Catalogue

/-- The catalogue of some entries, each under its own name. -/
def ofEntries (entries : List CatalogueEntry) : Catalogue :=
  Table.ofList (entries.map fun entry => (entry.name, entry))

/-- The entries that have a term in their name, or in their description in any letter case. The
term is taken in small letters. -/
def search (c : Catalogue) (term : String) : List CatalogueEntry :=
  c.values.filter fun entry =>
    contains (lowercase term) entry.name || contains (lowercase term) (lowercase entry.description)

end Catalogue

/-- The page of a command: what it does, its category, its usage, and examples if there are any. -/
def CatalogueEntry.page (entry : CatalogueEntry) : String :=
  joinLines <|
    [entry.name ++ " - " ++ entry.description, "", "Category: " ++ entry.category.label, "",
     "Usage:", "    " ++ entry.usage] ++
    if entry.examples.isEmpty then []
    else ["", "Examples:"] ++ entry.examples.map ("    " ++ ·)

/-- The page of a command by its name. -/
def Catalogue.page (c : Catalogue) (name : String) : Option String :=
  (c.get? name).map CatalogueEntry.page

end EmulatedShell
