import EmulatedShell.Text.Split
import EmulatedShell.Text.Substring

namespace EmulatedShell

/-- The pieces of a path that are not empty. -/
def segments (path : String) : List String := (split '/' path).filter (· != "")

/-- The path from the root through some segments. -/
def rootedPath (segments : List String) : String := "/" ++ joinWith "/" segments

/-- The path without its last segment. The root is its own parent. -/
def parentPath (path : String) : String := rootedPath (segments path).dropLast

/-- The path that a target names from a directory. Nothing, the empty text and a tilde name the home
directory, two points the parent. An absolute target stands for itself, any other is appended. -/
def resolvePath (current : String) (target : Option String) (home : String) : String :=
  match target with
  | none => home
  | some target =>
    if target = "" || target = "~" then home
    else if target = ".." then parentPath current
    else if beginsWith "/" target then target
    else if current = "/" then "/" ++ target
    else current ++ "/" ++ target

end EmulatedShell
