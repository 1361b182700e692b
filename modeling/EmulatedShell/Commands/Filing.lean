import EmulatedShell.Utility

namespace EmulatedShell

/-- Acknowledges a new directory. -/
def mkdir (i : Invocation) : Reply :=
  i.onOperand "operand" fun target => .ok ("Directory '" ++ target ++ "' created")

/-- Acknowledges the end of a directory. -/
def rmdir (i : Invocation) : Reply :=
  i.onOperand "operand" fun target => .ok ("Directory '" ++ target ++ "' removed")

/-- Acknowledges the end of a file, or of a directory with all it holds. -/
def rm (i : Invocation) : Reply :=
  i.onOperand "operand" fun target =>
    .ok ("Removed '" ++ target ++ "'" ++
      if i.command.hasFlag ["-rf", "-fr", "-r", "-R"] then " and its contents" else "")

/-- Acknowledges that a file has gone from one place to another. -/
def copyOrMove (verb : String) (i : Invocation) : Reply :=
  i.onTwoOperands "file operand" fun source destination =>
    .ok ("'" ++ source ++ "' " ++ verb ++ " to '" ++ destination ++ "'")

/-- Acknowledges a new file. -/
def touch (i : Invocation) : Reply :=
  i.onOperand "file operand" fun target => .ok ("File '" ++ target ++ "' created/updated")

/-- Acknowledges a link. -/
def ln (i : Invocation) : Reply :=
  i.onTwoOperands "operand" fun target link =>
    if i.command.hasFlag ["-s", "-sf"] then
      .ok ("Symbolic link '" ++ link ++ "' created pointing to '" ++ target ++ "'")
    else .ok ("Hard link '" ++ link ++ "' created for '" ++ target ++ "'")

/-- The commands that would change the disk. They only acknowledge what they were asked for. -/
def filingUtilities : List (String × Utility) :=
  [("mkdir", .plain mkdir), ("rmdir", .plain rmdir), ("rm", .plain rm),
   ("cp", .plain (copyOrMove "copied")), ("mv", .plain (copyOrMove "moved")),
   ("touch", .plain touch), ("ln", .plain ln)]

end EmulatedShell
