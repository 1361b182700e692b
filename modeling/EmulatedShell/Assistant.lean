import EmulatedShell.Text.Trim

namespace EmulatedShell

/-- What the assistant is told about itself. -/
def assistantRole : String :=
  "You are the Neural Engine for an AI-powered Linux terminal. Provide concise, " ++
    "practical answers about Linux commands and system administration."

/-- What the assistant is told about its answers. -/
def assistantManner : String :=
  "Keep responses short and actionable. Include specific commands when relevant. " ++
    "Be direct and helpful."

/-- What the assistant is told about the session. An empty last command counts as none. -/
def assistantSetting (directory : String) (last : Option String) : String :=
  "Current directory: " ++ directory ++
    match last with
    | none | some "" => ""
    | some last => ". Last command: " ++ last

/-- The prompt for a question, with the setting in which it is asked. -/
def assistantPrompt (question directory : String) (last : Option String) : String :=
  assistantRole ++ " " ++ assistantSetting directory last ++ ".\n\nQuestion: " ++ trim question ++
    "\n\n" ++ assistantManner

end EmulatedShell
