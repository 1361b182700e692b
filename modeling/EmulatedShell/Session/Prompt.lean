import EmulatedShell.Session.Basic
import EmulatedShell.Template.Fill

namespace EmulatedShell

/-- A directory as the prompt shows it, with a tilde for the home directory. -/
def shownDirectory (home directory : String) : String :=
  if directory = home || beginsWith (home ++ "/") directory then
    "~" ++ String.ofList (directory.toList.drop home.length)
  else directory

/-- The values that a prompt can show. -/
def promptValue (settings : Settings) (directory name : String) : Option String :=
  [("user", settings.user), ("hostname", settings.hostname),
    ("cwd", shownDirectory settings.home directory)].lookup name

/-- The prompt in a directory. -/
def promptIn (settings : Settings) (directory : String) : Except TemplateFault String :=
  fillTemplate (promptValue settings directory) settings.promptTemplate

/-- The prompt of a session. -/
def Session.prompt (host : Host) (s : Session) : Except TemplateFault String :=
  promptIn host.settings s.directory

end EmulatedShell
