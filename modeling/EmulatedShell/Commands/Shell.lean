import EmulatedShell.Catalogue.Reference
import EmulatedShell.Commands.Reading
import EmulatedShell.Text.Quotes

namespace EmulatedShell

/-- The commands of the session with their numbers, the present one at the end. A number asks for
that many of the last. -/
def history (i : Invocation) (past : List String) : Reply :=
  if i.command.hasFlag ["-c"] then .fail "history: use 'clear' to reset the session history"
  else
    let numbered := numberLines 5 "  " (past ++ [i.command.raw])
    match i.command.arg 0 with
    | none => .lines numbered
    | some limit => .lines (takeLast (parseInt (some limit) numbered.length).toNat numbered)

/-- The short names of commands, or an acknowledgement of a new one. -/
def aliases (i : Invocation) : Reply :=
  match i.args with
  | [] =>
    .lines
      ["alias ll='ls -la'",
       "alias la='ls -A'",
       "alias l='ls -CF'",
       "alias ..='cd ..'",
       "alias grep='grep --color=auto'"]
  | token :: _ =>
    .ok ("Alias '" ++ String.ofList (token.toList.takeWhile (· != '=')) ++ "' created")

/-- Acknowledges the end of a short name. -/
def unalias (i : Invocation) : Reply :=
  match i.command.arg 0 with
  | none => .missing "unalias" "alias name"
  | some name => .ok ("Alias '" ++ name ++ "' removed")

/-- The commands that belong to the shell itself. -/
def shellBuiltins : List String :=
  ["alias", "bg", "cd", "echo", "fg", "help", "history", "jobs", "kill", "pwd", "type", "umask",
   "unalias"]

/-- What a name stands for: a command of the shell, or a program. -/
def type (i : Invocation) (catalogue : Catalogue) : Reply :=
  match i.command.arg 0 with
  | none => .missing "type" "argument"
  | some name =>
    if shellBuiltins.contains name then .ok (name ++ " is a shell builtin")
    else if catalogue.has name then .ok (name ++ " is /usr/bin/" ++ name)
    else .fail ("bash: type: " ++ name ++ ": not found")

/-- The pages of commands that no catalogue lists. -/
def builtinPages : List (String × String) :=
  [("help",
    joinLines
      ["help - Show the command reference", "", "Usage:", "    help [COMMAND]", "    help -k TERM",
       "", "Examples:", "    help                   # Show all commands",
       "    help ls                # Show help for ls",
       "    help -k dns            # Search command descriptions"]),
   ("clear",
    joinLines
      ["clear - Clear the terminal history", "", "Usage:", "    clear", "",
       "Clears every entry in the session history. The current directory is kept."])]

/-- The entries that a term finds, each on a line. -/
def searchReply (catalogue : Catalogue) (term : String) : Reply :=
  match catalogue.search term with
  | [] => .ok ("help: nothing appropriate for '" ++ term ++ "'")
  | entries => .lines (entries.map fun entry => padEnd 12 entry.name ++ " - " ++ entry.description)

/-- The page of a topic. -/
def helpPage (catalogue : Catalogue) (topic : String) : Option String :=
  builtinPages.lookup topic <|> catalogue.page topic

/-- The reference, the page of one command, or the commands that a term finds. -/
def help (i : Invocation) (catalogue : Catalogue) : Reply :=
  match i.command.arg 0 with
  | none => .ok commandReference
  | some "-k" =>
    match i.command.arg 1 with
    | none => .ok "help: -k needs a search term"
    | some term => searchReply catalogue term
  | some topic =>
    .ok ((helpPage catalogue topic).getD ("help: no help available for '" ++ topic ++ "'"))

/-- Says nothing. The bare word never comes here. -/
def clear (_ : Invocation) : Reply := .ok ""

/-- The longest interval between two runs of a watched command, in seconds. -/
def longestInterval : Int := 86400

/-- The seconds between two runs of a watched command. -/
def watchInterval (i : Invocation) : Int :=
  min (max (i.command.intFlag "-n" 2) 1) longestInterval

/-- The watched command: the tokens after a leading interval, without quotes around them. -/
def watchedCommand (i : Invocation) : String :=
  let tokens := if i.args.head? = some "-n" then i.args.drop 2 else i.args
  unquote (trim (joinWith " " tokens))

/-- Acknowledges a command that runs over and over. -/
def watch (i : Invocation) : Reply :=
  let watched := watchedCommand i
  let seconds := toString (watchInterval i)
  if watched = "" then .missing "watch" "command"
  else
    .ok ("Every " ++ seconds ++ ".0s: " ++ watched ++
      "\n\n[Command output would refresh here every " ++ seconds ++ " seconds]")

/-- What the first terminal multiplexer says of itself. -/
def screen (_ : Invocation) : Reply :=
  .lines
    ["Screen version 4.08.00 (GNU) 05-Feb-20",
     "",
     "Copyright (c) 2018-2020 Alexander Naumov, Amadeusz Slawinski",
     "Copyright (c) 2015-2017 Juergen Weigert, Alexander Naumov, Amadeusz Slawinski",
     "Copyright (c) 2010-2014 Juergen Weigert, Sadrul Habib Chowdhury",
     "",
     "Use 'screen -S session_name' to create a new session"]

/-- What the second terminal multiplexer says of itself. -/
def tmux (_ : Invocation) : Reply :=
  .lines
    ["tmux 3.1c",
     "",
     "Usage: tmux [-2CluvV] [-c shell-command] [-f file] [-L socket-name]",
     "            [-S socket-path] [command [flags]]",
     "",
     "Use 'tmux new -s session' to create a new session"]

/-- The commands that deal with the session itself. -/
def shellUtilities : List (String × Utility) :=
  [("history", .recalling history), ("alias", .plain aliases), ("unalias", .plain unalias),
   ("type", .consulting type), ("help", .consulting help), ("clear", .plain clear),
   ("watch", .plain watch), ("screen", .plain screen), ("tmux", .plain tmux)]

end EmulatedShell
