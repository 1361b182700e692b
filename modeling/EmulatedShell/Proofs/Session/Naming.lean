import EmulatedShell.Proofs.Listing
import EmulatedShell.Proofs.Session.Utilities
import EmulatedShell.Proofs.Walk

namespace EmulatedShell

/-- A token that names a path: it is no flag, and it is not the point that only walks know. -/
structure IsPathToken (token : String) : Prop where
  last : IsLastToken token
  operand : isFlag token = false
  point : token ≠ "."

variable {i : Invocation} {c : Command} {token : String}

theorem IsPathToken.isOperand (h : IsPathToken token) : isOperand token = true := by
  simp [EmulatedShell.isOperand, h.last.nonempty, h.operand]

theorem IsPathToken.plain (h : IsPathToken token) (args : c.args = [token]) :
    ∀ other ∈ c.args, isFlag other = false := by
  intro other hm
  rw [args, List.mem_singleton] at hm
  exact hm ▸ h.operand

theorem IsPathToken.arg (h : IsPathToken token) (args : c.args = [token]) :
    c.arg 0 = some token := by
  simp [Command.arg, args, h.last.nonempty]

theorem IsPathToken.walkStart (h : IsPathToken token) (args : i.command.args = [token]) :
    walkStart i = token := by
  simp [EmulatedShell.walkStart, h.arg args, h.operand]

theorem IsPathToken.walkRoot (h : IsPathToken token) (args : i.command.args = [token]) :
    walkRoot i = i.resolve (some token) := by
  rw [EmulatedShell.walkRoot, h.walkStart args, if_neg h.point]

/-- A directory stands at one place on the disk, with the entries that are listed for it. -/
theorem Disk.placed_of_known {d : Disk} {path : String} (known : d.isDirectory path = true) :
    ∃ before after, d.tree.entries = before ++ (path, d.listing path) :: after ∧
      ∀ directory ∈ before ++ after, directory.1 ≠ path := by
  obtain ⟨entries, found⟩ := Option.isSome_iff_exists.mp known
  have listed : d.listing path = entries := by rw [listing, found, Option.getD_some]
  rw [listed]
  exact Table.entries_of_get? found

/-- A line of a command with its flags and a token. -/
theorem Command.parse_flags_token (start name : String) (flags : List String)
    (nonempty : start ≠ "") (trimmed : trim start = start)
    (pieces : split ' ' start = name :: flags) (h : IsLastToken token) :
    (parse (start ++ " " ++ token)).name = name ∧
      (parse (start ++ " " ++ token)).args = flags ++ [token] := by
  have tokens := parse_append_token start nonempty trimmed h
  rw [pieces] at tokens
  exact List.cons.inj tokens

namespace Session

/-- The path that a token names in a session. -/
def named (shell : Shell) (token : String) (s : Session) : String :=
  resolvePath s.directory (some token) shell.settings.home

/-- What is seen of a directory from where it is named by a token is what is seen in it. A walk
starts with it as with any other directory: `before` and `after` are the directories that stand
before and after it on the disk. -/
structure SeenAlike (shell : Shell) (s u : Session) (token : String) : Prop where
  short : ∃ text, Answers shell s ("ls " ++ token) text 0 ∧ Answers shell u "ls" text 0
  long : ∃ text exitCode, Answers shell s ("ls -l " ++ token) text exitCode ∧
    Answers shell u "ls -l" text exitCode ∧
    (exitCode = 0 ↔ ∀ entry ∈ shell.disk.listing (s.named shell token),
      isWritable entry.listedSize = true)
  place : Answers shell u "pwd" (s.named shell token) 0
  walk : ∃ before entries after,
    shell.disk.tree.entries = before ++ (s.named shell token, entries) :: after ∧
    (∀ directory ∈ before ++ after, directory.1 ≠ s.named shell token) ∧
    Answers shell s ("ls " ++ token) (joinWith "  " (entries.map Entry.name)) 0 ∧
    Answers shell s ("find " ++ token) (joinLines
      (walkLines (s.invocation shell (Command.parse ("find " ++ token))) before ++
        (entries.map fun entry => dropSlashes token ++ "/" ++ entry.name) ++
        walkLines (s.invocation shell (Command.parse ("find " ++ token))) after)) 0

variable {shell : Shell} {s u : Session} {line output path : String} {exitCode : Int} {r : Record}
variable {long : Bool}

theorem Answers.of_execute (h : Answers shell s line output exitCode)
    (he : s.execute shell line = (.ok r, u)) : r.output = output ∧ r.exitCode = exitCode := by
  obtain ⟨other, t, ht, hr⟩ := h
  rw [ht] at he
  cases he
  exact hr

theorem answers_pwd (builtin : shell.handlers = builtinHandlers)
    (timely : s.now.hasTimestamp = true) : Answers shell s "pwd" s.directory 0 := by
  have name : (Command.parse "pwd").name = "pwd" := by decide
  exact answers_plain builtin timely (by rw [name, (builtinUtilities_of_lookup rfl)])

theorem answers_ls (builtin : shell.handlers = builtinHandlers)
    (timely : s.now.hasTimestamp = true) (name : (Command.parse line).name = "ls")
    (flag : (Command.parse line).hasFlag longFlags = long)
    (listed : listedPath (s.invocation shell (Command.parse line)) = path) :
    Answers shell s line (outcomeOf (listingOf long (shell.disk.listing path) s.now)).output
      (outcomeOf (listingOf long (shell.disk.listing path) s.now)).exitCode := by
  have answers :=
    answers_riskyDated builtin timely (by rw [name, (builtinUtilities_of_lookup rfl)])
  rw [ls_eq, invocation_command, flag, listed] at answers
  exact answers

/-- A long listing fails just when it shows a size that is too long to be written. -/
theorem longListing_exitCode (entries : List Entry) (now : Moment) :
    (outcomeOf (listingOf true entries now)).exitCode = 0 ↔
      ∀ entry ∈ entries, isWritable entry.listedSize = true := by
  by_cases fits : ∀ entry ∈ entries, isWritable entry.listedSize = true
  · rw [listingOf_of_writable fits]
    exact ⟨fun _ => fits, fun _ => rfl⟩
  · have long : ∃ entry ∈ entries, isWritable entry.listedSize = false := by simpa using fits
    rw [listingOf_of_not_writable long]
    exact ⟨fun failed => absurd failed (by decide), fun wrong => absurd wrong fits⟩

theorem answers_ls_here (builtin : shell.handlers = builtinHandlers)
    (timely : s.now.hasTimestamp = true) :
    Answers shell s "ls" (joinWith "  " ((shell.disk.listing s.directory).map Entry.name)) 0 ∧
      Answers shell s "ls -l"
        (outcomeOf (listingOf true (shell.disk.listing s.directory) s.now)).output
        (outcomeOf (listingOf true (shell.disk.listing s.directory) s.now)).exitCode := by
  have short : (Command.parse "ls").args.filter isOperand = [] := by decide
  have long : (Command.parse "ls -l").args.filter isOperand = [] := by decide
  have plain : (Command.parse "ls").hasFlag longFlags = false := by decide
  have flag : (Command.parse "ls -l").hasFlag longFlags = true := by decide
  exact ⟨answers_ls builtin timely (by decide) plain (listedPath_of_no_operand short),
    answers_ls builtin timely (by decide) flag (listedPath_of_no_operand long)⟩

theorem answers_ls_token (builtin : shell.handlers = builtinHandlers)
    (timely : s.now.hasTimestamp = true) (h : IsPathToken token) :
    Answers shell s ("ls " ++ token)
        (joinWith "  " ((shell.disk.listing (s.named shell token)).map Entry.name)) 0 ∧
      Answers shell s ("ls -l " ++ token)
        (outcomeOf (listingOf true (shell.disk.listing (s.named shell token)) s.now)).output
        (outcomeOf (listingOf true (shell.disk.listing (s.named shell token)) s.now)).exitCode := by
  have operand : [token].filter isOperand = [token] := by simp [h.isOperand]
  refine ⟨?_, ?_⟩
  · obtain ⟨name, args⟩ : (Command.parse ("ls " ++ token)).name = "ls" ∧
        (Command.parse ("ls " ++ token)).args = [token] :=
      Command.parse_flags_token "ls" "ls" [] (by decide) (by decide) (by decide) h.last
    have flag : (Command.parse ("ls " ++ token)).hasFlag longFlags = false :=
      Command.hasFlag_of_no_flags (by decide) (h.plain args)
    apply answers_ls builtin timely name flag
    exact listedPath_of_operand (by rw [Invocation.args, invocation_command, args, operand])
  · obtain ⟨name, args⟩ : (Command.parse ("ls -l " ++ token)).name = "ls" ∧
        (Command.parse ("ls -l " ++ token)).args = ["-l", token] :=
      Command.parse_flags_token "ls -l" "ls" ["-l"] (by decide) (by decide) (by decide) h.last
    have flag : (Command.parse ("ls -l " ++ token)).hasFlag longFlags = true := by
      simp [Command.hasFlag, longFlags, args]
    apply answers_ls builtin timely name flag
    apply listedPath_of_operand
    rw [Invocation.args, invocation_command, args, List.filter_cons_of_neg (by decide), operand]

theorem parse_cd_token (h : IsPathToken token) :
    (Command.parse ("cd " ++ token)).name = "cd" ∧
      (Command.parse ("cd " ++ token)).args = [token] :=
  Command.parse_flags_token "cd" "cd" [] (by decide) (by decide) (by decide) h.last

theorem parse_find_token (h : IsPathToken token) :
    (Command.parse ("find " ++ token)).name = "find" ∧
      (Command.parse ("find " ++ token)).args = [token] :=
  Command.parse_flags_token "find" "find" [] (by decide) (by decide) (by decide) h.last

theorem execute_cd_token (builtin : shell.handlers = builtinHandlers) (h : IsPathToken token)
    (he : s.execute shell ("cd " ++ token) = (.ok r, u)) :
    (shell.disk.isDirectory (s.named shell token) = true ∧ r.exitCode = 0 ∧
        u.directory = s.named shell token) ∨
      (shell.disk.isDirectory (s.named shell token) = false ∧ r.exitCode = 1 ∧
        u.directory = s.directory) := by
  obtain ⟨name, args⟩ := parse_cd_token h
  have same : s.destination shell ("cd " ++ token) = s.named shell token := by
    rw [destination, h.arg args, named]
  rw [← same]
  exact execute_cd builtin name he

theorem walk_of_token (shell : Shell) (s : Session) (h : IsPathToken token) :
    walkStart (s.invocation shell (Command.parse ("find " ++ token))) = token ∧
      walkRoot (s.invocation shell (Command.parse ("find " ++ token))) = s.named shell token := by
  obtain ⟨_, args⟩ := parse_find_token h
  refine ⟨h.walkStart args, ?_⟩
  rw [named, ← invocation_resolve (Command.parse ("find " ++ token))]
  exact h.walkRoot args

/-- What a walk prints that starts from where a token leads. -/
theorem answers_find_token (builtin : shell.handlers = builtinHandlers)
    (timely : s.now.hasTimestamp = true) (h : IsPathToken token)
    (known : shell.disk.isDirectory (s.named shell token) = true) {entries : List Entry}
    {before after : List (String × List Entry)}
    (placed : shell.disk.tree.entries = before ++ (s.named shell token, entries) :: after) :
    Answers shell s ("find " ++ token) (joinLines
      (walkLines (s.invocation shell (Command.parse ("find " ++ token))) before ++
        (entries.map fun entry => dropSlashes token ++ "/" ++ entry.name) ++
        walkLines (s.invocation shell (Command.parse ("find " ++ token))) after)) 0 := by
  obtain ⟨name, args⟩ := parse_find_token h
  obtain ⟨start, root⟩ := walk_of_token shell s h
  have plain : ∀ other ∈ (s.invocation shell (Command.parse ("find " ++ token))).command.args,
      isFlag other = false := h.plain args
  rw [← root] at known placed
  have walked := find_of_no_flags plain known placed
  rw [start] at walked
  have answers := answers_plain builtin timely (by rw [name, (builtinUtilities_of_lookup rfl)])
  rw [walked, Reply.lines, Reply.outcome_ok] at answers
  exact answers

theorem answers_find_missing (builtin : shell.handlers = builtinHandlers)
    (timely : s.now.hasTimestamp = true) (h : IsPathToken token)
    (unknown : shell.disk.isDirectory (s.named shell token) = false) :
    Answers shell s ("find " ++ token)
      ("find: '" ++ token ++ "': No such file or directory") 1 := by
  obtain ⟨name, args⟩ := parse_find_token h
  obtain ⟨start, root⟩ := walk_of_token shell s h
  rw [← root] at unknown
  have answers := answers_plain builtin timely (by rw [name, (builtinUtilities_of_lookup rfl)])
  rw [find_of_unknown unknown, start, Reply.outcome_fail] at answers
  exact answers

theorem cd_succeeds_iff (builtin : shell.handlers = builtinHandlers) (h : IsPathToken token) :
    (∃ r u, s.execute shell ("cd " ++ token) = (.ok r, u) ∧ r.exitCode = 0) ↔
      s.now.hasTimestamp = true ∧ shell.disk.isDirectory (s.named shell token) = true := by
  constructor
  · rintro ⟨r, u, he, success⟩
    refine ⟨timely_of_execute he, ?_⟩
    rcases execute_cd_token builtin h he with ⟨known, _⟩ | ⟨_, failed, _⟩
    · exact known
    · rw [failed] at success
      cases success
  · rintro ⟨timely, known⟩
    have he : s.execute shell ("cd " ++ token) = _ := execute_of_timestamp timely
    rcases execute_cd_token builtin h he with ⟨_, success, _⟩ | ⟨unknown, _⟩
    · exact ⟨_, _, he, success⟩
    · rw [known] at unknown
      cases unknown

theorem find_succeeds_iff (builtin : shell.handlers = builtinHandlers) (h : IsPathToken token) :
    (∃ r u, s.execute shell ("find " ++ token) = (.ok r, u) ∧ r.exitCode = 0) ↔
      s.now.hasTimestamp = true ∧ shell.disk.isDirectory (s.named shell token) = true := by
  constructor
  · rintro ⟨r, u, he, success⟩
    have timely := timely_of_execute he
    refine ⟨timely, ?_⟩
    by_contra unknown
    have missing := answers_find_missing builtin timely h (Bool.eq_false_iff.mpr unknown)
    obtain ⟨_, failed⟩ := missing.of_execute he
    rw [failed] at success
    cases success
  · rintro ⟨timely, known⟩
    obtain ⟨_, _, placed, _⟩ := Disk.placed_of_known known
    obtain ⟨r, u, he, _, exitCode⟩ := answers_find_token builtin timely h known placed
    exact ⟨r, u, he, exitCode⟩

theorem seenAlike (builtin : shell.handlers = builtinHandlers) (h : IsPathToken token)
    (he : s.execute shell ("cd " ++ token) = (.ok r, u)) (success : r.exitCode = 0) :
    SeenAlike shell s u token := by
  have timely : s.now.hasTimestamp = true := timely_of_execute he
  have clock : u.now = s.now := now_of_execute he
  obtain ⟨known, moved⟩ : shell.disk.isDirectory (s.named shell token) = true ∧
      u.directory = s.named shell token := by
    rcases execute_cd_token builtin h he with ⟨known, _, moved⟩ | ⟨_, failed, _⟩
    · exact ⟨known, moved⟩
    · rw [failed] at success
      cases success
  obtain ⟨short, long⟩ := answers_ls_token builtin timely h
  have timelyHere : u.now.hasTimestamp = true := clock ▸ timely
  obtain ⟨shortHere, longHere⟩ := answers_ls_here builtin timelyHere
  rw [moved] at shortHere
  rw [moved, clock] at longHere
  refine ⟨⟨_, short, shortHere⟩, ⟨_, _, long, longHere, longListing_exitCode _ _⟩, ?_, ?_⟩
  · rw [← moved]
    exact answers_pwd builtin timelyHere
  · obtain ⟨before, after, placed, alone⟩ := Disk.placed_of_known known
    exact ⟨before, _, after, placed, alone, short,
      answers_find_token builtin timely h known placed⟩

end Session

end EmulatedShell
