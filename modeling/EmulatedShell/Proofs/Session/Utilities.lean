import EmulatedShell.Proofs.Session.Itinerary

namespace EmulatedShell

namespace Session

variable {host : Host} {shell : Shell} {s t : Session} {line : String} {r : Record}

/-- A line that is carried out alone prints a text and ends with an exit code. -/
def Answers (shell : Shell) (s : Session) (line output : String) (exitCode : Int) : Prop :=
  ∃ r t, s.execute shell line = (.ok r, t) ∧ r.output = output ∧ r.exitCode = exitCode

theorem begun_invocation (command : Command) :
    (s.begun shell).invocation shell command = s.invocation shell command := by
  simp [invocation]

@[simp]
theorem invocation_command (command : Command) :
    (s.invocation shell command).command = command := rfl

theorem invocation_resolve (command : Command) (target : Option String) :
    (s.invocation shell command).resolve target =
      resolvePath s.directory target shell.settings.home := by
  rw [Invocation.resolve, invocation]

theorem execute_of_timestamp (timely : s.now.hasTimestamp = true) : s.execute shell line =
    (.ok ((s.begun shell).finish shell (s.pending line)).1,
      ((s.begun shell).finish shell (s.pending line)).2) := by
  simp only [execute, executeAmid_of_timestamp timely, interlude_of_nothing]

theorem execute_of_no_timestamp (late : s.now.hasTimestamp = false) :
    s.execute shell line = (.error .beforeCalendar, { s with executing := false }) := by
  simp only [execute, executeAmid_of_no_timestamp late]

/-- A line that leaves a record is carried out when its delay is over. -/
theorem finish_of_execute (h : s.execute host line = (.ok r, t)) :
    s.now.hasTimestamp = true ∧ (s.begun host).finish host (s.pending line) = (r, t) := by
  have carried := @executeAmid_of_nothing Unit host s line
  rw [h] at carried
  have finished := finish_of_executeAmid carried
  rw [interlude_of_nothing] at finished
  exact finished

theorem timely_of_execute (h : s.execute host line = (.ok r, t)) : s.now.hasTimestamp = true :=
  (finish_of_execute h).1

theorem now_of_execute (h : s.execute host line = (.ok r, t)) : t.now = s.now := by
  obtain ⟨_, hf⟩ := finish_of_execute h
  have after : t = ((s.begun host).finish host (s.pending line)).2 := by rw [hf]
  rw [after]
  exact begun_now

/-- What is carried out leaves the outcome of its command. -/
theorem execute_outcome (h : s.execute host line = (.ok r, t)) {outcome : Outcome}
    (hd : ((s.begun host).dispatch host (Command.parse line) s.now).1 = outcome) :
    r.output = outcome.output ∧ r.exitCode = outcome.exitCode ∧
      t.directory = (s.begun host).directoryAfter host outcome := by
  obtain ⟨_, hf⟩ := finish_of_execute h
  have hr : r = ((s.begun host).finish host (s.pending line)).1 := by rw [hf]
  have ht : t = ((s.begun host).finish host (s.pending line)).2 := by rw [hf]
  rw [hr, ht, finish_record, finish_directory, ← hd]
  exact ⟨rfl, rfl, rfl⟩

theorem answers_of_dispatch (timely : s.now.hasTimestamp = true) {outcome : Outcome}
    (hd : ((s.begun shell).dispatch shell (Command.parse line) s.now).1 = outcome) :
    Answers shell s line outcome.output outcome.exitCode := by
  obtain ⟨output, exitCode, _⟩ := execute_outcome (execute_of_timestamp timely) hd
  exact ⟨_, _, execute_of_timestamp timely, output, exitCode⟩

/-- What a built-in command prints that does not break off. -/
theorem answers_of_utility (builtin : shell.handlers = builtinHandlers)
    (timely : s.now.hasTimestamp = true) {utility : Utility} {outcome : Outcome}
    {random : RandomSource} (known : builtinUtilities.get? (Command.parse line).name = some utility)
    (hr : utility.handler (s.invocation shell (Command.parse line))
      ((s.begun shell).surroundings shell s.now) (s.begun shell).random = (.ok outcome, random)) :
    Answers shell s line outcome.output outcome.exitCode := by
  rw [← begun_invocation] at hr
  apply answers_of_dispatch timely
  rw [dispatch_of_utility builtin known hr]

/-- What a command prints that looks at nothing but its invocation. -/
theorem answers_plain (builtin : shell.handlers = builtinHandlers)
    (timely : s.now.hasTimestamp = true) {reply : Invocation → Reply}
    (known : builtinUtilities.get? (Command.parse line).name = some (.plain reply)) :
    Answers shell s line (reply (s.invocation shell (Command.parse line))).outcome.output
      (reply (s.invocation shell (Command.parse line))).outcome.exitCode :=
  answers_of_utility builtin timely known rfl

/-- What comes of a reply, or of the fault in its place. -/
def outcomeOf : Except Fault Reply → Outcome
  | .ok reply => reply.outcome
  | .error fault => brokenOff fault

/-- What a command prints that tells the time and may break off. -/
theorem answers_riskyDated (builtin : shell.handlers = builtinHandlers)
    (timely : s.now.hasTimestamp = true) {reply : Invocation → Moment → Except Fault Reply}
    (known : builtinUtilities.get? (Command.parse line).name = some (.riskyDated reply)) :
    Answers shell s line
      (outcomeOf (reply (s.invocation shell (Command.parse line)) s.now)).output
      (outcomeOf (reply (s.invocation shell (Command.parse line)) s.now)).exitCode := by
  have handler : shell.handlers.get? (Command.parse line).name =
      some (Utility.riskyDated reply).handler := builtin ▸ builtinHandlers_of_utility known
  have carriedOut : ((Utility.riskyDated reply).handler
      ((s.begun shell).invocation shell (Command.parse line))
      ((s.begun shell).surroundings shell s.now) (s.begun shell).random) =
        ((reply (s.invocation shell (Command.parse line)) s.now).map Reply.outcome,
          (s.begun shell).random) := by
    rw [begun_invocation]
    rfl
  apply answers_of_dispatch timely
  cases told : reply (s.invocation shell (Command.parse line)) s.now with
  | ok r =>
    rw [told] at carriedOut
    rw [dispatch_of_ok handler carriedOut, outcomeOf]
  | error fault =>
    rw [told] at carriedOut
    rw [dispatch_of_error handler carriedOut, outcomeOf]

/-- The directory that a line goes to if there is such a directory. -/
def destination (shell : Shell) (line : String) (s : Session) : String :=
  resolvePath s.directory ((Command.parse line).arg 0) shell.settings.home

/-- A line that goes somewhere succeeds if there is such a directory, and is there then. -/
theorem execute_cd (builtin : shell.handlers = builtinHandlers)
    (name : (Command.parse line).name = "cd") (h : s.execute shell line = (.ok r, t)) :
    (shell.disk.isDirectory (s.destination shell line) = true ∧ r.exitCode = 0 ∧
        t.directory = s.destination shell line) ∨
      (shell.disk.isDirectory (s.destination shell line) = false ∧ r.exitCode = 1 ∧
        t.directory = s.directory) := by
  have hd : ((s.begun shell).dispatch shell (Command.parse line) s.now).1 =
      movedTo (cd (s.invocation shell (Command.parse line))) := by
    rw [dispatch_cd builtin name, begun_invocation]
  obtain ⟨_, exitCode, directory⟩ := execute_outcome h hd
  have goal : (s.invocation shell (Command.parse line)).resolve
      ((s.invocation shell (Command.parse line)).command.arg 0) = s.destination shell line := by
    rw [invocation_resolve, invocation_command, destination]
  have disk : (s.invocation shell (Command.parse line)).disk = shell.disk := rfl
  rcases movedTo_cd_cases (s.invocation shell (Command.parse line)) with
    ⟨moved, known⟩ | ⟨failed, stays, unknown⟩
  · rw [goal, disk] at known
    rw [moved, goal] at exitCode directory
    rw [directoryAfter_of_known rfl known] at directory
    exact .inl ⟨known, exitCode, directory⟩
  · rw [goal, disk] at unknown
    rw [failed] at exitCode
    rw [directoryAfter_of_none stays, begun_directory] at directory
    exact .inr ⟨unknown, exitCode, directory⟩

end Session

end EmulatedShell
