import EmulatedShell.Program
import EmulatedShell.Proofs.Session.Conversation

namespace EmulatedShell

namespace Session

variable {shell : Shell} {s after : Session} {line first last : String} {record : Option Record}

theorem withClock_start (shell : Shell) (random : RandomSource) (earlier : Moment)
    (time : Option Moment) : (start shell random earlier).withClock time =
      start shell random (time.getD earlier) := rfl

/-- A conversation of one line has two prompts, with what the line printed between them. -/
theorem converse_line {time : Option Moment} (lasting : isFarewell line = false)
    (before : s.prompt shell = .ok first)
    (submitted : (s.withClock time).submit shell line = (.ok record, after))
    (behind : after.prompt shell = .ok last) : s.converse shell [.line line time] =
      (.ok ("Welcome to AI Terminal\n" ++
          "Type 'help' for available commands, Tab to accept a suggestion, 'exit' to quit\n\n" ++
          (first ++ asLines (printed record) ++ (last ++ "\n")) ++ "Goodbye!\n"),
        { after with running := false }) := by
  have answered : s.respond shell (.line line time) =
      (.ok (some (asLines (printed record))), after) := by
    simp only [respond, lasting, submitted]
    rfl
  have ended : after.dialogue shell [] = (.ok (last ++ "\n"), after) := by
    rw [dialogue, behind]
  have talked : s.dialogue shell [.line line time] =
      (.ok (first ++ asLines (printed record) ++ (last ++ "\n")), after) := by
    rw [dialogue, before]
    simp only [answered, ended]
    rfl
  have running : { s with running := true }.dialogue shell [.line line time] =
      (.ok (first ++ asLines (printed record) ++ (last ++ "\n")),
        { after with running := true }) := by
    rw [dialogue_of_running, talked]
  rw [converse_of_ok shell s running]

/-- A line that is submitted in a new session leaves its record, unless it is blank or clears. -/
theorem submit_start (shell : Shell) (random : RandomSource) {now : Moment}
    (timely : now.hasTimestamp = true) (line : String) :
    ∃ record after, (start shell random now).submit shell line = (.ok record, after) ∧
      ((trim line = "" ∨ trim line = clearingLine) ∧ record = none ∨
        ¬(trim line = "" ∨ trim line = clearingLine) ∧
          ∃ r, record = some r ∧ after.history = [r]) := by
  by_cases blank : trim line = ""
  · have ignored : (start shell random now).consider line = .ignored := by simp [consider, blank]
    exact ⟨_, _, submit_of_ignored ignored, .inl ⟨.inl blank, rfl⟩⟩
  · by_cases clears : trim line = clearingLine
    · have clearing : (start shell random now).consider line = .clearing := by
        simp [consider, start, clears, clearingLine]
      exact ⟨_, _, submit_of_clearing clearing, .inl ⟨.inr clears, rfl⟩⟩
    · have accepted : (start shell random now).consider line = .accepted (trim line) :=
        consider_of_idle rfl blank clears
      refine ⟨_, _, submit_of_accepted timely accepted,
        .inr ⟨not_or.mpr ⟨blank, clears⟩, _, rfl, ?_⟩⟩
      rw [finish_history, begun_history]
      rfl

end Session

variable {arguments : List String} {choices : Choices} {line : String}

theorem Choices.shell_template (choices : Choices) :
    choices.shell.settings.promptTemplate = usualSettings.promptTemplate := rfl

theorem Choices.shell_of_no_command (choices : Choices) (verbose : Bool) :
    ({ choices with command := none, verbose } : Choices).shell = choices.shell := rfl

theorem runProgram_of_line (call : readCall arguments = .ok (.run choices))
    (single : choices.command = some line) (inputs : List ConsoleInput) (random : RandomSource)
    (now : Moment) : runProgram arguments inputs random now =
      runLine choices.shell line (.start choices.shell random now) := by
  simp only [runProgram, call, single]

theorem runProgram_of_no_line (call : readCall arguments = .ok (.run choices))
    (absent : choices.command = none) (inputs : List ConsoleInput) (random : RandomSource)
    (now : Moment) : runProgram arguments inputs random now =
      runConversation choices.shell inputs (.start choices.shell random now) := by
  simp only [runProgram, call, absent]

/-- A line prints the same, after the same delays, if the program is called with it and if it is
typed in a conversation. Called with it, the program ends with the exit code of its record, or with
zero and in silence if the line is blank or clears. -/
theorem line_agrees_with_conversation {bare : List String} {verbose : Bool} {now earlier : Moment}
    {time : Option Moment} (call : readCall arguments = .ok (.run choices))
    (single : choices.command = some line)
    (bareCall : readCall bare = .ok (.run { choices with command := none, verbose }))
    (lasting : trim line ∉ ["exit", "quit", "logout"]) (timely : now.hasTimestamp = true)
    (shows : time.getD earlier = now) (inputs : List ConsoleInput) (random : RandomSource) :
    ∃ exitCode output slept record after first last,
      runProgram arguments inputs random now = .ok ⟨exitCode, output, none, slept⟩ ∧
      runProgram bare [.line line time] random earlier =
        .ok ⟨0, "Welcome to AI Terminal\n" ++
          "Type 'help' for available commands, Tab to accept a suggestion, 'exit' to quit\n\n" ++
          (first ++ output ++ (last ++ "\n")) ++ "Goodbye!\n", none, slept⟩ ∧
      (Session.start choices.shell random now).submit choices.shell line = (.ok record, after) ∧
      (Session.start choices.shell random now).prompt choices.shell = .ok first ∧
      after.prompt choices.shell = .ok last ∧
      ((trim line = "" ∨ trim line = "clear") ∧ exitCode = 0 ∧ output = "" ∨
        ¬(trim line = "" ∨ trim line = "clear") ∧ ∃ r, record = some r ∧
          after.history = [r] ∧ exitCode = r.exitCode ∧
          output = if r.output = "" then "" else r.output ++ "\n") := by
  obtain ⟨record, after, submitted, outcome⟩ :=
    Session.submit_start choices.shell random timely line
  have renders : ∀ directory, ∃ prompt, promptIn choices.shell.settings directory = .ok prompt :=
    fun directory => ⟨_, promptIn_usual choices.shell_template directory⟩
  obtain ⟨first, shown⟩ := renders (Session.startDirectory choices.shell)
  obtain ⟨last, behind⟩ := renders after.directory
  have before : ∀ now, (Session.start choices.shell random now).prompt choices.shell = .ok first :=
    fun _ => shown
  have alone : runProgram arguments inputs random now =
      .ok ⟨exitCodeOf record, asLines (printed record), none, after.slept⟩ := by
    rw [runProgram_of_line call single, runLine, submitted]
  have typed : ((Session.start choices.shell random earlier).withClock time).submit choices.shell
      line = (.ok record, after) := by
    rw [Session.withClock_start, shows, submitted]
  have goesOn : isFarewell line = false := by
    rw [isFarewell, farewells, List.contains_eq_mem, decide_eq_false_iff_not]
    exact lasting
  have talked := Session.converse_line goesOn (before earlier) typed behind
  refine ⟨_, _, _, record, after, first, last, alone, ?_, submitted, before now, behind, ?_⟩
  · rw [runProgram_of_no_line bareCall rfl, choices.shell_of_no_command, runConversation, talked]
    rfl
  · rcases outcome with ⟨silent, rfl⟩ | ⟨carriedOut, r, rfl, kept⟩
    · exact .inl ⟨silent, rfl, rfl⟩
    · exact .inr ⟨carriedOut, r, rfl, kept, rfl, rfl⟩

/-- What a call for one line chooses. -/
def visitor : Choices := ⟨some " grep -q x ", "ada", "/tmp", true, false⟩

/-- The line is typed some time after the conversation began. -/
theorem visitor_line_agrees_with_conversation :
    readCall ["-u", "ada", "--dir=/tmp", "-c", " grep -q x "] = .ok (.run visitor) ∧
    visitor.command = some " grep -q x " ∧
    readCall ["-uada", "-vd", "/tmp"] =
      .ok (.run { visitor with command := none, verbose := true }) ∧
    trim " grep -q x " ∉ ["exit", "quit", "logout"] ∧ Session.noon.hasTimestamp = true ∧
    (some Session.noon).getD Session.outset.now = Session.noon ∧
    ∃ exitCode output slept first last,
      runProgram ["-u", "ada", "--dir=/tmp", "-c", " grep -q x "] [] (.cycling [0.25])
        Session.noon = .ok ⟨exitCode, output, none, slept⟩ ∧
      runProgram ["-uada", "-vd", "/tmp"]
          [.line " grep -q x " (some Session.noon)] (.cycling [0.25]) Session.outset.now =
        .ok ⟨0, "Welcome to AI Terminal\n" ++
          "Type 'help' for available commands, Tab to accept a suggestion, 'exit' to quit\n\n" ++
          (first ++ output ++ (last ++ "\n")) ++ "Goodbye!\n", none, slept⟩ := by
  have call : readCall ["-u", "ada", "--dir=/tmp", "-c", " grep -q x "] = .ok (.run visitor) := by
    rfl
  have bareCall : readCall ["-uada", "-vd", "/tmp"] =
      .ok (.run { visitor with command := none, verbose := true }) := by rfl
  have lasting : trim " grep -q x " ∉ ["exit", "quit", "logout"] := by decide
  have timely : Session.noon.hasTimestamp = true := by decide
  obtain ⟨exitCode, output, slept, _, _, first, last, alone, talked, _⟩ :=
    line_agrees_with_conversation call rfl bareCall lasting timely
      (rfl : (some Session.noon).getD Session.outset.now = _) [] (.cycling [0.25])
  exact ⟨call, rfl, bareCall, lasting, timely, rfl, exitCode, output, slept, first, last, alone,
    talked⟩

end EmulatedShell
