import EmulatedShell.Proofs.Session.Completion
import EmulatedShell.Proofs.Session.Prompt
import EmulatedShell.Proofs.Session.Submission

namespace EmulatedShell

namespace ConsoleInput

/-- The line that is typed, unless it is interrupted, with the time if the clock has gone on. -/
def line? : ConsoleInput → Option (String × Option Moment)
  | .line text now => some (text, now)
  | .interrupt => none

/-- The time when a line is typed, if the clock has gone on. -/
def time? (input : ConsoleInput) : Option Moment := input.line?.bind Prod.snd

/-- An input that ends a conversation. -/
def endsConversation : ConsoleInput → Bool
  | .line text _ => ["exit", "quit", "logout"].contains (trim text)
  | .interrupt => false

end ConsoleInput

/-- The inputs before the first farewell. -/
def beforeFarewell (inputs : List ConsoleInput) : List ConsoleInput :=
  inputs.takeWhile fun input => !input.endsConversation

theorem beforeFarewell_of_ends {input : ConsoleInput} (h : input.endsConversation = true)
    (rest : List ConsoleInput) : beforeFarewell (input :: rest) = [] := by
  simp [beforeFarewell, h]

theorem beforeFarewell_of_goes_on {input : ConsoleInput} (h : input.endsConversation = false)
    (rest : List ConsoleInput) :
    beforeFarewell (input :: rest) = input :: beforeFarewell rest := by
  simp [beforeFarewell, h]

namespace Session

/-- Lines are submitted one after another, each at its time. -/
def submitAll (host : Host) (lines : List (String × Option Moment)) (s : Session) : Session :=
  lines.foldl (fun s line => ((s.withClock line.2).submit host line.1).2) s

/-- The session after the lines among some inputs are submitted. -/
def after (host : Host) (inputs : List ConsoleInput) (s : Session) : Session :=
  s.submitAll host (inputs.filterMap ConsoleInput.line?)

/-- The prompt of a session, where there is one. -/
def promptText (host : Host) (s : Session) : String := (s.prompt host).toOption.getD ""

/-- What the shell has to say to an input: a mark for an interrupt, and for a line what it
printed. -/
def reaction (host : Host) (s : Session) : ConsoleInput → String
  | .interrupt => "^C\n"
  | .line text now =>
    match ((s.withClock now).submit host text).1 with
    | .ok (some r) => if r.output = "" then "" else r.output ++ "\n"
    | _ => ""

/-- What stands on the console from the first prompt to the last: for each input before a farewell
the prompt of the session that it met and the reaction to it, and then a last prompt, behind which
either the farewell or a line break stands. -/
def transcript (host : Host) (inputs : List ConsoleInput) (s : Session) : String :=
  String.join ((beforeFarewell inputs).mapIdx fun i input =>
    let t := s.after host ((beforeFarewell inputs).take i)
    t.promptText host ++ t.reaction host input) ++
  (s.after host (beforeFarewell inputs)).promptText host ++
  if inputs.any ConsoleInput.endsConversation then "" else "\n"

variable {host : Host} {shell : Shell} {s : Session} {input : ConsoleInput}
variable {rest : List ConsoleInput}

theorem prompt_of_isOk (h : (s.prompt host).isOk = true) :
    s.prompt host = .ok (s.promptText host) := by
  unfold promptText
  cases hp : s.prompt host with
  | error fault => simp [hp, Except.isOk, Except.toBool] at h
  | ok text => rfl

theorem after_cons (input : ConsoleInput) (rest : List ConsoleInput) :
    s.after host (input :: rest) = (s.after host [input]).after host rest := by
  cases input <;> rfl

theorem transcript_nil : s.transcript host [] = s.promptText host ++ "\n" := by
  simp [transcript, beforeFarewell, after, submitAll]

theorem transcript_of_ends (h : input.endsConversation = true) :
    s.transcript host (input :: rest) = s.promptText host := by
  simp [transcript, beforeFarewell_of_ends h, after, submitAll, h]

theorem transcript_of_goes_on (h : input.endsConversation = false) :
    s.transcript host (input :: rest) = s.promptText host ++ s.reaction host input ++
      (s.after host [input]).transcript host rest := by
  have first : s.after host [] = s := rfl
  have later : ∀ inputs, s.after host (input :: inputs) =
      (s.after host [input]).after host inputs := after_cons input
  generalize s.after host [input] = t at later ⊢
  simp only [transcript, beforeFarewell_of_goes_on h, List.mapIdx_cons, List.take_zero, first,
    List.take_succ_cons, later, String.join_cons, List.any_cons, h, Bool.false_or,
    String.append_assoc]

theorem withClock_hasTimestamp {now : Option Moment} (timely : s.now.hasTimestamp = true)
    (later : ∀ time ∈ now, time.hasTimestamp = true) :
    (s.withClock now).now.hasTimestamp = true := by
  cases now with
  | none => exact timely
  | some time => exact later time rfl

theorem respond_of_ends (h : input.endsConversation = true) :
    s.respond host input = (.ok none, s) := by
  cases input with
  | interrupt => simp [ConsoleInput.endsConversation] at h
  | line text now =>
    have hf : isFarewell text = true := h
    simp only [respond, hf, ↓reduceIte]

/-- An input that does not end the conversation is answered, and its line is submitted. -/
theorem respond_of_goes_on (shell : Shell) (h : input.endsConversation = false)
    (timely : s.now.hasTimestamp = true)
    (later : ∀ time ∈ input.time?, time.hasTimestamp = true) :
    s.respond shell input = (.ok (some (s.reaction shell input)), s.after shell [input]) ∧
    (s.after shell [input]).now.hasTimestamp = true := by
  cases input with
  | interrupt => exact ⟨rfl, timely⟩
  | line text now =>
    have hf : isFarewell text = false := h
    have typed : (s.withClock now).now.hasTimestamp = true := withClock_hasTimestamp timely later
    obtain ⟨⟨record, hr⟩, hn⟩ := submit_of_timely shell typed text
    have ha : s.after shell [.line text now] = ((s.withClock now).submit shell text).2 := rfl
    rw [ha]
    refine ⟨?_, ?_⟩
    · simp only [respond, hf, reaction, hr]
      cases record <;> rfl
    · rw [hn]
      exact typed

/-- At times that have a timestamp, and with prompts all along, a conversation submits the lines
before a farewell and comes to its end. -/
theorem dialogue_eq {inputs : List ConsoleInput} (timely : s.now.hasTimestamp = true)
    (later : ∀ input ∈ beforeFarewell inputs, ∀ time ∈ input.time?, time.hasTimestamp = true)
    (renders : ∀ i ≤ (beforeFarewell inputs).length,
      ((s.after shell ((beforeFarewell inputs).take i)).prompt shell).isOk = true) :
    s.dialogue shell inputs =
      (.ok (s.transcript shell inputs), s.after shell (beforeFarewell inputs)) := by
  induction inputs generalizing s with
  | nil =>
    have hp : s.prompt shell = .ok (s.promptText shell) :=
      prompt_of_isOk (renders 0 (Nat.zero_le _))
    rw [dialogue, hp, transcript_nil]
    rfl
  | cons input rest ih =>
    have hp : s.prompt shell = .ok (s.promptText shell) :=
      prompt_of_isOk (renders 0 (Nat.zero_le _))
    cases he : input.endsConversation with
    | true =>
      rw [dialogue, hp, transcript_of_ends he, beforeFarewell_of_ends he]
      simp only [respond_of_ends he]
      rfl
    | false =>
      rw [beforeFarewell_of_goes_on he] at later renders
      obtain ⟨hr, still⟩ := respond_of_goes_on shell he timely
        (later input List.mem_cons_self)
      have further : (s.after shell [input]).dialogue shell rest =
          (.ok ((s.after shell [input]).transcript shell rest),
            (s.after shell [input]).after shell (beforeFarewell rest)) := by
        apply ih still
        · exact fun other hm => later other (List.mem_cons_of_mem input hm)
        · intro i hi
          rw [← after_cons]
          exact renders (i + 1) (Nat.succ_le_succ hi)
      rw [dialogue, hp, transcript_of_goes_on he, beforeFarewell_of_goes_on he,
        after_cons input (beforeFarewell rest)]
      simp only [hr, further]
      rfl

theorem respond_of_running (running : Bool) (input : ConsoleInput) :
    ({ s with running }).respond shell input =
      ((s.respond shell input).1, { (s.respond shell input).2 with running }) := by
  cases input with
  | interrupt => rfl
  | line text now =>
    have clock : ({ s with running }).withClock now = { s.withClock now with running } := rfl
    rw [respond, respond]
    split
    · rfl
    · rw [clock, submit_of_running]

/-- Whether a conversation is under way makes no difference to what is said in it. -/
theorem dialogue_of_running (running : Bool) (inputs : List ConsoleInput) :
    ({ s with running }).dialogue shell inputs =
      ((s.dialogue shell inputs).1, { (s.dialogue shell inputs).2 with running }) := by
  have same : ({ s with running }).prompt shell = s.prompt shell := rfl
  induction inputs generalizing s with
  | nil =>
    rw [dialogue, dialogue, same]
    cases s.prompt shell <;> rfl
  | cons input rest ih =>
    conv => lhs; rw [dialogue]
    rw [dialogue, same]
    cases s.prompt shell with
    | error fault => rfl
    | ok prompt =>
      dsimp only
      rw [respond_of_running]
      rcases s.respond shell input with ⟨fault | _ | answer, t⟩
      · rfl
      · rfl
      · have further := @ih t rfl
        simp only [further]

/-- A conversation in a shell is what is said in it, with a greeting and a parting around it, and it
stays under way if it breaks off. -/
theorem converse_eq (inputs : List ConsoleInput) : s.converse shell inputs =
    ((s.dialogue shell inputs).1.map fun printed => greeting ++ printed ++ parting,
      { (s.dialogue shell inputs).2 with running := !(s.dialogue shell inputs).1.isOk }) := by
  rw [converse, dialogue_of_running]
  rcases s.dialogue shell inputs with ⟨_ | _, _⟩ <;> rfl

/-- A conversation is the submission of the lines before a farewell, one after another, and all that
it prints is a greeting, the prompts with the reactions, and a parting. In the end it is not under
way any more. -/
theorem converse_submits {inputs : List ConsoleInput} (timely : s.now.hasTimestamp = true)
    (later : ∀ input ∈ beforeFarewell inputs, ∀ time ∈ input.time?, time.hasTimestamp = true)
    (renders : ∀ i ≤ (beforeFarewell inputs).length,
      ((s.after shell ((beforeFarewell inputs).take i)).prompt shell).isOk = true) :
    s.converse shell inputs =
      (.ok ("Welcome to AI Terminal\n" ++
          "Type 'help' for available commands, Tab to accept a suggestion, 'exit' to quit\n\n" ++
          s.transcript shell inputs ++ "Goodbye!\n"),
        { s.submitAll shell ((beforeFarewell inputs).filterMap ConsoleInput.line?) with
          running := false }) := by
  have ended : ({ s with running := true }).dialogue shell inputs =
      (.ok (s.transcript shell inputs),
        { s.after shell (beforeFarewell inputs) with running := true }) := by
    rw [dialogue_of_running, dialogue_eq timely later renders]
  rw [converse_of_ok shell s ended]
  rfl

def noon : Moment := ⟨2024, 1, 20, 12, 0, 0, 0⟩

/-- A visit to another directory, with a slip, an empty line and a second thought after the end. -/
def chat : List ConsoleInput :=
  [.line "cd projects" none, .interrupt, .line "" none, .line " pwd " noon, .line "nosuch" none,
    .line " logout " none, .line "cd /tmp" none]

theorem chat_submits :
    outset.now.hasTimestamp = true ∧
    (∀ input ∈ beforeFarewell chat, ∀ time ∈ input.time?, time.hasTimestamp = true) ∧
    (∀ i ≤ (beforeFarewell chat).length,
      ((outset.after usualShell ((beforeFarewell chat).take i)).prompt usualShell).isOk = true) ∧
    (outset.converse usualShell chat).1 =
      .ok ("Welcome to AI Terminal\n" ++
        "Type 'help' for available commands, Tab to accept a suggestion, 'exit' to quit\n\n" ++
        outset.transcript usualShell chat ++ "Goodbye!\n") ∧
    (outset.converse usualShell chat).2 =
      { outset.submitAll usualShell
          [("cd projects", none), ("", none), (" pwd ", some noon), ("nosuch", none)] with
        running := false } ∧
    (outset.converse usualShell chat).2.running = false ∧
    (outset.converse usualShell chat).2.directory = "/home/user/projects" := by
  have timely : outset.now.hasTimestamp = true := by decide
  have later : ∀ input ∈ beforeFarewell chat, ∀ time ∈ input.time?,
      time.hasTimestamp = true := by decide
  have renders : ∀ i ≤ (beforeFarewell chat).length,
      ((outset.after usualShell ((beforeFarewell chat).take i)).prompt usualShell).isOk = true := by
    intro i _
    rw [prompt, @promptIn_usual usualShell.settings rfl]
    rfl
  have lines : (beforeFarewell chat).filterMap ConsoleInput.line? =
      [("cd projects", none), ("", none), (" pwd ", some noon), ("nosuch", none)] := by
    decide
  have ended := converse_submits timely later renders
  rw [lines] at ended
  rw [ended]
  exact ⟨timely, later, renders, rfl, rfl, rfl, by decide +kernel⟩

/-- A conversation with delays that are too long breaks off at its first line, and stays marked as
under way. -/
theorem converse_breaks_off :
    outset.now.hasTimestamp = true ∧
    (∀ s : Session, (s.prompt overlongDelays).isOk = true) ∧
    (outset.converse overlongDelays [.line "pwd" none]).1 =
      .error (.command .numberTooLarge) ∧
    (outset.converse overlongDelays [.line "pwd" none]).2.running = true := by
  have prompts : ∀ s : Session, s.prompt overlongDelays =
      .ok (usualSettings.user ++ "@" ++ usualSettings.hostname ++ ":" ++
        shownDirectory usualSettings.home s.directory ++ "$ ") :=
    fun s => promptIn_usual rfl s.directory
  have breaks : ({ outset with running := true }.respond overlongDelays (.line "pwd" none)).1 =
      .error .numberTooLarge := by decide +kernel
  have still : ({ outset with running := true }.respond overlongDelays
      (.line "pwd" none)).2.running = true := by decide +kernel
  rcases answer : { outset with running := true }.respond overlongDelays (.line "pwd" none) with
    ⟨result, t⟩
  rw [answer] at breaks still
  cases breaks
  have ended : { outset with running := true }.dialogue overlongDelays [.line "pwd" none] =
      (.error (.command .numberTooLarge), t) := by
    simp only [dialogue, prompts, answer]
  rw [converse_of_error _ _ ended]
  refine ⟨by decide, fun s => ?_, rfl, still⟩
  rw [prompts]
  rfl

end Session

end EmulatedShell
