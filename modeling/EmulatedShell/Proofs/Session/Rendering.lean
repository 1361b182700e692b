import EmulatedShell.Proofs.Session.Production

namespace EmulatedShell

/-- Whether a conversation broke off for want of a prompt. -/
def lacksPrompt : Except ConversationFault String → Bool
  | .error (.prompt _) => true
  | _ => false

mutual

/-- Whether no conversation broke off for want of a prompt. -/
def Answer.hasPrompts : Answer → Bool
  | .record _ _ during _ | .output _ _ during _ => allHavePrompts during
  | .conversation result _ => !lacksPrompt result
  | _ => true

def allHavePrompts : List Answer → Bool
  | [] => true
  | answer :: rest => answer.hasPrompts && allHavePrompts rest

end

theorem lacksPrompt_map (result : Except ConversationFault String) (f : String → String) :
    lacksPrompt (result.map f) = lacksPrompt result := by
  cases result <;> rfl

namespace Session

variable {shell : Shell} {s : Session}

theorem dialogue_nil_session : (s.dialogue shell []).2 = s := by
  rw [Session.dialogue]
  split <;> rfl

/-- After an input to which there is a prompt a conversation lacks one if the rest of it does. -/
theorem lacksPrompt_dialogue {prompt : String} (hp : s.prompt shell = .ok prompt)
    (input : ConsoleInput) (rest : List ConsoleInput) :
    lacksPrompt (s.dialogue shell (input :: rest)).1 =
      (s.goesOn shell input &&
        lacksPrompt ((s.respond shell input).2.dialogue shell rest).1) := by
  rw [Session.dialogue, goesOn]
  rcases hr : s.respond shell input with ⟨_ | _ | answer, t⟩
  · simp only [hp, hr]
    rfl
  · simp only [hp, hr]
    rfl
  · simp only [hp, hr, lacksPrompt_map]
    rfl

theorem prompt_of_dialogue {inputs : List ConsoleInput}
    (whole : lacksPrompt (s.dialogue shell inputs).1 = false) :
    ∃ prompt, s.prompt shell = .ok prompt := by
  cases hp : s.prompt shell with
  | error fault =>
    unfold Session.dialogue at whole
    rw [hp] at whole
    cases whole
  | ok prompt => exact ⟨prompt, rfl⟩

theorem lacksPrompt_converse (inputs : List ConsoleInput) :
    lacksPrompt (s.converse shell inputs).1 = lacksPrompt (s.dialogue shell inputs).1 := by
  rw [converse_eq, lacksPrompt_map]

/-- Without a prompt a conversation is over before anything is carried out. -/
theorem converse_of_no_prompt {fault : TemplateFault} (hp : s.prompt shell = .error fault)
    (input : ConsoleInput) (rest : List ConsoleInput) :
    s.madeBy shell (.converse (input :: rest)) = [] ∧
      (s.perform shell (.converse (input :: rest))).2 = { s with running := true } := by
  have unmoved : { s with running := true }.prompt shell = .error fault := hp
  have ended : { s with running := true }.dialogue shell (input :: rest) =
      (.error (.prompt fault), { s with running := true }) := by rw [Session.dialogue, unmoved]
  have silent : s.madeByDialogue shell (input :: rest) = [] := by rw [madeByDialogue, hp]
  rw [perform_converse, madeBy, converse_of_error shell s ended]
  exact ⟨silent, rfl⟩

/-- With a prompt a conversation of one input is the answer to it. -/
theorem converse_of_prompt {prompt : String} (hp : s.prompt shell = .ok prompt)
    (input : ConsoleInput) :
    s.madeBy shell (.converse [input]) = s.madeByInput shell input ∧
      (s.perform shell (.converse [input])).2 =
        { (s.respond shell input).2 with running := !(s.dialogue shell [input]).1.isOk } := by
  have rest : (s.dialogue shell [input]).2 = (s.respond shell input).2 := by
    rw [dialogue_of_prompt hp, dialogue_nil_session, ite_self]
  have made : s.madeByDialogue shell [input] = s.madeByInput shell input := by
    simp only [madeByDialogue, hp, ite_self, List.append_nil]
  rw [perform_converse, madeBy, converse_eq, ← rest]
  exact ⟨made, rfl⟩

/-- What is told of what comes in between is nothing, or what happened then. -/
theorem submitAmid_during {α : Type} {P : List α → Prop} {meanwhile : Session → List α × Session}
    (nothing : P []) (between : ∀ t, P (meanwhile t).1) (line : String) (s : Session) :
    P (s.submitAmid shell line meanwhile).2.1 ∧ P (s.executeAmid shell line meanwhile).2.1 := by
  have carriedOut : ∀ l, P (s.executeAmid shell l meanwhile).2.1 := by
    intro l
    by_cases timely : s.now.hasTimestamp = true
    · rw [executeAmid_of_timestamp timely, Session.interlude]
      split
      · exact between _
      · exact nothing
    · rw [executeAmid_of_no_timestamp (by simpa using timely)]
      exact nothing
  refine ⟨?_, carriedOut line⟩
  cases hc : s.consider line with
  | ignored =>
    rw [submitAmid_of_ignored hc]
    exact nothing
  | clearing =>
    rw [submitAmid_of_clearing hc]
    exact nothing
  | accepted l =>
    rw [submitAmid_of_accepted hc]
    exact carriedOut l

theorem run_hasPrompts (line : String) (during : List Operation) :
    (s.perform shell (.run line during)).1.hasPrompts =
      (s.perform shell (.submit line during)).1.hasPrompts := by
  rw [perform_run, perform_submit, Answer.hasPrompts, Answer.hasPrompts]

theorem dialogue_has_prompts (renders : ∀ s : Session, (s.prompt shell).isOk = true)
    (inputs : List ConsoleInput) (s : Session) :
    lacksPrompt (s.dialogue shell inputs).1 = false := by
  have hp : ∀ s : Session, s.prompt shell = .ok (s.promptText shell) :=
    fun s => prompt_of_isOk (renders s)
  induction inputs generalizing s with
  | nil =>
    rw [Session.dialogue, hp]
    rfl
  | cons input rest ih => rw [lacksPrompt_dialogue (hp s), ih, Bool.and_false]

mutual

/-- No conversation lacks a prompt where there is one in every directory. -/
theorem hasPrompts_of_renders (renders : ∀ s : Session, (s.prompt shell).isOk = true)
    (operation : Operation) (s : Session) : (s.perform shell operation).1.hasPrompts = true := by
  cases operation with
  | submit line during =>
    rw [perform_submit, Answer.hasPrompts]
    exact (submitAmid_during (P := fun answers => allHavePrompts answers = true) rfl
      (allHavePrompts_of_renders renders during) line s).1
  | run line during =>
    rw [run_hasPrompts, perform_submit, Answer.hasPrompts]
    exact (submitAmid_during (P := fun answers => allHavePrompts answers = true) rfl
      (allHavePrompts_of_renders renders during) line s).1
  | execute line during =>
    rw [perform_execute, Answer.hasPrompts]
    exact (submitAmid_during (P := fun answers => allHavePrompts answers = true) rfl
      (allHavePrompts_of_renders renders during) line s).2
  | converse inputs =>
    rw [perform_converse, Answer.hasPrompts, lacksPrompt_converse, dialogue_has_prompts renders]
    rfl
  | clear | setTime _ | setExecuting _ | observe | suggest _ | accept _ | complete _ _ | prompt
  | setting =>
    rw [Session.perform]
    rfl

theorem allHavePrompts_of_renders (renders : ∀ s : Session, (s.prompt shell).isOk = true)
    (operations : List Operation) (s : Session) :
    allHavePrompts (s.performAll shell operations).1 = true := by
  cases operations with
  | nil => rfl
  | cons operation rest =>
    rw [performAll_cons, allHavePrompts, hasPrompts_of_renders renders operation s]
    exact allHavePrompts_of_renders renders rest _

end

end Session

end EmulatedShell
