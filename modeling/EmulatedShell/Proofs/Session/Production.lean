import EmulatedShell.Proofs.Session.Accounting
import EmulatedShell.Proofs.Session.Conversation

namespace EmulatedShell

namespace Session

/-- Whether a conversation goes on after an input. -/
def goesOn (shell : Shell) (input : ConsoleInput) (s : Session) : Bool :=
  (s.respond shell input).1.toOption.join.isSome

/-- The records of a line that is submitted, after those that are made while it waits. -/
def produced (outcome : Except Fault (Option Record) × List Record × Session) : List Record :=
  outcome.2.1 ++ outcome.1.toOption.join.toList

/-- The record that is made for an input of a conversation. -/
def madeByInput (shell : Shell) (s : Session) : ConsoleInput → List Record
  | .interrupt => []
  | .line text now =>
    if isFarewell text then []
    else produced ((s.withClock now).submitAmid shell text fun t => ([], t))

/-- The records that are made in a conversation, until it ends or breaks off. -/
def madeByDialogue (shell : Shell) : List ConsoleInput → Session → List Record
  | [], _ => []
  | input :: rest, s =>
    match s.prompt shell with
    | .error _ => []
    | .ok _ =>
      s.madeByInput shell input ++
        if s.goesOn shell input then madeByDialogue shell rest (s.respond shell input).2 else []

mutual

/-- The records that an operation makes, shown or not. -/
def madeBy (shell : Shell) : Operation → Session → List Record
  -- What happens while the line waits is handed over together with the records that it makes.
  | .submit line during, s | .run line during, s =>
    produced (s.submitAmid shell line fun t =>
      (madeByAll shell during t, (t.performAll shell during).2))
  | .execute line during, s =>
    produced (Prod.map (Except.map some) id (s.executeAmid shell line fun t =>
      (madeByAll shell during t, (t.performAll shell during).2)))
  | .converse inputs, s => s.madeByDialogue shell inputs
  | _, _ => []

/-- The records that operations make, one after another. -/
def madeByAll (shell : Shell) : List Operation → Session → List Record
  | [], _ => []
  | operation :: rest, s =>
    madeBy shell operation s ++ madeByAll shell rest (s.perform shell operation).2

end

/-- What operations do to a session, with the records that they make. -/
def producing (shell : Shell) (operations : List Operation) (s : Session) :
    List Record × Session :=
  (s.madeByAll shell operations, (s.performAll shell operations).2)

variable {α β : Type} {shell : Shell} {s : Session} {line : String}

theorem madeBy_submit (line : String) (during : List Operation) :
    s.madeBy shell (.submit line during) =
      produced (s.submitAmid shell line (producing shell during)) := by
  rw [madeBy]
  rfl

theorem run_made (line : String) (during : List Operation) :
    s.madeBy shell (.run line during) = s.madeBy shell (.submit line during) := by
  rw [madeBy, madeBy]

theorem madeBy_execute (line : String) (during : List Operation) :
    s.madeBy shell (.execute line during) =
      produced ((s.executeAmid shell line (producing shell during)).1.map some,
        (s.executeAmid shell line (producing shell during)).2) := by
  rw [madeBy]
  rfl

/-- What is told of what happens meanwhile has no say in what becomes of the session. -/
theorem executeAmid_of_same {first : Session → List α × Session}
    {second : Session → List β × Session} (same : ∀ t, (first t).2 = (second t).2)
    (line : String) :
    (s.executeAmid shell line first).2.2 = (s.executeAmid shell line second).2.2 := by
  have passed : (s.interlude shell first).2 = (s.interlude shell second).2 := by
    unfold interlude
    split
    · exact same _
    · rfl
  by_cases h : s.now.hasTimestamp = true
  · rw [executeAmid_of_timestamp h, executeAmid_of_timestamp h, passed]
  · have hn : s.now.hasTimestamp = false := by simpa using h
    rw [executeAmid_of_no_timestamp hn, executeAmid_of_no_timestamp hn]

theorem submitAmid_of_same {first : Session → List α × Session}
    {second : Session → List β × Session} (same : ∀ t, (first t).2 = (second t).2)
    (line : String) :
    (s.submitAmid shell line first).2.2 = (s.submitAmid shell line second).2.2 := by
  cases hc : s.consider line with
  | ignored => rw [submitAmid_of_ignored hc, submitAmid_of_ignored hc]
  | clearing => rw [submitAmid_of_clearing hc, submitAmid_of_clearing hc]
  | accepted l =>
    rw [submitAmid_of_accepted hc, submitAmid_of_accepted hc]
    exact executeAmid_of_same same l

theorem performAll_of_producing (during : List Operation) (t : Session) :
    (producing shell during t).2 = (t.performAll shell during).2 := rfl

/-- After an input to which there is a prompt a conversation goes on with the rest, or is over. -/
theorem dialogue_of_prompt {prompt : String} (hp : s.prompt shell = .ok prompt)
    (input : ConsoleInput) (rest : List ConsoleInput) :
    (s.dialogue shell (input :: rest)).2 =
      if s.goesOn shell input then ((s.respond shell input).2.dialogue shell rest).2
      else (s.respond shell input).2 := by
  rw [dialogue, goesOn]
  rcases hr : s.respond shell input with ⟨_ | _ | answer, t⟩ <;> simp only [hp, hr] <;> rfl

end Session

namespace Scene

/-- A change of sessions that is a run in which just some records are made, whatever else is
waiting. -/
def Yields (shell : Shell) (s : Session) (records : List Record) (t : Session) : Prop :=
  ∀ waiting, ∃ events, Run shell ⟨s, waiting⟩ events ⟨t, waiting⟩ ∧ recorded events = records

variable {shell : Shell} {s t u : Session} {records more : List Record}

theorem Yields.refl (s : Session) : Yields shell s [] s := fun _ => ⟨[], .stay, rfl⟩

theorem Yields.trans (first : Yields shell s records t) (second : Yields shell t more u) :
    Yields shell s (records ++ more) u := by
  intro waiting
  obtain ⟨events, run, made⟩ := first waiting
  obtain ⟨later, rest, madeLater⟩ := second waiting
  exact ⟨events ++ later, run.trans rest, by rw [recorded_append, made, madeLater]⟩

theorem yields_clear (s : Session) : Yields shell s [] s.clear :=
  fun _ => ⟨[.cleared], Step.clear.run, rfl⟩

theorem yields_setTime (now : Moment) (s : Session) : Yields shell s [] { s with now } :=
  fun _ => ⟨[], (Step.setTime now).run, rfl⟩

theorem yields_setExecuting (value : Bool) (s : Session) :
    Yields shell s [] { s with executing := value } :=
  fun _ => ⟨[], (Step.setExecuting value).run, rfl⟩

theorem yields_setRunning (value : Bool) (s : Session) :
    Yields shell s [] { s with running := value } :=
  fun _ => ⟨[], (Step.setRunning value).run, rfl⟩

theorem yields_interlude {meanwhile : Session → List Record × Session}
    (hm : ∀ s, Yields shell s (meanwhile s).1 (meanwhile s).2) (s : Session) :
    Yields shell (s.begun shell) (s.interlude shell meanwhile).1
      (s.interlude shell meanwhile).2 := by
  unfold Session.interlude
  split
  · exact hm _
  · exact .refl _

theorem yields_executeAmid {meanwhile : Session → List Record × Session}
    (hm : ∀ s, Yields shell s (meanwhile s).1 (meanwhile s).2) (line : String) (s : Session) :
    Yields shell s (Session.produced ((s.executeAmid shell line meanwhile).1.map some,
      (s.executeAmid shell line meanwhile).2)) (s.executeAmid shell line meanwhile).2.2 := by
  intro waiting
  obtain ⟨events, between, made⟩ := yields_interlude hm s (s.pending line :: waiting)
  rcases run_executeAmid between with
    ⟨r, result, told, run⟩ | ⟨fault, result, told, run⟩ | ⟨fault, result, told, run⟩ <;>
    rw [Session.produced, result, told] <;> refine ⟨_, run, ?_⟩
  · rw [recorded_append, made]
    rfl
  · rw [made]
    exact (List.append_nil _).symm
  · rfl

theorem yields_submitAmid {meanwhile : Session → List Record × Session}
    (hm : ∀ s, Yields shell s (meanwhile s).1 (meanwhile s).2) (line : String) (s : Session) :
    Yields shell s (Session.produced (s.submitAmid shell line meanwhile))
      (s.submitAmid shell line meanwhile).2.2 := by
  cases hc : s.consider line with
  | ignored =>
    rw [Session.submitAmid_of_ignored hc]
    exact .refl s
  | clearing =>
    rw [Session.submitAmid_of_clearing hc]
    exact yields_clear s
  | accepted l =>
    rw [Session.submitAmid_of_accepted hc]
    exact yields_executeAmid hm l s

theorem yields_respond (input : ConsoleInput) (s : Session) :
    Yields shell s (s.madeByInput shell input) (s.respond shell input).2 := by
  cases input with
  | interrupt => exact .refl s
  | line text now =>
    rw [Session.respond_line_session, Session.madeByInput]
    split
    · exact .refl s
    · let nothing : Session → List Record × Session := fun t => ([], t)
      have quiet : ∀ t, Yields shell t (nothing t).1 (nothing t).2 := fun t => .refl t
      have clock : Yields shell s [] (s.withClock now) := yields_setTime (now.getD s.now) s
      have typed := clock.trans (yields_submitAmid quiet text (s.withClock now))
      rw [Session.submit_eq]
      rw [List.nil_append] at typed
      exact typed

theorem yields_dialogue (inputs : List ConsoleInput) (s : Session) :
    Yields shell s (s.madeByDialogue shell inputs) (s.dialogue shell inputs).2 := by
  induction inputs generalizing s with
  | nil =>
    rw [Session.dialogue, Session.madeByDialogue]
    split <;> exact .refl s
  | cons input rest ih =>
    cases hp : s.prompt shell with
    | error fault =>
      simp only [Session.dialogue, Session.madeByDialogue, hp]
      exact .refl s
    | ok prompt =>
      have responded : Yields shell s (s.madeByInput shell input) (s.respond shell input).2 :=
        yields_respond input s
      simp only [Session.madeByDialogue, hp, Session.dialogue_of_prompt hp]
      split
      · exact responded.trans (ih _)
      · exact List.append_nil _ ▸ responded

theorem yields_converse (inputs : List ConsoleInput) (s : Session) :
    Yields shell s (s.madeByDialogue shell inputs) (s.converse shell inputs).2 := by
  have said : Yields shell s (s.madeByDialogue shell inputs) (s.dialogue shell inputs).2 :=
    yields_dialogue inputs s
  have ended := said.trans (yields_setRunning (!(s.dialogue shell inputs).1.isOk) _)
  rw [List.append_nil] at ended
  rw [Session.converse_eq]
  exact ended

variable {during : List Operation}

/-- The records of a submission are those that the ledger has for it. -/
theorem yields_submission
    (hm : ∀ s, Yields shell s (s.madeByAll shell during) (s.performAll shell during).2)
    (line : String) (s : Session) :
    Yields shell s (Session.produced (s.submitAmid shell line (Session.producing shell during)))
      (s.submitAmid shell line (Session.performAll shell during)).2.2 := by
  rw [← Session.submitAmid_of_same (Session.performAll_of_producing during) line]
  exact yields_submitAmid hm line s

theorem yields_execution
    (hm : ∀ s, Yields shell s (s.madeByAll shell during) (s.performAll shell during).2)
    (line : String) (s : Session) :
    Yields shell s (Session.produced
        ((s.executeAmid shell line (Session.producing shell during)).1.map some,
          (s.executeAmid shell line (Session.producing shell during)).2))
      (s.executeAmid shell line (Session.performAll shell during)).2.2 := by
  rw [← Session.executeAmid_of_same (Session.performAll_of_producing during) line]
  exact yields_executeAmid hm line s

mutual

theorem yields_perform (operation : Operation) (s : Session) :
    Yields shell s (s.madeBy shell operation) (s.perform shell operation).2 := by
  cases operation with
  | submit line during =>
    rw [Session.perform_submit, Session.madeBy_submit]
    exact yields_submission (yields_performAll during) line s
  | run line during =>
    rw [Session.run_session, Session.run_made, Session.perform_submit, Session.madeBy_submit]
    exact yields_submission (yields_performAll during) line s
  | execute line during =>
    rw [Session.perform_execute, Session.madeBy_execute]
    exact yields_execution (yields_performAll during) line s
  | converse inputs =>
    rw [Session.perform_converse, Session.madeBy]
    exact yields_converse inputs s
  | clear =>
    rw [Session.perform, Session.madeBy]
    · exact yields_clear s
    all_goals simp
  | setTime now =>
    rw [Session.perform, Session.madeBy]
    · exact yields_setTime now s
    all_goals simp
  | setExecuting value =>
    rw [Session.perform, Session.madeBy]
    · exact yields_setExecuting value s
    all_goals simp
  | observe | suggest _ | accept _ | complete _ _ | prompt | setting =>
    rw [Session.perform, Session.madeBy]
    · exact .refl s
    all_goals simp

theorem yields_performAll (operations : List Operation) (s : Session) :
    Yields shell s (s.madeByAll shell operations) (s.performAll shell operations).2 := by
  cases operations with
  | nil => exact .refl s
  | cons operation rest =>
    rw [Session.performAll_cons, Session.madeByAll]
    exact (yields_perform operation s).trans (yields_performAll rest _)

end

end Scene

/-- Each record that operations make is paid for by an identifier, by a delay where there are any,
and by what its command draws. -/
theorem Session.performAll_accounts {shell : Shell} (builtin : shell.handlers = builtinHandlers)
    (operations : List Operation) (s : Session) :
    (s.performAll shell operations).2.issued =
      s.issued + (s.madeByAll shell operations).length ∧
    (s.performAll shell operations).2.slept.length =
      s.slept.length + shell.settings.delay.pauses (s.madeByAll shell operations).length ∧
    (s.performAll shell operations).2.random =
      s.random.later (shell.settings.delay.pauses (s.madeByAll shell operations).length +
        drawsOf (s.madeByAll shell operations)) := by
  obtain ⟨events, run, made⟩ := @Scene.yields_performAll shell operations s []
  obtain ⟨issued, slept, values, drawn⟩ := run.balanced builtin
  have unpaid : shell.settings.delay.pauses 0 = 0 := by simp [DelayRange.pauses]
  rw [made] at issued slept drawn
  simp only [List.length_nil, Nat.add_zero, unpaid] at issued slept
  refine ⟨issued, slept, ?_⟩
  have count : (s.performAll shell operations).2.random.drawn = s.random.drawn +
      (shell.settings.delay.pauses (s.madeByAll shell operations).length +
        drawsOf (s.madeByAll shell operations)) := by
    dsimp only at drawn
    omega
  rw [RandomSource.later, ← count, ← values]

end EmulatedShell
