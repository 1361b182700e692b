import EmulatedShell.Proofs.Session.Rendering

namespace EmulatedShell

/-- A line that sends no packets. -/
def SendsNothing (line : String) : Prop := (Command.parse line).name ≠ "ping"

/-- A line that an idle session carries out when it is submitted, and that sends no packets. -/
structure IsQuietSubmission (line : String) : Prop where
  nonblank : trim line ≠ ""
  other : trim line ≠ "clear"
  silent : SendsNothing line

/-- A line in a conversation that is carried out and sends no packets. -/
structure IsQuietInput (line : String) : Prop extends IsQuietSubmission line where
  goesOn : ["exit", "quit", "logout"].contains (trim line) = false

/-- The same line, or another one where both are of a kind. -/
def Replaces (kind : String → Prop) (line other : String) : Prop :=
  line = other ∨ kind line ∧ kind other

/-- Inputs of which one can stand in the place of the other. -/
inductive ConsoleInput.Varies : ConsoleInput → ConsoleInput → Prop
  | interrupt : Varies .interrupt .interrupt
  | line {text other : String} (now : Option Moment) :
      Replaces IsQuietInput text other → Varies (.line text now) (.line other now)

/-- An operation with which no line is carried out. -/
def Operation.isIdle : Operation → Bool
  | .submit _ _ | .run _ _ | .execute _ _ | .converse _ => false
  | _ => true

mutual

/-- Operations that differ in lines alone that are carried out and send no packets. -/
inductive Operation.Varies : Operation → Operation → Prop
  | submit {line other : String} {during others : List Operation} :
      Replaces IsQuietSubmission line other → VariesAll during others →
        Operation.Varies (.submit line during) (.submit other others)
  | run {line other : String} {during others : List Operation} :
      Replaces IsQuietSubmission line other → VariesAll during others →
        Operation.Varies (.run line during) (.run other others)
  | execute {line other : String} {during others : List Operation} :
      Replaces SendsNothing line other → VariesAll during others →
        Operation.Varies (.execute line during) (.execute other others)
  | converse {inputs others : List ConsoleInput} :
      List.Forall₂ ConsoleInput.Varies inputs others →
        Operation.Varies (.converse inputs) (.converse others)
  | idle {operation : Operation} : operation.isIdle = true → Operation.Varies operation operation

/-- Lists of such operations. -/
inductive VariesAll : List Operation → List Operation → Prop
  | nil : VariesAll [] []
  | cons {operation other : Operation} {rest others : List Operation} :
      operation.Varies other → VariesAll rest others →
        VariesAll (operation :: rest) (other :: others)

end

/-- The lines among records that sent packets, with what they printed. -/
def pingsOf (records : List Record) : List (String × String) :=
  (records.filter fun r => (Command.parse r.line).name = "ping").map fun r => (r.line, r.output)

/-- The same numbers are drawn for a line that stands in the place of another. -/
theorem Replaces.draws_eq {line other : String} (swap : Replaces SendsNothing line other) :
    (Command.parse line).draws = (Command.parse other).draws := by
  rcases swap with rfl | ⟨first, second⟩
  · rfl
  · rw [Command.draws, Command.draws, if_neg first, if_neg second]

theorem Replaces.weaken {kind wider : String → Prop} {line other : String}
    (swap : Replaces kind line other) (wide : ∀ l, kind l → wider l) : Replaces wider line other :=
  swap.imp id fun both => ⟨wide line both.1, wide other both.2⟩

theorem Replaces.isFarewell_eq {line other : String} (swap : Replaces IsQuietInput line other) :
    isFarewell line = isFarewell other := by
  rcases swap with rfl | ⟨first, second⟩
  · rfl
  · exact first.goesOn.trans second.goesOn.symm

theorem pingsOf_append (records more : List Record) :
    pingsOf (records ++ more) = pingsOf records ++ pingsOf more := by
  simp [pingsOf]

theorem pingsOf_singleton (r : Record) :
    pingsOf [r] = if (Command.parse r.line).name = "ping" then [(r.line, r.output)] else [] := by
  unfold pingsOf
  split
  next sends => simp [sends]
  next silent => simp [silent]

/-- What becomes of two lines, up to another line that is carried out and sends no packets. -/
inductive Submission.Varies : Submission → Submission → Prop
  | ignored : Varies .ignored .ignored
  | clearing : Varies .clearing .clearing
  | accepted {line other : String} :
      Replaces SendsNothing line other → Varies (.accepted line) (.accepted other)

namespace Session

/-- Sessions that a command to send packets cannot tell apart. -/
structure Twin (s t : Session) : Prop where
  executing : t.executing = s.executing
  random : t.random = s.random
  now : t.now = s.now

/-- Twins after records that sent the same packets. -/
structure Agree (made more : List Record) (s t : Session) : Prop where
  twin : Twin s t
  pings : pingsOf made = pingsOf more

variable {shell : Shell} {s t : Session} {line other : String} {during others : List Operation}

theorem Twin.refl (s : Session) : Twin s s := ⟨rfl, rfl, rfl⟩

theorem Twin.begun (h : Twin s t) : Twin (s.begun shell) (t.begun shell) := by
  constructor
  case executing => rw [begun_executing, begun_executing]
  case random => rw [begun_random, begun_random, h.random]
  case now => rw [begun_now, begun_now, h.now]

theorem Twin.withClock (h : Twin s t) (now : Option Moment) :
    Twin (s.withClock now) (t.withClock now) :=
  ⟨h.executing, h.random, congrArg now.getD h.now⟩

theorem dispatch_ping (builtin : shell.handlers = builtinHandlers) {command : Command}
    (sends : command.name = "ping") (time : Moment) (s : Session) :
    (s.dispatch shell command time).1 =
      (ping (s.invocation shell command) s.random).1.outcome := by
  have known : shell.handlers.get? command.name = some (Utility.sampling ping).handler := by
    rw [builtin, sends, builtinHandlers_ping]
  have answers : (Utility.sampling ping).handler (s.invocation shell command)
      (s.surroundings shell time) s.random =
        (.ok (ping (s.invocation shell command) s.random).1.outcome,
          (ping (s.invocation shell command) s.random).2) := rfl
  rw [dispatch_of_ok known answers]

theorem finish_ping (builtin : shell.handlers = builtinHandlers) {p : Pending}
    (sends : (Command.parse p.line).name = "ping") : (s.finish shell p).1.output =
      (ping (s.invocation shell (Command.parse p.line)) s.random).1.output := by
  rw [finish_record, dispatch_ping builtin sends, Reply.outcome]

theorem Twin.finish (builtin : shell.handlers = builtinHandlers) (h : Twin s t) {p q : Pending}
    (swap : Replaces SendsNothing p.line q.line) :
    Agree [(s.finish shell p).1] [(t.finish shell q).1] (s.finish shell p).2
      (t.finish shell q).2 := by
  have random : (t.finish shell q).2.random = (s.finish shell p).2.random := by
    rw [finish_random builtin, finish_random builtin, Record.draws, Record.draws,
      parse_finish_line, parse_finish_line, h.random, swap.draws_eq]
  refine ⟨⟨rfl, random, h.now⟩, ?_⟩
  rw [pingsOf_singleton, pingsOf_singleton, parse_finish_line, parse_finish_line]
  -- A line that stays may send packets, and does so with the same numbers. One that is replaced
  -- does not, and neither does the other.
  rcases swap with same | ⟨first, second⟩
  · rw [finish_line, finish_line, ← same]
    split
    next sends =>
      have tokens : (s.invocation shell (Command.parse p.line)).command =
          (t.invocation shell (Command.parse q.line)).command := by simp only [invocation, same]
      have sendsToo : (Command.parse q.line).name = "ping" := same ▸ sends
      rw [finish_ping builtin sends, finish_ping builtin sendsToo, h.random,
        ping_of_same_command tokens]
    next => rfl
  · rw [if_neg first, if_neg second]

theorem Twin.agree (h : Twin s t) : Agree [] [] s t := ⟨h, rfl⟩

theorem Agree.append {made more later others : List Record} {u v : Session}
    (first : Agree made more s t) (second : Agree later others u v) :
    Agree (made ++ later) (more ++ others) u v :=
  ⟨second.twin, by rw [pingsOf_append, pingsOf_append, first.pings, second.pings]⟩

theorem Twin.clear (h : Twin s t) : Twin s.clear t.clear := ⟨h.executing, h.random, h.now⟩

theorem Twin.consider (h : Twin s t) (swap : Replaces IsQuietSubmission line other) :
    (s.consider line).Varies (t.consider other) := by
  rcases swap with rfl | ⟨first, second⟩
  · have same : t.consider line = s.consider line := by simp only [Session.consider, h.executing]
    rw [same]
    cases s.consider line with
    | ignored => exact .ignored
    | clearing => exact .clearing
    | accepted l => exact .accepted (.inl rfl)
  · cases busy : s.executing with
    | true =>
      rw [consider_of_executing busy, consider_of_executing (h.executing.trans busy)]
      exact .ignored
    | false =>
      rw [consider_of_idle busy first.nonblank first.other,
        consider_of_idle (h.executing.trans busy) second.nonblank second.other]
      refine .accepted (.inr ⟨?_, ?_⟩)
      · rw [SendsNothing, Command.parse_trim first.nonblank]
        exact first.silent
      · rw [SendsNothing, Command.parse_trim second.nonblank]
        exact second.silent

/-- Twins that carry out a line, or another one in its place, agree if they do so on what comes in
between. -/
theorem Twin.executeAmid (builtin : shell.handlers = builtinHandlers) (h : Twin s t)
    (swap : Replaces SendsNothing line other) {first second : Session → List Record × Session}
    (between : s.now.hasTimestamp = true →
      Agree (s.interlude shell first).1 (t.interlude shell second).1
        (s.interlude shell first).2 (t.interlude shell second).2) :
    Agree
      (produced ((s.executeAmid shell line first).1.map some, (s.executeAmid shell line first).2))
      (produced ((t.executeAmid shell other second).1.map some,
        (t.executeAmid shell other second).2))
      (s.executeAmid shell line first).2.2 (t.executeAmid shell other second).2.2 := by
  by_cases timely : s.now.hasTimestamp = true
  · have passed := between timely
    have finished := passed.twin.finish builtin (p := s.pending line) (q := t.pending other) swap
    rw [executeAmid_of_timestamp timely, executeAmid_of_timestamp (h.now ▸ timely)]
    exact passed.append finished
  · have late : s.now.hasTimestamp = false := by simpa using timely
    have lateToo : t.now.hasTimestamp = false := by rw [h.now, late]
    rw [executeAmid_of_no_timestamp late, executeAmid_of_no_timestamp lateToo]
    exact ⟨⟨rfl, h.random, h.now⟩, rfl⟩

theorem Twin.submitAmid (builtin : shell.handlers = builtinHandlers) (h : Twin s t)
    (swap : Replaces IsQuietSubmission line other)
    {first second : Session → List Record × Session}
    (between : ∀ l k, s.consider line = .accepted l → t.consider other = .accepted k →
      s.now.hasTimestamp = true → Agree (s.interlude shell first).1 (t.interlude shell second).1
        (s.interlude shell first).2 (t.interlude shell second).2) :
    Agree (produced (s.submitAmid shell line first)) (produced (t.submitAmid shell other second))
      (s.submitAmid shell line first).2.2 (t.submitAmid shell other second).2.2 := by
  have fate := h.consider swap
  generalize hs : s.consider line = one at fate
  generalize ht : t.consider other = two at fate
  cases fate with
  | ignored =>
    rw [submitAmid_of_ignored hs, submitAmid_of_ignored ht]
    exact h.agree
  | clearing =>
    rw [submitAmid_of_clearing hs, submitAmid_of_clearing ht]
    exact h.clear.agree
  | accepted swapped =>
    rw [submitAmid_of_accepted hs, submitAmid_of_accepted ht]
    exact h.executeAmid builtin swapped (between _ _ hs ht)

theorem submit_isOk_of_timely (timely : s.now.hasTimestamp = true) (line : String) :
    (s.submit shell line).1.isOk = true := by
  obtain ⟨⟨record, submitted⟩, _⟩ := submit_of_timely shell timely line
  rw [submitted]
  rfl

theorem Twin.submit_isOk (h : Twin s t) (swap : Replaces IsQuietSubmission line other) :
    (s.submit shell line).1.isOk = (t.submit shell other).1.isOk := by
  by_cases timely : s.now.hasTimestamp = true
  · rw [submit_isOk_of_timely timely, submit_isOk_of_timely (h.now ▸ timely)]
  · have late : s.now.hasTimestamp = false := by simpa using timely
    have lateToo : t.now.hasTimestamp = false := by rw [h.now, late]
    have fate := h.consider swap
    generalize hs : s.consider line = one at fate
    generalize ht : t.consider other = two at fate
    cases fate with
    | ignored => rw [submit_of_ignored hs, submit_of_ignored ht]
    | clearing => rw [submit_of_clearing hs, submit_of_clearing ht]
    | accepted _ => rw [submit_of_late late hs, submit_of_late lateToo ht]

theorem goesOn_line (text : String) (now : Option Moment) : s.goesOn shell (.line text now) =
    (!isFarewell text && ((s.withClock now).submit shell text).1.isOk) := by
  rw [goesOn, respond]
  cases isFarewell text with
  | true => rfl
  | false => rcases (s.withClock now).submit shell text with ⟨_ | _, _⟩ <;> rfl

theorem Twin.respond (builtin : shell.handlers = builtinHandlers) (h : Twin s t)
    {input other : ConsoleInput} (varies : input.Varies other) :
    Agree (s.madeByInput shell input) (t.madeByInput shell other) (s.respond shell input).2
      (t.respond shell other).2 ∧
    s.goesOn shell input = t.goesOn shell other := by
  cases varies with
  | interrupt => exact ⟨h.agree, rfl⟩
  | @line text other now swap =>
    have submission : Replaces IsQuietSubmission text other :=
      swap.weaken fun _ quiet => quiet.toIsQuietSubmission
    have clock : Twin (s.withClock now) (t.withClock now) := h.withClock now
    have nothing : ∀ u : Session, u.interlude shell (fun u => (([] : List Record), u)) =
        ([], u.begun shell) := by
      intro u
      unfold interlude
      split <;> rfl
    refine ⟨?_, ?_⟩
    · rw [respond_line_session, respond_line_session, madeByInput, madeByInput,
        ← swap.isFarewell_eq]
      split
      · exact h.agree
      · rw [submit_eq, submit_eq]
        dsimp only
        apply clock.submitAmid builtin submission
        intro _ _ _ _ _
        rw [nothing, nothing]
        exact clock.begun.agree
    · rw [goesOn_line, goesOn_line, ← swap.isFarewell_eq, clock.submit_isOk submission]

theorem Twin.dialogue (builtin : shell.handlers = builtinHandlers) (h : Twin s t)
    {inputs others : List ConsoleInput} (varies : List.Forall₂ ConsoleInput.Varies inputs others)
    (whole : lacksPrompt (s.dialogue shell inputs).1 = false)
    (wholeToo : lacksPrompt (t.dialogue shell others).1 = false) :
    Agree (s.madeByDialogue shell inputs) (t.madeByDialogue shell others)
      (s.dialogue shell inputs).2 (t.dialogue shell others).2 := by
  induction varies generalizing s t with
  | nil =>
    rw [dialogue_nil_session, dialogue_nil_session]
    exact h.agree
  | @cons input other rest others first _ ih =>
    obtain ⟨prompt, hp⟩ := prompt_of_dialogue whole
    obtain ⟨promptToo, hpToo⟩ := prompt_of_dialogue wholeToo
    obtain ⟨responded, same⟩ := h.respond builtin first
    rw [lacksPrompt_dialogue hp] at whole
    rw [lacksPrompt_dialogue hpToo, ← same] at wholeToo
    rw [dialogue_of_prompt hp, dialogue_of_prompt hpToo]
    simp only [madeByDialogue, hp, hpToo, ← same]
    cases further : s.goesOn shell input with
    | true =>
      rw [further, Bool.true_and] at whole wholeToo
      exact responded.append (ih responded.twin whole wholeToo)
    | false =>
      simp only [Bool.false_eq_true, ↓reduceIte, List.append_nil]
      exact responded

theorem Twin.converse (builtin : shell.handlers = builtinHandlers) (h : Twin s t)
    {inputs others : List ConsoleInput} (varies : List.Forall₂ ConsoleInput.Varies inputs others)
    (whole : lacksPrompt (s.dialogue shell inputs).1 = false)
    (wholeToo : lacksPrompt (t.dialogue shell others).1 = false) :
    Agree (s.madeByDialogue shell inputs) (t.madeByDialogue shell others)
      (s.converse shell inputs).2 (t.converse shell others).2 := by
  obtain ⟨⟨executing, random, now⟩, pings⟩ := h.dialogue builtin varies whole wholeToo
  rw [converse_eq, converse_eq]
  exact ⟨⟨executing, random, now⟩, pings⟩

/-- Operations after which twins agree, if no conversation lacks a prompt. -/
def Correspond (shell : Shell) (operation other : Operation) : Prop :=
  ∀ s t, Twin s t → (s.perform shell operation).1.hasPrompts = true →
    (t.perform shell other).1.hasPrompts = true →
    Agree (s.madeBy shell operation) (t.madeBy shell other) (s.perform shell operation).2
      (t.perform shell other).2

/-- Lists of operations after which twins agree, if no conversation lacks a prompt. -/
def CorrespondAll (shell : Shell) (operations others : List Operation) : Prop :=
  ∀ s t, Twin s t → allHavePrompts (s.performAll shell operations).1 = true →
    allHavePrompts (t.performAll shell others).1 = true →
    Agree (s.madeByAll shell operations) (t.madeByAll shell others)
      (s.performAll shell operations).2 (t.performAll shell others).2

theorem Twin.interlude (h : Twin s t) (between : CorrespondAll shell during others)
    (whole : allHavePrompts (s.interlude shell (performAll shell during)).1 = true)
    (wholeToo : allHavePrompts (t.interlude shell (performAll shell others)).1 = true) :
    Agree (s.interlude shell (producing shell during)).1
      (t.interlude shell (producing shell others)).1
      (s.interlude shell (producing shell during)).2
      (t.interlude shell (producing shell others)).2 := by
  unfold Session.interlude at whole wholeToo ⊢
  cases hd : shell.settings.delay.isPositive with
  | true =>
    simp only [hd, ↓reduceIte] at whole wholeToo ⊢
    exact between _ _ h.begun whole wholeToo
  | false => exact h.begun.agree

theorem correspond_execute (builtin : shell.handlers = builtinHandlers)
    (swap : Replaces SendsNothing line other) (between : CorrespondAll shell during others) :
    Correspond shell (.execute line during) (.execute other others) := by
  intro s t h whole wholeToo
  rw [perform_execute, Answer.hasPrompts] at whole wholeToo
  rw [perform_execute, perform_execute, madeBy_execute, madeBy_execute,
    ← executeAmid_of_same (performAll_of_producing during) line,
    ← executeAmid_of_same (performAll_of_producing others) other]
  apply h.executeAmid builtin swap
  intro timely
  rw [executeAmid_of_timestamp timely] at whole
  rw [executeAmid_of_timestamp (h.now ▸ timely)] at wholeToo
  exact h.interlude between whole wholeToo

theorem Twin.submit_agree (builtin : shell.handlers = builtinHandlers) (h : Twin s t)
    (swap : Replaces IsQuietSubmission line other) (between : CorrespondAll shell during others)
    (whole : allHavePrompts (s.submitAmid shell line (performAll shell during)).2.1 = true)
    (wholeToo : allHavePrompts (t.submitAmid shell other (performAll shell others)).2.1 = true) :
    Agree (produced (s.submitAmid shell line (producing shell during)))
      (produced (t.submitAmid shell other (producing shell others)))
      (s.submitAmid shell line (performAll shell during)).2.2
      (t.submitAmid shell other (performAll shell others)).2.2 := by
  rw [← submitAmid_of_same (performAll_of_producing during) line,
    ← submitAmid_of_same (performAll_of_producing others) other]
  apply h.submitAmid builtin swap
  intro l k accepted acceptedToo timely
  rw [submitAmid_of_accepted accepted, executeAmid_of_timestamp timely] at whole
  rw [submitAmid_of_accepted acceptedToo, executeAmid_of_timestamp (h.now ▸ timely)] at wholeToo
  exact h.interlude between whole wholeToo

theorem correspond_submit (builtin : shell.handlers = builtinHandlers)
    (swap : Replaces IsQuietSubmission line other) (between : CorrespondAll shell during others) :
    Correspond shell (.submit line during) (.submit other others) := by
  intro s t h whole wholeToo
  rw [perform_submit, Answer.hasPrompts] at whole wholeToo
  rw [perform_submit, perform_submit, madeBy_submit, madeBy_submit]
  exact h.submit_agree builtin swap between whole wholeToo

/-- It makes no difference whether a submission answers with its record or with what it printed. -/
theorem Correspond.run (submitted : Correspond shell (.submit line during) (.submit other others)) :
    Correspond shell (.run line during) (.run other others) := by
  intro s t h whole wholeToo
  rw [run_hasPrompts] at whole wholeToo
  rw [run_made, run_made, run_session, run_session]
  exact submitted s t h whole wholeToo

theorem correspond_converse (builtin : shell.handlers = builtinHandlers)
    {inputs others : List ConsoleInput} (varies : List.Forall₂ ConsoleInput.Varies inputs others) :
    Correspond shell (.converse inputs) (.converse others) := by
  intro s t h whole wholeToo
  rw [perform_converse, Answer.hasPrompts, Bool.not_eq_true', lacksPrompt_converse]
    at whole wholeToo
  rw [perform_converse, perform_converse, madeBy, madeBy]
  exact h.converse builtin varies whole wholeToo

theorem correspond_idle {operation : Operation} (idle : operation.isIdle = true) :
    Correspond shell operation operation := by
  intro s t h _ _
  cases operation with
  | submit _ _ | run _ _ | execute _ _ | converse _ => simp [Operation.isIdle] at idle
  | clear =>
    rw [perform, perform, madeBy, madeBy]
    · exact h.clear.agree
    all_goals simp
  | setTime now =>
    rw [perform, perform, madeBy, madeBy]
    · exact ⟨⟨h.executing, h.random, rfl⟩, rfl⟩
    all_goals simp
  | setExecuting value =>
    rw [perform, perform, madeBy, madeBy]
    · exact ⟨⟨rfl, h.random, h.now⟩, rfl⟩
    all_goals simp
  | observe | suggest _ | accept _ | complete _ _ | prompt | setting =>
    rw [perform, perform, madeBy, madeBy]
    · exact h.agree
    all_goals simp

mutual

-- The induction is on how the operations vary: what happens while a line waits is handed to the
-- lemma for the line as one more correspondence.

/-- Operations that vary leave twins in agreement. -/
theorem correspond_of_varies (builtin : shell.handlers = builtinHandlers)
    {operation other : Operation} (varies : operation.Varies other) :
    Correspond shell operation other :=
  match varies with
  | .submit swap rest => correspond_submit builtin swap (correspondAll_of_varies builtin rest)
  | .run swap rest => (correspond_submit builtin swap (correspondAll_of_varies builtin rest)).run
  | .execute swap rest => correspond_execute builtin swap (correspondAll_of_varies builtin rest)
  | .converse varied => correspond_converse builtin varied
  | .idle still => correspond_idle still
  termination_by structural varies

theorem correspondAll_of_varies (builtin : shell.handlers = builtinHandlers)
    {operations others : List Operation} (varies : VariesAll operations others) :
    CorrespondAll shell operations others :=
  match varies with
  | .nil => fun _ _ h _ _ => h.agree
  | .cons first rest => by
    intro s t h whole wholeToo
    rw [performAll_cons, allHavePrompts, Bool.and_eq_true] at whole wholeToo
    rw [performAll_cons, performAll_cons, madeByAll, madeByAll]
    have performed := correspond_of_varies builtin first s t h whole.1 wholeToo.1
    exact performed.append
      (correspondAll_of_varies builtin rest _ _ performed.twin whole.2 wholeToo.2)
  termination_by structural varies

end

end Session

end EmulatedShell
