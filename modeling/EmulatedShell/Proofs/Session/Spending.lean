import EmulatedShell.Proofs.Session.Exchange

namespace EmulatedShell

namespace Session

variable {shell : Shell} {s : Session} {line : String}

/-- What is submitted in vain draws nothing and is not waited for. -/
theorem submitAmid_draws_nothing {α : Type} (meanwhile : Session → List α × Session)
    (vain : trim line = "" ∨ s.executing = true ∨ trim line = clearingLine ∨
      s.now.hasTimestamp = false) :
    (s.submitAmid shell line meanwhile).2.2.random = s.random ∧
      (s.submitAmid shell line meanwhile).2.2.slept = s.slept := by
  cases hc : s.consider line with
  | ignored =>
    rw [submitAmid_of_ignored hc]
    exact ⟨rfl, rfl⟩
  | clearing =>
    rw [submitAmid_of_clearing hc]
    exact ⟨rfl, rfl⟩
  | accepted l =>
    obtain ⟨nonblank, idle, other, _⟩ := consider_eq_accepted hc
    have late : s.now.hasTimestamp = false := by simpa [nonblank, idle, other] using vain
    rw [submitAmid_of_accepted hc, executeAmid_of_no_timestamp late]
    exact ⟨rfl, rfl⟩

/-- For every record there is one delay, if there are delays at all, and one draw for it, and else
nothing is drawn but for packets. What is done in vain costs nothing. So it makes no difference to
packets which lines are carried out besides, unless a conversation lacks a prompt. -/
theorem draws_are_accounted_for {shell : Shell} (builtin : shell.handlers = builtinHandlers) :
    (∀ (operations : List Operation) (s : Session),
      (∃ events, Scene.Run shell ⟨s, []⟩ events ⟨(s.performAll shell operations).2, []⟩ ∧
        Scene.recorded events = s.madeByAll shell operations) ∧
      (s.performAll shell operations).2.slept.length = s.slept.length +
        shell.settings.delay.pauses (s.madeByAll shell operations).length ∧
      (s.performAll shell operations).2.random = s.random.later
        (shell.settings.delay.pauses (s.madeByAll shell operations).length +
          drawsOf (s.madeByAll shell operations))) ∧
    (∀ count, shell.settings.delay.pauses count =
      if shell.settings.delay.longest.PositiveOrNaN then count else 0) ∧
    (∀ count, DelayRange.zero.pauses count = 0) ∧
    (∀ (α : Type) (meanwhile : Session → List α × Session) (line : String) (s : Session),
      (trim line = "" ∨ s.executing = true ∨ trim line = "clear" ∨
        s.now.hasTimestamp = false →
          (s.submitAmid shell line meanwhile).2.2.random = s.random ∧
            (s.submitAmid shell line meanwhile).2.2.slept = s.slept) ∧
      (s.now.hasTimestamp = false →
        (s.executeAmid shell line meanwhile).2.2.random = s.random ∧
          (s.executeAmid shell line meanwhile).2.2.slept = s.slept)) ∧
    ∀ (operations others : List Operation) (s : Session), VariesAll operations others →
      allHavePrompts (s.performAll shell operations).1 = true →
      allHavePrompts (s.performAll shell others).1 = true →
      pingsOf (s.madeByAll shell operations) = pingsOf (s.madeByAll shell others) := by
  refine ⟨?_, shell.settings.delay.pauses_eq, ?_, ?_, ?_⟩
  · intro operations s
    obtain ⟨_, slept, random⟩ := performAll_accounts builtin operations s
    exact ⟨Scene.yields_performAll operations s [], slept, random⟩
  · intro count
    rw [DelayRange.pauses, DelayRange.isPositive_zero]
    rfl
  · intro α meanwhile line s
    refine ⟨submitAmid_draws_nothing meanwhile, ?_⟩
    intro late
    rw [executeAmid_of_no_timestamp late]
    exact ⟨rfl, rfl⟩
  · intro operations others s varies whole wholeToo
    exact (correspondAll_of_varies builtin varies s s (.refl s) whole wholeToo).pings

/-- Packets and other things, some of them while others wait. -/
def chores : List Operation :=
  [.submit "ping -c 2 b" [.submit "pwd" [], .execute "ls" []], .run " clear" [],
    .execute "ping" []]

/-- A conversation and packets, with lines of which it does not matter which they are. -/
def errands (first second : String) : List Operation :=
  [.execute first [], .converse [.line second none, .interrupt, .line "ping -c 1 a" none],
    .submit "ping -c 2 b" [.submit "pwd" [], .execute second []], .observe]

theorem pwd_cd_send_nothing : SendsNothing "pwd" ∧ SendsNothing "cd /tmp" := by
  unfold SendsNothing
  decide

theorem errands_are_accounted_for :
    usualShell.handlers = builtinHandlers ∧
    (outset.madeByAll usualShell chores).map Record.line = ["ls", "ping -c 2 b", "ping"] ∧
    (outset.performAll usualShell chores).2.slept.length = 3 ∧
    (outset.performAll usualShell chores).2.random.drawn = 3 + (2 + 1) + (4 + 1) ∧
    trim "\n" = "" ∧
    (outset.submitAmid usualShell "\n" (performAll usualShell chores)).2.2.slept = [] ∧
    VariesAll (errands "pwd" "cd /tmp") (errands "cd /tmp" "pwd") ∧
    allHavePrompts (outset.performAll usualShell (errands "pwd" "cd /tmp")).1 = true ∧
    allHavePrompts (outset.performAll usualShell (errands "cd /tmp" "pwd")).1 = true ∧
    pingsOf (outset.madeByAll usualShell (errands "pwd" "cd /tmp")) =
      pingsOf (outset.madeByAll usualShell (errands "cd /tmp" "pwd")) := by
  have quiet := pwd_cd_send_nothing
  have typed : Replaces IsQuietInput "cd /tmp" "pwd" :=
    .inr ⟨⟨⟨by decide, by decide, quiet.2⟩, by decide⟩, ⟨by decide, by decide, quiet.1⟩, by decide⟩
  have conversation : List.Forall₂ ConsoleInput.Varies
      [.line "cd /tmp" none, .interrupt, .line "ping -c 1 a" none]
      [.line "pwd" none, .interrupt, .line "ping -c 1 a" none] :=
    .cons (.line none typed) (.cons .interrupt (.cons (.line none (.inl rfl)) .nil))
  have between : VariesAll [.submit "pwd" [], .execute "cd /tmp" []]
      [.submit "pwd" [], .execute "pwd" []] :=
    .cons (.submit (.inl rfl) .nil) (.cons (.execute (.inr quiet.symm) .nil) .nil)
  have varies : VariesAll (errands "pwd" "cd /tmp") (errands "cd /tmp" "pwd") :=
    .cons (.execute (.inr quiet) .nil) (.cons (.converse conversation)
      (.cons (.submit (.inl rfl) between) (.cons (.idle rfl) .nil)))
  have renders : ∀ s : Session, (s.prompt usualShell).isOk = true := by
    intro s
    rw [prompt, @promptIn_usual usualShell.settings rfl]
    rfl
  have one := allHavePrompts_of_renders renders (errands "pwd" "cd /tmp") outset
  have two := allHavePrompts_of_renders renders (errands "cd /tmp" "pwd") outset
  obtain ⟨accounts, _, _, vain, exchanged⟩ := @draws_are_accounted_for usualShell rfl
  obtain ⟨_, slept, random⟩ := accounts chores outset
  have lines : (outset.madeByAll usualShell chores).map Record.line =
      ["ls", "ping -c 2 b", "ping"] := by decide
  have count : (outset.madeByAll usualShell chores).length = 3 := by
    rw [← List.length_map, lines]
    rfl
  have draws : drawsOf (outset.madeByAll usualShell chores) = (2 + 1) + (4 + 1) := by
    decide
  have pauses : usualShell.settings.delay.pauses 3 = 3 := by decide
  have blank : trim "\n" = "" := by decide
  rw [count, pauses] at slept random
  rw [draws] at random
  refine ⟨rfl, lines, slept, congrArg RandomSource.drawn random, blank, ?_, varies, one, two,
    exchanged _ _ outset varies one two⟩
  exact ((vain Answer (performAll usualShell chores) "\n" outset).1 (.inl blank)).2

/-- A prompt that there is in some directories only. -/
def pickyShell : Shell where
  toHost :=
    { usualShell.toHost with settings :=
        { usualSettings with delay := .zero, promptTemplate := "\x7bcwd[1]\x7d" } }
  patient := fun _ _ => ⟨_, _, rfl, rfl⟩
  contained := nothingUncaught_eq

theorem pickyPrompt_home : promptIn pickyShell.settings "/home/user" = .error .indexOutOfRange := by
  have taken : Field.take "cwd[1]\x7d".toList = .ok (⟨"cwd[1]".toList, none, []⟩, []) := rfl
  have lost : Field.value (promptValue pickyShell.settings "/home/user")
      ⟨"cwd[1]".toList, none, []⟩ = .error .indexOutOfRange := by decide
  have filled := @fillFields_lost _ 1 7 _ _ _ _ (by decide) taken lost
  rw [promptIn, fillTemplate]
  exact congrArg (· >>= fun text => Except.ok (String.ofList text)) filled

theorem pickyPrompt_tmp : promptIn pickyShell.settings "/tmp" = .ok "t" := by
  have taken : Field.take "cwd[1]\x7d".toList = .ok (⟨"cwd[1]".toList, none, []⟩, []) := rfl
  have found : Field.value (promptValue pickyShell.settings "/tmp")
      ⟨"cwd[1]".toList, none, []⟩ = .ok "t" := by decide
  have filled := @fillFields_field _ 1 7 _ _ _ _ (by decide) taken found
  rw [fillFields_nil] at filled
  rw [promptIn, fillTemplate]
  exact congrArg (· >>= fun text => Except.ok (String.ofList text)) filled

/-- A conversation and a ping, after a line that is carried out. -/
def afterwards (line : String) : List Operation :=
  [.execute line [], .converse [.line "ping -c 1 a" none], .submit "ping -c 1 b" []]

/-- A longest delay that is no number, which can be waited for all the same. -/
def hazyShell : Shell where
  toHost :=
    { usualShell.toHost with settings :=
        { usualSettings with delay := ⟨.real 0, .real (0 / 0)⟩ } }
  patient := fun _ _ => ⟨_, _, rfl, rfl⟩
  contained := nothingUncaught_eq

/-- The same delays, where what is no number cannot be waited for. -/
def hazyHost : Host := { hazyShell.toHost with sleep := strictSleep }

def onset : Session := .start pickyShell (.cycling [0, 0, 0.5, 0.5]) outset.now

/-- A delay that is no number is waited for if it can be, and otherwise uses up a random number
without a record, as a negative one does. A prompt that is there after one line and not after
another leaves a later ping other numbers. -/
theorem draws_have_exceptions :
    (¬ (0 : Float) < 0 / 0 ∧
      (outset.performAll hazyShell [.execute "pwd" []]).2.slept.length = 1 ∧
      (outset.performAll hazyShell [.execute "pwd" []]).2.lines = ["pwd"]) ∧
    (∀ host ∈ [hazyHost, backwardDelays],
      (outset.performAll host [.execute "pwd" []]).2.random.drawn = 1 ∧
      (outset.performAll host [.execute "pwd" []]).2.slept = [] ∧
      (outset.performAll host [.execute "pwd" []]).2.lines = []) ∧
    pickyShell.handlers = builtinHandlers ∧ SendsNothing "pwd" ∧ SendsNothing "cd /tmp" ∧
    (onset.madeByAll pickyShell (afterwards "pwd")).map Record.line = ["pwd", "ping -c 1 b"] ∧
    (onset.madeByAll pickyShell (afterwards "cd /tmp")).map Record.line =
      ["cd /tmp", "ping -c 1 a", "ping -c 1 b"] ∧
    (pingsOf (onset.madeByAll pickyShell (afterwards "pwd"))).lookup "ping -c 1 b" ≠
      (pingsOf (onset.madeByAll pickyShell (afterwards "cd /tmp"))).lookup "ping -c 1 b" := by
  -- At home the prompt is a tilde, which has no second character, so that the conversation is over at
  -- once. In the other directory there is a prompt, and a ping takes the numbers that are next.
  let home := (onset.perform pickyShell (.execute "pwd" [])).2
  let away := (onset.perform pickyShell (.execute "cd /tmp" [])).2
  have atHome : home.directory = "/home/user" := by decide
  have atTmp : away.directory = "/tmp" := by decide
  have noPrompt : home.prompt pickyShell = .error .indexOutOfRange := by
    rw [prompt, atHome, pickyPrompt_home]
  have aPrompt : away.prompt pickyShell = .ok "t" := by
    rw [prompt, atTmp, pickyPrompt_tmp]
  obtain ⟨nothing, stays⟩ := converse_of_no_prompt noPrompt (.line "ping -c 1 a" none) []
  obtain ⟨something, goes⟩ := converse_of_prompt aPrompt (.line "ping -c 1 a" none)
  have first : onset.madeByAll pickyShell (afterwards "pwd") =
      onset.madeBy pickyShell (.execute "pwd" []) ++
        { home with running := true }.madeBy pickyShell (.submit "ping -c 1 b" []) := by
    simp only [afterwards, madeByAll, nothing, stays, home, List.append_nil, List.nil_append]
  have second : onset.madeByAll pickyShell (afterwards "cd /tmp") =
      onset.madeBy pickyShell (.execute "cd /tmp" []) ++
        (away.madeByInput pickyShell (.line "ping -c 1 a" none) ++
          { (away.respond pickyShell (.line "ping -c 1 a" none)).2 with
            running := !(away.dialogue pickyShell [.line "ping -c 1 a" none]).1.isOk }.madeBy
              pickyShell (.submit "ping -c 1 b" [])) := by
    simp only [afterwards, madeByAll, something, goes, away, List.append_nil]
  rw [first, second]
  refine ⟨?_, ?_, rfl, pwd_cd_send_nothing.1, pwd_cd_send_nothing.2, ?_, ?_, ?_⟩
  · decide
  · intro host refuses
    obtain rfl | rfl : host = hazyHost ∨ host = backwardDelays := by simpa using refuses
    · decide
    · decide
  · decide
  · decide
  · decide +kernel

end Session

end EmulatedShell
