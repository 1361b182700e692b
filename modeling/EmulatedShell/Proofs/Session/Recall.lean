import EmulatedShell.Proofs.Movement
import EmulatedShell.Proofs.Recollection
import EmulatedShell.Proofs.Session.Acceptance

namespace EmulatedShell

/-- A line that asks for the lines of the session, and not to forget them. -/
structure AsksForLines (line : String) : Prop where
  name : (Command.parse line).name = "history"
  plain : "-c" ∉ (Command.parse line).args

instance : DecidablePred AsksForLines := fun line =>
  decidable_of_iff ((Command.parse line).name = "history" ∧ "-c" ∉ (Command.parse line).args)
    ⟨fun ⟨name, plain⟩ => ⟨name, plain⟩, fun ⟨name, plain⟩ => ⟨name, plain⟩⟩

namespace Session

open RecordChange (linesSinceClear linesSinceClear_added)

variable {α : Type} {shell : Shell} {s : Session} {line : String} {past : List RecordChange}
variable {during : List Operation}

theorem nonblank_of_asksForLines (h : AsksForLines line) : trim line ≠ "" := by
  intro blank
  have name := h.name
  rw [Command.parse_of_blank blank] at name
  simp at name

theorem not_clearing_of_asksForLines (h : AsksForLines line) : trim line ≠ "clear" := by
  intro clearing
  have name := h.name
  rw [← Command.parse_trim (nonblank_of_asksForLines h), clearing] at name
  exact absurd name (by decide)

/-- A line that asks for the lines of the session is shown them as they are when its delay is over,
and itself after them. -/
theorem finish_recalls (builtin : shell.handlers = builtinHandlers) (p : Pending)
    (asks : AsksForLines p.line) :
    (s.finish shell p).1.exitCode = 0 ∧
      Recalls ((Command.parse p.line).arg 0) (s.lines ++ [trim p.line])
        (s.finish shell p).1.output := by
  have known : shell.handlers.get? (Command.parse p.line).name =
      some (Utility.recalling EmulatedShell.history).handler := by
    rw [builtin, asks.name]
    exact builtinHandlers_of_utility (builtinUtilities_of_lookup rfl)
  obtain ⟨output, replied, recalls⟩ :=
    history_recalls (i := s.invocation shell (Command.parse p.line)) s.lines asks.plain
  have dispatched : s.dispatch shell (Command.parse p.line) p.time =
      ((Reply.ok output).outcome, s.random) := by
    apply dispatch_of_ok known
    rw [← replied]
    rfl
  have raw : (Command.parse p.line).raw = trim p.line := by
    rw [Command.parse_raw, if_neg (nonblank_of_asksForLines asks)]
  obtain ⟨printed, exitCode⟩ := finish_outcome dispatched
  rw [printed, exitCode, ← raw]
  exact ⟨rfl, recalls⟩

theorem executeAmid_recalls (builtin : shell.handlers = builtinHandlers)
    (asks : AsksForLines line) (timely : s.now.hasTimestamp = true)
    (meanwhile : Session → List α × Session) :
    ∃ r answers t, s.executeAmid shell line meanwhile = (.ok r, answers, t) ∧ r.exitCode = 0 ∧
      Recalls ((Command.parse line).arg 0)
        ((s.interlude shell meanwhile).2.lines ++ [trim line]) r.output := by
  have carried : s.executeAmid shell line meanwhile = _ := executeAmid_of_timestamp timely
  obtain ⟨exitCode, recalls⟩ := finish_recalls builtin (s.pending line) asks
  exact ⟨_, _, _, carried, exitCode, recalls⟩

/-- What happens last in a run happens to the session that the rest of it leaves. -/
theorem changesOfAll_concat (shell : Shell) (operations : List Operation) (operation : Operation)
    (s : Session) : s.changesOfAll shell (operations ++ [operation]) =
      s.changesOfAll shell operations ++
        (s.performAll shell operations).2.changes shell operation := by
  induction operations generalizing s with
  | nil => simp [changesOfAll, performAll]
  | cons first rest ih =>
    rw [List.cons_append, changesOfAll, ih, changesOfAll, performAll_cons, List.append_assoc]

/-- In a session with tidy records the lines are those accepted since the last clearing. -/
theorem Tidy.submit_recalls (builtin : shell.handlers = builtinHandlers)
    (asks : AsksForLines line) (idle : s.executing = false) (tidy : Tidy past s)
    (timely : s.now.hasTimestamp = true)
    (heedful : ∀ operation ∈ during, operation.isHeedful = true) :
    ∃ r answers t, s.submitAmid shell line (Session.performAll shell during) =
        (.ok (some r), answers, t) ∧ r.exitCode = 0 ∧
      Recalls ((Command.parse line).arg 0)
        (linesSinceClear (past ++ s.submitChanges shell line during)) r.output := by
  have nonblank : trim line ≠ "" := nonblank_of_asksForLines asks
  have other : trim line ≠ "clear" := not_clearing_of_asksForLines asks
  obtain ⟨r, answers, t, carried, exitCode, recalls⟩ :=
    executeAmid_recalls builtin asks timely (Session.performAll shell during)
  have changed : s.submitChanges shell line during =
      changesAmid shell during ++ [.added (trim line)] := by
    simp [submitChanges, idle, nonblank, other, timely]
  have lines := (tidy.interlude shell heedful).lines
  rw [Session.lines, lines, ← linesSinceClear_added, List.append_assoc, ← changed] at recalls
  rw [submitAmid_of_idle idle nonblank other, carried]
  exact ⟨r, answers, t, rfl, exitCode, recalls⟩

/-- A line that asks for the lines of the session is shown the lines of its records at the end of the
delay, numbered from one on, and itself after them. In a run of submissions these are the lines
accepted since the last clearing. -/
theorem history_shows_session (builtin : shell.handlers = builtinHandlers)
    (asks : AsksForLines line) :
    (∀ (s : Session) (meanwhile : Session → List α × Session), s.now.hasTimestamp = true →
      ∃ r answers t, s.executeAmid shell line meanwhile = (.ok r, answers, t) ∧ r.exitCode = 0 ∧
        Recalls ((Command.parse line).arg 0)
          ((s.interlude shell meanwhile).2.lines ++ [trim line]) r.output) ∧
    ∀ (random : RandomSource) (now : Moment) (operations during : List Operation),
      (∀ operation ∈ operations ++ [.submit line during], operation.isOrderly = true) →
      ((start shell random now).performAll shell operations).2.now.hasTimestamp = true →
      ∃ r answers t,
        ((start shell random now).performAll shell operations).2.submitAmid shell line
          (performAll shell during) = (.ok (some r), answers, t) ∧
        r.exitCode = 0 ∧ Recalls ((Command.parse line).arg 0)
          (linesSinceClear ((start shell random now).changesOfAll shell
            (operations ++ [.submit line during]))) r.output := by
  refine ⟨fun _ meanwhile timely => executeAmid_recalls builtin asks timely meanwhile, ?_⟩
  intro random now operations during orderly timely
  have earlier : ∀ operation ∈ operations, operation.isOrderly = true :=
    fun operation hm => orderly operation (List.mem_append_left _ hm)
  have heedful : ∀ operation ∈ during, operation.isHeedful = true :=
    List.all_eq_true.mp (orderly (.submit line during) (by simp))
  have fresh : Tidy [] (start shell random now) := .start shell random now
  obtain ⟨idle, tidy⟩ := fresh.performAll shell earlier rfl
  rw [changesOfAll_concat]
  exact tidy.submit_recalls builtin asks idle timely heedful

def reminiscence : List Operation :=
  [.submit "ls" [], .clear, .run " pwd " [.submit "date" []], .submit "cd /tmp" []]

/-- While the line waits nothing else is accepted, and only what was not cleared is shown. -/
theorem outset_shows_reminiscence :
    usualShell.handlers = builtinHandlers ∧ AsksForLines " history 2x " ∧
    (∀ operation ∈ reminiscence ++ [.submit " history 2x " [.run "id" []]],
      operation.isOrderly = true) ∧
    (outset.performAll usualShell reminiscence).2.now.hasTimestamp = true ∧
    ∃ r answers t, (outset.performAll usualShell reminiscence).2.submitAmid usualShell
        " history 2x " (performAll usualShell [.run "id" []]) = (.ok (some r), answers, t) ∧
      r.output = "    2  cd /tmp\n    3  history 2x" := by
  have builtin : usualShell.handlers = builtinHandlers := rfl
  have asks : AsksForLines " history 2x " := by decide
  have orderly : ∀ operation ∈ reminiscence ++ [.submit " history 2x " [.run "id" []]],
      operation.isOrderly = true := by decide
  have timely : (outset.performAll usualShell reminiscence).2.now.hasTimestamp = true := by
    decide
  have same : start usualShell outset.random outset.now = outset := rfl
  have lines : linesSinceClear (outset.changesOfAll usualShell
      (reminiscence ++ [.submit " history 2x " [.run "id" []]])) =
        ["pwd", "cd /tmp", "history 2x"] := by decide
  have asked : askedNumber ((Command.parse " history 2x ").arg 0) = some 2 := by decide
  obtain ⟨_, submitted⟩ := history_shows_session (α := Answer) builtin asks
  obtain ⟨r, answers, t, carried, _, recalls⟩ :=
    submitted outset.random outset.now reminiscence [.run "id" []] orderly timely
  rw [same] at carried recalls
  rw [lines] at recalls
  refine ⟨builtin, asks, orderly, timely, r, answers, t, carried, ?_⟩
  rw [recalls.last 2 asked (by decide)]
  decide

end Session

end EmulatedShell
