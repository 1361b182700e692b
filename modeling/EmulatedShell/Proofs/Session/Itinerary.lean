import EmulatedShell.Proofs.Movement
import EmulatedShell.Proofs.Session.Run
import Mathlib.Data.List.Chain

namespace EmulatedShell

/-- Where a command line led: to the directory that its first token named if it went anywhere, and
back to its own directory otherwise. -/
def Record.destination (home : String) (r : Record) : String :=
  if (Command.parse r.line).name = "cd" ∧ r.exitCode = 0 then
    resolvePath r.directory ((Command.parse r.line).arg 0) home
  else r.directory

/-- Every record was made where the one before it led, and the session is where the last one led. -/
structure Session.Traced (home : String) (s : Session) : Prop where
  chain : s.history.IsChain fun r next => next.directory = r.destination home
  last : ∀ r ∈ s.history.getLast?, s.directory = r.destination home

namespace Session

variable {host : Host} {home : String} {s t : Session}

theorem dispatch_directory_of_not_cd (builtin : host.handlers = builtinHandlers)
    {command : Command} {time : Moment} (hn : command.name ≠ "cd") :
    (s.dispatch host command time).1.directory = none := by
  cases hd : (s.dispatch host command time).1.directory with
  | none => rfl
  | some d =>
    obtain ⟨handler, outcome, random, hh, hr, ho⟩ := dispatch_names_directory hd
    rw [builtin] at hh
    exact ho.symm.trans (builtinHandlers_directory hh hn hr)

/-- What a built-in command that does not break off leaves. -/
theorem dispatch_of_utility (builtin : host.handlers = builtinHandlers) {command : Command}
    {time : Moment} {utility : Utility} {outcome : Outcome} {random : RandomSource}
    (known : builtinUtilities.get? command.name = some utility)
    (hr : utility.handler (s.invocation host command) (s.surroundings host time) s.random =
      (.ok outcome, random)) :
    s.dispatch host command time = (outcome, random) := by
  have handler : host.handlers.get? command.name = some utility.handler :=
    builtin ▸ builtinHandlers_of_utility known
  exact dispatch_of_ok handler hr

theorem dispatch_cd (builtin : host.handlers = builtinHandlers) {command : Command}
    {time : Moment} (hn : command.name = "cd") :
    (s.dispatch host command time).1 = movedTo (cd (s.invocation host command)) := by
  have known : builtinUtilities.get? command.name = some (.moving cd) :=
    hn ▸ (builtinUtilities_of_lookup rfl)
  rw [dispatch_of_utility builtin known rfl]

/-- Going to a directory succeeds if it is one of the disk, and names none otherwise. -/
theorem movedTo_cd_cases (i : Invocation) :
    (movedTo (cd i) = ⟨"", 0, some (i.resolve (i.command.arg 0))⟩ ∧
      i.disk.isDirectory (i.resolve (i.command.arg 0)) = true) ∨
    (movedTo (cd i)).exitCode = 1 ∧ (movedTo (cd i)).directory = none ∧
      i.disk.isDirectory (i.resolve (i.command.arg 0)) = false := by
  by_cases h : i.disk.isDirectory (i.resolve (i.command.arg 0)) = true
  · exact .inl ⟨by simp [cd, h, movedTo], h⟩
  · exact .inr (by simp [cd, h, movedTo])

/-- A record with a built-in command leads to where the session is after it. -/
theorem finish_destination (builtin : host.handlers = builtinHandlers) (p : Pending) :
    (s.finish host p).2.directory =
      (s.finish host p).1.destination host.settings.home := by
  have hp : Command.parse (s.finish host p).1.line = Command.parse p.line := by
    rw [finish_record]
    exact Command.parse_parse_raw p.line
  rw [Record.destination, hp, finish_directory, finish_record_directory]
  by_cases hn : (Command.parse p.line).name = "cd"
  · have hd : (s.dispatch host (Command.parse p.line) p.time).1 =
        movedTo (cd (s.invocation host (Command.parse p.line))) := dispatch_cd builtin hn
    have hc : (s.finish host p).1.exitCode =
        (movedTo (cd (s.invocation host (Command.parse p.line)))).exitCode := by
      rw [finish_record, hd]
    rw [hd, hc]
    rcases movedTo_cd_cases (s.invocation host (Command.parse p.line)) with
      ⟨moved, known⟩ | ⟨failed, stays, _⟩
    · rw [moved, if_pos ⟨hn, rfl⟩, directoryAfter_of_known rfl known]
      rfl
    · rw [directoryAfter_of_none stays, failed, if_neg (by simp)]
  · rw [directoryAfter_of_none (dispatch_directory_of_not_cd builtin hn), if_neg (by simp [hn])]

theorem Traced.of_same (h : s.Traced home) (hd : t.directory = s.directory)
    (hh : t.history = s.history) : t.Traced home := by
  refine ⟨?_, ?_⟩
  · rw [hh]
    exact h.chain
  · rw [hh, hd]
    exact h.last

theorem Traced.of_no_history (h : s.history = []) : s.Traced home := by
  refine ⟨?_, ?_⟩
  · rw [h]
    exact List.IsChain.nil
  · simp [h]

theorem Traced.finish (builtin : host.handlers = builtinHandlers) (p : Pending)
    (h : s.Traced host.settings.home) : (s.finish host p).2.Traced host.settings.home := by
  refine ⟨?_, ?_⟩
  · rw [finish_history]
    apply List.isChain_append.mpr
    refine ⟨h.chain, List.isChain_singleton _, ?_⟩
    intro r hr next hn
    have he : next = (s.finish host p).1 := by simpa using hn.symm
    rw [he]
    exact h.last r hr
  · intro r hr
    have he : r = (s.finish host p).1 := by simpa [finish_history] using hr.symm
    rw [he]
    exact finish_destination builtin p

end Session

namespace Scene

variable {host : Host} {x y : Scene}

theorem Step.keeps_traced (builtin : host.handlers = builtinHandlers) {new : List Event}
    (h : Step host x new y) (hx : x.session.Traced host.settings.home) :
    y.session.Traced host.settings.home := by
  cases h with
  | begin line hb => exact hx.of_same (Session.begin_keeps hb).1 (Session.begin_keeps hb).2
  | refuse line hb => exact hx.of_same (Session.begin_keeps hb).1 (Session.begin_keeps hb).2
  | finish => exact hx.finish builtin _
  | clear => exact .of_no_history rfl
  | escape | setTime | setExecuting | setRunning => exact hx.of_same rfl rfl

/-- With the built-in commands the records of a session trace its directory, whatever was done with
it and at every moment of that. -/
theorem history_traces_directory (host : Host) (builtin : host.handlers = builtinHandlers)
    (random : RandomSource) (now : Moment) :
    (∀ events x, Run host ⟨.start host random now, []⟩ events x →
      x.session.Traced host.settings.home) ∧
    ∀ operations : List Operation,
      ((Session.start host random now).performAll host operations).2.Traced
        host.settings.home := by
  have runs : ∀ events x, Run host ⟨.start host random now, []⟩ events x →
      x.session.Traced host.settings.home := by
    intro events x run
    exact run.keeps (P := fun x => x.session.Traced host.settings.home)
      (fun _ _ _ step => step.keeps_traced builtin) (.of_no_history rfl)
  refine ⟨runs, ?_⟩
  intro operations
  have follows : Follows host (.start host random now) _ :=
    follows_performAll operations (.start host random now)
  obtain ⟨events, run⟩ := follows []
  exact runs events _ run

/-- One line was carried out while another waits. -/
def excursion : Scene :=
  let first := Session.outset.pending "cd projects"
  let second := (Session.outset.begun usualShell).pending "cd /var"
  ⟨(((Session.outset.begun usualShell).begun usualShell).finish usualShell second).2, [first]⟩

theorem excursion_traces_directory :
    usualShell.handlers = builtinHandlers ∧
    excursion.session.Traced usualShell.settings.home ∧
    (Session.outset.performAll usualShell
      [.submit "cd projects" [.execute "cd /var" []], .run "cd .." []]).2.Traced
        usualShell.settings.home ∧
    (Session.outset.performAll usualShell
      [.submit "cd projects" [.execute "cd /var" []], .run "cd .." []]).2.history.map
        Record.directory = ["/home/user", "/var", "/var"] := by
  obtain ⟨runs, performs⟩ := history_traces_directory usualShell rfl (.cycling [0.5])
    ⟨2024, 1, 20, 10, 30, 15, 123456⟩
  have first : Step usualShell ⟨Session.outset, []⟩ [] _ :=
    .begin "cd projects" (Session.begin_of_timestamp (by decide))
  have second : Step usualShell
      ⟨Session.outset.begun usualShell, [Session.outset.pending "cd projects"]⟩ [] _ :=
    .begin "cd /var" (Session.begin_of_timestamp (by decide))
  have third : Step usualShell _ _ excursion :=
    .finish (Session.uncaught_of_shell _ _)
  have run : Run usualShell ⟨Session.outset, []⟩ _ excursion := ((first.run.next second).next third)
  exact ⟨rfl, runs _ _ run, performs _, by decide⟩

end Scene

end EmulatedShell
