import EmulatedShell.Proofs.Tokens
import EmulatedShell.Session.Submission

namespace EmulatedShell

theorem notFound_directory (name : String) : (notFound name).directory = none := rfl

theorem brokenOff_directory (fault : Fault) : (brokenOff fault).directory = none := rfl

namespace Session

variable {α : Type} {host : Host} {shell : Shell} {line : String} {s : Session}

/-- A command line as it waits for its delay to pass. -/
def pending (line : String) (s : Session) : Pending :=
  ⟨line, ⟨s.now.milliseconds, s.issued + 1⟩, s.now⟩

/-- The session at the start of a delay. -/
def begun (host : Host) (s : Session) : Session :=
  (delay host { s with executing := true, issued := s.issued + 1 }).2

/-- The fault with which the delay of a command line breaks off, if it does. -/
def hindrance (host : Host) (s : Session) : Option Fault :=
  (delay host { s with executing := true, issued := s.issued + 1 }).1

/-- What comes of a delay, and the session at its end. -/
def interlude (host : Host) (meanwhile : Session → List α × Session) (s : Session) :
    List α × Session :=
  if host.settings.delay.isPositive then meanwhile (s.begun host) else ([], s.begun host)

/-- A delay changes the random numbers and the delays that were waited for at most. -/
theorem delay_eq (host : Host) (s : Session) : ∃ random slept,
    (delay host s).2 = { s with random, slept } := by
  unfold delay
  split
  · split
    · exact ⟨_, _, rfl⟩
    · split <;> exact ⟨_, _, rfl⟩
  · exact ⟨_, _, rfl⟩

theorem begun_eq (host : Host) (s : Session) : ∃ random slept,
    s.begun host = { s with executing := true, issued := s.issued + 1, random, slept } :=
  delay_eq host { s with executing := true, issued := s.issued + 1 }

@[simp]
theorem begun_directory : (s.begun host).directory = s.directory := by
  obtain ⟨_, _, begun⟩ := begun_eq host s
  rw [begun]

@[simp]
theorem begun_history : (s.begun host).history = s.history := by
  obtain ⟨_, _, begun⟩ := begun_eq host s
  rw [begun]

@[simp]
theorem begun_executing : (s.begun host).executing = true := by
  obtain ⟨_, _, begun⟩ := begun_eq host s
  rw [begun]

@[simp]
theorem begun_running : (s.begun host).running = s.running := by
  obtain ⟨_, _, begun⟩ := begun_eq host s
  rw [begun]

@[simp]
theorem begun_issued : (s.begun host).issued = s.issued + 1 := by
  obtain ⟨_, _, begun⟩ := begun_eq host s
  rw [begun]

@[simp]
theorem begun_now : (s.begun host).now = s.now := by
  obtain ⟨_, _, begun⟩ := begun_eq host s
  rw [begun]

/-- Whether a conversation is under way makes no difference to a delay. -/
theorem delay_of_running (host : Host) (running : Bool) (s : Session) :
    delay host { s with running } =
      ((delay host s).1, { (delay host s).2 with running }) := by
  unfold delay
  cases host.settings.delay.isPositive with
  | false => rfl
  | true =>
    simp only [if_true]
    rcases host.settings.delay.draw s.random with ⟨_ | seconds, random⟩
    · rfl
    · dsimp only
      cases host.sleep seconds <;> rfl

theorem begun_of_running (running : Bool) :
    ({ s with running }).begun host = { s.begun host with running } := by
  have same := delay_of_running host running { s with executing := true, issued := s.issued + 1 }
  exact congrArg Prod.snd same

theorem interlude_of_nothing :
    (s.interlude host fun s => (([] : List α), s)).2 = s.begun host := by
  unfold interlude
  split <;> rfl

/-- A shell waits for every delay. -/
@[simp]
theorem hindrance_of_shell : s.hindrance shell = none := by
  unfold hindrance delay
  split
  next positive =>
    obtain ⟨seconds, later, drawn, slept⟩ := shell.patient positive s.random
    simp only [drawn, slept]
  next => rfl

/-- A shell catches the faults of all its commands. -/
@[simp]
theorem uncaught_of_shell (command : Command) (time : Moment) :
    s.uncaught shell command time = none := by
  unfold uncaught
  split
  · rfl
  · exact shell.contained _ _ _

theorem begin_of_no_hindrance (timely : s.now.hasTimestamp = true)
    (waits : s.hindrance host = none) :
    s.begin host line = (.ok (s.pending line), s.begun host) := by
  unfold hindrance at waits
  unfold begin begun
  rw [if_pos timely]
  rcases hd : delay host { s with executing := true, issued := s.issued + 1 } with ⟨_ | fault, t⟩
  · rfl
  · rw [hd] at waits
    cases waits

theorem begin_of_hindrance {fault : Fault} (timely : s.now.hasTimestamp = true)
    (hindered : s.hindrance host = some fault) :
    s.begin host line = (.error fault, { s.begun host with executing := false }) := by
  unfold hindrance at hindered
  unfold begin begun
  rw [if_pos timely]
  rcases hd : delay host { s with executing := true, issued := s.issued + 1 } with ⟨_ | other, t⟩
  · rw [hd] at hindered
    cases hindered
  · rw [hd] at hindered
    cases hindered
    rfl

theorem begin_of_timestamp (h : s.now.hasTimestamp = true) :
    s.begin shell line = (.ok (s.pending line), s.begun shell) :=
  begin_of_no_hindrance h hindrance_of_shell

theorem begin_of_no_timestamp (h : s.now.hasTimestamp = false) :
    s.begin host line = (.error .beforeCalendar, { s with executing := false }) := by
  simp [begin, h]

/-- The ways in which the beginning of a command line can go. -/
theorem begin_cases (host : Host) (line : String) (s : Session) :
    (s.now.hasTimestamp = true ∧ s.hindrance host = none ∧
      s.begin host line = (.ok (s.pending line), s.begun host)) ∨
    (∃ fault, s.now.hasTimestamp = true ∧ s.hindrance host = some fault ∧
      s.begin host line = (.error fault, { s.begun host with executing := false })) ∨
    (s.now.hasTimestamp = false ∧
      s.begin host line = (.error .beforeCalendar, { s with executing := false })) := by
  by_cases timely : s.now.hasTimestamp = true
  · cases hindered : s.hindrance host with
    | none => exact .inl ⟨timely, rfl, begin_of_no_hindrance timely hindered⟩
    | some fault => exact .inr (.inl ⟨fault, timely, rfl, begin_of_hindrance timely hindered⟩)
  · have late : s.now.hasTimestamp = false := by simpa using timely
    exact .inr (.inr ⟨late, begin_of_no_timestamp late⟩)

/-- A command line that begins leaves the directory and the records alone. -/
theorem begin_keeps {result : Except Fault Pending} {t : Session}
    (h : s.begin host line = (result, t)) :
    t.directory = s.directory ∧ t.history = s.history := by
  rcases begin_cases host line s with ⟨_, _, begins⟩ | ⟨_, _, _, begins⟩ | ⟨_, begins⟩
  · cases begins.symm.trans h
    exact ⟨begun_directory, begun_history⟩
  · cases begins.symm.trans h
    exact ⟨begun_directory, begun_history⟩
  · cases begins.symm.trans h
    exact ⟨rfl, rfl⟩

theorem dispatch_of_unknown {command : Command} {time : Moment}
    (h : host.handlers.get? command.name = none) :
    s.dispatch host command time = (notFound command.name, s.random) := by
  simp [dispatch, h]

theorem dispatch_of_ok {command : Command} {time : Moment} {handler : Handler}
    {outcome : Outcome} {random : RandomSource}
    (h : host.handlers.get? command.name = some handler)
    (hr : handler (s.invocation host command) (s.surroundings host time) s.random =
      (.ok outcome, random)) :
    s.dispatch host command time = (outcome, random) := by
  simp [dispatch, h, hr]

theorem dispatch_of_error {command : Command} {time : Moment} {handler : Handler}
    {fault : Fault} {random : RandomSource}
    (h : host.handlers.get? command.name = some handler)
    (hr : handler (s.invocation host command) (s.surroundings host time) s.random =
      (.error fault, random)) :
    s.dispatch host command time = (brokenOff fault, random) := by
  simp [dispatch, h, hr]

/-- An outcome that names a directory was returned by a handler. -/
theorem dispatch_names_directory {command : Command} {time : Moment} {d : String}
    (h : (s.dispatch host command time).1.directory = some d) :
    ∃ handler outcome random, host.handlers.get? command.name = some handler ∧
      handler (s.invocation host command) (s.surroundings host time) s.random =
        (.ok outcome, random) ∧ outcome.directory = some d := by
  cases hh : host.handlers.get? command.name with
  | none =>
    rw [dispatch_of_unknown hh, notFound_directory] at h
    cases h
  | some handler =>
    rcases hr : handler (s.invocation host command) (s.surroundings host time) s.random with
      ⟨result, random⟩
    cases result with
    | error fault =>
      rw [dispatch_of_error hh hr, brokenOff_directory] at h
      cases h
    | ok outcome =>
      rw [dispatch_of_ok hh hr] at h
      exact ⟨handler, outcome, random, rfl, hr, h⟩

theorem directoryAfter_of_none {outcome : Outcome} (h : outcome.directory = none) :
    s.directoryAfter host outcome = s.directory := by
  simp [directoryAfter, h]

theorem directoryAfter_of_known {outcome : Outcome} {d : String} (h : outcome.directory = some d)
    (hd : host.disk.isDirectory d = true) : s.directoryAfter host outcome = d := by
  simp [directoryAfter, h, Option.filter, hd]

/-- The directory after an outcome is the current one, or one of the disk that it names. -/
theorem directoryAfter_cases (outcome : Outcome) :
    s.directoryAfter host outcome = s.directory ∨
      outcome.directory = some (s.directoryAfter host outcome) ∧
        host.disk.isDirectory (s.directoryAfter host outcome) = true := by
  cases hd : outcome.directory with
  | none => exact .inl (directoryAfter_of_none hd)
  | some d =>
    by_cases hk : host.disk.isDirectory d = true
    · have he : s.directoryAfter host outcome = d := directoryAfter_of_known hd hk
      exact .inr ⟨congrArg some he.symm, he ▸ hk⟩
    · exact .inl (by simp [directoryAfter, hd, Option.filter, hk])

theorem finish_directory (p : Pending) : (s.finish host p).2.directory =
    s.directoryAfter host (s.dispatch host (Command.parse p.line) p.time).1 := rfl

theorem finish_history (p : Pending) :
    (s.finish host p).2.history = s.history ++ [(s.finish host p).1] := rfl

theorem finish_record (p : Pending) : (s.finish host p).1 =
    ⟨p.id, (Command.parse p.line).raw,
      (s.dispatch host (Command.parse p.line) p.time).1.output, p.time,
      (s.dispatch host (Command.parse p.line) p.time).1.exitCode, s.directory⟩ := rfl

theorem finish_record_directory (p : Pending) : (s.finish host p).1.directory = s.directory :=
  congrArg Record.directory (finish_record p)

theorem finish_line (p : Pending) :
    (s.finish host p).1.line = if trim p.line = "" then p.line else trim p.line :=
  (congrArg Record.line (finish_record p)).trans (Command.parse_raw p.line)

theorem finish_outcome {p : Pending} {outcome : Outcome} {random : RandomSource}
    (h : s.dispatch host (Command.parse p.line) p.time = (outcome, random)) :
    (s.finish host p).1.output = outcome.output ∧
      (s.finish host p).1.exitCode = outcome.exitCode := by
  rw [finish_record, h]
  exact ⟨rfl, rfl⟩

/-- A command line that has waited is carried out if no fault of it goes uncaught. -/
theorem executeAmid_of_caught {meanwhile : Session → List α × Session}
    (timely : s.now.hasTimestamp = true) (waits : s.hindrance host = none)
    (caught : (s.interlude host meanwhile).2.uncaught host (Command.parse line) s.now = none) :
    s.executeAmid host line meanwhile =
      (.ok ((s.interlude host meanwhile).2.finish host (s.pending line)).1,
        (s.interlude host meanwhile).1,
        ((s.interlude host meanwhile).2.finish host (s.pending line)).2) := by
  unfold interlude at caught ⊢
  simp only [executeAmid, begin_of_no_hindrance timely waits, pending, caught]

/-- A command line with a fault that is not caught leaves the session as its delay left it, but for
the random numbers. -/
theorem executeAmid_of_uncaught {meanwhile : Session → List α × Session} {fault : Fault}
    {random : RandomSource} (timely : s.now.hasTimestamp = true)
    (waits : s.hindrance host = none)
    (escapes : (s.interlude host meanwhile).2.uncaught host (Command.parse line) s.now =
      some (fault, random)) :
    s.executeAmid host line meanwhile =
      (.error fault, (s.interlude host meanwhile).1,
        { (s.interlude host meanwhile).2 with executing := false, random }) := by
  unfold interlude at escapes ⊢
  simp only [executeAmid, begin_of_no_hindrance timely waits, pending, escapes]

theorem executeAmid_of_hindrance {meanwhile : Session → List α × Session} {fault : Fault}
    (timely : s.now.hasTimestamp = true) (hindered : s.hindrance host = some fault) :
    s.executeAmid host line meanwhile =
      (.error fault, [], { s.begun host with executing := false }) := by
  simp only [executeAmid, begin_of_hindrance timely hindered]

theorem executeAmid_of_no_timestamp {meanwhile : Session → List α × Session}
    (h : s.now.hasTimestamp = false) : s.executeAmid host line meanwhile =
      (.error .beforeCalendar, [], { s with executing := false }) := by
  simp only [executeAmid, begin_of_no_timestamp h]

/-- The ways in which carrying out a command line can go. -/
theorem executeAmid_cases (host : Host) (line : String) (meanwhile : Session → List α × Session)
    (s : Session) :
    (s.now.hasTimestamp = true ∧ s.hindrance host = none ∧
      (s.interlude host meanwhile).2.uncaught host (Command.parse line) s.now = none ∧
      s.executeAmid host line meanwhile =
        (.ok ((s.interlude host meanwhile).2.finish host (s.pending line)).1,
          (s.interlude host meanwhile).1,
          ((s.interlude host meanwhile).2.finish host (s.pending line)).2)) ∨
    (∃ fault random, s.now.hasTimestamp = true ∧ s.hindrance host = none ∧
      (s.interlude host meanwhile).2.uncaught host (Command.parse line) s.now =
        some (fault, random) ∧
      s.executeAmid host line meanwhile = (.error fault, (s.interlude host meanwhile).1,
        { (s.interlude host meanwhile).2 with executing := false, random })) ∨
    (∃ fault, s.now.hasTimestamp = true ∧ s.hindrance host = some fault ∧
      s.executeAmid host line meanwhile =
        (.error fault, [], { s.begun host with executing := false })) ∨
    (s.now.hasTimestamp = false ∧ s.executeAmid host line meanwhile =
      (.error .beforeCalendar, [], { s with executing := false })) := by
  rcases begin_cases host line s with ⟨timely, waits, _⟩ | ⟨fault, timely, hindered, _⟩ | ⟨late, _⟩
  · rcases escapes : (s.interlude host meanwhile).2.uncaught host (Command.parse line) s.now with
      _ | ⟨fault, random⟩
    · exact .inl ⟨timely, waits, rfl, executeAmid_of_caught timely waits escapes⟩
    · exact .inr (.inl ⟨fault, random, timely, waits, rfl,
        executeAmid_of_uncaught timely waits escapes⟩)
  · exact .inr (.inr (.inl ⟨fault, timely, hindered, executeAmid_of_hindrance timely hindered⟩))
  · exact .inr (.inr (.inr ⟨late, executeAmid_of_no_timestamp late⟩))

/-- A command line that leaves a record is carried out when its delay is over. -/
theorem finish_of_executeAmid {meanwhile : Session → List α × Session} {r : Record}
    {answers : List α} {after : Session}
    (h : s.executeAmid host line meanwhile = (.ok r, answers, after)) :
    s.now.hasTimestamp = true ∧
      (s.interlude host meanwhile).2.finish host (s.pending line) = (r, after) := by
  rcases executeAmid_cases host line meanwhile s with
    ⟨timely, _, _, carried⟩ | ⟨_, _, _, _, _, broke⟩ | ⟨_, _, _, broke⟩ | ⟨_, broke⟩
  · cases carried.symm.trans h
    exact ⟨timely, rfl⟩
  all_goals cases (Prod.mk.inj (broke.symm.trans h)).1

/-- Nothing in between is nothing of any kind. -/
theorem executeAmid_of_nothing (line : String) :
    s.executeAmid host line (fun s => (([] : List α), s)) =
      ((s.execute host line).1, [], (s.execute host line).2) := by
  unfold execute executeAmid
  rcases s.begin host line with ⟨_ | pending, t⟩
  · rfl
  · simp only [ite_self]
    cases t.uncaught host (Command.parse pending.line) pending.time <;> rfl

/-- In a shell a command line whose time has a timestamp is carried out when its delay is over. -/
theorem executeAmid_of_timestamp {meanwhile : Session → List α × Session}
    (h : s.now.hasTimestamp = true) : s.executeAmid shell line meanwhile =
      (.ok ((s.interlude shell meanwhile).2.finish shell (s.pending line)).1,
        (s.interlude shell meanwhile).1,
        ((s.interlude shell meanwhile).2.finish shell (s.pending line)).2) :=
  executeAmid_of_caught h hindrance_of_shell (uncaught_of_shell _ _)

theorem consider_of_executing (h : s.executing = true) : s.consider line = .ignored := by
  simp [consider, h]

theorem consider_eq_accepted {l : String} (h : s.consider line = .accepted l) :
    trim line ≠ "" ∧ s.executing = false ∧ trim line ≠ clearingLine ∧ l = trim line := by
  unfold consider at h
  split at h
  next => simp at h
  next hb =>
    split at h
    next => simp at h
    next hc =>
      simp only [Bool.or_eq_true, decide_eq_true_eq, not_or, Bool.not_eq_true] at hb
      exact ⟨hb.1, hb.2, hc, (Submission.accepted.inj h).symm⟩

theorem submitAmid_of_ignored {meanwhile : Session → List α × Session}
    (h : s.consider line = .ignored) : s.submitAmid host line meanwhile = (.ok none, [], s) := by
  simp only [submitAmid, h]

theorem submitAmid_of_clearing {meanwhile : Session → List α × Session}
    (h : s.consider line = .clearing) :
    s.submitAmid host line meanwhile = (.ok none, [], s.clear) := by
  simp only [submitAmid, h]

theorem submitAmid_of_accepted {l : String} {meanwhile : Session → List α × Session}
    (h : s.consider line = .accepted l) : s.submitAmid host line meanwhile =
      ((s.executeAmid host l meanwhile).1.map some, (s.executeAmid host l meanwhile).2) := by
  simp only [submitAmid, h]

theorem submit_session : (s.submit host line).2 =
    (s.submitAmid host line fun s => (([] : List Unit), s)).2.2 := by
  rw [submit]

end Session

end EmulatedShell
