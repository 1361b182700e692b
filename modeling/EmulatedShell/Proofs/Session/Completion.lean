import EmulatedShell.Proofs.Session.Operation

namespace EmulatedShell

namespace Session

/-- A command line began in one session, was carried out in another when its delay was over, and
left a record and a third session. -/
structure Completed (host : Host) (line : String) (before awake after : Session) (r : Record) :
    Prop where
  history_eq : after.history = awake.history ++ [r]
  id_eq : r.id = ⟨before.now.milliseconds, before.issued + 1⟩
  line_eq : r.line = if trim line = "" then line else trim line
  time_eq : r.time = before.now
  directory_eq : r.directory = awake.directory
  executing_eq : after.executing = false
  of_unknown : host.handlers.get? (Command.parse line).name = none →
    r.output = notFoundText (Command.parse line).name ∧ r.exitCode = 127
  of_ok : ∀ handler outcome random,
    host.handlers.get? (Command.parse line).name = some handler →
      handler (awake.invocation host (Command.parse line))
        (awake.surroundings host before.now) awake.random = (.ok outcome, random) →
      r.output = outcome.output ∧ r.exitCode = outcome.exitCode
  of_error : ∀ handler fault random,
    host.handlers.get? (Command.parse line).name = some handler →
      handler (awake.invocation host (Command.parse line))
        (awake.surroundings host before.now) awake.random = (.error fault, random) →
      r.output = "Error executing command: " ++ fault.message ∧ r.exitCode = 1

theorem finish_completed (host : Host) (line : String) (before awake : Session) :
    Completed host line before awake (awake.finish host (before.pending line)).2
      (awake.finish host (before.pending line)).1 := by
  constructor
  case history_eq => exact finish_history _
  case id_eq => rfl
  case line_eq => exact finish_line (before.pending line)
  case time_eq => rfl
  case directory_eq => rfl
  case executing_eq => rfl
  case of_unknown =>
    intro unknown
    have h := finish_outcome (s := awake) (p := before.pending line)
      (dispatch_of_unknown unknown)
    exact h
  case of_ok =>
    intro handler outcome random known result
    exact finish_outcome (s := awake) (p := before.pending line) (dispatch_of_ok known result)
  case of_error =>
    intro handler fault random known result
    have h := finish_outcome (s := awake) (p := before.pending line)
      (dispatch_of_error known result)
    exact h

/-- A delay cannot be drawn, or not be waited for. Then a random number may be used up. -/
def CannotWait (host : Host) (random : RandomSource) (fault : Fault)
    (later : RandomSource) : Prop :=
  host.settings.delay.isPositive = true ∧
    (host.settings.delay.draw random = (.error fault, later) ∨
      ∃ seconds, host.settings.delay.draw random = (.ok seconds, later) ∧
        host.sleep seconds = some fault)

variable {host : Host} {s : Session} {fault : Fault}

theorem begun_of_hindrance (hindered : s.hindrance host = some fault) : ∃ later,
    CannotWait host s.random fault later ∧
      s.begun host = { s with executing := true, issued := s.issued + 1, random := later } := by
  unfold hindrance delay at hindered
  unfold begun delay CannotWait
  cases positive : host.settings.delay.isPositive with
  | false => simp [positive] at hindered
  | true =>
    rcases drawn : host.settings.delay.draw s.random with ⟨broken | seconds, later⟩
    · simp only [positive, drawn, ↓reduceIte, Option.some.injEq] at hindered
      subst hindered
      exact ⟨later, ⟨rfl, .inl rfl⟩, by simp⟩
    · cases slept : host.sleep seconds with
      | none => simp [positive, drawn, slept] at hindered
      | some broken =>
        simp only [positive, drawn, slept, ↓reduceIte, Option.some.injEq] at hindered
        subst hindered
        exact ⟨later, ⟨rfl, .inr ⟨seconds, rfl, slept⟩⟩, by simp [slept]⟩

theorem uncaught_raised {command : Command} {time : Moment} {random : RandomSource}
    (escapes : s.uncaught host command time = some (fault, random)) :
    (host.handlers.get? command.name).isSome = true ∧
      host.uncaught (s.invocation host command) (s.surroundings host time) s.random =
        some (fault, random) := by
  unfold uncaught at escapes
  split at escapes
  next => cases escapes
  next known => exact ⟨by rw [known]; rfl, escapes⟩

/-- Carrying out a command line, whatever happens during its delay, makes one record or none. There
is none if the time has no timestamp, which leaves everything as it was, if the delay cannot be
waited for, which takes an identifier and perhaps a random number, or if a handler raises what is
not caught. In a shell there is none at a time without a timestamp only. -/
theorem executeAmid_all_or_nothing {α : Type} (line : String)
    (meanwhile : Session → List α × Session) (s : Session) :
    (∀ host : Host,
      (s.now.hasTimestamp = true ∧ ∃ r answers after,
        s.executeAmid host line meanwhile = (.ok r, answers, after) ∧
        Completed host line s (s.interlude host meanwhile).2 after r) ∨
      (s.now.hasTimestamp = false ∧
        s.executeAmid host line meanwhile =
          (.error .beforeCalendar, [], { s with executing := false })) ∨
      (s.now.hasTimestamp = true ∧ ∃ fault later, CannotWait host s.random fault later ∧
        s.executeAmid host line meanwhile = (.error fault, [],
          { s with executing := false, issued := s.issued + 1, random := later })) ∨
      (s.now.hasTimestamp = true ∧ ∃ awake fault random,
        (s.interlude host meanwhile).2 = awake ∧
        (host.handlers.get? (Command.parse line).name).isSome = true ∧
        host.uncaught (awake.invocation host (Command.parse line))
          (awake.surroundings host s.now) awake.random = some (fault, random) ∧
        s.executeAmid host line meanwhile = (.error fault, (s.interlude host meanwhile).1,
          { awake with executing := false, random }))) ∧
    (∀ shell : Shell,
      (s.now.hasTimestamp = true ∧ ∃ r answers after,
        s.executeAmid shell line meanwhile = (.ok r, answers, after) ∧
        Completed shell line s (s.interlude shell meanwhile).2 after r) ∨
      (s.now.hasTimestamp = false ∧
        s.executeAmid shell line meanwhile =
          (.error .beforeCalendar, [], { s with executing := false }))) := by
  constructor
  · intro host
    rcases executeAmid_cases host line meanwhile s with
      ⟨timely, _, _, carried⟩ | ⟨fault, random, timely, _, escapes, broke⟩ |
        ⟨fault, timely, hindered, broke⟩ | ⟨late, broke⟩
    · exact .inl ⟨timely, _, _, _, carried, finish_completed host line s _⟩
    · obtain ⟨known, raised⟩ := uncaught_raised escapes
      exact .inr (.inr (.inr ⟨timely, _, fault, random, rfl, known, raised, broke⟩))
    · obtain ⟨later, cannot, begun⟩ := begun_of_hindrance hindered
      refine .inr (.inr (.inl ⟨timely, fault, later, cannot, ?_⟩))
      rw [broke, begun]
    · exact .inr (.inl ⟨late, broke⟩)
  · intro shell
    by_cases timely : s.now.hasTimestamp = true
    · exact .inl ⟨timely, _, _, _, executeAmid_of_timestamp timely,
        finish_completed shell line s _⟩
    · have late : s.now.hasTimestamp = false := by simpa using timely
      exact .inr ⟨late, executeAmid_of_no_timestamp late⟩

/-- Delays of more seconds than can be reckoned with. -/
def overlongDelays : Host :=
  { usualShell.toHost with
    settings := { usualSettings with
      delay := ⟨.whole (.ofNat (Nat.pow 10 400)), .whole (.ofNat (Nat.pow 10 400))⟩ } }

/-- Waiting that refuses negative numbers of seconds, and what is no number. -/
def strictSleep (seconds : Float) : Option Fault :=
  if seconds.isNaN then some (.custom "ValueError" "Invalid value NaN (not a number)")
  else if seconds < 0 then some (.custom "ValueError" "sleep length must be non-negative")
  else none

/-- Delays of which some are negative, where these are refused. -/
def backwardDelays : Host :=
  { usualShell.toHost with
    settings := { usualSettings with delay := ⟨.real (-1), .real 0.5⟩ }, sleep := strictSleep }

/-- A command that leaves the program. -/
def leavingHost : Host :=
  { usualShell.toHost with
    handlers := Table.ofList [("leave", fun _ _ random => (.ok ⟨"", 0, none⟩, random))]
    uncaught := fun _ _ random => some (.custom "SystemExit" "0", random) }

/-- At a time with a timestamp there is no record if the delays are too long, if one is refused, or
if the command leaves the program. An identifier is used up all the same. -/
theorem execute_has_exceptions :
    outset.now.hasTimestamp = true ∧ outset.issued = 0 ∧ outset.random.drawn = 0 ∧
    (outset.execute overlongDelays "pwd").1 = .error .numberTooLarge ∧
    (outset.execute overlongDelays "pwd").2.issued = 1 ∧
    (outset.execute backwardDelays "pwd").1 =
      .error (.custom "ValueError" "sleep length must be non-negative") ∧
    (outset.execute backwardDelays "pwd").2.random.drawn = 1 ∧
    (outset.execute leavingHost "leave").1 = .error (.custom "SystemExit" "0") ∧
    (outset.execute leavingHost "leave").2.issued = 1 := by
  decide +kernel

end Session

end EmulatedShell
