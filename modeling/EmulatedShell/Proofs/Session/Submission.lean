import EmulatedShell.Proofs.Session.Execution

namespace EmulatedShell

theorem Command.parse_trim {line : String} (nonblank : trim line ≠ "") :
    parse (trim line) = parse line := by
  have hr : (parse line).raw = trim line := by rw [parse_raw, if_neg nonblank]
  rw [← hr, parse_parse_raw]

namespace Session

variable {α : Type} {host : Host} {shell : Shell} {line l : String} {s : Session}

theorem consider_trim (line : String) : s.consider (trim line) = s.consider line := by
  simp only [consider, trim_trim]

theorem consider_of_idle (idle : s.executing = false) (nonblank : trim line ≠ "")
    (other : trim line ≠ clearingLine) : s.consider line = .accepted (trim line) := by
  simp [consider, idle, nonblank, other]

/-- The blanks at the ends of a line make no difference to its submission. -/
theorem submitAmid_trim (line : String) (meanwhile : Session → List α × Session) :
    s.submitAmid host (trim line) meanwhile = s.submitAmid host line meanwhile := by
  simp only [submitAmid, consider_trim]

theorem executeAmid_trim (nonblank : trim line ≠ "") (meanwhile : Session → List α × Session) :
    s.executeAmid host (trim line) meanwhile = s.executeAmid host line meanwhile := by
  have parsed : Command.parse (trim line) = Command.parse line := Command.parse_trim nonblank
  have finished : ∀ awake : Session,
      awake.finish host (s.pending (trim line)) = awake.finish host (s.pending line) := by
    intro awake
    simp only [finish, pending, parsed]
  have raised : ∀ awake : Session, awake.uncaught host (Command.parse (trim line)) s.now =
      awake.uncaught host (Command.parse line) s.now := by
    intro awake
    rw [parsed]
  rcases executeAmid_cases host line meanwhile s with
    ⟨timely, waits, caught, carried⟩ | ⟨_, _, timely, waits, escapes, broke⟩ |
      ⟨_, timely, hindered, broke⟩ | ⟨late, broke⟩
  · rw [carried, executeAmid_of_caught timely waits ((raised _).trans caught), finished]
  · rw [broke, executeAmid_of_uncaught timely waits ((raised _).trans escapes)]
  · rw [broke, executeAmid_of_hindrance timely hindered]
  · rw [broke, executeAmid_of_no_timestamp late]

/-- A line that is accepted is carried out as if it had not been submitted. -/
theorem submitAmid_of_idle (idle : s.executing = false) (nonblank : trim line ≠ "")
    (other : trim line ≠ clearingLine) (meanwhile : Session → List α × Session) :
    s.submitAmid host line meanwhile =
      ((s.executeAmid host line meanwhile).1.map some,
        (s.executeAmid host line meanwhile).2) := by
  rw [submitAmid_of_accepted (consider_of_idle idle nonblank other), executeAmid_trim nonblank]

theorem submit_of_ignored (h : s.consider line = .ignored) :
    s.submit host line = (.ok none, s) := by
  rw [submit, submitAmid_of_ignored h]

theorem submit_of_clearing (h : s.consider line = .clearing) :
    s.submit host line = (.ok none, s.clear) := by
  rw [submit, submitAmid_of_clearing h]

theorem submit_of_accepted (timely : s.now.hasTimestamp = true)
    (h : s.consider line = .accepted l) : s.submit shell line =
      (.ok (some ((s.begun shell).finish shell (s.pending l)).1),
        ((s.begun shell).finish shell (s.pending l)).2) := by
  simp only [submit, submitAmid_of_accepted h, executeAmid_of_timestamp timely,
    interlude_of_nothing]
  rfl

theorem submit_of_late (late : s.now.hasTimestamp = false) (h : s.consider line = .accepted l) :
    s.submit host line = (.error .beforeCalendar, { s with executing := false }) := by
  rw [submit, submitAmid_of_accepted h, executeAmid_of_no_timestamp late]
  rfl

/-- Whether a conversation is under way makes no difference to a submission. -/
theorem submit_of_running (running : Bool) (line : String) :
    ({ s with running }).submit shell line =
      ((s.submit shell line).1, { (s.submit shell line).2 with running }) := by
  have same : ({ s with running }).consider line = s.consider line := rfl
  cases hc : s.consider line with
  | ignored => rw [submit_of_ignored hc, submit_of_ignored (same.trans hc)]
  | clearing =>
    rw [submit_of_clearing hc, submit_of_clearing (same.trans hc)]
    rfl
  | accepted l =>
    by_cases timely : s.now.hasTimestamp = true
    · have timelyToo : ({ s with running }).now.hasTimestamp = true := timely
      rw [submit_of_accepted timely hc, submit_of_accepted timelyToo (same.trans hc),
        begun_of_running]
      rfl
    · have late : s.now.hasTimestamp = false := by simpa using timely
      have lateToo : ({ s with running }).now.hasTimestamp = false := late
      rw [submit_of_late late hc, submit_of_late lateToo (same.trans hc)]

theorem submit_eq (line : String) : s.submit host line =
    ((s.submitAmid host line fun s => (([] : List α), s)).1,
      (s.submitAmid host line fun s => (([] : List α), s)).2.2) := by
  cases hc : s.consider line with
  | ignored => rw [submit_of_ignored hc, submitAmid_of_ignored hc]
  | clearing => rw [submit_of_clearing hc, submitAmid_of_clearing hc]
  | accepted l =>
    rw [submit, submitAmid_of_accepted hc, submitAmid_of_accepted hc, executeAmid_of_nothing,
      executeAmid_of_nothing]

/-- At a time that has a timestamp a submission does not break off, and the time stays. -/
theorem submit_of_timely (shell : Shell) (timely : s.now.hasTimestamp = true) (line : String) :
    (∃ record, (s.submit shell line).1 = .ok record) ∧ (s.submit shell line).2.now = s.now := by
  cases hc : s.consider line with
  | ignored =>
    rw [submit_of_ignored hc]
    exact ⟨⟨none, rfl⟩, rfl⟩
  | clearing =>
    rw [submit_of_clearing hc]
    exact ⟨⟨none, rfl⟩, rfl⟩
  | accepted l =>
    rw [submit_of_accepted timely hc]
    exact ⟨⟨_, rfl⟩, begun_now⟩

end Session

end EmulatedShell
