import EmulatedShell.Proofs.Session.Conversation
import EmulatedShell.Proofs.Session.Exclusion
import Mathlib.Data.List.DropRight

namespace EmulatedShell

/-- An operation with which nothing is carried out but what is submitted, and nothing marked,
neither at once nor while a line waits. -/
def Operation.isOrderly : Operation → Bool
  | .submit _ during => during.all Operation.isHeedful
  | .run _ during => during.all Operation.isHeedful
  | .execute _ _ => false
  | .setExecuting _ => false
  | _ => true

/-- What can happen to the records: a line that was accepted gets its own, or all are cleared. -/
inductive RecordChange where
  | added (line : String)
  | cleared
  deriving DecidableEq

namespace RecordChange

def line? : RecordChange → Option String
  | .added line => some line
  | .cleared => none

/-- The lines added since the last clearing. -/
def linesSinceClear (changes : List RecordChange) : List String :=
  (changes.rtakeWhile fun change => change.line?.isSome).filterMap line?

theorem linesSinceClear_added (changes : List RecordChange) (line : String) :
    linesSinceClear (changes ++ [.added line]) = linesSinceClear changes ++ [line] := by
  rw [linesSinceClear, List.rtakeWhile_concat_pos _ _ _ rfl, List.filterMap_append]
  rfl

theorem linesSinceClear_cleared (changes : List RecordChange) :
    linesSinceClear (changes ++ [.cleared]) = [] := by
  rw [linesSinceClear, List.rtakeWhile_concat_neg _ _ _ (by simp [line?])]
  rfl

end RecordChange

namespace Session

open RecordChange (linesSinceClear linesSinceClear_added linesSinceClear_cleared)

/-- What happens to the records while a line waits. -/
def changesAmid (host : Host) (during : List Operation) : List RecordChange :=
  if host.settings.delay.isPositive && during.any Operation.isClear then [.cleared] else []

/-- What a submitted line does to the records. One that is accepted adds its own when its delay is
over, after what was cleared meanwhile. A line that breaks off is not accepted. -/
def submitChanges (host : Host) (line : String) (during : List Operation) (s : Session) :
    List RecordChange :=
  if s.executing || trim line = "" then []
  else if trim line = "clear" then [.cleared]
  else if s.now.hasTimestamp && (s.hindrance host).isNone then
    changesAmid host during ++
      match (s.interlude host (performAll host during)).2.uncaught host (Command.parse line)
        s.now with
      | none => [.added (trim line)]
      | some _ => []
  else []

/-- What an input of a conversation does to the records. -/
def inputChanges (host : Host) (s : Session) : ConsoleInput → List RecordChange
  | .interrupt => []
  | .line text now =>
    if isFarewell text then [] else (s.withClock now).submitChanges host text []

/-- What the inputs of a conversation do to the records, until it ends or breaks off. -/
def dialogueChanges (host : Host) : List ConsoleInput → Session → List RecordChange
  | [], _ => []
  | input :: rest, s =>
    match s.prompt host with
    | .error _ => []
    | .ok _ =>
      s.inputChanges host input ++
        match s.respond host input with
        | (.ok (some _), t) => dialogueChanges host rest t
        | _ => []

/-- What an operation does to the records, if it is an orderly one. -/
def changes (host : Host) : Operation → Session → List RecordChange
  | .submit line during, s => s.submitChanges host line during
  | .run line during, s => s.submitChanges host line during
  | .clear, _ => [.cleared]
  | .converse inputs, s => { s with running := true }.dialogueChanges host inputs
  | _, _ => []

/-- What operations do to the records, one after another. -/
def changesOfAll (host : Host) : List Operation → Session → List RecordChange
  | [], _ => []
  | operation :: rest, s =>
    s.changes host operation ++ (s.perform host operation).2.changesOfAll host rest

/-- The records have the lines added since the last clearing. Each is trimmed, and is neither empty
nor the one that clears. -/
structure Tidy (past : List RecordChange) (s : Session) : Prop where
  lines : s.history.map Record.line = linesSinceClear past
  accepted : ∀ r ∈ s.history, r.line ≠ "" ∧ trim r.line = r.line ∧ r.line ≠ "clear"

variable {host : Host} {s t : Session} {past : List RecordChange} {during : List Operation}

theorem Tidy.of_same (h : Tidy past s) (same : t.history = s.history) : Tidy (past ++ []) t := by
  rw [List.append_nil]
  refine ⟨?_, ?_⟩
  · rw [same]
    exact h.lines
  · rw [same]
    exact h.accepted

theorem Tidy.withClock (h : Tidy past s) (now : Option Moment) : Tidy past (s.withClock now) :=
  ⟨h.lines, h.accepted⟩

theorem Tidy.of_cleared (h : s.history = []) : Tidy (past ++ [.cleared]) s := by
  refine ⟨?_, ?_⟩
  · rw [h, linesSinceClear_cleared]
    rfl
  · simp [h]

theorem Tidy.finish (host : Host) (s : Session) {line : String} (h : Tidy past t)
    (nonblank : trim line ≠ "") (other : trim line ≠ "clear") :
    Tidy (past ++ [.added (trim line)]) (t.finish host (s.pending line)).2 := by
  have hl : (t.finish host (s.pending line)).1.line = trim line := by
    have same : (s.pending line).line = line := rfl
    rw [finish_line, same, if_neg nonblank]
  refine ⟨?_, ?_⟩
  · rw [finish_history, List.map_append, h.lines, List.map_singleton, hl, linesSinceClear_added]
  · intro r hr
    rw [finish_history] at hr
    rcases List.mem_append.mp hr with before | new
    · exact h.accepted r before
    · rw [List.mem_singleton.mp new, hl]
      exact ⟨nonblank, trim_trim line, other⟩

theorem Tidy.interlude (host : Host) (h : Tidy past s)
    (heedful : ∀ operation ∈ during, operation.isHeedful = true) :
    Tidy (past ++ changesAmid host during) (s.interlude host (performAll host during)).2 := by
  have awake : (s.begun host).executing = true := begun_executing
  unfold changesAmid Session.interlude
  cases host.settings.delay.isPositive with
  | false => exact h.of_same begun_history
  | true =>
    obtain ⟨_, history⟩ := @performAll_of_executing host _ _ awake heedful
    rw [begun_history] at history
    cases hc : during.any Operation.isClear with
    | false => simpa [hc] using h.of_same (by simpa [hc] using history)
    | true => simpa [hc] using Tidy.of_cleared (by simpa [hc] using history)

/-- A submission leaves an idle session with tidy records as it is to be. -/
theorem Tidy.submit (host : Host) (idle : s.executing = false) (h : Tidy past s) (line : String)
    (heedful : ∀ operation ∈ during, operation.isHeedful = true) :
    (s.submitAmid host line (performAll host during)).2.2.executing = false ∧
    Tidy (past ++ s.submitChanges host line during)
      (s.submitAmid host line (performAll host during)).2.2 := by
  unfold submitChanges
  by_cases blank : trim line = ""
  · have hc : s.consider line = .ignored := by simp [consider, blank]
    rw [submitAmid_of_ignored hc, if_pos (by simp [blank])]
    exact ⟨idle, h.of_same rfl⟩
  · rw [if_neg (by simp [idle, blank])]
    by_cases clearing : trim line = "clear"
    · have hc : s.consider line = .clearing := by simp [consider, idle, clearing, clearingLine]
      rw [submitAmid_of_clearing hc, if_pos clearing]
      exact ⟨idle, .of_cleared rfl⟩
    · rw [submitAmid_of_idle idle blank clearing, if_neg clearing]
      have waited := h.interlude host heedful
      rcases executeAmid_cases host line (Session.performAll host during) s with
        ⟨timely, waits, caught, carried⟩ | ⟨_, _, timely, waits, escapes, broke⟩ |
          ⟨_, _, hindered, broke⟩ | ⟨late, broke⟩
      · rw [carried, if_pos (by simp [timely, waits]), caught, ← List.append_assoc]
        exact ⟨rfl, waited.finish host s blank clearing⟩
      · rw [broke, if_pos (by simp [timely, waits]), escapes, List.append_nil]
        exact ⟨rfl, waited.lines, waited.accepted⟩
      · rw [broke, if_neg (by simp [hindered])]
        exact ⟨rfl, h.of_same begun_history⟩
      · rw [broke, if_neg (by simp [late])]
        exact ⟨rfl, h.of_same rfl⟩

theorem Tidy.submit_line (host : Host) (idle : s.executing = false) (h : Tidy past s)
    (line : String) :
    (s.submit host line).2.executing = false ∧
    Tidy (past ++ s.submitChanges host line []) (s.submit host line).2 := by
  have quiet : performAll host [] = fun s => (([] : List Answer), s) := by
    funext s
    rw [performAll]
  have heedful : ∀ operation ∈ ([] : List Operation), operation.isHeedful = true := by simp
  obtain ⟨still, tidy⟩ := h.submit host idle line heedful
  rw [quiet, ← congrArg Prod.snd (submit_eq line)] at still tidy
  exact ⟨still, tidy⟩

theorem Tidy.respond (host : Host) (idle : s.executing = false) (h : Tidy past s)
    (input : ConsoleInput) :
    (s.respond host input).2.executing = false ∧
    Tidy (past ++ s.inputChanges host input) (s.respond host input).2 := by
  cases input with
  | interrupt => exact ⟨idle, h.of_same rfl⟩
  | line text now =>
    rw [respond_line_session, inputChanges]
    split
    next => exact ⟨idle, h.of_same rfl⟩
    next =>
      have waits : (s.withClock now).executing = false := idle
      exact (h.withClock now).submit_line host waits text

theorem Tidy.dialogue (host : Host) (idle : s.executing = false) (h : Tidy past s)
    (inputs : List ConsoleInput) :
    (s.dialogue host inputs).2.executing = false ∧
    Tidy (past ++ s.dialogueChanges host inputs) (s.dialogue host inputs).2 := by
  induction inputs generalizing s past with
  | nil =>
    rw [Session.dialogue, dialogueChanges]
    split <;> exact ⟨idle, h.of_same rfl⟩
  | cons input rest ih =>
    rw [Session.dialogue, dialogueChanges]
    cases hp : s.prompt host with
    | error fault => exact ⟨idle, h.of_same rfl⟩
    | ok prompt =>
      obtain ⟨still, tidy⟩ := h.respond host idle input
      rcases hr : s.respond host input with ⟨result, t⟩
      rw [hr] at still tidy
      cases result with
      | error fault => simpa [hr] using ⟨still, tidy⟩
      | ok answer =>
        cases answer with
        | none => simpa [hr] using ⟨still, tidy⟩
        | some text =>
          simp only [hr]
          rw [← List.append_assoc]
          exact ih still tidy

theorem Tidy.converse (host : Host) (idle : s.executing = false) (h : Tidy past s)
    (inputs : List ConsoleInput) :
    (s.converse host inputs).2.executing = false ∧
    Tidy (past ++ { s with running := true }.dialogueChanges host inputs)
      (s.converse host inputs).2 := by
  have underWay : Tidy past { s with running := true } := ⟨h.lines, h.accepted⟩
  have waits : ({ s with running := true }).executing = false := idle
  obtain ⟨still, tidy⟩ := underWay.dialogue host waits inputs
  obtain ⟨running, after⟩ := converse_session host s inputs
  rw [after]
  exact ⟨still, tidy.lines, tidy.accepted⟩

/-- What an orderly operation leaves of an idle session with tidy records. -/
theorem Tidy.perform (host : Host) {operation : Operation} (orderly : operation.isOrderly = true)
    (idle : s.executing = false) (h : Tidy past s) :
    (s.perform host operation).2.executing = false ∧
    Tidy (past ++ s.changes host operation) (s.perform host operation).2 := by
  cases operation with
  | submit line during =>
    simp only [perform_submit, changes]
    exact h.submit host idle line (List.all_eq_true.mp orderly)
  | run line during =>
    simp only [perform_run, changes]
    exact h.submit host idle line (List.all_eq_true.mp orderly)
  | execute line during => simp [Operation.isOrderly] at orderly
  | setExecuting value => simp [Operation.isOrderly] at orderly
  | converse inputs =>
    simp only [perform_converse, changes]
    exact h.converse host idle inputs
  | clear =>
    rw [Session.perform]
    exact ⟨idle, .of_cleared rfl⟩
  | setTime _ | observe | suggest _ | accept _ | complete _ _ | prompt | setting =>
    rw [Session.perform]
    exact ⟨idle, h.of_same rfl⟩

theorem Tidy.performAll (host : Host) {operations : List Operation}
    (orderly : ∀ operation ∈ operations, operation.isOrderly = true)
    (idle : s.executing = false) (h : Tidy past s) :
    (s.performAll host operations).2.executing = false ∧
    Tidy (past ++ s.changesOfAll host operations) (s.performAll host operations).2 := by
  induction operations generalizing s past with
  | nil =>
    rw [Session.performAll]
    exact ⟨idle, h.of_same rfl⟩
  | cons operation rest ih =>
    obtain ⟨still, tidy⟩ := h.perform host (orderly operation List.mem_cons_self) idle
    rw [performAll_cons, changesOfAll, ← List.append_assoc]
    exact ih (fun other hm => orderly other (List.mem_cons_of_mem operation hm)) still tidy

theorem Tidy.start (host : Host) (random : RandomSource) (now : Moment) :
    Tidy [] (Session.start host random now) :=
  ⟨rfl, by simp [Session.start]⟩

/-- The records of a session are those of the lines accepted since the last clearing. Blanks at the
ends of a line do not matter, and a line that is accepted is just carried out. -/
theorem keeps_accepted_lines (host : Host) :
    (∀ (random : RandomSource) (now : Moment) (operations : List Operation),
      (∀ operation ∈ operations, operation.isOrderly = true) →
      ((start host random now).performAll host operations).2.executing = false ∧
      (∀ r ∈ ((start host random now).performAll host operations).2.history,
        r.line ≠ "" ∧ trim r.line = r.line ∧ r.line ≠ "clear") ∧
      ((start host random now).performAll host operations).2.lines =
        linesSinceClear ((start host random now).changesOfAll host operations) ∧
      ((start host random now).performAll host operations).2.history.length =
        (linesSinceClear ((start host random now).changesOfAll host operations)).length) ∧
    (∀ (s : Session) (line : String) (during : List Operation),
      s.perform host (.submit (trim line) during) = s.perform host (.submit line during) ∧
      s.perform host (.run (trim line) during) = s.perform host (.run line during)) ∧
    ∀ (s : Session) (line : String) (during : List Operation),
      s.executing = false → trim line ≠ "" → trim line ≠ "clear" →
      s.perform host (.submit line during) = s.perform host (.execute line during) := by
  refine ⟨?_, ?_, ?_⟩
  · intro random now operations orderly
    have fresh : Tidy [] (start host random now) := .start host random now
    obtain ⟨idle, tidy⟩ := fresh.performAll host orderly rfl
    have counted := congrArg List.length tidy.lines
    rw [List.length_map] at counted
    exact ⟨idle, tidy.accepted, tidy.lines, counted⟩
  · intro s line during
    rw [perform_submit, perform_submit, perform_run, perform_run, submitAmid_trim]
    exact ⟨rfl, rfl⟩
  · intro s line during idle nonblank other
    rw [perform_submit, perform_execute, submitAmid_of_idle idle nonblank other]

def secondThoughts : List Operation :=
  [.run "ls" [], .submit " clear " [], .submit "\u3000pwd\n" [.submit "date" [], .clear],
    .run "cd projects" [.suggest "git"], .observe]

theorem outset_keeps_secondThoughts :
    (∀ operation ∈ secondThoughts, operation.isOrderly = true) ∧
    linesSinceClear (outset.changesOfAll usualShell secondThoughts) = ["pwd", "cd projects"] ∧
    (outset.performAll usualShell secondThoughts).2.lines = ["pwd", "cd projects"] ∧
    outset.perform usualShell (.submit "\u3000pwd\n" []) =
      outset.perform usualShell (.submit "pwd" []) ∧
    outset.perform usualShell (.submit "\u3000pwd\n" []) =
      outset.perform usualShell (.execute "\u3000pwd\n" []) := by
  have orderly : ∀ operation ∈ secondThoughts, operation.isOrderly = true := by decide
  have standing : linesSinceClear (outset.changesOfAll usualShell secondThoughts) =
      ["pwd", "cd projects"] := by decide
  have trimmed : trim "\u3000pwd\n" = "pwd" := by decide
  have same : start usualShell outset.random outset.now = outset := rfl
  obtain ⟨records, blanks, carried⟩ := keeps_accepted_lines usualShell
  refine ⟨orderly, standing, ?_, ?_, ?_⟩
  · obtain ⟨_, _, kept, _⟩ := records outset.random outset.now secondThoughts orderly
    rw [same, standing] at kept
    exact kept
  · rw [← (blanks outset "\u3000pwd\n" []).1, trimmed]
  · apply carried
    · rfl
    · rw [trimmed]
      decide
    · rw [trimmed]
      decide

end Session

end EmulatedShell
