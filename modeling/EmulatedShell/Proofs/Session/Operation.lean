import EmulatedShell.Catalogue.Builtin
import EmulatedShell.Proofs.Session.Execution
import EmulatedShell.Session.Operation

namespace EmulatedShell

/-- The shell about which nothing special is said. -/
def usualShell : Shell where
  disk := usualDisk
  handlers := builtinHandlers
  catalogue := builtinCatalogue
  settings := usualSettings
  predictor := usualPredictor
  patient := fun _ _ => ⟨_, _, rfl, rfl⟩
  contained := nothingUncaught_eq

namespace Session

/-- A new session of the usual shell. -/
def outset : Session := .start usualShell (.cycling [0.5]) ⟨2024, 1, 20, 10, 30, 15, 123456⟩

variable (host : Host) (s : Session)

theorem perform_submit (line : String) (during : List Operation) :
    s.perform host (.submit line during) =
      (.record (s.submitAmid host line (performAll host during)).1
        (sleptSince s (s.submitAmid host line (performAll host during)).2.2)
        (s.submitAmid host line (performAll host during)).2.1
        (s.submitAmid host line (performAll host during)).2.2.snapshot,
        (s.submitAmid host line (performAll host during)).2.2) := by
  rw [perform]

theorem perform_run (line : String) (during : List Operation) :
    s.perform host (.run line during) =
      (.output ((s.submitAmid host line (performAll host during)).1.map printed)
        (sleptSince s (s.submitAmid host line (performAll host during)).2.2)
        (s.submitAmid host line (performAll host during)).2.1
        (s.submitAmid host line (performAll host during)).2.2.snapshot,
        (s.submitAmid host line (performAll host during)).2.2) := by
  rw [perform]

/-- A run leaves what a submission leaves. -/
theorem run_session (line : String) (during : List Operation) :
    (s.perform host (.run line during)).2 = (s.perform host (.submit line during)).2 := by
  rw [perform_run, perform_submit]

theorem perform_execute (line : String) (during : List Operation) :
    s.perform host (.execute line during) =
      (.record ((s.executeAmid host line (performAll host during)).1.map some)
        (sleptSince s (s.executeAmid host line (performAll host during)).2.2)
        (s.executeAmid host line (performAll host during)).2.1
        (s.executeAmid host line (performAll host during)).2.2.snapshot,
        (s.executeAmid host line (performAll host during)).2.2) := by
  rw [perform]

theorem perform_converse (inputs : List ConsoleInput) :
    s.perform host (.converse inputs) =
      (.conversation (s.converse host inputs).1 (s.converse host inputs).2.snapshot,
        (s.converse host inputs).2) := by
  rw [perform]

theorem converse_of_ok {inputs : List ConsoleInput} {printed : String} {t : Session}
    (ends : { s with running := true }.dialogue host inputs = (.ok printed, t)) :
    s.converse host inputs =
      (.ok ("Welcome to AI Terminal\n" ++
          "Type 'help' for available commands, Tab to accept a suggestion, 'exit' to quit\n\n" ++
          printed ++ "Goodbye!\n"),
        { t with running := false }) := by
  have greets : greeting = "Welcome to AI Terminal\n" ++
      "Type 'help' for available commands, Tab to accept a suggestion, 'exit' to quit\n\n" := by
    decide
  rw [converse, ends, greets]
  rfl

theorem converse_of_error {inputs : List ConsoleInput} {fault : ConversationFault} {t : Session}
    (breaks : { s with running := true }.dialogue host inputs = (.error fault, t)) :
    s.converse host inputs = (.error fault, t) := by
  rw [converse, breaks]

/-- A conversation leaves what its inputs leave, but for the mark that it is under way. -/
theorem converse_session (inputs : List ConsoleInput) : ∃ running,
    (s.converse host inputs).2 =
      { ({ s with running := true }.dialogue host inputs).2 with running } := by
  rcases hd : { s with running := true }.dialogue host inputs with ⟨fault | printed, t⟩
  · exact ⟨t.running, by rw [converse_of_error host s hd, hd]⟩
  · exact ⟨false, by rw [converse_of_ok host s hd, hd]⟩

theorem performAll_cons (operation : Operation) (rest : List Operation) :
    s.performAll host (operation :: rest) =
      ((s.perform host operation).1 :: ((s.perform host operation).2.performAll host rest).1,
        ((s.perform host operation).2.performAll host rest).2) := by
  rw [performAll]

theorem respond_line_session (text : String) (now : Option Moment) :
    (s.respond host (.line text now)).2 =
      if isFarewell text then s else ((s.withClock now).submit host text).2 := by
  rw [respond]
  split <;> rfl

/-- A conversation stops where it is, or after an input, or goes on. -/
theorem dialogue_cons_session (input : ConsoleInput) (rest : List ConsoleInput) :
    (s.dialogue host (input :: rest)).2 = s ∨
      (s.dialogue host (input :: rest)).2 = (s.respond host input).2 ∨
      (s.dialogue host (input :: rest)).2 = ((s.respond host input).2.dialogue host rest).2 := by
  cases hp : s.prompt host with
  | error fault => exact .inl (by simp only [dialogue, hp])
  | ok prompt =>
    rcases hr : s.respond host input with ⟨result, t⟩
    cases result with
    | error fault => exact .inr (.inl (by simp only [dialogue, hp, hr]))
    | ok answer =>
      cases answer with
      | none => exact .inr (.inl (by simp only [dialogue, hp, hr]))
      | some text =>
        refine .inr (.inr ?_)
        conv => lhs; rw [dialogue]
        simp only [hp, hr]

end Session

end EmulatedShell
