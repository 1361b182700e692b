import EmulatedShell.Proofs.Session.Operation

namespace EmulatedShell

namespace Operation

/-- An operation that heeds the command line that is being carried out: it does not carry out
another at once, and it does not write the mark. -/
def isHeedful : Operation → Bool
  | .execute _ _ => false
  | .setExecuting _ => false
  | _ => true

def isClear : Operation → Bool
  | .clear => true
  | _ => false

/-- What a heedful operation leaves of a session in which a command line is being carried out, with
the time on the clock afterwards, and whether a conversation is under way then. -/
def leaves (now : Moment) (running : Bool) : Operation → Session → Session
  | .clear, s => { s.clear with now, running }
  | _, s => { s with now, running }

end Operation

namespace Session

/-- Sessions that differ at most in their records, in the time on the clock and in whether a
conversation is under way. -/
structure Undisturbed (s t : Session) : Prop where
  directory_eq : t.directory = s.directory
  executing_eq : t.executing = s.executing
  issued_eq : t.issued = s.issued
  random_eq : t.random = s.random
  slept_eq : t.slept = s.slept

variable {host : Host} {s t u : Session}

theorem sleptSince_self (s : Session) : sleptSince s s = [] := by simp [sleptSince]

/-- While a command line is being carried out, a submission comes to nothing. -/
theorem submitAmid_of_executing {α : Type} {meanwhile : Session → List α × Session}
    (h : s.executing = true) (line : String) :
    s.submitAmid host line meanwhile = (.ok none, [], s) :=
  submitAmid_of_ignored (consider_of_executing h)

theorem submit_of_executing (h : s.executing = true) (line : String) :
    (s.submit host line).2 = s := by
  rw [submit_session, submitAmid_of_executing h]

theorem respond_of_executing (h : s.executing = true) (input : ConsoleInput) :
    ∃ now, (s.respond host input).2 = { s with now } := by
  cases input with
  | interrupt => exact ⟨s.now, rfl⟩
  | line text now =>
    rw [respond_line_session]
    split
    · exact ⟨s.now, rfl⟩
    · have awake : (s.withClock now).executing = true := h
      exact ⟨now.getD s.now, submit_of_executing awake text⟩

theorem dialogue_of_executing (h : s.executing = true) (inputs : List ConsoleInput) :
    ∃ now, (s.dialogue host inputs).2 = { s with now } := by
  induction inputs generalizing s with
  | nil =>
    rw [dialogue]
    split <;> exact ⟨s.now, rfl⟩
  | cons input rest ih =>
    obtain ⟨now, hr⟩ := @respond_of_executing host s h input
    rcases dialogue_cons_session host s input rest with hd | hd | hd
    · exact ⟨s.now, hd⟩
    · exact ⟨now, hd.trans hr⟩
    · obtain ⟨later, hl⟩ := @ih { s with now } h
      rw [hr] at hd
      exact ⟨later, hd.trans hl⟩

theorem converse_of_executing (h : s.executing = true) (inputs : List ConsoleInput) :
    ∃ now running, (s.converse host inputs).2 = { s with now, running } := by
  obtain ⟨running, after⟩ := converse_session host s inputs
  have awake : ({ s with running := true }).executing = true := h
  obtain ⟨now, said⟩ := @dialogue_of_executing host _ awake inputs
  exact ⟨now, running, by rw [after, said]⟩

theorem perform_suggest_of_executing (h : s.executing = true) (typed : String) :
    s.perform host (.suggest typed) = (.text none, s) := by
  rw [perform, suggest]
  simp [h]

theorem perform_of_executing (h : s.executing = true) {operation : Operation}
    (heedful : operation.isHeedful = true) :
    ∃ now running, (s.perform host operation).2 = operation.leaves now running s := by
  cases operation with
  | submit line during =>
    rw [perform_submit, submitAmid_of_executing h]
    exact ⟨s.now, s.running, rfl⟩
  | run line during =>
    rw [perform_run, submitAmid_of_executing h]
    exact ⟨s.now, s.running, rfl⟩
  | execute line during => simp [Operation.isHeedful] at heedful
  | setExecuting value => simp [Operation.isHeedful] at heedful
  | converse inputs =>
    rw [perform_converse]
    exact converse_of_executing h inputs
  | setTime now =>
    rw [perform]
    exact ⟨now, s.running, rfl⟩
  | clear | observe | suggest _ | accept _ | complete _ _ | prompt | setting =>
    rw [perform]
    exact ⟨s.now, s.running, rfl⟩

theorem Undisturbed.refl (s : Session) : Undisturbed s s := ⟨rfl, rfl, rfl, rfl, rfl⟩

theorem Undisturbed.trans (first : Undisturbed s t) (second : Undisturbed t u) :
    Undisturbed s u where
  directory_eq := second.directory_eq.trans first.directory_eq
  executing_eq := second.executing_eq.trans first.executing_eq
  issued_eq := second.issued_eq.trans first.issued_eq
  random_eq := second.random_eq.trans first.random_eq
  slept_eq := second.slept_eq.trans first.slept_eq

theorem leaves_undisturbed (operation : Operation) (now : Moment) (running : Bool) (s : Session) :
    Undisturbed s (operation.leaves now running s) := by
  unfold Operation.leaves
  split <;> exact ⟨rfl, rfl, rfl, rfl, rfl⟩

theorem leaves_history (operation : Operation) (now : Moment) (running : Bool) (s : Session) :
    (operation.leaves now running s).history = if operation.isClear then [] else s.history := by
  cases operation <;> rfl

/-- While a command line is being carried out, heedful operations keep the records unless one of
them clears, and leave the rest alone. -/
theorem performAll_of_executing {operations : List Operation} (h : s.executing = true)
    (heedful : ∀ operation ∈ operations, operation.isHeedful = true) :
    Undisturbed s (s.performAll host operations).2 ∧
    (s.performAll host operations).2.history =
      if operations.any Operation.isClear then [] else s.history := by
  induction operations generalizing s with
  | nil => exact ⟨.refl s, rfl⟩
  | cons operation rest ih =>
    obtain ⟨now, running, left⟩ := @perform_of_executing host s h operation
      (heedful operation List.mem_cons_self)
    have undisturbed : Undisturbed s (operation.leaves now running s) :=
      leaves_undisturbed operation now running s
    obtain ⟨others, history⟩ := ih (undisturbed.executing_eq.trans h)
      fun other hm => heedful other (List.mem_cons_of_mem operation hm)
    rw [performAll_cons, left]
    refine ⟨undisturbed.trans others, ?_⟩
    rw [history, leaves_history, List.any_cons]
    cases operation.isClear <;> cases rest.any Operation.isClear <;> rfl

/-- The session after operations during the delay of a command line. -/
def amid (host : Host) (earlier : List Operation) (s : Session) : Session :=
  ((s.begun host).performAll host earlier).2

/-- While one command line waits, others are not carried out, and it alone is recorded. -/
structure Alone (host : Host) (s : Session) (line : String) (during : List Operation)
    (after : Session) (r : Record) : Prop where
  executing_amid : ∀ earlier later, during = earlier ++ later →
    (s.amid host earlier).executing = true
  submit_amid : ∀ earlier other inner later, during = earlier ++ .submit other inner :: later →
    (s.amid host earlier).perform host (.submit other inner) =
      (.record (.ok none) [] [] (s.amid host earlier).snapshot, s.amid host earlier)
  run_amid : ∀ earlier other inner later, during = earlier ++ .run other inner :: later →
    (s.amid host earlier).perform host (.run other inner) =
      (.output (.ok "") [] [] (s.amid host earlier).snapshot, s.amid host earlier)
  suggest_amid : ∀ earlier typed later, during = earlier ++ .suggest typed :: later →
    (s.amid host earlier).perform host (.suggest typed) = (.text none, s.amid host earlier)
  line_eq : r.line = trim line
  history_eq : after.history = (if during.any Operation.isClear then [] else s.history) ++ [r]
  issued_eq : after.issued = s.issued + 1
  slept_eq : after.slept = (s.begun host).slept
  executing_eq : after.executing = false

variable {line l : String} {during : List Operation}

theorem amid_undisturbed (heedful : ∀ operation ∈ during, operation.isHeedful = true) :
    Undisturbed (s.begun host) (s.amid host during) ∧
    (s.amid host during).history = if during.any Operation.isClear then [] else s.history := by
  have awake : (s.begun host).executing = true := begun_executing
  obtain ⟨undisturbed, history⟩ := performAll_of_executing awake heedful
  rw [begun_history] at history
  exact ⟨undisturbed, history⟩

theorem amid_executing (heedful : ∀ operation ∈ during, operation.isHeedful = true)
    {earlier later : List Operation} (h : during = earlier ++ later) :
    (s.amid host earlier).executing = true := by
  have before : ∀ operation ∈ earlier, operation.isHeedful = true := by
    intro operation hm
    apply heedful
    rw [h]
    exact List.mem_append_left later hm
  exact (amid_undisturbed before).1.executing_eq.trans begun_executing

theorem finish_alone (nonblank : trim line ≠ "")
    (heedful : ∀ operation ∈ during, operation.isHeedful = true) :
    Alone host s line during
      ((s.amid host during).finish host (s.pending (trim line))).2
      ((s.amid host during).finish host (s.pending (trim line))).1 := by
  obtain ⟨undisturbed, history⟩ := @amid_undisturbed host s during heedful
  constructor
  case executing_amid => exact fun _ _ he => amid_executing heedful he
  case submit_amid =>
    intro _ other inner _ he
    rw [perform_submit, submitAmid_of_executing (amid_executing heedful he), sleptSince_self]
  case run_amid =>
    intro _ other inner _ he
    rw [perform_run, submitAmid_of_executing (amid_executing heedful he), sleptSince_self]
    rfl
  case suggest_amid =>
    exact fun _ typed _ he => perform_suggest_of_executing (amid_executing heedful he) typed
  case line_eq =>
    have trimmed : trim (s.pending (trim line)).line = trim line := trim_trim line
    rw [finish_line, trimmed, if_neg nonblank]
  case history_eq => rw [finish_history, history]
  case issued_eq => exact undisturbed.issued_eq.trans begun_issued
  case slept_eq => exact undisturbed.slept_eq
  case executing_eq => rfl

def bustle : List Operation :=
  [.submit "clear" [], .suggest "git", .clear, .run "ls" [.execute "pwd" []], .prompt]

end Session

end EmulatedShell
