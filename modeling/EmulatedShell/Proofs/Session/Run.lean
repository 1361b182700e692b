import EmulatedShell.Proofs.Session.Operation

namespace EmulatedShell

/-- A session with the command lines whose delay has not passed, the latest one first. -/
structure Scene where
  session : Session
  waiting : List Pending

namespace Scene

/-- What the records of a session take notice of. -/
inductive Event where
  | recorded (r : Record)
  | cleared
  deriving DecidableEq

/-- What happens to a scene in one go, and the events in it. -/
inductive Step (host : Host) : Scene → List Event → Scene → Prop
  | begin {s t : Session} {p : Pending} {waiting : List Pending} (line : String) :
      s.begin host line = (.ok p, t) → Step host ⟨s, waiting⟩ [] ⟨t, p :: waiting⟩
  | refuse {s t : Session} {fault : Fault} {waiting : List Pending} (line : String) :
      s.begin host line = (.error fault, t) → Step host ⟨s, waiting⟩ [] ⟨t, waiting⟩
  | finish {s : Session} {p : Pending} {waiting : List Pending} :
      s.uncaught host (Command.parse p.line) p.time = none →
      Step host ⟨s, p :: waiting⟩ [.recorded (s.finish host p).1] ⟨(s.finish host p).2, waiting⟩
  | escape {s : Session} {p : Pending} {waiting : List Pending} {fault : Fault}
      {random : RandomSource} :
      s.uncaught host (Command.parse p.line) p.time = some (fault, random) →
      Step host ⟨s, p :: waiting⟩ [] ⟨{ s with executing := false, random }, waiting⟩
  | clear {s : Session} {waiting : List Pending} :
      Step host ⟨s, waiting⟩ [.cleared] ⟨s.clear, waiting⟩
  | setTime {s : Session} {waiting : List Pending} (now : Moment) :
      Step host ⟨s, waiting⟩ [] ⟨{ s with now }, waiting⟩
  | setExecuting {s : Session} {waiting : List Pending} (value : Bool) :
      Step host ⟨s, waiting⟩ [] ⟨{ s with executing := value }, waiting⟩
  | setRunning {s : Session} {waiting : List Pending} (value : Bool) :
      Step host ⟨s, waiting⟩ [] ⟨{ s with running := value }, waiting⟩

/-- Any number of steps, one after another, and the events in them. -/
inductive Run (host : Host) (x : Scene) : List Event → Scene → Prop
  | stay : Run host x [] x
  | next {y z : Scene} {events new : List Event} :
      Run host x events y → Step host y new z → Run host x (events ++ new) z

variable {host : Host} {x y z : Scene}

theorem Step.run {new : List Event} (h : Step host x new y) : Run host x new y := by
  have hr : Run host x ([] ++ new) y := .next .stay h
  exact hr

theorem Run.trans {events more : List Event} (first : Run host x events y)
    (second : Run host y more z) : Run host x (events ++ more) z := by
  induction second with
  | stay => simpa using first
  | next _ step ih => simpa [List.append_assoc] using Run.next ih step

/-- What every step keeps, a run keeps. -/
theorem Run.keeps {P : Scene → Prop} {events : List Event} (run : Run host x events y)
    (step : ∀ x new y, Step host x new y → P x → P y) (h : P x) : P y := by
  induction run with
  | stay => exact h
  | next _ last ih => exact step _ _ _ last ih

/-- A change of sessions that is a run, whatever else is waiting. -/
def Follows (host : Host) (s t : Session) : Prop :=
  ∀ waiting, ∃ events, Run host ⟨s, waiting⟩ events ⟨t, waiting⟩

variable {α : Type} {s t u : Session}

theorem Follows.refl (s : Session) : Follows host s s := fun _ => ⟨[], .stay⟩

theorem Follows.trans (first : Follows host s t) (second : Follows host t u) :
    Follows host s u := by
  intro waiting
  obtain ⟨events, hr⟩ := first waiting
  obtain ⟨more, hm⟩ := second waiting
  exact ⟨events ++ more, hr.trans hm⟩

theorem follows_clear (s : Session) : Follows host s s.clear :=
  fun _ => ⟨[.cleared], Step.clear.run⟩

theorem follows_interlude {meanwhile : Session → List α × Session}
    (hm : ∀ s, Follows host s (meanwhile s).2) (s : Session) :
    Follows host (s.begun host) (s.interlude host meanwhile).2 := by
  unfold Session.interlude
  split
  · exact hm _
  · exact Follows.refl _

/-- Carrying out a command line is a run if what happens meanwhile is one. It ends with a record,
with a fault that is not caught, or before the line waits. -/
theorem run_executeAmid {meanwhile : Session → List α × Session} {waiting : List Pending}
    {line : String} {events : List Event}
    (between : Run host ⟨s.begun host, s.pending line :: waiting⟩ events
      ⟨(s.interlude host meanwhile).2, s.pending line :: waiting⟩) :
    (∃ r, (s.executeAmid host line meanwhile).1 = .ok r ∧
      (s.executeAmid host line meanwhile).2.1 = (s.interlude host meanwhile).1 ∧
      Run host ⟨s, waiting⟩ (events ++ [.recorded r])
        ⟨(s.executeAmid host line meanwhile).2.2, waiting⟩) ∨
    (∃ fault, (s.executeAmid host line meanwhile).1 = .error fault ∧
      (s.executeAmid host line meanwhile).2.1 = (s.interlude host meanwhile).1 ∧
      Run host ⟨s, waiting⟩ events ⟨(s.executeAmid host line meanwhile).2.2, waiting⟩) ∨
    ∃ fault, (s.executeAmid host line meanwhile).1 = .error fault ∧
      (s.executeAmid host line meanwhile).2.1 = [] ∧
      Run host ⟨s, waiting⟩ [] ⟨(s.executeAmid host line meanwhile).2.2, waiting⟩ := by
  have waited : s.now.hasTimestamp = true → s.hindrance host = none →
      Run host ⟨s, waiting⟩ events
        ⟨(s.interlude host meanwhile).2, s.pending line :: waiting⟩ := by
    intro timely waits
    exact (Step.begin line (Session.begin_of_no_hindrance timely waits)).run.trans between
  rcases Session.executeAmid_cases host line meanwhile s with
    ⟨timely, waits, caught, carried⟩ | ⟨_, _, timely, waits, escapes, broke⟩ |
      ⟨_, timely, hindered, broke⟩ | ⟨late, broke⟩
  · rw [carried]
    exact .inl ⟨_, rfl, rfl, (waited timely waits).next (.finish caught)⟩
  · rw [broke]
    have ended := (waited timely waits).next (.escape escapes)
    rw [List.append_nil] at ended
    exact .inr (.inl ⟨_, rfl, rfl, ended⟩)
  · rw [broke]
    exact .inr (.inr ⟨_, rfl, rfl,
      (Step.refuse line (Session.begin_of_hindrance timely hindered)).run⟩)
  · rw [broke]
    exact .inr (.inr ⟨_, rfl, rfl, (Step.refuse line (Session.begin_of_no_timestamp late)).run⟩)

theorem follows_executeAmid {meanwhile : Session → List α × Session}
    (hm : ∀ s, Follows host s (meanwhile s).2) (line : String) (s : Session) :
    Follows host s (s.executeAmid host line meanwhile).2.2 := by
  intro waiting
  obtain ⟨events, between⟩ := follows_interlude hm s (s.pending line :: waiting)
  rcases run_executeAmid between with ⟨_, _, _, run⟩ | ⟨_, _, _, run⟩ | ⟨_, _, _, run⟩ <;>
    exact ⟨_, run⟩

theorem follows_submitAmid {meanwhile : Session → List α × Session}
    (hm : ∀ s, Follows host s (meanwhile s).2) (line : String) (s : Session) :
    Follows host s (s.submitAmid host line meanwhile).2.2 := by
  cases hc : s.consider line with
  | ignored =>
    rw [Session.submitAmid_of_ignored hc]
    exact Follows.refl s
  | clearing =>
    rw [Session.submitAmid_of_clearing hc]
    exact follows_clear s
  | accepted l =>
    rw [Session.submitAmid_of_accepted hc]
    exact follows_executeAmid hm l s

theorem follows_submit (line : String) (s : Session) :
    Follows host s (s.submit host line).2 := by
  rw [Session.submit_session]
  exact follows_submitAmid (fun s => Follows.refl s) line s

theorem follows_setRunning (value : Bool) (s : Session) :
    Follows host s { s with running := value } :=
  fun _ => ⟨[], (Step.setRunning value).run⟩

theorem follows_withClock (now : Option Moment) (s : Session) : Follows host s (s.withClock now) :=
  fun _ => ⟨[], (Step.setTime (now.getD s.now)).run⟩

theorem follows_respond (input : ConsoleInput) (s : Session) :
    Follows host s (s.respond host input).2 := by
  cases input with
  | interrupt => exact Follows.refl s
  | line text now =>
    rw [Session.respond_line_session]
    split
    · exact Follows.refl s
    · exact (follows_withClock now s).trans (follows_submit text _)

theorem follows_dialogue (inputs : List ConsoleInput) (s : Session) :
    Follows host s (s.dialogue host inputs).2 := by
  induction inputs generalizing s with
  | nil =>
    rw [Session.dialogue]
    split <;> exact Follows.refl s
  | cons input rest ih =>
    have hr : Follows host s (s.respond host input).2 := follows_respond input s
    rcases Session.dialogue_cons_session host s input rest with h | h | h <;> rw [h]
    · exact Follows.refl s
    · exact hr
    · exact hr.trans (ih _)

theorem follows_converse (inputs : List ConsoleInput) (s : Session) :
    Follows host s (s.converse host inputs).2 := by
  obtain ⟨running, after⟩ := Session.converse_session host s inputs
  rw [after]
  exact ((follows_setRunning true s).trans (follows_dialogue inputs _)).trans
    (follows_setRunning running _)

mutual

/-- Every operation is a run. -/
theorem follows_perform (operation : Operation) (s : Session) :
    Follows host s (s.perform host operation).2 := by
  cases operation with
  | submit line during =>
    rw [Session.perform_submit]
    exact follows_submitAmid (follows_performAll during) line s
  | run line during =>
    rw [Session.perform_run]
    exact follows_submitAmid (follows_performAll during) line s
  | execute line during =>
    rw [Session.perform_execute]
    exact follows_executeAmid (follows_performAll during) line s
  | converse inputs =>
    rw [Session.perform_converse]
    exact follows_converse inputs s
  | clear =>
    rw [Session.perform]
    exact follows_clear s
  | setTime now =>
    rw [Session.perform]
    exact fun _ => ⟨[], (Step.setTime now).run⟩
  | setExecuting value =>
    rw [Session.perform]
    exact fun _ => ⟨[], (Step.setExecuting value).run⟩
  | observe | suggest _ | accept _ | complete _ _ | prompt | setting =>
    rw [Session.perform]
    exact Follows.refl s

theorem follows_performAll (operations : List Operation) (s : Session) :
    Follows host s (s.performAll host operations).2 := by
  cases operations with
  | nil => exact Follows.refl s
  | cons operation rest =>
    rw [Session.performAll_cons]
    exact (follows_perform operation s).trans (follows_performAll rest _)

end

end Scene

end EmulatedShell
