import EmulatedShell.Proofs.Draws
import EmulatedShell.Proofs.Session.Numbering

namespace EmulatedShell

/-- How many delays a number of command lines are given. -/
def DelayRange.pauses (range : DelayRange) (count : Nat) : Nat :=
  if range.isPositive then count else 0

theorem DelayRange.pauses_add (range : DelayRange) (m n : Nat) :
    range.pauses (m + n) = range.pauses m + range.pauses n := by
  unfold pauses
  split <;> rfl

/-- The number is above zero, or is no number at all. -/
def Seconds.PositiveOrNaN : Seconds → Prop
  | .whole n => 0 < n
  | .real x => 0 < x ∨ x.isNaN = true

instance (seconds : Seconds) : Decidable seconds.PositiveOrNaN :=
  match seconds with
  | .whole n => inferInstanceAs (Decidable (0 < n))
  | .real x => inferInstanceAs (Decidable (0 < x ∨ x.isNaN = true))

theorem not_le_zero_iff (x : Float) : ¬ x ≤ 0 ↔ 0 < x ∨ x.isNaN = true := by
  have most : x ≤ 0 ↔ x.toModel.unpack.le (.zero .positive) = true := decide_eq_true_iff
  have more : 0 < x ↔ Float.Model.UnpackedFloat.lt (.zero .positive) x.toModel.unpack = true :=
    decide_eq_true_iff
  have absent : x.isNaN = x.toModel.unpack.isNaN := rfl
  rw [most, more, absent]
  rcases x.toModel.unpack with sign | _ | sign | ⟨sign, mantissa, exponent, _⟩
  · cases sign <;> decide
  · decide
  · cases sign <;> decide
  · cases sign with
    | positive => exact iff_of_true nofun (.inl rfl)
    | negative => exact iff_of_false (fun above => above rfl) (by rintro (_ | _) <;> contradiction)

/-- There is a delay to wait for if the longest one is above zero, or is no number at all. -/
theorem Seconds.isPositive_iff (seconds : Seconds) :
    seconds.isPositive = true ↔ seconds.PositiveOrNaN := by
  cases seconds with
  | whole n => simp [isPositive, PositiveOrNaN]
  | real x =>
    rw [isPositive, Bool.not_eq_true', decide_eq_false_iff_not]
    exact not_le_zero_iff x

theorem DelayRange.pauses_eq (range : DelayRange) (count : Nat) :
    range.pauses count = if range.longest.PositiveOrNaN then count else 0 := by
  simp only [pauses, isPositive, Seconds.isPositive_iff]

/-- A delay that can be drawn takes one random number. -/
theorem DelayRange.draw_random {range : DelayRange} {source later : RandomSource} {seconds : Float}
    (drawn : range.draw source = (.ok seconds, later)) : later = source.later 1 := by
  unfold draw at drawn
  split at drawn
  · exact (Prod.mk.inj drawn).2.symm
  · split at drawn
    · exact (Prod.mk.inj drawn).2.symm
    · cases (Prod.mk.inj drawn).1
    · cases (Prod.mk.inj drawn).1

theorem DelayRange.isPositive_zero : DelayRange.zero.isPositive = false := by decide

/-- How many numbers the commands of records drew. -/
def drawsOf (records : List Record) : Nat := (records.map Record.draws).sum

theorem drawsOf_append (records more : List Record) :
    drawsOf (records ++ more) = drawsOf records + drawsOf more := by
  simp [drawsOf]

namespace Session

variable {shell : Shell} {s : Session} {line : String}

theorem dispatch_random (builtin : shell.handlers = builtinHandlers) (command : Command)
    (time : Moment) : (s.dispatch shell command time).2 = s.random.later command.draws := by
  cases hh : shell.handlers.get? command.name with
  | none =>
    have silent : command.name ≠ "ping" := by
      intro sends
      rw [builtin, sends, builtinHandlers_ping] at hh
      cases hh
    rw [dispatch_of_unknown hh, Command.draws, if_neg silent, RandomSource.later_zero]
  | some handler =>
    have drawn := builtin_random (builtin ▸ hh) (i := s.invocation shell command) rfl
      (s.surroundings shell time) s.random
    rcases hr : handler (s.invocation shell command) (s.surroundings shell time) s.random with
      ⟨result, random⟩
    rw [hr] at drawn
    cases result with
    | ok outcome => rw [dispatch_of_ok hh hr, drawn, invocation]
    | error fault => rw [dispatch_of_error hh hr, drawn, invocation]

theorem parse_finish_line (p : Pending) :
    Command.parse (s.finish shell p).1.line = Command.parse p.line := by
  rw [finish_record, Command.parse_parse_raw]

theorem finish_random (builtin : shell.handlers = builtinHandlers) (p : Pending) :
    (s.finish shell p).2.random = s.random.later (s.finish shell p).1.draws := by
  rw [Record.draws, parse_finish_line]
  exact dispatch_random builtin (Command.parse p.line) p.time

theorem finish_slept (p : Pending) : (s.finish shell p).2.slept = s.slept := rfl

theorem finish_issued (p : Pending) : (s.finish shell p).2.issued = s.issued := rfl

theorem delay_of_shell (shell : Shell) (s : Session) :
    (delay shell s).2.random = s.random.later (shell.settings.delay.pauses 1) ∧
      (delay shell s).2.slept.length = s.slept.length + shell.settings.delay.pauses 1 := by
  unfold delay DelayRange.pauses
  split
  next positive =>
    obtain ⟨seconds, later, drawn, slept⟩ := shell.patient positive s.random
    simp only [drawn, slept]
    exact ⟨DelayRange.draw_random drawn, List.length_append⟩
  next => exact ⟨rfl, rfl⟩

theorem begun_random : (s.begun shell).random =
    s.random.later (shell.settings.delay.pauses 1) :=
  (delay_of_shell shell { s with executing := true, issued := s.issued + 1 }).1

theorem begun_slept_length : (s.begun shell).slept.length =
    s.slept.length + shell.settings.delay.pauses 1 :=
  (delay_of_shell shell { s with executing := true, issued := s.issued + 1 }).2

theorem begin_random_slept {p : Pending} {t : Session} (h : s.begin shell line = (.ok p, t)) :
    t.random = s.random.later (shell.settings.delay.pauses 1) ∧
      t.slept.length = s.slept.length + shell.settings.delay.pauses 1 := by
  by_cases ht : s.now.hasTimestamp = true
  · cases (begin_of_timestamp ht).symm.trans h
    exact ⟨begun_random, begun_slept_length⟩
  · cases (begin_of_no_timestamp (by simpa using ht)).symm.trans h

/-- A command line that does not begin in a shell leaves everything as it was. -/
theorem begin_error {fault : Fault} {t : Session} (h : s.begin shell line = (.error fault, t)) :
    t = { s with executing := false } := by
  by_cases ht : s.now.hasTimestamp = true
  · cases (begin_of_timestamp ht).symm.trans h
  · cases (begin_of_no_timestamp (by simpa using ht)).symm.trans h
    rfl

end Session

namespace Scene

/-- The balance of a run. An identifier and a delay belong to every record that was made and to
every line that waits, and a number is drawn for each delay and besides by the commands of the
records alone. -/
structure Balanced (shell : Shell) (x : Scene) (events : List Event) (y : Scene) : Prop where
  issued : y.session.issued + x.waiting.length =
    x.session.issued + (recorded events).length + y.waiting.length
  slept : y.session.slept.length + shell.settings.delay.pauses x.waiting.length =
    x.session.slept.length +
      shell.settings.delay.pauses ((recorded events).length + y.waiting.length)
  values : y.session.random.values = x.session.random.values
  drawn : y.session.random.drawn + x.session.slept.length =
    x.session.random.drawn + y.session.slept.length + drawsOf (recorded events)

variable {shell : Shell} {x y z : Scene} {events more : List Event}

theorem Balanced.refl (shell : Shell) (x : Scene) : Balanced shell x [] x := by
  constructor <;> simp [recorded, drawsOf]

theorem Balanced.trans (first : Balanced shell x events y) (second : Balanced shell y more z) :
    Balanced shell x (events ++ more) z := by
  have issued := first.issued
  have later := second.issued
  have slept := first.slept
  have sleptLater := second.slept
  have drawn := first.drawn
  have drawnLater := second.drawn
  rw [DelayRange.pauses_add] at slept sleptLater
  constructor
  case issued =>
    rw [recorded_append, List.length_append]
    omega
  case slept =>
    rw [recorded_append, List.length_append, DelayRange.pauses_add, DelayRange.pauses_add]
    omega
  case values => exact second.values.trans first.values
  case drawn =>
    rw [recorded_append, drawsOf_append]
    omega

/-- What keeps the random numbers and the delays is balanced if it makes no record. -/
theorem Balanced.of_same (h : recorded events = []) (waiting : y.waiting = x.waiting)
    (issued : y.session.issued = x.session.issued) (random : y.session.random = x.session.random)
    (slept : y.session.slept = x.session.slept) : Balanced shell x events y := by
  constructor <;> simp [h, waiting, issued, random, slept, drawsOf]

theorem Step.balanced (builtin : shell.handlers = builtinHandlers) (step : Step shell x events y) :
    Balanced shell x events y := by
  -- A line pays for its delay when it begins and waits, and for its own draws when it is finished.
  cases step with
  | begin line hb =>
    obtain ⟨random, slept⟩ := Session.begin_random_slept hb
    have issued := (Session.begin_issues hb).2
    constructor
    case issued => simp [recorded, issued]; omega
    case slept => simp [recorded, slept, DelayRange.pauses_add]; omega
    case values => rw [random, RandomSource.later_values]
    case drawn =>
      simp only [recorded, List.filterMap_nil, random, RandomSource.later_drawn, slept]
      simp [drawsOf]
      omega
  | refuse line hb =>
    rw [Session.begin_error hb]
    exact .of_same rfl rfl rfl rfl rfl
  | escape raised =>
    rw [Session.uncaught_of_shell] at raised
    cases raised
  | @finish s p waiting _ =>
    have random := Session.finish_random (s := s) builtin p
    constructor
    case issued => simp [recorded, Session.finish_issued]; omega
    case slept => simp [recorded, Session.finish_slept, Nat.add_comm]
    case values => rw [random, RandomSource.later_values]
    case drawn =>
      rw [random, RandomSource.later_drawn, Session.finish_slept]
      simp [recorded, drawsOf]
      omega
  | clear | setTime | setExecuting | setRunning => exact .of_same rfl rfl rfl rfl rfl

theorem Run.balanced (builtin : shell.handlers = builtinHandlers) (run : Run shell x events y) :
    Balanced shell x events y := by
  induction run with
  | stay => exact .refl shell x
  | next _ step ih => exact ih.trans (step.balanced builtin)

end Scene

end EmulatedShell
