import EmulatedShell.Proofs.Session.Run

namespace EmulatedShell

theorem startDirectory_isDirectory {host : Host}
    (h : host.disk.isDirectory host.settings.start = true ∨
      host.disk.isDirectory host.settings.home = true) :
    host.disk.isDirectory (Session.startDirectory host) = true := by
  unfold Session.startDirectory
  split
  next hs => exact hs
  next hs => exact h.resolve_left hs

namespace Scene

/-- A command line that waited is recorded. Its handler named a directory of the disk, and that is
where the session is now. -/
def Moves (host : Host) (x : Scene) (new : List Event) (y : Scene) : Prop :=
  ∃ p handler outcome random,
    x.waiting = p :: y.waiting ∧
    y.session = (x.session.finish host p).2 ∧
    new = [.recorded (x.session.finish host p).1] ∧
    y.session.history = x.session.history ++ [(x.session.finish host p).1] ∧
    host.handlers.get? (Command.parse p.line).name = some handler ∧
    handler (x.session.invocation host (Command.parse p.line))
      (x.session.surroundings host p.time) x.session.random = (.ok outcome, random) ∧
    outcome.directory = some y.session.directory ∧
    host.disk.isDirectory y.session.directory = true

variable {host : Host} {x y z : Scene}

/-- A step leaves the directory alone unless it moves. -/
theorem Step.moves_or_stays {new : List Event} (h : Step host x new y) :
    y.session.directory = x.session.directory ∨ Moves host x new y := by
  cases h with
  | begin line hb => exact .inl (Session.begin_keeps hb).1
  | refuse line hb => exact .inl (Session.begin_keeps hb).1
  | @finish s p waiting _ =>
    rcases @Session.directoryAfter_cases host s
      (s.dispatch host (Command.parse p.line) p.time).1 with stays | ⟨names, known⟩
    · exact .inl stays
    · obtain ⟨handler, outcome, random, hh, hr, hd⟩ := Session.dispatch_names_directory names
      exact .inr ⟨p, handler, outcome, random, rfl, rfl, rfl, rfl, hh, hr, hd, known⟩
  | escape | clear | setTime | setExecuting | setRunning => exact .inl rfl

theorem Step.keeps_isDirectory {new : List Event} (h : Step host x new y)
    (hx : host.disk.isDirectory x.session.directory = true) :
    host.disk.isDirectory y.session.directory = true := by
  rcases h.moves_or_stays with stays | ⟨_, _, _, _, _, _, _, _, _, _, _, known⟩
  · rw [stays]
    exact hx
  · exact known

theorem Run.keeps_isDirectory {events : List Event} (run : Run host x events y)
    (hx : host.disk.isDirectory x.session.directory = true) :
    host.disk.isDirectory y.session.directory = true :=
  run.keeps (P := fun x => host.disk.isDirectory x.session.directory = true)
    (fun _ _ _ step => step.keeps_isDirectory) hx

/-- After a run the session is where it was, or where the last step that moved brought it. -/
theorem Run.moves_or_stays {events : List Event} (run : Run host x events z) :
    z.session.directory = x.session.directory ∨
      ∃ before w new y after, Run host x before w ∧ Moves host w new y ∧
        Run host y after z ∧ events = before ++ new ++ after ∧
        z.session.directory = y.session.directory := by
  induction run with
  | stay => exact .inl rfl
  | @next y z events new run step ih =>
    rcases step.moves_or_stays with stays | moves
    · rcases ih with same | ⟨before, w, moved, v, after, first, moves, second, he, hd⟩
      · exact .inl (stays.trans same)
      · refine .inr ⟨before, w, moved, v, after ++ new, first, moves, second.next step, ?_,
          stays.trans hd⟩
        rw [he, List.append_assoc]
    · exact .inr ⟨events, y, new, z, [], run, moves, .stay, (List.append_nil _).symm, rfl⟩

/-- A session that is on the disk stays on it, whatever its handlers answer, and it moves only with
a record whose handler named the new directory. -/
theorem directory_stays_on_disk (host : Host) :
    (∀ (operations : List Operation) (s : Session), host.disk.isDirectory s.directory = true →
      host.disk.isDirectory (s.performAll host operations).2.directory = true) ∧
    (∀ x events y, Run host x events y → host.disk.isDirectory x.session.directory = true →
      host.disk.isDirectory y.session.directory = true) ∧
    (∀ random now, host.disk.isDirectory host.settings.start = true ∨
        host.disk.isDirectory host.settings.home = true →
      host.disk.isDirectory (Session.start host random now).directory = true) ∧
    (∀ (operation : Operation) (s : Session) (waiting : List Pending),
      (s.perform host operation).2.directory = s.directory ∨
        ∃ before x new y after, Run host ⟨s, waiting⟩ before x ∧ Moves host x new y ∧
          Run host y after ⟨(s.perform host operation).2, waiting⟩ ∧
          (s.perform host operation).2.directory = y.session.directory) ∧
    (∀ x new y, Step host x new y → y.session.directory ≠ x.session.directory →
      Moves host x new y) := by
  refine ⟨?_, fun _ _ _ run => run.keeps_isDirectory,
    fun _ _ h => startDirectory_isDirectory h, ?_, ?_⟩
  · intro operations s hs
    have follows : Follows host s _ := follows_performAll operations s
    obtain ⟨events, run⟩ := follows []
    exact run.keeps_isDirectory hs
  · intro operation s waiting
    have follows : Follows host s _ := follows_perform operation s
    obtain ⟨events, run⟩ := follows waiting
    rcases run.moves_or_stays with stays | ⟨before, x, new, y, after, first, moves, second, _, hd⟩
    · exact .inl stays
    · exact .inr ⟨before, x, new, y, after, first, moves, second, hd⟩
  · intro x new y step changed
    exact step.moves_or_stays.resolve_left changed

/-- A shell with two directories, in which one command goes to the second, one names a directory
that there is not, and one breaks off. -/
def twoPlaces : Shell where
  disk := ⟨Table.ofList [("/", []), ("/srv", [])], .empty⟩
  handlers := Table.ofList
    [("go", fun _ _ random => (.ok ⟨"", 0, some "/srv"⟩, random)),
     ("stray", fun _ _ random => (.ok ⟨"", 0, some "/nowhere"⟩, random)),
     ("break", fun _ _ random => (.error (.custom "trouble" "broken"), random))]
  catalogue := .ofEntries []
  settings := { usualSettings with start := "/missing", home := "/" }
  predictor := ⟨.empty, []⟩
  patient := fun _ _ => ⟨_, _, rfl, rfl⟩
  contained := nothingUncaught_eq

/-- The session in which the two places are visited. -/
def visit : Session := .start twoPlaces (.cycling [0.5]) ⟨2024, 1, 20, 10, 30, 15, 123456⟩

theorem twoPlaces_stays_on_disk :
    twoPlaces.disk.isDirectory visit.directory = true ∧
    twoPlaces.disk.isDirectory
      (visit.performAll twoPlaces
        [.submit "go" [.execute "stray" []], .run "break" []]).2.directory = true ∧
    twoPlaces.disk.isDirectory (visit.finish twoPlaces (visit.pending "go")).2.directory = true ∧
    Moves twoPlaces ⟨visit, [visit.pending "go"]⟩
      [.recorded (visit.finish twoPlaces (visit.pending "go")).1]
      ⟨(visit.finish twoPlaces (visit.pending "go")).2, []⟩ := by
  obtain ⟨keeps, scenes, starts, _, moves⟩ := directory_stays_on_disk twoPlaces
  have goes : Step twoPlaces ⟨visit, [visit.pending "go"]⟩
      [.recorded (visit.finish twoPlaces (visit.pending "go")).1]
      ⟨(visit.finish twoPlaces (visit.pending "go")).2, []⟩ :=
    .finish (Session.uncaught_of_shell _ _)
  have hs : twoPlaces.disk.isDirectory visit.directory = true := starts _ _ (.inr (by decide))
  exact ⟨hs, keeps _ _ hs, scenes _ _ _ goes.run hs, moves _ _ _ goes (by decide)⟩

end Scene

end EmulatedShell
