import EmulatedShell.Proofs.Session.Itinerary

namespace EmulatedShell

/-- The first token of a line without the blanks at its ends. -/
def firstToken (line : String) : String := (split ' ' (trim line)).headD ""

theorem parse_name (line : String) : (Command.parse line).name = firstToken line := by
  by_cases h : trim line = ""
  · rw [Command.parse_of_blank h, firstToken, h]
    rfl
  · obtain ⟨name, args, hs, hp⟩ := Command.parse_of_not_blank h
    rw [hp, firstToken, hs]
    rfl

theorem Reply.exitCode_cases (r : Reply) : r.outcome.exitCode = 0 ∨ r.outcome.exitCode = 1 := by
  obtain ⟨output, succeeded⟩ := r
  cases succeeded with
  | true => exact .inl rfl
  | false => exact .inr rfl

theorem movedTo_exitCode_cases (target : Except String String) :
    (movedTo target).exitCode = 0 ∨ (movedTo target).exitCode = 1 := by
  cases target with
  | ok directory => exact .inl rfl
  | error output => exact .inr rfl

theorem Utility.exitCode_cases {u : Utility} {i : Invocation} {s : Surroundings}
    {random after : RandomSource} {outcome : Outcome}
    (h : u.handler i s random = (.ok outcome, after)) :
    outcome.exitCode = 0 ∨ outcome.exitCode = 1 := by
  cases hu : u.isMoving with
  | false =>
    obtain ⟨reply, rfl⟩ := reply_of_not_moving hu h
    exact reply.exitCode_cases
  | true =>
    cases u with
    | moving target =>
      have he : movedTo (target i) = outcome := Except.ok.inj (Prod.mk.inj h).1
      exact he ▸ movedTo_exitCode_cases (target i)
    | _ => simp [isMoving] at hu

namespace Session

variable {α : Type} {host : Host} {line : String} {s : Session}

theorem dispatch_exitCode_of_known (builtin : host.handlers = builtinHandlers)
    {command : Command} {time : Moment} (known : command.name ∈ builtinHandlers.keys) :
    (s.dispatch host command time).1.exitCode = 0 ∨
      (s.dispatch host command time).1.exitCode = 1 := by
  cases hh : host.handlers.get? command.name with
  | none =>
    rw [builtin] at hh
    exact absurd known (Table.get?_eq_none_iff.mp hh)
  | some handler =>
    rcases hr : handler (s.invocation host command) (s.surroundings host time) s.random with
      ⟨result, random⟩
    cases result with
    | error fault =>
      rw [dispatch_of_error hh hr]
      exact .inr rfl
    | ok outcome =>
      rw [dispatch_of_ok hh hr]
      rw [builtin, builtinHandlers_get?] at hh
      obtain ⟨u, _, rfl⟩ := Option.map_eq_some_iff.mp hh
      exact Utility.exitCode_cases hr

theorem dispatch_exitCode_of_unknown (builtin : host.handlers = builtinHandlers)
    {command : Command} {time : Moment} (unknown : command.name ∉ builtinHandlers.keys) :
    (s.dispatch host command time).1.exitCode = 127 := by
  have hh : host.handlers.get? command.name = none := by
    rw [builtin]
    exact Table.get?_eq_none_iff.mpr unknown
  rw [dispatch_of_unknown hh]
  rfl

/-- What the exit code of a record tells of its line, and of the directory before and after it. -/
structure Telling (line before after : String) (r : Record) : Prop where
  code : r.exitCode = 0 ∨ r.exitCode = 1 ∨ r.exitCode = 127
  unknown : r.exitCode = 127 ↔ firstToken line ∉ builtinHandlers.keys
  moved : after ≠ before → firstToken line = "cd" ∧ r.exitCode = 0

theorem finish_telling (builtin : host.handlers = builtinHandlers) (p : Pending) :
    Telling p.line s.directory (s.finish host p).2.directory (s.finish host p).1 := by
  have hc : (s.finish host p).1.exitCode =
      (s.dispatch host (Command.parse p.line) p.time).1.exitCode :=
    congrArg Record.exitCode (finish_record p)
  have hn : (Command.parse p.line).name = firstToken p.line := parse_name p.line
  constructor
  case code =>
    rw [hc]
    by_cases known : (Command.parse p.line).name ∈ builtinHandlers.keys
    · exact (dispatch_exitCode_of_known builtin known).imp_right .inl
    · exact .inr (.inr (dispatch_exitCode_of_unknown builtin known))
  case unknown =>
    rw [hc, ← hn]
    constructor
    · intro h127 known
      have hk : (s.dispatch host (Command.parse p.line) p.time).1.exitCode = 0 ∨
          (s.dispatch host (Command.parse p.line) p.time).1.exitCode = 1 :=
        dispatch_exitCode_of_known builtin known
      omega
    · exact dispatch_exitCode_of_unknown builtin
  case moved =>
    intro moved
    have hd : (s.finish host p).2.directory =
        (s.finish host p).1.destination host.settings.home := finish_destination builtin p
    rw [Record.destination, finish_record_directory] at hd
    split at hd
    next went =>
      have hl : (Command.parse (s.finish host p).1.line).name = firstToken p.line := by
        rw [finish_record, Command.parse_parse_raw, hn]
      exact ⟨hl ▸ went.1, went.2⟩
    next => exact absurd hd moved

theorem executeAmid_telling {meanwhile : Session → List α × Session}
    (builtin : host.handlers = builtinHandlers) {r : Record} {answers : List α} {after : Session}
    (h : s.executeAmid host line meanwhile = (.ok r, answers, after)) :
    Telling line (s.interlude host meanwhile).2.directory after.directory r := by
  obtain ⟨_, finished⟩ := finish_of_executeAmid h
  have told := @finish_telling host (s.interlude host meanwhile).2 builtin (s.pending line)
  rw [finished] at told
  exact told

/-- With the built-in commands an exit code is zero, one or 127. It is 127 for the lines whose first
token is no command, and only a line that goes somewhere and succeeds changes the directory, be it
the one at the end of the delay or, when nothing happens meanwhile, the one before. -/
theorem exitCode_partitions {host : Host} (builtin : host.handlers = builtinHandlers)
    (line : String) (s : Session) :
    (∀ (meanwhile : Session → List α × Session) r answers after,
      s.executeAmid host line meanwhile = (.ok r, answers, after) →
        Telling line (s.interlude host meanwhile).2.directory after.directory r) ∧
    ∀ r after, s.execute host line = (.ok r, after) →
      Telling line s.directory after.directory r := by
  refine ⟨fun _ _ _ _ h => executeAmid_telling builtin h, ?_⟩
  intro r after h
  have carried := @executeAmid_of_nothing Unit host s line
  rw [h] at carried
  have told := executeAmid_telling builtin carried
  rw [interlude_of_nothing, begun_directory] at told
  exact told

/-- Another line goes somewhere while one waits, which then finds no command. -/
theorem detour_exitCode_partitions :
    (∃ r answers after, Session.outset.executeAmid usualShell "Cd /tmp"
        (performAll usualShell [.execute "cd projects" []]) = (.ok r, answers, after) ∧
      Telling "Cd /tmp" (Session.outset.interlude usualShell
        (performAll usualShell [.execute "cd projects" []])).2.directory after.directory r ∧
      after.directory = "/home/user/projects" ∧ r.exitCode = 127) ∧
    ∃ r after, Session.outset.execute usualShell " cd /tmp " = (.ok r, after) ∧
      Telling " cd /tmp " "/home/user" after.directory r ∧
      after.directory = "/tmp" ∧ r.exitCode = 0 := by
  have timely : Session.outset.now.hasTimestamp = true := by decide
  have builtin : usualShell.handlers = builtinHandlers := rfl
  obtain ⟨amid, _⟩ := exitCode_partitions (α := Answer) builtin "Cd /tmp" .outset
  obtain ⟨_, alone⟩ := exitCode_partitions (α := Answer) builtin " cd /tmp " .outset
  refine ⟨⟨_, _, _, executeAmid_of_timestamp timely, amid _ _ _ _ (executeAmid_of_timestamp timely),
    ?_, ?_⟩, ⟨_, _, rfl, alone _ _ rfl, ?_, ?_⟩⟩
  all_goals decide

end Session

end EmulatedShell
