import EmulatedShell.Commands.Builtin
import EmulatedShell.Proofs.Lookup

namespace EmulatedShell

@[simp]
theorem Reply.outcome_ok (output : String) : (ok output).outcome = ⟨output, 0, none⟩ := rfl

@[simp]
theorem Reply.outcome_fail (output : String) : (fail output).outcome = ⟨output, 1, none⟩ := rfl

/-- A utility that can name a directory to go to. -/
def Utility.isMoving : Utility → Bool
  | .moving _ => true
  | _ => false

theorem builtinCommands_moving :
    (builtinCommands.all fun pair => pair.1 == "cd" || !pair.2.isMoving) = true := rfl

/-- A name stands for what is listed last under it. -/
theorem builtinUtilities_of_lookup {name : String} {u : Utility}
    (listed : builtinCommands.reverse.lookup name = some u) :
    builtinUtilities.get? name = some u := by
  rw [builtinUtilities, Table.get?_ofList, listed]

theorem builtinUtilities_not_moving {name : String} {u : Utility}
    (h : builtinUtilities.get? name = some u) (hn : name ≠ "cd") : u.isMoving = false := by
  have hm := List.all_eq_true.mp builtinCommands_moving _ (Table.mem_of_get?_ofList h)
  simpa [hn] using hm

theorem builtinHandlers_get? (name : String) :
    builtinHandlers.get? name = (builtinUtilities.get? name).map Utility.handler :=
  Table.get?_map Utility.handler builtinUtilities name

theorem builtinHandlers_of_utility {name : String} {u : Utility}
    (h : builtinUtilities.get? name = some u) : builtinHandlers.get? name = some u.handler := by
  rw [builtinHandlers_get?, h, Option.map_some]

/-- A utility that is not a moving one ends with the outcome of a reply. -/
theorem Utility.reply_of_not_moving {u : Utility} (hu : u.isMoving = false)
    {i : Invocation} {s : Surroundings} {random after : RandomSource} {outcome : Outcome}
    (h : u.handler i s random = (.ok outcome, after)) :
    ∃ reply : Reply, reply.outcome = outcome := by
  cases u with
  | moving target => simp [isMoving] at hu
  | plain reply => exact ⟨_, Except.ok.inj (Prod.mk.inj h).1⟩
  | dated reply => exact ⟨_, Except.ok.inj (Prod.mk.inj h).1⟩
  | recalling reply => exact ⟨_, Except.ok.inj (Prod.mk.inj h).1⟩
  | consulting reply => exact ⟨_, Except.ok.inj (Prod.mk.inj h).1⟩
  | sampling reply => exact ⟨_, Except.ok.inj (Prod.mk.inj h).1⟩
  | risky reply =>
    have he := (Prod.mk.inj h).1
    cases hr : reply i with
    | error fault => simp [hr, Except.map] at he
    | ok r => exact ⟨r, by simpa [hr, Except.map] using he⟩
  | riskyDated reply =>
    have he := (Prod.mk.inj h).1
    cases hr : reply i s.now with
    | error fault => simp [hr, Except.map] at he
    | ok r => exact ⟨r, by simpa [hr, Except.map] using he⟩

theorem Utility.directory_of_not_moving {u : Utility} (hu : u.isMoving = false)
    {i : Invocation} {s : Surroundings} {random after : RandomSource} {outcome : Outcome}
    (h : u.handler i s random = (.ok outcome, after)) : outcome.directory = none := by
  obtain ⟨reply, rfl⟩ := reply_of_not_moving hu h
  rfl

/-- Of the built-in handlers only one names a directory. -/
theorem builtinHandlers_directory {name : String} {handler : Handler} {i : Invocation}
    {s : Surroundings} {random after : RandomSource} {outcome : Outcome}
    (h : builtinHandlers.get? name = some handler) (hn : name ≠ "cd")
    (hr : handler i s random = (.ok outcome, after)) : outcome.directory = none := by
  rw [builtinHandlers_get?] at h
  obtain ⟨u, hu, rfl⟩ := Option.map_eq_some_iff.mp h
  exact Utility.directory_of_not_moving (builtinUtilities_not_moving hu hn) hr

end EmulatedShell
