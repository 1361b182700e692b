import EmulatedShell.Proofs.Channels
import EmulatedShell.Proofs.Packets

namespace EmulatedShell

/-- The source when some more of its numbers are used up. -/
def RandomSource.later (source : RandomSource) (draws : Nat) : RandomSource :=
  { source with drawn := source.drawn + draws }

/-- How many numbers a command draws: one for each packet that it sends and one more. -/
def Command.draws (c : Command) : Nat := if c.name = "ping" then packetsAsked c.args + 1 else 0

/-- How many numbers the command of a record drew. -/
def Record.draws (r : Record) : Nat := (Command.parse r.line).draws

theorem RandomSource.later_zero (source : RandomSource) : source.later 0 = source := rfl

@[simp]
theorem RandomSource.later_values (source : RandomSource) (draws : Nat) :
    (source.later draws).values = source.values := rfl

@[simp]
theorem RandomSource.later_drawn (source : RandomSource) (draws : Nat) :
    (source.later draws).drawn = source.drawn + draws := rfl

theorem Utility.random_of_channel {u : Utility} (silent : Channel.random ∉ u.channel)
    (i : Invocation) (s : Surroundings) (random : RandomSource) :
    (u.handler i s random).2 = random := by
  cases u with
  | sampling reply => exact absurd rfl silent
  | _ => rfl

theorem ping_random (i : Invocation) (random : RandomSource) :
    (ping i random).2 = random.later (packetsAsked i.args + 1) := by
  have count : packetCount i.command = packetsAsked i.args := packetCount_eq
  rw [ping, count, RandomSource.manyBetween_eq]
  rfl

/-- What is printed about packets depends on the tokens and the numbers drawn alone. -/
theorem ping_of_same_command {i j : Invocation} (same : i.command = j.command)
    (random : RandomSource) : ping i random = ping j random := by
  simp only [ping, targetHost, Invocation.operands, Invocation.args, same]

theorem builtinHandlers_ping :
    builtinHandlers.get? "ping" = some (Utility.sampling ping).handler :=
  builtinHandlers_of_utility (builtinUtilities_of_lookup rfl)

/-- A built-in command draws as many numbers as its tokens say. -/
theorem builtin_random {name : String} {handler : Handler}
    (h : builtinHandlers.get? name = some handler) {i : Invocation} (named : i.command.name = name)
    (s : Surroundings) (random : RandomSource) :
    (handler i s random).2 = random.later i.command.draws := by
  rw [Command.draws, named]
  split
  next sends =>
    rw [sends, builtinHandlers_ping] at h
    have same : (Utility.sampling ping).handler = handler := Option.some.inj h
    rw [← same]
    exact ping_random i random
  next other =>
    rw [builtinHandlers_get?] at h
    obtain ⟨u, hu, rfl⟩ := Option.map_eq_some_iff.mp h
    have silent : Channel.random ∉ u.channel := fun sounds =>
      other (List.mem_singleton.mp (builtinUtilities_reads hu sounds))
    rw [Utility.random_of_channel silent, RandomSource.later_zero]

end EmulatedShell
