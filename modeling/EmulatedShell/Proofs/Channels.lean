import EmulatedShell.Catalogue.Builtin
import EmulatedShell.Proofs.Movement

namespace EmulatedShell

/-- What a command can take notice of besides its invocation. -/
inductive Channel where
  | history
  | catalogue
  | clock
  | random
  deriving DecidableEq

/-- The channel that a utility reads, if it reads one. -/
def Utility.channel : Utility → Option Channel
  | .plain _ | .risky _ | .moving _ => none
  | .dated _ | .riskyDated _ => some .clock
  | .recalling _ => some .history
  | .consulting _ => some .catalogue
  | .sampling _ => some .random

namespace Channel

/-- The built-in commands that may read a channel. -/
def readers : Channel → List String
  | .history => ["history"]
  | .catalogue => ["help", "type"]
  | .clock => ["ls", "stat", "curl", "wget", "dig", "date", "cal"]
  | .random => ["ping"]

/-- What surrounds two runs of a command is the same on a channel. -/
def Same (s t : Surroundings) (random other : RandomSource) : Channel → Prop
  | .history => s.history = t.history
  | .catalogue => s.catalogue = t.catalogue
  | .clock => s.now = t.now
  | .random => random = other

end Channel

theorem Utility.outcome_of_same {u : Utility} {i : Invocation} {s t : Surroundings}
    {random other : RandomSource}
    (same : ∀ channel ∈ u.channel, channel.Same s t random other) :
    (u.handler i s random).1 = (u.handler i t other).1 := by
  cases u with
  | plain | risky | moving => rfl
  | dated | riskyDated =>
    have hn : s.now = t.now := same .clock rfl
    simp only [handler, hn]
  | recalling =>
    have hh : s.history = t.history := same .history rfl
    simp only [handler, hh]
  | consulting =>
    have hc : s.catalogue = t.catalogue := same .catalogue rfl
    simp only [handler, hc]
  | sampling =>
    have hr : random = other := same .random rfl
    simp only [handler, hr]

theorem builtinCommands_channels :
    (builtinCommands.all fun pair => pair.2.channel.all fun channel =>
      channel.readers.contains pair.1) = true := rfl

theorem builtinUtilities_reads {name : String} {u : Utility} {channel : Channel}
    (h : builtinUtilities.get? name = some u) (hc : channel ∈ u.channel) :
    name ∈ channel.readers := by
  have hm := List.all_eq_true.mp builtinCommands_channels _ (Table.mem_of_get?_ofList h)
  rw [Option.mem_def] at hc
  simpa [hc] using hm

/-- Whether and with what a built-in command ends depends on its invocation alone, but for the
commands that remember, look up, tell the time or draw. -/
theorem builtin_outcome_determined {name : String} {handler : Handler}
    (h : builtinHandlers.get? name = some handler) (i : Invocation) {s t : Surroundings}
    {random other : RandomSource}
    (history : name = "history" → s.history = t.history)
    (catalogue : name = "help" ∨ name = "type" → s.catalogue = t.catalogue)
    (clock : name ∈ ["ls", "stat", "curl", "wget", "dig", "date", "cal"] → s.now = t.now)
    (draws : name = "ping" → random = other) :
    (handler i s random).1 = (handler i t other).1 := by
  rw [builtinHandlers_get?] at h
  obtain ⟨u, hu, rfl⟩ := Option.map_eq_some_iff.mp h
  apply Utility.outcome_of_same
  intro channel hc
  have hr : name ∈ channel.readers := builtinUtilities_reads hu hc
  cases channel with
  | history => exact history (List.mem_singleton.mp hr)
  | catalogue => exact catalogue (by simpa [Channel.readers] using hr)
  | clock => exact clock hr
  | random => exact draws (List.mem_singleton.mp hr)

/-- A listing is the same after another past, with another catalogue and other numbers to draw. -/
theorem ls_outcome_determined :
    builtinHandlers.get? "ls" = some (Utility.riskyDated ls).handler ∧
    ((Utility.riskyDated ls).handler
      ⟨Command.parse "ls -l /var", "/home/user", usualDisk, "user", "ai-terminal", "/home/user"⟩
      ⟨builtinCatalogue, [], ⟨2024, 1, 20, 10, 30, 15, 0⟩⟩ (.cycling [0.5])).1 =
    ((Utility.riskyDated ls).handler
      ⟨Command.parse "ls -l /var", "/home/user", usualDisk, "user", "ai-terminal", "/home/user"⟩
      ⟨.empty, [⟨⟨0, 1⟩, "pwd", "/", ⟨2024, 1, 19, 8, 0, 0, 0⟩, 0, "/"⟩],
        ⟨2024, 1, 20, 10, 30, 15, 0⟩⟩ (.cycling [0.25, 0.75])).1 := by
  have known : builtinHandlers.get? "ls" = some (Utility.riskyDated ls).handler :=
    builtinHandlers_of_utility (builtinUtilities_of_lookup rfl)
  refine ⟨known, builtin_outcome_determined known _ ?_ ?_ ?_ ?_⟩
  · intro history
    exact absurd history (by decide)
  · intro catalogue
    exact absurd catalogue (by decide)
  · intro clock
    rfl
  · intro draws
    exact absurd draws (by decide)

end EmulatedShell
