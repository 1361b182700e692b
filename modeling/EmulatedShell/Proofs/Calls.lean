import EmulatedShell.Proofs.Movement

namespace EmulatedShell

/-- The call of another command with tokens of its own in the same surroundings. -/
def Invocation.calling (i : Invocation) (name : String) (args : List String) : Invocation :=
  { i with command := ⟨name, args, i.command.raw⟩ }

/-- What becomes of an invocation when its name is that of a built-in command. -/
def Invocation.carriedOut (i : Invocation) (s : Surroundings) (random : RandomSource) :
    Option (Except Fault Outcome) :=
  (builtinHandlers.get? i.name).map fun handler => (handler i s random).1

/-- A built-in command answers its tokens with a text and an exit code, whatever the time, the
history and the random numbers are, and names no directory to go to. -/
def Invocation.Gives (i : Invocation) (name : String) (args : List String) (output : String)
    (exitCode : Int) : Prop :=
  ∀ s random, (i.calling name args).carriedOut s random = some (.ok ⟨output, exitCode, none⟩)

/-- An operand without quotes around it. -/
structure IsBareOperand (token : String) : Prop where
  operand : isOperand token = true
  bare : ∀ quote inner, isQuote quote = true → token.toList ≠ quote :: (inner ++ [quote])

variable {i : Invocation} {name token output : String} {args : List String} {exitCode : Int}

theorem Invocation.carriedOut_calling {utility : Utility}
    (known : builtinUtilities.get? name = some utility) (s : Surroundings)
    (random : RandomSource) : (i.calling name args).carriedOut s random =
      some (utility.handler (i.calling name args) s random).1 := by
  have named : (i.calling name args).name = name := rfl
  rw [carriedOut, named, builtinHandlers_of_utility known]
  rfl

theorem Invocation.gives_of_plain {reply : Invocation → Reply}
    (known : builtinUtilities.get? name = some (.plain reply))
    (h : (reply (i.calling name args)).outcome = ⟨output, exitCode, none⟩) :
    i.Gives name args output exitCode := by
  intro s random
  rw [carriedOut_calling known, Utility.handler, h]

theorem Invocation.gives_of_risky {reply : Invocation → Except Fault Reply} {answer : Reply}
    (known : builtinUtilities.get? name = some (.risky reply))
    (h : reply (i.calling name args) = .ok answer)
    (ends : answer.outcome = ⟨output, exitCode, none⟩) : i.Gives name args output exitCode := by
  intro s random
  rw [carriedOut_calling known, Utility.handler, h, ← ends]
  rfl

theorem Invocation.not_gives_of_risky {reply : Invocation → Except Fault Reply} {fault : Fault}
    (known : builtinUtilities.get? name = some (.risky reply))
    (h : reply (i.calling name args) = .error fault) : ¬i.Gives name args output exitCode := by
  intro gives
  have answer := gives ⟨Table.ofList [], [], ⟨2024, 1, 20, 10, 30, 15, 0⟩⟩ (.cycling [])
  rw [carriedOut_calling known, Utility.handler, h] at answer
  cases answer

theorem Invocation.Gives.unique {other : String} {otherCode : Int}
    (h : i.Gives name args output exitCode) (h' : i.Gives name args other otherCode) :
    output = other ∧ exitCode = otherCode := by
  have surroundings : Surroundings := ⟨Table.ofList [], [], ⟨2024, 1, 20, 10, 30, 15, 0⟩⟩
  have same := (h surroundings (.cycling [])).symm.trans (h' surroundings (.cycling []))
  simpa using same

theorem IsBareOperand.unquote_eq (h : IsBareOperand token) : unquote token = token := by
  have same : unquoteChars token.toList = token.toList := by
    unfold unquoteChars
    split
    next first second rest word =>
      split
      next quoted =>
        rw [Bool.and_eq_true, decide_eq_true_eq] at quoted
        obtain ⟨inner, hi⟩ := List.getLast?_eq_some_iff.mp quoted.2
        exact absurd (word.trans (congrArg _ hi)) (h.bare first inner quoted.1)
      next => rfl
    next => rfl
  rw [unquote, same, String.ofList_toList]

theorem IsBareOperand.of_head (operand : isOperand token = true)
    (head : token.toList.head?.any isQuote = false) : IsBareOperand token := by
  refine ⟨operand, fun quote inner quoted starts => ?_⟩
  rw [starts, List.head?_cons, Option.any_some, quoted] at head
  cases head

theorem IsBareOperand.not_flag (h : IsBareOperand token) : isFlag token = false := by
  have operand := h.operand
  rw [isOperand, Bool.and_eq_true] at operand
  simpa using operand.2

/-- A shell in the home directory that has one file. -/
def beside (name content : String) : Invocation :=
  ⟨Command.parse "", usualHome, ⟨Table.ofList [(usualHome, [])], Table.ofList [(name, content)]⟩,
    "user", "ai-terminal", usualHome⟩

theorem beside_read (name content : String) :
    (beside name content).disk.read name = some content := by
  change (Table.ofList [(name, content)]).get? name = some content
  simp [Table.get?_ofList]

end EmulatedShell
