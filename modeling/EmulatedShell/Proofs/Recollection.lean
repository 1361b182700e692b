import EmulatedShell.Commands.Builtin
import EmulatedShell.Proofs.Lines
import EmulatedShell.Proofs.Lookup

namespace EmulatedShell

/-- Lines, each with its number right-aligned in five columns before it and two blanks between. -/
def numbered (lines : List String) : List String :=
  lines.mapIdx fun i line => padStart 5 (toString (i + 1)) ++ "  " ++ line

/-- The number that a token asks for, if there is a token and it starts with a number. -/
def askedNumber (token : Option String) : Option Int :=
  token.bind fun text => leadingInteger text.toList

/-- What is shown of some lines when a token asks for a number of them: all if it asks for none,
else as many of the last, which keep their numbers. -/
structure Recalls (token : Option String) (lines : List String) (output : String) : Prop where
  all : askedNumber token = none → output = joinLines (numbered lines)
  last : ∀ n, askedNumber token = some n → 0 < n →
    output = joinLines ((numbered lines).drop (lines.length - min n.toNat lines.length))
  nothing : ∀ n, askedNumber token = some n → n ≤ 0 → output = ""

theorem numbered_eq (lines : List String) : numbered lines = numberLines 5 "  " lines :=
  numberLines_eq_mapIdx.symm

theorem parseInt_of_none {token : Option String} (h : askedNumber token = none) (default : Int) :
    parseInt token default = default := by
  rw [askedNumber] at h
  rw [parseInt, h, Option.getD_none]

theorem parseInt_of_some {token : Option String} {n : Int} (h : askedNumber token = some n)
    (default : Int) : parseInt token default = n := by
  rw [askedNumber] at h
  rw [parseInt, h, Option.getD_some]

/-- A missing token asks for no number, so that it need not be told apart from one that is none. -/
theorem history_eq {i : Invocation} (past : List String) (plain : "-c" ∉ i.command.args) :
    history i past = .lines (takeLast
      (parseInt (i.command.arg 0) (past ++ [i.command.raw]).length).toNat
      (numbered (past ++ [i.command.raw]))) := by
  have flag : i.command.hasFlag ["-c"] = false := by simpa [Command.hasFlag] using plain
  simp only [history, flag, numbered_eq, numberLines_length]
  cases token : i.command.arg 0 with
  | none =>
    have all : (parseInt none ↑(past ++ [i.command.raw]).length).toNat =
        (numberLines 5 "  " (past ++ [i.command.raw])).length := by
      simp [parseInt]
    rw [all, takeLast_length_self]
    rfl
  | some text => rfl

theorem history_recalls {i : Invocation} (past : List String) (plain : "-c" ∉ i.command.args) :
    ∃ output, history i past = .ok output ∧
      Recalls (i.command.arg 0) (past ++ [i.command.raw]) output := by
  refine ⟨_, history_eq past plain, ?_⟩
  have size : (numbered (past ++ [i.command.raw])).length = (past ++ [i.command.raw]).length := by
    simp [numbered]
  constructor
  case all =>
    intro unasked
    rw [parseInt_of_none unasked, Int.toNat_natCast, ← size, takeLast_length_self]
  case last =>
    intro n asked positive
    rw [parseInt_of_some asked, takeLast_eq, size]
  case nothing =>
    intro n asked negative
    have zero : n.toNat = 0 := by omega
    rw [parseInt_of_some asked, zero, takeLast_zero]
    rfl

end EmulatedShell
