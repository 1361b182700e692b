import EmulatedShell.Proofs.Flags
import Mathlib.Algebra.Ring.Parity
import Mathlib.Data.List.DropRight

namespace EmulatedShell

/-- The places at which operands stand. A value flag takes the token after it with it, whatever that
is; `skip` says that the first token is taken. -/
def operandPlacesAfter (valueFlags : List String) : Bool → List String → List Nat
  | _, [] => []
  | true, _ :: rest => (operandPlacesAfter valueFlags false rest).map (· + 1)
  | false, token :: rest =>
    if valueFlags.contains token then (operandPlacesAfter valueFlags true rest).map (· + 1)
    else if isOperand token then 0 :: (operandPlacesAfter valueFlags false rest).map (· + 1)
    else (operandPlacesAfter valueFlags false rest).map (· + 1)

/-- The places at which the operands of a list of tokens stand. -/
def operandPlaces (valueFlags args : List String) : List Nat :=
  operandPlacesAfter valueFlags false args

/-- Whether the token that follows some others is taken: a value flag takes it, unless that is taken
itself. -/
def takesNext (valueFlags : List String) (skip : Bool) (tokens : List String) : Bool :=
  tokens.foldl (fun skip token => !skip && valueFlags.contains token) skip

/-- The number of value flags that some tokens end with. -/
def flagRun (valueFlags tokens : List String) : Nat :=
  (tokens.rtakeWhile valueFlags.contains).length

/-- What is kept of the tokens, and from which places: operands in their order, all but those that
follow an odd number of value flags. -/
structure KeepsOperands (valueFlags args kept : List String) (places : List Nat) : Prop where
  tokens : places.map (args[·]?) = kept.map some
  ordered : places.Pairwise (· < ·)
  sublist : kept.Sublist args
  operands : ∀ token ∈ kept, token ≠ "" ∧ beginsWith "-" token = false
  dropped : ∀ place token, args[place]? = some token → token ≠ "" → beginsWith "-" token = false →
    token ∉ valueFlags → (place ∉ places ↔ Odd (flagRun valueFlags (args.take place)))

variable {valueFlags front rest args : List String} {flag token : String} {skip : Bool}
  {place : Nat}

theorem isOperand_iff : isOperand token = true ↔ token ≠ "" ∧ beginsWith "-" token = false := by
  simp [isOperand, isFlag]

theorem takesNext_concat :
    takesNext valueFlags skip (front ++ [token]) =
      (!takesNext valueFlags skip front && valueFlags.contains token) := by
  rw [takesNext, List.foldl_concat, ← takesNext]

/-- The flags at the end take each other in pairs. -/
theorem takesNext_iff :
    takesNext valueFlags false front = true ↔ Odd (flagRun valueFlags front) := by
  induction front using List.reverseRecOn with
  | nil => simp [takesNext, flagRun]
  | append_singleton front token ih =>
    rw [takesNext_concat, flagRun]
    by_cases taking : valueFlags.contains token = true
    · rw [List.rtakeWhile_concat_pos _ _ _ taking, List.length_append, List.length_singleton,
        Nat.odd_add_one, taking, Bool.and_true, Bool.not_eq_true', ← Bool.not_eq_true, ih, flagRun]
    · rw [List.rtakeWhile_concat_neg _ _ _ taking, Bool.eq_false_iff.mpr taking]
      simp

theorem takesNext_of_not_mem (absent : flag ∉ front) : takesNext [flag] false front = false := by
  induction front using List.reverseRecOn with
  | nil => rfl
  | append_singleton front token ih =>
    rw [List.mem_append, List.mem_singleton, not_or] at absent
    rw [takesNext_concat, ih absent.1]
    simpa using Ne.symm absent.2

theorem map_operandPlacesAfter :
    (operandPlacesAfter valueFlags skip args).map (args[·]?) =
      (operandsAfter valueFlags skip args).map some := by
  have shift : ∀ (first : String) (rest : List String) (places : List Nat),
      (places.map (· + 1)).map ((first :: rest)[·]?) = places.map (rest[·]?) := by
    intro first rest places
    simp [Function.comp_def]
  induction args generalizing skip with
  | nil => rfl
  | cons first rest ih =>
    cases skip with
    | true => rw [operandPlacesAfter, operandsAfter, shift, ih]
    | false =>
      unfold operandPlacesAfter operandsAfter
      split
      · rw [shift, ih]
      · split
        · rw [List.map_cons, shift, ih]
          rfl
        · rw [shift, ih]

theorem pairwise_operandPlacesAfter :
    (operandPlacesAfter valueFlags skip args).Pairwise (· < ·) := by
  have shift : ∀ places : List Nat, places.Pairwise (· < ·) →
      (places.map (· + 1)).Pairwise (· < ·) :=
    fun places ordered => ordered.map _ fun _ _ => Nat.succ_lt_succ
  induction args generalizing skip with
  | nil => exact .nil
  | cons first rest ih =>
    cases skip with
    | true => exact shift _ ih
    | false =>
      unfold operandPlacesAfter
      split
      · exact shift _ ih
      · split
        · refine .cons ?_ (shift _ ih)
          intro place later
          obtain ⟨before, _, rfl⟩ := List.mem_map.mp later
          exact Nat.succ_pos before
        · exact shift _ ih

theorem operandsAfter_sublist : (operandsAfter valueFlags skip args).Sublist args := by
  induction args generalizing skip with
  | nil => exact .slnil
  | cons first rest ih =>
    cases skip with
    | true => exact .cons first ih
    | false =>
      unfold operandsAfter
      split
      · exact .cons first ih
      · split
        · exact .cons_cons first ih
        · exact .cons first ih

/-- A token is kept if it is an operand and no value flag, and is not taken by what precedes it. -/
theorem mem_operandPlacesAfter_iff : place ∈ operandPlacesAfter valueFlags skip args ↔
    ∃ token, args[place]? = some token ∧ isOperand token = true ∧ token ∉ valueFlags ∧
      takesNext valueFlags skip (args.take place) = false := by
  have later : ∀ place (places : List Nat), place + 1 ∈ places.map (· + 1) ↔ place ∈ places := by
    simp
  induction args generalizing skip place with
  | nil => simp [operandPlacesAfter]
  | cons first rest ih =>
    cases place with
    | zero => cases skip <;> grind [operandPlacesAfter, takesNext]
    | succ place =>
      rw [List.getElem?_cons_succ, List.take_succ_cons, takesNext, List.foldl_cons, ← takesNext]
      cases skip with
      | true => exact (later _ _).trans ih
      | false =>
        rw [Bool.not_false, Bool.true_and]
        unfold operandPlacesAfter
        split
        next flag => exact flag.symm ▸ (later _ _).trans ih
        next other =>
          rw [Bool.not_eq_true] at other
          rw [other]
          refine Iff.trans ?_ ih
          split
          · simp
          · exact later _ _

theorem operands_keeps (valueFlags args : List String) :
    KeepsOperands valueFlags args (operands valueFlags args) (operandPlaces valueFlags args) := by
  have tokens : (operandPlaces valueFlags args).map (args[·]?) =
      (operands valueFlags args).map some := map_operandPlacesAfter
  constructor
  case tokens => exact tokens
  case ordered => exact pairwise_operandPlacesAfter
  case sublist => exact operandsAfter_sublist
  case operands =>
    intro token kept
    have there : some token ∈ (operandPlaces valueFlags args).map (args[·]?) :=
      tokens ▸ List.mem_map_of_mem kept
    obtain ⟨place, selected, found⟩ := List.mem_map.mp there
    obtain ⟨other, same, operand, _⟩ := mem_operandPlacesAfter_iff.mp selected
    obtain rfl := Option.some.inj (found.symm.trans same)
    exact isOperand_iff.mp operand
  case dropped =>
    intro place token found nonempty plain other
    have operand := isOperand_iff.mpr ⟨nonempty, plain⟩
    rw [operandPlaces, mem_operandPlacesAfter_iff, ← takesNext_iff]
    simp [found, operand, other]

theorem Command.valuePlace_not_mem_operandPlaces {c : Command}
    (read : c.valuePlace flag = some place) : place ∉ operandPlaces [flag] c.args := by
  intro selected
  have present : flag ∈ c.args := by
    by_contra absent
    rw [valuePlace_of_not_mem absent] at read
    cases read
  obtain ⟨front, rest, split, first⟩ := List.eq_append_cons_of_mem present
  obtain rfl := Option.some.inj ((valuePlace_of_split split first).symm.trans read)
  obtain ⟨_, _, _, _, free⟩ := mem_operandPlacesAfter_iff.mp selected
  have before : c.args.take (front.length + 1) = front ++ [flag] := by
    rw [split, List.take_append, List.take_of_length_le (Nat.le_succ _)]
    simp
  rw [before, takesNext_concat, takesNext_of_not_mem first] at free
  simp at free

/-- No token is both the value of a flag and an operand. -/
theorem values_are_no_operands (c : Command) (valueFlags : List String) :
    KeepsOperands valueFlags c.args (operands valueFlags c.args) (operandPlaces valueFlags c.args) ∧
    ∀ flag, ∀ place ∈ c.valuePlace flag, place ∉ operandPlaces [flag] c.args :=
  ⟨operands_keeps valueFlags c.args, fun _ _ read => Command.valuePlace_not_mem_operandPlaces read⟩

/-- A flag that is the value of another takes no value of its own. -/
theorem swallowed_flag_takes_nothing :
    1 ∈ (Command.mk "head" ["-n", "-n", "5", "-n", "6", "notes.txt"] "").valuePlace "-n" ∧
    1 ∉ operandPlaces ["-n"] ["-n", "-n", "5", "-n", "6", "notes.txt"] ∧
    KeepsOperands ["-n"] ["-n", "-n", "5", "-n", "6", "notes.txt"] ["5", "notes.txt"] [2, 5] ∧
    4 ∉ [2, 5] ∧ Odd (flagRun ["-n"] ["-n", "-n", "5", "-n"]) := by
  have read : 1 ∈
      (Command.mk "head" ["-n", "-n", "5", "-n", "6", "notes.txt"] "").valuePlace "-n" := by
    decide
  have ⟨keeps, apart⟩ := values_are_no_operands
    (Command.mk "head" ["-n", "-n", "5", "-n", "6", "notes.txt"] "") ["-n"]
  have kept : operands ["-n"] ["-n", "-n", "5", "-n", "6", "notes.txt"] = ["5", "notes.txt"] := by
    decide
  have places : operandPlaces ["-n"] ["-n", "-n", "5", "-n", "6", "notes.txt"] = [2, 5] := by
    decide +kernel
  dsimp only at keeps
  rw [kept, places] at keeps
  have absent : 4 ∉ [2, 5] := by decide
  have odd := (keeps.dropped 4 "6" rfl (by decide) (by decide) (by decide)).mp absent
  exact ⟨read, apart "-n" 1 read, keeps, absent, odd⟩

end EmulatedShell
