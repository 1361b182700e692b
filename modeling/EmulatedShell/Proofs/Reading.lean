import EmulatedShell.Proofs.Flags
import EmulatedShell.Proofs.Recollection
import EmulatedShell.Proofs.Search
import EmulatedShell.Proofs.Text.Integer
import EmulatedShell.Proofs.Text.Lines

namespace EmulatedShell

/-- The number of lines that a number asks for. One with too many digits is not read, and leaves it
at ten. -/
def linesAsked (k : Int) : Nat := if k.natAbs < 10 ^ digitLimit then k.toNat else 10

/-- What the commands that go by lines print of a file with these lines. -/
structure GoesByLines (i : Invocation) (name : String) (lines : List String) : Prop where
  first : ∀ k : Int, k.natAbs < 10 ^ digitLimit → i.Gives "head" ["-n", toString k, name]
    (joinLines (lines.take (min k.toNat lines.length))) 0
  last : ∀ k : Int, k.natAbs < 10 ^ digitLimit → i.Gives "tail" ["-n", toString k, name]
    (joinLines (lines.drop (lines.length - min k.toNat lines.length))) 0
  unread : ∀ k : Int, 10 ^ digitLimit ≤ k.natAbs →
    i.Gives "head" ["-n", toString k, name] (joinLines (lines.take (min 10 lines.length))) 0 ∧
    i.Gives "tail" ["-n", toString k, name]
      (joinLines (lines.drop (lines.length - min 10 lines.length))) 0
  halves : ∀ k : Nat, k ≤ lines.length → k < 10 ^ digitLimit →
    lines.length - k < 10 ^ digitLimit → ∃ front back, front ++ back = lines ∧ front.length = k ∧
      i.Gives "head" ["-n", toString (k : Int), name] (joinLines front) 0 ∧
      i.Gives "tail" ["-n", toString ((lines.length : Int) - k), name] (joinLines back) 0
  count : i.Gives "wc" ["-l", name] (toString lines.length ++ " " ++ name) 0
  number : i.Gives "cat" ["-n", name]
    (joinLines (lines.mapIdx fun index line =>
      padStart 6 (toString (index + 1)) ++ "\t" ++ line)) 0
  matched : i.Gives "grep" ["-c", "\"\"", name] (toString lines.length)
    (if lines = [] then 1 else 0)

variable {i : Invocation} {name content flag value : String} {lines args : List String}

theorem lineCount_first (k : Int) (command : String) :
    lineCount (i.calling command ["-n", toString k, name]) = linesAsked k := by
  have asked : (i.calling command ["-n", toString k, name]).command.intFlag "-n" 10 =
      parseInt (some (toString k)) 10 := Command.intFlag_first 10 rfl
  rw [lineCount, asked, parseInt, Option.bind_some, leadingInteger_toString, linesAsked]
  split <;> rfl

theorem IsBareOperand.ne_flag (bare : IsBareOperand name) (h : isFlag flag = true) :
    name ≠ flag := by
  rintro rfl
  rw [bare.not_flag] at h
  cases h

theorem IsBareOperand.flag_not_mem (bare : IsBareOperand name) (h : isFlag flag = true)
    (other : flag ∉ args) : flag ∉ args ++ [name] := by
  rw [List.mem_append, List.mem_singleton]
  rintro (present | same)
  · exact other present
  · exact bare.ne_flag h same.symm

theorem IsBareOperand.operands_value (bare : IsBareOperand name) (h : isFlag flag = true)
    (i : Invocation) (command value : String) :
    (i.calling command [flag, value, name]).operands [flag] = [name] := by
  change operands [flag] [flag, value, name] = [name]
  simp [operands, operandsAfter, bare.operand, bare.ne_flag h]

theorem IsBareOperand.operands_flag (bare : IsBareOperand name) (h : isFlag flag = true)
    (i : Invocation) (command : String) :
    (i.calling command [flag, name]).operands [] = [name] := by
  have skipped : isOperand flag = false := by simp [isOperand, h]
  change operands [] [flag, name] = [name]
  simp [operands, operandsAfter, bare.operand, skipped]

theorem Invocation.onContent_of_read {flags others : List String}
    (reply : String → String → Reply) (given : i.operands flags = name :: others)
    (readable : i.disk.read name = some content) :
    i.onContent flags reply = reply name content := by
  rw [onContent, given]
  dsimp only
  rw [readable]

theorem tail_of_read {others : List String} (given : i.operands ["-n"] = name :: others)
    (still : i.command.hasFlag ["-f"] = false) (readable : i.disk.read name = some content) :
    tail i = .ok (joinLines (takeLast (lineCount i) (linesOf content))) := by
  have first : (i.operands ["-n"]).head? = some name := congrArg List.head? given
  simp only [tail, first, still, Option.orElse_eq_orElse, Option.orElse_some, readable,
    Bool.false_eq_true, ↓reduceIte, String.append_empty]

theorem not_follow_toString (bare : IsBareOperand name) (k : Int) :
    (i.calling "tail" ["-n", toString k, name]).command.hasFlag ["-f"] = false := by
  have numeral : toString k ≠ "-f" := by
    intro follow
    have letter : 'f' ∈ (toString k).toList := by
      rw [follow]
      decide
    exact absurd (eq_hyphen_or_isDigit letter) (by decide)
  have other : "-f" ∉ ["-n", toString k] := by
    rw [List.mem_pair]
    rintro (asked | follow)
    · exact absurd asked (by decide)
    · exact numeral follow.symm
  rw [Command.hasFlag_singleton, decide_eq_false_iff_not]
  exact bare.flag_not_mem rfl other

section

variable (bare : IsBareOperand name) (readable : i.disk.read name = some content)

include bare readable

theorem gives_head (k : Int) : i.Gives "head" ["-n", toString k, name]
    (joinLines ((linesOf content).take (linesAsked k))) 0 := by
  apply Invocation.gives_of_plain (builtinUtilities_of_lookup rfl)
  rw [head, Invocation.onContent_of_read _ (bare.operands_value rfl i "head" _) readable,
    lineCount_first, Reply.lines, Reply.outcome_ok]

theorem gives_tail (k : Int) : i.Gives "tail" ["-n", toString k, name]
    (joinLines (takeLast (linesAsked k) (linesOf content))) 0 := by
  apply Invocation.gives_of_plain (builtinUtilities_of_lookup rfl)
  rw [tail_of_read (bare.operands_value rfl i "tail" _) (not_follow_toString bare k) readable,
    lineCount_first, Reply.outcome_ok]

theorem gives_wc : i.Gives "wc" ["-l", name]
    (toString (linesOf content).length ++ " " ++ name) 0 := by
  apply Invocation.gives_of_plain (builtinUtilities_of_lookup rfl)
  rw [wc, Invocation.onContent_of_read _ (bare.operands_flag rfl i "wc") readable]
  rfl

theorem gives_cat : i.Gives "cat" ["-n", name]
    (joinLines (numberLines 6 "\t" (linesOf content))) 0 := by
  apply Invocation.gives_of_plain (builtinUtilities_of_lookup rfl)
  rw [cat, Invocation.onContent_of_read _ (bare.operands_flag rfl i "cat") readable]
  rfl

theorem searches_for_nothing : SearchesFile i ["-c", "\"\"", name] "\"\"" content := by
  have known : ∀ flag ∈ ["-r", "-R", "-ri", "-ir"],
      isFlag flag = true ∧ flag ∉ ["-c", "\"\""] := by
    decide +kernel
  have operands : ["-c", "\"\"", name].filter isOperand = ["\"\"", name] := by
    have flag : isOperand "-c" = false := rfl
    have quotes : isOperand "\"\"" = true := rfl
    simp only [List.filter_cons, flag, quotes, bare.operand, List.filter_nil, ↓reduceIte,
      Bool.false_eq_true]
  constructor
  case flat => exact fun flag hf => bare.flag_not_mem (known flag hf).1 (known flag hf).2
  case operands => exact ⟨name, [], operands, bare.unquote_eq.symm ▸ readable⟩

/-- Every line holds the empty text. -/
theorem gives_grep : i.Gives "grep" ["-c", "\"\"", name] (toString (linesOf content).length)
    (if linesOf content = [] then 1 else 0) := by
  have nothing : unquote "\"\"" = "" := rfl
  have tests : lineTest true (decide ("-i" ∈ ["-c", "\"\"", name])) (unquote "\"\"") =
      .ok (Regex.literal ⟨decide ("-i" ∈ ["-c", "\"\"", name]), false⟩ []).found :=
    nothing ▸ lineTest_of_literal (List.forall_mem_nil _)
  have all : (linesOf content).filter
      (Regex.literal ⟨decide ("-i" ∈ ["-c", "\"\"", name]), false⟩ []).found = linesOf content :=
    List.filter_eq_self.mpr fun line _ =>
      Regex.found_literal_iff.mpr ⟨[], [], line.toList, rfl, .nil⟩
  have known : builtinUtilities.get? "grep" = some (.risky (grep true)) :=
    builtinUtilities_of_lookup rfl
  have selected := (searches_for_nothing bare readable).selects known tests
  rw [all] at selected
  exact selected

end

/-- The commands that go by lines have one notion of a line. -/
theorem reading_goes_by_lines (bare : IsBareOperand name)
    (readable : i.disk.read name = some content) (cut : HasLines content lines) :
    GoesByLines i name lines := by
  obtain rfl := hasLines_iff.mp cut
  have asked : ∀ k : Int, k.natAbs < 10 ^ digitLimit → linesAsked k = k.toNat :=
    fun k short => if_pos short
  have unasked : ∀ k : Int, 10 ^ digitLimit ≤ k.natAbs → linesAsked k = 10 :=
    fun k long => if_neg (Nat.not_lt.mpr long)
  have head : ∀ k : Int, i.Gives "head" ["-n", toString k, name]
      (joinLines ((linesOf content).take (min (linesAsked k) (linesOf content).length))) 0 := by
    intro k
    rw [← List.take_eq_take_min]
    exact gives_head bare readable k
  have tail : ∀ k : Int, i.Gives "tail" ["-n", toString k, name]
      (joinLines ((linesOf content).drop
        ((linesOf content).length - min (linesAsked k) (linesOf content).length))) 0 := by
    intro k
    rw [← takeLast_eq]
    exact gives_tail bare readable k
  constructor
  case first =>
    intro k short
    rw [← asked k short]
    exact head k
  case last =>
    intro k short
    rw [← asked k short]
    exact tail k
  case unread =>
    intro k long
    rw [← unasked k long]
    exact ⟨head k, tail k⟩
  case halves =>
    intro k within short shortRest
    have front := head k
    have back := tail ((linesOf content).length - k)
    rw [asked _ (by omega)] at front back
    have whole : min (k : Int).toNat (linesOf content).length = k := by omega
    have rest : (linesOf content).length -
        min (((linesOf content).length : Int) - k).toNat (linesOf content).length = k := by
      omega
    rw [whole] at front
    rw [rest] at back
    exact ⟨(linesOf content).take k, (linesOf content).drop k, List.take_append_drop k _,
      List.length_take_of_le within, front, back⟩
  case count => exact gives_wc bare readable
  case number =>
    rw [← numberLines_eq_mapIdx]
    exact gives_cat bare readable
  case matched => exact gives_grep bare readable

theorem lt_ten_pow_digitLimit {n : Nat} (h : n < 10 ^ 2) : n < 10 ^ digitLimit :=
  Nat.lt_of_lt_of_le h (Nat.pow_le_pow_right (by decide) (by decide))

theorem breakfast_goes_by_lines :
    IsBareOperand "notes.txt" ∧
    HasLines "tea\rbread\r\n\u2028jam" ["tea", "bread", "", "jam"] ∧
    GoesByLines (beside "notes.txt" "tea\rbread\r\n\u2028jam") "notes.txt"
      ["tea", "bread", "", "jam"] ∧
    (beside "notes.txt" "tea\rbread\r\n\u2028jam").Gives "tail" ["-n", "2", "notes.txt"]
      "\njam" 0 := by
  have bare : IsBareOperand "notes.txt" := .of_head (by decide +kernel) (by decide +kernel)
  have cut : HasLines "tea\rbread\r\n\u2028jam" ["tea", "bread", "", "jam"] :=
    hasLines_iff.mpr (by decide +kernel)
  have whole := reading_goes_by_lines bare (beside_read _ _) cut
  exact ⟨bare, cut, whole, whole.last 2 (lt_ten_pow_digitLimit (by decide))⟩

/-- Eleven numbers, one on a line. -/
def elevenNumbers : List String := (List.range 11).map fun n => toString (n + 1)

/-- A number that is too long to be read does not ask for all lines, and no token asks for a file
without a name. -/
theorem reading_has_exceptions :
    (¬∀ (i : Invocation) (name content : String) (lines : List String),
      IsBareOperand name → i.disk.read name = some content → HasLines content lines →
        ∀ k : Int, i.Gives "head" ["-n", toString k, name]
          (joinLines (lines.take (min k.toNat lines.length))) 0) ∧
    (beside "" "tea").disk.read "" = some "tea" ∧
    (beside "" "tea").Gives "head" ["-n", "1", ""] "head: missing file operand" 1 := by
  refine ⟨?_, beside_read "" "tea",
    Invocation.gives_of_plain (builtinUtilities_of_lookup rfl) (by decide +kernel)⟩
  intro gives
  have bare : IsBareOperand "notes.txt" := .of_head (by decide +kernel) (by decide)
  have cut : linesOf (joinLines elevenNumbers) = elevenNumbers := by decide
  have readable := beside_read "notes.txt" (joinLines elevenNumbers)
  have all := gives _ _ _ _ bare readable (hasLines_iff.mpr cut) ((10 ^ digitLimit : Nat) : Int)
  have ten := gives_head bare readable ((10 ^ digitLimit : Nat) : Int)
  have unread : linesAsked ((10 ^ digitLimit : Nat) : Int) = 10 := if_neg (Nat.lt_irrefl _)
  have enough : min ((10 ^ digitLimit : Nat) : Int).toNat elevenNumbers.length = 11 :=
    Nat.min_eq_right (Nat.le_of_lt (lt_ten_pow_digitLimit (by decide)))
  rw [enough] at all
  rw [unread, cut] at ten
  have same := (all.unique ten).1
  revert same
  decide

end EmulatedShell
