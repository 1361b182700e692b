import EmulatedShell.Proofs.Calls
import EmulatedShell.Proofs.Faults
import EmulatedShell.Proofs.Regex.Literal

namespace EmulatedShell

/-- The characters that no literal pattern holds, those that close what others open included. -/
def metacharacters : List Char := "\\.^$*+?\x7b\x7d[]|()".toList

/-- A pattern that stands for its own characters. -/
structure IsLiteral (pattern : String) : Prop extends IsBareOperand pattern where
  plain : ∀ c ∈ pattern.toList, c ∉ metacharacters

/-- Tokens that ask for a search for one of them in one file that can be read. -/
structure SearchesFile (i : Invocation) (args : List String) (typed content : String) : Prop where
  flat : ∀ flag ∈ ["-r", "-R", "-ri", "-ir"], flag ∉ args
  operands : ∃ file others, args.filter isOperand = typed :: file :: others ∧
    i.disk.read (unquote file) = some content

/-- A search prints the lines that it selects, or how many there are if it is asked to count, and
succeeds if there are any. -/
def Invocation.Selects (i : Invocation) (name : String) (args lines : List String) : Prop :=
  i.Gives name args (if "-c" ∈ args then toString lines.length else joinLines lines)
    (if lines = [] then 1 else 0)

variable {i : Invocation} {name typed pattern content : String} {args lines : List String}
variable {asPattern ignoreCase : Bool}

theorem IsLiteral.not_special (literal : IsLiteral pattern) :
    ∀ c ∈ pattern.toList, isSpecial c = false := by
  have known : ".\\[\x7b()*+?^$|".toList ⊆ metacharacters := by decide
  intro c hc
  rw [Bool.eq_false_iff]
  intro special
  exact literal.plain c hc (known (List.contains_iff_mem.mp special))

theorem IsLiteral.of_head (operand : isOperand pattern = true)
    (head : pattern.toList.head?.any isQuote = false)
    (plain : (pattern.toList.all fun c => !metacharacters.contains c) = true) :
    IsLiteral pattern := by
  refine ⟨.of_head operand head, fun c hc special => ?_⟩
  have other := List.all_eq_true.mp plain c hc
  rw [List.contains_iff_mem.mpr special] at other
  cases other

theorem Command.hasFlag_singleton (c : Command) (flag : String) :
    c.hasFlag [flag] = decide (flag ∈ c.args) := by
  simp [hasFlag]

/-- A search reads its pattern as a test of lines, and selects those that pass. -/
theorem SearchesFile.selects (searches : SearchesFile i args typed content)
    (known : builtinUtilities.get? name = some (.risky (grep asPattern))) {test : String → Bool}
    (tests : lineTest asPattern (decide ("-i" ∈ args)) (unquote typed) = .ok test) :
    i.Selects name args ((linesOf content).filter test) := by
  obtain ⟨file, others, operands, readable⟩ := searches.operands
  have flat : (i.calling name args).command.hasFlag ["-r", "-R", "-ri", "-ir"] = false := by
    apply List.any_eq_false.mpr
    intro flag hf present
    exact searches.flat flag hf (List.contains_iff_mem.mp present)
  have words : searchOperands (i.calling name args) =
      unquote typed :: unquote file :: others.map unquote := by
    change (args.filter isOperand).map unquote = _
    rw [operands]
    rfl
  have found : grep asPattern (i.calling name args) = _ := grep_of_file flat words readable
  rw [Command.hasFlag_singleton] at found
  change _ = (lineTest asPattern (decide ("-i" ∈ args)) (unquote typed)).map _ at found
  rw [tests] at found
  apply Invocation.gives_of_risky known found
  simp only [foundReply, Command.hasFlag_singleton, Reply.outcome, Outcome.mk.injEq, and_true,
    decide_eq_true_eq]
  refine ⟨rfl, ?_⟩
  cases (linesOf content).filter test <;> rfl

theorem Invocation.Selects.empty_iff {others : List String} (h : i.Selects name args lines)
    (h' : i.Selects name args others) : lines = [] ↔ others = [] := by
  have codes := (h.unique h').2
  by_cases hl : lines = [] <;> by_cases ho : others = [] <;> simp_all

theorem lineTest_of_literal (plain : ∀ c ∈ pattern.toList, isSpecial c = false) :
    lineTest true ignoreCase pattern =
      .ok (Regex.literal ⟨ignoreCase, false⟩ pattern.toList).found := by
  simp only [lineTest, ↓reduceIte, Regex.parse_of_plain ignoreCase plain]

theorem filter_eq_of_iff {test : String → Bool} {holds : String → Prop} [DecidablePred holds]
    (same : ∀ line, test line = true ↔ holds line) : lines.filter test =
      lines.filter fun line => holds line :=
  List.filter_congr fun line _ => Bool.eq_iff_iff.mpr ((same line).trans decide_eq_true_iff.symm)

theorem SearchesFile.selects_as_pattern (literal : IsLiteral pattern)
    (searches : SearchesFile i args pattern content)
    (known : builtinUtilities.get? name = some (.risky (grep true))) :
    i.Selects name args ((linesOf content).filter fun line =>
      Alphabet.Finds ⟨decide ("-i" ∈ args), false⟩ pattern.toList line.toList) := by
  have tests : lineTest true (decide ("-i" ∈ args)) (unquote pattern) =
      .ok (Regex.literal ⟨decide ("-i" ∈ args), false⟩ pattern.toList).found := by
    rw [literal.unquote_eq, lineTest_of_literal literal.not_special]
  have selected := searches.selects known tests
  rwa [filter_eq_of_iff fun line => Regex.found_literal_iff] at selected

theorem SearchesFile.selects_as_text (literal : IsLiteral pattern)
    (searches : SearchesFile i args pattern content)
    (known : builtinUtilities.get? name = some (.risky (grep false))) :
    i.Selects name args
      ((linesOf content).filter (holdsText (decide ("-i" ∈ args)) pattern)) := by
  have tests : lineTest false (decide ("-i" ∈ args)) (unquote pattern) =
      .ok (holdsText (decide ("-i" ∈ args)) pattern) := by
    rw [literal.unquote_eq]
    rfl
  exact searches.selects known tests

end EmulatedShell
