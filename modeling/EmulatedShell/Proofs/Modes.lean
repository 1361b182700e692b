import EmulatedShell.Proofs.Calls
import EmulatedShell.Proofs.Text.Integer
import EmulatedShell.Proofs.Text.Split

namespace EmulatedShell

/-- A mode as a number. -/
structure IsOctalNumeral (mode : String) : Prop where
  size : mode.length = 3 ∨ mode.length = 4
  octal : ∀ c ∈ mode.toList, '0' ≤ c ∧ c ≤ '7'

/-- One change of a mode: for whom, whether to take, to add or to set, and which permissions. -/
def IsChange (text : String) : Prop :=
  ∃ people operator permissions, text.toList = people ++ operator :: permissions ∧
    (∀ c ∈ people, c ∈ "ugoa".toList) ∧ operator ∈ "-+=".toList ∧
    ∀ c ∈ permissions, c ∈ "rwxXst".toList

/-- A mode as changes with commas between them. -/
def IsChangeList (mode : String) : Prop :=
  ∃ changes, changes ≠ [] ∧ mode = joinWith "," changes ∧ ∀ change ∈ changes, IsChange change

/-- A letter for each of nine bits that is set, the highest bit first. -/
def bitLetters (bits : Nat) : String :=
  String.ofList (['r', 'w', 'x', 'r', 'w', 'x', 'r', 'w', 'x'].mapIdx fun place letter =>
    if bits.testBit (8 - place) then letter else '-')

/-- The number that the last three digits of a mode write. -/
def modeValue (mode : String) : Nat := Nat.ofDigitChars 8 (mode.toList.drop (mode.length - 3)) 0

variable {i : Invocation} {mode target : String} {text : List Char} {c : Char}

/-- The end of a text may hide a line feed from a test. -/
theorem allButLastBreak_iff {test : List Char → Bool} {holds : String → Prop}
    (exact : ∀ text, test text.toList = true ↔ holds text) :
    allButLastBreak test mode.toList = true ↔
      holds mode ∨ ∃ front, mode = front ++ "\n" ∧ holds front := by
  rw [allButLastBreak, Bool.or_eq_true, Bool.and_eq_true, beq_iff_eq, exact]
  apply or_congr_right
  constructor
  · rintro ⟨last, passes⟩
    obtain ⟨front, hf⟩ := List.getLast?_eq_some_iff.mp last
    rw [hf, List.dropLast_concat] at passes
    refine ⟨String.ofList front, String.toList_inj.mp ?_, (exact _).mp ?_⟩
    · rw [hf, String.toList_append, String.toList_ofList]
      rfl
    · rwa [String.toList_ofList]
  · rintro ⟨front, rfl, passes⟩
    have last : (front ++ "\n").toList = front.toList ++ ['\n'] := String.toList_append
    rw [last, List.getLast?_concat, List.dropLast_concat, exact]
    exact ⟨rfl, passes⟩

theorem isOctalText_iff (mode : String) : isOctalText mode.toList = true ↔ IsOctalNumeral mode := by
  rw [isOctalText, Bool.and_eq_true, Bool.or_eq_true, beq_iff_eq, beq_iff_eq, String.length_toList,
    List.all_eq_true]
  simp only [Bool.and_eq_true, decide_eq_true_eq]
  exact ⟨fun h => ⟨h.1, h.2⟩, fun h => ⟨h.size, h.octal⟩⟩

instance (mode : String) : Decidable (IsOctalNumeral mode) :=
  decidable_of_iff _ (isOctalText_iff mode)

theorem isModeClause_iff : isModeClause text = true ↔ IsChange (String.ofList text) := by
  rw [IsChange, String.toList_ofList, isModeClause]
  constructor
  · intro accepted
    split at accepted
    next operator permissions rest =>
      rw [Bool.and_eq_true, List.contains_iff_mem, List.all_eq_true] at accepted
      refine ⟨text.takeWhile fun c => "ugoa".toList.contains c, operator, permissions, ?_, ?_,
        accepted.1, fun c hc => List.contains_iff_mem.mp (accepted.2 c hc)⟩
      · rw [← rest, List.takeWhile_append_dropWhile]
      · intro c hc
        exact List.contains_iff_mem.mp (List.mem_takeWhile_imp hc)
    next => cases accepted
  · rintro ⟨people, operator, permissions, rfl, who, known, what⟩
    have stops : ("-+=".toList.all fun c => !"ugoa".toList.contains c) = true := by decide
    have stop : ¬"ugoa".toList.contains operator = true := by
      simpa using List.all_eq_true.mp stops operator known
    have rest : (people ++ operator :: permissions).dropWhile
        (fun c => "ugoa".toList.contains c) = operator :: permissions := by
      rw [List.dropWhile_append_of_pos fun c hc => List.contains_iff_mem.mpr (who c hc),
        List.dropWhile_cons_of_neg stop]
    rw [rest]
    dsimp only
    rw [Bool.and_eq_true, List.contains_iff_mem, List.all_eq_true]
    exact ⟨known, fun c hc => List.contains_iff_mem.mpr (what c hc)⟩

theorem not_comma_of_change {change : String} (h : IsChange change) : ',' ∉ change.toList := by
  obtain ⟨people, operator, permissions, he, who, known, what⟩ := h
  have others : ',' ∉ "ugoa".toList ∧ ',' ∉ "-+=".toList ∧ ',' ∉ "rwxXst".toList := by
    decide
  rw [he, List.mem_append, List.mem_cons]
  rintro (hc | rfl | hc)
  · exact others.1 (who _ hc)
  · exact others.2.1 known
  · exact others.2.2 (what _ hc)

theorem isSymbolicText_iff (mode : String) :
    isSymbolicText mode.toList = true ↔ IsChangeList mode := by
  have all : isSymbolicText mode.toList = true ↔ ∀ change ∈ split ',' mode, IsChange change := by
    rw [isSymbolicText, List.all_eq_true, split]
    simp only [List.forall_mem_map, isModeClause_iff]
  rw [all]
  constructor
  · intro changes
    have nonempty : split ',' mode ≠ [] := by
      rw [split, Ne, List.map_eq_nil_iff]
      exact splitChars_ne_nil ',' mode.toList
    exact ⟨split ',' mode, nonempty, (joinWith_split ',' mode).symm, changes⟩
  · rintro ⟨changes, nonempty, rfl, each⟩
    have pieces : split ',' (joinWith "," changes) = changes :=
      split_joinWith nonempty fun change hc => not_comma_of_change (each change hc)
    rwa [pieces]

instance (mode : String) : Decidable (IsChangeList mode) :=
  decidable_of_iff _ (isSymbolicText_iff mode)

theorem isOctalMode_iff : isOctalMode mode = true ↔
    IsOctalNumeral mode ∨ ∃ front, mode = front ++ "\n" ∧ IsOctalNumeral front :=
  allButLastBreak_iff isOctalText_iff

theorem isSymbolicMode_iff : isSymbolicMode mode = true ↔
    IsChangeList mode ∨ ∃ front, mode = front ++ "\n" ∧ IsChangeList front :=
  allButLastBreak_iff isSymbolicText_iff

theorem IsChangeList.exists_operator (changes : IsChangeList mode) :
    ∃ c ∈ mode.toList, c ∈ "-+=".toList := by
  obtain ⟨list, nonempty, rfl, each⟩ := changes
  obtain ⟨first, rest, rfl⟩ := List.exists_cons_of_ne_nil nonempty
  obtain ⟨people, operator, permissions, he, _, known, _⟩ := each first List.mem_cons_self
  refine ⟨operator, ?_, known⟩
  have there : operator ∈ first.toList := by simp [he]
  cases rest with
  | nil => exact there
  | cons next rest => simp [joinWith, there]

theorem IsChangeList.not_octal (changes : IsChangeList mode) : isOctalMode mode = false := by
  obtain ⟨c, hc, known⟩ := changes.exists_operator
  have others : ("-+=".toList.all fun c => !decide ('0' ≤ c ∧ c ≤ '7') && c != '\n') = true := by
    decide
  have other := List.all_eq_true.mp others c known
  simp only [Bool.and_eq_true, Bool.not_eq_true', decide_eq_false_iff_not, bne_iff_ne] at other
  rw [Bool.eq_false_iff]
  intro octal
  rcases isOctalMode_iff.mp octal with numeral | ⟨front, rfl, numeral⟩
  · exact other.1 (numeral.octal c hc)
  · rw [String.toList_append, List.mem_append] at hc
    rcases hc with hc | hc
    · exact other.1 (numeral.octal c hc)
    · exact other.2 (List.mem_singleton.mp hc)

theorem permissionTriple_eq (digit : Nat) : permissionTriple digit = String.ofList
    [if digit.testBit 2 then 'r' else '-', if digit.testBit 1 then 'w' else '-',
      if digit.testBit 0 then 'x' else '-'] := by
  rw [permissionTriple, Nat.testBit_eq_decide_div_mod_eq, Nat.testBit_eq_decide_div_mod_eq,
    Nat.testBit_eq_decide_div_mod_eq]
  simp only [decide_eq_true_eq, Nat.reducePow, Nat.div_one]
  split <;> split <;> split <;> rfl

theorem testBit_octal {front digit : Nat} (small : digit < 8) (place : Nat) :
    (8 * front + digit).testBit place =
      if place < 3 then digit.testBit place else front.testBit (place - 3) :=
  Nat.testBit_two_pow_mul_add front (i := 3) small place

theorem bitLetters_of_digits {x y z : Nat} (hy : y < 8) (hz : z < 8) :
    bitLetters (8 * (8 * (8 * 0 + x) + y) + z) =
      permissionTriple x ++ permissionTriple y ++ permissionTriple z := by
  apply String.toList_inj.mp
  simp only [bitLetters, permissionTriple_eq, String.toList_append, String.toList_ofList,
    List.mapIdx_cons, List.mapIdx_nil, testBit_octal hy, testBit_octal hz, Nat.reduceSub,
    Nat.reduceAdd, Nat.reduceLT, ↓reduceIte, List.cons_append, List.nil_append, Nat.mul_zero,
    Nat.zero_add]

theorem octal_of_bounds (low : '0' ≤ c) (high : c ≤ '7') :
    digitValue c = some (c.toNat - '0'.toNat) ∧ c.toNat - '0'.toNat < 8 := by
  have least : 48 ≤ c.toNat := low
  have most : c.toNat ≤ 55 := high
  have digit : c.isDigit = true := Char.isDigit_iff_toNat.mpr ⟨least, Nat.le_trans most (by decide)⟩
  refine ⟨digitValue_of_isDigit digit, ?_⟩
  change c.toNat - 48 < 8
  omega

namespace IsOctalNumeral

variable (numeral : IsOctalNumeral mode)

include numeral

theorem exists_digits : ∃ a b c, mode.toList.drop (mode.length - 3) = [a, b, c] ∧
    ∀ d ∈ [a, b, c], digitValue d = some (d.toNat - '0'.toNat) ∧ d.toNat - '0'.toNat < 8 := by
  have three : (mode.toList.drop (mode.length - 3)).length = 3 := by
    rw [List.length_drop, String.length_toList]
    have size := numeral.size
    omega
  obtain ⟨a, b, c, digits⟩ := List.length_eq_three.mp three
  refine ⟨a, b, c, digits, fun d hd => ?_⟩
  obtain ⟨low, high⟩ := numeral.octal d (List.mem_of_mem_drop (digits ▸ hd))
  exact octal_of_bounds low high

theorem symbolicPermissions_eq : symbolicPermissions mode = .ok (bitLetters (modeValue mode)) := by
  obtain ⟨a, b, c, digits, octal⟩ := numeral.exists_digits
  have first := octal a (by simp)
  have second := octal b (by simp)
  have third := octal c (by simp)
  have value : modeValue mode = 8 * (8 * (8 * 0 + (a.toNat - '0'.toNat)) +
      (b.toNat - '0'.toNat)) + (c.toNat - '0'.toNat) := by
    rw [modeValue, digits]
    rfl
  rw [value, bitLetters_of_digits second.2 third.2, symbolicPermissions, digits]
  simp only [List.mapM_cons, first.1, second.1, third.1]
  change Except.ok ("" ++ _ ++ _ ++ _) = _
  rw [String.empty_append]

theorem symbolicPermissions_of_break :
    symbolicPermissions (mode ++ "\n") = .error (.notADigit "\n") := by
  obtain ⟨a, b, c, digits, octal⟩ := numeral.exists_digits
  have second := octal b (by simp)
  have third := octal c (by simp)
  have lineFeed : digitValue '\n' = none := by decide
  have last : (mode ++ "\n").toList.drop ((mode ++ "\n").length - 3) = [b, c, '\n'] := by
    have size := numeral.size
    have place : (mode ++ "\n").length - 3 = mode.length - 3 + 1 := by
      rw [String.length_append]
      change mode.length + 1 - 3 = _
      omega
    have within : mode.length - 3 + 1 ≤ mode.toList.length := by
      rw [String.length_toList]
      omega
    rw [place, String.toList_append, List.drop_append_of_le_length within, ← List.drop_drop, digits]
    rfl
  rw [symbolicPermissions, last]
  simp only [List.mapM_cons, second.1, third.1, lineFeed]
  rfl

end IsOctalNumeral

theorem isOperand_of_plain (nonempty : mode ≠ "") (plain : isFlag mode = false) :
    isOperand mode = true := by
  rw [isOperand, plain, bne_iff_ne.mpr nonempty]
  rfl

theorem chmod_operands (operand : isOperand target = true) :
    (i.calling "chmod" [mode, target]).operands [] =
      if isOperand mode then [mode, target] else [target] := by
  change operands [] [mode, target] = _
  by_cases h : isOperand mode = true <;> simp [operands, operandsAfter, operand, h]

/-- A mode that starts with a hyphen is taken for an option. -/
theorem gives_of_flag (flag : isFlag mode = true) (operand : isOperand target = true) :
    i.Gives "chmod" [mode, target] "chmod: missing operand" 1 := by
  have skipped : isOperand mode = false := by simp [isOperand, flag]
  have single : (i.calling "chmod" [mode, target]).operands [] = [target] := by
    rw [chmod_operands operand, skipped]
    rfl
  have answer : chmod (i.calling "chmod" [mode, target]) = .ok (.missing "chmod" "operand") := by
    rw [chmod, single]
  exact Invocation.gives_of_risky (builtinUtilities_of_lookup rfl) answer rfl

section

variable (given : isOperand mode = true) (operand : isOperand target = true)

include given operand

theorem chmod_eq : chmod (i.calling "chmod" [mode, target]) =
    if isOctalMode mode then (symbolicPermissions mode).map fun letters =>
      .ok ("mode of '" ++ target ++ "' changed to " ++ padZeros 4 mode ++ " (" ++ letters ++ ")")
    else if isSymbolicMode mode then
      .ok (.ok ("mode of '" ++ target ++ "' changed (" ++ mode ++ ")"))
    else .ok (.fail ("chmod: invalid mode: '" ++ mode ++ "'")) := by
  rw [chmod, chmod_operands operand, if_pos given]
  rfl

theorem gives_of_octal (numeral : IsOctalNumeral mode) (octal : isOctalMode mode = true) :
    i.Gives "chmod" [mode, target] ("mode of '" ++ target ++ "' changed to " ++ padZeros 4 mode ++
      " (" ++ bitLetters (modeValue mode) ++ ")") 0 := by
  have answer := chmod_eq (i := i) given operand
  rw [if_pos octal, numeral.symbolicPermissions_eq] at answer
  exact Invocation.gives_of_risky (builtinUtilities_of_lookup rfl) answer rfl

theorem gives_of_changes (octal : isOctalMode mode = false) (changes : isSymbolicMode mode = true) :
    i.Gives "chmod" [mode, target] ("mode of '" ++ target ++ "' changed (" ++ mode ++ ")") 0 := by
  have answer := chmod_eq (i := i) given operand
  rw [octal, changes] at answer
  exact Invocation.gives_of_risky (builtinUtilities_of_lookup rfl) answer rfl

theorem gives_of_invalid (octal : isOctalMode mode = false)
    (changes : isSymbolicMode mode = false) :
    i.Gives "chmod" [mode, target] ("chmod: invalid mode: '" ++ mode ++ "'") 1 := by
  have answer := chmod_eq (i := i) given operand
  rw [octal, changes] at answer
  exact Invocation.gives_of_risky (builtinUtilities_of_lookup rfl) answer rfl

end

theorem IsOctalNumeral.not_flag (numeral : IsOctalNumeral mode) : isFlag mode = false := by
  rw [Bool.eq_false_iff]
  intro flag
  rw [isFlag, beginsWith, List.isPrefixOf_iff_prefix] at flag
  have hyphen : '-' ∈ mode.toList := flag.subset (by decide)
  exact absurd (numeral.octal _ hyphen) (by decide)

theorem accepted_of_gives {output : String} (nonempty : mode ≠ "")
    (unbroken : ¬∃ changes, IsChangeList changes ∧ mode = changes ++ "\n")
    (operand : isOperand target = true) (accepted : i.Gives "chmod" [mode, target] output 0) :
    isFlag mode = false ∧ (IsOctalNumeral mode ∨ IsChangeList mode) := by
  have refused : ∀ complaint, ¬i.Gives "chmod" [mode, target] complaint 1 := by
    intro complaint failed
    exact absurd (accepted.unique failed).2 (by decide)
  have plain : isFlag mode = false := by
    rw [Bool.eq_false_iff]
    exact fun flag => refused _ (gives_of_flag flag operand)
  have given : isOperand mode = true := isOperand_of_plain nonempty plain
  refine ⟨plain, ?_⟩
  by_cases octal : isOctalMode mode = true
  · rcases isOctalMode_iff.mp octal with numeral | ⟨front, rfl, numeral⟩
    · exact .inl numeral
    · -- A number before a line feed passes for a number, but the line feed is no digit.
      have breaks := chmod_eq (i := i) given operand
      rw [if_pos octal, numeral.symbolicPermissions_of_break] at breaks
      exact absurd accepted (Invocation.not_gives_of_risky (builtinUtilities_of_lookup rfl) breaks)
  · rw [Bool.not_eq_true] at octal
    by_cases changes : isSymbolicMode mode = true
    · rcases isSymbolicMode_iff.mp changes with list | ⟨front, broken, list⟩
      · exact .inr list
      · exact absurd ⟨front, list, broken⟩ unbroken
    · rw [Bool.not_eq_true] at changes
      exact absurd (gives_of_invalid given operand octal changes) (refused _)

/-- A mode is accepted if it is a number or a list of changes, unless it looks like an option. -/
theorem chmod_accepts_iff (nonempty : mode ≠ "")
    (unbroken : ¬∃ changes, IsChangeList changes ∧ mode = changes ++ "\n")
    (operand : isOperand target = true) :
    ((∃ output, i.Gives "chmod" [mode, target] output 0) ↔
      isFlag mode = false ∧ (IsOctalNumeral mode ∨ IsChangeList mode)) ∧
    (IsOctalNumeral mode → i.Gives "chmod" [mode, target]
      ("mode of '" ++ target ++ "' changed to " ++ padZeros 4 mode ++ " (" ++
        bitLetters (modeValue mode) ++ ")") 0) ∧
    (isFlag mode = true → i.Gives "chmod" [mode, target] "chmod: missing operand" 1) := by
  have number : IsOctalNumeral mode → i.Gives "chmod" [mode, target]
      ("mode of '" ++ target ++ "' changed to " ++ padZeros 4 mode ++ " (" ++
        bitLetters (modeValue mode) ++ ")") 0 := by
    intro numeral
    have given := isOperand_of_plain nonempty numeral.not_flag
    exact gives_of_octal given operand numeral (isOctalMode_iff.mpr (.inl numeral))
  refine ⟨⟨?_, ?_⟩, number, fun flag => gives_of_flag flag operand⟩
  · rintro ⟨output, accepted⟩
    exact accepted_of_gives nonempty unbroken operand accepted
  · rintro ⟨plain, numeral | changes⟩
    · exact ⟨_, number numeral⟩
    · have list := isSymbolicMode_iff.mpr (.inl changes)
      exact ⟨_, gives_of_changes (isOperand_of_plain nonempty plain) operand changes.not_octal list⟩

theorem chmod_accepts_usual :
    IsOctalNumeral "2750" ∧ (¬∃ changes, IsChangeList changes ∧ "2750" = changes ++ "\n") ∧
    isOperand "script.sh" = true ∧
    (beside "script.sh" "").Gives "chmod" ["2750", "script.sh"]
      "mode of 'script.sh' changed to 2750 (rwxr-x---)" 0 := by
  have numeral : IsOctalNumeral "2750" := by decide
  have operand : isOperand "script.sh" = true := by decide
  have nonempty : "2750" ≠ "" := by decide
  have unbroken : ¬∃ changes, IsChangeList changes ∧ "2750" = changes ++ "\n" := by
    rintro ⟨changes, _, broken⟩
    have last : '\n' ∈ "2750".toList := by
      rw [broken, String.toList_append]
      exact List.mem_append_right _ (by decide)
    exact absurd last (by decide)
  obtain ⟨_, number, _⟩ := chmod_accepts_iff (i := beside "script.sh" "") nonempty unbroken operand
  exact ⟨numeral, unbroken, operand, number numeral⟩

/-- A change that takes permissions from everybody is a list of changes, and is not accepted. -/
theorem chmod_refuses_removal : ¬∀ (i : Invocation) (mode target : String), mode ≠ "" →
    ' ' ∉ mode.toList → isOperand target = true → ' ' ∉ target.toList →
      ((∃ output, i.Gives "chmod" [mode, target] output 0) ↔
        IsOctalNumeral mode ∨ IsChangeList mode) := by
  intro accepts
  have changes : IsChangeList "-x" := by decide
  have operand : isOperand "script.sh" = true := by decide
  obtain ⟨output, accepted⟩ := (accepts (beside "script.sh" "") "-x" "script.sh" (by decide)
    (by decide) operand (by decide +kernel)).mpr (.inr changes)
  exact absurd (accepted.unique (gives_of_flag (by decide) operand)).2 (by decide)

end EmulatedShell
