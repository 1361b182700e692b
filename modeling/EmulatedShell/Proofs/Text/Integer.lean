import EmulatedShell.Proofs.Text.Split
import EmulatedShell.Proofs.Unicode.Blank
import EmulatedShell.Text.Integer

namespace EmulatedShell

variable {c : Char} {digits : List Char}

theorem digitValue_of_isDigit (h : c.isDigit = true) :
    digitValue c = some (c.toNat - '0'.toNat) := by
  obtain ⟨low, high⟩ := Char.isDigit_iff_toNat.mp h
  change 48 ≤ c.toNat at low
  change c.toNat ≤ 57 at high
  have value : (c.toNat - 48) % 10 = c.toNat - 48 := by omega
  rw [digitValue, digitRanges, digitValueIn, if_neg (by omega), if_pos high, value]
  rfl

theorem isDigit_of_isDigit (h : c.isDigit = true) : isDigit c = true := by
  rw [isDigit, digitValue_of_isDigit h, Option.isSome_some]

theorem blankRanges_without_digits :
    (blankRanges.all fun range =>
      (List.range' range.1 (range.2 + 1 - range.1)).all fun n =>
        (digitValueIn digitRanges n).isNone) = true := by
  decide +kernel

theorem not_blank_of_isDigit (h : isDigit c = true) : isBlank c = false := by
  rw [Bool.eq_false_iff]
  intro blank
  have other := of_inRanges blankRanges_without_digits blank
  rw [isDigit, digitValue, ← Option.not_isNone, other] at h
  cases h

theorem digitsValue_eq_ofDigitChars (plain : ∀ c ∈ digits, c.isDigit = true) :
    digitsValue digits = Nat.ofDigitChars 10 digits 0 := by
  apply List.foldl_ext
  intro value c hc
  rw [digitValue_of_isDigit (plain c hc), Option.getD_some]

/-- A number is read off the digits after the blanks and the sign, up to what is no digit. -/
theorem leadingInteger_of_run {text rest : List Char} (negative : Bool)
    (signed : takeSign (text.dropWhile isBlank) = (negative, digits ++ rest))
    (run : ∀ c ∈ digits, isDigit c = true) (nonempty : digits ≠ [])
    (ends : ∀ c ∈ rest.head?, isDigit c = false) :
    leadingInteger text = if digits.length ≤ digitLimit then
      some (if negative then -(digitsValue digits : Int) else digitsValue digits) else none := by
  have whole : (digits ++ rest).takeWhile isDigit = digits := takeWhile_append_stop run ends
  have filled : digits.isEmpty = false := by simpa using nonempty
  simp only [leadingInteger, signed, whole, filled, Bool.false_or, decide_eq_true_eq]
  by_cases long : digits.length ≤ digitLimit
  · rw [if_neg (by omega), if_pos long]
  · rw [if_pos (by omega), if_neg long]

theorem leadingInteger_of_signed {text : List Char} (negative : Bool)
    (start : text.dropWhile isBlank = text) (signed : takeSign text = (negative, digits))
    (plain : ∀ c ∈ digits, c.isDigit = true) (nonempty : digits ≠ []) :
    leadingInteger text = if digits.length ≤ digitLimit then
      some (if negative then -(Nat.ofDigitChars 10 digits 0 : Int)
        else Nat.ofDigitChars 10 digits 0) else none := by
  have whole : takeSign (text.dropWhile isBlank) = (negative, digits ++ []) := by
    rw [start, signed, List.append_nil]
  rw [leadingInteger_of_run negative whole (fun c hc => isDigit_of_isDigit (plain c hc)) nonempty
    (by simp), digitsValue_eq_ofDigitChars plain]

theorem takeSign_of_isDigit (plain : ∀ c ∈ digits, c.isDigit = true) :
    takeSign digits = (false, digits) := by
  unfold takeSign
  split
  next rest => exact absurd (plain '-' List.mem_cons_self) (by decide)
  next rest => exact absurd (plain '+' List.mem_cons_self) (by decide)
  next => rfl

theorem dropWhile_blank_of_isDigit (plain : ∀ c ∈ digits, c.isDigit = true) :
    digits.dropWhile isBlank = digits := by
  cases digits with
  | nil => rfl
  | cons c rest =>
    have nonblank := not_blank_of_isDigit (isDigit_of_isDigit (plain c List.mem_cons_self))
    exact List.dropWhile_cons_of_neg (by simp [nonblank])

theorem isDigit_of_mem_toDigits {n : Nat} : ∀ c ∈ Nat.toDigits 10 n, c.isDigit = true :=
  fun _ hc => Nat.isDigit_of_mem_toDigits (by decide) (by decide) hc

theorem not_mem_toString (other : c.isDigit = false) (n : Nat) : c ∉ (toString n).toList := by
  intro h
  rw [Nat.toString_eq_repr, Nat.toList_repr] at h
  rw [isDigit_of_mem_toDigits c h] at other
  cases other

theorem toList_toString_ofNat (n : Nat) :
    (toString (Int.ofNat n)).toList = Nat.toDigits 10 n := Nat.toList_repr

theorem toList_toString_negSucc (n : Nat) :
    (toString (Int.negSucc n)).toList = '-' :: Nat.toDigits 10 (n + 1) := by
  change ("-" ++ (n + 1).repr).toList = _
  rw [String.toList_append, Nat.toList_repr]
  rfl

theorem eq_hyphen_or_isDigit {k : Int} (hc : c ∈ (toString k).toList) :
    c = '-' ∨ c.isDigit = true := by
  cases k with
  | ofNat n =>
    rw [toList_toString_ofNat] at hc
    exact .inr (isDigit_of_mem_toDigits c hc)
  | negSucc n =>
    rw [toList_toString_negSucc] at hc
    exact (List.mem_cons.mp hc).imp_right (isDigit_of_mem_toDigits c)

/-- The digits that are read as a number, and their sign, give back the number. -/
theorem leadingInteger_toString (k : Int) : leadingInteger (toString k).toList =
    if k.natAbs < 10 ^ digitLimit then some k else none := by
  have nonempty : ∀ n : Nat, Nat.toDigits 10 n ≠ [] := fun n => Nat.toDigits_ne_nil
  have short : ∀ n : Nat, (Nat.toDigits 10 n).length ≤ digitLimit ↔ n < 10 ^ digitLimit :=
    fun n => Nat.length_toDigits_le_iff (by decide) (by decide)
  cases k with
  | ofNat n =>
    rw [toList_toString_ofNat, leadingInteger_of_signed false
      (dropWhile_blank_of_isDigit isDigit_of_mem_toDigits)
      (takeSign_of_isDigit isDigit_of_mem_toDigits) isDigit_of_mem_toDigits (nonempty n),
      Nat.ofDigitChars_ten_toDigits]
    simp only [short]
    rfl
  | negSucc n =>
    rw [toList_toString_negSucc, leadingInteger_of_signed true rfl rfl isDigit_of_mem_toDigits
      (nonempty (n + 1)), Nat.ofDigitChars_ten_toDigits]
    simp only [short]
    rfl

end EmulatedShell
